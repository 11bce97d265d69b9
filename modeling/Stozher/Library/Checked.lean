import Mathlib.Logic.Basic
import Mathlib.Data.List.Basic
import Mathlib.Data.List.Forall2

namespace Stozher.Library

variable {ε α β : Type}


/-- Lets a check through or stops with its refusal. -/
def require (condition : Prop) [Decidable condition] (refusal : ε) : Except ε Unit :=
  if condition then .ok () else .error refusal

/-- Reads a value that may be missing, or stops with a refusal. -/
def okOr (found : Option α) (refusal : ε) : Except ε α :=
  match found with
  | some value => .ok value
  | none => .error refusal

/-- Runs one check per element, in order, and stops at the first refusal. -/
def forEach (check : α → Except ε Unit) : List α → Except ε Unit
  | [] => .ok ()
  | first :: rest => do
      check first
      forEach check rest

/-- Threads a value through one fallible step per element, in order. -/
def foldChecked (step : β → α → Except ε β) : β → List α → Except ε β
  | state, [] => .ok state
  | state, first :: rest => do
      let next ← step state first
      foldChecked step next rest

/-- Maps a fallible function over a list, in order. -/
def mapChecked (f : α → Except ε β) : List α → Except ε (List β)
  | [] => .ok []
  | first :: rest => do
      let mapped ← f first
      let others ← mapChecked f rest
      return mapped :: others

/-- Whether a fallible test holds of every element, stopping where it fails or does not hold. -/
def everyChecked (test : α → Except ε Bool) : List α → Except ε Bool
  | [] => .ok true
  | first :: rest => do
      let holds ← test first
      if holds then everyChecked test rest else return false

def isOk : Except ε α → Bool
  | .ok _ => true
  | .error _ => false

theorem bind_eq_ok {x : Except ε α} {f : α → Except ε β} {b : β} :
    (x >>= f) = .ok b ↔ ∃ a, x = .ok a ∧ f a = .ok b := by
  cases x with
  | error e => simp [Bind.bind, Except.bind]
  | ok a => simp [Bind.bind, Except.bind]

theorem map_eq_ok {x : Except ε α} {f : α → β} {b : β} :
    (f <$> x) = .ok b ↔ ∃ a, x = .ok a ∧ f a = b := by
  cases x with
  | error e => simp [Functor.map, Except.map]
  | ok a => simp [Functor.map, Except.map]

theorem bind_congr_ok {x : Except ε α} {f g : α → Except ε β} (same : ∀ a, x = .ok a → f a = g a) :
    (x >>= f) = (x >>= g) := by
  cases x with
  | error refusal => rfl
  | ok a => exact same a rfl

theorem pure_eq_ok {a b : α} : (pure a : Except ε α) = .ok b ↔ a = b := by
  simp [pure, Except.pure]

@[simp] theorem ok_bind {a : α} {f : α → Except ε β} : (Except.ok a >>= f) = f a := rfl

@[simp] theorem error_bind {e : ε} {f : α → Except ε β} : (Except.error e >>= f) = .error e := rfl

@[simp] theorem isOk_ok {a : α} : isOk (Except.ok a : Except ε α) = true := rfl

@[simp] theorem isOk_error {e : ε} : isOk (Except.error e : Except ε α) = false := rfl

theorem isOk_iff {x : Except ε α} : isOk x = true ↔ ∃ a, x = .ok a := by
  cases x <;> simp

theorem toOption_eq_some {x : Except ε α} {a : α} : x.toOption = some a ↔ x = .ok a := by
  cases x with
  | error e => exact iff_of_false nofun nofun
  | ok other => exact ⟨fun same => congrArg Except.ok (Option.some.inj same), fun same => congrArg some (Except.ok.inj same)⟩

theorem require_eq_ok {condition : Prop} [Decidable condition] {refusal : ε} {u : Unit} :
    require condition refusal = .ok u ↔ condition := by
  unfold require
  split <;> simp_all

theorem require_bind_eq_ok {condition : Prop} [Decidable condition] {refusal : ε}
    {f : Unit → Except ε β} {b : β} :
    (require condition refusal >>= f) = .ok b ↔ condition ∧ f () = .ok b := by
  rw [bind_eq_ok]
  constructor
  · rintro ⟨u, passed, rest⟩
    exact ⟨require_eq_ok.mp passed, rest⟩
  · rintro ⟨holds, rest⟩
    exact ⟨(), require_eq_ok.mpr holds, rest⟩

theorem okOr_eq_ok {found : Option α} {refusal : ε} {a : α} :
    okOr found refusal = .ok a ↔ found = some a := by
  cases found <;> simp [okOr]

theorem okOr_bind_eq_ok {found : Option α} {refusal : ε} {f : α → Except ε β} {b : β} :
    (okOr found refusal >>= f) = .ok b ↔ ∃ a, found = some a ∧ f a = .ok b := by
  simp only [bind_eq_ok, okOr_eq_ok]

theorem forEach_eq_ok {check : α → Except ε Unit} {items : List α} {u : Unit} :
    forEach check items = .ok u ↔ ∀ item ∈ items, check item = .ok () := by
  induction items with
  | nil => simp [forEach]
  | cons first rest ih =>
      rw [forEach, bind_eq_ok, List.forall_mem_cons]
      constructor
      · rintro ⟨_, head, tail⟩
        exact ⟨head, ih.mp tail⟩
      · rintro ⟨head, tail⟩
        exact ⟨(), head, ih.mpr tail⟩

theorem forEach_congr {check other : α → Except ε Unit} {items : List α}
    (same : ∀ item ∈ items, check item = other item) : forEach check items = forEach other items := by
  induction items with
  | nil => rfl
  | cons first rest ih =>
      show (check first >>= fun _ => forEach check rest) = (other first >>= fun _ => forEach other rest)
      rw [same first List.mem_cons_self, ih fun item member => same item (List.mem_cons_of_mem _ member)]

theorem forEach_map {check : β → Except ε Unit} {f : α → β} {items : List α} :
    forEach check (items.map f) = forEach (fun item => check (f item)) items := by
  induction items with
  | nil => rfl
  | cons first rest ih =>
      show (check (f first) >>= fun _ => forEach check (rest.map f)) = _
      rw [ih]
      rfl

/-- Checks that pass what is left out give what they give over the rest. -/
theorem forEach_filter {check : α → Except ε Unit} {keep : α → Bool} {items : List α}
    (passes : ∀ item ∈ items, keep item = false → check item = .ok ()) :
    forEach check (items.filter keep) = forEach check items := by
  induction items with
  | nil => rfl
  | cons first rest ih =>
      have later := ih fun item member => passes item (List.mem_cons_of_mem _ member)
      cases kept : keep first with
      | true =>
          rw [List.filter_cons_of_pos kept]
          show (check first >>= fun _ => forEach check (rest.filter keep)) = (check first >>= fun _ => forEach check rest)
          rw [later]
      | false =>
          rw [List.filter_cons_of_neg (by rw [kept]; decide), later]
          show _ = (check first >>= fun _ => forEach check rest)
          rw [passes first List.mem_cons_self kept]
          rfl

theorem mapError_eq_ok {ε' : Type} {x : Except ε α} {f : ε → ε'} {a : α} :
    x.mapError f = .ok a ↔ x = .ok a := by
  cases x <;> simp [Except.mapError]

theorem foldChecked_nil {step : β → α → Except ε β} {state : β} :
    foldChecked step state [] = .ok state := rfl

theorem foldChecked_cons {step : β → α → Except ε β} {state : β} {first : α} {rest : List α} :
    foldChecked step state (first :: rest) = (step state first >>= fun next => foldChecked step next rest) :=
  rfl

theorem foldChecked_append {step : β → α → Except ε β} {first second : List α} {state : β} :
    foldChecked step state (first ++ second) =
      (foldChecked step state first >>= fun next => foldChecked step next second) := by
  induction first generalizing state with
  | nil => rfl
  | cons head tail ih =>
      rw [List.cons_append, foldChecked_cons, foldChecked_cons]
      cases step state head with
      | error e => rfl
      | ok next => exact ih

theorem foldChecked_map {γ : Type} {step : β → α → Except ε β} {f : γ → α} {items : List γ} {state : β} :
    foldChecked step state (items.map f) = foldChecked (fun state item => step state (f item)) state items := by
  induction items generalizing state with
  | nil => rfl
  | cons first rest ih =>
      rw [List.map_cons, foldChecked_cons, foldChecked_cons]
      exact congrArg _ (funext fun next => ih)

theorem foldChecked_flatMap {γ : Type} {step : β → α → Except ε β} {f : γ → List α} {items : List γ}
    {state : β} : foldChecked step state (items.flatMap f) =
      foldChecked (fun state item => foldChecked step state (f item)) state items := by
  induction items generalizing state with
  | nil => rfl
  | cons first rest ih =>
      rw [List.flatMap_cons, foldChecked_append, foldChecked_cons]
      exact congrArg _ (funext fun next => ih)

theorem everyChecked_eq_true {test : α → Except ε Bool} {items : List α} :
    everyChecked test items = .ok true ↔ ∀ item ∈ items, test item = .ok true := by
  induction items with
  | nil => simp [everyChecked]
  | cons first rest ih =>
      rw [everyChecked, bind_eq_ok, List.forall_mem_cons]
      constructor
      · rintro ⟨holds, tested, remaining⟩
        cases holds with
        | false => simp [pure, Except.pure] at remaining
        | true => exact ⟨tested, ih.mp remaining⟩
      · rintro ⟨tested, others⟩
        exact ⟨true, tested, ih.mpr others⟩

theorem mapChecked_eq_ok {f : α → Except ε β} {items : List α} {mapped : List β} :
    mapChecked f items = .ok mapped ↔ List.Forall₂ (fun a b => f a = .ok b) items mapped := by
  induction items generalizing mapped with
  | nil =>
      simp only [mapChecked, Except.ok.injEq, List.forall₂_nil_left_iff]
      exact eq_comm
  | cons first rest ih =>
      simp only [mapChecked, bind_eq_ok, pure_eq_ok, List.forall₂_cons_left_iff]
      constructor
      · rintro ⟨b, head, others, tail, rfl⟩
        exact ⟨b, others, head, ih.mp tail, rfl⟩
      · rintro ⟨b, others, head, tail, rfl⟩
        exact ⟨b, head, others, ih.mpr tail, rfl⟩

theorem mapChecked_ok {f : α → Except ε β} {items : List α} {g : α → β} (each : ∀ item ∈ items, f item = .ok (g item)) :
    mapChecked f items = .ok (items.map g) := by
  induction items with
  | nil => rfl
  | cons first rest ih =>
      unfold mapChecked
      rw [each first List.mem_cons_self, ih fun item member => each item (List.mem_cons_of_mem _ member)]
      rfl

theorem mapChecked_map {f : α → Except ε β} {γ : Type} (h : γ → α) (list : List γ) :
    mapChecked f (list.map h) = mapChecked (fun c => f (h c)) list := by
  induction list with
  | nil => rfl
  | cons first rest ih =>
      rw [List.map_cons]
      unfold mapChecked
      rw [ih]

/-- Where every item has a value or the one error, and some item the error. -/
theorem mapChecked_error {f : α → Except ε β} {items : List α} {e : ε}
    (each : ∀ item ∈ items, f item = .error e ∨ ∃ b, f item = .ok b) (fails : ∃ item ∈ items, f item = .error e) :
    mapChecked f items = .error e := by
  induction items with
  | nil =>
      obtain ⟨item, member, _⟩ := fails
      cases member
  | cons first rest ih =>
      unfold mapChecked
      rcases each first List.mem_cons_self with failed | ⟨b, passed⟩
      · rw [failed]
        rfl
      · have later : ∃ item ∈ rest, f item = .error e := by
          obtain ⟨item, member, failed⟩ := fails
          rcases List.mem_cons.mp member with rfl | within
          · rw [failed] at passed
            cases passed
          · exact ⟨item, within, failed⟩
        rw [passed, ih (fun item member => each item (List.mem_cons_of_mem _ member)) later]
        rfl

/-- A property every step keeps holds of what the whole fold ends with. -/
theorem foldChecked_invariant {step : β → α → Except ε β} (holds : β → Prop) {items : List α}
    (keeps : ∀ state item next, item ∈ items → holds state → step state item = .ok next → holds next)
    {state result : β} (start : holds state) (run : foldChecked step state items = .ok result) :
    holds result := by
  induction items generalizing state with
  | nil =>
      simp only [foldChecked_nil, Except.ok.injEq] at run
      exact run ▸ start
  | cons first rest ih =>
      rw [foldChecked_cons, bind_eq_ok] at run
      obtain ⟨next, stepped, remaining⟩ := run
      refine ih (fun s i n member => keeps s i n (List.mem_cons_of_mem _ member)) ?_ remaining
      exact keeps state first next List.mem_cons_self start stepped

end Stozher.Library
