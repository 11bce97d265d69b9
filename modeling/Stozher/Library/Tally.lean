import Mathlib.Algebra.BigOperators.Group.List.Basic
import Mathlib.Data.List.Perm.Basic
import Stozher.Library.Checked

namespace Stozher.Library

variable {α ε M : Type}

/-- Adds an amount to what is held, where anything is. -/
def addTo (add : α → α → Except ε α) : Option α → α → Except ε (Option α)
  | none, amount => .ok (some amount)
  | some held, amount => do return some (← add held amount)

/-- What amounts come to, one after another. -/
def tally (add : α → α → Except ε α) (amounts : List α) : Except ε (Option α) :=
  foldChecked (addTo add) none amounts

theorem tally_ne_none {add : α → α → Except ε α} {first : α} {rest : List α} :
    tally add (first :: rest) ≠ .ok none := by
  intro run
  unfold tally at run
  rw [foldChecked_cons, addTo, ok_bind] at run
  have held : ∀ result, foldChecked (addTo add) (some first) rest = .ok result → result.isSome = true := by
    intro result
    refine foldChecked_invariant (fun held : Option α => held.isSome = true) ?_ rfl
    intro state item next _ _ step
    unfold addTo at step
    cases state with
    | none =>
        cases step
        rfl
    | some amount =>
        rw [bind_eq_ok] at step
        obtain ⟨sum, _, done⟩ := step
        cases done
        rfl
  cases held none run

/-- An addition of texts that stands for an addition of quantities, as far as the sum fits. -/
structure Adds [AddCommMonoid M] (add : α → α → Except ε α) (denotes : α → M → Prop) (fits : M → Prop) :
    Prop where
  unique : ∀ {a : α} {x y : M}, denotes a x → denotes a y → x = y
  sum : ∀ {a b : α} {x y : M}, denotes a x → denotes b y → fits (x + y) →
    ∃ total, add a b = .ok total ∧ denotes total (x + y)
  fit : ∀ {a b total : α} {x y : M}, denotes a x → denotes b y → add a b = .ok total → fits (x + y)
  part : ∀ {x y : M}, fits (x + y) → fits x
  operands : ∀ {a b total : α}, add a b = .ok total → ∃ x y, denotes a x ∧ denotes b y

/-- Two amounts that stand for one quantity. -/
def SameQuantity (denotes : α → M → Prop) (a b : α) : Prop :=
  ∃ x, denotes a x ∧ denotes b x

namespace Adds

theorem quantities {denotes : α → M → Prop} {amounts : List α} (known : ∀ amount ∈ amounts, ∃ x, denotes amount x) :
    ∃ xs, List.Forall₂ denotes amounts xs := by
  induction amounts with
  | nil => exact ⟨[], .nil⟩
  | cons first rest ih =>
      obtain ⟨x, isFirst⟩ := known first List.mem_cons_self
      obtain ⟨xs, areRest⟩ := ih fun amount member => known amount (List.mem_cons_of_mem _ member)
      exact ⟨x :: xs, .cons isFirst areRest⟩

variable [AddCommMonoid M] {add : α → α → Except ε α} {denotes : α → M → Prop} {fits : M → Prop}

theorem total (adds : Adds add denotes fits) {a b total : α} {x y : M} (left : denotes a x) (right : denotes b y)
    (added : add a b = .ok total) : denotes total (x + y) := by
  obtain ⟨other, sum, isSum⟩ := adds.sum left right (adds.fit left right added)
  cases added.symm.trans sum
  exact isSum

/-- Added to a held amount, amounts come to a sum exactly when it fits. -/
theorem tally_some (adds : Adds add denotes fits) {held : α} {x : M} {amounts : List α} {xs : List M}
    (start : denotes held x) (known : List.Forall₂ denotes amounts xs) :
    (∀ result, foldChecked (addTo add) (some held) amounts = .ok result →
        (amounts = [] ∨ fits (x + xs.sum)) ∧ ∃ total, result = some total ∧ denotes total (x + xs.sum)) ∧
      (fits (x + xs.sum) → ∃ result, foldChecked (addTo add) (some held) amounts = .ok result) := by
  induction known generalizing held x with
  | nil =>
      rw [List.sum_nil, add_zero]
      refine ⟨?_, fun _ => ⟨some held, rfl⟩⟩
      intro result run
      cases run
      exact ⟨.inl rfl, held, rfl, start⟩
  | @cons amount y amounts ys first rest ih =>
      rw [List.sum_cons, ← add_assoc]
      constructor
      · intro result run
        rw [foldChecked_cons, bind_eq_ok] at run
        obtain ⟨next, step, run⟩ := run
        unfold addTo at step
        rw [bind_eq_ok] at step
        obtain ⟨sum, added, done⟩ := step
        cases done
        have isSum := adds.total start first added
        obtain ⟨fitting, sums⟩ := (ih isSum).1 result run
        refine ⟨.inr ?_, sums⟩
        rcases fitting with empty | fitting
        · subst empty
          cases rest
          rw [List.sum_nil, add_zero]
          exact adds.fit start first added
        · exact fitting
      · intro fitting
        obtain ⟨sum, added, isSum⟩ := adds.sum start first (adds.part fitting)
        obtain ⟨result, run⟩ := (ih isSum).2 fitting
        refine ⟨result, ?_⟩
        rw [foldChecked_cons, addTo, added, ok_bind, pure, Applicative.toPure, Monad.toApplicative]
        exact run

/-- Amounts come to their sum, and do so exactly when there is one of them at most or the sum fits. -/
theorem tally_spec (adds : Adds add denotes fits) {amounts : List α} {xs : List M} (known : List.Forall₂ denotes amounts xs) :
    (∀ result, tally add amounts = .ok result → (amounts.length ≤ 1 ∨ fits xs.sum) ∧
        ((amounts = [] ∧ result = none) ∨ ∃ total, result = some total ∧ denotes total xs.sum)) ∧
      (amounts.length ≤ 1 ∨ fits xs.sum → ∃ result, tally add amounts = .ok result) := by
  unfold tally
  cases known with
  | nil =>
      refine ⟨?_, fun _ => ⟨none, rfl⟩⟩
      intro result run
      cases run
      exact ⟨.inl (Nat.zero_le 1), .inl ⟨rfl, rfl⟩⟩
  | @cons amount x amounts xs first rest =>
      have later := adds.tally_some first rest
      rw [foldChecked_cons, addTo, ok_bind, List.sum_cons]
      constructor
      · intro result run
        obtain ⟨fitting, sums⟩ := later.1 result run
        refine ⟨?_, .inr sums⟩
        rcases fitting with empty | fitting
        · rw [empty]
          exact .inl (Nat.le_refl 1)
        · exact .inr fitting
      · intro fitting
        rcases fitting with short | fitting
        · have empty : amounts = [] := List.length_eq_zero_iff.mp (by simpa using short)
          rw [empty]
          exact ⟨some amount, rfl⟩
        · exact later.2 fitting

/-- Amounts that come to a quantity are quantities themselves. -/
theorem denoted (adds : Adds add denotes fits) {amounts : List α} {total : α}
    (run : tally add amounts = .ok (some total)) (known : ∃ x, denotes total x) :
    ∀ amount ∈ amounts, ∃ x, denotes amount x := by
  have later : ∀ (rest : List α) (held : α), foldChecked (addTo add) (some held) rest = .ok (some total) →
      ∀ amount ∈ held :: rest, ∃ x, denotes amount x := by
    intro rest
    induction rest with
    | nil =>
        intro held same
        cases same
        intro amount member
        rw [List.mem_singleton.mp member]
        exact known
    | cons next rest ih =>
        intro held run
        rw [foldChecked_cons, addTo, bind_eq_ok] at run
        obtain ⟨sum, added, run⟩ := run
        rw [bind_eq_ok] at added
        obtain ⟨sum, added, done⟩ := added
        cases done
        obtain ⟨x, y, isHeld, isNext⟩ := adds.operands added
        have others := ih sum run
        intro amount member
        rcases List.mem_cons.mp member with rfl | member
        · exact ⟨x, isHeld⟩
        · rcases List.mem_cons.mp member with rfl | member
          · exact ⟨y, isNext⟩
          · exact others amount (List.mem_cons_of_mem _ member)
  cases amounts with
  | nil =>
      intro amount member
      cases member
  | cons first rest => exact later rest first run

/-- The order of amounts does not matter to what they come to. -/
theorem tally_perm (adds : Adds add denotes fits) {amounts others : List α} {result : Option α}
    (known : ∀ amount ∈ amounts, ∃ x, denotes amount x) (same : others.Perm amounts)
    (run : tally add amounts = .ok result) :
    ∃ other, tally add others = .ok other ∧ Option.Rel (SameQuantity denotes) result other := by
  obtain ⟨xs, areAmounts⟩ := quantities known
  obtain ⟨ys, areOthers, reordered⟩ := List.perm_comp_forall₂ same areAmounts
  obtain ⟨fitting, sums⟩ := (adds.tally_spec areAmounts).1 result run
  rw [← same.length_eq, ← reordered.sum_eq] at fitting
  obtain ⟨other, rerun⟩ := (adds.tally_spec areOthers).2 fitting
  refine ⟨other, rerun, ?_⟩
  rcases sums with ⟨empty, rfl⟩ | ⟨total, rfl, isTotal⟩
  · rw [empty, List.perm_nil] at same
    subst same
    cases rerun
    exact .none
  · rcases ((adds.tally_spec areOthers).1 other rerun).2 with ⟨empty, _⟩ | ⟨total', rfl, isOther⟩
    · rw [empty, List.nil_perm] at same
      subst same
      cases areAmounts
      cases run
    · rw [reordered.sum_eq] at isOther
      exact .some ⟨xs.sum, isTotal, isOther⟩

end Adds

end Stozher.Library
