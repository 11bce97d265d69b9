import Stozher.Library.Checked

namespace Stozher.Library

variable {ε α β : Type} {kind : ε → Prop}

/-- Whatever a computation refuses with is of a kind. -/
def Refuses (kind : ε → Prop) (x : Except ε α) : Prop :=
  ∀ e, x = .error e → kind e

theorem refuses_ok (a : α) : Refuses kind (.ok a : Except ε α) := by
  intro e failed
  cases failed

theorem refuses_pure (a : α) : Refuses kind (pure a : Except ε α) :=
  refuses_ok a

theorem refuses_error {e : ε} (is : kind e) : Refuses kind (.error e : Except ε α) := by
  intro other failed
  cases failed
  exact is

theorem refuses_bind {x : Except ε α} {f : α → Except ε β} (first : Refuses kind x)
    (rest : ∀ a, Refuses kind (f a)) : Refuses kind (x >>= f) := by
  intro e failed
  cases x with
  | error other =>
      rw [error_bind] at failed
      cases failed
      exact first e rfl
  | ok a =>
      rw [ok_bind] at failed
      exact rest a e failed

/-- What follows an answer may use that it was given. -/
theorem refuses_bind_of {x : Except ε α} {f : α → Except ε β} (first : Refuses kind x)
    (rest : ∀ a, x = .ok a → Refuses kind (f a)) : Refuses kind (x >>= f) := by
  intro e failed
  cases answer : x with
  | error other =>
      rw [answer, error_bind] at failed
      cases failed
      exact first e answer
  | ok a =>
      rw [answer, ok_bind] at failed
      exact rest a answer e failed

theorem refuses_mono {other : ε → Prop} {x : Except ε α} (refuses : Refuses kind x)
    (weaker : ∀ e, kind e → other e) : Refuses other x := by
  intro e failed
  exact weaker e (refuses e failed)

theorem refuses_require {condition : Prop} [Decidable condition] {refusal : ε} (is : kind refusal) :
    Refuses kind (require condition refusal) := by
  unfold require
  split
  · exact refuses_ok ()
  · exact refuses_error is

theorem require_eq_error {condition : Prop} [Decidable condition] {refusal e : ε} :
    require condition refusal = .error e ↔ ¬condition ∧ refusal = e := by
  unfold require
  split
  · simp [*]
  · simp [*]

theorem refuses_okOr {found : Option α} {refusal : ε} (is : kind refusal) :
    Refuses kind (okOr found refusal) := by
  cases found with
  | none => exact refuses_error is
  | some a => exact refuses_ok a

theorem refuses_forEach {check : α → Except ε Unit} (each : ∀ item, Refuses kind (check item))
    (items : List α) : Refuses kind (forEach check items) := by
  induction items with
  | nil => exact refuses_ok ()
  | cons first rest ih => exact refuses_bind (each first) fun _ => ih

theorem refuses_foldChecked {step : β → α → Except ε β} (each : ∀ state item, Refuses kind (step state item))
    (state : β) (items : List α) : Refuses kind (foldChecked step state items) := by
  induction items generalizing state with
  | nil => exact refuses_ok state
  | cons first rest ih => exact refuses_bind (each state first) fun next => ih next

theorem refuses_mapChecked {f : α → Except ε β} (each : ∀ item, Refuses kind (f item)) (items : List α) :
    Refuses kind (mapChecked f items) := by
  induction items with
  | nil => exact refuses_ok []
  | cons first rest ih => exact refuses_bind (each first) fun _ => refuses_bind ih fun _ => refuses_pure _

theorem refuses_everyChecked {test : α → Except ε Bool} (each : ∀ item, Refuses kind (test item))
    (items : List α) : Refuses kind (everyChecked test items) := by
  induction items with
  | nil => exact refuses_ok true
  | cons first rest ih =>
      refine refuses_bind (each first) fun holds => ?_
      split
      · exact ih
      · exact refuses_pure false

theorem refuses_mapError {ε' : Type} {x : Except ε' α} {f : ε' → ε} (each : ∀ e, kind (f e)) :
    Refuses kind (x.mapError f) := by
  cases x with
  | error e => exact refuses_error (each e)
  | ok a => exact refuses_ok a

theorem refuses_ite {condition : Prop} [Decidable condition] {x y : Except ε α} (yes : Refuses kind x)
    (no : Refuses kind y) : Refuses kind (if condition then x else y) := by
  split
  · exact yes
  · exact no

end Stozher.Library
