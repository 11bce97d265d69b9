import Stozher.Library.Checked

namespace Stozher.Library

variable {ε α β γ δ : Type}

/-- Two computations that refuse alike, or end with related results. -/
inductive Agree (related : α → β → Prop) : Except ε α → Except ε β → Prop where
  | refused (refusal : ε) : Agree related (.error refusal) (.error refusal)
  | passed {a : α} {b : β} (known : related a b) : Agree related (.ok a) (.ok b)

namespace Agree

variable {related : α → β → Prop} {after : γ → δ → Prop}

theorem bind_ok {x : Except ε α} {y : Except ε β} {f : α → Except ε γ} {g : β → Except ε δ}
    (first : Agree related x y) (rest : ∀ a b, x = .ok a → related a b → Agree after (f a) (g b)) :
    Agree after (x >>= f) (y >>= g) := by
  cases first with
  | refused refusal => exact .refused refusal
  | passed known => exact rest _ _ rfl known

theorem bind {x : Except ε α} {y : Except ε β} {f : α → Except ε γ} {g : β → Except ε δ}
    (first : Agree related x y) (rest : ∀ a b, related a b → Agree after (f a) (g b)) :
    Agree after (x >>= f) (y >>= g) :=
  first.bind_ok fun a b _ known => rest a b known

/-- The same computation goes first in both. -/
theorem bind_same {x : Except ε α} {f : α → Except ε γ} {g : α → Except ε δ}
    (rest : ∀ a, Agree after (f a) (g a)) : Agree after (x >>= f) (x >>= g) := by
  cases x with
  | error refusal => exact .refused refusal
  | ok a => exact rest a

theorem ite {condition : Prop} [Decidable condition] {x x' : Except ε α} {y y' : Except ε β}
    (holds : condition → Agree related x y) (fails : ¬condition → Agree related x' y') :
    Agree related (if condition then x else x') (if condition then y else y') := by
  by_cases known : condition
  · rw [if_pos known, if_pos known]
    exact holds known
  · rw [if_neg known, if_neg known]
    exact fails known

theorem imp {x : Except ε α} {y : Except ε β} {weaker : α → β → Prop} (first : Agree related x y)
    (weakens : ∀ a b, related a b → weaker a b) : Agree weaker x y := by
  cases first with
  | refused refusal => exact .refused refusal
  | passed known => exact .passed (weakens _ _ known)

/-- Two folds over one list agree when their steps do. -/
theorem foldChecked {step : α → γ → Except ε α} {other : β → γ → Except ε β}
    (steps : ∀ a b item, related a b → Agree related (step a item) (other b item)) {items : List γ} {a : α} {b : β}
    (start : related a b) : Agree related (foldChecked step a items) (foldChecked other b items) := by
  induction items generalizing a b with
  | nil => exact .passed start
  | cons first rest ih =>
      rw [foldChecked_cons, foldChecked_cons]
      exact (steps a b first start).bind fun _ _ known => ih known

end Agree

end Stozher.Library
