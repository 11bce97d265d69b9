import Mathlib.Data.List.Forall2

namespace Stozher.Library

variable {α β : Type}

/-- A split of a list and one more item is at the last item, or of the list. -/
theorem split_concat {all earlier later : List α} {last middle : α}
    (split : all ++ [last] = earlier ++ middle :: later) :
    (later = [] ∧ middle = last ∧ earlier = all) ∨
      ∃ front, later = front ++ [last] ∧ all = earlier ++ middle :: front := by
  rcases List.eq_nil_or_concat later with rfl | ⟨front, final, rfl⟩
  · have both := List.append_inj' split rfl
    have same := List.singleton_inj.mp both.2
    exact .inl ⟨rfl, same.symm, both.1.symm⟩
  · rw [List.concat_eq_append] at split ⊢
    rw [← List.cons_append, ← List.append_assoc] at split
    have both := List.append_inj' split rfl
    have same := List.singleton_inj.mp both.2
    exact .inr ⟨front, by rw [same], both.1⟩

/-- Lists related item by item split at related items. -/
theorem forall₂_split {R : α → β → Prop} {before after : List α} {item : α} {others : List β}
    (all : List.Forall₂ R (before ++ item :: after) others) :
    ∃ front other back, others = front ++ other :: back ∧ List.Forall₂ R before front ∧ R item other := by
  induction before generalizing others with
  | nil =>
      cases all with
      | @cons _ other _ back one rest => exact ⟨[], other, back, rfl, .nil, one⟩
  | cons first before ih =>
      cases all with
      | @cons _ head _ tail one rest =>
          obtain ⟨front, other, back, rfl, related, same⟩ := ih rest
          exact ⟨head :: front, other, back, rfl, .cons one related, same⟩

theorem forall₂_mem_left {R : α → β → Prop} {items : List α} {others : List β} (all : List.Forall₂ R items others)
    {item : α} (member : item ∈ items) : ∃ other ∈ others, R item other := by
  obtain ⟨before, after, rfl⟩ := List.append_of_mem member
  obtain ⟨front, other, back, rfl, _, one⟩ := forall₂_split all
  exact ⟨other, List.mem_append_right _ List.mem_cons_self, one⟩

theorem forall₂_mem_right {R : α → β → Prop} {items : List α} {others : List β} (all : List.Forall₂ R items others)
    {other : β} (member : other ∈ others) : ∃ item ∈ items, R item other :=
  forall₂_mem_left all.flip member

end Stozher.Library
