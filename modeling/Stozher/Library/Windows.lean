import Mathlib.Data.List.Basic
import Mathlib.Data.List.Induction

namespace Stozher.Library

variable {α : Type} {counts : α → α → Bool} {cap : Nat} {items : List α}

/-- Each item found fewer than a cap of those it counts among the items before it. -/
def Capped (counts : α → α → Bool) (cap : Nat) (items : List α) : Prop :=
  ∀ before item after, items = before ++ item :: after → (before.filter (counts item)).length < cap

theorem capped_nil : Capped counts cap [] := by
  intro before item after split
  exact absurd split.symm (List.append_ne_nil_of_right_ne_nil before (List.cons_ne_nil item after))

theorem capped_concat {last : α} :
    Capped counts cap (items ++ [last]) ↔ Capped counts cap items ∧ (items.filter (counts last)).length < cap := by
  constructor
  · intro capped
    constructor
    · intro before item after split
      apply capped before item (after ++ [last])
      rw [split, List.append_assoc, List.cons_append]
    · exact capped items last [] rfl
  · intro known before item after split
    obtain ⟨capped, room⟩ := known
    rcases List.eq_nil_or_concat after with rfl | ⟨rest, other, rfl⟩
    · obtain ⟨rfl, same⟩ := List.append_inj' split rfl
      cases same
      exact room
    · rw [List.concat_eq_append, ← List.cons_append, ← List.append_assoc] at split
      obtain ⟨same, _⟩ := List.append_inj' split rfl
      exact capped before item rest same

/-- A window in which every two items count each other holds at most the cap. -/
theorem Capped.window (capped : Capped counts cap items) {within : α → Bool}
    (seen : ∀ item other, within item = true → within other = true → counts item other = true) :
    (items.filter within).length ≤ cap := by
  induction items using List.reverseRecOn with
  | nil => exact Nat.zero_le cap
  | append_singleton before last ih =>
      obtain ⟨earlier, room⟩ := capped_concat.mp capped
      rw [List.filter_append, List.length_append]
      by_cases inside : within last = true
      · have fewer : (before.filter within).length ≤ (before.filter (counts last)).length :=
          (List.monotone_filter_right before fun other known => seen last other inside known).length_le
        rw [List.filter_cons_of_pos inside, List.filter_nil, List.length_singleton]
        omega
      · rw [List.filter_cons_of_neg inside, List.filter_nil, List.length_nil, Nat.add_zero]
        exact ih earlier

/-- Where no two items map to the same, an item is known by what it maps to. -/
theorem eq_of_nodup_filterMap {β : Type} {f : α → Option β} (distinct : (items.filterMap f).Nodup) {x y : α} {b : β}
    (listed : x ∈ items) (listed' : y ∈ items) (maps : f x = some b) (maps' : f y = some b) : x = y := by
  induction items with
  | nil => exact absurd listed List.not_mem_nil
  | cons first rest ih =>
      have among : ∀ z ∈ rest, f z = some b → b ∈ rest.filterMap f :=
        fun z member known => List.mem_filterMap.mpr ⟨z, member, known⟩
      cases image : f first with
      | none =>
          rw [List.filterMap_cons_none image] at distinct
          have later : ∀ z ∈ first :: rest, f z = some b → z ∈ rest := by
            intro z member known
            rcases List.mem_cons.mp member with rfl | member
            · rw [image] at known
              cases known
            · exact member
          exact ih distinct (later x listed maps) (later y listed' maps')
      | some c =>
          rw [List.filterMap_cons_some image, List.nodup_cons] at distinct
          obtain ⟨new, distinct⟩ := distinct
          rcases List.mem_cons.mp listed with rfl | member
          · rcases List.mem_cons.mp listed' with rfl | member'
            · rfl
            · rw [image] at maps
              exact absurd (among y member' maps') (Option.some.inj maps ▸ new)
          · rcases List.mem_cons.mp listed' with rfl | member'
            · rw [image] at maps'
              exact absurd (among x member maps) (Option.some.inj maps' ▸ new)
            · exact ih distinct member member'

end Stozher.Library
