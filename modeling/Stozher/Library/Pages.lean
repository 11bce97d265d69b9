import Stozher.Library.Paging

namespace Stozher.Library

variable {α κ : Type} [LinearOrder κ] {key : α → κ}

/-- The rows of the pages taken so far of a table that may have grown since the first of them was. -/
structure Paged (key : α → κ) (opened rows table : List α) : Prop where
  increasing : rows.Pairwise fun a b => key a < key b
  held : ∀ row ∈ rows, row ∈ table
  covers : ∀ row ∈ opened, row ∈ rows ∨ isAfter key (rows.getLast?.map key) row = true
  kept : ∀ row ∈ opened, row ∈ table

namespace Paged

variable {opened rows table later : List α} {limit : Nat}

theorem start (table : List α) : Paged key table [] table where
  increasing := .nil
  held := fun _ none => absurd none List.not_mem_nil
  covers := fun _ _ => .inr isAfter_none
  kept := fun _ member => member

theorem grow (paged : Paged key opened rows table) (grows : ∀ row ∈ table, row ∈ later) :
    Paged key opened rows later where
  increasing := paged.increasing
  held := fun row member => grows row (paged.held row member)
  covers := paged.covers
  kept := fun row member => grows row (paged.kept row member)

/-- The next page goes on from the last row. -/
theorem next (paged : Paged key opened rows table) (distinct : DistinctKeys key table) :
    Paged key opened (rows ++ page key limit (rows.getLast?.map key) table) table := by
  have ordered := @page_increasing _ _ _ _ limit (rows.getLast?.map key) _ distinct
  refine ⟨List.pairwise_append.mpr ⟨paged.increasing, ordered, ?_⟩, ?_, ?_, paged.kept⟩
  · intro row before other after
    obtain ⟨last, isLast, le⟩ := le_getLast_of_increasing paged.increasing before
    have later := (mem_of_page after).2
    rw [isLast] at later
    exact le.trans_lt (isAfter_some.mp later)
  · intro row member
    rcases List.mem_append.mp member with before | inPage
    · exact paged.held row before
    · exact (mem_of_page inPage).1
  · intro row member
    rcases paged.covers row member with before | after
    · exact .inl (List.mem_append_left _ before)
    · cases isLast : (page key limit (rows.getLast?.map key) table).getLast? with
      | none =>
          rw [List.getLast?_eq_none_iff.mp isLast, List.append_nil]
          exact .inr after
      | some last =>
          rcases mem_page_or_later distinct isLast (paged.kept row member) after with inPage | beyond
          · exact .inl (List.mem_append_right _ inPage)
          · rw [List.getLast?_append, isLast]
            exact .inr (isAfter_some.mpr beyond)

/-- With a page that is not full, nothing that was there at first is left out. -/
theorem ended (paged : Paged key opened rows table)
    (short : (page key limit (rows.getLast?.map key) table).length < limit) :
    ∀ row ∈ opened, row ∈ rows ++ page key limit (rows.getLast?.map key) table := by
  intro row member
  rcases paged.covers row member with before | after
  · exact List.mem_append_left _ before
  · exact List.mem_append_right _ (mem_short_page short (paged.kept row member) after)

end Paged

end Stozher.Library
