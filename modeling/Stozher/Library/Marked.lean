import Mathlib.Data.List.Basic

namespace Stozher.Library

/-- A row of a table that keeps what it held before and marks the row it goes by now. -/
structure Marked (κ α : Type) where
  key : κ
  value : α
  isCurrent : Bool

namespace Marked

variable {κ α : Type} [DecidableEq κ]

/-- Unmarks every row and writes a marked one over whatever its key held. -/
def put (rows : List (Marked κ α)) (key : κ) (value : α) : List (Marked κ α) :=
  ((rows.map fun row => { row with isCurrent := false }).filter fun row => decide (row.key ≠ key)) ++
    [{ key, value, isCurrent := true }]

def current (rows : List (Marked κ α)) : Option (κ × α) :=
  (rows.find? fun row => row.isCurrent).map fun row => (row.key, row.value)

theorem unmarked {rows : List (Marked κ α)} {key : κ} {row : Marked κ α}
    (member : row ∈ (rows.map fun row => { row with isCurrent := false }).filter fun row => decide (row.key ≠ key)) :
    row.isCurrent = false := by
  have earlier := (List.mem_filter.mp member).1
  obtain ⟨_, _, rfl⟩ := List.mem_map.mp earlier
  rfl

theorem current_put (rows : List (Marked κ α)) (key : κ) (value : α) :
    current (put rows key value) = some (key, value) := by
  have none : ((rows.map fun row => { row with isCurrent := false }).filter
      fun row : Marked κ α => decide (row.key ≠ key)).find? (fun row => row.isCurrent) = none := by
    apply List.find?_eq_none.mpr
    intro row member
    simp [unmarked member]
  unfold current put
  rw [List.find?_append, none]
  rfl

/-- At most one row is marked, so a query for the marked one has one answer. -/
def Single (rows : List (Marked κ α)) : Prop :=
  (rows.filter fun row => row.isCurrent).length ≤ 1

theorem single_put (rows : List (Marked κ α)) (key : κ) (value : α) : Single (put rows key value) := by
  have none : (((rows.map fun row => { row with isCurrent := false }).filter
      fun row : Marked κ α => decide (row.key ≠ key)).filter fun row => row.isCurrent) = [] := by
    apply List.filter_eq_nil_iff.mpr
    intro row member
    simp [unmarked member]
  unfold Single put
  rw [List.filter_append, none]
  simp

end Marked

end Stozher.Library
