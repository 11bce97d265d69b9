import Mathlib.Data.List.Sort

namespace Stozher.Library.Table

variable {α : Type}

/-- Keeps the row with the greater key, the earlier one between equals. -/
def greater (key : α → Nat) (best : Option α) (row : α) : Option α :=
  match best with
  | none => some row
  | some current => if key current < key row then some row else some current

/-- `ORDER BY key DESC LIMIT 1`. -/
def topBy (key : α → Nat) (rows : List α) : Option α :=
  rows.foldl (greater key) none

theorem foldl_greater_some (key : α → Nat) (rows : List α) (start : α) :
    ∃ top, rows.foldl (greater key) (some start) = some top ∧ (top = start ∨ top ∈ rows) ∧
      key start ≤ key top ∧ ∀ row ∈ rows, key row ≤ key top := by
  induction rows generalizing start with
  | nil => exact ⟨start, rfl, Or.inl rfl, le_refl _, by simp⟩
  | cons first rest ih =>
      rw [List.foldl_cons]
      by_cases larger : key start < key first
      · obtain ⟨top, run, origin, above, rows⟩ := ih first
        refine ⟨top, by simpa [greater, larger] using run, ?_, by omega, ?_⟩
        · rcases origin with rfl | member
          · exact Or.inr List.mem_cons_self
          · exact Or.inr (List.mem_cons_of_mem _ member)
        · intro row member
          rcases List.mem_cons.mp member with rfl | later
          · exact above
          · exact rows row later
      · obtain ⟨top, run, origin, above, rows⟩ := ih start
        refine ⟨top, by simpa [greater, larger] using run, ?_, above, ?_⟩
        · rcases origin with rfl | member
          · exact Or.inl rfl
          · exact Or.inr (List.mem_cons_of_mem _ member)
        · intro row member
          rcases List.mem_cons.mp member with rfl | later
          · omega
          · exact rows row later

theorem topBy_cons (key : α → Nat) (first : α) (rest : List α) :
    topBy key (first :: rest) = rest.foldl (greater key) (some first) := rfl

theorem topBy_eq_none {key : α → Nat} {rows : List α} : topBy key rows = none ↔ rows = [] := by
  cases rows with
  | nil => simp [topBy]
  | cons first rest =>
      obtain ⟨top, run, -⟩ := foldl_greater_some key rest first
      simp [topBy_cons, run]

theorem topBy_mem {key : α → Nat} {rows : List α} {top : α} (found : topBy key rows = some top) :
    top ∈ rows := by
  cases rows with
  | nil => cases found
  | cons first rest =>
      obtain ⟨other, run, origin, -⟩ := foldl_greater_some key rest first
      rw [topBy_cons, run] at found
      cases found
      rcases origin with rfl | member
      · exact List.mem_cons_self
      · exact List.mem_cons_of_mem _ member

theorem topBy_le {key : α → Nat} {rows : List α} {top row : α} (found : topBy key rows = some top)
    (member : row ∈ rows) : key row ≤ key top := by
  cases rows with
  | nil => cases member
  | cons first rest =>
      obtain ⟨other, run, -, start, others⟩ := foldl_greater_some key rest first
      rw [topBy_cons, run] at found
      cases found
      rcases List.mem_cons.mp member with rfl | later
      · exact start
      · exact others row later

/-- A row appended above every other becomes the top one. -/
theorem topBy_concat {key : α → Nat} {rows : List α} {row : α}
    (above : ∀ other ∈ rows, key other < key row) : topBy key (rows ++ [row]) = some row := by
  unfold topBy
  rw [List.foldl_append, List.foldl_cons, List.foldl_nil]
  cases found : rows.foldl (greater key) none with
  | none => rfl
  | some top =>
      have member : top ∈ rows := topBy_mem (show topBy key rows = some top from found)
      simp [greater, above top member]

/-- The top row of a table whose keys increase is its last one. -/
theorem topBy_of_increasing {key : α → Nat} {rows : List α}
    (increasing : rows.Pairwise fun a b => key a < key b) : topBy key rows = rows.getLast? := by
  rcases List.eq_nil_or_concat rows with rfl | ⟨before, last, rfl⟩
  · rfl
  · rw [List.concat_eq_append] at increasing ⊢
    rw [List.getLast?_concat]
    rw [List.pairwise_append] at increasing
    exact topBy_concat fun other member => increasing.2.2 other member last List.mem_cons_self

/-- A change of rows that keeps the key keeps which row is at the top. -/
theorem topBy_map {key : α → Nat} {change : α → α} (keeps : ∀ row, key (change row) = key row) (rows : List α) :
    topBy key (rows.map change) = (topBy key rows).map change := by
  have folded : ∀ best : Option α, (rows.map change).foldl (greater key) (best.map change) =
      (rows.foldl (greater key) best).map change := by
    induction rows with
    | nil => exact fun _ => rfl
    | cons first rest ih =>
        intro best
        rw [List.map_cons, List.foldl_cons, List.foldl_cons, ← ih]
        congr 1
        cases best with
        | none => rfl
        | some current =>
            unfold greater
            dsimp only [Option.map_some]
            rw [keeps, keeps]
            split
            · rfl
            · rfl
  exact folded none

/-- Rows whose keys increase are told apart by them. -/
theorem eq_of_increasing {key : α → Nat} {rows : List α} (increasing : rows.Pairwise fun a b => key a < key b)
    {first second : α} (here : first ∈ rows) (there : second ∈ rows) (same : key first = key second) :
    first = second := by
  induction rows with
  | nil => cases here
  | cons row rest ih =>
      obtain ⟨least, increasing⟩ := List.pairwise_cons.mp increasing
      rcases List.mem_cons.mp here with rfl | inside
      · rcases List.mem_cons.mp there with rfl | later
        · rfl
        · have less := least second later
          omega
      · rcases List.mem_cons.mp there with rfl | later
        · have less := least first inside
          omega
        · exact ih increasing inside later

end Stozher.Library.Table
