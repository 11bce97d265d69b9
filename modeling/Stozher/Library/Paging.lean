import Mathlib.Data.List.Sort

namespace Stozher.Library

variable {α κ : Type} [LinearOrder κ] {key : α → κ}

/-- No two rows share a key. -/
def DistinctKeys (key : α → κ) (table : List α) : Prop :=
  table.Pairwise fun a b => key a ≠ key b

/-- Whether a row comes after a reader's position. -/
def isAfter (key : α → κ) (after : Option κ) (row : α) : Bool :=
  after.all fun position => decide (position < key row)

def sortedAfter (key : α → κ) (after : Option κ) (table : List α) : List α :=
  (table.filter (isAfter key after)).insertionSort (key · ≤ key ·)

/-- The first rows after a position. -/
def page (key : α → κ) (limit : Nat) (after : Option κ) (table : List α) : List α :=
  (sortedAfter key after table).take limit

theorem isAfter_none {row : α} : isAfter key none row = true := rfl

theorem isAfter_some {position : κ} {row : α} : isAfter key (some position) row = true ↔ position < key row := by
  unfold isAfter
  rw [Option.all_some, decide_eq_true_iff]

theorem isAfter_of_later {after : Option κ} {row : α} {position : κ}
    (here : ∀ start, after = some start → start < position) (later : position < key row) :
    isAfter key after row = true := by
  cases after with
  | none => exact isAfter_none
  | some start => exact isAfter_some.mpr ((here start rfl).trans later)

theorem mem_sortedAfter {after : Option κ} {table : List α} {row : α} :
    row ∈ sortedAfter key after table ↔ row ∈ table ∧ isAfter key after row = true := by
  unfold sortedAfter
  rw [List.mem_insertionSort, List.mem_filter]

theorem sortedAfter_increasing {after : Option κ} {table : List α} (distinct : DistinctKeys key table) :
    (sortedAfter key after table).Pairwise fun a b => key a < key b := by
  have different : (sortedAfter key after table).Pairwise fun a b => key a ≠ key b := by
    have filtered := distinct.filter (isAfter key after)
    exact (List.perm_insertionSort _ _).symm.pairwise filtered Ne.symm
  have ordered : (sortedAfter key after table).Pairwise fun a b => key a ≤ key b :=
    List.pairwise_insertionSort _ _
  refine (ordered.and different).imp ?_
  rintro a b ⟨le, ne⟩
  exact lt_of_le_of_ne le ne

theorem mem_of_page {limit : Nat} {after : Option κ} {table : List α} {row : α}
    (member : row ∈ page key limit after table) : row ∈ table ∧ isAfter key after row = true :=
  mem_sortedAfter.mp (List.mem_of_mem_take member)

theorem page_increasing {limit : Nat} {after : Option κ} {table : List α} (distinct : DistinctKeys key table) :
    (page key limit after table).Pairwise fun a b => key a < key b :=
  (sortedAfter_increasing distinct).sublist (List.take_sublist _ _)

/-- A page that is not full leaves nothing out. -/
theorem mem_short_page {limit : Nat} {after : Option κ} {table : List α} {row : α}
    (short : (page key limit after table).length < limit) (member : row ∈ table)
    (later : isAfter key after row = true) : row ∈ page key limit after table := by
  unfold page at short ⊢
  rw [List.length_take] at short
  rw [List.take_of_length_le (by omega)]
  exact mem_sortedAfter.mpr ⟨member, later⟩

/-- What a page leaves out comes after its last row. -/
theorem mem_page_or_later {limit : Nat} {after : Option κ} {table : List α} (distinct : DistinctKeys key table)
    {last row : α} (isLast : (page key limit after table).getLast? = some last) (member : row ∈ table)
    (later : isAfter key after row = true) : row ∈ page key limit after table ∨ key last < key row := by
  have sorted := @sortedAfter_increasing _ _ _ _ after _ distinct
  have whole : row ∈ sortedAfter key after table := mem_sortedAfter.mpr ⟨member, later⟩
  have inPage : last ∈ page key limit after table := List.mem_of_getLast? isLast
  unfold page at inPage ⊢
  rw [← List.take_append_drop limit (sortedAfter key after table)] at sorted whole
  rcases List.mem_append.mp whole with front | back
  · exact .inl front
  · exact .inr ((List.pairwise_append.mp sorted).2.2 last inPage row back)

/-- What a page leaves out, a full page of rows comes before. -/
theorem mem_page_or_full {limit : Nat} {after : Option κ} {table : List α} {row : α} (member : row ∈ table)
    (later : isAfter key after row = true) : row ∈ page key limit after table ∨
      (page key limit after table).length = limit ∧ ∀ other ∈ page key limit after table, key other ≤ key row := by
  by_cases short : (page key limit after table).length < limit
  · exact .inl (mem_short_page short member later)
  · have sorted : (sortedAfter key after table).Pairwise fun a b => key a ≤ key b := List.pairwise_insertionSort _ _
    have whole : row ∈ sortedAfter key after table := mem_sortedAfter.mpr ⟨member, later⟩
    rw [← List.take_append_drop limit (sortedAfter key after table)] at sorted whole
    have most : (page key limit after table).length ≤ limit := List.length_take_le _ _
    rcases List.mem_append.mp whole with front | back
    · exact .inl front
    · refine .inr ⟨by omega, ?_⟩
      intro other inside
      exact (List.pairwise_append.mp sorted).2.2 other inside row back

theorem page_le_last {limit : Nat} {after : Option κ} {table : List α} (distinct : DistinctKeys key table)
    {last row : α} (isLast : (page key limit after table).getLast? = some last)
    (member : row ∈ page key limit after table) : key row ≤ key last := by
  have ordered := @page_increasing _ _ _ _ limit after _ distinct
  obtain ⟨front, split⟩ := List.getLast?_eq_some_iff.mp isLast
  rw [split] at member ordered
  rcases List.mem_append.mp member with before | same
  · exact le_of_lt ((List.pairwise_append.mp ordered).2.2 row before last List.mem_cons_self)
  · rw [List.mem_singleton.mp same]

/-- What holds at a page that is not full, and before a page where it holds after it, holds everywhere: each
page of a table that stays as it is leaves fewer rows. -/
theorem page_induction {limit : Nat} {table : List α} {motive : Option κ → Prop} (positive : 0 < limit)
    (last : ∀ after, (page key limit after table).length < limit → motive after)
    (next : ∀ after row, (page key limit after table).getLast? = some row → motive (some (key row)) → motive after)
    (after : Option κ) : motive after := by
  induction size : (sortedAfter key after table).length using Nat.strong_induction_on generalizing after with
  | _ size ih =>
      by_cases short : (page key limit after table).length < limit
      · exact last after short
      · have nonempty : (page key limit after table).getLast? ≠ none := by
          intro none
          rw [List.getLast?_eq_none_iff.mp none] at short
          exact short positive
        obtain ⟨row, isLast⟩ := Option.ne_none_iff_exists'.mp nonempty
        have here := mem_of_page (List.mem_of_getLast? isLast)
        have earlier : ∀ other, isAfter key (some (key row)) other = true → isAfter key after other = true := by
          intro other later
          refine isAfter_of_later ?_ (isAfter_some.mp later)
          rintro start rfl
          exact isAfter_some.mp here.2
        have sub := List.monotone_filter_right table earlier
        have fewer : (sortedAfter key (some (key row)) table).length < (sortedAfter key after table).length := by
          unfold sortedAfter
          rw [List.length_insertionSort, List.length_insertionSort]
          refine lt_of_le_of_ne sub.length_le fun same => ?_
          have inside : row ∈ table.filter (isAfter key after) := List.mem_filter.mpr here
          rw [← sub.eq_of_length same] at inside
          exact lt_irrefl _ (isAfter_some.mp (List.mem_filter.mp inside).2)
        exact next after row isLast (ih _ (size ▸ fewer) (some (key row)) rfl)

/-- Page after page of a table that may grow between them, up to one that is not full. -/
inductive PagedWalk (key : α → κ) (limit : Nat) : List α → Option κ → List α → List α → Prop where
  | last {table : List α} {after : Option κ} (distinct : DistinctKeys key table)
      (short : (page key limit after table).length < limit) :
      PagedWalk key limit table after (page key limit after table) table
  | next {table later final : List α} {after : Option κ} {row : α} {rows : List α}
      (distinct : DistinctKeys key table) (isLast : (page key limit after table).getLast? = some row)
      (grows : ∀ held ∈ table, held ∈ later) (rest : PagedWalk key limit later (some (key row)) rows final) :
      PagedWalk key limit table after (page key limit after table ++ rows) final

namespace PagedWalk

variable {limit : Nat} {table final rows : List α} {after : Option κ}

theorem grows (walk : PagedWalk key limit table after rows final) : ∀ row ∈ table, row ∈ final := by
  induction walk with
  | last => exact fun _ member => member
  | next _ _ grows _ ih => exact fun row member => ih row (grows row member)

theorem after_start (walk : PagedWalk key limit table after rows final) :
    ∀ row ∈ rows, row ∈ final ∧ isAfter key after row = true := by
  induction walk with
  | last => exact fun row member => mem_of_page member
  | next distinct isLast grows rest ih =>
      intro row member
      rcases List.mem_append.mp member with here | later
      · obtain ⟨held, isLater⟩ := mem_of_page here
        exact ⟨rest.grows row (grows row held), isLater⟩
      · obtain ⟨held, isLater⟩ := ih row later
        refine ⟨held, isAfter_of_later ?_ (isAfter_some.mp isLater)⟩
        rintro start rfl
        exact isAfter_some.mp (mem_of_page (List.mem_of_getLast? isLast)).2

/-- No row is repeated, and the rows come in order. -/
theorem increasing (walk : PagedWalk key limit table after rows final) :
    rows.Pairwise fun a b => key a < key b := by
  induction walk with
  | last distinct => exact page_increasing distinct
  | next distinct isLast grows rest ih =>
      refine List.pairwise_append.mpr ⟨page_increasing distinct, ih, ?_⟩
      intro a here b there
      exact (page_le_last distinct isLast here).trans_lt (isAfter_some.mp (rest.after_start b there).2)

/-- No row that was there when the walk began is lost. -/
theorem covers (walk : PagedWalk key limit table after rows final) :
    ∀ row ∈ table, isAfter key after row = true → row ∈ rows := by
  induction walk with
  | last distinct short => exact fun row member later => mem_short_page short member later
  | next distinct isLast grows rest ih =>
      intro row member later
      rcases mem_page_or_later distinct isLast member later with here | beyond
      · exact List.mem_append_left _ here
      · exact List.mem_append_right _ (ih row (grows row member) (isAfter_some.mpr beyond))

/-- Nothing that is there when the walk ends comes after all of its rows. -/
theorem exhausts (walk : PagedWalk key limit table after rows final) :
    ∀ row ∈ final, isAfter key after row = true → ∃ last ∈ rows, key row ≤ key last := by
  induction walk with
  | last distinct short => exact fun row member later => ⟨row, mem_short_page short member later, le_refl _⟩
  | @next _ _ _ _ bound _ distinct isLast grows rest ih =>
      intro row member later
      by_cases beyond : key bound < key row
      · obtain ⟨last, inside, le⟩ := ih row member (isAfter_some.mpr beyond)
        exact ⟨last, List.mem_append_right _ inside, le⟩
      · exact ⟨bound, List.mem_append_left _ (List.mem_of_getLast? isLast), not_lt.mp beyond⟩

end PagedWalk

theorem le_getLast_of_increasing {rows : List α} (increasing : rows.Pairwise fun a b => key a < key b) {row : α}
    (member : row ∈ rows) : ∃ last, rows.getLast? = some last ∧ key row ≤ key last := by
  rcases List.eq_nil_or_concat rows with rfl | ⟨front, last, rfl⟩
  · cases member
  · rw [List.concat_eq_append] at increasing member ⊢
    refine ⟨last, List.getLast?_concat, ?_⟩
    rcases List.mem_append.mp member with before | same
    · exact le_of_lt ((List.pairwise_append.mp increasing).2.2 row before last List.mem_cons_self)
    · rw [List.mem_singleton.mp same]

/-- A page as long as its table leaves nothing out. -/
theorem page_whole {limit : Nat} {after : Option κ} {table : List α} (fits : table.length ≤ limit) :
    page key limit after table = page key (limit + 1) after table := by
  have size : (sortedAfter key after table).length ≤ table.length := by
    unfold sortedAfter
    rw [List.length_insertionSort]
    exact List.length_filter_le _ _
  unfold page
  rw [List.take_of_length_le (by omega), List.take_of_length_le (by omega)]

theorem mem_take_increasing {rows : List α} (increasing : rows.Pairwise fun a b => key a < key b) {row : α}
    (member : row ∈ rows) (limit : Nat) :
    row ∈ rows.take limit ↔ (rows.filter fun other => decide (key other < key row)).length < limit := by
  induction rows generalizing limit with
  | nil => cases member
  | cons first rest ih =>
      obtain ⟨least, increasing⟩ := List.pairwise_cons.mp increasing
      cases limit with
      | zero => simp
      | succ limit =>
          rcases List.mem_cons.mp member with rfl | inside
          · have none : (row :: rest).filter (fun other => decide (key other < key row)) = [] := by
              rw [List.filter_eq_nil_iff]
              intro other held
              rw [decide_eq_true_iff, not_lt]
              rcases List.mem_cons.mp held with rfl | later
              · exact le_refl _
              · exact le_of_lt (least other later)
            rw [none]
            simp
          · have different : row ≠ first := by
              rintro rfl
              exact lt_irrefl _ (least row inside)
            have counted : (first :: rest).filter (fun other => decide (key other < key row)) =
                first :: rest.filter fun other => decide (key other < key row) :=
              List.filter_cons_of_pos (p := fun other => decide (key other < key row)) (decide_eq_true (least row inside))
            rw [List.take_succ_cons, List.mem_cons, or_iff_right different, ih increasing inside, counted,
              List.length_cons, Nat.add_lt_add_iff_right]

/-- A row is on a page when fewer rows than the page holds come before it. -/
theorem mem_page_iff {limit : Nat} {after : Option κ} {table : List α} (distinct : DistinctKeys key table)
    {row : α} (member : row ∈ table) (later : isAfter key after row = true) :
    row ∈ page key limit after table ↔
      (table.filter fun other => isAfter key after other && decide (key other < key row)).length < limit := by
  have whole : row ∈ sortedAfter key after table := mem_sortedAfter.mpr ⟨member, later⟩
  have same : ((sortedAfter key after table).filter fun other => decide (key other < key row)).length =
      (table.filter fun other => isAfter key after other && decide (key other < key row)).length := by
    have permuted := ((List.perm_insertionSort (key · ≤ key ·) (table.filter (isAfter key after))).filter
      fun other => decide (key other < key row)).length_eq
    rw [List.filter_filter] at permuted
    rw [← List.filter_congr fun other _ => Bool.and_comm _ _]
    exact permuted
  rw [← same]
  exact mem_take_increasing (sortedAfter_increasing distinct) whole limit

/-- What comes before a row of an increasing list is listed before it. -/
theorem mem_front_of_lt {front back : List α} {row other : α}
    (increasing : (front ++ row :: back).Pairwise fun a b => key a < key b)
    (member : other ∈ front ++ row :: back) (less : key other < key row) : other ∈ front := by
  rcases List.mem_append.mp member with before | inside
  · exact before
  · have later := (List.pairwise_cons.mp (List.pairwise_append.mp increasing).2.1).1
    rcases List.mem_cons.mp inside with rfl | after
    · exact absurd less (lt_irrefl _)
    · exact absurd less (lt_asymm (later other after))

end Stozher.Library
