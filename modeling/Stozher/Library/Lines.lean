import Stozher.Library.Ascii

namespace Stozher.Library

variable {α : Type}

/-- Items one after another, each closed by an end mark. -/
def lines (mark : α) (items : List (List α)) : List α :=
  items.flatMap fun item => item ++ [mark]

theorem line_unique {mark : α} {first second rest others : List α} (plain : mark ∉ first)
    (plain' : mark ∉ second) (same : first ++ mark :: rest = second ++ mark :: others) :
    first = second ∧ rest = others := by
  induction first generalizing second with
  | nil =>
      cases second with
      | nil => exact ⟨rfl, (List.cons.inj same).2⟩
      | cons head tail => exact absurd ((List.cons.inj same).1 ▸ List.mem_cons_self) plain'
  | cons head tail ih =>
      cases second with
      | nil => exact absurd ((List.cons.inj same).1 ▸ List.mem_cons_self) plain
      | cons other others' =>
          have heads := (List.cons.inj same).1
          have tails := (List.cons.inj same).2
          have inner := ih (fun inside => plain (List.mem_cons_of_mem _ inside))
            (fun inside => plain' (List.mem_cons_of_mem _ inside)) tails
          exact ⟨by rw [heads, inner.1], inner.2⟩

/-- Items that hold no end mark are read back from their lines. -/
theorem lines_injective {mark : α} {items others : List (List α)} (plain : ∀ item ∈ items, mark ∉ item)
    (plain' : ∀ item ∈ others, mark ∉ item) (same : lines mark items = lines mark others) :
    items = others := by
  have step : ∀ (item : List α) (rest : List (List α)),
      lines mark (item :: rest) = item ++ mark :: lines mark rest := by
    intro item rest
    unfold lines
    simp
  induction items generalizing others with
  | nil =>
      cases others with
      | nil => rfl
      | cons other rest =>
          rw [step] at same
          exact absurd same.symm (by simp [lines])
  | cons item rest ih =>
      cases others with
      | nil =>
          rw [step] at same
          exact absurd same (by simp [lines])
      | cons other rest' =>
          rw [step, step] at same
          have heads := line_unique (plain item List.mem_cons_self) (plain' other List.mem_cons_self) same
          have tails := ih (fun i inside => plain i (List.mem_cons_of_mem _ inside))
            (fun i inside => plain' i (List.mem_cons_of_mem _ inside)) heads.2
          rw [heads.1, tails]

/-- Split at the end marks, lines are the items and what follows the last of them. -/
theorem splitOn_lines [DecidableEq α] {mark : α} {items : List (List α)} (plain : ∀ item ∈ items, mark ∉ item) :
    (lines mark items).splitOn mark = items ++ [[]] := by
  have joined : lines mark items = [mark].intercalate (items ++ [[]]) := by
    unfold lines
    induction items with
    | nil => rfl
    | cons item rest ih =>
        have others := ih fun other member => plain other (List.mem_cons_of_mem _ member)
        rw [List.flatMap_cons, others, List.cons_append]
        cases rest with
        | nil => simp [List.intercalate]
        | cons second rest => simp [List.intercalate]
  rw [joined]
  apply List.splitOn_intercalate
  · intro item member
    rcases List.mem_append.mp member with inside | last
    · exact plain item inside
    · rw [List.mem_singleton.mp last]
      exact List.not_mem_nil
  · simp

/-- A text with no octet of an ASCII character has no such character. -/
theorem not_mem_of_octets {text : String} {c : Char} (ascii : c.toNat < 128)
    (absent : Text.octetOf c ∉ Text.octets text) : c ∉ text.toList := by
  intro inside
  have encoded := Text.octets_ofList text.toList
  have head := Text.utf8EncodeChar_ascii c.toNat ascii
  rw [String.ofList_toList] at encoded
  rw [Char.ofNat_toNat] at head
  apply absent
  rw [encoded]
  exact List.mem_flatMap.mpr ⟨c, inside, by rw [head]; exact List.mem_cons_self⟩

end Stozher.Library
