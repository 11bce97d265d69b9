import Mathlib.Data.List.Infix

namespace Stozher.Library.Like

/-- What a pattern asks for next: any run of characters, any one character, or a given one. -/
inductive Token where
  | any
  | one
  | literal (character : Char)

/-- A character of a pattern that nothing escapes. -/
def unescaped (character : Char) : Token :=
  if character = '%' then .any
  else if character = '_' then .one
  else .literal character

/-- A pattern, read with an escape character. One that ends in it has no reading. -/
def read (escape : Char) : List Char → Option (List Token)
  | [] => some []
  | first :: rest =>
      if first = escape then
        match rest with
        | [] => none
        | second :: rest => (read escape rest).map (Token.literal second :: ·)
      else (read escape rest).map (unescaped first :: ·)

/-- Whether a whole text is what a pattern asks for, where characters are compared as `fold` leaves them. -/
def accepts (fold : Char → Char) : List Token → List Char → Bool
  | [], text => text.isEmpty
  | .any :: tokens, text => text.tails.any (accepts fold tokens)
  | .one :: tokens, _ :: text => accepts fold tokens text
  | .literal wanted :: tokens, character :: text => fold wanted == fold character && accepts fold tokens text
  | _ :: _, [] => false

/-- `text LIKE pattern ESCAPE escape`. -/
def like (fold : Char → Char) (escape : Char) (pattern text : List Char) : Bool :=
  (read escape pattern).any fun tokens => accepts fold tokens text

/-- What a pattern does not take literally. -/
def isSpecial (escape character : Char) : Bool :=
  character == '%' || character == '_' || character == escape

/-- The pattern that asks for a text. -/
def escaped (escape : Char) (text : List Char) : List Char :=
  text.flatMap fun character => if isSpecial escape character then [escape, character] else [character]

variable {fold : Char → Char} {escape : Char} {tokens : List Token} {start text pattern : List Char}

theorem unescaped_of_plain {character : Char} (plain : isSpecial escape character = false) :
    unescaped character = .literal character ∧ character ≠ escape := by
  unfold isSpecial at plain
  simp only [Bool.or_eq_false_iff, beq_eq_false_iff_ne] at plain
  obtain ⟨⟨run, single⟩, other⟩ := plain
  unfold unescaped
  rw [if_neg run, if_neg single]
  exact ⟨rfl, other⟩

theorem read_escape (character : Char) (pattern : List Char) :
    read escape (escape :: character :: pattern) = (read escape pattern).map (Token.literal character :: ·) := by
  rw [read, if_pos rfl]

theorem read_plain {character : Char} (plain : isSpecial escape character = false) (pattern : List Char) :
    read escape (character :: pattern) = (read escape pattern).map (Token.literal character :: ·) := by
  obtain ⟨literal, other⟩ := unescaped_of_plain plain
  rw [read.eq_def]
  dsimp only
  rw [if_neg other, literal]

/-- An escaped text is read as its characters, each of them asked for literally. -/
theorem read_escaped : read escape (escaped escape text ++ pattern) =
    (read escape pattern).map (text.map Token.literal ++ ·) := by
  induction text with
  | nil =>
      show read escape pattern = (read escape pattern).map id
      rw [Option.map_id_fun, id]
  | cons first rest ih =>
      have next : (read escape (escaped escape rest ++ pattern)).map (Token.literal first :: ·) =
          (read escape pattern).map ((first :: rest).map Token.literal ++ ·) := by
        rw [ih, Option.map_map]
        rfl
      by_cases special : isSpecial escape first = true
      · have spelled : escaped escape (first :: rest) = escape :: first :: escaped escape rest := by
          unfold escaped
          rw [List.flatMap_cons, if_pos special]
          rfl
        rw [spelled, List.cons_append, List.cons_append, read_escape, next]
      · have plain : isSpecial escape first = false := by simpa using special
        have spelled : escaped escape (first :: rest) = first :: escaped escape rest := by
          unfold escaped
          rw [List.flatMap_cons, if_neg special]
          rfl
        rw [spelled, List.cons_append, read_plain plain, next]

/-- Whatever is left, a last run takes it. -/
theorem accepts_any : accepts fold [.any] text = true := by
  rw [accepts, List.any_eq_true]
  exact ⟨[], (List.mem_tails [] text).mpr List.nil_suffix, rfl⟩

/-- A text asked for literally is matched by the beginnings that fold to what it folds to. -/
theorem accepts_literals : accepts fold (start.map Token.literal ++ tokens) text = true ↔
    ∃ front back, text = front ++ back ∧ front.map fold = start.map fold ∧ accepts fold tokens back = true := by
  induction start generalizing text with
  | nil =>
      constructor
      · intro accepted
        exact ⟨[], text, rfl, rfl, accepted⟩
      · rintro ⟨front, back, rfl, folded, accepted⟩
        have empty : front = [] := List.map_eq_nil_iff.mp folded
        rw [empty]
        exact accepted
  | cons wanted rest ih =>
      cases text with
      | nil =>
          constructor
          · intro accepted
            cases accepted
          · rintro ⟨front, back, split, folded, _⟩
            have empty : front = [] := (List.append_eq_nil_iff.mp split.symm).1
            rw [empty] at folded
            cases folded
      | cons character text =>
          have first : accepts fold ((wanted :: rest).map Token.literal ++ tokens) (character :: text) = true ↔
              fold wanted = fold character ∧ accepts fold (rest.map Token.literal ++ tokens) text = true := by
            rw [List.map_cons, List.cons_append, accepts, Bool.and_eq_true, beq_iff_eq]
          rw [first, ih]
          constructor
          · rintro ⟨same, front, back, rfl, folded, accepted⟩
            refine ⟨character :: front, back, rfl, ?_, accepted⟩
            rw [List.map_cons, List.map_cons, same, folded]
          · rintro ⟨front, back, split, folded, accepted⟩
            cases front with
            | nil => cases folded
            | cons head front =>
                obtain ⟨rfl, rfl⟩ := List.cons.inj split
                obtain ⟨same, folded⟩ := List.cons.inj folded
                exact ⟨same.symm, front, back, rfl, folded, accepted⟩

/-- An escaped text followed by a run is matched by the texts that begin with it, as far as folding can tell. -/
theorem like_escaped (distinct : escape ≠ '%') :
    like fold escape (escaped escape start ++ ['%']) text = true ↔ start.map fold <+: text.map fold := by
  have run : read escape ['%'] = some [.any] := by
    rw [read, if_neg (Ne.symm distinct)]
    rfl
  have reading : like fold escape (escaped escape start ++ ['%']) text =
      accepts fold (start.map Token.literal ++ [.any]) text := by
    unfold like
    rw [read_escaped, run]
    rfl
  rw [reading, accepts_literals]
  constructor
  · rintro ⟨front, back, rfl, folded, _⟩
    rw [List.map_append, folded]
    exact List.prefix_append _ _
  · rintro ⟨rest, joined⟩
    obtain ⟨front, back, split, folded, _⟩ := List.map_eq_append_iff.mp joined.symm
    exact ⟨front, back, split, folded, accepts_any⟩

end Stozher.Library.Like
