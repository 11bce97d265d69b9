import Stozher.Gateway.MandateWalk
import Stozher.Library.Ascii
import Stozher.Mandate.Soundness

namespace Stozher.Gateway.MandateWalk

open Library Stozher.Mandate

section Patterns

/-- A pattern that takes a value for a name below it, of which there is only the dot. -/
def OnlyDot (pattern value : String) : Prop :=
  ∃ stem, value = stem ++ "." ∧ pattern = stem ++ ".*"

theorem stripSuffix_eq_some {s stem ending : String} :
    Text.stripSuffix s ending = some stem ↔ s = stem ++ ending := by
  unfold Text.stripSuffix
  constructor
  · intro stripped
    split at stripped
    · rename_i ends
      rw [List.isSuffixOf_iff_suffix] at ends
      obtain ⟨start, joined⟩ := ends
      cases stripped
      apply String.toList_injective
      rw [String.toList_append, String.toList_ofList, ← joined, List.length_append, Nat.add_sub_cancel,
        List.take_left]
    · cases stripped
  · rintro rfl
    rw [if_pos]
    · rw [String.toList_append, List.length_append, Nat.add_sub_cancel, List.take_left, String.ofList_toList]
    · rw [List.isSuffixOf_iff_suffix, String.toList_append]
      exact List.suffix_append _ _

theorem stem_unique {pattern stem held : String} (first : pattern = stem ++ ".*") (second : pattern = held ++ ".*") :
    stem = held :=
  (String.append_left_inj ".*").mp (first.symm.trans second)

theorem dotted_string (pattern : String) :
    dotted (.string pattern) = .ok ((Text.stripSuffix pattern ".*").map (· ++ ".")) := rfl

/-- What a gateway's pattern takes. -/
def Takes (pattern value : String) : Prop :=
  pattern = "*" ∨ pattern = value ∨ ∃ stem rest, pattern = stem ++ ".*" ∧ value = stem ++ "." ++ rest

theorem patternMatches_iff {value pattern : String} :
    patternMatches value (.string pattern) = .ok true ↔ Takes pattern value := by
  unfold patternMatches Takes
  rw [dotted_string]
  by_cases all : pattern = "*"
  · subst all
    exact iff_of_true rfl (.inl rfl)
  · have other : ¬(Value.string pattern).asStr = some "*" := fun same => all (Option.some.inj same)
    rw [if_neg other, ok_bind]
    cases stripped : Text.stripSuffix pattern ".*" with
    | none =>
        have plain : ¬∃ stem rest, pattern = stem ++ ".*" ∧ value = stem ++ "." ++ rest := by
          intro ⟨stem, rest, dots, _⟩
          rw [stripSuffix_eq_some.mpr dots] at stripped
          cases stripped
        have equal : ((Value.string pattern).asStr == some value) = decide (pattern = value) := by
          show (some pattern == some value) = _
          rw [Option.some_beq_some]
          rfl
        rw [Option.map_none]
        dsimp only
        rw [pure_eq_ok, equal, decide_eq_true_eq, or_iff_right all, or_iff_left plain]
    | some stem =>
        have dots := stripSuffix_eq_some.mp stripped
        rw [Option.map_some]
        dsimp only
        rw [pure_eq_ok, Text.startsWith_iff, or_iff_right all]
        constructor
        · intro ⟨rest, below⟩
          exact .inr ⟨stem, rest, dots, below⟩
        · intro taken
          rcases taken with same | ⟨held, rest, isPattern, below⟩
          · refine ⟨"*", ?_⟩
            rw [← same, dots, String.append_assoc]
            rfl
          · rw [dots] at isPattern
            rw [stem_unique rfl isPattern]
            exact ⟨rest, below⟩

theorem patternMatches_ok (value pattern : String) : ∃ taken, patternMatches value (.string pattern) = .ok taken := by
  unfold patternMatches
  rw [dotted_string]
  split
  · exact ⟨_, rfl⟩
  · rw [ok_bind]
    cases (Text.stripSuffix pattern ".*").map (· ++ ".") with
    | none => exact ⟨_, rfl⟩
    | some start => exact ⟨_, rfl⟩

theorem size_dot : ".".utf8ByteSize = 1 := by
  decide

theorem size_star : "*".utf8ByteSize = 1 := by
  decide

theorem size_dots : ".*".utf8ByteSize = 2 := by
  decide

theorem octets_dot : Text.octets "." = [0x2e] := by
  decide

/-- A text begins with a dot when its first octet is one. -/
theorem begins_with_dot {tail : String} (first : (Text.octets tail)[0]? = some 0x2e) : ∃ rest, tail = "." ++ rest := by
  apply Text.startsWith_iff.mp
  unfold Text.startsWith
  rw [octets_dot]
  cases read : Text.octets tail with
  | nil =>
      rw [read] at first
      cases first
  | cons octet others =>
      rw [read] at first
      cases first
      rfl

/-- What follows the stem of a value the kernel takes by a dotted pattern. -/
theorem below_stem_iff {stem value : String} :
    (decide (stem.utf8ByteSize + 1 < value.utf8ByteSize) && Text.startsWith value stem
      && (Text.octets value)[stem.utf8ByteSize]? == some 0x2e) = true ↔
      ∃ rest, value = stem ++ "." ++ rest ∧ rest ≠ "" := by
  rw [Bool.and_eq_true, Bool.and_eq_true, decide_eq_true_eq, Text.startsWith_iff, beq_iff_eq]
  constructor
  · intro ⟨⟨longer, tail, joined⟩, dot⟩
    subst joined
    rw [Text.octets_append, Text.utf8ByteSize_eq, List.getElem?_append_right (Nat.le_refl _), Nat.sub_self] at dot
    obtain ⟨rest, rfl⟩ := begins_with_dot dot
    refine ⟨rest, (String.append_assoc ..).symm, ?_⟩
    intro empty
    rw [empty, String.append_empty, String.utf8ByteSize_append, size_dot] at longer
    omega
  · intro ⟨rest, joined, some_⟩
    subst joined
    refine ⟨⟨?_, "." ++ rest, String.append_assoc ..⟩, ?_⟩
    · rw [String.utf8ByteSize_append, String.utf8ByteSize_append, size_dot]
      have positive : rest.utf8ByteSize ≠ 0 := by
        intro none
        exact some_ (String.utf8ByteSize_eq_zero_iff.mp none)
      omega
    · rw [String.append_assoc, Text.octets_append, Text.utf8ByteSize_eq,
        List.getElem?_append_right (Nat.le_refl _), Nat.sub_self, Text.octets_append, octets_dot]
      rfl

/-- The kernel takes what the gateway takes, but for a value of which the pattern asks one more character. -/
theorem matchesPattern_iff {value pattern : String} :
    matchesPattern pattern value = true ↔ Takes pattern value ∧ ¬OnlyDot pattern value := by
  unfold matchesPattern
  by_cases plain : pattern = "*" ∨ pattern = value
  · have exact_ : (pattern == "*" || pattern == value) = true := by simpa using plain
    rw [if_pos exact_]
    refine iff_of_true rfl ⟨?_, ?_⟩
    · rcases plain with all | same
      · exact .inl all
      · exact .inr (.inl same)
    · intro ⟨stem, isValue, isPattern⟩
      rcases plain with all | same
      · have size := congrArg String.utf8ByteSize (isPattern.symm.trans all)
        rw [String.utf8ByteSize_append, size_dots, size_star] at size
        omega
      · have size := congrArg String.utf8ByteSize (isPattern.symm.trans (same.trans isValue))
        rw [String.utf8ByteSize_append, String.utf8ByteSize_append, size_dots, size_dot] at size
        omega
  · have other : ¬(pattern == "*" || pattern == value) = true := by simpa using plain
    have takes : Takes pattern value ↔ ∃ stem rest, pattern = stem ++ ".*" ∧ value = stem ++ "." ++ rest := by
      unfold Takes
      rw [← or_assoc, or_iff_right plain]
    rw [if_neg other, takes]
    cases stripped : Text.stripSuffix pattern ".*" with
    | none =>
        refine iff_of_false Bool.false_ne_true ?_
        intro ⟨⟨stem, rest, dots, _⟩, _⟩
        rw [stripSuffix_eq_some.mpr dots] at stripped
        cases stripped
    | some stem =>
        have dots := stripSuffix_eq_some.mp stripped
        dsimp only
        rw [below_stem_iff]
        constructor
        · intro ⟨rest, joined, some_⟩
          refine ⟨⟨stem, rest, dots, joined⟩, ?_⟩
          intro ⟨held, isValue, isPattern⟩
          rw [joined, stem_unique dots isPattern] at isValue
          have size := congrArg String.utf8ByteSize isValue
          rw [String.utf8ByteSize_append] at size
          exact some_ (String.utf8ByteSize_eq_zero_iff.mp (by omega))
        · intro ⟨⟨held, rest, isPattern, joined⟩, more⟩
          have same := stem_unique isPattern dots
          subst same
          refine ⟨rest, joined, ?_⟩
          intro empty
          rw [empty, String.append_empty] at joined
          exact more ⟨held, joined, dots⟩

end Patterns

section Scopes

theorem anyOf_eq_true {α : Type} {test : α → Result Bool} {items : List α}
    (total : ∀ item ∈ items, ∃ answer, test item = .ok answer) :
    anyOf test items = .ok true ↔ ∃ item ∈ items, test item = .ok true := by
  induction items with
  | nil => exact iff_of_false (by intro same; cases same) (by intro ⟨_, inside, _⟩; cases inside)
  | cons first rest ih =>
      have later := ih fun item inside => total item (List.mem_cons_of_mem _ inside)
      obtain ⟨answer, answered⟩ := total first List.mem_cons_self
      rw [anyOf, answered, ok_bind]
      cases answer with
      | true => exact iff_of_true rfl ⟨first, List.mem_cons_self, answered⟩
      | false =>
          show anyOf test rest = .ok true ↔ _
          rw [later]
          constructor
          · intro ⟨item, inside, holds⟩
            exact ⟨item, List.mem_cons_of_mem _ inside, holds⟩
          · intro ⟨item, inside, holds⟩
            rcases List.mem_cons.mp inside with same | others
            · rw [same, answered] at holds
              cases holds
            · exact ⟨item, others, holds⟩

/-- The patterns of a dimension, as a list of texts. -/
theorem patterns_eq_ok {scope : Value} {dimension : String} {names : List String}
    (read : patterns scope dimension = .ok names) :
    (scope.get dimension).bind Value.asArray = some (names.map .string) := by
  unfold patterns at read
  rw [okOr_bind_eq_ok] at read
  obtain ⟨items, found, mapped⟩ := read
  rw [found]
  congr 1
  have each := mapChecked_eq_ok.mp mapped
  clear found mapped
  induction each with
  | nil => rfl
  | @cons item name items names known _ ih =>
      rw [okOr_eq_ok] at known
      rw [ih, List.map_cons]
      congr 1
      cases item with
      | string s =>
          cases known
          rfl
      | null => cases known
      | bool b => cases known
      | number n => cases known
      | array inner => cases known
      | object inner => cases known

theorem dimensionPermits_iff {scope : Value} {dimension value : String} {names : List String}
    (read : patterns scope dimension = .ok names) :
    dimensionPermits scope dimension value = .ok true ↔ ∃ pattern ∈ names, Takes pattern value := by
  obtain ⟨list, found, isArray⟩ := Option.bind_eq_some_iff.mp (patterns_eq_ok read)
  have isList : list = .array (names.map .string) := by
    cases list with
    | array items =>
        cases isArray
        rfl
    | null => cases isArray
    | bool b => cases isArray
    | number n => cases isArray
    | string s => cases isArray
    | object members => cases isArray
  have looked : lookupOr scope dimension (.array []) = .ok (.array (names.map .string)) := by
    cases scope with
    | object members =>
        have inside : Members.get members dimension = some list := found
        show Except.ok ((Members.get members dimension).getD _) = _
        rw [inside, isList]
        rfl
    | null => cases found
    | bool b => cases found
    | number n => cases found
    | string s => cases found
    | array items => cases found
  unfold dimensionPermits matchesAny
  rw [looked, ok_bind]
  show anyOf (patternMatches value) (names.map .string) = .ok true ↔ _
  rw [anyOf_eq_true]
  · constructor
    · intro ⟨item, inside, holds⟩
      obtain ⟨pattern, held, rfl⟩ := List.mem_map.mp inside
      exact ⟨pattern, held, patternMatches_iff.mp holds⟩
    · intro ⟨pattern, held, takes⟩
      exact ⟨_, List.mem_map_of_mem held, patternMatches_iff.mpr takes⟩
  · intro item inside
    obtain ⟨pattern, _, rfl⟩ := List.mem_map.mp inside
    exact patternMatches_ok value pattern

theorem kernelPermits_iff {scope : Value} {dimension value : String} {names : List String}
    (read : patterns scope dimension = .ok names) :
    Stozher.Mandate.dimensionPermits scope dimension value = .ok true ↔
      ∃ pattern ∈ names, Takes pattern value ∧ ¬OnlyDot pattern value := by
  unfold Stozher.Mandate.dimensionPermits
  rw [read, ok_bind, pure_eq_ok, List.any_eq_true]
  simp only [matchesPattern_iff]

/-- The values a walk looks for in a scope. -/
def wanted : Scoped → List (String × String)
  | .full request => [("components", request.component), ("actions", request.action),
      ("classes", request.classification), ("resources", request.resource)]
  | .byResource resource => [("resources", resource)]
  | .not => []

theorem permitted_iff {scope : Value} {request : Scoped} : request.Permitted scope ↔
    ∀ asked ∈ wanted request, Stozher.Mandate.dimensionPermits scope asked.1 asked.2 = .ok true := by
  cases request with
  | full request => exact everyChecked_eq_true
  | byResource resource =>
      unfold Scoped.Permitted wanted
      rw [List.forall_mem_singleton]
  | not => exact iff_of_true trivial (by intro asked inside; cases inside)

/-- A pattern of a dimension of a scope. -/
def Listed (scope : Value) (dimension pattern : String) : Prop :=
  ∃ items, (scope.get dimension).bind Value.asArray = some items ∧ Value.string pattern ∈ items

/-- Where a value ends in a dot and a scope lists it with a star, another pattern takes it too. -/
def SparesDot (scope : Value) (asked : String × String) : Prop :=
  ∀ stem, asked.2 = stem ++ "." → Listed scope asked.1 (stem ++ ".*") →
    ∃ pattern, Listed scope asked.1 pattern ∧ Takes pattern asked.2 ∧ pattern ≠ stem ++ ".*"

theorem listed_iff {scope : Value} {dimension pattern : String} {names : List String}
    (read : patterns scope dimension = .ok names) : Listed scope dimension pattern ↔ pattern ∈ names := by
  unfold Listed
  rw [patterns_eq_ok read]
  constructor
  · intro ⟨items, same, inside⟩
    cases same
    obtain ⟨other, held, same⟩ := List.mem_map.mp inside
    cases same
    exact held
  · intro held
    exact ⟨_, rfl, List.mem_map_of_mem held⟩

/-- What the gateway permits the kernel permits exactly where no value is taken for its dot alone. -/
theorem permits_iff_sparesDot {scope : Value} {asked : String × String} {names : List String}
    (read : patterns scope asked.1 = .ok names) (permits : dimensionPermits scope asked.1 asked.2 = .ok true) :
    Stozher.Mandate.dimensionPermits scope asked.1 asked.2 = .ok true ↔ SparesDot scope asked := by
  rw [kernelPermits_iff read]
  constructor
  · intro ⟨pattern, held, takes, more⟩ stem dot _
    refine ⟨pattern, (listed_iff read).mpr held, takes, ?_⟩
    intro same
    exact more ⟨stem, dot, same⟩
  · intro spares
    obtain ⟨pattern, held, takes⟩ := (dimensionPermits_iff read).mp permits
    by_cases only : OnlyDot pattern asked.2
    · obtain ⟨stem, dot, rfl⟩ := only
      obtain ⟨other, listed, takes, differs⟩ := spares stem dot ((listed_iff read).mpr held)
      refine ⟨other, (listed_iff read).mp listed, takes, ?_⟩
      intro ⟨held, isValue, isOther⟩
      rw [dot] at isValue
      rw [(String.append_left_inj ".").mp isValue] at differs
      exact differs isOther
    · exact ⟨pattern, held, takes, only⟩

end Scopes

end Stozher.Gateway.MandateWalk
