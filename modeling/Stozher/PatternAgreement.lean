import Stozher.ClassAgreement
import Stozher.Ingest.Approvers
import Stozher.ScopeInclusion

namespace Stozher.PatternVocabulary

open Library Library.Text Gateway.MandateWalk

/-- What the five evaluators answer of a pattern and a value. -/
def answers (pattern value : String) : List (Result Bool) :=
  [.ok (Mandate.matchesPattern pattern value),
    .ok (Ingest.patternCovers value pattern),
    .ok (Policy.dimensionScore (some pattern) value Policy.dimensionWeight).isSome,
    .ok (Gateway.dimensionScore (some (.string pattern)) value).isSome,
    patternMatches value (.string pattern)]

/-- A pattern means one thing for a value. -/
def OneMeaning (pattern value : String) : Prop :=
  ∀ first ∈ answers pattern value, ∀ second ∈ answers pattern value, first = second

/-- A mandate with one action pattern. -/
def forActions (pattern : String) : Value :=
  .object [("scope", .object [("actions", .array [.string pattern])])]

theorem takes_of_dotted {pattern stem value : String} (plain : ¬(pattern = "*" ∨ pattern = value))
    (dots : pattern = stem ++ ".*") : Takes pattern value ↔ ∃ rest, value = stem ++ "." ++ rest := by
  unfold Takes
  rw [← or_assoc, or_iff_right plain]
  constructor
  · intro ⟨held, rest, isPattern, below⟩
    rw [stem_unique dots isPattern]
    exact ⟨rest, below⟩
  · intro ⟨rest, below⟩
    exact ⟨stem, rest, dots, below⟩

theorem not_takes_of_plain {pattern value : String} (plain : ¬(pattern = "*" ∨ pattern = value))
    (undotted : stripSuffix pattern ".*" = none) : ¬Takes pattern value := by
  unfold Takes
  rw [← or_assoc, or_iff_right plain]
  intro ⟨stem, rest, dots, _⟩
  rw [stripSuffix_eq_some.mpr dots] at undotted
  cases undotted

theorem patternCovers_iff {pattern value : String} : Ingest.patternCovers value pattern = true ↔ Takes pattern value := by
  unfold Ingest.patternCovers
  by_cases plain : pattern = "*" ∨ pattern = value
  · have exact_ : (pattern == "*" || pattern == value) = true := by simpa using plain
    rw [exact_, Bool.true_or]
    refine iff_of_true rfl ?_
    rcases plain with all | same
    · exact .inl all
    · exact .inr (.inl same)
  · have other : (pattern == "*" || pattern == value) = false := by simpa using plain
    rw [other, Bool.false_or]
    cases stripped : stripSuffix pattern ".*" with
    | none => exact iff_of_false Bool.false_ne_true (not_takes_of_plain plain stripped)
    | some stem => rw [takes_of_dotted plain (stripSuffix_eq_some.mp stripped), Mandate.under_stem_iff]

theorem dimensionScore_iff {pattern value : String} {weight : Nat} :
    (Policy.dimensionScore (some pattern) value weight).isSome = true ↔ Takes pattern value := by
  unfold Policy.dimensionScore
  dsimp only
  by_cases all : pattern = "*"
  · rw [if_pos all]
    exact iff_of_true rfl (.inl all)
  · rw [if_neg all]
    by_cases same : pattern = value
    · rw [if_pos same]
      exact iff_of_true rfl (.inr (.inl same))
    · have plain : ¬(pattern = "*" ∨ pattern = value) := by
        intro either
        exact either.elim all same
      rw [if_neg same]
      cases stripped : stripSuffix pattern ".*" with
      | none => exact iff_of_false Bool.false_ne_true (not_takes_of_plain plain stripped)
      | some stem =>
          rw [takes_of_dotted plain (stripSuffix_eq_some.mp stripped), ← Mandate.under_stem_iff]
          dsimp only
          rw [Bool.and_eq_true, Bool.and_eq_true, decide_eq_true_eq, beq_iff_eq, and_assoc]
          split
          · rename_i below
            exact iff_of_true rfl below
          · rename_i apart
            exact iff_of_false Bool.false_ne_true apart

theorem gatewayScore_eq (pattern value : String) : Gateway.dimensionScore (some (.string pattern)) value =
    Policy.dimensionScore (some pattern) value Policy.dimensionWeight :=
  Gateway.dimensionScore_eq (some (.string pattern)) value

theorem patternMatches_eq (pattern value : String) :
    patternMatches value (.string pattern) = .ok (Ingest.patternCovers value pattern) := by
  obtain ⟨taken, answered⟩ := patternMatches_ok value pattern
  rw [answered]
  congr 1
  rw [Bool.eq_iff_iff, patternCovers_iff, ← patternMatches_iff, answered, Except.ok.injEq]

/-- Four evaluators answer alike, and the fifth is the walk's. -/
theorem answers_eq (pattern value : String) : answers pattern value =
    .ok (Mandate.matchesPattern pattern value) :: List.replicate 4 (.ok (Ingest.patternCovers value pattern)) := by
  have score : (Policy.dimensionScore (some pattern) value Policy.dimensionWeight).isSome =
      Ingest.patternCovers value pattern := by
    rw [Bool.eq_iff_iff, dimensionScore_iff, patternCovers_iff]
  unfold answers
  rw [gatewayScore_eq, score, patternMatches_eq]
  rfl

theorem matches_eq_iff {pattern value : String} :
    Mandate.matchesPattern pattern value = Ingest.patternCovers value pattern ↔ ¬OnlyDot pattern value := by
  rw [Bool.eq_iff_iff, matchesPattern_iff, patternCovers_iff]
  constructor
  · intro same only
    obtain ⟨stem, isValue, isPattern⟩ := only
    have takes : Takes pattern value := .inr (.inr ⟨stem, "", isPattern, by rw [String.append_empty]; exact isValue⟩)
    exact (same.mpr takes).2 ⟨stem, isValue, isPattern⟩
  · intro more
    exact and_iff_left more

theorem oneMeaning_iff {pattern value : String} : OneMeaning pattern value ↔ ¬OnlyDot pattern value := by
  unfold OneMeaning
  rw [answers_eq, ← matches_eq_iff]
  constructor
  · intro same
    exact Except.ok.inj (same _ List.mem_cons_self _ (List.mem_cons_of_mem _ List.mem_cons_self))
  · intro same first isFirst second isSecond
    rw [same] at isFirst isSecond
    have all : ∀ answer ∈ Except.ok (Ingest.patternCovers value pattern) ::
        List.replicate 4 (Except.ok (ε := Error) (Ingest.patternCovers value pattern)),
        answer = .ok (Ingest.patternCovers value pattern) := by
      intro answer inside
      rcases List.mem_cons.mp inside with is | later
      · exact is
      · exact List.eq_of_mem_replicate later
    rw [all first isFirst, all second isSecond]

theorem coversAction_forActions (pattern value : String) : Ingest.coversAction (forActions pattern) value =
    (value.isEmpty || Ingest.patternCovers value pattern) := by
  show (value.isEmpty || [pattern].any (Ingest.patternCovers value)) = _
  rw [List.any_cons, List.any_nil, Bool.or_false]

/-- No action at all is a value that the approvers' evaluator never refuses. -/
theorem coversAction_eq_iff {pattern value : String} :
    Ingest.coversAction (forActions pattern) value = Ingest.patternCovers value pattern ↔
      (value = "" → pattern = "*" ∨ pattern = "") := by
  rw [coversAction_forActions]
  by_cases empty : value = ""
  · subst empty
    have takes : Takes pattern "" ↔ pattern = "*" ∨ pattern = "" := by
      constructor
      · intro taken
        rcases taken with all | same | ⟨stem, rest, _, joined⟩
        · exact .inl all
        · exact .inr same
        · have sizes := congrArg String.utf8ByteSize joined
          rw [String.utf8ByteSize_append, String.utf8ByteSize_append, size_dot] at sizes
          have zero : "".utf8ByteSize = 0 := by decide
          omega
      · intro either
        rcases either with all | same
        · exact .inl all
        · exact .inr (.inl same)
    rw [show "".isEmpty = true by decide, Bool.true_or, eq_comm, patternCovers_iff, takes]
    exact ⟨fun either _ => either, fun either => either rfl⟩
  · have other : value.isEmpty = false := by
      rw [Bool.eq_false_iff]
      intro same
      exact empty (String.isEmpty_iff.mp same)
    rw [other, Bool.false_or]
    exact iff_of_true rfl fun same => absurd same empty

/-- The five evaluators agree exactly where the value does not end at the dot of the pattern, and the check
of the approvers' mandates, read whole, where there is an action besides. -/
theorem evaluators_agree_iff (pattern value : String) :
    (OneMeaning pattern value ↔ ¬OnlyDot pattern value) ∧
    (OneMeaning pattern value ∧
      Ingest.coversAction (forActions pattern) value = Mandate.matchesPattern pattern value ↔
        ¬OnlyDot pattern value ∧ (value = "" → pattern = "*" ∨ pattern = "")) := by
  refine ⟨oneMeaning_iff, ?_⟩
  rw [oneMeaning_iff]
  apply and_congr_right
  intro more
  rw [matches_eq_iff.mpr more]
  exact coversAction_eq_iff

/-- `github.` is an action for every evaluator of `github.*` but the walk's. -/
theorem github_dot_read_twice : ¬∀ pattern value, OneMeaning pattern value := by
  intro one
  have same := one "github.*" "github." _ List.mem_cons_self _ (List.mem_cons_of_mem _ List.mem_cons_self)
  exact absurd same (by decide)

end Stozher.PatternVocabulary
