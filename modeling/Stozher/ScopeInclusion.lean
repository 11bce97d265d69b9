import Stozher.Deployment
import Stozher.ScopeAgreement

namespace Stozher.Mandate

open Library Library.Text Gateway.MandateWalk

/-- A value lies below a stem: the stem, a dot, and something more. -/
def Below (stem value : String) : Prop :=
  ∃ rest, value = stem ++ "." ++ rest ∧ rest ≠ ""

theorem matches_iff {pattern value : String} : matchesPattern pattern value = true ↔
    pattern = "*" ∨ pattern = value ∨ ∃ stem, pattern = stem ++ ".*" ∧ Below stem value := by
  unfold matchesPattern
  by_cases plain : pattern = "*" ∨ pattern = value
  · have exact_ : (pattern == "*" || pattern == value) = true := by simpa using plain
    rw [if_pos exact_, ← or_assoc]
    exact iff_of_true rfl (.inl plain)
  · have other : ¬(pattern == "*" || pattern == value) = true := by simpa using plain
    rw [if_neg other, ← or_assoc, or_iff_right plain]
    cases stripped : stripSuffix pattern ".*" with
    | none =>
        refine iff_of_false Bool.false_ne_true ?_
        intro ⟨stem, dots, _⟩
        rw [stripSuffix_eq_some.mpr dots] at stripped
        cases stripped
    | some stem =>
        have dots := stripSuffix_eq_some.mp stripped
        dsimp only
        rw [below_stem_iff]
        constructor
        · intro below
          exact ⟨stem, dots, below⟩
        · intro ⟨held, isPattern, below⟩
          rw [stem_unique dots isPattern]
          exact below

theorem matches_self (pattern : String) : matchesPattern pattern pattern = true :=
  matches_iff.mpr (.inr (.inl rfl))

/-- Another matcher's test of a dotted pattern, which asks for nothing after the dot. -/
theorem under_stem_iff {stem value : String} :
    (decide (stem.utf8ByteSize < value.utf8ByteSize) && startsWith value stem
      && (octets value)[stem.utf8ByteSize]? == some 0x2e) = true ↔ ∃ rest, value = stem ++ "." ++ rest := by
  rw [Bool.and_eq_true, Bool.and_eq_true, decide_eq_true_eq, startsWith_iff, beq_iff_eq]
  constructor
  · intro ⟨⟨_, tail, joined⟩, dot⟩
    subst joined
    rw [octets_append, utf8ByteSize_eq, List.getElem?_append_right (Nat.le_refl _), Nat.sub_self] at dot
    obtain ⟨rest, rfl⟩ := begins_with_dot dot
    exact ⟨rest, (String.append_assoc ..).symm⟩
  · intro ⟨rest, joined⟩
    subst joined
    refine ⟨⟨?_, "." ++ rest, String.append_assoc ..⟩, ?_⟩
    · rw [String.utf8ByteSize_append, String.utf8ByteSize_append, size_dot]
      omega
    · rw [String.append_assoc, octets_append, utf8ByteSize_eq, List.getElem?_append_right (Nat.le_refl _),
        Nat.sub_self, octets_append, octets_dot]
      rfl

theorem append_eq_append {first second third fourth : String} (same : first ++ second = third ++ fourth) :
    (∃ between, third = first ++ between ∧ second = between ++ fourth) ∨
      ∃ between, first = third ++ between ∧ fourth = between ++ second := by
  have lists := congrArg String.toList same
  rw [String.toList_append, String.toList_append] at lists
  rcases List.append_eq_append_iff.mp lists with ⟨between, left, right⟩ | ⟨between, left, right⟩
  · left
    refine ⟨String.ofList between, ?_, ?_⟩
    · apply String.toList_injective
      rw [left, String.toList_append, String.toList_ofList]
    · apply String.toList_injective
      rw [right, String.toList_append, String.toList_ofList]
  · right
    refine ⟨String.ofList between, ?_, ?_⟩
    · apply String.toList_injective
      rw [left, String.toList_append, String.toList_ofList]
    · apply String.toList_injective
      rw [right, String.toList_append, String.toList_ofList]

/-- A dotted pattern below a stem has that stem, or a stem that goes on below it. -/
theorem below_dotted {stem other : String} (below : Below stem (other ++ ".*")) :
    other = stem ∨ ∃ rest, other = stem ++ "." ++ rest := by
  obtain ⟨rest, same, more⟩ := below
  have split : other ++ "." ++ "*" = stem ++ "." ++ rest := by
    rw [← same, String.append_assoc]
    rfl
  rcases append_eq_append split with ⟨between, stems, star⟩ | ⟨between, stems, _⟩
  · -- what is left of the star: nothing is, or nothing is left of the rest
    have sizes := congrArg String.utf8ByteSize star
    rw [String.utf8ByteSize_append, size_star] at sizes
    have positive : rest.utf8ByteSize ≠ 0 := fun zero => more (String.utf8ByteSize_eq_zero_iff.mp zero)
    have empty : between = "" := String.utf8ByteSize_eq_zero_iff.mp (by omega)
    rw [empty, String.append_empty] at stems
    exact .inl ((String.append_left_inj ".").mp stems.symm)
  · rcases append_eq_append stems with ⟨tail, longer, dot⟩ | ⟨tail, longer, _⟩
    · have sizes := congrArg String.utf8ByteSize dot
      rw [String.utf8ByteSize_append, size_dot] at sizes
      by_cases empty : tail = ""
      · rw [empty, String.append_empty] at longer
        exact .inr ⟨"", by rw [String.append_empty]; exact longer.symm⟩
      · have positive : tail.utf8ByteSize ≠ 0 := fun zero => empty (String.utf8ByteSize_eq_zero_iff.mp zero)
        have nothing : between = "" := String.utf8ByteSize_eq_zero_iff.mp (by omega)
        rw [nothing, String.append_empty] at stems
        exact .inl ((String.append_left_inj ".").mp stems)
    · exact .inr ⟨tail, longer⟩

theorem dotted_below {stem other : String} :
    Below stem (other ++ ".*") ↔ other = stem ∨ ∃ rest, other = stem ++ "." ++ rest := by
  constructor
  · exact below_dotted
  · intro joined
    rcases joined with same | ⟨rest, same⟩
    · refine ⟨"*", ?_, by decide⟩
      rw [same, String.append_assoc]
      rfl
    · refine ⟨rest ++ ".*", ?_, ?_⟩
      · rw [same, String.append_assoc]
      · intro empty
        have sizes := congrArg String.utf8ByteSize empty
        rw [String.utf8ByteSize_append, size_dots] at sizes
        have zero : "".utf8ByteSize = 0 := by decide
        omega

/-- A pattern covers the patterns it takes as values. -/
theorem coversPattern_eq (parent child : String) : coversPattern parent child = matchesPattern parent child := by
  unfold coversPattern
  by_cases plain : (parent == "*" || parent == child) = true
  · unfold matchesPattern
    rw [if_pos plain, if_pos plain]
  · rw [if_neg plain]
    cases stripped : stripSuffix parent ".*" with
    | none =>
        unfold matchesPattern
        rw [if_neg plain, stripped]
    | some stem =>
        dsimp only
        cases ends : stripSuffix child ".*" with
        | none => rfl
        | some other =>
            dsimp only
            unfold matchesPattern
            rw [if_neg plain, stripped, stripSuffix_eq_some.mp ends]
            dsimp only
            rw [Bool.eq_iff_iff, below_stem_iff, Bool.or_eq_true, beq_iff_eq, under_stem_iff]
            exact dotted_below.symm

theorem matches_trans {wide narrow value : String} (covers : matchesPattern wide narrow = true)
    (takes : matchesPattern narrow value = true) : matchesPattern wide value = true := by
  rcases matches_iff.mp covers with all | same | ⟨stem, dots, below⟩
  · exact matches_iff.mpr (.inl all)
  · exact same ▸ takes
  · refine matches_iff.mpr (.inr (.inr ⟨stem, dots, ?_⟩))
    rcases matches_iff.mp takes with all | same | ⟨other, isNarrow, rest, isValue, more⟩
    · obtain ⟨rest, isStar, more⟩ := below
      have sizes := congrArg String.utf8ByteSize (all.symm.trans isStar)
      rw [size_star, String.utf8ByteSize_append, String.utf8ByteSize_append, size_dot] at sizes
      have positive : rest.utf8ByteSize ≠ 0 := fun zero => more (String.utf8ByteSize_eq_zero_iff.mp zero)
      omega
    · exact same ▸ below
    · rw [isNarrow] at below
      rcases below_dotted below with stems | ⟨between, longer⟩
      · exact ⟨rest, stems ▸ isValue, more⟩
      · refine ⟨between ++ "." ++ rest, ?_, ?_⟩
        · rw [isValue, longer]
          simp only [String.append_assoc]
        · intro empty
          have sizes := congrArg String.utf8ByteSize empty
          rw [String.utf8ByteSize_append, String.utf8ByteSize_append, size_dot] at sizes
          have zero : "".utf8ByteSize = 0 := by decide
          omega

/-- Cover is inclusion of what the patterns take. -/
theorem coversPattern_iff {parent child : String} : coversPattern parent child = true ↔
    ∀ value, matchesPattern child value = true → matchesPattern parent value = true := by
  rw [coversPattern_eq]
  constructor
  · intro covers value takes
    exact matches_trans covers takes
  · intro includes
    exact includes child (matches_self child)

theorem dimensionPermits_eq {scope : Value} {dimension value : String} {names : List String}
    (read : patterns scope dimension = .ok names) :
    dimensionPermits scope dimension value = .ok (names.any (matchesPattern · value)) := by
  unfold dimensionPermits
  rw [read]
  rfl

/-- A scope within another permits nothing the other does not. -/
theorem scopeSubset_permits {child parent : Value} (within : scopeSubset child parent = .ok true)
    {request : MandateRequest} (permits : scopePermits child request = .ok true) :
    scopePermits parent request = .ok true := by
  unfold scopePermits at permits ⊢
  rw [everyChecked_eq_true] at permits ⊢
  intro asked wanted
  have dimension : asked.1 ∈ dimensions := by
    simp only [List.mem_cons, List.not_mem_nil, or_false] at wanted
    rcases wanted with same | same | same | same <;>
      · rw [same]
        simp only [dimensions, List.mem_cons, List.not_mem_nil, or_false, true_or, or_true]
  have covered := everyChecked_eq_true.mp within asked.1 dimension
  simp only [bind_eq_ok, pure_eq_ok] at covered
  obtain ⟨wide, readParent, narrow, readChild, each⟩ := covered
  have permitted := permits asked wanted
  dsimp only at permitted ⊢
  rw [dimensionPermits_eq readChild, Except.ok.injEq, List.any_eq_true] at permitted
  obtain ⟨pattern, held, takes⟩ := permitted
  obtain ⟨wider, listed, covers⟩ := List.any_eq_true.mp (List.all_eq_true.mp each pattern held)
  rw [dimensionPermits_eq readParent, Except.ok.injEq, List.any_eq_true]
  exact ⟨wider, listed, coversPattern_iff.mp covers _ takes⟩

/-- What a mandate's scope permits. -/
def Permits (mandate : Value) (request : MandateRequest) : Prop :=
  ∃ scope, mandate.get "scope" = some scope ∧ scopePermits scope request = .ok true

theorem Delegated.permits {child parent : Value} {parentId : String} (delegation : Delegated child parentId parent)
    {request : MandateRequest} (permits : Permits child request) : Permits parent request := by
  obtain ⟨scope, found, permits⟩ := permits
  obtain ⟨own, above, hasOwn, hasAbove, within⟩ := delegation.scope
  rw [found] at hasOwn
  cases hasOwn
  exact ⟨above, hasAbove, scopeSubset_permits within permits⟩

variable {ext : External} {mandates : Members} {params : VerifyParams} {request : Scoped}

theorem Line.permits {subject : String} {path : List (String × Value)} {asked : MandateRequest}
    (line : Line ext mandates params request subject path) (leaf : ∀ link ∈ path.head?, Permits link.2 asked) :
    ∀ link ∈ path, Permits link.2 asked := by
  induction line with
  | root link granted =>
      intro other inside
      rw [List.mem_singleton] at inside
      exact inside ▸ leaf _ rfl
  | delegated link delegation above ih =>
      have own := leaf _ rfl
      intro other inside
      rcases List.mem_cons.mp inside with same | later
      · exact same ▸ own
      · refine ih ?_ other later
        intro first isFirst
        cases isFirst
        exact delegation.permits own

/-- Delegation never widens: cover is inclusion, a scope within another permits less, and what the leaf
of an accepted chain permits, every mandate above it permits. -/
theorem delegation_narrows :
    (∀ parent child, coversPattern parent child = true ↔
      ∀ value, matchesPattern child value = true → matchesPattern parent value = true) ∧
    (∀ child parent, scopeSubset child parent = .ok true → ∀ request,
      scopePermits child request = .ok true → scopePermits parent request = .ok true) ∧
    ∀ (ext : External) mandates leafRef (request : Scoped) params result,
      walk ext mandates leafRef request params = .ok result → ∃ leaf, mandates.get leafRef = some leaf ∧
        ∀ id, Relation.ReflTransGen (Above (parentOf mandates)) leafRef id →
          ∃ ancestor, mandates.get id = some ancestor ∧ ∀ asked, Permits leaf asked → Permits ancestor asked := by
  refine ⟨fun parent child => coversPattern_iff, fun child parent within request => scopeSubset_permits within, ?_⟩
  intro ext mandates leafRef request params result accepted
  obtain ⟨leaf, rest, stored, _, line, _⟩ := walk_line accepted
  refine ⟨leaf, stored, ?_⟩
  intro id above
  have listed : id ∈ ((leafRef, leaf) :: rest).map Prod.fst := line.ascends.mem_of_above above
  obtain ⟨link, inside, rfl⟩ := List.mem_map.mp listed
  refine ⟨link.2, (line.links link inside).stored, ?_⟩
  intro asked permits
  refine line.permits ?_ link inside
  intro first isFirst
  cases isFirst
  exact permits

end Stozher.Mandate

namespace Stozher.Deployment

open Library Library.Text Recorded Mandate

/-- A mandate for some actions only, with a budget. -/
def chartered (actions : List String) (budget : Members) : Value → Value
  | .object members => .object (("budget", .object budget) ::
      members.map fun member =>
        if member.1 = "scope" then
          (member.1, .object [("actions", texts actions), ("classes", texts ["read", "benign", "consequential"]),
            ("components", texts ["gateway", "kernel"]), ("resources", texts ["*"])])
        else member)
  | other => other

/-- A root's mandate of ten euros and five requests, for every action. -/
def charterMandate : Recorded where
  form sig := chartered ["*"] [("money-eur", .string "10.00"), ("requests", .ofNat 5)]
    (mandate "interactive" "human:ana" anaKey "human" "agent:ops" opsKey none 3 '8' sig)
  sealed := some (anaKey, signatureText
    0x747a6fbcd31a1aa4d175e9036f8664994fac33a4469829805028831222354c93
    0xf2311a0ef60ff8df12279dcadd5e91aa5fac50e1d2b0385a5df5b85d6e467b0e)
  digest := hex 64 0x8185339aad8d5bd419b742c89ec5fd1990c290b9c4614c093fd17d536c568958

/-- What is handed on of it: one server's actions, some of the money, and no word on requests. -/
def handedMandate : Recorded where
  form sig := chartered ["github.*"] [("money-eur", .string "7.5")]
    (mandate "delegated" "agent:ops" opsKey "agent" "agent:helper" strangerKey (some charterMandate.digest) 2 '9' sig)
  sealed := some (opsKey, signatureText
    0x7cc694b476b8015c9dc63b9029f0de17e4c4a10c85f7a524a6ff76d8c068e143
    0x153374108c6ee256a18f1fe05a1d74d82a940d08a751e8c8684e4d6e440c5d03)
  digest := hex 64 0x6c4f1d0a55947ce89b1e30161756abe227bf75ded7f858a335403c40f8009a3a

/-- What is handed on of that: a few of the actions, less money, and a hundred requests. -/
def spreadMandate : Recorded where
  form sig := chartered ["github.issues.*", "github.merge"] [("money-eur", .string "3"), ("requests", .ofNat 100)]
    (mandate "delegated" "agent:helper" strangerKey "agent" "agent:github" githubKey (some handedMandate.digest) 1 'a'
      sig)
  sealed := some (strangerKey, signatureText
    0x94aaa3b498885052362e51ad7dcf5fe1e8eb2ad99e8d3ddba5ab2adc3e995e7e
    0x2b343bcceacbd11ea05698ef18e4c4a3368c24cd4b07b90d789fb12f71a3910b)
  digest := hex 64 0x6931d19b1c9cbd5af1ab37ba7d16d8bcbe19ec521693e4fce997b11b8294cf32

def githubId : KeyId := { text := githubKey, wellFormed := by decide +kernel }

def chainExt : External :=
  external [charterMandate, handedMandate, spreadMandate]

def chainMandates : Members :=
  [charterMandate, handedMandate, spreadMandate].map fun recorded => (recorded.digest, recorded.document)

def chainAt : VerifyParams where
  roots := [anaId]
  revocations := []
  at_ := ten
  subjectKey := githubId
  maxDelegationDepth := 3

def mergeRequested : MandateRequest :=
  { component := "gateway", action := "github.merge", classification := "consequential", resource := "mcp:github" }

def mergeAsked : Scoped :=
  .full mergeRequested

structure ChainSeen : Prop where
  spread : isOk (walk chainExt chainMandates spreadMandate.digest mergeAsked chainAt) = true
  found : chainMandates.get charterMandate.digest = some charterMandate.document ∧
    chainMandates.get handedMandate.digest = some handedMandate.document ∧
    chainMandates.get spreadMandate.digest = some spreadMandate.document
  parents : handedMandate.document.getStr "parent" = some charterMandate.digest ∧
    spreadMandate.document.getStr "parent" = some handedMandate.digest
  within : (scopeSubset (spreadMandate.document.index "scope") (handedMandate.document.index "scope")).toOption =
    some true
  permits : (scopePermits (spreadMandate.document.index "scope") mergeRequested).toOption = some true
  scope : spreadMandate.document.get "scope" = some (spreadMandate.document.index "scope")

theorem chain_seen : ChainSeen := by
  constructor <;> decide +kernel

theorem charter_above_spread :
    Relation.ReflTransGen (Above (parentOf chainMandates)) spreadMandate.digest charterMandate.digest := by
  have first : Above (parentOf chainMandates) spreadMandate.digest handedMandate.digest := by
    unfold Above parentOf
    rw [chain_seen.found.2.2, Option.bind_some]
    exact chain_seen.parents.2
  have second : Above (parentOf chainMandates) handedMandate.digest charterMandate.digest := by
    unfold Above parentOf
    rw [chain_seen.found.2.1, Option.bind_some]
    exact chain_seen.parents.1
  exact .tail (.single first) second

/-- A merge the last mandate of the chain permits is permitted by the mandate before it, and by the first. -/
theorem merge_permitted_above :
    scopePermits (handedMandate.document.index "scope") mergeRequested = .ok true ∧
      Permits charterMandate.document mergeRequested := by
  obtain ⟨_, narrows, climbs⟩ := delegation_narrows
  have permits := toOption_eq_some.mp chain_seen.permits
  refine ⟨narrows _ _ (toOption_eq_some.mp chain_seen.within) _ permits, ?_⟩
  obtain ⟨result, accepted⟩ := isOk_iff.mp chain_seen.spread
  obtain ⟨leaf, stored, above⟩ := climbs _ _ _ _ _ _ accepted
  have isLeaf : leaf = spreadMandate.document := Option.some.inj (stored.symm.trans chain_seen.found.2.2)
  obtain ⟨top, found, narrower⟩ := above _ charter_above_spread
  have isTop : top = charterMandate.document := Option.some.inj (found.symm.trans chain_seen.found.1)
  subst isLeaf isTop
  exact narrower _ ⟨_, chain_seen.scope, permits⟩

end Stozher.Deployment
