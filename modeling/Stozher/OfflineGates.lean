import Stozher.Classification
import Stozher.Deployment
import Stozher.ScopeInclusion
import Mathlib.Algebra.Order.BigOperators.Group.List

namespace Stozher

open Library Library.Text

namespace Library

variable {α : Type} {rules : List α} {matches_ : α → Bool} {chosen : α → Prop}

/-- The first match is none of the chosen rules exactly when an earlier rule matches wherever a chosen one does. -/
theorem first_match_not_iff : (∀ rule, rules.find? matches_ = some rule → ¬chosen rule) ↔
    ∀ before rule after, rules = before ++ rule :: after → chosen rule → matches_ rule = true →
      ∃ earlier ∈ before, matches_ earlier = true := by
  constructor
  · intro never before rule after split isChosen takes
    by_contra alone
    refine never rule ?_ isChosen
    refine List.find?_eq_some_iff_append.mpr ⟨takes, before, after, split, ?_⟩
    intro earlier member
    rw [Bool.not_eq_true', Bool.eq_false_iff]
    exact fun takesEarlier => alone ⟨earlier, member, takesEarlier⟩
  · intro covered rule found isChosen
    obtain ⟨takes, before, after, split, first⟩ := List.find?_eq_some_iff_append.mp found
    obtain ⟨earlier, member, takesEarlier⟩ := covered before rule after split isChosen takes
    have passed := first earlier member
    rw [takesEarlier] at passed
    cases passed

end Library

namespace Mandate

/-- Some name is taken by none of a list of patterns without a star. -/
theorem exists_untaken {names : List String} (starless : "*" ∉ names) :
    ∃ value, value ≠ "*" ∧ ∀ pattern ∈ names, matchesPattern pattern value = false := by
  let longest := (names.map fun name => name.toList.length).sum
  let value := String.ofList (List.replicate (longest + 1) 'a')
  have letters : ∀ c ∈ value.toList, c = 'a' := by
    intro c member
    rw [String.toList_ofList] at member
    exact List.eq_of_mem_replicate member
  refine ⟨value, ?_, ?_⟩
  · intro star
    have isStar : '*' ∈ value.toList := by
      rw [star]
      decide
    exact absurd (letters '*' isStar) (by decide)
  · intro pattern member
    rw [Bool.eq_false_iff, Ne, matches_iff]
    rintro (all | same | ⟨stem, _, rest, joined, _⟩)
    · exact starless (all ▸ member)
    · have size : pattern.toList.length = longest + 1 := by
        rw [same, String.toList_ofList, List.length_replicate]
      have bounded : pattern.toList.length ≤ longest :=
        List.single_le_sum (fun _ _ => Nat.zero_le _) _ (List.mem_map_of_mem member)
      omega
    · have dot : '.' ∈ value.toList := by
        rw [joined, String.toList_append, String.toList_append]
        exact List.mem_append_left _ (List.mem_append_right _ (by decide))
      exact absurd (letters '.' dot) (by decide)

end Mandate

namespace Policy

variable {ext : External} {document : Value} {policyKey : KeyId} {policy : Policy} {rule : Value} {class_ action : String}

/-- Whether a rule lists the class. -/
def listsClass (rule : Value) (class_ : String) : Bool :=
  ((rule.index "classes").asArray.getD []).any fun c => c.asStr == some class_

/-- The patterns of the actions a rule is for: its own, or all of them where it has none. -/
def rulePatterns (rule : Value) : List String :=
  match (rule.get "actions").bind Value.asArray with
  | some actions => actions.filterMap Value.asStr
  | none => ["*"]

theorem ruleMatches_eq (named : action ≠ "*") : ruleMatches rule class_ action =
    (listsClass rule class_ && (rulePatterns rule).any (Mandate.matchesPattern · action)) := by
  unfold ruleMatches rulePatterns listsClass
  rw [if_neg named]
  cases (rule.get "actions").bind Value.asArray with
  | some actions => rfl
  | none =>
      have all : Mandate.matchesPattern "*" action = true := Mandate.matches_iff.mpr (.inl rfl)
      dsimp only
      rw [List.any_cons, all, Bool.true_or]

/-- Each pattern of each gate rule that lists the class is covered by one of an earlier rule that lists it. -/
def GatesCovered (rules : List Value) (class_ : String) : Prop :=
  ∀ before rule after, rules = before ++ rule :: after → listsClass rule class_ = true →
    (ruleDecision rule).isGate = true → ∀ pattern ∈ rulePatterns rule,
      ∃ earlier ∈ before, listsClass earlier class_ = true ∧
        ∃ wider ∈ rulePatterns earlier, Mandate.coversPattern wider pattern = true

theorem decisionIn_isGate {rules : List Value} (listed : (document.index "gate-rules").asArray = some rules) :
    (decisionIn document class_ action).isGate = false ↔
      ∀ rule, rules.find? (ruleMatches · class_ action) = some rule → ¬(ruleDecision rule).isGate = true := by
  unfold decisionIn
  rw [listed]
  dsimp only
  cases rules.find? (ruleMatches · class_ action) with
  | none => simp [Decision.isGate]
  | some rule => simp

/-- Rules that do not gate the class as a whole gate none of its actions exactly when their gates are covered. -/
theorem gatesCovered_iff {rules : List Value} (listed : (document.index "gate-rules").asArray = some rules)
    (whole : (decisionIn document class_ "*").isGate = false) :
    (∀ action, (decisionIn document class_ action).isGate = false) ↔ GatesCovered rules class_ := by
  constructor
  · intro never before rule after split lists gates pattern own
    by_contra uncovered
    have lone : ∀ earlier ∈ before, listsClass earlier class_ = true →
        ∀ wider ∈ rulePatterns earlier, Mandate.matchesPattern wider pattern = false := by
      intro earlier member also wider held
      rw [Bool.eq_false_iff, ← Mandate.coversPattern_eq]
      exact fun covers => uncovered ⟨earlier, member, also, wider, held, covers⟩
    -- an action the pattern takes and no earlier pattern does
    obtain ⟨action, named, takes, untaken⟩ : ∃ action, action ≠ "*" ∧ Mandate.matchesPattern pattern action = true ∧
        ∀ earlier ∈ before, listsClass earlier class_ = true →
          ∀ wider ∈ rulePatterns earlier, Mandate.matchesPattern wider action = false := by
      by_cases star : pattern = "*"
      · let names := (before.filter (listsClass · class_)).flatMap rulePatterns
        have starless : "*" ∉ names := by
          intro member
          obtain ⟨earlier, kept, held⟩ := List.mem_flatMap.mp member
          obtain ⟨isEarlier, also⟩ := List.mem_filter.mp kept
          have refused := lone earlier isEarlier also "*" held
          rw [Mandate.matches_iff.mpr (.inl rfl)] at refused
          cases refused
        obtain ⟨action, named, untaken⟩ := Mandate.exists_untaken starless
        refine ⟨action, named, Mandate.matches_iff.mpr (.inl star), ?_⟩
        intro earlier member also wider held
        exact untaken wider (List.mem_flatMap.mpr ⟨earlier, List.mem_filter.mpr ⟨member, also⟩, held⟩)
      · exact ⟨pattern, star, Mandate.matches_self pattern, lone⟩
    have first := (decisionIn_isGate listed).mp (never action)
    have own : ruleMatches rule class_ action = true := by
      rw [ruleMatches_eq named, lists, Bool.true_and]
      exact List.any_eq_true.mpr ⟨pattern, own, takes⟩
    obtain ⟨earlier, member, also⟩ := first_match_not_iff.mp first before rule after split gates own
    rw [ruleMatches_eq named, Bool.and_eq_true] at also
    obtain ⟨wider, held, taken⟩ := List.any_eq_true.mp also.2
    rw [untaken earlier member also.1 wider held] at taken
    cases taken
  · intro covered action
    by_cases star : action = "*"
    · exact star ▸ whole
    · refine (decisionIn_isGate listed).mpr (first_match_not_iff.mpr ?_)
      intro before rule after split gates takes
      rw [ruleMatches_eq star, Bool.and_eq_true] at takes
      obtain ⟨pattern, own, taken⟩ := List.any_eq_true.mp takes.2
      obtain ⟨earlier, member, also, wider, held, covers⟩ := covered before rule after split takes.1 gates pattern own
      refine ⟨earlier, member, ?_⟩
      rw [ruleMatches_eq star, also, Bool.true_and]
      exact List.any_eq_true.mpr ⟨wider, held, Mandate.coversPattern_iff.mp covers action taken⟩

/-- What a policy says of its own work offline was checked against its gate rules as a whole. -/
theorem parse_offline (parsed : parse ext document policyKey = .ok policy) : policy.document = document ∧
    (∃ rules, (document.index "gate-rules").asArray = some rules) ∧
    ((document.index "offline").getStr "consequential" = some "allow" →
      (decisionIn document "consequential" "*").isGate = false) := by
  have passed := parse_parsed parsed
  refine ⟨passed.kept, ?_, ?_⟩
  · have rules := passed.gateRules
    unfold validateGateRules at rules
    simp only [bind_eq_ok, okOr_eq_ok] at rules
    obtain ⟨list, listed, _⟩ := rules
    exact ⟨list, listed⟩
  · intro allowed
    have offline := passed.offline
    unfold validateOffline at offline
    simp only [bind_eq_ok, okOr_eq_ok, require_eq_ok] at offline
    obtain ⟨map, object, _, _, apart⟩ := offline
    rw [Value.getStr_of_asObject object] at allowed
    rw [Bool.eq_false_iff]
    exact fun gates => apart ⟨allowed, gates⟩

/-- A policy that allows consequential work offline gates none of it exactly when each of its gates on consequential
work is covered by an earlier rule. -/
theorem offline_gates_none_iff (parsed : parse ext document policyKey = .ok policy)
    (allowed : (policy.document.index "offline").getStr "consequential" = some "allow") :
    (∀ action, (policy.decisionFor "consequential" action).isGate = false) ↔
      GatesCovered ((policy.document.index "gate-rules").asArray.getD []) "consequential" := by
  obtain ⟨same, ⟨rules, listed⟩, whole⟩ := parse_offline parsed
  unfold decisionFor
  rw [same] at allowed ⊢
  rw [listed, Option.getD_some]
  exact gatesCovered_iff listed (whole allowed)

end Policy

end Stozher

namespace Stozher.Deployment

open Library Library.Text Recorded

/-- The policy with these gate rules, and consequential work allowed offline. -/
def offlineDocument (rules : List Value) (sig : Members) : Value :=
  match policyDocument sig with
  | .object members => .object (members.map fun member =>
      if member.1 = "gate-rules" then (member.1, .array rules)
      else if member.1 = "offline" then
        (member.1, .object [("benign", .string "allow"), ("consequential", .string "allow"),
          ("prohibited", .string "block"), ("read", .string "allow")])
      else member)
  | other => other

/-- A gate on what is denied already, and leave for the rest. -/
def coveredRules : List Value := [
  .object [("actions", texts ["github.*"]), ("classes", texts ["consequential"]), ("decision", .string "deny")],
  .object [("actions", texts ["github.merge"]), ("approvers", texts ["human:ana"]),
    ("classes", texts ["consequential"]), ("decision", .string "gate")],
  .object [("classes", texts ["consequential"]), ("decision", .string "allow")]]

/-- Leave for one action, and a gate on the rest. -/
def narrowRules : List Value := [
  .object [("actions", texts ["kernel.note"]), ("classes", texts ["consequential"]), ("decision", .string "allow")],
  .object [("approvers", texts ["human:mira"]), ("classes", texts ["consequential"]), ("decision", .string "gate")]]

def coveredPolicy : Recorded where
  form := offlineDocument coveredRules
  sealed := some (orgKey, signatureText
    0xedea7bcb74d01a873994b61353b241f54327ac1cb59e0e7097ee850ecd5e7bf7
    0x18e5b4ea03dee057798bbbd917232630a418273c90535711151637d43ff27e0a)
  digest := hex 64 0xe0a78441ab7171e9249694e92993f43cbca96a94d546b37a910964ed9516e61d

def narrowPolicy : Recorded where
  form := offlineDocument narrowRules
  sealed := some (orgKey, signatureText
    0xfe769ecf28c06bd48c5c40739e6ef99f0346bb58359c4114cbca259b54625201
    0x09104ef1493ddc36ce520c86c8d5d550d0f56c3553a6dd623c60a6184d70d002)
  digest := hex 64 0x17c22cb34792bf903f4fd877d2c6b86f2282d6e8b216fcc82aab0a6cf0995ca7

def offlineExt : External :=
  external [coveredPolicy, narrowPolicy]

/-- The gate rules of the two policies, what they say of work offline, and of one action. -/
structure OfflineSeen : Prop where
  covered : (Policy.parse offlineExt coveredPolicy.document orgId).toOption.map (fun policy =>
    (((policy.document.index "offline").getStr "consequential"), (policy.document.index "gate-rules").asArray)) =
      some (some "allow", some coveredRules)
  narrow : (Policy.parse offlineExt narrowPolicy.document orgId).toOption.map (fun policy =>
    (((policy.document.index "offline").getStr "consequential"), policy.decisionFor "consequential" "github.merge")) =
      some (some "allow", .gate ["human:mira"])
  decisions : coveredRules.map (fun rule => (Policy.ruleDecision rule).isGate) = [false, true, false]
  patterns : coveredRules.map Policy.rulePatterns = [["github.*"], ["github.merge"], ["*"]]
  lists : coveredRules.map (fun rule => Policy.listsClass rule "consequential") = [true, true, true]
  covers : Mandate.coversPattern "github.*" "github.merge" = true

theorem offline_seen : OfflineSeen := by
  constructor <;> decide +kernel

theorem coveredRules_covered : Policy.GatesCovered coveredRules "consequential" := by
  have decisions := offline_seen.decisions
  have patterns := offline_seen.patterns
  have lists := offline_seen.lists
  intro before rule after split lists_ gates pattern own
  rw [split] at decisions patterns lists
  rcases before with _ | ⟨first, _ | ⟨second, _ | ⟨third, rest⟩⟩⟩
  · rw [List.nil_append, List.map_cons, List.cons.injEq, gates] at decisions
    exact absurd decisions.1 (by decide)
  · simp only [List.cons_append, List.nil_append, List.map_cons, List.cons.injEq] at patterns lists
    rw [patterns.2.1, List.mem_singleton] at own
    refine ⟨first, List.mem_cons_self, lists.1, "github.*", ?_, own ▸ offline_seen.covers⟩
    rw [patterns.1]
    exact List.mem_cons_self
  · simp only [List.cons_append, List.nil_append, List.map_cons, List.cons.injEq] at decisions
    rw [gates] at decisions
    exact absurd decisions.2.2.1 (by decide)
  · have size := congrArg List.length split
    simp [coveredRules] at size

/-- Under a gate on what is denied already, nothing consequential is gated. -/
theorem covered_gate_never_asked : ∃ covered, Policy.parse offlineExt coveredPolicy.document orgId = .ok covered ∧
    ∀ action, (covered.decisionFor "consequential" action).isGate = false := by
  obtain ⟨covered, parsed, seen⟩ := Option.map_eq_some_iff.mp offline_seen.covered
  rw [Prod.mk.injEq] at seen
  obtain ⟨allowed, listed⟩ := seen
  have accepted := toOption_eq_some.mp parsed
  refine ⟨covered, accepted, (Policy.offline_gates_none_iff accepted allowed).mpr ?_⟩
  rw [listed]
  exact coveredRules_covered

/-- Leave for one action hides the gate on the rest from the check, and a merge is gated. -/
theorem narrow_leave_hides_gate : ¬∀ (ext : External) document policyKey policy,
    Policy.parse ext document policyKey = .ok policy →
      (policy.document.index "offline").getStr "consequential" = some "allow" →
        ∀ action, (policy.decisionFor "consequential" action).isGate = false := by
  intro never
  obtain ⟨narrow, parsed, seen⟩ := Option.map_eq_some_iff.mp offline_seen.narrow
  rw [Prod.mk.injEq] at seen
  obtain ⟨allowed, gated⟩ := seen
  have open_ := never _ _ _ narrow (toOption_eq_some.mp parsed) allowed "github.merge"
  rw [gated] at open_
  cases open_

end Stozher.Deployment
