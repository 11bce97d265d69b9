import Stozher.Error
import Stozher.Gateway.Durations
import Stozher.Gateway.Enforcement
import Stozher.Gateway.Passes
import Stozher.Gateway.PolicyProvider
import Stozher.Gateway.RevocationFeed
import Stozher.Gateway.Spending
import Stozher.Sync

namespace Stozher.Gateway.Sync

open Library

inductive Step where
  | serve
  | refuse
  deriving DecidableEq

/-- What to do, the code a refusal carries verbatim, and whether it is a finding. -/
structure SyncDecision where
  action : Step
  reasonCode : Option String
  finding : Bool
  deriving DecidableEq

def noGraceReasons : List String := ["policy-not-published"]

def noGraceClasses : List String := ["consequential", "prohibited"]

def deniesEveryClass (reasonCode : String) : Bool :=
  Text.startsWith reasonCode "mandate-" || noGraceReasons.contains reasonCode

/-- Decides in milliseconds, which the seconds a float holds are whole numbers of. -/
def decide (outcome : String) (reasonCode : Option String) (classification : String) (elapsedMillis : Int)
    (offline : String) (wedgeGraceSeconds : Int) : Result SyncDecision :=
  if outcome = "accepted" then .ok { action := .serve, reasonCode := none, finding := false }
  else if outcome = "unreachable" then
    if offline = "allow" then .ok { action := .serve, reasonCode := none, finding := false }
    else .ok { action := .refuse, reasonCode := some "policy-stale-offline", finding := false }
  else if outcome ≠ "refused" then .error (err "ValueError" s!"{outcome} is not a submission outcome")
  else
    match reasonCode with
    | none => .error (err "AssertionError" "a refusal carries the kernel's reason code")
    | some reason =>
        let refuse := { action := .refuse, reasonCode := some reason, finding := false }
        if deniesEveryClass reason then .ok refuse
        else if noGraceClasses.contains classification then .ok refuse
        else if elapsedMillis < wedgeGraceSeconds * 1000 then
          .ok { action := .serve, reasonCode := none, finding := true }
        else .ok refuse

/-- What the rule of the kernel's side says, as the gateway puts it. -/
def SyncDecision.ofDecision (decision : Stozher.Sync.Decision) : SyncDecision where
  action := if decision.serve then .serve else .refuse
  reasonCode := decision.reasonCode
  finding := decision.finding

theorem deniesEveryClass_eq (reasonCode : String) :
    deniesEveryClass reasonCode = Stozher.Sync.deniesEveryClass reasonCode := by
  unfold deniesEveryClass Stozher.Sync.deniesEveryClass noGraceReasons
  rw [List.contains_cons, List.contains_nil, Bool.or_false]

/-- The two sides decide alike, where the kernel's counts the whole seconds that have passed. -/
theorem decide_eq {outcome : String} {reasonCode : Option String} (classification : String) (elapsedMillis : Int)
    (offline : String) (wedgeGraceSeconds : Int)
    (known : outcome = "accepted" ∨ outcome = "unreachable" ∨ outcome = "refused" ∧ reasonCode.isSome) :
    decide outcome reasonCode classification elapsedMillis offline wedgeGraceSeconds =
      .ok (.ofDecision (Stozher.Sync.decide {
        outcome, reasonCode, classification, elapsedSeconds := elapsedMillis / 1000, offline, wedgeGraceSeconds })) := by
  have within : elapsedMillis / 1000 < wedgeGraceSeconds ↔ elapsedMillis < wedgeGraceSeconds * 1000 := by
    omega
  unfold decide Stozher.Sync.decide Stozher.Sync.accepted Stozher.Sync.unreachable
  rcases known with rfl | rfl | ⟨rfl, given⟩
  · rfl
  · by_cases allowed : offline = "allow"
    · simp [allowed, SyncDecision.ofDecision]
    · simp [allowed, SyncDecision.ofDecision]
  · obtain ⟨reason, rfl⟩ := Option.isSome_iff_exists.mp given
    simp only [deniesEveryClass_eq, noGraceClasses, within]
    by_cases denied : Stozher.Sync.deniesEveryClass reason = true
    · simp [denied, SyncDecision.ofDecision]
    · by_cases stopped : classification = "consequential" ∨ classification = "prohibited"
      · simp [denied, stopped, SyncDecision.ofDecision]
      · by_cases early : elapsedMillis < wedgeGraceSeconds * 1000
        · simp [denied, stopped, early, SyncDecision.ofDecision]
        · simp [denied, stopped, early, SyncDecision.ofDecision]

end Stozher.Gateway.Sync

namespace Stozher.Gateway

open Library

/-- The caps and the spend of mandate chains, as they were last read. -/
structure BudgetFeed where
  chains : String → Option (List Value)
  checked : String → Option String

namespace BudgetFeed

/-- A feed nothing was read into yet. -/
def new : BudgetFeed where
  chains _ := none
  checked _ := none

def stale (feed : BudgetFeed) (refreshSeconds : Int) (mandateRef now : String) : Result Bool :=
  match feed.checked mandateRef with
  | none => .ok true
  | some checked => do
      let due ← Clock.shift checked refreshSeconds
      return decide (due ≤ now)

def pull (feed : BudgetFeed) (mandateRef : String) (answer : Answer) (now : String) : BudgetFeed :=
  match answer with
  | .error _ => feed
  | .ok response =>
      if response.status ≠ 200 then feed
      else
        match (response.body.get "chain").bind Value.asArray with
        | none => feed
        | some chain => {
            chains := Function.update feed.chains mandateRef (some (chain.filter Value.isObject))
            checked := Function.update feed.checked mandateRef (some now) }

/-- The chain a mandate is held under, refreshed where that is due. -/
def chain (feed : BudgetFeed) (refreshSeconds : Int) (mandateRef : String) (answer : Answer) (now checkedAt : String) :
    Result (BudgetFeed × Option (List Value)) := do
  let stale ← feed.stale refreshSeconds mandateRef now
  let feed := if stale then feed.pull mandateRef answer checkedAt else feed
  return (feed, feed.chains mandateRef)

end BudgetFeed

namespace Policy

variable (policy : Policy)

/-- What becomes of a class of calls while the policy is stale. -/
def offlineFor (classification : String) : String :=
  (((policy.document.index "offline").get classification).map str).getD "block"

def wedgeGraceSeconds (decimal : Char → Option Nat) : Int :=
  match policy.document.getStr "wedge-grace" with
  | none => 300
  | some declared =>
      match Durations.parseDuration decimal declared with
      | .ok seconds => seconds
      | .error _ => 300

def maxDelegationDepth (readInt : String → Option Int) : Result Int :=
  (((policy.document.index "delegation").get "max-depth").map (MandateWalk.int readInt)).getD (.ok 3)

end Policy

namespace Admission

variable (ext : External) (readInt : String → Option Int) (decimal : Char → Option Nat) (config : GatewayConfig)

/-- What a call is decided on besides the call itself. -/
structure Grounds where
  mandate : Value
  fresh : Bool
  revocations : List Value
  wedge : Option Wedge
  budget : Result (Option (List Value))
  wedgeNow : String
  mandateNow : String

/-- A requirement's answer: the call goes on, or is refused. What is no answer to the caller is an error. -/
abbrev Judged := Result (Except Error Unit)

/-- A requirement that is asked only where the one before it is met. -/
def Judged.andThen (first rest : Judged) : Judged := do
  match ← first with
  | .error refusal => return .error refusal
  | .ok _ => rest

theorem Judged.andThen_eq_ok {first rest : Judged} :
    first.andThen rest = .ok (.ok ()) ↔ first = .ok (.ok ()) ∧ rest = .ok (.ok ()) := by
  constructor
  · intro passed
    obtain ⟨verdict, decided, goesOn⟩ := bind_eq_ok.mp passed
    cases verdict with
    | error refusal => cases pure_eq_ok.mp goesOn
    | ok _ => exact ⟨decided, goesOn⟩
  · rintro ⟨rfl, rest⟩
    exact rest

/-- The refusals of the mandate walk. -/
def isRefusal (error : Error) : Bool :=
  Text.startsWith error.code "mandate-" || error.code == "sig-invalid"

/-- What the rule for a stream the kernel refuses makes of a call. -/
def wedgeDecision (work : Work) (wedge : Wedge) (now : String) : Result Sync.SyncDecision := do
  let since ← Clock.parseTimestamp wedge.firstRefusedAt
  let at_ ← Clock.parseTimestamp now
  let classification := work.classification.classification
  Sync.decide "refused" (some wedge.reasonCode) classification (at_ - since) (work.policy.offlineFor classification)
    (work.policy.wedgeGraceSeconds decimal)

/-- Whether the stream of a call may be used. -/
def requireNotWedged (work : Work) (wedge : Option Wedge) (now : String) : Judged :=
  match wedge with
  | none => .ok (.ok ())
  | some wedge => do
      let decision ← wedgeDecision decimal work wedge now
      return require (decision.action = .serve) (err (decision.reasonCode.getD "")
        s!"the kernel refused this stream at seq {wedge.seq} ({wedge.detail}); nothing this component emits is reaching the audit, so it is not acting")

def mandateParams (work : Work) (grounds : Grounds) (maxDepth : Int) : MandateWalk.WalkParams where
  request := some {
    component := config.component
    action := work.classification.action
    classification := work.classification.classification
    resource := work.target }
  resourceOnly := none
  at_ := grounds.mandateNow
  subjectKey := work.session.key.id.text
  roots := config.roots.map fun root => root.key.text
  revocations := grounds.revocations
  maxDepth := maxDepth.toNat

def requireMandate (work : Work) (grounds : Grounds) : Judged := do
  let maxDepth ← work.policy.maxDelegationDepth readInt
  match MandateWalk.verifyMandateChain ext readInt [(work.session.mandateRef, grounds.mandate)]
      work.session.mandateRef (mandateParams config work grounds maxDepth) with
  | .ok _ => return .ok ()
  | .error e => if isRefusal e then return .error e else throw e

def requireOnlineEnough (work : Work) (grounds : Grounds) : Except Error Unit :=
  let behaviour := work.policy.offlineFor work.classification.classification
  require (grounds.fresh = true ∨ behaviour = "allow") (err "policy-stale-offline"
    s!"the cached policy is stale and this class is {behaviour} while offline")

/-- What one more request has no room for. Where the spend was never read, every cap of the mandate itself. -/
def exceededBudget (mandate : Value) (budget : Option (List Value)) : List String :=
  match budget with
  | none => ((mandate.get "budget").bind Value.asObject).elim [] fun caps => caps.keys.insertionSort (· ≤ ·)
  | some chain => Spending.exceededDimensions ext chain [("requests", "1")]

def requireBudget (grounds : Grounds) : Judged := do
  let exceeded := exceededBudget ext grounds.mandate (← grounds.budget)
  return require (exceeded = []) (err "mandate-budget-exhausted"
    ("the mandate chain has no remaining budget for: " ++ ", ".intercalate exceeded))

/-- The requirements between the wedge and the budget. -/
def requireWalked (work : Work) (grounds : Grounds) : Judged :=
  (requireMandate ext readInt config work grounds).andThen (.ok (requireOnlineEnough work grounds))

variable {ext readInt decimal config}

theorem requireNotWedged_eq_ok {work : Work} {standing : Option Wedge} {now : String}
    (passed : requireNotWedged decimal work standing now = .ok (.ok ())) : ∀ wedge, standing = some wedge →
    ∃ decision, wedgeDecision decimal work wedge now = .ok decision ∧ decision.action = .serve := by
  rintro wedge rfl
  unfold requireNotWedged at passed
  obtain ⟨decision, decided, same⟩ := bind_eq_ok.mp passed
  exact ⟨decision, decided, require_eq_ok.mp (pure_eq_ok.mp same)⟩

theorem requireMandate_eq_ok {work : Work} {grounds : Grounds}
    (passed : requireMandate ext readInt config work grounds = .ok (.ok ())) : ∃ maxDepth held,
    work.policy.maxDelegationDepth readInt = .ok maxDepth ∧
      MandateWalk.verifyMandateChain ext readInt [(work.session.mandateRef, grounds.mandate)]
        work.session.mandateRef (mandateParams config work grounds maxDepth) = .ok held := by
  obtain ⟨maxDepth, bounded, rest⟩ := bind_eq_ok.mp passed
  split at rest
  · rename_i held walked
    exact ⟨maxDepth, held, bounded, walked⟩
  · split at rest
    · cases pure_eq_ok.mp rest
    · cases rest

theorem requireBudget_eq_ok {grounds : Grounds} (passed : requireBudget ext grounds = .ok (.ok ())) :
    ∃ chain, grounds.budget = .ok chain ∧ exceededBudget ext grounds.mandate chain = [] := by
  obtain ⟨chain, read, rest⟩ := bind_eq_ok.mp passed
  exact ⟨chain, read, require_eq_ok.mp (pure_eq_ok.mp rest)⟩

theorem requireWalked_eq_ok {work : Work} {grounds : Grounds}
    (passed : requireWalked ext readInt config work grounds = .ok (.ok ())) :
    (∃ maxDepth held, work.policy.maxDelegationDepth readInt = .ok maxDepth ∧
      MandateWalk.verifyMandateChain ext readInt [(work.session.mandateRef, grounds.mandate)]
        work.session.mandateRef (mandateParams config work grounds maxDepth) = .ok held) ∧
      (grounds.fresh = true ∨ work.policy.offlineFor work.classification.classification = "allow") := by
  obtain ⟨mandated, online⟩ := Judged.andThen_eq_ok.mp passed
  exact ⟨requireMandate_eq_ok mandated, require_eq_ok.mp (Except.ok.inj online)⟩

end Admission

end Stozher.Gateway
