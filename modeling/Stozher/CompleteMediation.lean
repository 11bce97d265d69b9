import Stozher.Gateway.Mediation

namespace Stozher.Gateway

open Library Admission

namespace Providers

variable {ext : External} {readInt : String → Option Int} {policyKey : Option String} {past : List ProviderMove}

theorem HandedOut.more {index : Nat} {now : String} {policy : Policy} {fresh : Bool}
    (handed : HandedOut ext readInt policyKey past index now policy fresh) (move : ProviderMove) :
    HandedOut ext readInt policyKey (past ++ [move]) index now policy fresh := by
  obtain ⟨at_, backed, since⟩ := handed.backed
  refine ⟨⟨at_, backed_more backed move, since⟩, ?_⟩
  intro isFresh revokes
  obtain ⟨earlier, member, repulls⟩ := handed.repulled isFresh revokes
  exact ⟨earlier, List.mem_append_left _ member, repulls⟩

end Providers

/-- What is known of a call served on a stream the kernel refuses. -/
structure Gracious (decimal : Char → Option Nat) (work : Work) (wedge : Wedge) (now : String) : Prop where
  reason : Sync.deniesEveryClass wedge.reasonCode = false
  classed : work.classification.classification ≠ "consequential" ∧ work.classification.classification ≠ "prohibited"
  within_ : ∃ since at_, Clock.parseTimestamp wedge.firstRefusedAt = .ok since ∧ Clock.parseTimestamp now = .ok at_ ∧
    at_ - since < work.policy.wedgeGraceSeconds decimal * 1000

theorem gracious_of_serve {decimal : Char → Option Nat} {work : Work} {wedge : Wedge} {now : String}
    {decision : Sync.SyncDecision} (decided : wedgeDecision decimal work wedge now = .ok decision)
    (serve : decision.action = .serve) : Gracious decimal work wedge now := by
  unfold wedgeDecision at decided
  simp only [bind_eq_ok] at decided
  obtain ⟨since, isSince, at_, isAt, decided⟩ := decided
  unfold Sync.decide at decided
  rw [if_neg (by decide), if_neg (by decide), if_neg (by decide)] at decided
  dsimp only at decided
  split at decided
  · cases decided
    cases serve
  · rename_i spared
    split at decided
    · cases decided
      cases serve
    · rename_i graced
      split at decided
      · rename_i early
        refine ⟨Bool.not_eq_true _ ▸ spared, ⟨?_, ?_⟩, since, at_, isSince, isAt, early⟩
        · intro same
          exact graced (by rw [same]; decide)
        · intro same
          exact graced (by rw [same]; decide)
      · cases decided
        cases serve

variable {setup : Setup}

/-- What a call is known to be once it is classified: it is governed by a policy the gateway was handed, and its
arguments have a hash. -/
structure Governed (setup : Setup) (past : List ProviderMove) (caller : Caller setup.ext) (work : Work) (fresh : Bool) :
    Prop where
  policy : ∃ index now handed,
    Providers.HandedOut setup.ext setup.readInt setup.policyKey past index now work.policy handed ∧
      (fresh = true → handed = true)
  hashed : Jcs.objectHash setup.ext work.call.arguments = .ok work.argsHash
  session : work.session = caller.session

/-- What is known of a call at each stage of its way in. -/
def EntryStage.Known (setup : Setup) (past : List ProviderMove) (caller : Caller setup.ext) : EntryStage → Prop
  | .arrived => True
  | .classified work fresh => Governed setup past caller work fresh
  | .informed work fresh _ =>
      Governed setup past caller work fresh ∧ work.classification.classification ≠ "prohibited"
  | .unwedged work fresh _ standing now _ =>
      Governed setup past caller work fresh ∧ work.classification.classification ≠ "prohibited" ∧
        ∀ wedge, standing = some wedge → Gracious setup.decimal work wedge now

/-- What is known of a call that met every requirement. -/
structure Cleared (setup : Setup) (past : List ProviderMove) (admitted : Admittance) : Prop where
  policy : ∃ index now handed,
    Providers.HandedOut setup.ext setup.readInt setup.policyKey past index now admitted.work.policy handed ∧
      (admitted.grounds.fresh = true → handed = true)
  hashed : Jcs.objectHash setup.ext admitted.work.call.arguments = .ok admitted.work.argsHash
  permitted : admitted.work.classification.classification ≠ "prohibited"
  unwedged : ∀ wedge, admitted.grounds.wedge = some wedge →
    Gracious setup.decimal admitted.work wedge admitted.grounds.wedgeNow
  refers : Signed.objectId setup.ext admitted.grounds.mandate = .ok admitted.work.session.mandateRef
  walked : ∃ maxDepth held, admitted.work.policy.maxDelegationDepth setup.readInt = .ok maxDepth ∧
    MandateWalk.verifyMandateChain setup.ext setup.readInt
      [(admitted.work.session.mandateRef, admitted.grounds.mandate)] admitted.work.session.mandateRef
      (mandateParams setup.config admitted.work admitted.grounds maxDepth) = .ok held
  online : admitted.grounds.fresh = true ∨
    admitted.work.policy.offlineFor admitted.work.classification.classification = "allow"
  budget : ∃ chain, admitted.grounds.budget = .ok chain ∧
    exceededBudget setup.ext admitted.grounds.mandate chain = []

section More

variable {past : List ProviderMove} (move : ProviderMove)

theorem Governed.more {caller : Caller setup.ext} {work : Work} {fresh : Bool}
    (ruled : Governed setup past caller work fresh) : Governed setup (past ++ [move]) caller work fresh := by
  obtain ⟨index, now, handed, out, since⟩ := ruled.policy
  exact ⟨⟨index, now, handed, out.more move, since⟩, ruled.hashed, ruled.session⟩

theorem EntryStage.Known.more {caller : Caller setup.ext} {stage : EntryStage} (known : stage.Known setup past caller) :
    stage.Known setup (past ++ [move]) caller := by
  cases stage with
  | arrived => exact known
  | classified work fresh => exact Governed.more move known
  | informed work fresh revocations => exact ⟨known.1.more move, known.2⟩
  | unwedged work fresh revocations standing now counted => exact ⟨known.1.more move, known.2⟩

theorem Cleared.more {admitted : Admittance} (cleared : Cleared setup past admitted) :
    Cleared setup (past ++ [move]) admitted := by
  obtain ⟨index, now, handed, out, since⟩ := cleared.policy
  exact { cleared with policy := ⟨index, now, handed, out.more move, since⟩ }

end More

/-- A call the gateway lets through: it met every requirement, and no rule denies its class. -/
def LetThrough (admitted : List Admittance) (work : Work) : Prop :=
  (work.policy.decisionFor work.classification.classification).kind ≠ "deny" ∧
    ∃ entry ∈ admitted, entry.work = work

structure Enforced (setup : Setup) (state : Guarded setup.ext) : Prop where
  policies : Providers.Vetted setup.ext setup.policyKey state.policies
  entries : ∀ entry ∈ state.entries, entry.stage.Known setup state.policies.past entry.caller
  admitted : ∀ entry ∈ state.admitted, Cleared setup state.policies.past entry
  mediates : Mediates setup.ext setup.config (LetThrough state.admitted) state.enforcer

namespace Enforced

variable {state : Guarded setup.ext}

/-- Another policy move changes nothing of the calls. -/
theorem policed (upheld : Enforced setup state) (move : ProviderMove) : Enforced setup (state.policed setup move) := by
  have grows : (Providers.step setup.ext setup.readInt setup.policyKey setup.refreshSeconds state.policies move).past =
      state.policies.past ++ [move] := Providers.step_past
  refine ⟨upheld.policies.step move, ?_, ?_, upheld.mediates⟩
  · intro entry member
    show entry.stage.Known setup (Providers.step _ _ _ _ _ _).past entry.caller
    rw [grows]
    exact (upheld.entries entry member).more move
  · intro entry member
    show Cleared setup (Providers.step _ _ _ _ _ _).past entry
    rw [grows]
    exact (upheld.admitted entry member).more move

/-- What a process pulls changes nothing of the calls. -/
theorem pulled (upheld : Enforced setup state) (revocations : RevocationCache) (processes : List Process) :
    Enforced setup { state with revocations, processes } :=
  ⟨upheld.policies, upheld.entries, upheld.admitted, upheld.mediates⟩

/-- Nor does what the push passes do. -/
theorem pushed (upheld : Enforced setup state) (pushers : Pushers) : Enforced setup { state with pushers } :=
  ⟨upheld.policies, upheld.entries, upheld.admitted, upheld.mediates⟩

theorem advance (upheld : Enforced setup state) {index : Nat} {entry : Entry setup.ext} {stage : EntryStage}
    (known : stage.Known setup state.policies.past entry.caller) : Enforced setup (state.advance index entry stage) := by
  refine ⟨upheld.policies, ?_, upheld.admitted, upheld.mediates⟩
  intro other member
  rcases List.mem_or_eq_of_mem_set member with earlier | rfl
  · exact upheld.entries other earlier
  · exact known

theorem leave (upheld : Enforced setup state) {index : Nat} {enforcer : Enforcer}
    (mediates : Mediates setup.ext setup.config (LetThrough state.admitted) enforcer) :
    Enforced setup (state.leave index enforcer) :=
  ⟨upheld.policies, fun entry member => upheld.entries entry (List.mem_of_mem_eraseIdx member), upheld.admitted, mediates⟩

theorem rule (upheld : Enforced setup state) {index : Nat} {entry : Entry setup.ext} {provider : PolicyProvider}
    (found : state.policies.providers[entry.process]? = some provider) (reading : PolicyProvider.Reading)
    (manifests : List (String × Value)) : Enforced setup (state.rule index entry provider reading manifests) := by
  have asked := upheld.policed (.current entry.process reading)
  have mediates := upheld.mediates
  unfold Guarded.rule
  dsimp only
  split
  · exact asked.leave mediates
  · rename_i policy fresh answered
    split
    · exact asked.leave mediates.refuseUnhashed
    · rename_i argsHash hashed
      apply asked.advance
      have handed := ((upheld.policies.call found reading).handedOut policy fresh answered)
      refine ⟨⟨entry.process, reading.later, fresh, ?_, id⟩, hashed, rfl⟩
      show Providers.HandedOut _ _ _ (Providers.step _ _ _ _ _ _).past _ _ _ _
      rw [Providers.step_past]
      exact handed

theorem inform (upheld : Enforced setup state) {index : Nat} {entry : Entry setup.ext} {process : Process} {work : Work}
    {fresh : Bool} (ruled : Governed setup state.policies.past entry.caller work fresh)
    (ask : Option String → TaggedAnswer) (now checkedAt : String) :
    Enforced setup (state.inform index entry process work fresh ask now checkedAt) := by
  unfold Guarded.inform
  dsimp only
  split
  · exact (upheld.pulled _ _).leave (upheld.mediates.refuse (by decide))
  · rename_i permitted
    refine (upheld.pulled _ _).advance (show _ ∧ _ from ⟨?_, permitted⟩)
    obtain ⟨at_, asked, handed, out, since⟩ := ruled.policy
    refine ⟨⟨at_, asked, handed, out, ?_⟩, ruled.hashed, ruled.session⟩
    intro both
    exact since (Bool.and_eq_true _ _ ▸ both).1

theorem unwedge (upheld : Enforced setup state) {index : Nat} {entry : Entry setup.ext} {work : Work} {fresh : Bool}
    {revocations : List Value} (ruled : Governed setup state.policies.past entry.caller work fresh)
    (permitted : work.classification.classification ≠ "prohibited") (now : String) :
    Enforced setup (state.unwedge index entry work fresh revocations now) := by
  unfold Guarded.unwedge
  dsimp only
  split
  · exact upheld.leave upheld.mediates
  · exact upheld.leave (upheld.mediates.refuse (by decide))
  · rename_i passed
    refine upheld.advance ⟨ruled, permitted, ?_⟩
    intro wedge standing
    obtain ⟨decision, decided, serve⟩ := requireNotWedged_eq_ok passed wedge standing
    exact gracious_of_serve decided serve

/-- A call that met every requirement. -/
theorem admits (upheld : Enforced setup state) {entry : Admittance} (cleared : Cleared setup state.policies.past entry)
    (index : Nat) : Enforced setup
      ({ state with admitted := state.admitted ++ [entry] }.leave index
        (state.enforcer.proceed setup.config entry.work)) := by
  have wider : ∀ work, LetThrough state.admitted work → LetThrough (state.admitted ++ [entry]) work := by
    rintro work ⟨allowed, held, member, same⟩
    exact ⟨allowed, held, List.mem_append_left _ member, same⟩
  refine ⟨upheld.policies, fun other member => upheld.entries other (List.mem_of_mem_eraseIdx member), ?_, ?_⟩
  · intro other member
    rcases List.mem_append.mp member with earlier | new
    · exact upheld.admitted other earlier
    · cases List.mem_singleton.mp new
      exact cleared
  · apply (upheld.mediates.mono wider).proceed
    intro allowed
    exact ⟨allowed, entry, List.mem_append_right _ List.mem_cons_self, rfl⟩

theorem admitEntry (upheld : Enforced setup state) {index : Nat} {entry : Entry setup.ext} {process : Process}
    {work : Work} {grounds : Grounds} (ruled : Governed setup state.policies.past entry.caller work grounds.fresh)
    (permitted : work.classification.classification ≠ "prohibited")
    (unwedged : ∀ wedge, grounds.wedge = some wedge → Gracious setup.decimal work wedge grounds.wedgeNow)
    (mandate : grounds.mandate = entry.caller.mandate) (reading : BudgetReading) :
    Enforced setup (state.admitEntry index entry process work grounds reading) := by
  unfold Guarded.admitEntry
  dsimp only
  split
  · exact (upheld.pulled _ _).leave upheld.mediates
  · exact (upheld.pulled _ _).leave (upheld.mediates.refuse (by decide))
  · rename_i passed
    obtain ⟨walked, budget⟩ := Judged.andThen_eq_ok.mp passed
    obtain ⟨mandated, online⟩ := requireWalked_eq_ok walked
    have cleared : Cleared setup state.policies.past ⟨work, grounds⟩ := {
      policy := ruled.policy
      hashed := ruled.hashed
      permitted
      unwedged
      refers := by
        rw [ruled.session, mandate]
        exact entry.caller.refers
      walked := mandated
      online
      budget := requireBudget_eq_ok budget }
    have asked := upheld.pulled state.revocations (state.processes.set entry.process { process with
      budgets := Guarded.budgetsLeft setup process work
        (requireWalked setup.ext setup.readInt setup.config work grounds) reading })
    exact asked.admits cleared index

theorem step (upheld : Enforced setup state) (move : GuardedMove setup.ext) :
    Enforced setup ((guarded setup).step state move) := by
  show Enforced setup (Guarded.step setup state move)
  unfold Guarded.step
  have known : ∀ {index : Nat} {entry : Entry setup.ext}, state.entries[index]? = some entry →
      entry.stage.Known setup state.policies.past entry.caller :=
    fun found => upheld.entries _ (List.mem_of_getElem? found)
  cases move with
  | start => exact (upheld.policed .start).pulled _ _
  | policies move =>
      cases move with
      | start => exact upheld
      | bundle document exportedAt => exact upheld.policed _
      | current index reading => exact upheld.policed _
  | seed documents exportedAt => exact upheld.pulled _ _
  | push move => exact upheld.pushed _
  | enforce action =>
      have other : (∀ session call policy required, action ≠ .call session call policy required) →
          Enforced setup (state.enforced setup action) := fun other =>
        ⟨upheld.policies, upheld.entries, upheld.admitted, upheld.mediates.step other⟩
      cases action with
      | call session call policy required => exact upheld
      | perform index reading => exact other (by rintro _ _ _ _ ⟨⟩)
      | abandon index => exact other (by rintro _ _ _ _ ⟨⟩)
      | decide requestHash decision => exact other (by rintro _ _ _ _ ⟨⟩)
      | decideSeed requestHash decision => exact other (by rintro _ _ _ _ ⟨⟩)
      | record requestHash decision catalogClass seed => exact other (by rintro _ _ _ _ ⟨⟩)
      | applySeeds session policy => exact other (by rintro _ _ _ _ ⟨⟩)
      | recoverIntents session now => exact other (by rintro _ _ _ _ ⟨⟩)
  | arrive process caller call =>
      refine ⟨upheld.policies, ?_, upheld.admitted, upheld.mediates⟩
      intro entry member
      rcases List.mem_append.mp member with earlier | new
      · exact upheld.entries entry earlier
      · cases List.mem_singleton.mp new
        trivial
  | rule index reading manifests =>
      dsimp only
      split
      · split
        · rename_i provider found
          exact upheld.rule found reading manifests
        · exact upheld
      · exact upheld
  | inform index ask now checkedAt =>
      dsimp only
      split
      · rename_i entry found
        have before := known found
        split
        · rename_i work fresh process isStage _
          rw [isStage] at before
          exact upheld.inform before ask now checkedAt
        · exact upheld
      · exact upheld
  | unwedge index now =>
      dsimp only
      split
      · rename_i entry found
        have before := known found
        split
        · rename_i work fresh revocations isStage
          rw [isStage] at before
          exact upheld.unwedge before.1 before.2 now
        · exact upheld
      · exact upheld
  | count index =>
      dsimp only
      split
      · rename_i entry found
        have before := known found
        split
        · rename_i work fresh revocations standing wedgeNow isStage
          rw [isStage] at before
          exact (upheld.pushed _).advance before
        · exact upheld
      · exact upheld
  | takeIn index reading =>
      dsimp only
      split
      · rename_i entry found
        have before := known found
        split
        · rename_i work fresh revocations standing wedgeNow process isStage _
          rw [isStage] at before
          exact upheld.admitEntry before.1 before.2.1 before.2.2 rfl reading
        · exact upheld
      · exact upheld
  | abandon index =>
      exact ⟨upheld.policies, fun entry member => upheld.entries entry (List.mem_of_mem_eraseIdx member),
        upheld.admitted, upheld.mediates⟩

end Enforced

theorem upheld {state : Guarded setup.ext} (reached : (guarded setup).Reachable state) : Enforced setup state := by
  refine reached.invariant (Enforced setup) ?_ fun state move _ upheld => upheld.step move
  rintro state ⟨enforcer, cache, providers, past, _, _, entries, admitted, _⟩
  have none : (provisioning setup.ext setup.readInt setup.policyKey setup.refreshSeconds).Reachable state.policies :=
    .of_start ⟨cache, providers, past⟩
  refine ⟨Providers.vetted none, ?_, ?_, ?_⟩
  · rw [entries]
    exact fun _ => List.not_mem_nil.elim
  · rw [admitted]
    exact fun _ => List.not_mem_nil.elim
  · rw [enforcer]
    exact Mediates.initial

end Stozher.Gateway

namespace Stozher.Deployment

open Library Gateway

def gated : Setup where
  ext := ext
  checkShape := shapeless
  config := gatewayConfig
  classifier := tiers []
  readInt := String.toInt?
  decimal _ := none
  policyKey := some orgKey
  refreshSeconds := 30

theorem opsMandate_id : Signed.objectId ext opsMandate.document = .ok opsMandate.digest := by
  decide +kernel

def opsCaller : Caller gated.ext where
  session := opsSession
  mandate := opsMandate.document
  refers := opsMandate_id

def unguarded : Guarded gated.ext where
  enforcer := .initial
  pushers := { outbox := { rows := [], wedges := [] }, passes := [], answers := [] }
  policies := { cache := [], providers := [], past := [] }
  revocations := []
  processes := []
  entries := []
  admitted := []

/-- A call of a benign tool, past every requirement, while the revocations cannot be pulled. -/
def starCall : List (GuardedMove gated.ext) :=
  [.start, .arrive 0 opsCaller (toolCall "star"), .rule 0 (servedAt nine) [],
    .inform 0 (fun _ => .error "connection refused") nine nine, .unwedge 0 nine,
    .takeIn 0 {
      mandateNow := nine, now := nine, checkedAt := nine
      answer := .ok { status := 200, body := .object [("chain", .array [])] } }]

@[irreducible] def letThroughStar : Guarded gated.ext :=
  (guarded gated).run unguarded starCall

theorem letThroughStar_reachable : (guarded gated).Reachable letThroughStar := by
  unfold letThroughStar
  exact ⟨unguarded, starCall, ⟨rfl, rfl, rfl, rfl, rfl, rfl, rfl, rfl, rfl, rfl, rfl, rfl⟩, rfl⟩

theorem letThroughStar_acts : (letThroughStar.enforcer.tasks.filterMap Task.acts).length = 1 := by
  decide +kernel

end Stozher.Deployment
