import Stozher.SingleUse
import Stozher.Deployment

namespace Stozher

open Library Ingest

variable {ext : External} {config : Config}

namespace Store

variable {store next : Store} {plan : AppendPlan}

/-- A human's no to a request is on record. -/
def Denied (store : Store) (requestHash : String) : Prop :=
  ∃ row ∈ store.gateDecisions, row.requestHash = requestHash ∧ row.verdict = "deny"

/-- A request is in the replay table as one that is approved once. -/
def Spent (store : Store) (requestHash : String) : Prop :=
  ∃ row ∈ store.gateRequestHashes, row.requestHash = requestHash ∧ row.singleUse = true

theorem Denied.grows {later : Store} {requestHash : String} (denied : store.Denied requestHash)
    (grows : store.Grows later) : later.Denied requestHash := by
  obtain ⟨row, member, known⟩ := denied
  exact ⟨row, grows.gateDecisions.subset member, known⟩

theorem Spent.grows {later : Store} {requestHash : String} (spent : store.Spent requestHash)
    (grows : store.Grows later) : later.Spent requestHash := by
  obtain ⟨row, member, known⟩ := spent
  exact ⟨row, grows.gateRequestHashes.subset member, known⟩

/-- What is spent once is not used again. -/
theorem consumeGate_of_spent (unique : store.UniqueHashes) {gateUse : GateUse}
    (uses : plan.gateUse = some gateUse) (gated : consumeGate store plan = .ok next) :
    ¬ store.Spent gateUse.requestHash := by
  intro spent
  obtain ⟨row, member, named, single⟩ := spent
  unfold consumeGate at gated
  rw [uses] at gated
  dsimp only at gated
  split at gated
  · rename_i absent
    rw [List.find?_eq_none] at absent
    have other := absent row member
    simp [named] at other
  · rename_i existing found
    rw [require_bind_eq_ok] at gated
    obtain ⟨⟨standing, _⟩, _⟩ := gated
    have same := List.find?_some found
    rw [beq_iff_eq] at same
    have one := unique existing (List.mem_of_find?_eq_some found) row member (same.trans named.symm)
    rw [one, single] at standing
    cases standing

end Store

namespace World

variable {world : World} {requestHash : String}

/-- An applied envelope that carries a yes to a request which the gate step verifies. -/
def SaysYes (ext : External) (config : Config) (store : Store) (requestHash : String) (env : Value) :
    Prop :=
  isApplied env = true ∧ ∃ approvers ok, Authorized ext config store env approvers ok ∧
    ok.requestHash = requestHash

/-- The step ends a validation of such an envelope. -/
def AnswersLate (ext : External) (config : Config) (requestHash : String) (world : World)
    (action : Action) : Prop :=
  ∃ index submission received, action = .perform index ∧
    world.tasks[index]? = some (.validate submission) ∧ receive ext submission.raw = .ok received ∧
    SaysYes ext config world.store requestHash received.env

/-- No such envelope waits to be appended. -/
def NoneWaits (ext : External) (config : Config) (requestHash : String) (world : World) : Prop :=
  ∀ request snapshot validated, Task.append request snapshot validated ∈ world.tasks →
    ¬ SaysYes ext config snapshot requestHash validated.plan.envelope

/-- An applied envelope that carries an authorization of a request. -/
def Cites (ext : External) (requestHash : String) (env : Value) : Prop :=
  isApplied env = true ∧ ∃ request decision, Gate.Carries env request decision ∧
    Jcs.objectHash ext request = .ok requestHash

/-- What is admitted with an authorization of a request was found to carry a yes to it, and uses it. -/
theorem Cites.saysYes {store : Store} {raw : Octets} {receivedAt : String} {plan : AppendPlan}
    {subjectKey : KeyId} {payloads : List Value}
    (admitted : Admitted ext config store raw receivedAt plan subjectKey payloads)
    (cites : Cites ext requestHash plan.envelope) :
    SaysYes ext config store requestHash plan.envelope ∧
      ∃ gateUse, plan.gateUse = some gateUse ∧ gateUse.requestHash = requestHash := by
  obtain ⟨applied, request, decision, carries, hashed⟩ := cites
  have carried : plan.envelope.get "authorization" ≠ none := by
    obtain ⟨authorization, has, _⟩ := carries
    rw [has]
    exact Option.some_ne_none authorization
  obtain ⟨approvers, ok, authorized, uses⟩ := admitted.authorized applied carried
  obtain ⟨required, seen, verified⟩ := authorized.verified
  obtain ⟨other, otherDecision, approver, approved, _⟩ := Gate.verifyAuthorization_some verified
  obtain ⟨rfl, rfl⟩ := carries.unique approved.carried
  have same : ok.requestHash = requestHash := Except.ok.inj (approved.hashed.symm.trans hashed)
  exact ⟨⟨applied, approvers, ok, authorized, same⟩, _, uses, same⟩

/-- Since a state, nothing was taken that carries an authorization of a request, and nothing that does
can be taken from what waits. -/
structure Settled (ext : External) (config : Config) (requestHash : String) (held world : World) :
    Prop where
  reachable : (kernel ext config).Reachable world
  taken : ∃ later, world.accepted = held.accepted ++ later ∧
    ∀ taken ∈ later, ¬ Cites ext requestHash taken.plan.envelope
  closed : world.store.Spent requestHash ∨ NoneWaits ext config requestHash world

/-- A step leaves nothing waiting that carries a late yes, where it ends no validation of one. -/
theorem NoneWaits.step (noneWaits : NoneWaits ext config requestHash world) {action : Action}
    (timely : ¬ AnswersLate ext config requestHash world action) :
    NoneWaits ext config requestHash (World.step ext config world action) := by
  intro request snapshot validated member yes
  cases step_cases ext config world action with
  | quiet store accepted tasks =>
      cases tasks _ member with
      | waiting earlier => exact noneWaits request snapshot validated earlier yes
      | validated request received validated opened assessed performs =>
          obtain ⟨index, performed, found⟩ := performs
          obtain ⟨subjectKey, payloads, admitted⟩ := (assess_admitted opened assessed).1
          have same := (admitted.of_received opened).1
          rw [same] at yes
          exact timely ⟨index, request, received, performed, found, opened, yes⟩
  | appends taken _ _ waiting fresh store accepted tasks =>
      exact noneWaits request snapshot validated (tasks _ member) yes

theorem Settled.step {held : World} (settled : Settled ext config requestHash held world)
    {action : Action}
    (timely : world.store.Spent requestHash ∨ ¬ AnswersLate ext config requestHash world action) :
    Settled ext config requestHash held (World.step ext config world action) := by
  have grows := (step_cases ext config world action).grows
  obtain ⟨later, grown, none⟩ := settled.taken
  refine ⟨settled.reachable.step action, ?_, ?_⟩
  · cases step_cases ext config world action with
    | quiet store accepted tasks => exact ⟨later, accepted.trans grown, none⟩
    | appends request snapshot validated waiting fresh store accepted tasks =>
        refine ⟨later ++ [{ request, snapshot, plan := validated.plan }], ?_, ?_⟩
        · rw [← List.append_assoc, ← grown]
          exact accepted
        · intro taken member cites
          rcases List.mem_append.mp member with earlier | new
          · exact none taken earlier cites
          · rw [List.mem_singleton] at new
            subst new
            obtain ⟨subjectKey, payloads, admitted⟩ :=
              ((traced settled.reachable).tasks _ _ _ waiting).admitted
            obtain ⟨yes, gateUse, uses, same⟩ := Cites.saysYes admitted cites
            rcases settled.closed with spent | noneWaits
            · obtain ⟨gated, gate, _⟩ := store.gateRequestHashes
              rw [← same] at spent
              exact Store.consumeGate_of_spent (ledger settled.reachable).unique uses gate spent
            · exact noneWaits _ _ _ waiting yes
  · rcases settled.closed with spent | noneWaits
    · exact Or.inl (spent.grows grows)
    · rcases timely with spent | timely
      · exact Or.inl (spent.grows grows)
      · exact Or.inr (noneWaits.step timely)

/-- Once a denial is recorded it stays, and nothing applied carries an approval of the request from then
on, where the request is spent or no approval of it that the gate step verifies waits or comes later. -/
theorem denial_is_final (reached : (kernel ext config).Reachable world)
    (denied : world.store.Denied requestHash)
    (closed : world.store.Spent requestHash ∨ NoneWaits ext config requestHash world)
    (actions : List Action)
    (timely : ∀ before action after, actions = before ++ action :: after →
      ((kernel ext config).run world before).store.Spent requestHash ∨
        ¬ AnswersLate ext config requestHash ((kernel ext config).run world before) action) :
    ((kernel ext config).run world actions).store.Denied requestHash ∧
      ∃ later, ((kernel ext config).run world actions).accepted = world.accepted ++ later ∧
        ∀ taken ∈ later, ¬ Cites ext requestHash taken.plan.envelope := by
  have start : Settled ext config requestHash world world :=
    ⟨reached, ⟨[], (List.append_nil _).symm, by intro taken member; cases member⟩, closed⟩
  have final := (kernel ext config).run_invariant_of (Settled ext config requestHash world)
    (fun _ _ timely settled => Settled.step settled timely) start actions timely
  exact ⟨denied.grows (run_store_grows world actions), final.taken⟩

end World

end Stozher

namespace Stozher.Deployment

open Library Ingest World

theorem denied_seen : (after denying).tasks = [] ∧ (after denying).accepted.length = 3 ∧
    (after denying).store.Denied mergeRequest.digest := by
  have seen := congrArg Observed.denied observed_eq
  dsimp only [observed] at seen
  rw [Prod.mk.injEq, Prod.mk.injEq] at seen
  obtain ⟨waiting, taken, decisions⟩ := seen
  have member : (mergeRequest.digest, "deny") ∈ (after denying).store.gateDecisions.map fun row =>
      (row.requestHash, row.verdict) := by
    rw [decisions]
    exact List.mem_cons_self
  obtain ⟨row, held, same⟩ := List.mem_map.mp member
  rw [Prod.mk.injEq] at same
  exact ⟨List.length_eq_zero_iff.mp waiting, taken, row, held, same⟩

theorem merge_stays_denied :
    ∃ later, ((kernel ext config).run (after denying) [.submit (submitted mergeBody nine)]).accepted =
        (after denying).accepted ++ later ∧
      ∀ taken ∈ later, ¬ Cites ext mergeRequest.digest taken.plan.envelope := by
  obtain ⟨waiting, _, denied⟩ := denied_seen
  refine (denial_is_final (reachable denying) denied (Or.inr ?_) [.submit (submitted mergeBody nine)] ?_).2
  · intro request snapshot validated member
    rw [waiting] at member
    cases member
  · intro before action later split
    refine Or.inr ?_
    intro answers
    obtain ⟨index, submission, received, performed, _⟩ := answers
    cases performed.symm.trans (only_action split)

/-- An approval backs the merge that another human denied. -/
theorem denied_merge_taken :
    (kernel ext config).Reachable (after denying) ∧ (after denying).store.Denied mergeRequest.digest ∧
      ∃ taken, ((kernel ext config).run (after denying) (enter mergeBody nine)).accepted =
          (after denying).accepted ++ [taken] ∧ Cites ext mergeRequest.digest taken.plan.envelope := by
  obtain ⟨_, length, denied⟩ := denied_seen
  have merged := congrArg Observed.merged observed_eq
  dsimp only [observed] at merged
  obtain ⟨taken, grown, envelope⟩ := last_taken [
    opsGrant.document, policyChange.document, denialEnvelope.document] merged length
  refine ⟨reachable _, denied, taken, ?_, ?_⟩
  · rw [run_after]
    exact grown
  · rw [envelope]
    exact ⟨by decide +kernel, mergeRequest.document, mergeApproval.document,
      ⟨.object [("decision", mergeApproval.document), ("request", mergeRequest.document)],
        by decide +kernel, by decide +kernel, by decide +kernel⟩, by decide +kernel⟩

end Stozher.Deployment
