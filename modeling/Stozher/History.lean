import Stozher.Admission
import Stozher.AppendWrites
import Stozher.System

namespace Stozher

open Library Ingest

variable {ext : External} {config : Config}

namespace Store

/-- What one store keeps of an earlier one. -/
structure Grows (before after : Store) : Prop where
  envelopes : before.envelopes <+: after.envelopes
  rejections : before.rejections <+: after.rejections
  gateRequestHashes : before.gateRequestHashes <+: after.gateRequestHashes
  gateRequests : before.gateRequests <+: after.gateRequests
  gateDecisions : before.gateDecisions <+: after.gateDecisions
  policies : before.policies <+: after.policies
  manifests : before.manifests <+: after.manifests
  mandates : before.mandates <+: after.mandates
  revocations : before.revocations <+: after.revocations
  streamResumes : before.streamResumes <+: after.streamResumes
  checkpoints : before.checkpoints <+: after.checkpoints
  roots : ∀ row ∈ before.roots, ∃ later ∈ after.roots, later.rootKey = row.rootKey ∧
    later.subject = row.subject ∧ later.enrolledAt = row.enrolledAt

theorem Grows.refl (store : Store) : store.Grows store := by
  constructor <;> first | exact List.prefix_refl _ | skip
  intro row member
  exact ⟨row, member, rfl, rfl, rfl⟩

theorem Grows.trans {a b c : Store} (first : a.Grows b) (second : b.Grows c) : a.Grows c where
  envelopes := first.envelopes.trans second.envelopes
  rejections := first.rejections.trans second.rejections
  gateRequestHashes := first.gateRequestHashes.trans second.gateRequestHashes
  gateRequests := first.gateRequests.trans second.gateRequests
  gateDecisions := first.gateDecisions.trans second.gateDecisions
  policies := first.policies.trans second.policies
  manifests := first.manifests.trans second.manifests
  mandates := first.mandates.trans second.mandates
  revocations := first.revocations.trans second.revocations
  streamResumes := first.streamResumes.trans second.streamResumes
  checkpoints := first.checkpoints.trans second.checkpoints
  roots := by
    intro row member
    obtain ⟨middle, between, key, subject, enrolled⟩ := first.roots row member
    obtain ⟨last, after, lastKey, lastSubject, lastEnrolled⟩ := second.roots middle between
    exact ⟨last, after, lastKey.trans key, lastSubject.trans subject, lastEnrolled.trans enrolled⟩

theorem Appends.grows {store next : Store} {plan : AppendPlan} (appends : Appends store plan next) :
    store.Grows next := by
  obtain ⟨_, _, ⟨row, _, _, _, envelopes⟩, _, ⟨gated, gate, hashes⟩, ⟨_, mandates, _⟩,
    ⟨_, revocations, _, _⟩, ⟨_, policies, _, _⟩, ⟨_, manifests⟩, ⟨enrolled, retire, roots, _, keeps, _⟩,
    ⟨_, decisions⟩, ⟨_, resumes, _⟩, ⟨_, checkpoints, _⟩, rejections, requests⟩ := appends
  obtain ⟨consumed, rfl⟩ := consumeGate_eq_ok gate
  constructor
  · exact ⟨_, envelopes.symm⟩
  · exact ⟨[], by simp [rejections]⟩
  · exact ⟨_, hashes.symm⟩
  · exact ⟨[], by simp [requests]⟩
  · exact ⟨_, decisions.symm⟩
  · exact ⟨_, policies.symm⟩
  · exact ⟨_, manifests.symm⟩
  · exact ⟨_, mandates.symm⟩
  · exact ⟨_, revocations.symm⟩
  · exact ⟨_, resumes.symm⟩
  · exact ⟨_, checkpoints.symm⟩
  · intro row member
    refine ⟨retire row, ?_, keeps row⟩
    rw [roots]
    exact List.mem_map_of_mem (List.mem_append_left _ member)

/-- A change of the store that no envelope makes. -/
inductive Quiet (ext : External) (config : Config) (store : Store) : Store → Prop where
  | same : Quiet ext config store store
  | rejected (input : RejectionInput) (record : RejectionRecord) (next : Store)
      (recorded : store.recordRejection ext config.rejectionStream config.kernelKey input =
        .ok (next, record)) : Quiet ext config store next
  | parked (rows : List GateRequestRow) :
      Quiet ext config store { store with gateRequests := store.gateRequests ++ rows }
  | decayed (now : String) : Quiet ext config store (store.decayPayloads now)
  | seeded (rootKey : KeyId) (subject enrolledAt : String) :
      Quiet ext config store (store.seedConfiguredRoot rootKey subject enrolledAt)

/-- The record a refusal leaves. -/
structure RejectionRow.Records (row : RejectionRow) (ext : External) (config : Config)
    (store : Store) (input : RejectionInput) : Prop where
  stream : row.stream = config.rejectionStream
  reason : row.reason = input.reason
  objectHash : row.objectHash = input.objectHash
  claimedStream : row.claimedStream = input.claimedStream
  claimedSeq : row.claimedSeq = input.claimedSeq.filter fun s => decide (s < 2 ^ 63)

theorem recordRejection_eq_ok {store next : Store} {input : RejectionInput} {record : RejectionRecord}
    (recorded : store.recordRejection ext config.rejectionStream config.kernelKey input =
      .ok (next, record)) :
    ∃ row, next = { store with rejections := store.rejections ++ [row] } ∧
      RejectionRow.Records row ext config store input := by
  unfold recordRejection at recorded
  simp only [bind_eq_ok, require_eq_ok, pure_eq_ok] at recorded
  obtain ⟨signed, _, canonical, _, id, _, _, _, recorded⟩ := recorded
  cases recorded
  exact ⟨_, rfl, rfl, rfl, rfl, rfl, rfl⟩

theorem queueGateRequest_eq_ok {store next : Store} {request : GateQueue.GateRequest}
    {submittedBy receivedAt : String} {cap : Option (Nat × String)} {parked : Bool}
    (queued : store.queueGateRequest request submittedBy receivedAt cap = .ok (next, parked)) :
    ∃ rows, next = { store with gateRequests := store.gateRequests ++ rows } := by
  unfold queueGateRequest at queued
  simp only [bind_eq_ok] at queued
  obtain ⟨_, _, canonical, _, queued⟩ := queued
  split at queued
  · cases queued
    exact ⟨[], by simp⟩
  · cases queued
    exact ⟨_, rfl⟩

theorem Quiet.grows {store next : Store} (quiet : Quiet ext config store next) : store.Grows next := by
  have unchanged := Grows.refl store
  cases quiet with
  | same => exact unchanged
  | rejected input record next recorded =>
      obtain ⟨row, rfl, _⟩ := recordRejection_eq_ok recorded
      exact { unchanged with rejections := List.prefix_append _ _ }
  | parked rows => exact { unchanged with gateRequests := List.prefix_append _ _ }
  | decayed now => exact { unchanged with }
  | seeded rootKey subject enrolledAt =>
      unfold seedConfiguredRoot
      split
      · exact unchanged
      · refine { unchanged with roots := ?_ }
        intro row member
        exact ⟨row, List.mem_append_left _ member, rfl, rfl, rfl⟩

theorem Quiet.envelopes {store next : Store} (quiet : Quiet ext config store next) :
    next.envelopes = store.envelopes ∧ next.streams = store.streams ∧
      next.gateRequestHashes = store.gateRequestHashes ∧ next.gateDecisions = store.gateDecisions ∧
      next.policies = store.policies ∧ next.manifests = store.manifests ∧
      next.mandates = store.mandates ∧ next.revocations = store.revocations ∧
      next.streamResumes = store.streamResumes ∧ next.checkpoints = store.checkpoints := by
  cases quiet with
  | same => simp
  | rejected input record next recorded =>
      obtain ⟨row, rfl, _⟩ := recordRejection_eq_ok recorded
      simp
  | parked rows => simp
  | decayed now => simp [decayPayloads]
  | seeded rootKey subject enrolledAt =>
      unfold seedConfiguredRoot
      split <;> simp

end Store

namespace Store

theorem append_fresh {store next : Store} {plan : AppendPlan} {appended : Appended}
    (absent : store.envelopeById plan.id = none) (done : store.append plan = .ok (next, appended)) :
    Appends store plan next ∧ appended.idempotent = false := by
  unfold append at done
  rw [absent] at done
  simp only [bind_eq_ok] at done
  obtain ⟨written, fresh, done⟩ := done
  cases done
  exact ⟨appendFresh_eq_ok fresh, rfl⟩

theorem append_held {store next : Store} {plan : AppendPlan} {appended : Appended} {row : EnvelopeRow}
    (held : store.envelopeById plan.id = some row) (done : store.append plan = .ok (next, appended)) :
    next = store ∧ appended.idempotent = true := by
  unfold append at done
  rw [held] at done
  cases done
  exact ⟨rfl, rfl⟩

end Store

namespace World

/-- Where a task of the next state comes from. -/
inductive TaskFrom (ext : External) (config : Config) (world : World) (action : Action) : Task → Prop where
  | waiting {task : Task} (member : task ∈ world.tasks) : TaskFrom ext config world action task
  | opened (request : Submission) : TaskFrom ext config world action (.validate request)
  | validated (request : Submission) (received : Received) (validated : Validated)
      (opened : receive ext request.raw = .ok received)
      (assessed : assess ext config world.store received request.receivedAt = .ok validated)
      (performs : ∃ index, action = .perform index ∧ world.tasks[index]? = some (.validate request)) :
      TaskFrom ext config world action (.append request world.store validated)
  | refused (request : Submission) (error : Error) (claims : Claims) :
      TaskFrom ext config world action (.reject request error claims)

/-- What one step makes of a state: a change no envelope makes, or one envelope appended. -/
inductive StepTo (ext : External) (config : Config) (world : World) (action : Action) (next : World) :
    Prop where
  | quiet (store : Store.Quiet ext config world.store next.store)
      (accepted : next.accepted = world.accepted)
      (tasks : ∀ task ∈ next.tasks, TaskFrom ext config world action task)
      (roots : (∀ rootKey subject enrolledAt, action ≠ .seed rootKey subject enrolledAt) →
        next.store.roots = world.store.roots)
  | appends (request : Submission) (snapshot : Store) (validated : Validated)
      (waiting : Task.append request snapshot validated ∈ world.tasks)
      (fresh : world.store.envelopeById validated.plan.id = none)
      (store : Store.Appends world.store validated.plan next.store)
      (accepted : next.accepted = world.accepted ++ [{ request, snapshot, plan := validated.plan }])
      (tasks : ∀ task ∈ next.tasks, task ∈ world.tasks)
      (performs : ∃ index, action = .perform index ∧
        world.tasks[index]? = some (.append request snapshot validated) ∧
        isOk (world.store.append validated.plan) = true)

variable {action : Action}

/-- A state that only puts tasks off, or adds one of a known kind. -/
theorem StepTo.of_tasks {world next : World} (store : next.store = world.store)
    (accepted : next.accepted = world.accepted)
    (tasks : ∀ task ∈ next.tasks, TaskFrom ext config world action task) : StepTo ext config world action next := by
  refine .quiet ?_ accepted tasks fun _ => by rw [store]
  rw [store]
  exact .same

theorem taskFrom_concat {world : World} {tasks : List Task} {new : Task}
    (fewer : ∀ task ∈ tasks, task ∈ world.tasks) (from_ : TaskFrom ext config world action new) :
    ∀ task ∈ tasks ++ [new], TaskFrom ext config world action task := by
  intro task member
  rcases List.mem_append.mp member with earlier | last
  · exact .waiting (fewer task earlier)
  · rw [List.mem_singleton] at last
    exact last ▸ from_

theorem refuse_cases (world next : World) (request : Submission) (error : Error) (claims : Claims)
    (store : next.store = world.store) (accepted : next.accepted = world.accepted)
    (fewer : ∀ task ∈ next.tasks, task ∈ world.tasks) :
    StepTo ext config world action (refuse next request error claims) := by
  unfold refuse
  split
  · exact .of_tasks store accepted fun task member => .waiting (fewer task member)
  · exact .of_tasks store accepted (taskFrom_concat fewer (.refused request error claims))

theorem submit_cases (world : World) (request : Submission) :
    StepTo ext config world action (submit ext world request) := by
  have same : ∀ task ∈ world.tasks, task ∈ world.tasks := fun _ member => member
  unfold submit
  split
  · exact refuse_cases world world request _ _ rfl rfl same
  · split
    · exact .of_tasks rfl rfl fun _ member => .waiting member
    · exact .of_tasks rfl rfl (taskFrom_concat same (.opened request))

theorem performValidate_cases (world next : World) (request : Submission)
    (store : next.store = world.store) (accepted : next.accepted = world.accepted)
    (fewer : ∀ task ∈ next.tasks, task ∈ world.tasks) {index : Nat}
    (found : world.tasks[index]? = some (.validate request)) :
    StepTo ext config world (.perform index) (performValidate ext config next request) := by
  unfold performValidate
  split
  · rename_i validated passed
    rw [bind_eq_ok] at passed
    obtain ⟨received, opened, assessed⟩ := passed
    refine .of_tasks store accepted (taskFrom_concat fewer ?_)
    rw [store] at assessed ⊢
    exact .validated request received validated opened assessed ⟨index, rfl, found⟩
  · exact refuse_cases world next request _ _ store accepted fewer

theorem recordRejection_cases (world next : World) (input : RejectionInput)
    (store : next.store = world.store) (accepted : next.accepted = world.accepted)
    (tasks : ∀ task ∈ next.tasks, task ∈ world.tasks) :
    StepTo ext config world action (recordRejection ext config next input) := by
  unfold recordRejection
  split
  · rename_i after record recorded
    rw [store] at recorded
    refine .quiet (.rejected input record after recorded) accepted
      (fun task member => .waiting (tasks task member)) fun _ => ?_
    obtain ⟨row, rfl, _⟩ := Store.recordRejection_eq_ok recorded
    rfl
  · exact .of_tasks store accepted fun task member => .waiting (tasks task member)

theorem performAppend_cases (world next : World) (request : Submission)
    (snapshot : Store) (validated : Validated) (same : next.store = world.store)
    (taken : next.accepted = world.accepted) (fewer : ∀ task ∈ next.tasks, task ∈ world.tasks)
    {index : Nat} (found : world.tasks[index]? = some (.append request snapshot validated)) :
    StepTo ext config world (.perform index) (performAppend next request snapshot validated) := by
  unfold performAppend
  split
  · rename_i store appended done
    rw [same] at done
    cases held : world.store.envelopeById validated.plan.id with
    | none =>
        obtain ⟨appends, fresh⟩ := Store.append_fresh held done
        exact .appends request snapshot validated (List.mem_of_getElem? found) held appends
          (by simp [answer, fresh, taken]) fewer ⟨index, rfl, found, by rw [done, isOk_ok]⟩
    | some row =>
        obtain ⟨kept, idempotent⟩ := Store.append_held held done
        exact .of_tasks kept (by simp [answer, idempotent, taken])
          fun task member => .waiting (fewer task member)
  · exact refuse_cases world next request _ _ same taken fewer

/-- An answer changes nothing a step is described by. -/
theorem StepTo.answer {world next : World} (step : StepTo ext config world action next)
    (request : Submission) (outcome : Outcome) :
    StepTo ext config world action (World.answer next request outcome) := by
  cases step with
  | quiet store accepted tasks roots => exact .quiet store accepted tasks roots
  | appends taken snapshot validated waiting fresh store accepted tasks performs =>
      exact .appends taken snapshot validated waiting fresh store accepted tasks performs

theorem perform_cases (world : World) (index : Nat) :
    StepTo ext config world (.perform index) (perform ext config world index) := by
  have fewer : ∀ task ∈ world.tasks.eraseIdx index, task ∈ world.tasks :=
    fun _ member => List.mem_of_mem_eraseIdx member
  unfold perform
  split
  · exact .of_tasks rfl rfl fun _ member => .waiting member
  · rename_i request found
    exact performValidate_cases world { world with tasks := world.tasks.eraseIdx index } request rfl rfl
      fewer found
  · rename_i request snapshot validated found
    exact performAppend_cases world { world with tasks := world.tasks.eraseIdx index } request snapshot
      validated rfl rfl fewer found
  · exact (recordRejection_cases world { world with tasks := world.tasks.eraseIdx index } _ rfl rfl
      fewer).answer _ _

theorem park_cases (world : World) (request : Value) (submittedBy receivedAt : String)
    (cap : Option (Nat × String)) :
    StepTo ext config world action (park ext world request submittedBy receivedAt cap) := by
  have unchanged : StepTo ext config world action world :=
    .of_tasks rfl rfl fun _ member => .waiting member
  unfold park
  split
  · exact unchanged
  · split
    · rename_i store parked queued
      obtain ⟨rows, rfl⟩ := Store.queueGateRequest_eq_ok queued
      exact .quiet (.parked rows) rfl (fun _ member => .waiting member) fun _ => rfl
    · exact unchanged

theorem step_cases (ext : External) (config : Config) (world : World) (action : Action) :
    StepTo ext config world action (step ext config world action) := by
  cases action with
  | submit request => exact submit_cases world request
  | perform index => exact perform_cases world index
  | abandon index =>
      exact .of_tasks rfl rfl fun _ member => .waiting (List.mem_of_mem_eraseIdx member)
  | record reason detail objectHash submittedBy receivedAt =>
      exact recordRejection_cases world world _ rfl rfl fun _ member => member
  | park request submittedBy receivedAt cap => exact park_cases world request submittedBy receivedAt cap
  | decay now => exact .quiet (.decayed now) rfl (fun _ member => .waiting member) fun _ => rfl
  | seed rootKey subject enrolledAt =>
      exact .quiet (.seeded rootKey subject enrolledAt) rfl (fun _ member => .waiting member)
        fun unseeded => absurd rfl (unseeded rootKey subject enrolledAt)

/-- A waiting append that goes through leaves the store it makes. -/
theorem perform_store {world : World} {index : Nat} {request : Submission} {snapshot store : Store}
    {validated : Validated} {appended : Appended}
    (found : world.tasks[index]? = some (.append request snapshot validated))
    (done : world.store.append validated.plan = .ok (store, appended)) :
    (step ext config world (.perform index)).store = store := by
  show (perform ext config world index).store = store
  unfold perform
  rw [found]
  dsimp only
  unfold performAppend
  dsimp only
  rw [done]
  rfl

theorem StepTo.grows {world next : World} (step : StepTo ext config world action next) :
    world.store.Grows next.store := by
  cases step with
  | quiet store accepted tasks => exact store.grows
  | appends request snapshot validated waiting fresh store accepted tasks => exact store.grows

theorem StepTo.accepted_grows {world next : World} (step : StepTo ext config world action next) :
    world.accepted <+: next.accepted := by
  cases step with
  | quiet store accepted tasks => exact accepted ▸ List.prefix_refl _
  | appends request snapshot validated waiting fresh store accepted tasks =>
      exact accepted ▸ List.prefix_append _ _

theorem run_store_grows (world : World) (actions : List Action) :
    world.store.Grows ((kernel ext config).run world actions).store :=
  (kernel ext config).run_grows (fun a b => a.store.Grows b.store) (fun w => .refl w.store)
    (fun _ _ _ first second => first.trans second) (fun w a => (step_cases ext config w a).grows) world actions

theorem run_accepted_grows (world : World) (actions : List Action) :
    world.accepted <+: ((kernel ext config).run world actions).accepted :=
  (kernel ext config).run_grows (fun a b => a.accepted <+: b.accepted)
    (fun w => List.prefix_refl w.accepted) (fun _ _ _ first second => first.trans second)
    (fun w a => (step_cases ext config w a).accepted_grows) world actions

end World

namespace World

/-- The validation a plan comes from: of this request, against an earlier state of the store. -/
structure Origin (ext : External) (config : Config) (world : World) (request : Submission)
    (snapshot : Store) (plan : AppendPlan) : Prop where
  admitted : ∃ subjectKey payloads,
    Admitted ext config snapshot request.raw request.receivedAt plan subjectKey payloads
  earlier : ∃ past, (kernel ext config).Reachable past ∧ past.store = snapshot ∧
    past.accepted <+: world.accepted
  seen : snapshot.Grows world.store

theorem Origin.later {world next : World} {request : Submission} {snapshot : Store}
    {plan : AppendPlan} (origin : Origin ext config world request snapshot plan)
    (store : world.store.Grows next.store) (accepted : world.accepted <+: next.accepted) :
    Origin ext config next request snapshot plan where
  admitted := origin.admitted
  earlier := by
    obtain ⟨past, reached, same, before⟩ := origin.earlier
    exact ⟨past, reached, same, before.trans accepted⟩
  seen := origin.seen.trans store

/-- The append that took an accepted envelope, with the states around it. -/
structure TakenAt (ext : External) (config : Config) (world : World) (taken : Accepted)
    (before : World) (after : Store) : Prop where
  reachable : (kernel ext config).Reachable before
  fresh : before.store.envelopeById taken.plan.id = none
  appends : Store.Appends before.store taken.plan after
  origin : Origin ext config before taken.request taken.snapshot taken.plan
  order : before.accepted ++ [taken] <+: world.accepted
  kept : after.Grows world.store

/-- What every state of the kernel is known to have come from. -/
structure Traced (ext : External) (config : Config) (world : World) : Prop where
  tasks : ∀ request snapshot validated, Task.append request snapshot validated ∈ world.tasks →
    Origin ext config world request snapshot validated.plan
  accepted : ∀ taken ∈ world.accepted, ∃ before after, TakenAt ext config world taken before after
  rows : List.Forall₂ (fun row taken => Store.envelopeRow taken.plan = .ok row)
    world.store.envelopes world.accepted

theorem Traced.initial : Traced ext config World.initial where
  tasks := by intro _ _ _ member; cases member
  accepted := by intro _ member; cases member
  rows := .nil

theorem Traced.step {world : World} (reached : (kernel ext config).Reachable world)
    (traced : Traced ext config world) (action : Action) :
    Traced ext config ((kernel ext config).step world action) := by
  have storeGrows := (step_cases ext config world action).grows
  have acceptedGrows := (step_cases ext config world action).accepted_grows
  have waiting : ∀ request snapshot validated, Task.append request snapshot validated ∈ world.tasks →
      Origin ext config (World.step ext config world action) request snapshot validated.plan :=
    fun _ _ _ member => (traced.tasks _ _ _ member).later storeGrows acceptedGrows
  have earlier : ∀ taken ∈ world.accepted, ∃ before after,
      TakenAt ext config (World.step ext config world action) taken before after := by
    intro taken member
    obtain ⟨before, after, at_⟩ := traced.accepted taken member
    exact ⟨before, after, at_.reachable, at_.fresh, at_.appends, at_.origin,
      at_.order.trans acceptedGrows, at_.kept.trans storeGrows⟩
  cases step_cases ext config world action with
  | quiet store accepted tasks =>
      refine ⟨?_, ?_, ?_⟩
      · intro request snapshot validated member
        cases tasks _ member with
        | waiting member => exact waiting _ _ _ member
        | validated request received validated opened assessed performs =>
            exact ⟨(assess_admitted opened assessed).1, ⟨world, reached, rfl, acceptedGrows⟩, storeGrows⟩
      · intro taken member
        exact earlier taken (accepted ▸ member)
      · show List.Forall₂ _ (World.step ext config world action).store.envelopes
          (World.step ext config world action).accepted
        rw [store.envelopes.1, accepted]
        exact traced.rows
  | appends request snapshot validated member fresh store accepted tasks =>
      refine ⟨fun _ _ _ later => waiting _ _ _ (tasks _ later), ?_, ?_⟩
      · intro taken here
        have here : taken ∈ world.accepted ++ [_] := accepted ▸ here
        rcases List.mem_append.mp here with before | new
        · exact earlier taken before
        · rw [List.mem_singleton] at new
          subst new
          exact ⟨world, _, reached, fresh, store, traced.tasks _ _ _ member,
            accepted ▸ List.prefix_refl _, .refl _⟩
      · obtain ⟨row, built, _, _, envelopes⟩ := store.envelopes
        show List.Forall₂ _ (World.step ext config world action).store.envelopes
          (World.step ext config world action).accepted
        rw [envelopes, accepted]
        exact List.rel_append traced.rows (.cons built .nil)

/-- Every reachable state is traced. -/
theorem traced {world : World} (reached : (kernel ext config).Reachable world) :
    Traced ext config world := by
  refine reached.invariant (Traced ext config) ?_ fun _ action before known => known.step before action
  intro state start
  have first : state = World.initial := start
  subst first
  exact .initial

/-- A step keeps what holds of a store exactly when the append it makes, if it makes one, meets what that takes. -/
theorem appended_iff {world : World} {action : Action} {holds : Store → Prop} {meets : AppendPlan → Prop}
    (known : Traced ext config world)
    (quiet : Store.Quiet ext config world.store (step ext config world action).store →
      holds (step ext config world action).store)
    (append : ∀ request snapshot plan, Origin ext config world request snapshot plan →
      Store.Appends world.store plan (step ext config world action).store →
      (meets plan ↔ holds (step ext config world action).store)) :
    (∀ index request snapshot validated, action = .perform index →
      world.tasks[index]? = some (.append request snapshot validated) →
      world.store.envelopeById validated.plan.id = none → isOk (world.store.append validated.plan) = true →
      meets validated.plan) ↔ holds (step ext config world action).store := by
  constructor
  · intro each
    cases step_cases ext config world action with
    | quiet store _ _ _ => exact quiet store
    | appends request snapshot validated waiting fresh store _ _ performs =>
        obtain ⟨index, performed, found, passed⟩ := performs
        apply (append request snapshot validated.plan (known.tasks _ _ _ waiting) store).mp
        exact each index request snapshot validated performed found fresh passed
  · rintro later index request snapshot validated rfl found fresh passed
    obtain ⟨⟨store, appended⟩, done⟩ := isOk_iff.mp passed
    have appends := (Store.append_fresh fresh done).1
    rw [← perform_store found done] at appends
    exact (append request snapshot validated.plan (known.tasks _ _ _ (List.mem_of_getElem? found)) appends).mpr later

/-- What holds of an empty kernel and is kept by every step holds of every reachable state. -/
theorem invariant (ext : External) (config : Config) (holds : World → Prop) (initial : holds World.initial)
    (keeps : ∀ world action next, Traced ext config world → holds world →
      StepTo ext config world action next → holds next)
    {world : World} (reached : (kernel ext config).Reachable world) : holds world := by
  refine reached.invariant holds ?_ fun state action before known =>
    keeps state action _ (traced before) known (step_cases ext config state action)
  intro state start
  have first : state = World.initial := start
  subst first
  exact initial

end World

end Stozher
