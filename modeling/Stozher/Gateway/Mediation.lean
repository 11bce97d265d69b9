import Stozher.ChainedApprovals
import Stozher.Gateway.Admission
import Stozher.Gateway.Moves
import Stozher.PolicyVouching

namespace Stozher.Gateway

open Library Admission

namespace Enforcer

variable (ext : External) (config : GatewayConfig) (classifier : Classifier)

/-- Records what became of a call that goes no further. -/
def refuse (enforcer : Enforcer) (work : Work) (outcome : String) : Enforcer :=
  enforcer.push (.chain work outcome none none none)

/-- A call whose arguments have no canonical form. -/
def refuseUnhashed (enforcer : Enforcer) (work : Work) (code : String) : Enforcer :=
  let standIn := Value.object [("uncanonicalizable-arguments", .string code)]
  match Jcs.objectHash ext standIn with
  | .error _ => enforcer
  | .ok argsHash => enforcer.refuse { work with call := { work.call with arguments := standIn }, argsHash } "blocked"

/-- A call that met its requirements: what the policy decides of its class. -/
def proceed (enforcer : Enforcer) (work : Work) : Enforcer :=
  let decision := work.policy.decisionFor work.classification.classification
  let firstCall := !work.classification.known && !work.classification.policyNamed
  if decision.kind = "deny" then enforcer.refuse work "blocked"
  else if decision.kind = "gate" ∨ firstCall = true then
    match approversFor config decision.approvers with
    | some approvers => enforcer.push (.gate work approvers firstCall)
    | none => enforcer.refuse work "blocked"
  else enforcer.push (.forward work none)

end Enforcer

/-- A call as it is classified under the policy in force. -/
def workOf (classifier : Classifier) (store : Local) (session : Session) (call : Call) (policy : Policy)
    (argsHash : String) : Work where
  session
  call
  classification := classify policy { classifier with orgSeeded := store.catalogEntry } session.subject call
  target := target call
  argsHash
  policy

theorem Enforcer.call_eq (ext : External) (config : GatewayConfig) (classifier : Classifier) (enforcer : Enforcer)
    (session : Session) (call : Call) (policy : Policy) (required : Bool) :
    enforcer.call ext config classifier session call policy required =
      match Jcs.objectHash ext call.arguments with
      | .error e => enforcer.refuseUnhashed ext (workOf classifier enforcer.store session call policy "") e.code
      | .ok argsHash =>
          let work := workOf classifier enforcer.store session call policy argsHash
          if work.classification.classification = "prohibited" then enforcer.refuse work "attempted"
          else if required = true then enforcer.proceed config work
          else enforcer.refuse work "blocked" := by
  unfold Enforcer.call Enforcer.proceed Enforcer.refuse
  cases Jcs.objectHash ext call.arguments with
  | error e => rfl
  | ok argsHash =>
      cases required with
      | false => simp [workOf]
      | true =>
          simp only [workOf, Bool.true_eq_false, false_or, if_true]
          rfl

/-- A caller and the mandate it acts under, which its session names. -/
structure Caller (ext : External) where
  session : Session
  mandate : Value
  refers : Signed.objectId ext mandate = .ok session.mandateRef

/-- What a call on its way in has come to: the policy it is governed by, the revocations it is checked against, the
wedge of its stream, and whether a grace it was served under is counted. -/
inductive EntryStage where
  | arrived
  | classified (work : Work) (fresh : Bool)
  | informed (work : Work) (fresh : Bool) (revocations : List Value)
  | unwedged (work : Work) (fresh : Bool) (revocations : List Value) (wedge : Option Wedge) (wedgeNow : String)
      (counted : Bool)

/-- A call on its way in, in one of the gateway's processes. -/
structure Entry (ext : External) where
  process : Nat
  caller : Caller ext
  call : Call
  stage : EntryStage

/-- What a process keeps of the revocations and the budgets it has pulled. -/
structure Process where
  feed : RevocationFeed
  budgets : BudgetFeed

/-- A process that has pulled nothing yet. -/
def Process.new : Process where
  feed := .new
  budgets := .new

/-- A call that met every requirement, with what it was decided on. -/
structure Admittance where
  work : Work
  grounds : Grounds

/-- The gateway's processes over their one database: the calls on their way in, those under way, the passes that push
what is recorded, and what has been pulled. -/
structure Guarded (ext : External) where
  enforcer : Enforcer
  pushers : Pushers
  policies : Providers
  revocations : RevocationCache
  processes : List Process
  entries : List (Entry ext)
  admitted : List Admittance

/-- What the next requirements of a call read: the clock, and what the kernel answers where it is asked. -/
structure BudgetReading where
  mandateNow : String
  answer : Answer
  now : String
  checkedAt : String

/-- What can happen next. A call passes its requirements one by one, each of them asked of the gateway as it is by
then, and the kernel may answer anything. -/
inductive GuardedMove (ext : External) where
  | start
  | policies (move : ProviderMove)
  | seed (documents : List Value) (exportedAt : String)
  | push (move : PassMove)
  | enforce (action : Action)
  | arrive (process : Nat) (caller : Caller ext) (call : Call)
  | rule (index : Nat) (reading : PolicyProvider.Reading) (manifests : List (String × Value))
  | inform (index : Nat) (ask : Option String → TaggedAnswer) (now checkedAt : String)
  | unwedge (index : Nat) (now : String)
  | count (index : Nat)
  | takeIn (index : Nat) (reading : BudgetReading)
  | abandon (index : Nat)

/-- What the gateway is set up with. -/
structure Setup where
  ext : External
  checkShape : Value → Result Unit
  config : GatewayConfig
  classifier : Classifier
  readInt : String → Option Int
  decimal : Char → Option Nat
  policyKey : Option String
  refreshSeconds : Int

namespace Guarded

variable (setup : Setup)

/-- An action of the enforcement that is no call of its own. -/
def enforced (state : Guarded setup.ext) (action : Action) : Guarded setup.ext :=
  { state with enforcer := Enforcer.step setup.ext setup.checkShape setup.config setup.classifier state.enforcer action }

def policed (state : Guarded setup.ext) (move : ProviderMove) : Guarded setup.ext :=
  { state with policies := Providers.step setup.ext setup.readInt setup.policyKey setup.refreshSeconds state.policies move }

variable {setup}

def leave (state : Guarded setup.ext) (index : Nat) (enforcer : Enforcer) : Guarded setup.ext :=
  { state with enforcer, entries := state.entries.eraseIdx index }

def advance (state : Guarded setup.ext) (index : Nat) (entry : Entry setup.ext) (stage : EntryStage) :
    Guarded setup.ext :=
  { state with entries := state.entries.set index { entry with stage } }

/-- Asks for the policy in force, and classifies the call under it. Without one, nothing is recorded. -/
def rule (state : Guarded setup.ext) (index : Nat) (entry : Entry setup.ext) (provider : PolicyProvider)
    (reading : PolicyProvider.Reading) (manifests : List (String × Value)) : Guarded setup.ext :=
  let asked := state.policed setup (.current entry.process reading)
  match (provider.current setup.ext setup.readInt setup.policyKey setup.refreshSeconds state.policies.cache
    reading).2.2 with
  | .error _ => asked.leave index state.enforcer
  | .ok (policy, fresh) =>
      let work := workOf { setup.classifier with manifests } state.enforcer.store entry.caller.session entry.call policy
      match Jcs.objectHash setup.ext entry.call.arguments with
      | .error e => asked.leave index (state.enforcer.refuseUnhashed setup.ext (work "") e.code)
      | .ok argsHash => asked.advance index entry (.classified (work argsHash) fresh)

/-- Asks for the revocations. A call of a prohibited class ends here, on record. -/
def inform (state : Guarded setup.ext) (index : Nat) (entry : Entry setup.ext) (process : Process) (work : Work)
    (fresh : Bool) (ask : Option String → TaggedAnswer) (now checkedAt : String) : Guarded setup.ext :=
  let (feed, revocations, answer) := process.feed.current setup.ext state.revocations setup.refreshSeconds
    work.policy.revokeCached work.policy.version ask now checkedAt
  let (held, isCurrent) := answer.toOption.getD ([], false)
  let state := { state with revocations, processes := state.processes.set entry.process { process with feed } }
  if work.classification.classification = "prohibited" then state.leave index (state.enforcer.refuse work "attempted")
  else state.advance index entry (.informed work (fresh && isCurrent) held)

/-- Asks whether the kernel refuses the stream. What is served under a grace is counted next. -/
def unwedge (state : Guarded setup.ext) (index : Nat) (entry : Entry setup.ext) (work : Work) (fresh : Bool)
    (revocations : List Value) (now : String) : Guarded setup.ext :=
  let wedge := state.pushers.outbox.wedge work.session.stream
  match requireNotWedged setup.decimal work wedge now with
  | .error _ => state.leave index state.enforcer
  | .ok (.error _) => state.leave index (state.enforcer.refuse work "blocked")
  | .ok (.ok _) => state.advance index entry (.unwedged work fresh revocations wedge now wedge.isNone)

/-- What the last requirements of a call are asked on. -/
def groundsOf (entry : Entry setup.ext) (process : Process) (work : Work) (fresh : Bool) (revocations : List Value)
    (wedge : Option Wedge) (wedgeNow : String) (reading : BudgetReading) : Grounds where
  mandate := entry.caller.mandate
  fresh
  revocations
  wedge
  budget := (process.budgets.chain setup.refreshSeconds work.session.mandateRef reading.answer reading.now
    reading.checkedAt).map Prod.snd
  wedgeNow
  mandateNow := reading.mandateNow

/-- The budgets a process is left with, once a call whose mandate was walked has asked for them. -/
def budgetsLeft (setup : Setup) (process : Process) (work : Work) (walked : Judged) (reading : BudgetReading) : BudgetFeed :=
  let read := process.budgets.chain setup.refreshSeconds work.session.mandateRef reading.answer reading.now
    reading.checkedAt
  if walked = Except.ok (Except.ok ()) then (read.toOption.map Prod.fst).getD process.budgets else process.budgets

/-- Walks the mandate, and asks for what is left of the budget where nothing else refuses the call. -/
def admitEntry (state : Guarded setup.ext) (index : Nat) (entry : Entry setup.ext) (process : Process) (work : Work)
    (grounds : Grounds) (reading : BudgetReading) : Guarded setup.ext :=
  let walked := requireWalked setup.ext setup.readInt setup.config work grounds
  let budgets := budgetsLeft setup process work walked reading
  let asked := { state with processes := state.processes.set entry.process { process with budgets } }
  match walked.andThen (requireBudget setup.ext grounds) with
  | .error _ => asked.leave index state.enforcer
  | .ok (.error _) => asked.leave index (state.enforcer.refuse work "blocked")
  | .ok (.ok _) =>
      { asked with admitted := state.admitted ++ [(⟨work, grounds⟩ : Admittance)] }.leave index
        (state.enforcer.proceed setup.config work)

def step (setup : Setup) (state : Guarded setup.ext) (move : GuardedMove setup.ext) : Guarded setup.ext :=
  match move with
  | .start => { state.policed setup .start with processes := state.processes ++ [.new] }
  | .policies move =>
      match move with
      | .bundle document exportedAt => state.policed setup (.bundle document exportedAt)
      | .current index reading => state.policed setup (.current index reading)
      | .start => state
  | .seed documents exportedAt => { state with revocations := Marked.put state.revocations "" (documents, exportedAt) }
  | .push move => { state with pushers := Pushers.step setup.ext setup.checkShape state.pushers move }
  | .enforce action =>
      match action with
      | .call .. => state
      | _ => state.enforced setup action
  | .arrive process caller call => { state with entries := state.entries ++ [{ process, caller, call, stage := .arrived }] }
  | .rule index reading manifests =>
      match state.entries[index]? with
      | some entry =>
          match entry.stage, state.policies.providers[entry.process]? with
          | .arrived, some provider => state.rule index entry provider reading manifests
          | _, _ => state
      | none => state
  | .inform index ask now checkedAt =>
      match state.entries[index]? with
      | some entry =>
          match entry.stage, state.processes[entry.process]? with
          | .classified work fresh, some process => state.inform index entry process work fresh ask now checkedAt
          | _, _ => state
      | none => state
  | .unwedge index now =>
      match state.entries[index]? with
      | some entry =>
          match entry.stage with
          | .informed work fresh revocations => state.unwedge index entry work fresh revocations now
          | _ => state
      | none => state
  | .count index =>
      match state.entries[index]? with
      | some entry =>
          match entry.stage with
          | .unwedged work fresh revocations wedge wedgeNow false =>
              let pushers := Pushers.step setup.ext setup.checkShape state.pushers (.grace work.session.stream)
              { state with pushers }.advance index entry (.unwedged work fresh revocations wedge wedgeNow true)
          | _ => state
      | none => state
  | .takeIn index reading =>
      match state.entries[index]? with
      | some entry =>
          match entry.stage, state.processes[entry.process]? with
          | .unwedged work fresh revocations wedge wedgeNow true, some process =>
              let grounds := groundsOf entry process work fresh revocations wedge wedgeNow reading
              state.admitEntry index entry process work grounds reading
          | _, _ => state
      | none => state
  | .abandon index => { state with entries := state.entries.eraseIdx index }

end Guarded

/-- The gateway over a new database, whatever the kernel answers it. -/
def guarded (setup : Setup) : System (Guarded setup.ext) (GuardedMove setup.ext) where
  start state := state.enforcer = .initial ∧ state.policies.cache = [] ∧ state.policies.providers = [] ∧
    state.policies.past = [] ∧ state.revocations = [] ∧ state.processes = [] ∧ state.entries = [] ∧
    state.admitted = [] ∧ (pushers setup.ext setup.checkShape).start state.pushers
  step := Guarded.step setup

/-- The call that goes on once what follows a seed is done. -/
def After.acts : After → Option Work
  | .claim work _ _ _ => some work
  | .seeds _ _ _ => none

/-- The call a task leads to the upstream server, or has brought back from it. -/
def Task.acts : Task → Option Work
  | .gate work _ _ => some work
  | .parkSeed work _ => some work
  | .consume work _ _ => some work
  | .verifySeed _ _ _ _ after => after.acts
  | .claimSeed _ _ _ _ _ after => after.acts
  | .chainSeed _ _ _ _ _ _ after => after.acts
  | .recordSeed _ after => after.acts
  | .seeds _ _ _ => none
  | .claim work _ _ _ => some work
  | .settle work _ _ => some work
  | .forward work _ => some work
  | .forwarding work _ _ _ => some work
  | .folding work _ => some work
  | .chain work outcome _ _ _ => if outcome = "applied" ∨ outcome = "failed" then some work else none
  | .recover _ _ _ => none

/-- A write-ahead record of a call. -/
def RecordOf (ext : External) (config : GatewayConfig) (work : Work) (intent : Intent) : Prop :=
  ∃ authorization startedAt now, effectBody ext config work "attempted" authorization (some startedAt) now =
    .ok (intent.body, intent.payloads)

/-- What an append leaves of the records. -/
theorem Local.append_records {ext : External} {checkShape : Value → Result Unit} {store next : Local}
    {emission : Emission} {resolves : Option String} {id : String}
    (done : store.append ext checkShape emission resolves = .ok (next, id)) : ∀ intent ∈ next.intents,
    ∃ earlier ∈ store.intents, earlier.body = intent.body ∧ earlier.payloads = intent.payloads := by
  unfold Local.append at done
  simp only [bind_eq_ok, pure_eq_ok, Prod.mk.injEq] at done
  obtain ⟨⟨chain, _⟩, _, rfl, _⟩ := done
  intro intent member
  obtain ⟨earlier, held, rfl⟩ := List.mem_map.mp member
  refine ⟨earlier, held, ?_⟩
  split
  · exact ⟨rfl, rfl⟩
  · exact ⟨rfl, rfl⟩

/-- Every call that is under way, and every record written ahead of one, is of a kind. -/
structure Mediates (ext : External) (config : GatewayConfig) (allowed : Work → Prop) (enforcer : Enforcer) :
    Prop where
  tasks : ∀ task ∈ enforcer.tasks, ∀ work, task.acts = some work → allowed work
  records : ∀ intent ∈ enforcer.store.intents, ∃ work, allowed work ∧ RecordOf ext config work intent

namespace Mediates

variable {ext : External} {checkShape : Value → Result Unit} {config : GatewayConfig} {classifier : Classifier}
  {allowed : Work → Prop} {enforcer : Enforcer}

theorem initial : Mediates ext config allowed Enforcer.initial := by
  constructor
  · intro task member
    cases member
  · intro intent member
    cases member

theorem mono (mediates : Mediates ext config allowed enforcer) {more : Work → Prop}
    (wider : ∀ work, allowed work → more work) : Mediates ext config more enforcer := by
  constructor
  · intro task member work acts
    exact wider work (mediates.tasks task member work acts)
  · intro intent member
    obtain ⟨work, known, recorded⟩ := mediates.records intent member
    exact ⟨work, wider work known, recorded⟩

theorem push (mediates : Mediates ext config allowed enforcer) {task : Task}
    (known : ∀ work, task.acts = some work → allowed work) : Mediates ext config allowed (enforcer.push task) := by
  refine ⟨?_, mediates.records⟩
  intro other member
  rcases List.mem_append.mp member with held | new
  · exact mediates.tasks other held
  · rw [List.mem_singleton] at new
    subst new
    exact known

theorem pushIdle (mediates : Mediates ext config allowed enforcer) {task : Task} (idle : task.acts = none) :
    Mediates ext config allowed (enforcer.push task) := by
  apply mediates.push
  intro work acts
  rw [idle] at acts
  cases acts

theorem store (mediates : Mediates ext config allowed enforcer) {store : Local}
    (same : store.intents = enforcer.store.intents) : Mediates ext config allowed { enforcer with store } :=
  ⟨mediates.tasks, fun intent member => mediates.records intent (same ▸ member)⟩

theorem erase (mediates : Mediates ext config allowed enforcer) (index : Nat) :
    Mediates ext config allowed { enforcer with tasks := enforcer.tasks.eraseIdx index } :=
  ⟨fun task member => mediates.tasks task (List.mem_of_mem_eraseIdx member), mediates.records⟩

theorem after_acts (after : After) : after.task.acts = after.acts := by
  cases after <;> rfl

/-- An emission closes records, and leaves what they say as it is. -/
theorem emit (mediates : Mediates ext config allowed enforcer) {session : Session}
    {written : Result (Members × List Value)} {resolves : Option String} {reading : Reading} {next : Enforcer}
    {id : String} (done : enforcer.emit ext checkShape session written resolves reading = .ok (next, id)) :
    Mediates ext config allowed next := by
  unfold Enforcer.emit at done
  simp only [bind_eq_ok, pure_eq_ok, Prod.mk.injEq] at done
  obtain ⟨⟨body, payloads⟩, _, ⟨store, _⟩, appended, rfl, _⟩ := done
  have closed := Local.append_records appended
  refine ⟨mediates.tasks, ?_⟩
  intro intent member
  obtain ⟨earlier, held, sameBody, samePayloads⟩ := closed intent member
  obtain ⟨work, known, authorization, startedAt, now, built⟩ := mediates.records earlier held
  exact ⟨work, known, authorization, startedAt, now, by rw [built, sameBody, samePayloads]⟩

theorem gate (mediates : Mediates ext config allowed enforcer) {work : Work} {approvers : List Gate.Approver}
    {firstCall : Bool} {reading : Reading} (known : allowed work) :
    Mediates ext config allowed (enforcer.gate ext config work approvers firstCall reading) := by
  unfold Enforcer.gate
  dsimp only
  split
  · apply mediates.push
    rintro _ ⟨⟩
    exact known
  · split
    · exact mediates
    · split
      · exact mediates
      · split
        · rename_i held
          exact mediates.store (parkUnique_intents held).1
        · rename_i held
          have parked := mediates.store (parkUnique_intents held).1
          split
          · apply parked.push
            rintro _ ⟨⟩
            exact known
          · exact parked

theorem parkSeed (mediates : Mediates ext config allowed enforcer) {work : Work} {requestHash : String}
    {reading : Reading} :
    Mediates ext config allowed (enforcer.parkSeed ext config work requestHash reading) := by
  unfold Enforcer.parkSeed
  dsimp only
  split
  · exact mediates.store rfl
  · exact mediates

theorem consume (mediates : Mediates ext config allowed enforcer) {work : Work} {approvers : List Gate.Approver}
    {parked : Parked} {reading : Reading} (known : allowed work) :
    Mediates ext config allowed (enforcer.consume ext work approvers parked reading) := by
  have same : ∀ other, some work = some other → allowed other := by
    rintro _ ⟨⟩
    exact known
  unfold Enforcer.consume
  dsimp only
  split
  · exact mediates
  · split
    · exact mediates
    · split
      · exact mediates.push same
      · exact mediates.push same
    · split
      · have kept : Mediates ext config allowed
            { enforcer with store := enforcer.store.consume parked.requestHash reading.later } := mediates.store rfl
        apply kept.pushIdle
        simp [Task.acts]
      · exact mediates.store rfl

theorem verifySeed (mediates : Mediates ext config allowed enforcer) {session : Session} {policy : Policy}
    {approvers : List Gate.Approver} {parked : Parked} {after : After} {reading : Reading}
    (known : ∀ work, after.acts = some work → allowed work) :
    Mediates ext config allowed (enforcer.verifySeed ext session policy approvers parked after reading) := by
  have goesOn : Mediates ext config allowed (enforcer.push after.task) :=
    mediates.push fun work acts => known work (after_acts after ▸ acts)
  unfold Enforcer.verifySeed
  split
  · split
    · exact goesOn
    · split
      · split
        · exact mediates.push known
        · exact goesOn
      · exact mediates
  · exact goesOn

theorem claimSeed (mediates : Mediates ext config allowed enforcer) {session : Session} {policy : Policy}
    {parked : Parked} {seed : Seed} {decision : Value} {after : After} {reading : Reading}
    (known : ∀ work, after.acts = some work → allowed work) :
    Mediates ext config allowed (enforcer.claimSeed session policy parked seed decision after reading) := by
  unfold Enforcer.claimSeed
  split
  · rename_i claimed
    exact (mediates.store (claimGateUse_intents claimed).1).push known
  · exact mediates.push fun work acts => known work (after_acts after ▸ acts)

theorem chainSeed (mediates : Mediates ext config allowed enforcer) {session : Session} {policy : Policy}
    {parked : Parked} {seed : Seed} {decision : Value} {now : String} {after : After} {reading : Reading}
    (known : ∀ work, after.acts = some work → allowed work) :
    Mediates ext config allowed (enforcer.chainSeed ext checkShape config classifier session policy parked seed
      decision now after reading) := by
  unfold Enforcer.chainSeed
  split
  · exact mediates
  · rename_i done
    exact (mediates.emit done).push known

theorem claim (mediates : Mediates ext config allowed enforcer) {work : Work} {parked : Parked}
    {authorization : Value} {requestHash : String} {reading : Reading} (known : allowed work) :
    Mediates ext config allowed (enforcer.claim work parked authorization requestHash reading) := by
  unfold Enforcer.claim
  split
  · rename_i claimed
    apply (mediates.store (claimGateUse_intents claimed).1).push
    rintro _ ⟨⟩
    exact known
  · exact mediates.store rfl

/-- The record of a call is written ahead of it. -/
theorem forward (mediates : Mediates ext config allowed enforcer) {work : Work} {authorization : Option Value}
    {reading : Reading} (known : allowed work) :
    Mediates ext config allowed (enforcer.forward ext config work authorization reading) := by
  have same : ∀ other, some work = some other → allowed other := by
    rintro _ ⟨⟩
    exact known
  unfold Enforcer.forward
  split
  · exact mediates.push same
  · split
    · exact mediates
    · rename_i body payloads written
      split
      · exact mediates
      · rename_i store recorded
        unfold Local.recordIntent at recorded
        simp only [require_bind_eq_ok, pure_eq_ok] at recorded
        obtain ⟨_, rfl⟩ := recorded
        have kept : Mediates ext config allowed { enforcer with store := { enforcer.store with
            intents := enforcer.store.intents ++ [{
              intentId := reading.fresh, stream := work.session.stream
              subjectKey := work.session.key.id.text, body, payloads, createdAt := reading.createdAt
              resolvedAt := none }] } } := by
          refine ⟨mediates.tasks, ?_⟩
          intro intent member
          rcases List.mem_append.mp member with earlier | new
          · exact mediates.records intent earlier
          · rw [List.mem_singleton] at new
            subst new
            exact ⟨work, known, authorization, reading.now, reading.later, written⟩
        exact kept.push same

theorem returned (mediates : Mediates ext config allowed enforcer) {work : Work} {authorization : Option Value}
    {startedAt : String} {intent : Option String} {reading : Reading} (known : allowed work) :
    Mediates ext config allowed (enforcer.returned work authorization startedAt intent reading) := by
  have same : ∀ other, some work = some other → allowed other := by
    rintro _ ⟨⟩
    exact known
  unfold Enforcer.returned
  split
  · exact mediates
  · exact mediates.push same
  · split
    · exact mediates
    · exact mediates.push same

theorem chain (mediates : Mediates ext config allowed enforcer) {work : Work} {outcome : String}
    {authorization : Option Value} {startedAt intent : Option String} {reading : Reading} :
    Mediates ext config allowed
      (enforcer.chain ext checkShape config work outcome authorization startedAt intent reading) := by
  unfold Enforcer.chain
  split
  · exact mediates
  · rename_i done
    exact mediates.emit done

theorem recover (mediates : Mediates ext config allowed enforcer) {session : Session} {now : String}
    {rest : List Intent} {reading : Reading} :
    Mediates ext config allowed (enforcer.recover ext checkShape session now rest reading) := by
  cases rest with
  | nil => exact mediates
  | cons intent rest =>
      unfold Enforcer.recover
      dsimp only
      split
      · exact mediates.pushIdle rfl
      · rename_i done
        exact (mediates.emit done).pushIdle rfl

theorem seeds (mediates : Mediates ext config allowed enforcer) {session : Session} {policy : Policy}
    {rest : List Parked} : Mediates ext config allowed (enforcer.seeds config session policy rest) := by
  cases rest with
  | nil => exact mediates
  | cons parked rest =>
      unfold Enforcer.seeds
      dsimp only
      split
      · exact mediates.pushIdle rfl
      · exact mediates.pushIdle rfl

theorem performTask (mediates : Mediates ext config allowed enforcer) {task : Task} {reading : Reading}
    (known : ∀ work, task.acts = some work → allowed work) :
    Mediates ext config allowed (enforcer.performTask ext checkShape config classifier task reading) := by
  cases task with
  | gate work => exact mediates.gate (known work rfl)
  | parkSeed => exact mediates.parkSeed
  | consume work => exact mediates.consume (known work rfl)
  | verifySeed => exact mediates.verifySeed known
  | claimSeed => exact mediates.claimSeed known
  | chainSeed => exact mediates.chainSeed known
  | recordSeed row after =>
      have stored : Mediates ext config allowed { enforcer with store := enforcer.store.seedCatalog row } :=
        mediates.store rfl
      exact stored.push fun work acts => known work ((after_acts after).symm.trans acts)
  | seeds => exact mediates.seeds
  | claim work => exact mediates.claim (known work rfl)
  | settle work parked authorization =>
      have stored : Mediates ext config allowed
          { enforcer with store := enforcer.store.consume parked.requestHash reading.now } := mediates.store rfl
      exact stored.push known
  | forward work => exact mediates.forward (known work rfl)
  | forwarding work => exact mediates.returned (known work rfl)
  | folding work => exact mediates.returned (known work rfl)
  | chain => exact mediates.chain
  | recover session now rest =>
      have kept : Mediates ext config allowed (enforcer.recover ext checkShape session now rest reading) :=
        mediates.recover
      exact kept

theorem refuse (mediates : Mediates ext config allowed enforcer) {work : Work} {outcome : String}
    (idle : outcome ≠ "applied" ∧ outcome ≠ "failed") : Mediates ext config allowed (enforcer.refuse work outcome) :=
  mediates.pushIdle (if_neg fun ends => ends.elim idle.1 idle.2)

theorem refuseUnhashed (mediates : Mediates ext config allowed enforcer) {work : Work} {code : String} :
    Mediates ext config allowed (enforcer.refuseUnhashed ext work code) := by
  unfold Enforcer.refuseUnhashed
  dsimp only
  split
  · exact mediates
  · exact mediates.refuse (by decide)

/-- A call that met its requirements goes on where no rule denies its class. -/
theorem proceed (mediates : Mediates ext config allowed enforcer) {work : Work}
    (known : (work.policy.decisionFor work.classification.classification).kind ≠ "deny" → allowed work) :
    Mediates ext config allowed (enforcer.proceed config work) := by
  unfold Enforcer.proceed
  dsimp only
  split
  · exact mediates.refuse (by decide)
  · rename_i permitted
    have same : ∀ other, some work = some other → allowed other := by
      rintro _ ⟨⟩
      exact known permitted
    split
    · split
      · exact mediates.push same
      · exact mediates.refuse (by decide)
    · exact mediates.push same

/-- What the enforcement does besides taking calls in leaves their kind. -/
theorem step (mediates : Mediates ext config allowed enforcer) {action : Action}
    (other : ∀ session call policy required, action ≠ .call session call policy required) :
    Mediates ext config allowed (Enforcer.step ext checkShape config classifier enforcer action) := by
  unfold Enforcer.step
  cases action with
  | call session call policy required => exact absurd rfl (other session call policy required)
  | perform index reading =>
      dsimp only
      split
      · exact mediates
      · rename_i task found
        exact (mediates.erase index).performTask fun work acts =>
          mediates.tasks task (List.mem_of_getElem? found) work acts
  | abandon index => exact mediates.erase index
  | decide requestHash decision => exact mediates.store rfl
  | decideSeed requestHash decision => exact mediates.store rfl
  | record requestHash decision catalogClass seed => exact mediates.store rfl
  | applySeeds session policy => exact mediates.pushIdle rfl
  | recoverIntents session now => exact mediates.pushIdle rfl

end Mediates

end Stozher.Gateway
