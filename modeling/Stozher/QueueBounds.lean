import Stozher.GateEndpoint
import Stozher.Classification
import Stozher.SelfApproval
import Stozher.CanonicalAgreement
import Stozher.Library.Refusal

namespace Stozher

open Library Ingest

variable {ext : External} {formatFinite : Binary64 → String} {config : Config} {limit : RateLimit}

namespace World

variable {world : World}

theorem refuse_store (request : Submission) (error : Error) (claims : Claims) :
    (refuse world request error claims).store = world.store := by
  unfold refuse
  split
  · rfl
  · rfl

theorem append_gateRequests {store next : Store} {plan : AppendPlan} {appended : Appended}
    (done : store.append plan = .ok (next, appended)) : next.gateRequests = store.gateRequests := by
  cases held : store.envelopeById plan.id with
  | none => exact (Store.append_fresh held done).1.gateRequests
  | some row => rw [(Store.append_held held done).1]

theorem recordRejection_gateRequests (input : RejectionInput) :
    (recordRejection ext config world input).store.gateRequests = world.store.gateRequests := by
  unfold recordRejection
  split
  · rename_i next record recorded
    obtain ⟨row, rfl, _⟩ := Store.recordRejection_eq_ok recorded
    rfl
  · rfl

theorem perform_gateRequests (index : Nat) :
    (perform ext config world index).store.gateRequests = world.store.gateRequests := by
  unfold perform
  cases world.tasks[index]? with
  | none => rfl
  | some task =>
      cases task with
      | validate request =>
          dsimp only
          unfold performValidate
          split
          · rfl
          · rw [refuse_store]
      | append request snapshot validated =>
          dsimp only
          unfold performAppend
          dsimp only
          cases done : world.store.append validated.plan with
          | ok result => exact append_gateRequests done
          | error e => exact congrArg Store.gateRequests (refuse_store request e validated.claims)
      | reject request error claims => exact recordRejection_gateRequests _

/-- Nothing but a park adds to the gate queue. -/
theorem step_gateRequests {action : Action} (elsewhere : action.parks = false) :
    (step ext config world action).store.gateRequests = world.store.gateRequests := by
  cases action with
  | submit request =>
      show (submit ext world request).store.gateRequests = _
      unfold submit
      split
      · rw [refuse_store]
      · split
        · rfl
        · rfl
  | perform index => exact perform_gateRequests index
  | abandon index => rfl
  | record reason detail objectHash submittedBy receivedAt => exact recordRejection_gateRequests _
  | park request submittedBy receivedAt cap => cases elsewhere
  | decay now => rfl
  | seed rootKey subject enrolledAt =>
      show (world.store.seedConfiguredRoot rootKey subject enrolledAt).gateRequests = _
      unfold Store.seedConfiguredRoot
      split
      · rfl
      · rfl

end World

/-- Whether a request that is queued counts another that is. -/
def RateLimit.counts (limit : RateLimit) (row other : GateRequestRow) : Bool :=
  other.subject == row.subject &&
    match Clock.shift row.receivedAt (-limit.windowSeconds) with
    | .ok since => decide (since ≤ other.receivedAt)
    | .error _ => true

/-- What a submission reads as. -/
def Asked.Sound (ext : External) (limit : RateLimit) (asked : Asked) : Prop :=
  Desk.read ext limit asked.post = .ok asked

/-- A canonical form of the submitted arguments, to which the request commits. -/
structure Asked.Shows (ext : External) (asked : Asked) (arguments : Jcs.Canonical) : Prop where
  submitted : ∃ value, asked.submitted = some value ∧ Jcs.canonicalize value = .ok arguments
  committed : ext.sha256Hex (.canonical arguments) = asked.request.argsHash

/-- What a submission under way has been checked for. -/
structure Pending.Checked (ext : External) (limit : RateLimit) (asked : Asked) (shown : Option Jcs.Canonical) :
    Prop where
  sound : asked.Sound ext limit
  shows : ∀ arguments, shown = some arguments → asked.Shows ext arguments

def Pending.Known (ext : External) (limit : RateLimit) (desk : Desk) : Pending → Prop
  | .look asked shown => Checked ext limit asked shown
  | .count asked shown => Checked ext limit asked shown
  | .queue asked shown none => Checked ext limit asked shown ∧ desk.queued asked.request.requestHash = true
  | .queue asked shown (some cap) => Checked ext limit asked shown ∧ cap = (limit.perSubject, asked.since)
  | .mismatch asked _ => asked.Sound ext limit
  | .record asked _ => asked.Sound ext limit

/-- The request a reply says was queued by the submission it answers. -/
def Reply.fresh : Reply → Option String
  | .queued requestHash _ false => some requestHash
  | _ => none

namespace GateQueue

theorem checkArguments_eq_ok {arguments : Value} {argsHash : String} {canonical : Jcs.Canonical}
    (checked : checkArguments ext formatFinite arguments argsHash = .ok canonical) :
    Jcs.canonicalize arguments = .ok canonical ∧ ext.sha256Hex (.canonical canonical) = argsHash := by
  unfold checkArguments at checked
  simp only [bind_eq_ok, require_eq_ok, pure_eq_ok] at checked
  obtain ⟨_, form, _, _, _, _, _, committed, rfl⟩ := checked
  exact ⟨form, committed⟩

end GateQueue

namespace Store

variable {store next : Store} {request : GateQueue.GateRequest} {submittedBy receivedAt : String}
  {cap : Option (Nat × String)} {fresh : Bool}

/-- What the queueing transaction finds, and what it leaves. -/
theorem queueGateRequest_cases
    (done : store.queueGateRequest request submittedBy receivedAt cap = .ok (next, fresh)) :
    store.checkParked request.subject cap = .ok () ∧ ∃ canonical, Jcs.canonicalize request.request = .ok canonical ∧
      (fresh = false ∧ next = store ∨
        fresh = true ∧ (∀ row ∈ store.gateRequests, row.requestHash ≠ request.requestHash) ∧
          next = { store with gateRequests := store.gateRequests ++ [{
            requestHash := request.requestHash, requestJson := canonical, submittedBy, receivedAt
            subject := request.subject }] }) := by
  unfold queueGateRequest at done
  simp only [bind_eq_ok] at done
  obtain ⟨_, room, canonical, form, done⟩ := done
  refine ⟨room, canonical, form, ?_⟩
  by_cases listed : (store.gateRequests.any fun row => row.requestHash == request.requestHash) = true
  · rw [if_pos listed] at done
    cases done
    exact .inl ⟨rfl, rfl⟩
  · rw [if_neg listed] at done
    cases done
    refine .inr ⟨rfl, ?_, rfl⟩
    intro row member same
    exact listed (List.any_eq_true.mpr ⟨row, member, beq_iff_eq.mpr same⟩)

theorem queueGateRequest_fresh {canonical : Jcs.Canonical} (room : store.checkParked request.subject cap = .ok ())
    (absent : ∀ row ∈ store.gateRequests, row.requestHash ≠ request.requestHash)
    (form : Jcs.canonicalize request.request = .ok canonical) :
    store.queueGateRequest request submittedBy receivedAt cap =
      .ok ({ store with gateRequests := store.gateRequests ++ [{
        requestHash := request.requestHash, requestJson := canonical, submittedBy, receivedAt
        subject := request.subject }] }, true) := by
  have unlisted : ¬ (store.gateRequests.any fun row => row.requestHash == request.requestHash) = true := by
    intro listed
    obtain ⟨row, member, same⟩ := List.any_eq_true.mp listed
    exact absent row member (beq_iff_eq.mp same)
  unfold queueGateRequest
  rw [room, ok_bind, form, ok_bind, if_neg unlisted]
  rfl

end Store

namespace Desk

variable {desk : Desk} {asked : Asked} {arguments : Option Jcs.Canonical}

theorem read_post {post : Post} (done : read ext limit post = .ok asked) : asked.post = post := by
  unfold read at done
  simp only [bind_eq_ok, mapError_eq_ok, pure_eq_ok] at done
  obtain ⟨⟨request, submitted⟩, _, queued, _, since, _, rfl⟩ := done
  rfl

/-- A request is checked at the instant of its submission, and counted from the start of the window that ends
there. -/
theorem sound_spec (sound : asked.Sound ext limit) :
    GateQueue.validate ext asked.request.request asked.post.now = .ok asked.request ∧
      Clock.shift asked.post.now (-limit.windowSeconds) = .ok asked.since := by
  unfold Asked.Sound read at sound
  simp only [bind_eq_ok, mapError_eq_ok, pure_eq_ok] at sound
  obtain ⟨⟨request, submitted⟩, _, queued, validated, since, dated, same⟩ := sound
  rw [← same]
  dsimp only
  rw [(GateQueue.validate_eq_ok validated).kept]
  exact ⟨validated, dated⟩

theorem shown_eq_ok (done : shown ext formatFinite asked = .ok arguments) :
    ∀ form, arguments = some form → asked.Shows ext form := by
  rintro form rfl
  unfold shown at done
  cases submitted : asked.submitted with
  | none =>
      rw [submitted] at done
      cases done
  | some value =>
      rw [submitted] at done
      simp only [bind_eq_ok, pure_eq_ok, Option.some.injEq] at done
      obtain ⟨checked, isChecked, rfl⟩ := done
      obtain ⟨canonical, committed⟩ := GateQueue.checkArguments_eq_ok isChecked
      exact ⟨⟨value, submitted, canonical⟩, committed⟩

/-- The row a queued request leaves. -/
def rowOf (asked : Asked) (canonical : Jcs.Canonical) : GateRequestRow where
  requestHash := asked.request.requestHash
  requestJson := canonical
  submittedBy := asked.post.submittedBy
  receivedAt := asked.post.now
  subject := asked.request.subject

/-- The arguments stored beside a request. -/
def argumentsOf (desk : Desk) (requestHash : String) : Option Jcs.Canonical :=
  (desk.arguments.find? fun row => row.requestHash == requestHash).map ArgumentsRow.arguments

/-- A state in which no request has been queued since another, and no arguments stored. -/
structure Keeps (ext : External) (limit : RateLimit) (desk next : Desk) : Prop where
  requests : next.world.store.gateRequests = desk.world.store.gateRequests
  arguments : ∀ row ∈ next.arguments, row ∈ desk.arguments
  shown : ∀ requestHash, next.argumentsOf requestHash = none ∨
    next.argumentsOf requestHash = desk.argumentsOf requestHash
  answers : ∃ more, next.answers = desk.answers ++ more ∧ ∀ answered ∈ more, answered.reply.fresh = none
  pending : ∀ pending ∈ next.pending, pending ∈ desk.pending ∨ pending.Known ext limit desk

/-- A state in which one more request has been queued, with the arguments of its submission. -/
structure Queues (desk next : Desk) (asked : Asked) (shown : Option Jcs.Canonical) (cap : Option (Nat × String)) :
    Prop where
  waiting : Pending.queue asked shown cap ∈ desk.pending
  room : desk.world.store.checkParked asked.request.subject cap = .ok ()
  absent : ∀ row ∈ desk.world.store.gateRequests, row.requestHash ≠ asked.request.requestHash
  requests : ∃ canonical, Jcs.canonicalize asked.request.request = .ok canonical ∧
    next.world.store.gateRequests = desk.world.store.gateRequests ++ [rowOf asked canonical]
  arguments : next.arguments = desk.arguments ++ (shown.map fun arguments =>
    { requestHash := asked.request.requestHash, arguments, recordedAt := asked.post.now }).toList
  answers : next.answers = desk.answers ++ [{ post := asked.post, asked := some asked
                                              reply := .queued asked.request.requestHash asked.request.notAfter false }]
  pending : ∀ pending ∈ next.pending, pending ∈ desk.pending

namespace Keeps

variable {next : Desk}

/-- A state of the same tables, some submissions further on. -/
theorem of_same (requests : next.world.store.gateRequests = desk.world.store.gateRequests)
    (arguments : next.arguments = desk.arguments)
    (answers : ∃ more, next.answers = desk.answers ++ more ∧ ∀ answered ∈ more, answered.reply.fresh = none)
    (pending : ∀ pending ∈ next.pending, pending ∈ desk.pending ∨ pending.Known ext limit desk) :
    Keeps ext limit desk next := by
  refine ⟨requests, ?_, ?_, answers, pending⟩
  · intro row member
    rwa [arguments] at member
  · intro requestHash
    unfold argumentsOf
    rw [arguments]
    exact .inr rfl

theorem refl (desk : Desk) : Keeps ext limit desk desk :=
  of_same rfl rfl ⟨[], (List.append_nil _).symm, fun _ member => absurd member List.not_mem_nil⟩
    fun _ member => .inl member

theorem dropped (desk : Desk) (index : Nat) :
    Keeps ext limit desk { desk with pending := desk.pending.eraseIdx index } :=
  of_same rfl rfl ⟨[], (List.append_nil _).symm, fun _ member => absurd member List.not_mem_nil⟩
    fun _ member => .inl (List.mem_of_mem_eraseIdx member)

theorem answer (keeps : Keeps ext limit desk next) {post : Post} {asked : Option Asked} {reply : Reply}
    (old : reply.fresh = none) : Keeps ext limit desk (next.answer post asked reply) := by
  obtain ⟨requests, arguments, shown, ⟨more, answers, stale⟩, pending⟩ := keeps
  refine ⟨requests, arguments, shown, ⟨more ++ [⟨post, asked, reply⟩], ?_, ?_⟩, pending⟩
  · show next.answers ++ _ = _
    rw [answers, List.append_assoc]
  · intro answered member
    rcases List.mem_append.mp member with earlier | last
    · exact stale answered earlier
    · rw [List.mem_singleton.mp last]
      exact old

theorem push (keeps : Keeps ext limit desk next) {pending : Pending} (known : pending.Known ext limit desk) :
    Keeps ext limit desk (next.push pending) := by
  obtain ⟨requests, arguments, shown, answers, earlier⟩ := keeps
  refine ⟨requests, arguments, shown, answers, ?_⟩
  intro other member
  rcases List.mem_append.mp member with before | last
  · exact earlier other before
  · rw [List.mem_singleton.mp last]
    exact .inr known

end Keeps

theorem read_refuses (post : Post) : Refuses (fun reply => reply.fresh = none) (read ext limit post) := by
  unfold read
  refine refuses_bind (refuses_mapError fun _ => rfl) fun _ => ?_
  refine refuses_bind (refuses_mapError fun _ => rfl) fun _ => ?_
  exact refuses_bind (refuses_mapError fun _ => rfl) fun _ => refuses_pure _

theorem postGateRequest_keeps (post : Post) :
    Keeps ext limit desk (desk.postGateRequest ext formatFinite limit post) := by
  unfold postGateRequest
  cases isRead : read ext limit post with
  | error reply => exact (Keeps.refl desk).answer (read_refuses post reply isRead)
  | ok asked =>
      have sound : asked.Sound ext limit := by
        unfold Asked.Sound
        rw [read_post isRead]
        exact isRead
      dsimp only
      cases checked : shown ext formatFinite asked with
      | ok arguments =>
          apply (Keeps.refl desk).push
          exact ⟨sound, shown_eq_ok checked⟩
      | error e =>
          dsimp only
          split
          · exact (Keeps.refl desk).push sound
          · exact (Keeps.refl desk).answer rfl

/-- Arguments are erased with all there are of their request. -/
theorem erase_keeps (now : String) : Keeps ext limit desk (desk.eraseExpiredGateArguments now) := by
  refine ⟨rfl, ?_, ?_, ⟨[], (List.append_nil _).symm, fun _ member => absurd member List.not_mem_nil⟩,
    fun _ member => .inl member⟩
  · intro row member
    exact List.mem_of_mem_filter member
  · intro requestHash
    unfold argumentsOf eraseExpiredGateArguments
    dsimp only
    rw [List.find?_filter]
    have same : ∀ row : ArgumentsRow, row.requestHash = requestHash →
        expired desk.world.store row.requestHash now = expired desk.world.store requestHash now := by
      rintro row rfl
      rfl
    cases gone : expired desk.world.store requestHash now with
    | true =>
        left
        rw [Option.map_eq_none_iff, List.find?_eq_none]
        intro row _ both
        rw [decide_eq_true_eq] at both
        obtain ⟨kept, named⟩ := both
        rw [same row (beq_iff_eq.mp named), gone] at kept
        cases kept
    | false =>
        right
        congr 1
        apply congrArg (fun test => List.find? test desk.arguments)
        funext row
        by_cases named : row.requestHash = requestHash
        · rw [same row named, gone]
          simp [named]
        · simp [named]

/-- The transaction leaves all as it was, or the request and the arguments of its submission. -/
theorem queueGateRequest_cases {next : Desk} {asked : Asked} {shown : Option Jcs.Canonical}
    {cap : Option (Nat × String)} {fresh : Bool} (done : desk.queueGateRequest asked shown cap = .ok (next, fresh)) :
    fresh = false ∧ next = desk ∨
      fresh = true ∧ desk.world.store.checkParked asked.request.subject cap = .ok () ∧
        (∀ row ∈ desk.world.store.gateRequests, row.requestHash ≠ asked.request.requestHash) ∧
        ∃ canonical, Jcs.canonicalize asked.request.request = .ok canonical ∧
          next = { desk with
            world := { desk.world with
              store := { desk.world.store with
                gateRequests := desk.world.store.gateRequests ++ [rowOf asked canonical] } }
            arguments := desk.arguments ++ (shown.map fun arguments =>
              { requestHash := asked.request.requestHash, arguments, recordedAt := asked.post.now }).toList } := by
  unfold queueGateRequest at done
  simp only [bind_eq_ok] at done
  obtain ⟨⟨store, isFresh⟩, queued, done⟩ := done
  obtain ⟨room, canonical, form, ⟨rfl, rfl⟩ | ⟨rfl, absent, rfl⟩⟩ := Store.queueGateRequest_cases queued
  · cases done
    exact .inl ⟨rfl, rfl⟩
  · right
    cases shown with
    | none =>
        cases done
        refine ⟨rfl, room, absent, canonical, form, ?_⟩
        rw [Option.map_none, Option.toList_none, List.append_nil]
        rfl
    | some arguments =>
        simp only [bind_eq_ok, require_eq_ok, pure_eq_ok, Prod.mk.injEq] at done
        obtain ⟨_, _, rfl, rfl⟩ := done
        exact ⟨rfl, room, absent, canonical, form, rfl⟩

theorem performQueue_cases {rest : Desk} {asked : Asked} {shown : Option Jcs.Canonical}
    {cap : Option (Nat × String)} (waiting : Pending.queue asked shown cap ∈ desk.pending)
    (world : rest.world = desk.world) (arguments : rest.arguments = desk.arguments)
    (answers : rest.answers = desk.answers) (fewer : ∀ pending ∈ rest.pending, pending ∈ desk.pending) :
    Keeps ext limit desk (rest.performQueue limit asked shown cap) ∨
      Queues desk (rest.performQueue limit asked shown cap) asked shown cap := by
  have same : Keeps ext limit desk rest := by
    refine .of_same (by rw [world]) arguments ⟨[], ?_, ?_⟩ fun pending member => .inl (fewer pending member)
    · rw [answers, List.append_nil]
    · exact fun _ member => absurd member List.not_mem_nil
  unfold performQueue
  cases done : rest.queueGateRequest asked shown cap with
  | error e =>
      left
      apply same.answer
      split
      · rfl
      · rfl
  | ok result =>
      obtain ⟨next, fresh⟩ := result
      obtain ⟨rfl, rfl⟩ | ⟨rfl, room, absent, canonical, form, rfl⟩ := queueGateRequest_cases done
      · exact .inl (same.answer rfl)
      · right
        rw [world] at room absent
        constructor
        · exact waiting
        · exact room
        · exact absent
        · exact ⟨canonical, form, by rw [world]; rfl⟩
        · show rest.arguments ++ _ = _
          rw [arguments]
        · show rest.answers ++ _ = _
          rw [answers]
          rfl
        · exact fewer

theorem performRecord_keeps {rest : Desk} (same : Keeps ext limit desk rest) (asked : Asked) (error : Error) :
    Keeps ext limit desk (rest.performRecord ext formatFinite config asked error) := by
  unfold performRecord
  dsimp only
  split
  · rename_i store record done
    simp only [bind_eq_ok] at done
    obtain ⟨detail, _, canonical, _, recorded⟩ := done
    obtain ⟨row, rfl, _⟩ := Store.recordRejection_eq_ok recorded
    apply Keeps.answer
    · exact ⟨same.requests, same.arguments, same.shown, same.answers, same.pending⟩
    · rfl
  · exact same.answer rfl

theorem perform_cases (known : ∀ pending ∈ desk.pending, pending.Known ext limit desk) (index : Nat) :
    Keeps ext limit desk (desk.perform ext formatFinite config limit index) ∨
      ∃ asked shown cap, Queues desk (desk.perform ext formatFinite config limit index) asked shown cap := by
  unfold perform
  have rest : Keeps ext limit desk { desk with pending := desk.pending.eraseIdx index } := .dropped desk index
  cases found : desk.pending[index]? with
  | none => exact .inl (.refl desk)
  | some pending =>
      have member := List.mem_of_getElem? found
      have checked := known pending member
      cases pending with
      | look asked shown =>
          left
          dsimp only
          unfold performLook
          split
          · rename_i queued
            exact rest.push ⟨checked, queued⟩
          · exact rest.push checked
      | count asked shown =>
          left
          dsimp only
          unfold performCount
          dsimp only
          split
          · exact rest.answer rfl
          · exact rest.push ⟨checked, rfl⟩
      | queue asked shown cap =>
          have fewer : ∀ other ∈ desk.pending.eraseIdx index, other ∈ desk.pending :=
            fun _ kept => List.mem_of_mem_eraseIdx kept
          have outcome : Keeps ext limit desk (Desk.performQueue limit
              { desk with pending := desk.pending.eraseIdx index } asked shown cap) ∨
              Queues desk (Desk.performQueue limit { desk with pending := desk.pending.eraseIdx index } asked shown
                cap) asked shown cap := performQueue_cases member rfl rfl rfl fewer
          exact outcome.imp_right fun queues => ⟨asked, shown, cap, queues⟩
      | mismatch asked error =>
          left
          dsimp only
          unfold performMismatch
          dsimp only
          split
          · exact rest.answer rfl
          · exact rest.push checked
      | record asked error => exact .inl (performRecord_keeps rest asked error)

/-- What one step does: it queues a request in a transaction of its own, or it queues none. -/
theorem step_cases (known : ∀ pending ∈ desk.pending, pending.Known ext limit desk) (action : DeskAction) :
    Keeps ext limit desk (desk.step ext formatFinite config limit action) ∨
      ∃ asked shown cap, Queues desk (desk.step ext formatFinite config limit action) asked shown cap := by
  cases action with
  | post post => exact .inl (postGateRequest_keeps post)
  | perform index => exact perform_cases known index
  | abandon index => exact .inl (.dropped desk index)
  | kernel action elsewhere =>
      refine .inl (.of_same (World.step_gateRequests elsewhere) rfl ?_ fun _ member => .inl member)
      exact ⟨[], (List.append_nil _).symm, fun _ member => absurd member List.not_mem_nil⟩
  | erase now => exact .inl (erase_keeps now)

/-- The transaction that queues a request is the kernel's own. -/
theorem performQueue_world {asked : Asked} {shown : Option Jcs.Canonical} {cap : Option (Nat × String)}
    (sound : asked.Sound ext limit) :
    ∃ actions, (desk.performQueue limit asked shown cap).world = (kernel ext config).run desk.world actions := by
  unfold performQueue
  cases done : desk.queueGateRequest asked shown cap with
  | error e => exact ⟨[], rfl⟩
  | ok result =>
      obtain ⟨next, fresh⟩ := result
      obtain ⟨rfl, rfl⟩ | ⟨rfl, room, absent, canonical, form, rfl⟩ := queueGateRequest_cases done
      · exact ⟨[], rfl⟩
      · refine ⟨[.park asked.request.request asked.post.submittedBy asked.post.now cap], ?_⟩
        have parked : World.park ext desk.world asked.request.request asked.post.submittedBy asked.post.now cap =
            { desk.world with store := { desk.world.store with
                gateRequests := desk.world.store.gateRequests ++ [rowOf asked canonical] } } := by
          unfold World.park
          rw [(sound_spec sound).1]
          dsimp only
          rw [Store.queueGateRequest_fresh room absent form]
          rfl
        exact parked.symm

theorem performRecord_world (asked : Asked) (error : Error) :
    ∃ actions, (desk.performRecord ext formatFinite config asked error).world =
      (kernel ext config).run desk.world actions := by
  unfold performRecord
  dsimp only
  split
  · rename_i store record done
    simp only [bind_eq_ok] at done
    obtain ⟨detail, _, canonical, _, recorded⟩ := done
    refine ⟨[.record GateQueue.argumentsHashMismatch detail (ext.sha256Hex (.canonical canonical))
      (some asked.post.submittedBy) asked.post.now], ?_⟩
    have same : World.step ext config desk.world (.record GateQueue.argumentsHashMismatch detail
        (ext.sha256Hex (.canonical canonical)) (some asked.post.submittedBy) asked.post.now) =
          { desk.world with store } := by
      unfold World.step World.recordRejection
      dsimp only
      rw [recorded]
    exact same.symm
  · exact ⟨[], rfl⟩

/-- Whatever a step of the gate route does to the kernel's state, the kernel can do. -/
theorem world_step (known : ∀ pending ∈ desk.pending, pending.Known ext limit desk) (action : DeskAction) :
    ∃ actions, (desk.step ext formatFinite config limit action).world =
      (kernel ext config).run desk.world actions := by
  cases action with
  | post post =>
      refine ⟨[], ?_⟩
      show (desk.postGateRequest ext formatFinite limit post).world = desk.world
      unfold postGateRequest
      split
      · rfl
      · split
        · rfl
        · split
          · rfl
          · rfl
  | abandon index => exact ⟨[], rfl⟩
  | kernel action elsewhere => exact ⟨[action], rfl⟩
  | erase now => exact ⟨[], rfl⟩
  | perform index =>
      show ∃ actions, (desk.perform ext formatFinite config limit index).world = _
      unfold perform
      cases found : desk.pending[index]? with
      | none => exact ⟨[], rfl⟩
      | some pending =>
          have checked := known pending (List.mem_of_getElem? found)
          cases pending with
          | look asked shown =>
              refine ⟨[], ?_⟩
              dsimp only
              unfold performLook
              split
              · rfl
              · rfl
          | count asked shown =>
              refine ⟨[], ?_⟩
              dsimp only
              unfold performCount
              dsimp only
              split
              · rfl
              · rfl
          | queue asked shown cap =>
              have sound : asked.Sound ext limit := by
                cases cap with
                | none => exact checked.1.sound
                | some cap => exact checked.1.sound
              exact performQueue_world sound
          | mismatch asked error =>
              refine ⟨[], ?_⟩
              dsimp only
              unfold performMismatch
              dsimp only
              split
              · rfl
              · rfl
          | record asked error => exact performRecord_world asked error

/-- What holds of every state of the gate route. -/
structure Ok (ext : External) (limit : RateLimit) (desk : Desk) : Prop where
  pending : ∀ pending ∈ desk.pending, pending.Known ext limit desk
  capped : Capped limit.counts limit.perSubject desk.world.store.gateRequests
  fresh : desk.answers.filterMap (fun answered => answered.reply.fresh) =
    desk.world.store.gateRequests.map GateRequestRow.requestHash
  distinct : (desk.world.store.gateRequests.map GateRequestRow.requestHash).Nodup
  shown : ∀ row ∈ desk.arguments, ∃ answered ∈ desk.answers, ∃ asked, answered.asked = some asked ∧
    answered.post = asked.post ∧ answered.reply.fresh = some row.requestHash ∧
    asked.request.requestHash = row.requestHash ∧ asked.Sound ext limit ∧ asked.Shows ext row.arguments

theorem queued_iff {requestHash : String} :
    desk.queued requestHash = true ↔ ∃ row ∈ desk.world.store.gateRequests, row.requestHash = requestHash := by
  unfold queued Store.gateRequest
  rw [Option.isSome_map, List.find?_isSome]
  simp only [beq_iff_eq]

theorem queued_of_requests {next : Desk} {requestHash : String}
    (more : desk.world.store.gateRequests <+: next.world.store.gateRequests)
    (queued : desk.queued requestHash = true) : next.queued requestHash = true := by
  rw [queued_iff] at queued ⊢
  obtain ⟨row, member, same⟩ := queued
  exact ⟨row, more.subset member, same⟩

theorem known_of_requests {next : Desk} {pending : Pending}
    (more : desk.world.store.gateRequests <+: next.world.store.gateRequests)
    (known : pending.Known ext limit desk) : pending.Known ext limit next := by
  cases pending with
  | queue asked shown cap =>
      cases cap with
      | none => exact ⟨known.1, queued_of_requests more known.2⟩
      | some cap => exact known
  | look asked shown => exact known
  | count asked shown => exact known
  | mismatch asked error => exact known
  | record asked error => exact known

theorem Ok.keeps {next : Desk} (ok : Ok ext limit desk) (keeps : Keeps ext limit desk next) : Ok ext limit next := by
  obtain ⟨requests, arguments, _, ⟨more, answers, stale⟩, pending⟩ := keeps
  have same : desk.world.store.gateRequests <+: next.world.store.gateRequests :=
    requests ▸ List.prefix_refl _
  constructor
  · intro other member
    rcases pending other member with earlier | known
    · exact known_of_requests same (ok.pending other earlier)
    · exact known_of_requests same known
  · rw [requests]
    exact ok.capped
  · have none_fresh : more.filterMap (fun answered => answered.reply.fresh) = [] :=
      List.filterMap_eq_nil_iff.mpr stale
    rw [requests, answers, List.filterMap_append, none_fresh, List.append_nil]
    exact ok.fresh
  · rw [requests]
    exact ok.distinct
  · intro row member
    obtain ⟨answered, listed, rest⟩ := ok.shown row (arguments row member)
    refine ⟨answered, ?_, rest⟩
    rw [answers]
    exact List.mem_append_left more listed

theorem counts_rowOf {asked : Asked} (sound : asked.Sound ext limit) (canonical : Jcs.Canonical) :
    limit.counts (rowOf asked canonical) =
      fun row => row.subject == asked.request.subject && decide (asked.since ≤ row.receivedAt) := by
  funext row
  unfold RateLimit.counts rowOf
  dsimp only
  rw [(sound_spec sound).2]

theorem Ok.queues {next : Desk} {asked : Asked} {shown : Option Jcs.Canonical} {cap : Option (Nat × String)}
    (ok : Ok ext limit desk) (queues : Queues desk next asked shown cap) : Ok ext limit next := by
  obtain ⟨waiting, room, absent, ⟨canonical, form, requests⟩, arguments, answers, pending⟩ := queues
  have known := ok.pending _ waiting
  have more : desk.world.store.gateRequests <+: next.world.store.gateRequests := by
    rw [requests]
    exact List.prefix_append _ _
  constructor
  · intro other member
    exact known_of_requests more (ok.pending other (pending other member))
  · rw [requests, capped_concat]
    refine ⟨ok.capped, ?_⟩
    cases cap with
    | none =>
        obtain ⟨row, member, same⟩ := queued_iff.mp known.2
        exact absurd same (absent row member)
    | some cap =>
        obtain ⟨checked, rfl⟩ := known
        rw [counts_rowOf checked.sound]
        unfold Store.checkParked at room
        dsimp only at room
        rw [require_eq_ok] at room
        exact room
  · rw [requests, answers, List.filterMap_append, List.map_append, ok.fresh]
    rfl
  · rw [requests, List.map_append, List.nodup_append]
    refine ⟨ok.distinct, List.nodup_singleton _, ?_⟩
    intro earlier listed last isLast
    obtain ⟨row, member, rfl⟩ := List.mem_map.mp listed
    rw [List.map_singleton, List.mem_singleton] at isLast
    rw [isLast]
    exact absent row member
  · intro row member
    rw [arguments] at member
    rcases List.mem_append.mp member with earlier | last
    · obtain ⟨answered, listed, rest⟩ := ok.shown row earlier
      refine ⟨answered, ?_, rest⟩
      rw [answers]
      exact List.mem_append_left _ listed
    · rw [Option.mem_toList, Option.map_eq_some_iff] at last
      obtain ⟨canonical', isShown, rfl⟩ := last
      have checked : Pending.Checked ext limit asked shown := by
        cases cap with
        | none => exact known.1
        | some cap => exact known.1
      refine ⟨⟨asked.post, some asked, .queued asked.request.requestHash asked.request.notAfter false⟩, ?_, asked, rfl,
        rfl, rfl, rfl, checked.sound, checked.shows canonical' isShown⟩
      rw [answers]
      exact List.mem_append_right _ List.mem_cons_self

theorem Ok.step (ok : Ok ext limit desk) (action : DeskAction) :
    Ok ext limit (desk.step ext formatFinite config limit action) := by
  rcases step_cases ok.pending action with keeps | ⟨asked, shown, cap, queues⟩
  · exact ok.keeps keeps
  · exact ok.queues queues

theorem ok_initial : Ok ext limit initial := by
  constructor
  · exact fun pending member => absurd member List.not_mem_nil
  · exact capped_nil
  · rfl
  · exact List.nodup_nil
  · exact fun row member => absurd member List.not_mem_nil

theorem ok_of_reachable (reached : (gateRoute ext formatFinite config limit).Reachable desk) : Ok ext limit desk := by
  refine reached.invariant (Ok ext limit) ?_ fun state action _ ok => ok.step action
  rintro state rfl
  exact ok_initial

/-- The gate route keeps the kernel where it could be without it. -/
theorem world_reachable (reached : (gateRoute ext formatFinite config limit).Reachable desk) :
    (kernel ext config).Reachable desk.world := by
  refine reached.invariant (fun state => (kernel ext config).Reachable state.world) ?_ ?_
  · rintro state rfl
    exact .of_start rfl
  · intro state action reached known
    obtain ⟨actions, same⟩ := @world_step ext formatFinite config limit state (ok_of_reachable reached).pending action
    have next : ((gateRoute ext formatFinite config limit).step state action).world =
        (kernel ext config).run state.world actions := same
    rw [next]
    exact known.run actions

/-- Two requests of a subject within one window count each other. -/
theorem counts_of_window {row other : GateRequestRow} {start stop : String} {first last : Int}
    (starts : Clock.parseTimestamp start = .ok first) (stops : Clock.parseTimestamp stop = .ok last)
    (short : last ≤ first + limit.windowSeconds * 1000) (same : other.subject = row.subject)
    (before : row.receivedAt ≤ stop) (after : start ≤ other.receivedAt) : limit.counts row other = true := by
  unfold RateLimit.counts
  rw [same, beq_self_eq_true, Bool.true_and]
  cases shifted : Clock.shift row.receivedAt (-limit.windowSeconds) with
  | error e => rfl
  | ok since =>
      dsimp only
      rw [decide_eq_true_eq]
      obtain ⟨millis, parsed⟩ : ∃ millis, Clock.parseTimestamp row.receivedAt = .ok millis := by
        unfold Clock.shift at shifted
        rw [bind_eq_ok] at shifted
        obtain ⟨millis, parsed, _⟩ := shifted
        exact ⟨millis, parsed⟩
      obtain ⟨inForm, rfl⟩ := (Clock.shift_eq_ok parsed).mp shifted
      have within := (Clock.le_iff_of_parse parsed stops).mp before
      have early := (Clock.le_iff_of_parse inForm.parse starts).mpr (by omega)
      exact le_trans early after

/-- The requests of a subject that were received within a window. -/
def receivedWithin (desk : Desk) (subject start stop : String) : List GateRequestRow :=
  desk.world.store.gateRequests.filter fun row =>
    row.subject == subject && decide (start ≤ row.receivedAt) && decide (row.receivedAt ≤ stop)

theorem Ok.receivedWithin_le (ok : Ok ext limit desk) (subject : String) {start stop : String} {first last : Int}
    (starts : Clock.parseTimestamp start = .ok first) (stops : Clock.parseTimestamp stop = .ok last)
    (short : last ≤ first + limit.windowSeconds * 1000) :
    (desk.receivedWithin subject start stop).length ≤ limit.perSubject := by
  apply ok.capped.window
  intro row other inside inside'
  simp only [Bool.and_eq_true, beq_iff_eq, decide_eq_true_eq] at inside inside'
  obtain ⟨⟨isSubject, _⟩, before⟩ := inside
  obtain ⟨⟨isSubject', after⟩, _⟩ := inside'
  exact counts_of_window starts stops short (isSubject'.trans isSubject.symm) before after

/-- An answer by which the submission that queued a request is told so, with the arguments that are shown beside
the request. -/
structure ShownBy (ext : External) (limit : RateLimit) (desk : Desk) (row : ArgumentsRow) (answered : Answered)
    (asked : Asked) : Prop where
  listed : answered ∈ desk.answers
  queued : answered.reply.fresh = some row.requestHash
  only : ∀ other ∈ desk.answers, other.reply.fresh = some row.requestHash → other = answered
  read : Desk.read ext limit answered.post = .ok asked
  request : Jcs.objectHash ext asked.request.request = .ok row.requestHash
  submitted : ∃ arguments, asked.submitted = some arguments ∧ Jcs.canonicalize arguments = .ok row.arguments
  committed : asked.request.request.getStr "args-hash" = some (ext.sha256Hex (.canonical row.arguments))

theorem Ok.shownBy (ok : Ok ext limit desk) {row : ArgumentsRow} (member : row ∈ desk.arguments) :
    ∃ answered asked, ShownBy ext limit desk row answered asked := by
  obtain ⟨answered, listed, asked, _, isPost, fresh, same, sound, shows⟩ := ok.shown row member
  have validated := GateQueue.validate_eq_ok (sound_spec sound).1
  refine ⟨answered, asked, ?_⟩
  constructor
  · exact listed
  · exact fresh
  · intro other member' fresh'
    have distinct := ok.distinct
    rw [← ok.fresh] at distinct
    exact eq_of_nodup_filterMap distinct member' listed fresh' fresh
  · rw [isPost]
    exact sound
  · rw [← same]
    exact validated.hashed
  · exact shows.submitted
  · rw [shows.committed]
    exact validated.argsHash

theorem Keeps.argumentsOf {next : Desk} (keeps : Keeps ext limit desk next) {requestHash : String}
    {held : Option Jcs.Canonical}
    (same : desk.argumentsOf requestHash = none ∨ desk.argumentsOf requestHash = held) :
    next.argumentsOf requestHash = none ∨ next.argumentsOf requestHash = held := by
  rcases keeps.shown requestHash with gone | kept
  · exact .inl gone
  · rw [kept]
    exact same

theorem Queues.argumentsOf {next : Desk} {asked : Asked} {shown : Option Jcs.Canonical}
    {cap : Option (Nat × String)} (queues : Queues desk next asked shown cap) {requestHash : String}
    (queued : desk.queued requestHash = true) : next.argumentsOf requestHash = desk.argumentsOf requestHash := by
  have other : asked.request.requestHash ≠ requestHash := by
    rintro rfl
    obtain ⟨row, member, same⟩ := queued_iff.mp queued
    exact queues.absent row member same
  unfold Desk.argumentsOf
  rw [queues.arguments, List.find?_append]
  cases shown with
  | none => simp
  | some arguments =>
      rw [Option.map_some, Option.toList_some, List.find?_singleton, if_neg (by simp [other]), Option.or_none]

/-- Once a request is queued, the arguments beside it stay the same until they are erased for good. -/
theorem argumentsOf_run (reached : (gateRoute ext formatFinite config limit).Reachable desk)
    {requestHash : String} (queued : desk.queued requestHash = true) (actions : List DeskAction) :
    ((gateRoute ext formatFinite config limit).run desk actions).argumentsOf requestHash = none ∨
      ((gateRoute ext formatFinite config limit).run desk actions).argumentsOf requestHash =
        desk.argumentsOf requestHash := by
  have general := (gateRoute ext formatFinite config limit).run_invariant
    (fun state => Ok ext limit state ∧ state.queued requestHash = true ∧
      (state.argumentsOf requestHash = none ∨ state.argumentsOf requestHash = desk.argumentsOf requestHash))
  refine (general ?_ ⟨ok_of_reachable reached, queued, .inr rfl⟩ actions).2.2
  intro state action known
  obtain ⟨ok, queued, same⟩ := known
  refine ⟨ok.step action, ?_⟩
  have cases_ := @step_cases ext formatFinite config limit state ok.pending action
  rcases cases_ with keeps | ⟨asked, shown, cap, queues⟩
  · refine ⟨queued_of_requests ?_ queued, keeps.argumentsOf same⟩
    exact keeps.requests ▸ List.prefix_refl _
  · obtain ⟨canonical, _, requests⟩ := queues.requests
    refine ⟨queued_of_requests ?_ queued, ?_⟩
    · show _ <+: (state.step ext formatFinite config limit action).world.store.gateRequests
      rw [requests]
      exact List.prefix_append _ _
    · have kept : ((gateRoute ext formatFinite config limit).step state action).argumentsOf requestHash =
          state.argumentsOf requestHash := queues.argumentsOf queued
      rw [kept]
      exact same

end Desk

end Stozher

namespace Stozher.Deployment

open Library Library.Text Recorded

def oneAtATime : RateLimit where
  perSubject := 1
  windowSeconds := 300
  perSubject_pos := by decide
  windowSeconds_pos := by decide

/-- The gateway's submission of the request for a merge, with the arguments of the call. -/
def mergePost : Post where
  body := .canonical {
    tree := .object [("arguments", noArguments.document), ("request", gatewayRequest.document)] }
  submittedBy := "agent:ops"
  now := nine

/-- One submission is queued. -/
def parking : List DeskAction :=
  [.post mergePost, .perform 0, .perform 0, .perform 0]

def desk (actions : List DeskAction) : Desk :=
  (gateRoute ext integerText config oneAtATime).run .initial actions

/-- What the gate route makes of the submission. -/
structure ParkingSeen : Prop where
  parked : (desk parking).arguments.map ArgumentsRow.requestHash = [gatewayRequest.digest]
  start : (Clock.parseTimestamp nine).toOption = some 1767258000000
  stop : (Clock.parseTimestamp fivePast).toOption = some 1767258300000

theorem parking_seen : ParkingSeen := by
  constructor <;> decide +kernel

theorem desk_reachable (actions : List DeskAction) :
    (gateRoute ext integerText config oneAtATime).Reachable (desk actions) :=
  (System.Reachable.of_start rfl).run actions

end Stozher.Deployment
