import Stozher.AncestryWalk
import Stozher.Deployment

namespace Stozher

open Library Ingest

variable {ext : External} {config : Config}

namespace Ingest

variable {store : Store}

theorem kindSpec_of_mandateRef {kind : String} {spec : Envelope.KindSpec}
    (hasSpec : Envelope.kindSpec kind = some spec)
    (admits : "mandate-ref" ∈ spec.required ∨ "mandate-ref" ∈ spec.optional) :
    kind ∈ effectKinds ∨ kind = "cognition" := by
  unfold Envelope.kindSpec at hasSpec
  split at hasSpec <;> cases hasSpec <;> simp_all [effectKinds]

/-- Whatever cites a mandate acts under it. -/
theorem acts_of_cites {env : Value} (valid : Envelope.validate ext env = .ok ()) {leafRef : String}
    (cites : env.getStr "mandate-ref" = some leafRef) : actsUnderMandate env := by
  obtain ⟨value, found, _⟩ := Option.bind_eq_some_iff.mp cites
  obtain ⟨kind, spec, hasKind, hasSpec, listed⟩ := Envelope.admits_of_get valid found
  have admits : "mandate-ref" ∈ spec.required ∨ "mandate-ref" ∈ spec.optional := by
    simpa [Envelope.common, Envelope.commonOptional] using listed
  unfold actsUnderMandate
  rw [hasKind, Option.getD_some, Option.some.injEq]
  exact kindSpec_of_mandateRef hasSpec admits

end Ingest

namespace Store

variable {store later : Store}

theorem Revokes.grows {target revokedAt : String} {signer : KeyId}
    (revokes : Revokes ext store target revokedAt signer) (grows : store.Grows later) :
    Revokes ext later target revokedAt signer := by
  obtain ⟨row, member, known⟩ := revokes.row
  exact ⟨row, grows.revocations.subset member, known⟩

/-- An accepted walk follows stored mandates up to one without a parent. -/
theorem walked_path {leafRef : String} {roots : List KeyId} {subjectKey : KeyId} {at_ : String} {depth : Nat}
    {request : Mandate.Scoped} {result : Mandate.MandateChainOk}
    (walked : Mandate.walk ext (walkParams store leafRef roots subjectKey at_ depth).1 leafRef request
      (walkParams store leafRef roots subjectKey at_ depth).2 = .ok result) :
    ∃ rest, Ascends store.parentOf (leafRef :: rest) ∧
      ∀ link ∈ leafRef :: rest, ∃ value, store.mandate link = some value := by
  obtain ⟨leaf, rest, _, held, ascends⟩ := walk_stored walked
  refine ⟨rest.map Prod.fst, ascends, ?_⟩
  intro link inside
  obtain ⟨value, found⟩ := held link inside
  exact ⟨value, mandateAncestry_get found⟩

/-- What a walk found beneath a mandate was beneath it already in the state the walk read. -/
theorem beneath_of_later (grows : store.Grows later) {leafRef : String} {roots : List KeyId}
    {subjectKey : KeyId} {at_ : String} {depth : Nat} {request : Mandate.Scoped}
    {result : Mandate.MandateChainOk}
    (walked : Mandate.walk ext (walkParams store leafRef roots subjectKey at_ depth).1 leafRef request
      (walkParams store leafRef roots subjectKey at_ depth).2 = .ok result)
    {target : String} (beneath : later.Beneath leafRef target) : store.Beneath leafRef target := by
  obtain ⟨rest, now, stored⟩ := walked_path walked
  have then_ : Ascends later.parentOf (leafRef :: rest) := by
    refine now.congr ?_
    intro link inside
    obtain ⟨value, held⟩ := stored link inside
    exact parentOf_grows grows held
  exact now.above_of_mem (then_.mem_of_above beneath)

end Store

namespace World

variable {world : World}

/-- The append of an envelope under a revoked mandate, effective when the envelope was emitted, is of
one that was validated after the revocation stood, by a revoker whose revocation counts then. -/
def Heeds (held : Store) (target revokedAt : String) (signer : KeyId) (world : World)
    (action : Action) : Prop :=
  ∀ index request snapshot validated leafRef, action = .perform index →
    world.tasks[index]? = some (.append request snapshot validated) →
    validated.plan.envelope.getStr "mandate-ref" = some leafRef → snapshot.Beneath leafRef target →
    revokedAt ≤ emittedAt validated.plan.envelope →
    held.Grows snapshot ∧ snapshot.IssuedBefore target revokedAt ∧
      (signer ∈ rootKeysAt snapshot (emittedAt validated.plan.envelope) ∨
        snapshot.GrantedBy target signer)

/-- What is taken from an instant on under a mandate revoked by then. -/
structure Heeded (ext : External) (config : Config) (held : World) (target revokedAt : String)
    (world : World) : Prop where
  reachable : (kernel ext config).Reachable world
  taken : ∃ later, world.accepted = held.accepted ++ later ∧ ∀ taken ∈ later, ∀ leafRef,
    taken.plan.envelope.getStr "mandate-ref" = some leafRef →
    taken.snapshot.Beneath leafRef target → emittedAt taken.plan.envelope < revokedAt

theorem Heeded.step {held : World} {target revokedAt : String} {signer : KeyId}
    (revokes : Store.Revokes ext held.store target revokedAt signer)
    (heeded : Heeded ext config held target revokedAt world) {action : Action}
    (heeds : Heeds held.store target revokedAt signer world action) :
    Heeded ext config held target revokedAt (World.step ext config world action) := by
  have reachable := heeded.reachable.step action
  obtain ⟨later, grown, before⟩ := heeded.taken
  cases step_cases ext config world action with
  | quiet store accepted tasks =>
      exact ⟨reachable, later, accepted.trans grown, before⟩
  | appends request snapshot validated waiting fresh store accepted tasks performs =>
      refine ⟨reachable, later ++ [{ request, snapshot, plan := validated.plan }], ?_, ?_⟩
      · rw [← List.append_assoc, ← grown]
        exact accepted
      · intro taken member leafRef cites beneath
        rcases List.mem_append.mp member with earlier | new
        · exact before taken earlier leafRef cites beneath
        · rw [List.mem_singleton] at new
          subst new
          by_contra notBefore
          obtain ⟨index, performed, found, _⟩ := performs
          obtain ⟨subjectKey, payloads, admitted⟩ :=
            ((traced heeded.reachable).tasks _ _ _ waiting).admitted
          obtain ⟨grows, issued, stands⟩ := heeds index request snapshot validated leafRef performed found
            cites beneath (not_lt.mp notBefore)
          exact notBefore (admitted_before_revocation admitted (acts_of_cites admitted.valid cites) cites
            (revokes.grows grows) beneath stands issued)

/-- Once a revocation stands, nothing later than it is taken beneath the mandate, where what is taken
was validated after the revocation stood. -/
theorem appends_heed_revocation (reached : (kernel ext config).Reachable world)
    {target revokedAt : String} {signer : KeyId}
    (accepted : RevocationAccepted ext world target revokedAt signer) (actions : List Action)
    (heeds : ∀ before action after, actions = before ++ action :: after →
      Heeds world.store target revokedAt signer ((kernel ext config).run world before) action) :
    ∃ later, ((kernel ext config).run world actions).accepted = world.accepted ++ later ∧
      ∀ taken ∈ later, ∀ leafRef, taken.plan.envelope.getStr "mandate-ref" = some leafRef →
        ((kernel ext config).run world actions).store.Beneath leafRef target →
        emittedAt taken.plan.envelope < revokedAt := by
  have revokes := accepted.revokes reached
  have final := (kernel ext config).run_invariant_of (Heeded ext config world target revokedAt)
    (fun _ _ heeds heeded => Heeded.step revokes heeded heeds)
    ⟨reached, [], (List.append_nil _).symm, by intro taken member; cases member⟩ actions heeds
  obtain ⟨later, grown, before⟩ := final.taken
  refine ⟨later, grown, ?_⟩
  intro taken member leafRef cites beneath
  have inside : taken ∈ ((kernel ext config).run world actions).accepted := by
    rw [grown]
    exact List.mem_append_right _ member
  obtain ⟨start, after, at_⟩ := (traced final.reachable).accepted taken inside
  obtain ⟨subjectKey, payloads, admitted⟩ := at_.origin.admitted
  have acts := acts_of_cites admitted.valid cites
  obtain ⟨leaf, depth, walk, result, isLeaf, walked⟩ := admitted.rule.walks acts
  rw [cites] at isLeaf
  cases isLeaf
  have grows := (at_.origin.seen.trans at_.appends.grows).trans at_.kept
  exact before taken member leafRef cites (Store.beneath_of_later grows walked beneath)

/-- A validation of these bytes that ends while the envelope is stored. -/
def ValidatesAgain (raw : Octets) (world : World) (action : Action) : Prop :=
  ∃ index request, action = .perform index ∧ world.tasks[index]? = some (.validate request) ∧
    request.raw = raw

/-- How a resubmission is answered. -/
def Idempotent (id : String) (outcome : Outcome) : Prop :=
  ∃ appended, outcome = .accepted appended ∧ appended.id = id ∧ appended.idempotent = true

/-- No refusal of these bytes waits, and every answer to them since a state was an idempotent one. -/
structure Repeats (raw : Octets) (id : String) (held world : World) : Prop where
  unrefused : ∀ request error claims, Task.reject request error claims ∈ world.tasks → request.raw ≠ raw
  answered : ∀ answer ∈ world.answers, answer.request.raw = raw →
    answer ∈ held.answers ∨ Idempotent id answer.outcome

namespace Repeats

variable {raw : Octets} {id : String} {held next : World}

/-- Fewer tasks and the same answers. -/
theorem of_fewer (repeats : Repeats raw id held world) (tasks : ∀ task ∈ next.tasks, task ∈ world.tasks)
    (answers : next.answers = world.answers) : Repeats raw id held next := by
  refine ⟨fun request error claims member => repeats.unrefused _ _ _ (tasks _ member), ?_⟩
  rw [answers]
  exact repeats.answered

theorem answer (repeats : Repeats raw id held world) {request : Submission} {outcome : Outcome}
    (fair : request.raw = raw → Idempotent id outcome) :
    Repeats raw id held (World.answer world request outcome) := by
  refine ⟨repeats.unrefused, ?_⟩
  intro answer member same
  rcases List.mem_append.mp member with earlier | new
  · exact repeats.answered answer earlier same
  · rw [List.mem_singleton] at new
    subst new
    exact Or.inr (fair same)

theorem task (repeats : Repeats raw id held world) {task : Task}
    (fair : ∀ request error claims, task = .reject request error claims → request.raw ≠ raw) :
    Repeats raw id held { world with tasks := world.tasks ++ [task] } := by
  refine ⟨?_, repeats.answered⟩
  intro request error claims member
  rcases List.mem_append.mp member with earlier | new
  · exact repeats.unrefused _ _ _ earlier
  · rw [List.mem_singleton] at new
    exact fair request error claims new.symm

theorem refuse (repeats : Repeats raw id held world) {request : Submission} (error : Error)
    (claims : Claims) (other : request.raw ≠ raw) :
    Repeats raw id held (World.refuse world request error claims) := by
  unfold World.refuse
  split
  · exact repeats.answer fun same => absurd same other
  · apply repeats.task
    intro refused _ _ same
    cases same
    exact other

end Repeats

/-- A state in which the envelope these bytes carry is stored and they were never refused since. -/
structure Stored (ext : External) (config : Config) (raw : Octets) (received : Received)
    (held world : World) : Prop where
  reachable : (kernel ext config).Reachable world
  stored : ∃ row, world.store.envelopeById received.id = some row
  repeats : Repeats raw received.id held world

theorem envelopeById_grows {store next : Store} (grows : store.Grows next) {id : String}
    {row : EnvelopeRow} (found : store.envelopeById id = some row) : next.envelopeById id = some row := by
  obtain ⟨rows, extended⟩ := grows.envelopes
  unfold Store.envelopeById at found ⊢
  rw [← extended, List.find?_append, found, Option.some_or]

variable {raw : Octets} {received : Received} {held : World}

theorem Stored.submit (stored : Stored ext config raw received held world)
    (opened : receive ext raw = .ok received) (request : Submission) :
    Repeats raw received.id held (World.submit ext world request) := by
  have repeats := stored.repeats
  unfold World.submit
  by_cases same : request.raw = raw
  · obtain ⟨row, found⟩ := stored.stored
    have known : resubmitted world.store received = some {
        id := received.id, stream := row.stream, seq := row.seq, idempotent := true } := by
      unfold resubmitted
      rw [found, Option.map_some]
    rw [same, opened]
    dsimp only
    rw [known]
    exact repeats.answer fun _ => ⟨_, rfl, rfl, rfl⟩
  · split
    · exact repeats.refuse _ _ same
    · split
      · exact repeats.answer fun here => absurd here same
      · apply repeats.task
        intro _ _ _ isReject
        cases isReject

/-- The append of a stored envelope is answered idempotently. -/
theorem Stored.append (stored : Stored ext config raw received held world)
    (opened : receive ext raw = .ok received) {index : Nat} {request : Submission} {snapshot : Store}
    {validated : Validated} (waiting : world.tasks[index]? = some (.append request snapshot validated)) :
    Repeats raw received.id held (World.performAppend
      { world with tasks := world.tasks.eraseIdx index } request snapshot validated) := by
  have repeats : Repeats raw received.id held { world with tasks := world.tasks.eraseIdx index } :=
    stored.repeats.of_fewer (fun _ member => List.mem_of_mem_eraseIdx member) rfl
  by_cases same : request.raw = raw
  · obtain ⟨row, found⟩ := stored.stored
    obtain ⟨subjectKey, payloads, admitted⟩ :=
      ((traced stored.reachable).tasks _ _ _ (List.mem_of_getElem? waiting)).admitted
    rw [same] at admitted
    have id := (admitted.of_received opened).2
    have done : world.store.append validated.plan = .ok (world.store, {
        id := validated.plan.id, stream := row.stream, seq := row.seq, idempotent := true }) := by
      unfold Store.append
      rw [id, found]
    unfold World.performAppend
    dsimp only
    rw [done]
    dsimp only
    have unchanged : Repeats raw received.id held { world with
        tasks := world.tasks.eraseIdx index, accepted := world.accepted } := repeats
    exact unchanged.answer fun _ => ⟨_, rfl, id, rfl⟩
  · unfold World.performAppend
    split
    · have appended : ∀ store accepted, Repeats raw received.id held { world with
          tasks := world.tasks.eraseIdx index, store, accepted } :=
        fun _ _ => ⟨repeats.unrefused, repeats.answered⟩
      exact (appended _ _).answer fun here => absurd here same
    · exact repeats.refuse _ _ same

theorem Stored.perform (stored : Stored ext config raw received held world)
    (opened : receive ext raw = .ok received) {index : Nat}
    (once : ¬ ValidatesAgain raw world (.perform index)) :
    Repeats raw received.id held (World.perform ext config world index) := by
  have repeats : Repeats raw received.id held { world with tasks := world.tasks.eraseIdx index } :=
    stored.repeats.of_fewer (fun _ member => List.mem_of_mem_eraseIdx member) rfl
  unfold World.perform
  split
  · exact stored.repeats
  · rename_i request waiting
    have other : request.raw ≠ raw := fun same => once ⟨index, request, rfl, waiting, same⟩
    unfold performValidate
    dsimp only
    split
    · apply repeats.task
      intro _ _ _ isReject
      cases isReject
    · exact repeats.refuse _ _ other
  · rename_i request snapshot validated waiting
    exact stored.append opened waiting
  · rename_i request error claims waiting
    have other := stored.repeats.unrefused _ _ _ (List.mem_of_getElem? waiting)
    have recorded : Repeats raw received.id held (recordRejection ext config
        { world with tasks := world.tasks.eraseIdx index }
        (rejectionInput ext request.raw error request.submittedBy request.receivedAt claims)) := by
      unfold recordRejection
      split
      · exact ⟨repeats.unrefused, repeats.answered⟩
      · exact repeats
    exact recorded.answer fun same => absurd same other

theorem Stored.step (opened : receive ext raw = .ok received) {action : Action}
    (once : ¬ ValidatesAgain raw world action) (stored : Stored ext config raw received held world) :
    Stored ext config raw received held (World.step ext config world action) := by
  have grows := (step_cases ext config world action).grows
  obtain ⟨row, found⟩ := stored.stored
  refine ⟨stored.reachable.step action, ⟨row, envelopeById_grows grows found⟩, ?_⟩
  have repeats := stored.repeats
  cases action with
  | submit request => exact stored.submit opened request
  | perform index => exact stored.perform opened once
  | abandon index => exact repeats.of_fewer (fun _ member => List.mem_of_mem_eraseIdx member) rfl
  | record reason detail objectHash submittedBy receivedAt =>
      show Repeats raw received.id held (recordRejection ext config world _)
      unfold recordRejection
      split
      · exact ⟨repeats.unrefused, repeats.answered⟩
      · exact repeats
  | park request submittedBy receivedAt cap =>
      show Repeats raw received.id held (park ext world request submittedBy receivedAt cap)
      unfold park
      split
      · exact repeats
      · split
        · exact ⟨repeats.unrefused, repeats.answered⟩
        · exact repeats
  | decay now => exact ⟨repeats.unrefused, repeats.answered⟩
  | seed rootKey subject enrolledAt => exact ⟨repeats.unrefused, repeats.answered⟩

/-- No submission of these bytes was refused, and no refusal of one waits to be recorded. -/
structure Unrefused (raw : Octets) (world : World) : Prop where
  tasks : ∀ request error claims, Task.reject request error claims ∈ world.tasks → request.raw ≠ raw
  answers : ∀ answer ∈ world.answers, answer.request.raw = raw →
    ∀ reason detail, answer.outcome ≠ .rejected reason detail

/-- Once an envelope is stored, with no submission of its bytes refused, they are answered idempotently
from then on and never refused, where no validation of them ends after it is stored. -/
theorem resubmission_never_refused (reached : (kernel ext config).Reachable world)
    (opened : receive ext raw = .ok received)
    (stored : (world.store.envelopeById received.id).isSome = true) (unrefused : Unrefused raw world)
    (actions : List Action)
    (once : ∀ before action after, actions = before ++ action :: after →
      ¬ ValidatesAgain raw ((kernel ext config).run world before) action) :
    Unrefused raw ((kernel ext config).run world actions) ∧
      ∀ answer ∈ ((kernel ext config).run world actions).answers, answer.request.raw = raw →
        answer ∈ world.answers ∨ Idempotent received.id answer.outcome := by
  have final := (kernel ext config).run_invariant_of (Stored ext config raw received world)
    (fun _ _ once known => Stored.step opened once known)
    ⟨reached, Option.isSome_iff_exists.mp stored, unrefused.tasks, fun _ member _ => Or.inl member⟩
    actions once
  refine ⟨⟨final.repeats.unrefused, ?_⟩, final.repeats.answered⟩
  intro answer member same reason detail
  rcases final.repeats.answered answer member same with earlier | ⟨appended, accepted, _⟩
  · exact unrefused.answers answer earlier same reason detail
  · rw [accepted]
    exact Outcome.noConfusion

end World

end Stozher

namespace Stozher.Deployment

open Library Ingest World

theorem founding_resubmitted :
    (kernel ext config).Reachable (after founding) ∧
      ∀ answer ∈ ((kernel ext config).run (after founding)
          [.submit (submitted policyChangeBody nine)]).answers,
        answer.request.raw = (submitted policyChangeBody nine).raw →
          answer ∈ (after founding).answers ∨ Idempotent policyChange.digest answer.outcome := by
  have opens := congrArg Observed.received observed_eq
  have stored := congrArg Observed.stored observed_eq
  have answered := congrArg Observed.answered observed_eq
  have waiting := congrArg Observed.waiting observed_eq
  dsimp only [observed] at opens stored answered waiting
  obtain ⟨received, opened, isId⟩ := Option.map_eq_some_iff.mp opens
  have opened : receive ext (submitted policyChangeBody nine).raw = .ok received := by
    cases result : receive ext (submitted policyChangeBody nine).raw with
    | error e =>
        rw [result] at opened
        cases opened
    | ok other =>
        rw [result] at opened
        cases opened
        rfl
  have unrefused : Unrefused (submitted policyChangeBody nine).raw (after founding) := by
    constructor
    · intro request error claims member
      rw [List.length_eq_zero_iff.mp waiting] at member
      cases member
    · intro answer member _ reason detail refused
      have inside : answer.outcome ∈ (after founding).answers.map Answer.outcome :=
        List.mem_map_of_mem member
      rw [answered, refused] at inside
      rcases List.mem_cons.mp inside with first | rest
      · cases first
      · rcases List.mem_cons.mp rest with second | none
        · cases second
        · cases none
  have final := (resubmission_never_refused (reachable founding) opened (by rw [isId]; exact stored) unrefused
    [.submit (submitted policyChangeBody nine)] ?_).2
  · rw [isId] at final
    exact ⟨reachable _, final⟩
  · intro before action later split again
    obtain ⟨index, request, performed, _⟩ := again
    cases performed.symm.trans (only_action split)

/-- Of two submissions of the same bytes one is accepted and the other refused. -/
theorem policy_change_refused_twice :
    (kernel ext config).Reachable (after twice) ∧
      ∃ first ∈ (after twice).answers, ∃ second ∈ (after twice).answers,
        first.request.raw = second.request.raw ∧
          first.outcome = .accepted {
            id := policyChange.digest, stream := "kernel:core", seq := 1, idempotent := false } ∧
          second.outcome = .rejected "policy-version-reused" "policy version 1 has already been published" := by
  have answered := congrArg Observed.answeredTwice observed_eq
  dsimp only [observed] at answered
  have found : ∀ outcome, (true, outcome) ∈ (after twice).answers.map (fun answer =>
      (decide (answer.request.raw = (submitted policyChangeBody nine).raw), answer.outcome)) →
      ∃ answer ∈ (after twice).answers, answer.request.raw = (submitted policyChangeBody nine).raw ∧
        answer.outcome = outcome := by
    intro outcome seen
    obtain ⟨answer, member, same⟩ := List.mem_map.mp seen
    rw [Prod.mk.injEq] at same
    exact ⟨answer, member, of_decide_eq_true same.1, same.2⟩
  obtain ⟨first, firstMember, firstRaw, accepted⟩ := found _
    (by rw [answered]; exact List.mem_cons_of_mem _ List.mem_cons_self)
  obtain ⟨second, secondMember, secondRaw, refused⟩ := found _
    (by rw [answered]; exact List.mem_cons_of_mem _ (List.mem_cons_of_mem _ List.mem_cons_self))
  exact ⟨reachable _, first, firstMember, second, secondMember, firstRaw.trans secondRaw.symm, accepted, refused⟩

theorem late_note_not_taken :
    ∃ later, ((kernel ext config).run (after revoking) [.submit (submitted lateNoteBody halfPast)]).accepted =
        (after revoking).accepted ++ later ∧
      ∀ taken ∈ later, ∀ leafRef, taken.plan.envelope.getStr "mandate-ref" = some leafRef →
        ((kernel ext config).run (after revoking) [.submit (submitted lateNoteBody halfPast)]).store.Beneath
          leafRef opsMandate.digest → emittedAt taken.plan.envelope < quarterPast := by
  refine appends_heed_revocation (reachable revoking) ops_revoked _ ?_
  intro before action later split index request snapshot validated leafRef performed
  cases performed.symm.trans (only_action split)

/-- What was validated before the revocation is appended after it. -/
theorem late_note_taken :
    (kernel ext config).Reachable (after revoking) ∧
      RevocationAccepted ext (after revoking) opsMandate.digest quarterPast miraId ∧
      ∃ taken, ((kernel ext config).run (after revoking) [.perform 0]).accepted =
          (after revoking).accepted ++ [taken] ∧
        taken.plan.envelope.getStr "mandate-ref" = some opsMandate.digest ∧
        quarterPast ≤ emittedAt taken.plan.envelope := by
  have before := congrArg Observed.takenBefore observed_eq
  have envelopes := congrArg Observed.lateTaken observed_eq
  dsimp only [observed] at before envelopes
  obtain ⟨taken, grown, envelope⟩ := last_taken [
    opsGrant.document, policyChange.document, anaGrant.document, mintedGrant.document,
    adoptedGrant.document, opsRevoked.document] envelopes before
  refine ⟨reachable _, ops_revoked, taken, ?_, ?_, ?_⟩
  · rw [run_after]
    exact grown
  · rw [envelope]
    decide +kernel
  · rw [envelope]
    decide +kernel

end Stozher.Deployment
