import Stozher.CheckpointRanges
import Stozher.PayloadCover
import Stozher.Sweep

namespace Stozher

open Library Ingest

variable {ext : External} {config : Config} {checkpointStream : String}

namespace Sweep.Head

variable {head : Head} {signer : Signed.SigningKey} {fromSeq seq : Nat} {now : String} {prevHash : Option String}

/-- What a checkpoint says of the head of its stream. -/
structure Says (head : Head) (env : Value) : Prop where
  kind : env.getStr "kind" = some "checkpoint"
  claims : ∃ body, (env.get "checkpoint").bind Value.asObject = some body ∧
    (body.get "stream").bind Value.asStr = some head.stream ∧
    (body.get "to-seq").bind Value.asU64 = some head.seq ∧
    (body.get "head-hash").bind Value.asStr = some head.hash

theorem signObject_body {envelope : Value}
    (signed : Signed.signObject signer (head.body signer.id checkpointStream fromSeq now prevHash seq) = .ok envelope) :
    ∃ message : Jcs.Canonical, envelope = .object [
      ("checkpoint", .object [("count", .ofNat (head.seq - fromSeq + 1)), ("from-seq", .ofNat fromSeq),
        ("head-hash", .string head.hash), ("observed-at", .string now), ("stream", .string head.stream),
        ("to-seq", .ofNat head.seq)]),
      ("emitted-at", .string now),
      ("identity", .object [("component", .string "kernel"), ("key", .string signer.id.text),
        ("subject", .string "agent:kernel")]),
      ("kind", .string "checkpoint"),
      ("prev-hash", .ofOption prevHash),
      ("seq", .ofNat seq),
      ("sig", .object [("alg", .string "ed25519"), ("key", .string signer.id.text),
        ("value", .string (signer.sign (.canonical message)))]),
      ("stream", .string checkpointStream),
      ("v", .string Envelope.version)] := by
  unfold Signed.signObject body at signed
  simp only [Value.asObject, okOr, ok_bind, bind_eq_ok, pure_eq_ok] at signed
  obtain ⟨message, canonical, rfl⟩ := signed
  refine ⟨message, ?_⟩
  simp only [Members.insert, List.filter, List.takeWhile, List.dropWhile,
    String.reduceBNe, String.reduceLT, decide_true, decide_false, List.cons_append, List.nil_append]

theorem writeValue_ofNat {n : Nat} (exactly : n ≤ 2 ^ 53) : Jcs.writeValue (.ofNat n) = .ok (.ofNat n) := by
  unfold Value.ofNat
  rw [dif_pos (by omega), Jcs.writeValue, Store.canonicalNumber_of_exact (by omega) exactly]
  rfl

/-- The member of a canonical object is the member's canonical form. -/
theorem get_of_writeMembers {members written : Members} {name : String} {value : Value}
    (writes : Jcs.writeMembers members = .ok written) (found : members.get name = some value) :
    ∃ form, Jcs.writeValue value = .ok form ∧ Members.get written name = some form := by
  induction members generalizing written with
  | nil => cases found
  | cons first rest ih =>
      obtain ⟨key, held⟩ := first
      rw [Jcs.writeMembers] at writes
      simp only [bind_eq_ok, pure_eq_ok] at writes
      obtain ⟨form, writesHeld, others, writesRest, rfl⟩ := writes
      by_cases same : key = name
      · subst same
        rw [Members.get_cons_self] at found ⊢
        cases found
        exact ⟨form, writesHeld, rfl⟩
      · rw [Members.get_cons_of_ne same] at found ⊢
        exact ih writesRest found

theorem get_of_writeValue {value written member : Value} (name : String)
    (writes : Jcs.writeValue value = .ok written) (found : value.get name = some member) :
    ∃ form, Jcs.writeValue member = .ok form ∧ written.get name = some form := by
  cases value with
  | object members =>
      rw [Jcs.writeValue] at writes
      simp only [bind_eq_ok, pure_eq_ok] at writes
      obtain ⟨others, writesMembers, rfl⟩ := writes
      exact get_of_writeMembers writesMembers found
  | _ => cases found

theorem getStr_of_writeValue {value written : Value} {text : String} (name : String)
    (writes : Jcs.writeValue value = .ok written) (found : value.get name = some (.string text)) :
    written.getStr name = some text := by
  obtain ⟨form, writesText, found⟩ := get_of_writeValue name writes found
  rw [Jcs.writeValue] at writesText
  cases writesText
  unfold Value.getStr
  rw [found]
  rfl

theorem envelope_of_read {request env : Value} {payloads : List Value}
    (read : readRequest request = .ok (env, payloads)) : request.get "envelope" = some env := by
  unfold readRequest at read
  simp only [bind_eq_ok, okOr_eq_ok] at read
  obtain ⟨members, isObject, _, _, carried, found, same⟩ := read
  unfold Value.get
  rw [isObject, Option.bind_some, found]
  cases given : members.get "payloads" with
  | none =>
      rw [given] at same
      cases same
      rfl
  | some payloads =>
      rw [given] at same
      simp only [bind_eq_ok, pure_eq_ok, Prod.mk.injEq] at same
      obtain ⟨_, _, rfl, _⟩ := same
      rfl

theorem says_of_request {store : Store} {raw : Octets} {received : Received} (small : head.seq < 2 ^ 53)
    (asked : head.request config checkpointStream store fromSeq now prevHash = .ok raw)
    (opened : receive ext raw = .ok received) : head.Says received.env := by
  unfold request checkpointRequest at asked
  simp only [bind_eq_ok, pure_eq_ok] at asked
  obtain ⟨envelope, signed, form, canonical, rfl⟩ := asked
  obtain ⟨sig, rfl⟩ := signObject_body signed
  unfold Jcs.canonicalize at canonical
  simp only [bind_eq_ok, pure_eq_ok] at canonical
  obtain ⟨tree, writes, rfl⟩ := canonical
  obtain ⟨env, writesEnv, hasEnv⟩ := get_of_writeValue "envelope" writes rfl
  obtain ⟨request, parsed, read, _⟩ := receive_eq_ok opened
  cases parsed
  have carried := envelope_of_read read
  rw [hasEnv] at carried
  cases carried
  obtain ⟨claim, writesClaim, hasClaim⟩ := get_of_writeValue "checkpoint" writesEnv rfl
  constructor
  · exact getStr_of_writeValue "kind" writesEnv rfl
  · have stream := getStr_of_writeValue "stream" writesClaim rfl
    have hash := getStr_of_writeValue "head-hash" writesClaim rfl
    obtain ⟨number, writesNumber, hasNumber⟩ := get_of_writeValue "to-seq" writesClaim rfl
    rw [writeValue_ofNat (Nat.le_of_lt small)] at writesNumber
    cases writesNumber
    rw [Jcs.writeValue, bind_eq_ok] at writesClaim
    obtain ⟨body, _, same⟩ := writesClaim
    cases same
    refine ⟨body, ?_, stream, ?_, hash⟩
    · rw [hasClaim]
      rfl
    · have here : Members.get body "to-seq" = some (.ofNat head.seq) := hasNumber
      rw [here]
      exact World.asU64_ofNat (by omega)

end Sweep.Head

/-- A checkpoint is validated as one. -/
theorem Ingest.Admitted.checkpointed {store : Store} {raw : Octets} {receivedAt : String} {plan : AppendPlan} {subjectKey : KeyId}
    {payloads : List Value} (admitted : Admitted ext config store raw receivedAt plan subjectKey payloads)
    (isCheckpoint : plan.envelope.getStr "kind" = some "checkpoint") :
    validateCheckpoint ext config store plan.envelope (planOf plan) = .ok plan := by
  have other : ∀ {kind : String}, plan.envelope.getStr "kind" = some kind → kind ≠ "checkpoint" → False := by
    intro kind isKind apart
    exact apart (Option.some.inj (isKind.symm.trans isCheckpoint))
  cases admitted.rule with
  | genesis unpublished passed =>
      rcases validateGenesis_cases passed with ⟨_, ⟨kind, _, _⟩ | ⟨kind, _, _⟩⟩
      · exact (other kind (by decide)).elim
      · exact (other kind (by decide)).elim
  | inForce policy published admits unauthorized =>
      cases admits with
      | effect kind passed =>
          rw [isCheckpoint, Option.getD_some] at kind
          exact absurd kind (by decide)
      | cognition kind passed => exact (other kind (by decide)).elim
      | signal kind passed => exact (other kind (by decide)).elim
      | mandate kind passed => exact (other kind (by decide)).elim
      | revocation kind passed => exact (other kind (by decide)).elim
      | gateDecision kind passed => exact (other kind (by decide)).elim
      | checkpoint kind passed => exact passed

namespace World

variable {world : World}

/-- A checkpoint on record attests the head a stream has. -/
def HeadCovered (world : World) (stream : String) : Prop :=
  ∃ headSeq headHash, world.store.streamHead stream = some (headSeq, headHash) ∧
    ∃ taken ∈ world.accepted, ∃ claim, taken.plan.projections.checkpoint = some claim ∧ claim.stream = stream ∧
      claim.toSeq = headSeq ∧ claim.headHash = headHash

/-- The head of a stream is its last envelope. -/
theorem streamHead_last (reached : (kernel ext config).Reachable world) {stream headHash : String} {headSeq : Nat}
    (isHead : world.store.streamHead stream = some (headSeq, headHash)) {held : EnvelopeRow}
    (stored : held ∈ world.store.ofStream stream) (last : headSeq ≤ held.seq) :
    held.seq = headSeq ∧ held.id = headHash := by
  have chain := chains reached stream
  unfold Store.streamHead at isHead
  rw [Option.map_eq_some_iff] at isHead
  obtain ⟨top, isTop, same⟩ := isHead
  rw [Prod.mk.injEq] at same
  have below := Table.topBy_le isTop stored
  have distinct : ((world.store.ofStream stream).map EnvelopeRow.seq).Nodup :=
    List.pairwise_map.mpr (chain.increasing.imp fun less => Nat.ne_of_lt less)
  have one := List.inj_on_of_nodup_map distinct stored (Table.topBy_mem isTop) (by omega)
  rw [one]
  exact same

/-- Where the last checkpoint of a stream reaches its head, the head is covered. -/
theorem headCovered_of_last (reached : (kernel ext config).Reachable world) {head : Sweep.Head}
    (isHead : world.store.streamHead head.stream = some (head.seq, head.hash))
    (attests : head.fromSeq (world.store.lastCheckpoint head.stream) = none) :
    HeadCovered world head.stream := by
  cases found : world.store.lastCheckpoint head.stream with
  | none =>
      rw [found] at attests
      cases attests
  | some last =>
      rw [found] at attests
      unfold Store.lastCheckpoint at found
      rw [Option.map_eq_some_iff] at found
      obtain ⟨row, top, rfl⟩ := found
      unfold Sweep.Head.fromSeq at attests
      dsimp only at attests
      have reaches : row.toSeq ≥ head.seq := by
        by_contra short
        rw [if_neg short] at attests
        cases attests
      have member := List.mem_filter.mp (Table.topBy_mem top)
      have isStream : row.stream = head.stream := beq_iff_eq.mp member.2
      obtain ⟨held, stored, seq, id⟩ := attested reached row member.1
      rw [isStream] at stored
      obtain ⟨sameSeq, sameId⟩ := streamHead_last reached isHead stored (by omega)
      have known := checkpointsOk reached
      obtain ⟨taken, inside, claim, projected, rfl⟩ := known.taken row member.1
      have ranges := known.range inside projected
      unfold CheckpointEntry.range at ranges
      rw [Prod.mk.injEq] at ranges
      refine ⟨head.seq, head.hash, isHead, taken, inside, claim, projected, isStream, ?_, ?_⟩
      · rw [← ranges.2, ← seq, sameSeq]
      · exact id.symm.trans sameId

/-- Every submission that was answered as accepted brought an envelope that is on record. -/
def AcceptedOnRecord (ext : External) (world : World) : Prop :=
  ∀ answer ∈ world.answers, ∀ appended, answer.outcome = .accepted appended →
    ∃ received, receive ext answer.request.raw = .ok received ∧ ∃ taken ∈ world.accepted, taken.plan.id = received.id

theorem taken_of_envelopeById (known : Traced ext config world) {id : String} {row : EnvelopeRow}
    (found : world.store.envelopeById id = some row) : ∃ taken ∈ world.accepted, taken.plan.id = id := by
  unfold Store.envelopeById at found
  obtain ⟨taken, accepted, of, _⟩ := row_taken known (List.mem_of_find?_eq_some found)
  have isId := List.find?_some found
  exact ⟨taken, accepted, of.id.symm.trans (beq_iff_eq.mp isId)⟩

theorem AcceptedOnRecord.same {next : World} (recorded : AcceptedOnRecord ext world) (answers : next.answers = world.answers)
    (accepted : next.accepted = world.accepted) : AcceptedOnRecord ext next := by
  unfold AcceptedOnRecord
  rw [answers, accepted]
  exact recorded

theorem AcceptedOnRecord.answer (recorded : AcceptedOnRecord ext world) {request : Submission} {outcome : Outcome}
    (fair : ∀ appended, outcome = .accepted appended → ∃ received, receive ext request.raw = .ok received ∧
      ∃ taken ∈ world.accepted, taken.plan.id = received.id) :
    AcceptedOnRecord ext (World.answer world request outcome) := by
  intro answer member
  rcases List.mem_append.mp member with earlier | new
  · exact recorded answer earlier
  · rw [List.mem_singleton.mp new]
    exact fair

theorem AcceptedOnRecord.refuse (recorded : AcceptedOnRecord ext world) {request : Submission} (error : Error) (claims : Claims) :
    AcceptedOnRecord ext (World.refuse world request error claims) := by
  unfold World.refuse
  split
  · apply recorded.answer
    intro _ accepted
    cases accepted
  · exact recorded.same rfl rfl

theorem AcceptedOnRecord.submit (recorded : AcceptedOnRecord ext world) (known : Traced ext config world) (request : Submission) :
    AcceptedOnRecord ext (World.submit ext world request) := by
  unfold World.submit
  cases opened : receive ext request.raw with
  | error e => exact recorded.refuse _ _
  | ok received =>
      dsimp only
      cases again : resubmitted world.store received with
      | none => exact recorded.same rfl rfl
      | some appended =>
          apply recorded.answer
          intro _ _
          unfold resubmitted at again
          rw [Option.map_eq_some_iff] at again
          obtain ⟨row, found, _⟩ := again
          exact ⟨received, opened, taken_of_envelopeById known found⟩

theorem receive_of_admitted {store : Store} {raw : Octets} {receivedAt : String} {plan : AppendPlan}
    {subjectKey : KeyId} {payloads : List Value}
    (admitted : Admitted ext config store raw receivedAt plan subjectKey payloads) :
    ∃ received, receive ext raw = .ok received ∧ plan.id = received.id := by
  obtain ⟨request, parsed, read⟩ := admitted.request
  obtain ⟨map, kind, spec, valid⟩ := Envelope.validate_eq_ok admitted.valid
  unfold receive
  rw [parsed, ok_bind, read, ok_bind]
  dsimp only
  rw [admitted.hasId, ok_bind, valid.canonical, ok_bind]
  exact ⟨_, rfl, rfl⟩

theorem AcceptedOnRecord.performAppend (recorded : AcceptedOnRecord ext world) (known : Traced ext config world) {index : Nat}
    {request : Submission} {snapshot : Store} {validated : Validated}
    (waiting : world.tasks[index]? = some (.append request snapshot validated)) :
    AcceptedOnRecord ext (World.performAppend { world with tasks := world.tasks.eraseIdx index } request snapshot validated) := by
  have fewer : AcceptedOnRecord ext { world with tasks := world.tasks.eraseIdx index } := recorded.same rfl rfl
  unfold World.performAppend
  cases done : world.store.append validated.plan with
  | error e => exact fewer.refuse _ _
  | ok result =>
      obtain ⟨store, appended⟩ := result
      obtain ⟨subjectKey, payloads, admitted⟩ := (known.tasks _ _ _ (List.mem_of_getElem? waiting)).admitted
      obtain ⟨received, opened, id⟩ := receive_of_admitted admitted
      dsimp only
      cases held : world.store.envelopeById validated.plan.id with
      | some row =>
          obtain ⟨rfl, idempotent⟩ := Store.append_held held done
          rw [if_pos idempotent]
          have same : AcceptedOnRecord ext { world with tasks := world.tasks.eraseIdx index } := recorded.same rfl rfl
          apply same.answer
          intro _ _
          obtain ⟨taken, accepted, isId⟩ := taken_of_envelopeById known held
          exact ⟨received, opened, taken, accepted, isId.trans id⟩
      | none =>
          obtain ⟨_, idempotent⟩ := Store.append_fresh held done
          rw [if_neg (by rw [idempotent]; decide)]
          have more : AcceptedOnRecord ext { world with
              tasks := world.tasks.eraseIdx index, store
              accepted := world.accepted ++ [{ request, snapshot, plan := validated.plan }] } := by
            intro answer member appended accepted
            obtain ⟨earlier, isOpened, taken, inside, isId⟩ := recorded answer member appended accepted
            exact ⟨earlier, isOpened, taken, List.mem_append_left _ inside, isId⟩
          apply more.answer
          intro _ _
          exact ⟨received, opened, _, List.mem_append_right _ List.mem_cons_self, id⟩

theorem AcceptedOnRecord.step (recorded : AcceptedOnRecord ext world) (known : Traced ext config world) (action : Action) :
    AcceptedOnRecord ext (World.step ext config world action) := by
  cases action with
  | submit request => exact recorded.submit known request
  | perform index =>
      show AcceptedOnRecord ext (World.perform ext config world index)
      have fewer : AcceptedOnRecord ext { world with tasks := world.tasks.eraseIdx index } := recorded.same rfl rfl
      unfold World.perform
      split
      · exact recorded
      · unfold performValidate
        dsimp only
        split
        · exact recorded.same rfl rfl
        · exact fewer.refuse _ _
      · rename_i request snapshot validated waiting
        exact recorded.performAppend known waiting
      · apply AcceptedOnRecord.answer
        · unfold recordRejection
          split
          · exact recorded.same rfl rfl
          · exact fewer
        · intro _ accepted
          cases accepted
  | abandon index => exact recorded.same rfl rfl
  | record reason detail objectHash submittedBy receivedAt =>
      show AcceptedOnRecord ext (recordRejection ext config world _)
      unfold recordRejection
      split
      · exact recorded.same rfl rfl
      · exact recorded
  | park request submittedBy receivedAt cap =>
      show AcceptedOnRecord ext (World.park ext world request submittedBy receivedAt cap)
      unfold World.park
      split
      · exact recorded
      · split
        · exact recorded.same rfl rfl
        · exact recorded
  | decay now => exact recorded.same rfl rfl
  | seed rootKey subject enrolledAt => exact recorded.same rfl rfl

theorem acceptedOnRecord (reached : (kernel ext config).Reachable world) : AcceptedOnRecord ext world := by
  refine reached.invariant (AcceptedOnRecord ext) ?_ fun _ action before known => known.step (traced before) action
  intro state start
  have first : state = World.initial := start
  subst first
  intro answer member
  cases member

/-- Once the checkpoint of a head is on record, the head is covered. -/
theorem headCovered_of_taken (reached : (kernel ext config).Reachable world) {head : Sweep.Head}
    (isHead : world.store.streamHead head.stream = some (head.seq, head.hash)) {taken : Accepted}
    (inside : taken ∈ world.accepted) (tells : head.Says taken.plan.envelope) : HeadCovered world head.stream := by
  obtain ⟨before, after_, at_⟩ := (traced reached).accepted taken inside
  obtain ⟨subjectKey, payloads, admitted⟩ := at_.origin.admitted
  obtain ⟨body, claim, count, attested, carried, read, _, _, same⟩ :=
    validateCheckpoint_eq_ok (admitted.checkpointed tells.kind)
  have projected : taken.plan.projections.checkpoint = some claim :=
    congrArg (fun plan : AppendPlan => plan.projections.checkpoint) same
  obtain ⟨claims, isBody, stream, toSeq, headHash⟩ := tells.claims
  rw [carried, Option.some.injEq] at isBody
  subst isBody
  unfold checkpointClaim at read
  simp only [bind_eq_ok, okOr_eq_ok, pure_eq_ok, Prod.mk.injEq] at read
  obtain ⟨_, hasStream, _, _, _, hasTo, _, _, _, hasHash, _, _, rfl, rfl⟩ := read
  rw [stream, Option.some.injEq] at hasStream
  rw [toSeq, Option.some.injEq] at hasTo
  rw [headHash, Option.some.injEq] at hasHash
  exact ⟨head.seq, head.hash, isHead, taken, inside, _, projected, hasStream.symm, hasTo.symm, hasHash.symm⟩

end World

namespace Store

variable {store next : Store} {plan : AppendPlan}

theorem Quiet.payloads (quiet : Quiet ext config store next) : ∀ entry ∈ next.payloads, entry ∈ store.payloads := by
  intro entry member
  cases quiet with
  | same => exact member
  | rejected input record next recorded =>
      obtain ⟨row, rfl, _⟩ := recordRejection_eq_ok recorded
      exact member
  | parked rows => exact member
  | decayed now => exact (List.mem_filter.mp member).1
  | seeded rootKey subject enrolledAt =>
      unfold seedConfiguredRoot at member
      split at member <;> exact member

/-- A payload that is stored was stored before, or comes with the envelope. -/
theorem mem_insertPayloads_payloads {entry : PayloadEntry} (member : entry ∈ (insertPayloads store plan).payloads) :
    entry ∈ store.payloads ∨ ∃ row ∈ plan.payloads, row.payloadHash = entry.payloadHash := by
  unfold insertPayloads at member
  generalize plan.payloads = rows at member ⊢
  induction rows using List.reverseRecOn with
  | nil => exact .inl member
  | append_singleton front row ih =>
      rw [List.foldl_append, List.foldl_cons, List.foldl_nil] at member
      have earlier : entry ∈ (front.foldl (insertPayload plan) store).payloads →
          entry ∈ store.payloads ∨ ∃ other ∈ front ++ [row], other.payloadHash = entry.payloadHash := by
        intro held
        rcases ih held with old | ⟨other, inside, same⟩
        · exact .inl old
        · exact .inr ⟨other, List.mem_append_left _ inside, same⟩
      unfold insertPayload at member
      dsimp only at member
      split at member
      · exact earlier member
      · rcases List.mem_append.mp member with held | last
        · exact earlier held
        · rw [List.mem_singleton.mp last]
          exact .inr ⟨row, List.mem_append_right _ List.mem_cons_self, rfl⟩

theorem unretained_iff {now payloadHash : String} : store.unretained now payloadHash = true ↔
    ∀ ref ∈ store.payloadRefs, ref.payloadHash = payloadHash → ¬now < ref.retainUntil := by
  unfold unretained
  simp only [Bool.not_eq_true', List.any_eq_false, Bool.and_eq_true, beq_iff_eq, decide_eq_true_eq, not_and]

theorem streamHead_of_envelopes {stream : String} (same : next.envelopes = store.envelopes) :
    next.streamHead stream = store.streamHead stream := by
  unfold streamHead ofStream
  rw [same]

theorem streamHead_of_append {stream : String} {row : EnvelopeRow} (grown : next.envelopes = store.envelopes ++ [row])
    (other : row.stream ≠ stream) : next.streamHead stream = store.streamHead stream := by
  unfold streamHead
  rw [ofStream_append stream grown, if_neg other, List.append_nil]

end Store

namespace Sweep

/-- The head a sweep is checkpointing. -/
def Stage.emitting : Stage → Option Head
  | .last head => some head
  | .previous head _ => some head
  | .position head _ _ _ => some head
  | .waiting head _ _ => some head
  | _ => none

/-- What is known of a sweep that is under way: it listed the streams of all it is to delete, and the heads of those it
has looked at are covered, but for the one it is checkpointing. -/
structure Ok (config : Config) (checkpointStream : String) (world : World) (sweep : Sweep) : Prop where
  distinct : sweep.rest.Nodup
  within_ : ∀ stream ∈ sweep.rest, stream ∈ sweep.affected
  listed : ∀ entry ∈ world.store.payloads, world.store.unretained sweep.now entry.payloadHash = true →
    ∀ ref ∈ world.store.payloadRefs, ref.payloadHash = entry.payloadHash → ref.stream ∈ sweep.affected
  looked : ∀ stream ∈ sweep.affected, stream ∈ sweep.rest ∨
    (∃ head, sweep.stage.emitting = some head ∧ head.stream = stream) ∨
      world.store.streamHead stream = none ∨ world.HeadCovered stream
  emits : ∀ head, sweep.stage.emitting = some head →
    (head.stream ∈ sweep.affected ∧ head.stream ∉ sweep.rest) ∧
      world.store.streamHead head.stream = some (head.seq, head.hash)
  asks : ∀ head request asked, sweep.stage = .waiting head request asked → ∃ store fromSeq now prevHash,
    head.request config checkpointStream store fromSeq now prevHash = .ok request.raw

/-- An envelope that does not get in the way of a sweep: its stream is not one the sweep has looked at, and the payloads
it brings are kept past the sweep, or are of streams it lists. -/
structure Clear (sweep : Sweep) (store : Store) (plan : AppendPlan) : Prop where
  stream : plan.stream ∈ sweep.affected → plan.stream ∈ sweep.rest
  payloads : ∀ row ∈ plan.payloads, sweep.now < row.retainUntil ∨ (plan.stream ∈ sweep.affected ∧
    ∀ ref ∈ store.payloadRefs, ref.payloadHash = row.payloadHash → ref.stream ∈ sweep.affected)

variable {world next : World} {sweep : Sweep}

theorem Ok.quiet (ok : sweep.Ok config checkpointStream world) (quiet : Store.Quiet ext config world.store next.store)
    (accepted : next.accepted = world.accepted) : sweep.Ok config checkpointStream next := by
  have heads : ∀ stream, next.store.streamHead stream = world.store.streamHead stream := fun stream =>
    Store.streamHead_of_envelopes quiet.envelopes.1
  have covered : ∀ stream, world.HeadCovered stream → next.HeadCovered stream := by
    intro stream
    unfold World.HeadCovered
    rw [heads, accepted]
    exact id
  constructor
  · exact ok.distinct
  · exact ok.within_
  · intro entry member unretained ref cites
    unfold Store.unretained at unretained
    rw [quiet.payloadRefs] at unretained cites
    exact ok.listed entry (quiet.payloads entry member) unretained ref cites
  · intro stream member
    rw [heads]
    rcases ok.looked stream member with rest | now | none | known
    · exact .inl rest
    · exact .inr (.inl now)
    · exact .inr (.inr (.inl none))
    · exact .inr (.inr (.inr (covered stream known)))
  · intro head emitting
    rw [heads]
    exact ok.emits head emitting
  · exact ok.asks

/-- A covered head stays so while its stream is left alone. -/
theorem headCovered_of_append {stream : String} (covered : world.HeadCovered stream) {row : EnvelopeRow}
    (grown : next.store.envelopes = world.store.envelopes ++ [row]) (other : row.stream ≠ stream) {taken : Accepted}
    (accepted : next.accepted = world.accepted ++ [taken]) : next.HeadCovered stream := by
  obtain ⟨headSeq, headHash, isHead, checkpoint, inside, rest⟩ := covered
  refine ⟨headSeq, headHash, ?_, checkpoint, ?_, rest⟩
  · rw [Store.streamHead_of_append grown other]
    exact isHead
  · rw [accepted]
    exact List.mem_append_left _ inside

theorem Ok.append {taken : Accepted} (ok : sweep.Ok config checkpointStream world)
    (appends : world.store.Appends taken.plan next.store) (accepted : next.accepted = world.accepted ++ [taken])
    (refs : ∀ reference, reference ∈ next.store.payloadRefs ↔ reference ∈ world.store.payloadRefs ∨
      ∃ row ∈ taken.plan.payloads, reference = taken.plan.reference row)
    (clear : sweep.Clear world.store taken.plan) : sweep.Ok config checkpointStream next := by
  obtain ⟨row, built, _, _, envelopes⟩ := appends.envelopes
  have isStream := (Store.envelopeRow_eq_ok built).stream
  constructor
  · exact ok.distinct
  · exact ok.within_
  · intro entry member unretained ref cites same
    rw [Store.unretained_iff] at unretained
    have brought : ∀ row ∈ taken.plan.payloads, row.payloadHash = entry.payloadHash →
        taken.plan.stream ∈ sweep.affected ∧
          ∀ ref ∈ world.store.payloadRefs, ref.payloadHash = entry.payloadHash → ref.stream ∈ sweep.affected := by
      intro row inside isEntry
      rcases clear.payloads row inside with kept | listed
      · have written := (refs (taken.plan.reference row)).mpr (.inr ⟨row, inside, rfl⟩)
        exact absurd kept (unretained _ written isEntry)
      · rw [← isEntry]
        exact listed
    have before : world.store.unretained sweep.now entry.payloadHash = true := by
      rw [Store.unretained_iff]
      intro other held isEntry
      exact unretained other ((refs other).mpr (.inl held)) isEntry
    rcases (refs ref).mp cites with old | ⟨row, inside, rfl⟩
    · rw [appends.payloads.1] at member
      rcases Store.mem_insertPayloads_payloads member with held | ⟨row, inside, isEntry⟩
      · exact ok.listed entry held before ref old same
      · exact (brought row inside isEntry).2 ref old same
    · exact (brought row inside same).1
  · intro stream member
    by_cases own : row.stream = stream
    · rw [isStream] at own
      subst own
      exact .inl (clear.stream member)
    · rw [Store.streamHead_of_append envelopes own]
      rcases ok.looked stream member with rest | now | none | known
      · exact .inl rest
      · exact .inr (.inl now)
      · exact .inr (.inr (.inl none))
      · exact .inr (.inr (.inr (headCovered_of_append known envelopes own accepted)))
  · intro head emitting
    obtain ⟨⟨member, gone⟩, isHead⟩ := ok.emits head emitting
    refine ⟨⟨member, gone⟩, ?_⟩
    rw [Store.streamHead_of_append envelopes]
    · exact isHead
    · intro own
      rw [isStream] at own
      rw [← own] at member gone
      exact gone (clear.stream member)
  · exact ok.asks

theorem Ok.start (store : Store) (now : String) (same : world.store = store) :
    (Sweep.start store now).Ok config checkpointStream world := by
  subst same
  have streams : ∀ stream, stream ∈ world.store.streamsWithExpiringPayloads now ↔
      ∃ ref ∈ world.store.payloadRefs, ((∃ entry ∈ world.store.payloads, entry.payloadHash = ref.payloadHash) ∧
        world.store.unretained now ref.payloadHash = true) ∧ ref.stream = stream := by
    intro stream
    unfold Store.streamsWithExpiringPayloads
    simp only [List.mem_insertionSort, List.mem_dedup, List.mem_map, List.mem_filter, Bool.and_eq_true,
      List.any_eq_true, beq_iff_eq, and_assoc]
  constructor
  · exact ((List.nodup_dedup _).perm (List.perm_insertionSort _ _).symm)
  · exact fun _ member => member
  · intro entry member unretained ref cites same
    refine (streams ref.stream).mpr ⟨ref, cites, ⟨⟨entry, member, same.symm⟩, ?_⟩, rfl⟩
    rw [same]
    exact unretained
  · intro stream member
    exact .inl member
  · intro head emitting
    cases emitting
  · intro head request asked waiting
    cases waiting

/-- The checkpoint a sweep waits for shares its hash with no other envelope on record. -/
def Apart (ext : External) (sweep : Sweep) (world : World) : Prop :=
  ∀ head request asked received, sweep.stage = .waiting head request asked → receive ext request.raw = .ok received →
    ∀ taken ∈ world.accepted, taken.plan.id = received.id → taken.plan.envelope = received.env

/-- A sweep goes on to the next stream once the head of this one is covered. -/
theorem Ok.covered {head : Head} (ok : sweep.Ok config checkpointStream world) (emitting : sweep.stage.emitting = some head)
    (covered : world.HeadCovered head.stream) (checkpointed : List String) :
    Ok config checkpointStream world { sweep with stage := .next, checkpointed } := by
  constructor
  · exact ok.distinct
  · exact ok.within_
  · exact ok.listed
  · intro stream member
    rcases ok.looked stream member with rest | ⟨now, isNow, same⟩ | known
    · exact .inl rest
    · rw [emitting, Option.some.injEq] at isNow
      subst isNow same
      exact .inr (.inr (.inr covered))
    · exact .inr (.inr known)
  · intro other emitting
    cases emitting
  · intro other request asked waiting
    cases waiting

/-- A sweep that reads on is at the same head. -/
theorem Ok.at_ {head : Head} (ok : sweep.Ok config checkpointStream world) (emitting : sweep.stage.emitting = some head)
    {stage : Stage} (same : stage.emitting = some head)
    (asks : ∀ other request asked, stage = .waiting other request asked → ∃ store fromSeq now prevHash,
      other.request config checkpointStream store fromSeq now prevHash = .ok request.raw) :
    Ok config checkpointStream world { sweep with stage } := by
  have stays : stage.emitting = sweep.stage.emitting := same.trans emitting.symm
  constructor
  · exact ok.distinct
  · exact ok.within_
  · exact ok.listed
  · intro stream member
    dsimp only
    rw [stays]
    exact ok.looked stream member
  · intro other isOther
    rw [stays] at isOther
    exact ok.emits other isOther
  · exact asks

theorem Ok.looks (ok : sweep.Ok config checkpointStream world) (atNext : sweep.stage = .next)
    (onward : ∀ result, (sweep.look world.store).stage ≠ .ended result) :
    (sweep.look world.store).Ok config checkpointStream world := by
  have idle : sweep.stage.emitting = none := by rw [atNext]; rfl
  unfold Sweep.look at onward ⊢
  cases rest : sweep.rest with
  | nil =>
      rw [rest] at onward
      exact absurd rfl (onward _)
  | cons stream others =>
      have distinct := ok.distinct
      have within_ := ok.within_
      rw [rest] at distinct within_
      rw [List.nodup_cons] at distinct
      have looked : ∀ other ∈ sweep.affected, other = stream ∨ other ∈ others ∨
          world.store.streamHead other = none ∨ world.HeadCovered other := by
        intro other member
        have known := ok.looked other member
        rw [rest, List.mem_cons, idle] at known
        rcases known with (here | later) | ⟨_, none, _⟩ | covered
        · exact .inl here
        · exact .inr (.inl later)
        · cases none
        · exact .inr (.inr covered)
      dsimp only
      cases found : world.store.streamHead stream with
      | none =>
          constructor
          · exact distinct.2
          · exact fun other member => within_ other (List.mem_cons_of_mem _ member)
          · exact ok.listed
          · intro other member
            rcases looked other member with rfl | later | covered
            · exact .inr (.inr (.inl found))
            · exact .inl later
            · exact .inr (.inr covered)
          · intro head emitting
            rw [idle] at emitting
            cases emitting
          · intro head request asked waiting
            rw [atNext] at waiting
            cases waiting
      | some top =>
          obtain ⟨seq, hash⟩ := top
          constructor
          · exact distinct.2
          · exact fun other member => within_ other (List.mem_cons_of_mem _ member)
          · exact ok.listed
          · intro other member
            rcases looked other member with rfl | later | covered
            · exact .inr (.inl ⟨_, rfl, rfl⟩)
            · exact .inl later
            · exact .inr (.inr covered)
          · intro head emitting
            cases emitting
            exact ⟨⟨within_ stream List.mem_cons_self, distinct.1⟩, found⟩
          · intro head request asked waiting
            cases waiting

theorem Ok.advances {now : String} (reached : (kernel ext config).Reachable world) (ok : sweep.Ok config checkpointStream world)
    (apart : sweep.Apart ext world)
    (onward : ∀ result, (sweep.next config checkpointStream world now).stage ≠ .ended result) :
    (sweep.next config checkpointStream world now).Ok config checkpointStream world := by
  unfold Sweep.next at onward ⊢
  cases isStage : sweep.stage with
  | next =>
      rw [isStage] at onward
      exact ok.looks isStage onward
  | last head =>
      have emitting : sweep.stage.emitting = some head := by rw [isStage]; rfl
      have isHead := (ok.emits head emitting).2
      dsimp only
      cases attests : head.fromSeq (world.store.lastCheckpoint head.stream) with
      | none => exact ok.covered emitting (World.headCovered_of_last reached isHead attests) _
      | some fromSeq =>
          apply ok.at_ emitting rfl
          intro _ _ _ waiting
          cases waiting
  | previous head fromSeq =>
      have emitting : sweep.stage.emitting = some head := by rw [isStage]; rfl
      apply ok.at_ emitting rfl
      intro _ _ _ waiting
      cases waiting
  | position head fromSeq observedAt prevHash =>
      have emitting : sweep.stage.emitting = some head := by rw [isStage]; rfl
      rw [isStage] at onward
      dsimp only at onward ⊢
      cases asked : head.request config checkpointStream world.store fromSeq observedAt prevHash with
      | error e =>
          rw [asked] at onward
          exact absurd rfl (onward _)
      | ok raw =>
          apply ok.at_ emitting rfl
          intro _ _ _ waiting
          cases waiting
          exact ⟨_, _, _, _, asked⟩
  | waiting head request asked =>
      have emitting : sweep.stage.emitting = some head := by rw [isStage]; rfl
      rw [isStage] at onward
      dsimp only at onward ⊢
      cases found : (world.answers.drop asked).find? fun answer => decide (answer.request = request) with
      | none => exact ok
      | some answer =>
          rw [found] at onward
          dsimp only at onward ⊢
          unfold answered at onward ⊢
          cases outcome : answer.outcome with
          | rejected reason detail =>
              rw [outcome] at onward
              exact absurd rfl (onward _)
          | unavailable detail =>
              rw [outcome] at onward
              exact absurd rfl (onward _)
          | accepted appended =>
              have isRequest := List.find?_some found
              rw [decide_eq_true_eq] at isRequest
              have member := List.mem_of_mem_drop (List.mem_of_find?_eq_some found)
              obtain ⟨received, opened, taken, inside, isId⟩ :=
                World.acceptedOnRecord reached answer member appended outcome
              rw [isRequest] at opened
              have same := apart head request asked received isStage opened taken inside isId
              have isHead := (ok.emits head emitting).2
              obtain ⟨store, fromSeq, at_, prevHash, requests⟩ := ok.asks head request asked isStage
              have small : head.seq < 2 ^ 53 := by
                unfold Store.streamHead at isHead
                rw [Option.map_eq_some_iff] at isHead
                obtain ⟨top, isTop, isSeq⟩ := isHead
                rw [Prod.mk.injEq] at isSeq
                rw [← isSeq.1]
                exact (World.ofStream_verifiable reached top (Table.topBy_mem isTop)).small
              have tells := Head.says_of_request small requests opened
              rw [← same] at tells
              exact ok.covered emitting (World.headCovered_of_taken reached isHead inside tells) _
  | ended result =>
      rw [isStage] at onward
      exact absurd isStage (onward result)

end Sweep

namespace Sweeper

variable {state : Sweeper}

/-- A step that does not get in the way of the sweeps that are under way. -/
structure Undisturbed (ext : External) (config : Config) (state : Sweeper) (turn : Turn) : Prop where
  clear : ∀ index request snapshot validated, turn = .serve (.perform index) →
    state.world.tasks[index]? = some (.append request snapshot validated) →
    state.world.store.envelopeById validated.plan.id = none →
    isOk (state.world.store.append validated.plan) = true →
    ∀ sweep ∈ state.sweeps, (∀ result, sweep.stage ≠ .ended result) → sweep.Clear state.world.store validated.plan
  apart : ∀ index now sweep, turn = .advance index now → state.sweeps[index]? = some sweep →
    sweep.Apart ext state.world

/-- A step of a sweep that deletes a payload finds the heads of all streams that reference it covered. -/
def DeletesCovered (ext : External) (config : Config) (checkpointStream : String) (state : Sweeper) (turn : Turn) : Prop :=
  ∀ index now, turn = .advance index now → ∀ entry ∈ state.world.store.payloads,
    entry ∉ (step ext config checkpointStream state turn).world.store.payloads →
    ∀ ref ∈ state.world.store.payloadRefs, ref.payloadHash = entry.payloadHash → state.world.HeadCovered ref.stream

/-- What is known of the kernel and of the sweeps that are under way. -/
structure Known (ext : External) (config : Config) (checkpointStream : String) (state : Sweeper) : Prop where
  reached : (kernel ext config).Reachable state.world
  sweeps : ∀ sweep ∈ state.sweeps, (∀ result, sweep.stage ≠ .ended result) →
    sweep.Ok config checkpointStream state.world

theorem submit_same (world : World) (request : Submission) :
    (world.submit ext request).store = world.store ∧ (world.submit ext request).accepted = world.accepted := by
  have refused : ∀ error claims, (world.refuse request error claims).store = world.store ∧
      (world.refuse request error claims).accepted = world.accepted := by
    intro error claims
    unfold World.refuse
    split <;> exact ⟨rfl, rfl⟩
  unfold World.submit
  split
  · exact refused _ _
  · split <;> exact ⟨rfl, rfl⟩

/-- What a sweep does to the kernel stores nothing. -/
theorem acts_cases {world : World} {sweep : Sweep} {now : String} {action : Action}
    (acts : sweep.acts config checkpointStream world now = some action) :
    sweep.stage = .next ∧ sweep.rest = [] ∧ action = .decay sweep.now ∨ ∃ request, action = .submit request := by
  unfold Sweep.acts at acts
  cases isStage : sweep.stage with
  | next =>
      rw [isStage] at acts
      by_cases empty : sweep.rest = []
      · rw [if_pos empty] at acts
        cases acts
        exact .inl ⟨rfl, empty, rfl⟩
      · rw [if_neg empty] at acts
        cases acts
  | position head fromSeq observedAt prevHash =>
      rw [isStage] at acts
      dsimp only at acts
      cases asked : head.request config checkpointStream world.store fromSeq observedAt prevHash with
      | error e =>
          rw [asked] at acts
          cases acts
      | ok raw =>
          rw [asked] at acts
          cases acts
          exact .inr ⟨_, rfl⟩
  | last head =>
      rw [isStage] at acts
      cases acts
  | previous head fromSeq =>
      rw [isStage] at acts
      cases acts
  | waiting head request asked =>
      rw [isStage] at acts
      cases acts
  | ended result =>
      rw [isStage] at acts
      cases acts

/-- The kernel after a step of a sweep. -/
theorem acted {world : World} (reached : (kernel ext config).Reachable world) (sweep : Sweep) (now : String) :
    let next := ((sweep.acts config checkpointStream world now).map (world.step ext config)).getD world
    (kernel ext config).Reachable next ∧ Store.Quiet ext config world.store next.store ∧
      next.accepted = world.accepted := by
  cases acts : sweep.acts config checkpointStream world now with
  | none => exact ⟨reached, .same, rfl⟩
  | some action =>
      refine ⟨reached.step action, ?_⟩
      rcases acts_cases acts with ⟨_, _, rfl⟩ | ⟨request, rfl⟩
      · exact ⟨.decayed sweep.now, rfl⟩
      · obtain ⟨store, accepted⟩ := @submit_same ext world request
        refine ⟨?_, accepted⟩
        show Store.Quiet ext config world.store (world.submit ext request).store
        rw [store]
        exact .same

theorem Known.serve {action : Action} (known : Known ext config checkpointStream state)
    (undisturbed : Undisturbed ext config state (.serve action)) :
    Known ext config checkpointStream (step ext config checkpointStream state (.serve action)) := by
  have traced := World.traced known.reached
  refine ⟨known.reached.step action, ?_⟩
  intro sweep member underWay
  have ok := known.sweeps sweep member underWay
  show sweep.Ok config checkpointStream (state.world.step ext config action)
  cases World.step_cases ext config state.world action with
  | quiet store accepted tasks => exact ok.quiet store accepted
  | appends request snapshot validated waiting fresh store accepted tasks performs =>
      obtain ⟨index, rfl, found, isAppended⟩ := performs
      have clear := undisturbed.clear index request snapshot validated rfl found fresh isAppended sweep member underWay
      exact ok.append store accepted
        ((World.referenced known.reached).references traced waiting fresh store) clear

theorem Known.advance {index : Nat} {now : String} (known : Known ext config checkpointStream state)
    (undisturbed : Undisturbed ext config state (.advance index now)) :
    Known ext config checkpointStream (step ext config checkpointStream state (.advance index now)) := by
  unfold step
  dsimp only
  cases found : state.sweeps[index]? with
  | none => exact known
  | some sweep =>
      obtain ⟨reached, quiet, accepted⟩ := @acted ext config checkpointStream _ known.reached sweep now
      refine ⟨reached, ?_⟩
      intro other member underWay
      have before : other.Ok config checkpointStream state.world := by
        rcases List.mem_or_eq_of_mem_set member with earlier | rfl
        · exact known.sweeps other earlier underWay
        · have inside := List.mem_of_getElem? found
          have started : ∀ result, sweep.stage ≠ .ended result := by
            intro result isEnded
            apply underWay result
            unfold Sweep.next
            rw [isEnded]
            exact isEnded
          exact (known.sweeps sweep inside started).advances known.reached
            (undisturbed.apart index now sweep rfl found) underWay
      exact before.quiet quiet accepted

theorem Known.step {turn : Turn} (known : Known ext config checkpointStream state)
    (undisturbed : Undisturbed ext config state turn) :
    Known ext config checkpointStream (step ext config checkpointStream state turn) := by
  cases turn with
  | serve action => exact known.serve undisturbed
  | advance index now => exact known.advance undisturbed
  | start now =>
      refine ⟨known.reached, ?_⟩
      intro sweep member underWay
      rcases List.mem_append.mp member with earlier | new
      · exact known.sweeps sweep earlier underWay
      · rw [List.mem_singleton.mp new]
        exact .start _ now rfl

/-- The stream of a reference has an envelope. -/
theorem streamHead_of_ref {world : World} (reached : (kernel ext config).Reachable world) {ref : PayloadRef}
    (cites : ref ∈ world.store.payloadRefs) : world.store.streamHead ref.stream ≠ none := by
  have references := World.referenced reached
  obtain ⟨taken, inside, owner⟩ := references.owned ref cites
  obtain ⟨row, _, same⟩ := references.own taken inside ref cites owner
  obtain ⟨held, stored, built⟩ := World.built_of_taken reached inside
  have isStream : held.stream = ref.stream := by
    rw [same]
    exact (Store.envelopeRow_eq_ok built).stream
  have member := Store.mem_ofStream.mpr ⟨stored, isStream⟩
  intro none
  unfold Store.streamHead at none
  rw [Option.map_eq_none_iff, Table.topBy_eq_none] at none
  rw [none] at member
  cases member

theorem Known.deletes {turn : Turn} (known : Known ext config checkpointStream state) :
    DeletesCovered ext config checkpointStream state turn := by
  rintro index now rfl entry held gone ref cites same
  unfold Sweeper.step at gone
  dsimp only at gone
  cases found : state.sweeps[index]? with
  | none =>
      rw [found] at gone
      exact absurd held gone
  | some sweep =>
      rw [found] at gone
      dsimp only at gone
      cases acts : sweep.acts config checkpointStream state.world now with
      | none =>
          rw [acts] at gone
          exact absurd held gone
      | some action =>
          rw [acts, Option.map_some, Option.getD_some] at gone
          rcases acts_cases acts with ⟨atNext, empty, rfl⟩ | ⟨request, rfl⟩
          · have ok := known.sweeps sweep (List.mem_of_getElem? found) (by rw [atNext]; intro _ isEnded; cases isEnded)
            have unretained : state.world.store.unretained sweep.now entry.payloadHash = true := by
              unfold Store.unretained
              rw [Bool.not_eq_true', ← Bool.not_eq_true]
              intro retained
              exact gone (List.mem_filter.mpr ⟨held, retained⟩)
            have looked := ok.looked ref.stream (ok.listed entry held unretained ref cites same)
            rw [empty, atNext] at looked
            rcases looked with rest | ⟨_, none, _⟩ | none | covered
            · cases rest
            · cases none
            · exact absurd none (streamHead_of_ref known.reached cites)
            · exact covered
          · have store := (@submit_same ext state.world request).1
            have kept : entry ∈ (state.world.submit ext request).store.payloads := by
              rw [store]
              exact held
            exact absurd kept gone

/-- In a run whose sweeps nothing gets in the way of, every payload a sweep deletes is referenced only from streams whose
head is covered by a checkpoint then. -/
theorem deletes_after_checkpoint {turns : List Turn}
    (each : (sweeping ext config checkpointStream).EachStep { world := World.initial, sweeps := [] } turns
      (Undisturbed ext config)) :
    (sweeping ext config checkpointStream).EachStep { world := World.initial, sweeps := [] } turns
      (DeletesCovered ext config checkpointStream) := by
  have known : (sweeping ext config checkpointStream).EachState { world := World.initial, sweeps := [] } turns
      (Known ext config checkpointStream) := by
    refine each.states ⟨.of_start rfl, ?_⟩ ?_
    · intro sweep member
      cases member
    · intro state turn undisturbed known
      exact known.step undisturbed
  intro before turn after split
  exact (known before (turn :: after) split).deletes

end Sweeper

end Stozher

namespace Stozher.Deployment

open Library Library.Text Recorded Ingest

/-- The checkpoint of the stream of signals, after its first one. -/
def signalsCheckpoint : Recorded where
  form := fun sig => .object ([("checkpoint", .object [("count", .ofNat 1), ("from-seq", .ofNat 0),
      ("head-hash", .string promptSignal.digest), ("observed-at", .string ten), ("stream", .string "ops:signals"),
      ("to-seq", .ofNat 0)]),
    ("emitted-at", .string ten), ("identity", kernelIdentity), ("kind", .string "checkpoint"),
    ("prev-hash", .null), ("seq", .ofNat 0)] ++ sig ++
    [("stream", .string "kernel:checkpoints"), ("v", .string "stozher/0.1")])
  sealed := some (kernelKey, signatureText
    0x5a58d91a37a0003751d67008f189f59813e466767539cfaffba613eb8336f6ef
    0xba130007d1e2082b294ea8ead9d4bb2fafcb60d19eda670bba60cca483e6da03)
  digest := hex 64 0x276fd4b8004527e8ae750e2c9246820a8919c06d8a9cd98a8d244bf8c0fe88ff

def sweptExt : External :=
  external (records ++ [promptSignal, signalsCheckpoint])

def sweptConfig : Config :=
  { config with kernelKey := signingKey (records ++ [signalsCheckpoint]) kernelId }

def enterSignal : List Sweeper.Turn :=
  (enter (submission promptSignal.document [noArguments]) nine).map .serve

/-- A sweep after the signal: it checkpoints the stream and deletes the payload. -/
def sweptAfter : List Sweeper.Turn :=
  founding.map .serve ++ enterSignal ++ [.start ten, .advance 0 ten, .advance 0 ten, .advance 0 ten, .advance 0 ten,
    .serve (.perform 0), .serve (.perform 0), .advance 0 ten, .advance 0 ten]

/-- A sweep that had listed its streams when the signal came in. -/
def sweptBefore : List Sweeper.Turn :=
  founding.map .serve ++ [.start ten] ++ enterSignal

@[irreducible] def sweptState : Sweeper :=
  (sweeping sweptExt sweptConfig "kernel:checkpoints").run { world := World.initial, sweeps := [] } sweptBefore

theorem sweptBefore_split : (sweeping sweptExt sweptConfig "kernel:checkpoints").run { world := World.initial, sweeps := [] }
    sweptBefore = sweptState := by
  unfold sweptState
  rfl

def leavesAlone (state : Sweeper) (turn : Sweeper.Turn) : Bool :=
  match turn with
  | .serve (.perform index) =>
      match state.world.tasks[index]? with
      | some (.append _ _ validated) => state.sweeps.all fun sweep =>
          !sweep.affected.contains validated.plan.stream && validated.plan.payloads.isEmpty
      | _ => true
  | .advance index _ =>
      match (state.sweeps[index]?).map Sweep.stage with
      | some (.waiting _ request _) =>
          match receive sweptExt request.raw with
          | .ok received => state.world.accepted.all fun taken =>
              taken.plan.id != received.id || decide (taken.plan.envelope = received.env)
          | .error _ => true
      | _ => true
  | _ => true

theorem undisturbed_of_leavesAlone {state : Sweeper} {turn : Sweeper.Turn} (alone : leavesAlone state turn = true) :
    Sweeper.Undisturbed sweptExt sweptConfig state turn := by
  constructor
  · rintro index request snapshot validated rfl waiting _ _ sweep member _
    unfold leavesAlone at alone
    dsimp only at alone
    rw [waiting] at alone
    have apart := List.all_eq_true.mp alone sweep member
    rw [Bool.and_eq_true, Bool.not_eq_true', List.isEmpty_iff] at apart
    constructor
    · intro listed
      rw [← List.contains_iff_mem, apart.1] at listed
      cases listed
    · rw [apart.2]
      intro row inside
      cases inside
  · rintro index now sweep rfl found head request asked received waiting opened taken member same
    unfold leavesAlone at alone
    dsimp only at alone
    rw [found, Option.map_some, waiting] at alone
    dsimp only at alone
    rw [opened] at alone
    have apart := List.all_eq_true.mp alone taken member
    rw [Bool.or_eq_true, bne_iff_ne, decide_eq_true_eq] at apart
    rcases apart with other | equal
    · exact absurd same other
    · exact equal

structure SweepsSeen : Prop where
  alone : (sweeping sweptExt sweptConfig "kernel:checkpoints").allSteps leavesAlone
    { world := World.initial, sweeps := [] } sweptAfter = true
  before : (sweptState.world.store.payloads.map PayloadEntry.payloadHash,
    (sweptState.step sweptExt sweptConfig "kernel:checkpoints" (.advance 0 ten)).world.store.payloads.map
      PayloadEntry.payloadHash,
    sweptState.world.store.payloadRefs.map PayloadRef.payloadHash,
    sweptState.world.accepted.map fun taken => taken.plan.projections.checkpoint.isSome) =
      ([noArguments.digest], [], [noArguments.digest], [false, false, false])

theorem sweeps_seen : SweepsSeen := by
  constructor <;> decide +kernel

theorem swept_after_checkpoint : (sweeping sweptExt sweptConfig "kernel:checkpoints").EachStep
    { world := World.initial, sweeps := [] } sweptAfter
    (Sweeper.DeletesCovered sweptExt sweptConfig "kernel:checkpoints") := by
  apply Sweeper.deletes_after_checkpoint
  intro before turn after split
  exact undisturbed_of_leavesAlone (System.eachStep_of_allSteps sweeps_seen.alone before turn after split)

/-- A payload that came in after the streams were listed is deleted without a checkpoint. -/
theorem swept_without_checkpoint : ¬∀ (ext : External) config checkpointStream turns,
    (sweeping ext config checkpointStream).EachStep { world := World.initial, sweeps := [] } turns
      (Sweeper.DeletesCovered ext config checkpointStream) := by
  intro covered
  have seen := sweeps_seen.before
  rw [Prod.mk.injEq, Prod.mk.injEq, Prod.mk.injEq] at seen
  obtain ⟨stored, deleted, referenced, unattested⟩ := seen
  obtain ⟨entry, rest, isEntry, named, _⟩ := List.map_eq_cons_iff.mp stored
  obtain ⟨ref, others, isRef, cites, _⟩ := List.map_eq_cons_iff.mp referenced
  have last := covered sweptExt sweptConfig "kernel:checkpoints" (sweptBefore ++ [.advance 0 ten]) sweptBefore
    (.advance 0 ten) [] rfl
  rw [sweptBefore_split] at last
  have gone : entry ∉ (sweptState.step sweptExt sweptConfig "kernel:checkpoints" (.advance 0 ten)).world.store.payloads := by
    rw [List.map_eq_nil_iff.mp deleted]
    exact List.not_mem_nil
  obtain ⟨_, _, _, taken, inside, claim, projected, _⟩ := last 0 ten rfl entry (by rw [isEntry]; exact List.mem_cons_self)
    gone ref (by rw [isRef]; exact List.mem_cons_self) (cites.trans named.symm)
  have attests := List.mem_map_of_mem (f := fun taken : Accepted => taken.plan.projections.checkpoint.isSome) inside
  rw [unattested, projected, Option.isSome_some] at attests
  exact absurd attests (by decide)

end Stozher.Deployment
