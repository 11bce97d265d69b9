import Stozher.ChainShape
import Stozher.TwinPlans

namespace Stozher

open Library

namespace Store

/-- A store with its envelopes replaced, and every id by which another table names one. -/
def addressed (names : String → String) (envelopes : List EnvelopeRow) (store : Store) : Store :=
  { store with
    envelopes
    streams := store.streams.map fun row => { row with headHash := names row.headHash }
    payloadRefs := store.payloadRefs.map fun row => { row with envelopeId := names row.envelopeId }
    checkpoints := store.checkpoints.map fun row => { row with envelopeId := names row.envelopeId }
    gateRequestHashes := store.gateRequestHashes.map fun row => { row with envelopeId := names row.envelopeId }
    gateDecisions := store.gateDecisions.map fun row => { row with envelopeId := names row.envelopeId }
    policies := store.policies.map fun row => { row with envelopeId := names row.envelopeId }
    manifests := store.manifests.map fun row => { row with envelopeId := names row.envelopeId }
    roots := store.roots.map fun row => { row with envelopeId := names row.envelopeId }
    mandates := store.mandates.map fun row => { row with envelopeId := names row.envelopeId }
    revocations := store.revocations.map fun row =>
      { row with revocationId := names row.revocationId, envelopeId := names row.envelopeId }
    streamResumes := store.streamResumes.map fun row => { row with envelopeId := names row.envelopeId } }

end Store

/-- Two plans that write the same, but for the envelope, its id and where the id is written. -/
structure AppendPlan.Alike (names : String → String) (plan other : AppendPlan) : Prop where
  id : other.id = names plan.id
  stream : other.stream = plan.stream
  seq : other.seq = plan.seq
  prevHash : other.prevHash = plan.prevHash
  publisher : other.envelope.index "identity" = plan.envelope.index "identity"
  emittedAt : other.envelope.getStr "emitted-at" = plan.envelope.getStr "emitted-at"
  streamKind : other.streamKind = plan.streamKind
  receivedAt : other.receivedAt = plan.receivedAt
  payloads : other.payloads = plan.payloads
  gateUse : other.gateUse = plan.gateUse
  projections : other.projections = { plan.projections with
    revocation := plan.projections.revocation.map fun projected => (names projected.1, projected.2) }
  spend : other.spend = plan.spend

namespace Store

variable {names : String → String} {envelopes : List EnvelopeRow} {store : Store} {plan other : AppendPlan}

/-- A store that reads the other with its envelopes replaced and renamed. -/
abbrev Addressed (names : String → String) (envelopes : List EnvelopeRow) (store other : Store) : Prop :=
  other = store.addressed names envelopes

theorem writeMandate_addressed (alike : plan.Alike names other) :
    Agree (Addressed names envelopes) (writeMandate plan store)
      (writeMandate other (store.addressed names envelopes)) := by
  unfold writeMandate
  rw [alike.projections, alike.id]
  dsimp only
  cases plan.projections.mandate with
  | none => exact .passed rfl
  | some projected =>
      obtain ⟨id, mandate⟩ := projected
      have held : ((store.addressed names envelopes).mandateRow id).isSome = (store.mandateRow id).isSome := by
        unfold mandateRow addressed
        rw [List.find?_map, Option.isSome_map]
        rfl
      refine Agree.bind_same fun _ => Agree.bind_same fun _ => Agree.bind_same fun _ => ?_
      refine Agree.bind_same fun _ => Agree.bind_same fun _ => Agree.bind_same fun _ => ?_
      refine Agree.bind_same fun _ => ?_
      rw [held]
      refine Agree.ite (fun _ => .passed rfl) fun _ => .passed ?_
      unfold Addressed addressed
      rw [List.map_append]
      rfl

theorem writeRevocation_addressed (alike : plan.Alike names other)
    (distinct : ∀ projected, plan.projections.revocation = some projected →
      ∀ row ∈ store.revocations, names row.revocationId = names projected.1 → row.revocationId = projected.1) :
    Agree (Addressed names envelopes) (writeRevocation plan store)
      (writeRevocation other (store.addressed names envelopes)) := by
  unfold writeRevocation
  rw [alike.projections, alike.id]
  dsimp only
  cases projected : plan.projections.revocation with
  | none => exact .passed rfl
  | some revocation =>
      obtain ⟨id, object⟩ := revocation
      have held : ((store.addressed names envelopes).revocations.any fun row => row.revocationId == names id) =
          store.revocations.any fun row => row.revocationId == id := by
        unfold addressed
        rw [List.any_map, Bool.eq_iff_iff, List.any_eq_true, List.any_eq_true]
        apply exists_congr
        intro row
        apply and_congr_right
        intro member
        show (names row.revocationId == names id) = true ↔ (row.revocationId == id) = true
        rw [beq_iff_eq, beq_iff_eq]
        exact ⟨distinct _ projected row member, congrArg names⟩
      refine Agree.bind_same fun _ => Agree.bind_same fun _ => Agree.bind_same fun _ => ?_
      dsimp only
      rw [held]
      refine Agree.ite (fun _ => .passed rfl) fun _ => .passed ?_
      unfold Addressed addressed
      rw [List.map_append]
      rfl

theorem writePolicy_addressed (alike : plan.Alike names other) :
    Agree (Addressed names envelopes) (writePolicy plan store)
      (writePolicy other (store.addressed names envelopes)) := by
  unfold writePolicy
  rw [alike.projections, alike.id, alike.publisher, alike.receivedAt]
  dsimp only
  cases plan.projections.policy with
  | none => exact .passed rfl
  | some projected =>
      obtain ⟨version, document, hash⟩ := projected
      have held : (store.addressed names envelopes).policyVersionExists version = store.policyVersionExists version := by
        unfold policyVersionExists addressed
        rw [List.any_map]
        rfl
      refine Agree.bind_same fun _ => Agree.bind_same fun _ => ?_
      rw [held]
      refine Agree.bind_same fun _ => .passed ?_
      unfold Addressed addressed
      rw [List.map_append]
      rfl

theorem writeManifest_addressed (alike : plan.Alike names other) :
    Agree (Addressed names envelopes) (writeManifest plan store)
      (writeManifest other (store.addressed names envelopes)) := by
  unfold writeManifest
  rw [alike.projections, alike.id, alike.receivedAt]
  dsimp only
  cases plan.projections.manifest with
  | none => exact .passed rfl
  | some manifest =>
      have held : (store.addressed names envelopes).manifestVersionExists manifest.name manifest.version =
          store.manifestVersionExists manifest.name manifest.version := by
        unfold manifestVersionExists addressed
        rw [List.any_map]
        rfl
      refine Agree.bind_same fun _ => ?_
      rw [held]
      refine Agree.bind_same fun _ => .passed ?_
      unfold Addressed addressed
      rw [List.map_append]
      rfl

theorem writeEnrollRoot_addressed (alike : plan.Alike names other) :
    Agree (Addressed names envelopes) (writeEnrollRoot plan store)
      (writeEnrollRoot other (store.addressed names envelopes)) := by
  unfold writeEnrollRoot
  rw [alike.projections, alike.id, alike.emittedAt]
  dsimp only
  cases plan.projections.enrollRoot with
  | none => exact .passed rfl
  | some projected =>
      obtain ⟨key, subject⟩ := projected
      have held : ((store.addressed names envelopes).roots.any fun row => row.rootKey == key) =
          store.roots.any fun row => row.rootKey == key := by
        unfold addressed
        rw [List.any_map]
        rfl
      refine Agree.bind_same fun _ => ?_
      rw [held]
      refine Agree.ite (fun _ => .passed rfl) fun _ => .passed ?_
      unfold Addressed addressed
      rw [List.map_append]
      rfl

theorem writeRetireRoot_addressed (alike : plan.Alike names other) :
    writeRetireRoot other (store.addressed names envelopes) =
      (writeRetireRoot plan store).addressed names envelopes := by
  unfold writeRetireRoot
  rw [alike.projections, alike.emittedAt]
  dsimp only
  cases plan.projections.retireRoot with
  | none => rfl
  | some key =>
      unfold addressed
      dsimp only
      rw [List.map_map, List.map_map]
      congr 2
      funext row
      dsimp only [Function.comp]
      unfold retireRow
      split
      · rfl
      · rfl

theorem writeGateDecision_addressed (alike : plan.Alike names other) :
    Agree (Addressed names envelopes) (writeGateDecision plan store)
      (writeGateDecision other (store.addressed names envelopes)) := by
  unfold writeGateDecision
  rw [alike.projections, alike.id, alike.receivedAt]
  dsimp only
  cases plan.projections.gateDecision with
  | none => exact .passed rfl
  | some decision =>
      have held : ((store.addressed names envelopes).gateDecisions.all fun row =>
          row.requestHash != decision.requestHash) =
          store.gateDecisions.all fun row => row.requestHash != decision.requestHash := by
        unfold addressed
        rw [List.all_map]
        rfl
      refine Agree.bind_same fun _ => ?_
      rw [held]
      refine Agree.bind_same fun _ => .passed ?_
      unfold Addressed addressed
      rw [List.map_append]
      rfl

theorem streamResume_addressed (stream : String) (resumeSeq : Nat) :
    (store.addressed names envelopes).streamResume stream resumeSeq = store.streamResume stream resumeSeq := by
  unfold streamResume addressed
  rw [List.find?_map, Option.map_map]
  rfl

theorem writeStreamResume_addressed (alike : plan.Alike names other) :
    Agree (Addressed names envelopes) (writeStreamResume plan store)
      (writeStreamResume other (store.addressed names envelopes)) := by
  unfold writeStreamResume
  rw [alike.projections, alike.id, alike.receivedAt]
  dsimp only
  cases plan.projections.streamResume with
  | none => exact .passed rfl
  | some resume =>
      have refused : checkRefused (store.addressed names envelopes) resume = checkRefused store resume := rfl
      dsimp only
      rw [refused, streamResume_addressed]
      refine Agree.bind_same fun _ => Agree.ite (fun _ => .passed rfl) fun _ => .passed ?_
      unfold Addressed addressed
      rw [List.map_append]
      rfl

theorem lastCheckpoint_addressed (stream : String) :
    (store.addressed names envelopes).lastCheckpoint stream = store.lastCheckpoint stream := by
  unfold lastCheckpoint addressed
  rw [List.filter_map, @Table.topBy_map CheckpointEntry CheckpointEntry.toSeq
    (fun row => { row with envelopeId := names row.envelopeId }) fun _ => rfl, Option.map_map]
  rfl

theorem writeCheckpoint_addressed (alike : plan.Alike names other) :
    Agree (Addressed names envelopes) (writeCheckpoint plan store)
      (writeCheckpoint other (store.addressed names envelopes)) := by
  unfold writeCheckpoint
  rw [alike.projections, alike.id]
  dsimp only
  cases plan.projections.checkpoint with
  | none => exact .passed rfl
  | some checkpoint =>
      have held : ((store.addressed names envelopes).checkpoints.all fun row =>
          !(row.stream == checkpoint.stream && row.fromSeq == saturate checkpoint.fromSeq)) =
          store.checkpoints.all fun row =>
            !(row.stream == checkpoint.stream && row.fromSeq == saturate checkpoint.fromSeq) := by
        unfold addressed
        rw [List.all_map]
        rfl
      dsimp only
      rw [lastCheckpoint_addressed, held]
      refine Agree.bind_same fun _ => Agree.bind_same fun _ => .passed ?_
      unfold Addressed addressed
      rw [List.map_append]
      rfl

theorem writeSpend_addressed (alike : plan.Alike names other) :
    Agree (Addressed names envelopes) (writeSpend plan store)
      (writeSpend other (store.addressed names envelopes)) := by
  unfold writeSpend
  rw [alike.spend]
  cases plan.spend with
  | none => exact .passed rfl
  | some accrual => exact Agree.bind_same fun _ => .passed rfl

theorem touchStream_addressed (alike : plan.Alike names other) :
    touchStream other (store.addressed names envelopes) =
      (touchStream plan store).addressed names envelopes := by
  have kind : ((store.addressed names envelopes).streamKind plan.stream).isSome =
      (store.streamKind plan.stream).isSome := by
    unfold streamKind addressed
    rw [List.find?_map, Option.isSome_map, Option.isSome_map, Option.isSome_map]
    rfl
  unfold touchStream
  rw [alike.stream, kind, alike.seq, alike.id, alike.receivedAt, alike.streamKind]
  split
  · unfold addressed
    dsimp only
    rw [List.map_map, List.map_map]
    congr 2
    funext row
    dsimp only [Function.comp]
    split
    · rfl
    · rfl
  · unfold addressed
    dsimp only
    rw [List.map_append]
    rfl

theorem insertPayload_addressed (alike : plan.Alike names other) {payload : PayloadRow}
    (distinct : ∀ row ∈ store.payloadRefs, names row.envelopeId = names plan.id → row.envelopeId = plan.id) :
    insertPayload other (store.addressed names envelopes) payload =
      (insertPayload plan store payload).addressed names envelopes := by
  have referenced : ((store.addressed names envelopes).payloadRefs.any fun row =>
      row.payloadHash == payload.payloadHash && row.envelopeId == names plan.id) =
      store.payloadRefs.any fun row => row.payloadHash == payload.payloadHash && row.envelopeId == plan.id := by
    unfold addressed
    rw [List.any_map, Bool.eq_iff_iff, List.any_eq_true, List.any_eq_true]
    apply exists_congr
    intro row
    apply and_congr_right
    intro member
    show (row.payloadHash == payload.payloadHash && names row.envelopeId == names plan.id) = true ↔
      (row.payloadHash == payload.payloadHash && row.envelopeId == plan.id) = true
    rw [Bool.and_eq_true, Bool.and_eq_true, beq_iff_eq, beq_iff_eq, beq_iff_eq]
    apply and_congr_right
    intro _
    exact ⟨distinct row member, congrArg names⟩
  unfold insertPayload
  dsimp only
  rw [alike.id, alike.receivedAt, alike.stream, referenced]
  unfold addressed
  dsimp only
  congr 1
  split
  · rfl
  · rw [List.map_append]
    rfl

theorem insertPayloads_addressed (alike : plan.Alike names other)
    (distinct : ∀ row ∈ store.payloadRefs, names row.envelopeId = names plan.id → row.envelopeId = plan.id) :
    insertPayloads (store.addressed names envelopes) other =
      (insertPayloads store plan).addressed names envelopes := by
  unfold insertPayloads
  rw [alike.payloads]
  generalize plan.payloads = payloads
  induction payloads generalizing store with
  | nil => rfl
  | cons first rest ih =>
      rw [List.foldl_cons, List.foldl_cons, insertPayload_addressed alike distinct]
      apply ih
      intro row member same
      unfold insertPayload at member
      dsimp only at member
      split at member
      · exact distinct row member same
      · rcases List.mem_append.mp member with held | new
        · exact distinct row held same
        · rw [List.mem_singleton] at new
          rw [new]

/-- What an envelope writes besides itself is written alike. -/
theorem writeProjections_addressed (alike : plan.Alike names other)
    (distinct : ∀ projected, plan.projections.revocation = some projected →
      ∀ row ∈ store.revocations, names row.revocationId = names projected.1 → row.revocationId = projected.1) :
    Agree (Addressed names envelopes) (writeProjections plan store)
      (writeProjections other (store.addressed names envelopes)) := by
  unfold writeProjections
  refine (writeMandate_addressed alike).bind_ok fun granted _ done same => ?_
  subst same
  have kept : granted.revocations = store.revocations := by
    obtain ⟨rows, same, _⟩ := writeMandate_eq_ok done
    rw [same]
  refine (writeRevocation_addressed alike (by rw [kept]; exact distinct)).bind fun _ _ same => ?_
  subst same
  refine (writePolicy_addressed alike).bind fun _ _ same => ?_
  subst same
  refine (writeManifest_addressed alike).bind fun _ _ same => ?_
  subst same
  refine (writeEnrollRoot_addressed alike).bind fun _ _ same => ?_
  subst same
  dsimp only
  rw [writeRetireRoot_addressed alike]
  refine (writeGateDecision_addressed alike).bind fun _ _ same => ?_
  subst same
  refine (writeStreamResume_addressed alike).bind fun _ _ same => ?_
  subst same
  refine (writeCheckpoint_addressed alike).bind fun _ _ same => ?_
  subst same
  exact writeSpend_addressed alike

theorem writeProjections_envelopes {next : Store} (written : writeProjections plan store = .ok next) :
    next.envelopes = store.envelopes := by
  unfold writeProjections at written
  simp only [bind_eq_ok] at written
  obtain ⟨s₁, first, s₂, second, s₃, third, s₄, fourth, s₅, fifth, s₆, sixth, s₇, seventh, s₈, eighth, ninth⟩ :=
    written
  obtain ⟨_, retired, _⟩ := writeRetireRoot_eq plan s₅
  rw [retired] at sixth
  obtain ⟨_, rfl, _⟩ := writeMandate_eq_ok first
  obtain ⟨_, rfl, _⟩ := writeRevocation_eq_ok second
  obtain ⟨_, rfl, _⟩ := writePolicy_eq_ok third
  obtain ⟨_, rfl⟩ := writeManifest_eq_ok fourth
  obtain ⟨_, rfl, _⟩ := writeEnrollRoot_eq_ok fifth
  obtain ⟨_, rfl⟩ := writeGateDecision_eq_ok sixth
  obtain ⟨_, rfl, _⟩ := writeStreamResume_eq_ok seventh
  obtain ⟨_, rfl, _⟩ := writeCheckpoint_eq_ok eighth
  obtain ⟨_, rfl⟩ := writeSpend_eq_ok ninth
  rfl

/-- What an append makes of one plan and of one that is written alike, row for row. -/
structure Rewrites (names : String → String) (change : EnvelopeRow → EnvelopeRow) (store : Store)
    (plan other : AppendPlan) : Prop where
  alike : plan.Alike names other
  rows : Agree (fun row changed => changed = change row) (envelopeRow plan) (envelopeRow other)
  stream : ∀ row, (change row).stream = row.stream
  seq : ∀ row, (change row).seq = row.seq
  prevHash : ∀ row, (change row).prevHash = row.prevHash
  settled : store.addressed names (store.envelopes.map change) = store
  renamed : ∀ row, row.id = plan.id → (change row).id = names plan.id
  fresh : ∀ row ∈ store.envelopes, row.id ≠ plan.id
  free : ∀ row ∈ store.envelopes, row.id ≠ names plan.id
  unreferenced : ∀ row ∈ store.payloadRefs, names row.envelopeId = names plan.id → row.envelopeId = plan.id
  unrevoked : ∀ projected, plan.projections.revocation = some projected →
    ∀ row ∈ store.revocations, names row.revocationId = names projected.1 → row.revocationId = projected.1

namespace Rewrites

variable {change : EnvelopeRow → EnvelopeRow}

theorem checkStreamKind (rewrites : Rewrites names change store plan other) :
    Store.checkStreamKind store other = Store.checkStreamKind store plan := by
  unfold Store.checkStreamKind
  rw [rewrites.alike.stream, rewrites.alike.streamKind]

theorem checkPosition (rewrites : Rewrites names change store plan other) :
    Store.checkPosition store other = Store.checkPosition store plan := by
  unfold Store.checkPosition bridged bridgeFor
  rw [rewrites.alike.stream, rewrites.alike.seq, rewrites.alike.prevHash]

theorem consumeGate (rewrites : Rewrites names change store plan other) :
    Agree (Addressed names (store.envelopes.map change)) (Store.consumeGate store plan)
      (Store.consumeGate store other) := by
  unfold Store.consumeGate
  rw [rewrites.alike.gateUse]
  cases plan.gateUse with
  | none => exact .passed rewrites.settled.symm
  | some gateUse =>
      dsimp only
      cases store.gateRequestHashes.find? fun row => row.requestHash == gateUse.requestHash with
      | none =>
          have commuted : ∀ hashes, ({ store with gateRequestHashes := hashes } : Store).addressed names
              (store.envelopes.map change) = { store.addressed names (store.envelopes.map change) with
                gateRequestHashes := hashes.map fun row => { row with envelopeId := names row.envelopeId } } :=
            fun _ => rfl
          have hashes := congrArg Store.gateRequestHashes rewrites.settled
          apply Agree.passed
          unfold Addressed
          rw [rewrites.alike.id, rewrites.alike.receivedAt, commuted, rewrites.settled, List.map_append]
          unfold addressed at hashes
          dsimp only at hashes
          rw [hashes]
          rfl
      | some existing => exact Agree.bind_same fun _ => .passed rewrites.settled.symm

theorem insertEnvelope (rewrites : Rewrites names change store plan other) {gated : Store}
    (envelopes : gated.envelopes = store.envelopes) :
    Agree (fun inserted changed => changed = inserted.addressed names (inserted.envelopes.map change))
      (Store.insertEnvelope gated plan)
      (Store.insertEnvelope (gated.addressed names (store.envelopes.map change)) other) := by
  have kept : store.envelopes.map change = store.envelopes := congrArg Store.envelopes rewrites.settled
  unfold Store.insertEnvelope
  refine rewrites.rows.bind_ok fun row changed built same => ?_
  subst same
  have triggers : (gated.addressed names (store.envelopes.map change)).chainTriggersAdmit (change row) =
      gated.chainTriggersAdmit row := by
    unfold chainTriggersAdmit addressed
    dsimp only
    rw [rewrites.stream, rewrites.seq, rewrites.prevHash, kept, envelopes, List.any_map]
    rfl
  have free : ((gated.addressed names (store.envelopes.map change)).envelopes.all fun held =>
      !(held.stream == (change row).stream && held.seq == (change row).seq) && held.id != (change row).id) =
      gated.envelopes.all fun held => !(held.stream == row.stream && held.seq == row.seq) && held.id != row.id := by
    show (store.envelopes.map change).all _ = _
    rw [rewrites.stream, rewrites.seq, kept, envelopes, Bool.eq_iff_iff, List.all_eq_true, List.all_eq_true]
    apply forall₂_congr
    intro held member
    have other : held.id ≠ (change row).id := by
      rw [rewrites.renamed row (envelopeRow_eq_ok built).id]
      exact rewrites.free held member
    have fresh : held.id ≠ row.id := by
      rw [(envelopeRow_eq_ok built).id]
      exact rewrites.fresh held member
    rw [bne_iff_ne.mpr other, bne_iff_ne.mpr fresh]
  rw [triggers, free, rewrites.alike.stream, rewrites.alike.seq]
  refine Agree.bind_same fun _ => Agree.bind_same fun _ => .passed ?_
  show _ = Store.addressed names ((gated.envelopes ++ [row]).map change) _
  rw [envelopes, List.map_append]
  rfl

/-- The two appends refuse alike, or leave stores that read alike. -/
theorem appendFresh (rewrites : Rewrites names change store plan other) :
    Agree (fun next changed => changed = next.addressed names (next.envelopes.map change))
      (Store.appendFresh store plan) (Store.appendFresh store other) := by
  unfold Store.appendFresh
  rw [rewrites.checkStreamKind, rewrites.checkPosition]
  refine Agree.bind_same fun _ => Agree.bind_same fun _ => ?_
  refine rewrites.consumeGate.bind_ok fun gated _ charged same => ?_
  subst same
  obtain ⟨hashes, isGated⟩ := consumeGate_eq_ok charged
  refine (rewrites.insertEnvelope (by rw [isGated])).bind_ok fun inserted _ built same => ?_
  subst same
  obtain ⟨row, _, _, _, isInserted⟩ := insertEnvelope_eq_ok built
  have references : inserted.payloadRefs = store.payloadRefs := by rw [isInserted, isGated]
  obtain ⟨payloads, payloadRefs, isPaid⟩ := insertPayloads_eq inserted plan
  have revocations : (insertPayloads inserted plan).revocations = store.revocations := by
    rw [isPaid, isInserted, isGated]
  have envelopes : (insertPayloads inserted plan).envelopes = inserted.envelopes := by rw [isPaid]
  rw [insertPayloads_addressed rewrites.alike (by rw [references]; exact rewrites.unreferenced)]
  refine (writeProjections_addressed rewrites.alike ?_).bind_ok fun written _ done same => ?_
  · rw [revocations]
    exact rewrites.unrevoked
  · subst same
    apply Agree.passed
    rw [touchStream_addressed rewrites.alike, touchStream_eq, ← envelopes, ← writeProjections_envelopes done]

end Rewrites

end Store

end Stozher
