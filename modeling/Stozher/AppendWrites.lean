import Stozher.Rejection

namespace Stozher

open Library

/-- The row a mandate grant is kept as. -/
structure MandateRow.WrittenBy (row : MandateRow) (plan : AppendPlan) (mandate : Value) : Prop where
  projected : plan.projections.mandate = some (row.mandateId, mandate)
  parent : row.parent = mandate.getStr "parent"
  kind : mandate.getStr "mandate-kind" = some row.mandateKind
  grantor : (mandate.index "grantor").getStr "key" = some row.grantorKey
  grantee : (mandate.index "grantee").getStr "key" = some row.granteeKey
  subject : (mandate.index "grantee").getStr "subject" = some row.granteeSubject
  notBefore : mandate.getStr "not-before" = some row.notBefore
  notAfter : mandate.getStr "not-after" = some row.notAfter
  document : Jcs.canonicalize mandate = .ok row.documentJson
  envelope : row.envelopeId = plan.id

structure RevocationRow.WrittenBy (row : RevocationRow) (plan : AppendPlan) (object : Value) :
    Prop where
  projected : plan.projections.revocation = some (row.revocationId, object)
  revokes : object.getStr "revokes" = some row.revokes
  revokedAt : object.getStr "revoked-at" = some row.revokedAt
  document : Jcs.canonicalize object = .ok row.documentJson
  envelope : row.envelopeId = plan.id

structure PolicyRow.WrittenBy (row : PolicyRow) (plan : AppendPlan) (document : Value) : Prop where
  projected : plan.projections.policy = some (row.policyVersion, document, row.documentHash)
  document : Jcs.canonicalize document = .ok row.documentJson
  envelope : row.envelopeId = plan.id

structure RootRow.WrittenBy (row : RootRow) (plan : AppendPlan) : Prop where
  projected : plan.projections.enrollRoot = some (row.rootKey, row.subject)
  enrolledAt : plan.envelope.getStr "emitted-at" = some row.enrolledAt
  retiredAt : row.retiredAt = none
  envelope : row.envelopeId = plan.id

structure ResumeRow.WrittenBy (row : ResumeRow) (plan : AppendPlan) (resume : StreamResume) :
    Prop where
  projected : plan.projections.streamResume = some resume
  stream : row.stream = resume.stream
  resumeSeq : row.resumeSeq = saturate resume.resumeSeq
  bridgeHash : row.bridgeHash = resume.bridgeHash
  reasonCode : row.reasonCode = resume.reasonCode
  envelope : row.envelopeId = plan.id

structure CheckpointEntry.WrittenBy (row : CheckpointEntry) (plan : AppendPlan)
    (claim : CheckpointClaim) : Prop where
  projected : plan.projections.checkpoint = some claim
  stream : row.stream = claim.stream
  fromSeq : row.fromSeq = saturate claim.fromSeq
  toSeq : row.toSeq = saturate claim.toSeq
  headHash : row.headHash = claim.headHash
  envelope : row.envelopeId = plan.id

namespace Store

variable {store next : Store} {plan : AppendPlan}

theorem writeMandate_eq_ok (written : writeMandate plan store = .ok next) :
    ∃ rows, next = { store with mandates := store.mandates ++ rows } ∧
      (∀ row ∈ rows, ∃ mandate, row.WrittenBy plan mandate) ∧
      ∀ row ∈ rows, rows = [row] ∧ store.mandateRow row.mandateId = none := by
  unfold writeMandate at written
  split at written
  · cases written
    exact ⟨[], by simp, by simp, by simp⟩
  · rename_i id mandate projected
    simp only [bind_eq_ok, notNull, okOr_eq_ok] at written
    obtain ⟨kind, hasKind, grantor, hasGrantor, grantee, hasGrantee, subject, hasSubject, start,
      hasStart, stop, hasStop, document, canonical, written⟩ := written
    split at written
    · cases written
      exact ⟨[], by simp, by simp, by simp⟩
    · rename_i free
      cases written
      refine ⟨[_], rfl, ?_, ?_⟩
      · intro row member
        rw [List.mem_singleton] at member
        subst member
        exact ⟨mandate, projected, rfl, hasKind, hasGrantor, hasGrantee, hasSubject, hasStart, hasStop,
          canonical, rfl⟩
      · intro row member
        rw [List.mem_singleton] at member
        subst member
        exact ⟨rfl, by simpa using free⟩

theorem writeRevocation_eq_ok (written : writeRevocation plan store = .ok next) :
    ∃ rows, next = { store with revocations := store.revocations ++ rows } ∧
      (∀ row ∈ rows, ∃ object, row.WrittenBy plan object) ∧
      ∀ id object, plan.projections.revocation = some (id, object) →
        ∃ row ∈ store.revocations ++ rows, row.revocationId = id := by
  unfold writeRevocation at written
  split at written
  · rename_i absent
    cases written
    exact ⟨[], by simp, by simp, by simp [absent]⟩
  · rename_i id object projected
    simp only [bind_eq_ok, notNull, okOr_eq_ok] at written
    obtain ⟨revokes, hasRevokes, revokedAt, hasRevokedAt, document, canonical, written⟩ := written
    split at written
    · rename_i held
      cases written
      refine ⟨[], by simp, by simp, ?_⟩
      intro other value same
      rw [projected] at same
      cases same
      simpa using held
    · cases written
      refine ⟨[_], rfl, ?_, ?_⟩
      · intro row member
        rw [List.mem_singleton] at member
        subst member
        exact ⟨object, projected, hasRevokes, hasRevokedAt, canonical, rfl⟩
      · intro other value same
        rw [projected] at same
        cases same
        exact ⟨_, List.mem_append_right _ List.mem_cons_self, rfl⟩

theorem writePolicy_eq_ok (written : writePolicy plan store = .ok next) :
    ∃ rows, next = { store with policies := store.policies ++ rows } ∧
      (∀ row ∈ rows, ∃ document, row.WrittenBy plan document) ∧
      (plan.projections.policy.isSome = true → rows ≠ []) := by
  unfold writePolicy at written
  split at written
  · rename_i absent
    cases written
    exact ⟨[], by simp, by simp, by simp [absent]⟩
  · rename_i version document hash projected
    simp only [bind_eq_ok, notNull, okOr_eq_ok, require_eq_ok, pure_eq_ok] at written
    obtain ⟨canonical, hasCanonical, publisher, hasPublisher, _, unused, rfl⟩ := written
    refine ⟨[_], rfl, ?_, by simp⟩
    intro row member
    rw [List.mem_singleton] at member
    subst member
    exact ⟨document, projected, hasCanonical, rfl⟩

theorem writeManifest_eq_ok (written : writeManifest plan store = .ok next) :
    ∃ rows, next = { store with manifests := store.manifests ++ rows } := by
  unfold writeManifest at written
  split at written
  · cases written
    exact ⟨[], by simp⟩
  · simp only [bind_eq_ok, require_eq_ok, pure_eq_ok] at written
    obtain ⟨canonical, hasCanonical, _, unused, rfl⟩ := written
    exact ⟨_, rfl⟩

theorem writeEnrollRoot_eq_ok (written : writeEnrollRoot plan store = .ok next) :
    ∃ rows, next = { store with roots := store.roots ++ rows } ∧
      ∀ row ∈ rows, row.WrittenBy plan := by
  unfold writeEnrollRoot at written
  split at written
  · cases written
    exact ⟨[], by simp, by simp⟩
  · rename_i key subject projected
    simp only [bind_eq_ok, notNull, okOr_eq_ok] at written
    obtain ⟨at_, emitted, written⟩ := written
    split at written
    · cases written
      exact ⟨[], by simp, by simp⟩
    · cases written
      refine ⟨[_], rfl, ?_⟩
      intro row member
      rw [List.mem_singleton] at member
      subst member
      exact ⟨projected, emitted, rfl, rfl⟩

theorem writeRetireRoot_eq (plan : AppendPlan) (store : Store) :
    ∃ retire : RootRow → RootRow,
      writeRetireRoot plan store = { store with roots := store.roots.map retire } ∧
      (∀ row, (retire row).rootKey = row.rootKey ∧ (retire row).subject = row.subject ∧
        (retire row).enrolledAt = row.enrolledAt) ∧
      (∀ row, retire row = row ∨ (plan.projections.retireRoot = some row.rootKey ∧
        (retire row).retiredAt = plan.envelope.getStr "emitted-at")) ∧
      (plan.projections.retireRoot = none → ∀ row, retire row = row) := by
  unfold writeRetireRoot
  split
  · exact ⟨id, by simp, by simp, by simp, by simp⟩
  · rename_i key projected
    refine ⟨retireRow key (plan.envelope.getStr "emitted-at"), rfl, ?_, ?_, by simp [projected]⟩
    · intro row
      unfold retireRow
      split <;> simp
    · intro row
      unfold retireRow
      split
      · rename_i retired
        exact Or.inr ⟨by rw [projected, retired.1], rfl⟩
      · exact Or.inl rfl

theorem writeGateDecision_eq_ok (written : writeGateDecision plan store = .ok next) :
    ∃ rows, next = { store with gateDecisions := store.gateDecisions ++ rows } := by
  unfold writeGateDecision at written
  split at written
  · cases written
    exact ⟨[], by simp⟩
  · simp only [bind_eq_ok, require_eq_ok, pure_eq_ok] at written
    obtain ⟨canonical, hasCanonical, _, unanswered, rfl⟩ := written
    exact ⟨_, rfl⟩

/-- What an append makes of the resume it carries. -/
structure ResumesBy (plan : AppendPlan) (store : Store) (rows : List ResumeRow) : Prop where
  new : ∀ row ∈ rows, ∃ resume, row.WrittenBy plan resume
  refused : ∀ resume, plan.projections.streamResume = some resume →
    store.rejectionAt resume.stream resume.resumeSeq = some resume.bridgeHash
  kept : ∀ resume hash, plan.projections.streamResume = some resume →
    store.streamResume resume.stream resume.resumeSeq = some hash → rows = []
  first : ∀ resume, plan.projections.streamResume = some resume →
    store.streamResume resume.stream resume.resumeSeq = none → rows ≠ []

theorem checkRefused_eq_ok {resume : StreamResume} :
    checkRefused store resume = .ok () ↔
      store.rejectionAt resume.stream resume.resumeSeq = some resume.bridgeHash := by
  unfold checkRefused
  cases store.rejectionAt resume.stream resume.resumeSeq with
  | none => simp
  | some hash => simp [require_eq_ok]

theorem writeStreamResume_eq_ok (written : writeStreamResume plan store = .ok next) :
    ∃ rows, next = { store with streamResumes := store.streamResumes ++ rows } ∧
      ResumesBy plan store rows := by
  unfold writeStreamResume at written
  split at written
  · rename_i absent
    cases written
    exact ⟨[], by simp, by simp, by simp [absent], by simp, by simp [absent]⟩
  · rename_i resume projected
    rw [bind_eq_ok] at written
    obtain ⟨_, named, written⟩ := written
    have refused : ∀ other, plan.projections.streamResume = some other →
        store.rejectionAt other.stream other.resumeSeq = some other.bridgeHash := by
      intro other same
      rw [projected] at same
      cases same
      exact checkRefused_eq_ok.mp named
    split at written
    · rename_i held
      cases written
      refine ⟨[], by simp, by simp, refused, by simp, ?_⟩
      intro other same none
      rw [projected] at same
      cases same
      simp [none] at held
    · rename_i free
      cases written
      refine ⟨[_], rfl, ?_, refused, ?_, by simp⟩
      · intro row member
        rw [List.mem_singleton] at member
        subst member
        exact ⟨resume, projected, rfl, rfl, rfl, rfl, rfl⟩
      · intro other held same found
        rw [projected] at same
        cases same
        simp [found] at free

theorem writeCheckpoint_eq_ok (written : writeCheckpoint plan store = .ok next) :
    ∃ rows, next = { store with checkpoints := store.checkpoints ++ rows } ∧
      ∀ row ∈ rows, ∃ claim, row.WrittenBy plan claim := by
  unfold writeCheckpoint at written
  split at written
  · cases written
    exact ⟨[], by simp, by simp⟩
  · rename_i claim projected
    simp only [bind_eq_ok, require_eq_ok, pure_eq_ok] at written
    obtain ⟨_, continuous, _, unused, rfl⟩ := written
    refine ⟨[_], rfl, ?_⟩
    intro row member
    rw [List.mem_singleton] at member
    subst member
    exact ⟨claim, projected, rfl, rfl, rfl, rfl, rfl⟩

theorem writeSpend_eq_ok (written : writeSpend plan store = .ok next) :
    ∃ spend, next = { store with spend } := by
  unfold writeSpend at written
  split at written
  · cases written
    exact ⟨store.spend, rfl⟩
  · rw [bind_eq_ok] at written
    obtain ⟨spend, accrued, written⟩ := written
    cases written
    exact ⟨spend, rfl⟩

theorem insertPayloads_eq (store : Store) (plan : AppendPlan) :
    ∃ payloads payloadRefs, insertPayloads store plan = { store with payloads, payloadRefs } := by
  unfold insertPayloads
  generalize plan.payloads = rows
  induction rows generalizing store with
  | nil => exact ⟨store.payloads, store.payloadRefs, rfl⟩
  | cons first rest ih =>
      obtain ⟨payloads, payloadRefs, same⟩ := ih (insertPayload plan store first)
      exact ⟨payloads, payloadRefs, same⟩

theorem insertPayloads_of_same {other : Store} (plan : AppendPlan) (payloads : other.payloads = store.payloads)
    (payloadRefs : other.payloadRefs = store.payloadRefs) :
    (insertPayloads other plan).payloads = (insertPayloads store plan).payloads ∧
      (insertPayloads other plan).payloadRefs = (insertPayloads store plan).payloadRefs := by
  unfold insertPayloads
  generalize plan.payloads = rows
  induction rows generalizing store other with
  | nil => exact ⟨payloads, payloadRefs⟩
  | cons first rest ih =>
      refine ih ?_ ?_
      · unfold insertPayload
        dsimp only
        rw [payloads]
      · unfold insertPayload
        dsimp only
        rw [payloadRefs]

theorem writeCheckpoint_of_same {other : Store} (written : writeCheckpoint plan other = .ok next)
    (same : other.checkpoints = store.checkpoints) :
    writeCheckpoint plan store = .ok { store with checkpoints := next.checkpoints } := by
  unfold writeCheckpoint lastCheckpoint at written ⊢
  rw [same] at written
  split at written
  · cases written
    rw [same]
  · simp only [bind_eq_ok, require_eq_ok, pure_eq_ok] at written ⊢
    obtain ⟨_, continuous, _, unused, rfl⟩ := written
    exact ⟨(), continuous, (), unused, rfl⟩

theorem writeSpend_of_same {other : Store} (written : writeSpend plan other = .ok next)
    (same : other.spend = store.spend) : writeSpend plan store = .ok { store with spend := next.spend } := by
  unfold writeSpend at written ⊢
  rw [same] at written
  split at written
  · cases written
    rw [same]
  · rw [bind_eq_ok] at written ⊢
    obtain ⟨spend, accrued, done⟩ := written
    cases done
    exact ⟨spend, accrued, rfl⟩

theorem writeManifest_of_same {other : Store} (written : writeManifest plan other = .ok next)
    (same : other.manifests = store.manifests) :
    writeManifest plan store = .ok { store with manifests := next.manifests } := by
  unfold writeManifest manifestVersionExists at written ⊢
  rw [same] at written
  split at written
  · cases written
    rw [same]
  · simp only [bind_eq_ok, require_eq_ok, pure_eq_ok] at written ⊢
    obtain ⟨canonical, hasCanonical, _, unused, rfl⟩ := written
    exact ⟨canonical, hasCanonical, (), unused, rfl⟩

theorem touchStream_eq (plan : AppendPlan) (store : Store) :
    touchStream plan store = { store with streams := (touchStream plan store).streams } := by
  unfold touchStream
  split <;> rfl

theorem touchStream_streams {a b : Store} (plan : AppendPlan) (same : a.streams = b.streams) :
    (touchStream plan a).streams = (touchStream plan b).streams := by
  have kind : a.streamKind plan.stream = b.streamKind plan.stream := by
    unfold streamKind
    rw [same]
  unfold touchStream
  rw [kind, same]
  split <;> rfl

theorem consumeGate_eq_ok (gated : consumeGate store plan = .ok next) :
    ∃ rows, next = { store with gateRequestHashes := store.gateRequestHashes ++ rows } := by
  unfold consumeGate at gated
  split at gated
  · cases gated
    exact ⟨[], by simp⟩
  · split at gated
    · cases gated
      exact ⟨_, rfl⟩
    · rw [require_bind_eq_ok] at gated
      obtain ⟨standing, gated⟩ := gated
      cases gated
      exact ⟨[], by simp⟩

theorem insertEnvelope_eq_ok (inserted : insertEnvelope store plan = .ok next) :
    ∃ row, envelopeRow plan = .ok row ∧ store.chainTriggersAdmit row = true ∧
      (∀ other ∈ store.envelopes, ¬ (other.stream = row.stream ∧ other.seq = row.seq) ∧
        other.id ≠ row.id) ∧
      next = { store with envelopes := store.envelopes ++ [row] } := by
  unfold insertEnvelope at inserted
  simp only [bind_eq_ok, require_eq_ok, pure_eq_ok] at inserted
  obtain ⟨row, built, _, admitted, _, free, rfl⟩ := inserted
  refine ⟨row, built, admitted, ?_, rfl⟩
  intro other member
  simpa [imp_iff_not_or] using List.all_eq_true.mp free other member

/-- What appending an envelope the store does not hold makes of the store. -/
structure Appends (store : Store) (plan : AppendPlan) (next : Store) : Prop where
  kind : checkStreamKind store plan = .ok ()
  position : checkPosition store plan = .ok ()
  envelopes : ∃ row, envelopeRow plan = .ok row ∧ store.chainTriggersAdmit row = true ∧
    (∀ other ∈ store.envelopes, ¬ (other.stream = row.stream ∧ other.seq = row.seq) ∧
      other.id ≠ row.id) ∧
    next.envelopes = store.envelopes ++ [row]
  streams : next.streams = (touchStream plan store).streams
  gateRequestHashes : ∃ gated, consumeGate store plan = .ok gated ∧
    next.gateRequestHashes = gated.gateRequestHashes
  mandates : ∃ rows, next.mandates = store.mandates ++ rows ∧
    (∀ row ∈ rows, ∃ mandate, row.WrittenBy plan mandate) ∧
    ∀ row ∈ rows, rows = [row] ∧ store.mandateRow row.mandateId = none
  revocations : ∃ rows, next.revocations = store.revocations ++ rows ∧
    (∀ row ∈ rows, ∃ object, row.WrittenBy plan object) ∧
    ∀ id object, plan.projections.revocation = some (id, object) →
      ∃ row ∈ next.revocations, row.revocationId = id
  policies : ∃ rows, next.policies = store.policies ++ rows ∧
    (∀ row ∈ rows, ∃ document, row.WrittenBy plan document) ∧
    (plan.projections.policy.isSome = true → rows ≠ [])
  manifests : ∃ rows, next.manifests = store.manifests ++ rows
  roots : ∃ rows, ∃ retire : RootRow → RootRow, next.roots = (store.roots ++ rows).map retire ∧
    (∀ row ∈ rows, row.WrittenBy plan) ∧
    (∀ row, (retire row).rootKey = row.rootKey ∧ (retire row).subject = row.subject ∧
      (retire row).enrolledAt = row.enrolledAt) ∧
    (∀ row, retire row = row ∨ (plan.projections.retireRoot = some row.rootKey ∧
      (retire row).retiredAt = plan.envelope.getStr "emitted-at")) ∧
    (plan.projections.retireRoot = none → ∀ row, retire row = row)
  gateDecisions : ∃ rows, next.gateDecisions = store.gateDecisions ++ rows
  streamResumes : ∃ rows, next.streamResumes = store.streamResumes ++ rows ∧
    ResumesBy plan store rows
  checkpoints : ∃ rows, next.checkpoints = store.checkpoints ++ rows ∧
    ∀ row ∈ rows, ∃ claim, row.WrittenBy plan claim
  rejections : next.rejections = store.rejections
  gateRequests : next.gateRequests = store.gateRequests
  payloads : next.payloads = (insertPayloads store plan).payloads ∧
    next.payloadRefs = (insertPayloads store plan).payloadRefs
  manifest : writeManifest plan store = .ok { store with manifests := next.manifests }
  checkpoint : writeCheckpoint plan store = .ok { store with checkpoints := next.checkpoints }
  spend : writeSpend plan store = .ok { store with spend := next.spend }

theorem appendFresh_eq_ok (appended : appendFresh store plan = .ok next) : Appends store plan next := by
  unfold appendFresh writeProjections at appended
  simp only [bind_eq_ok] at appended
  obtain ⟨_, kind, _, position, gated, gate, inserted, envelope, written, ⟨s₁, first, s₂, second, s₃,
    third, s₄, fourth, s₅, fifth, s₆, sixth, s₇, seventh, s₈, eighth, ninth⟩, done⟩ := appended
  obtain ⟨hashes, rfl⟩ := consumeGate_eq_ok gate
  obtain ⟨row, built, admitted, free, rfl⟩ := insertEnvelope_eq_ok envelope
  have inserts := @insertPayloads_of_same store { store with
    gateRequestHashes := store.gateRequestHashes ++ hashes
    envelopes := store.envelopes ++ [row] } plan rfl rfl
  obtain ⟨payloads, payloadRefs, stored⟩ := insertPayloads_eq
    { store with
      gateRequestHashes := store.gateRequestHashes ++ hashes
      envelopes := store.envelopes ++ [row] } plan
  rw [stored] at first inserts
  obtain ⟨mandates, rfl, mandatesBy, unheld⟩ := writeMandate_eq_ok first
  obtain ⟨revocations, rfl, revocationsBy, revoked⟩ := writeRevocation_eq_ok second
  obtain ⟨policies, rfl, policiesBy, published⟩ := writePolicy_eq_ok third
  have manifest := @writeManifest_of_same store _ plan _ fourth rfl
  obtain ⟨manifests, rfl⟩ := writeManifest_eq_ok fourth
  obtain ⟨roots, rfl, rootsBy⟩ := writeEnrollRoot_eq_ok fifth
  obtain ⟨retire, retired, keeps, changes, same⟩ := writeRetireRoot_eq plan
    { store with
      gateRequestHashes := store.gateRequestHashes ++ hashes
      envelopes := store.envelopes ++ [row]
      payloads, payloadRefs
      mandates := store.mandates ++ mandates
      revocations := store.revocations ++ revocations
      policies := store.policies ++ policies
      manifests := store.manifests ++ manifests
      roots := store.roots ++ roots }
  rw [retired] at sixth
  obtain ⟨decisions, rfl⟩ := writeGateDecision_eq_ok sixth
  obtain ⟨resumes, rfl, resumesBy⟩ := writeStreamResume_eq_ok seventh
  have checkpoint := @writeCheckpoint_of_same store _ plan _ eighth rfl
  obtain ⟨checkpoints, rfl, checkpointsBy⟩ := writeCheckpoint_eq_ok eighth
  have charge := @writeSpend_of_same store _ plan _ ninth rfl
  obtain ⟨spend, rfl⟩ := writeSpend_eq_ok ninth
  cases done
  rw [touchStream_eq]
  exact {
    kind
    position
    envelopes := ⟨row, built, admitted, free, rfl⟩
    streams := touchStream_streams plan rfl
    gateRequestHashes := ⟨_, gate, rfl⟩
    mandates := ⟨mandates, rfl, mandatesBy, unheld⟩
    revocations := ⟨revocations, rfl, revocationsBy, revoked⟩
    policies := ⟨policies, rfl, policiesBy, published⟩
    manifests := ⟨manifests, rfl⟩
    roots := ⟨roots, retire, rfl, rootsBy, keeps, changes, same⟩
    gateDecisions := ⟨decisions, rfl⟩
    streamResumes := ⟨resumes, rfl, resumesBy.new, resumesBy.refused, resumesBy.kept, resumesBy.first⟩
    checkpoints := ⟨checkpoints, rfl, checkpointsBy⟩
    rejections := rfl
    gateRequests := rfl
    payloads := inserts
    manifest
    checkpoint
    spend := charge }

end Store

end Stozher
