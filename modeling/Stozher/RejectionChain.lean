import Stozher.History

namespace Stozher

open Library Ingest

variable {ext : External} {config : Config}

/-- What the signature scheme promises of a key: its signatures are 64 octets in hex, and verify. -/
structure Signed.SigningKey.Signs (key : Signed.SigningKey) (ext : External) : Prop where
  hex : ∀ message, Crypto.decodeHex 64 (key.sign message) = .ok (key.sign message)
  verifies : ∀ message, ext.verifyStrict key.id message (key.sign message) = true

namespace Store

theorem canonicalNumber_of_exact {n : Nat} (fits : n < 2 ^ 64) (exactly : n ≤ 2 ^ 53) :
    Jcs.canonicalNumber (.posInt n fits) = .ok (.posInt n fits) := by
  by_cases top : n = 2 ^ 53
  · subst top
    have whole : Binary64.wholeMagnitude (Binary64.ofNat (2 ^ 53)) = some (2 ^ 53) := by decide
    rw [Jcs.canonicalNumber_eq (Binary64.ofNat (2 ^ 53)) rfl (by decide)]
    rw [Number.ofCanonical_posInt whole (by decide) fits]
  · exact Jcs.canonicalNumber_posInt fits (by omega)

/-- A rejection record with its signature in place. -/
def rejectionRecord (signer : Signed.SigningKey) (stream : String) (seq : Nat)
    (prevHash : Option String) (input : RejectionInput) (message : Jcs.Canonical) : Value :=
  .object [
    ("detail", .string input.detail),
    ("identity", .object [("component", .string "kernel"), ("key", .string signer.id.text),
      ("subject", .string "agent:kernel")]),
    ("kind", .string "rejection"),
    ("object-hash", .string input.objectHash),
    ("prev-hash", .ofOption prevHash),
    ("reason", .string input.reason),
    ("received-at", .string input.receivedAt),
    ("seq", .ofNat seq),
    ("sig", .object [("alg", .string "ed25519"), ("key", .string signer.id.text),
      ("value", .string (signer.sign (.canonical message)))]),
    ("stream", .string stream),
    ("submitted-by", .ofOption input.submittedBy),
    ("v", .string Envelope.version)]

variable {signer : Signed.SigningKey} {stream : String} {seq : Nat} {prevHash : Option String}
  {input : RejectionInput} {record : Value} {message : Jcs.Canonical}

theorem signObject_rejection
    (signed : Signed.signObject signer (rejectionBody signer.id stream seq prevHash input) = .ok record) :
    ∃ message, Jcs.canonicalize (rejectionBody signer.id stream seq prevHash input) = .ok message ∧
      record = rejectionRecord signer stream seq prevHash input message := by
  unfold Signed.signObject rejectionBody at signed
  simp only [Value.asObject, okOr, ok_bind, bind_eq_ok, pure_eq_ok] at signed
  obtain ⟨message, canonical, rfl⟩ := signed
  refine ⟨message, canonical, ?_⟩
  simp only [Members.insert, rejectionRecord, List.filter, List.takeWhile, List.dropWhile,
    String.reduceBNe, String.reduceLT, decide_true, decide_false, List.cons_append, List.nil_append]

theorem writeValue_ofOption (text : Option String) :
    Jcs.writeValue (.ofOption text) = .ok (.ofOption text) := by
  cases text <;> rfl

/-- A record below the bound is its own canonical form. -/
theorem canonicalize_rejection (exactly : seq ≤ 2 ^ 53) :
    Jcs.canonicalize (rejectionRecord signer stream seq prevHash input message) =
      .ok { tree := rejectionRecord signer stream seq prevHash input message } := by
  have number : Jcs.writeValue (.ofNat seq) = .ok (.ofNat seq) := by
    unfold Value.ofNat
    rw [dif_pos (by omega), Jcs.writeValue, canonicalNumber_of_exact (by omega) exactly]
    rfl
  unfold rejectionRecord Jcs.canonicalize
  simp only [Jcs.writeValue, Jcs.writeMembers, number, writeValue_ofOption, ok_bind]
  rfl

theorem verifySignedObject_rejection (signs : signer.Signs ext)
    (canonical : Jcs.canonicalize (rejectionBody signer.id stream seq prevHash input) = .ok message) :
    Signed.verifySignedObject ext (rejectionRecord signer stream seq prevHash input message) =
      .ok signer.id := by
  have declared : Signed.declaredSigner (rejectionRecord signer stream seq prevHash input message) =
      .ok signer.id := by
    simp [Signed.declaredSigner, rejectionRecord, Value.get, Value.asObject, Members.get, Value.asStr,
      okOr, Signed.checkAlg, KeyId.parse_self]
  have value : ((rejectionRecord signer stream seq prevHash input message).get "sig").bind
      (·.getStr "value") = some (signer.sign (.canonical message)) := by
    simp [rejectionRecord, Value.get, Value.getStr, Value.asObject, Members.get, Value.asStr]
  have body : Signed.signingInput (rejectionRecord signer stream seq prevHash input message) =
      .ok message := by
    rw [← canonical]
    simp [Signed.signingInput, rejectionRecord, rejectionBody, Value.asObject, okOr]
  unfold Signed.verifySignedObject
  rw [declared, ok_bind, value]
  simp only [okOr, ok_bind, signs.hex, Except.mapError, body, signs.verifies, require]
  rfl

theorem verifyRejection_record (stream : String) (signs : signer.Signs ext) (exactly : seq ≤ 2 ^ 53)
    (canonical : Jcs.canonicalize (rejectionBody signer.id stream seq prevHash input) = .ok message) :
    verifyRejection ext stream seq prevHash (rejectionRecord signer stream seq prevHash input message) =
      Signed.objectId ext (rejectionRecord signer stream seq prevHash input message) := by
  have hasSeq : (rejectionRecord signer stream seq prevHash input message).getU64 "seq" = some seq := by
    unfold rejectionRecord Value.ofNat
    rw [dif_pos (by omega)]
    simp [Value.getU64, Value.get, Value.asObject, Members.get, Value.asU64, Number.asU64]
  have hasStream : (rejectionRecord signer stream seq prevHash input message).getStr "stream" =
      some stream := by
    simp [rejectionRecord, Value.getStr, Value.get, Value.asObject, Members.get, Value.asStr]
  have hasPrevious : (rejectionRecord signer stream seq prevHash input message).getStr "prev-hash" =
      prevHash := by
    simp only [rejectionRecord, Value.getStr, Value.get, Value.asObject, Members.get, Value.asStr]
    cases prevHash <;> rfl
  have previous : ∀ at_, checkPreviousRejection at_ prevHash prevHash = .ok () := by
    intro at_
    cases prevHash with
    | none => rfl
    | some id => simp [checkPreviousRejection, require]
  unfold verifyRejection
  simp only [hasSeq, hasStream, hasPrevious, previous, verifySignedObject_rejection signs canonical,
    Option.getD_some, Except.mapError, ok_bind, require, if_true]

theorem verifyRejectionChain_append {first second : List Value} {expected : Nat}
    {previous middle : Option String} (verified : verifyRejectionChain ext stream expected previous first =
      .ok middle) :
    verifyRejectionChain ext stream expected previous (first ++ second) =
      verifyRejectionChain ext stream (expected + first.length) middle second := by
  induction first generalizing expected previous with
  | nil =>
      cases verified
      rfl
  | cons record rest ih =>
      rw [verifyRejectionChain, bind_eq_ok] at verified
      obtain ⟨id, link, others⟩ := verified
      rw [List.cons_append, verifyRejectionChain, link, ok_bind, ih others, List.length_cons,
        Nat.add_assoc, Nat.add_comm 1]

/-- A record chain in order of its positions, which verifies to its last record. -/
structure RejectionsOk (ext : External) (config : Config) (rows : List RejectionRow) : Prop where
  seqs : rows.map RejectionRow.seq = List.range rows.length
  streams : ∀ row ∈ rows, row.stream = config.rejectionStream
  verified : verifyRejectionChain ext config.rejectionStream 0 none
    (rows.map fun row => row.recordJson.tree) = .ok (rows.getLast?.map RejectionRow.id)

theorem RejectionsOk.increasing {rows : List RejectionRow} (chain : RejectionsOk ext config rows) :
    rows.Pairwise fun a b => a.seq < b.seq := by
  rw [← List.pairwise_map, chain.seqs]
  exact List.pairwise_lt_range

/-- Where the next record goes. -/
theorem RejectionsOk.head {rows : List RejectionRow} (chain : RejectionsOk ext config rows) :
    Table.topBy RejectionRow.seq (rows.filter fun row => row.stream == config.rejectionStream) =
      rows.getLast? := by
  have all : rows.filter (fun row => row.stream == config.rejectionStream) = rows := by
    rw [List.filter_eq_self]
    intro row member
    simp [chain.streams row member]
  rw [all, Table.topBy_of_increasing chain.increasing]

theorem RejectionsOk.seqAfter_head {rows : List RejectionRow} (chain : RejectionsOk ext config rows) :
    seqAfter rows.getLast? = rows.length := by
  rcases List.eq_nil_or_concat rows with rfl | ⟨before, last, rfl⟩
  · rfl
  · rw [List.concat_eq_append] at chain ⊢
    have seqs := chain.seqs
    rw [List.map_append, List.length_append, List.length_singleton, List.range_succ] at seqs
    have top := (List.append_inj' seqs rfl).2
    simp only [List.map_cons, List.map_nil, List.cons.injEq, and_true] at top
    rw [List.getLast?_concat, List.length_append, List.length_singleton, seqAfter, top]

/-- The record a refusal adds to some others. -/
structure NextRejection (ext : External) (config : Config) (rows : List RejectionRow) (row : RejectionRow) : Prop where
  seq : row.seq = rows.length
  stream : row.stream = config.rejectionStream
  prevHash : row.prevHash = rows.getLast?.map RejectionRow.id
  identified : Signed.objectId ext row.recordJson.tree = .ok row.id
  verified : config.kernelKey.Signs ext → verifyRejection ext config.rejectionStream rows.length
    (rows.getLast?.map RejectionRow.id) row.recordJson.tree = .ok row.id

theorem recordRejection_next {store next : Store} {recorded : RejectionRecord}
    (chain : RejectionsOk ext config store.rejections) (counted : store.rejections.length ≤ 2 ^ 53)
    (done : store.recordRejection ext config.rejectionStream config.kernelKey input =
      .ok (next, recorded)) :
    ∃ row, next.rejections = store.rejections ++ [row] ∧ NextRejection ext config store.rejections row := by
  unfold recordRejection at done
  rw [chain.head] at done
  dsimp only at done
  rw [chain.seqAfter_head] at done
  simp only [bind_eq_ok, require_eq_ok, pure_eq_ok, Prod.mk.injEq] at done
  obtain ⟨record, signed, canonical, form, id, hashed, _, _, rfl, _⟩ := done
  obtain ⟨message, body, rfl⟩ := signObject_rejection signed
  rw [canonicalize_rejection counted] at form
  cases form
  refine ⟨_, rfl, saturate_of_lt (show store.rejections.length < 2 ^ 63 by omega), rfl, rfl, hashed, ?_⟩
  intro signs
  exact (verifyRejection_record config.rejectionStream signs counted body).trans hashed

theorem RejectionsOk.snoc {rows : List RejectionRow} {row : RejectionRow} (chain : RejectionsOk ext config rows)
    (signs : config.kernelKey.Signs ext) (next : NextRejection ext config rows row) :
    RejectionsOk ext config (rows ++ [row]) := by
  constructor
  · rw [List.map_append, chain.seqs, List.length_append, List.length_singleton, List.range_succ]
    simp only [List.map_cons, List.map_nil, next.seq]
  · intro other member
    rcases List.mem_append.mp member with earlier | new
    · exact chain.streams other earlier
    · rw [List.mem_singleton.mp new]
      exact next.stream
  · rw [List.map_append, verifyRejectionChain_append chain.verified, List.getLast?_concat,
      List.map_cons, List.map_nil, verifyRejectionChain, List.length_map, Nat.zero_add, next.verified signs, ok_bind]
    rfl

theorem Quiet.rejections {store next : Store} (quiet : Quiet ext config store next) :
    next.rejections = store.rejections ∨ ∃ input recorded,
      store.recordRejection ext config.rejectionStream config.kernelKey input = .ok (next, recorded) := by
  cases quiet with
  | rejected input recorded next done => exact Or.inr ⟨input, recorded, done⟩
  | same => exact Or.inl rfl
  | parked rows => exact Or.inl rfl
  | decayed now => exact Or.inl rfl
  | seeded rootKey subject enrolledAt =>
      unfold seedConfiguredRoot
      split <;> exact Or.inl rfl

end Store

namespace World

theorem StepTo.rejections {world next : World} {action : Action} (step : StepTo ext config world action next) :
    next.store.rejections = world.store.rejections ∨ ∃ input recorded,
      world.store.recordRejection ext config.rejectionStream config.kernelKey input = .ok (next.store, recorded) ∧
        next.store.rejections.length = world.store.rejections.length + 1 := by
  cases step with
  | quiet store accepted tasks =>
      rcases store.rejections with same | ⟨input, recorded, done⟩
      · exact .inl same
      · obtain ⟨row, after, _⟩ := Store.recordRejection_eq_ok done
        refine .inr ⟨input, recorded, done, ?_⟩
        rw [after, List.length_append, List.length_singleton]
  | appends request snapshot validated waiting fresh store accepted tasks => exact .inl store.rejections

/-- The kernel's own chain of refusals verifies as long as its positions are exact numbers. -/
theorem rejections {world : World} (signs : config.kernelKey.Signs ext)
    (reached : (kernel ext config).Reachable world) :
    world.store.rejections.length ≤ 2 ^ 53 + 1 →
      Store.RejectionsOk ext config world.store.rejections := by
  refine World.invariant ext config (fun world =>
    world.store.rejections.length ≤ 2 ^ 53 + 1 → Store.RejectionsOk ext config world.store.rejections)
    ?_ ?_ reached
  · intro _
    exact ⟨rfl, (by intro row member; cases member), rfl⟩
  · intro world _ next _ holds step counted
    rcases step.rejections with same | ⟨input, recorded, done, longer⟩
    · rw [same] at counted ⊢
      exact holds counted
    · have chain := holds (by omega)
      obtain ⟨row, after, written⟩ := Store.recordRejection_next chain (by omega) done
      rw [after]
      exact chain.snoc signs written

theorem verifyRejectionChain_held {world : World} (signs : config.kernelKey.Signs ext)
    (reached : (kernel ext config).Reachable world)
    (counted : world.store.rejections.length ≤ 2 ^ 53 + 1) :
    ∃ last, Store.verifyRejectionChain ext config.rejectionStream 0 none world.store.rejectionChain =
      .ok last := by
  have chain := rejections signs reached counted
  have sorted : world.store.rejections.insertionSort (fun a b => a.seq ≤ b.seq) =
      world.store.rejections :=
    List.Pairwise.insertionSort_eq (chain.increasing.imp fun less => le_of_lt less)
  refine ⟨world.store.rejections.getLast?.map RejectionRow.id, ?_⟩
  unfold Store.rejectionChain
  rw [sorted]
  exact chain.verified

end World

end Stozher
