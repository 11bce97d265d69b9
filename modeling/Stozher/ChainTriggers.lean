import Stozher.Resumes

namespace Stozher

open Library Ingest

variable {ext : External} {config : Config}

/-- The columns of an offered row that place it in a chain. A position is a 64-bit integer. -/
structure Candidate where
  stream : String
  seq : Int
  prevHash : Option String
  lower : -2 ^ 63 ≤ seq
  upper : seq < 2 ^ 63

/-- An envelope that carries what a candidate offers. -/
structure Candidate.Of (candidate : Candidate) (plan : AppendPlan) : Prop where
  stream : plan.stream = candidate.stream
  seq : (plan.seq : Int) = candidate.seq
  prevHash : plan.prevHash = candidate.prevHash

/-- A bare envelope that carries what a candidate offers, where the position is one an envelope can have. -/
def Candidate.plan (candidate : Candidate) (natural : 0 ≤ candidate.seq) : AppendPlan where
  envelope := .object [
    ("prev-hash", .ofOption candidate.prevHash),
    ("seq", .nat candidate.seq.toNat (by have upper := candidate.upper; omega)),
    ("stream", .string candidate.stream)]
  id := ""
  canonicalJson := { tree := .null }
  streamKind := .effect
  receivedAt := ""
  humanRoot := none
  effectiveClass := none
  policyViolation := none
  payloads := []
  gateUse := none
  projections := .none
  spend := none

theorem Candidate.plan_of (candidate : Candidate) (natural : 0 ≤ candidate.seq) :
    candidate.Of (candidate.plan natural) where
  stream := rfl
  seq := Int.toNat_of_nonneg natural
  prevHash := by
    show (Value.ofOption candidate.prevHash).asStr = candidate.prevHash
    cases candidate.prevHash with
    | none => rfl
    | some hash => rfl

namespace Store

variable {store next : Store} {candidate : Candidate} {plan : AppendPlan}

/-- `envelopes_insert_must_extend_the_chain`, as schema step 7 leaves it. -/
def insertMustExtendTheChain (store : Store) (candidate : Candidate) : Bool :=
  decide (candidate.seq ≤ 0)
    || (store.envelopes.any fun other =>
        other.stream == candidate.stream && (other.seq : Int) == candidate.seq - 1
          && some other.id == candidate.prevHash)
    || store.streamResumes.any fun resume =>
        resume.stream == candidate.stream && (resume.resumeSeq : Int) == candidate.seq - 1
          && some resume.bridgeHash == candidate.prevHash

/-- `envelopes_insert_at_seq_zero_starts_a_stream`. -/
def insertAtSeqZeroStartsAStream (store : Store) (candidate : Candidate) : Bool :=
  candidate.seq != 0
    || (candidate.prevHash.isNone && !(store.envelopes.any fun other => other.stream == candidate.stream))

/-- `PRIMARY KEY (stream, seq)`. -/
def primaryKeyFree (store : Store) (candidate : Candidate) : Bool :=
  store.envelopes.all fun other => !(other.stream == candidate.stream && (other.seq : Int) == candidate.seq)

/-- Whether the database lets a row into the chain of its stream. -/
def databaseAdmits (store : Store) (candidate : Candidate) : Bool :=
  store.insertMustExtendTheChain candidate && store.insertAtSeqZeroStartsAStream candidate
    && store.primaryKeyFree candidate

/-- Whether the position check of an append passes an envelope that carries what the candidate offers. -/
def AppendTakes (store : Store) (candidate : Candidate) : Prop :=
  ∃ plan, candidate.Of plan ∧ store.checkPosition plan = .ok ()

def Vacant (store : Store) (candidate : Candidate) : Prop :=
  ∀ row ∈ store.ofStream candidate.stream, (row.seq : Int) ≠ candidate.seq

/-- The candidate names the envelope right before it. -/
def NamesRow (store : Store) (candidate : Candidate) : Prop :=
  ∃ row ∈ store.ofStream candidate.stream, (row.seq : Int) + 1 = candidate.seq ∧ candidate.prevHash = some row.id

/-- The candidate names the bridge over the position right before it. -/
def NamesBridge (store : Store) (candidate : Candidate) : Prop :=
  ∃ (position : Nat) (hash : String), (position : Int) + 1 = candidate.seq ∧ candidate.prevHash = some hash ∧
    store.Bridges candidate.stream position hash

/-- The candidate names the last envelope of its stream, right before it. -/
def NamesHead (store : Store) (candidate : Candidate) : Prop :=
  ∃ headSeq headId, store.streamHead candidate.stream = some (headSeq, headId) ∧
    (headSeq : Int) + 1 = candidate.seq ∧ candidate.prevHash = some headId

/-- A vacant position below the end of the stream, offered an envelope that chains onto the one before it. -/
structure FillsHole (store : Store) (candidate : Candidate) : Prop where
  vacant : store.Vacant candidate
  names : store.NamesRow candidate
  below : ∃ later ∈ store.ofStream candidate.stream, candidate.seq < later.seq

/-- A bridge over a position that is not the first one past the end of the stream. -/
structure StaleBridge (store : Store) (candidate : Candidate) : Prop where
  vacant : store.Vacant candidate
  names : store.NamesBridge candidate
  elsewhere : candidate.seq ≠ store.bridgeableAt candidate.stream
  unchained : ¬store.NamesHead candidate

/-- The triggers read of a row what they read of a candidate. -/
theorem chainTriggersAdmit_eq {row : EnvelopeRow} (stream : candidate.stream = row.stream)
    (seq : candidate.seq = row.seq) (prevHash : candidate.prevHash = row.prevHash) :
    store.chainTriggersAdmit row =
      (store.insertMustExtendTheChain candidate && store.insertAtSeqZeroStartsAStream candidate) := by
  unfold chainTriggersAdmit insertMustExtendTheChain insertAtSeqZeroStartsAStream
  rw [stream, seq, prevHash]
  by_cases positive : 0 < row.seq
  · have before : ∀ position : Nat, ((position : Int) == (row.seq : Int) - 1) = (position == row.seq - 1) := by
      intro position
      rw [Bool.eq_iff_iff, beq_iff_eq, beq_iff_eq]
      omega
    have apart : ((row.seq : Int) != 0) = true := by
      rw [bne_iff_ne]
      omega
    have nonzero : decide ((row.seq : Int) ≤ 0) = false := by
      rw [decide_eq_false_iff_not]
      omega
    rw [if_pos positive, apart, nonzero]
    simp only [before, Bool.false_or, Bool.true_or, Bool.and_true]
  · have zero : row.seq = 0 := by omega
    rw [if_neg positive, zero]
    simp

theorem primaryKeyFree_iff : store.primaryKeyFree candidate = true ↔ store.Vacant candidate := by
  unfold primaryKeyFree Vacant
  simp only [List.all_eq_true, Bool.not_eq_true', Bool.and_eq_false_iff, beq_eq_false_iff_ne, mem_ofStream]
  constructor
  · rintro free row ⟨member, same⟩
    rcases free row member with other | other
    · exact absurd same other
    · exact other
  · intro vacant row member
    by_cases same : row.stream = candidate.stream
    · exact .inr (vacant row ⟨member, same⟩)
    · exact .inl same

theorem insertMustExtendTheChain_iff : store.insertMustExtendTheChain candidate = true ↔
    (0 < candidate.seq → store.NamesRow candidate ∨ store.NamesBridge candidate) := by
  have row : (store.envelopes.any fun other =>
      other.stream == candidate.stream && (other.seq : Int) == candidate.seq - 1
        && some other.id == candidate.prevHash) = true ↔ store.NamesRow candidate := by
    unfold NamesRow
    simp only [List.any_eq_true, Bool.and_eq_true, beq_iff_eq, mem_ofStream]
    constructor
    · rintro ⟨other, member, ⟨stream, seq⟩, id⟩
      exact ⟨other, ⟨member, stream⟩, by omega, id.symm⟩
    · rintro ⟨other, ⟨member, stream⟩, seq, id⟩
      exact ⟨other, member, ⟨stream, by omega⟩, id.symm⟩
  have bridge : (store.streamResumes.any fun resume =>
      resume.stream == candidate.stream && (resume.resumeSeq : Int) == candidate.seq - 1
        && some resume.bridgeHash == candidate.prevHash) = true ↔ store.NamesBridge candidate := by
    unfold NamesBridge Bridges
    simp only [List.any_eq_true, Bool.and_eq_true, beq_iff_eq]
    constructor
    · rintro ⟨resume, member, ⟨stream, seq⟩, hash⟩
      exact ⟨resume.resumeSeq, resume.bridgeHash, by omega, hash.symm, resume, member, stream, rfl, rfl⟩
    · rintro ⟨_, _, seq, hash, resume, member, stream, rfl, rfl⟩
      exact ⟨resume, member, ⟨stream, by omega⟩, hash.symm⟩
  unfold insertMustExtendTheChain
  rw [Bool.or_eq_true, Bool.or_eq_true, row, bridge, decide_eq_true_iff, or_assoc, ← not_lt]
  exact Iff.symm Decidable.imp_iff_not_or

theorem insertAtSeqZeroStartsAStream_iff : store.insertAtSeqZeroStartsAStream candidate = true ↔
    (candidate.seq = 0 → candidate.prevHash = none ∧ store.streamHead candidate.stream = none) := by
  have empty : (!(store.envelopes.any fun other => other.stream == candidate.stream)) = true ↔
      store.streamHead candidate.stream = none := by
    unfold streamHead ofStream
    rw [Option.map_eq_none_iff, Table.topBy_eq_none, List.filter_eq_nil_iff, Bool.not_eq_true',
      List.any_eq_false]
  unfold insertAtSeqZeroStartsAStream
  rw [Bool.or_eq_true, Bool.and_eq_true, empty, bne_iff_ne, Option.isNone_iff_eq_none]
  exact Iff.symm Decidable.imp_iff_not_or

theorem databaseAdmits_iff : store.databaseAdmits candidate = true ↔ store.Vacant candidate ∧
    (0 < candidate.seq → store.NamesRow candidate ∨ store.NamesBridge candidate) ∧
    (candidate.seq = 0 → candidate.prevHash = none ∧ store.streamHead candidate.stream = none) := by
  unfold databaseAdmits
  rw [Bool.and_eq_true, Bool.and_eq_true, insertMustExtendTheChain_iff, insertAtSeqZeroStartsAStream_iff,
    primaryKeyFree_iff, and_comm]

/-- A lookup finds the bridge of every recorded resume. -/
def BridgesFound (store : Store) : Prop :=
  ∀ row ∈ store.streamResumes, row.resumeSeq < 2 ^ 63 ∧
    store.streamResume row.stream row.resumeSeq = some row.bridgeHash

theorem saturate_idem (n : Nat) : saturate (saturate n) = saturate n := by
  unfold saturate
  omega

theorem streamResume_saturate (store : Store) (stream : String) (position : Nat) :
    store.streamResume stream (saturate position) = store.streamResume stream position := by
  unfold streamResume
  rw [saturate_idem]

theorem BridgesFound.append (found : store.BridgesFound) (appends : Appends store plan next) :
    next.BridgesFound := by
  obtain ⟨rows, resumes, by_⟩ := appends.streamResumes
  intro row member
  rw [resumes] at member
  rcases List.mem_append.mp member with earlier | new
  · obtain ⟨small, bridge⟩ := found row earlier
    exact ⟨small, streamResume_grows ⟨rows, resumes.symm⟩ bridge⟩
  · obtain ⟨resume, written⟩ := by_.new row new
    have bridge := by_.bridge resumes written.projected
    have first : store.streamResume resume.stream resume.resumeSeq = none := by
      cases held : store.streamResume resume.stream resume.resumeSeq with
      | none => rfl
      | some hash =>
          rw [by_.kept resume hash written.projected held] at new
          cases new
    rw [first, Option.getD_none, ← written.stream, ← written.bridgeHash] at bridge
    rw [written.resumeSeq, streamResume_saturate]
    refine ⟨?_, bridge⟩
    unfold saturate
    omega

/-- Where every recorded bridge is found, a candidate names one exactly when a lookup finds it. -/
theorem BridgesFound.streamResume (found : store.BridgesFound) {stream hash : String} {position : Nat}
    (bridges : store.Bridges stream position hash) : store.streamResume stream position = some hash := by
  obtain ⟨row, member, rfl, rfl, rfl⟩ := bridges
  exact (found row member).2

/-- What an append takes, the database admits. -/
theorem databaseAdmits_of_position (position : Position store plan) (of : candidate.Of plan) :
    store.databaseAdmits candidate = true := by
  have upper := candidate.upper
  have seq := of.seq
  rw [databaseAdmits_iff]
  refine ⟨?_, ?_, ?_⟩
  · intro row member same
    obtain ⟨held, stream⟩ := mem_ofStream.mp member
    exact seq_free_of_position position held (stream.trans of.stream.symm) (by omega)
  · intro positive
    cases position with
    | first _ zero _ => omega
    | firstBridged hash _ one resumed prevHash =>
        rw [of.stream] at resumed
        rw [of.prevHash] at prevHash
        exact .inr ⟨0, hash, by omega, prevHash, streamResume_bridges (by decide) resumed⟩
    | next headSeq headId head after prevHash =>
        rw [of.stream] at head
        rw [of.prevHash] at prevHash
        obtain ⟨⟨row, member, rfl, rfl⟩, _⟩ := head_mem head
        exact .inl ⟨row, member, by omega, prevHash⟩
    | nextBridged headSeq headId hash _ after resumed prevHash =>
        rw [of.stream] at resumed
        rw [of.prevHash] at prevHash
        exact .inr ⟨headSeq + 1, hash, by omega, prevHash, streamResume_bridges (by omega) resumed⟩
  · intro zero
    cases position with
    | first empty _ prevHash => exact ⟨of.prevHash.symm.trans prevHash, of.stream ▸ empty⟩
    | firstBridged => omega
    | next => omega
    | nextBridged => omega

/-- An append fills no hole. -/
theorem not_fillsHole_of_position (position : Position store plan) (of : candidate.Of plan) :
    ¬store.FillsHole candidate := by
  intro fills
  obtain ⟨later, member, below⟩ := fills.below
  have seq := of.seq
  rw [← of.stream] at member
  cases position with
  | first empty _ _ =>
      rw [ofStream_empty empty] at member
      cases member
  | firstBridged _ empty _ _ _ =>
      rw [ofStream_empty empty] at member
      cases member
  | next _ _ head after _ =>
      have least := (head_mem head).2 later member
      omega
  | nextBridged _ _ _ head after _ _ =>
      have least := (head_mem head).2 later member
      omega

/-- An append crosses no bridge but the one right past the end of its stream. -/
theorem not_staleBridge_of_position (position : Position store plan) (of : candidate.Of plan) :
    ¬store.StaleBridge candidate := by
  intro stale
  have seq := of.seq
  have elsewhere := stale.elsewhere
  rw [← of.stream] at elsewhere
  unfold bridgeableAt at elsewhere
  cases position with
  | first _ zero _ =>
      obtain ⟨position, _, positive, _⟩ := stale.names
      omega
  | firstBridged _ empty one _ _ =>
      rw [empty] at elsewhere
      dsimp only at elsewhere
      omega
  | next headSeq headId head after prevHash =>
      rw [of.stream] at head
      rw [of.prevHash] at prevHash
      exact stale.unchained ⟨headSeq, headId, head, by omega, prevHash⟩
  | nextBridged _ _ _ head after _ _ =>
      rw [head] at elsewhere
      dsimp only at elsewhere
      omega

/-- What the database admits at a position an envelope can have, an append takes, or it fills a hole, or it
crosses a stale bridge. -/
theorem position_of_databaseAdmits (chain : ChainOk store candidate.stream) (found : store.BridgesFound)
    (of : candidate.Of plan) (admitted : store.databaseAdmits candidate = true) :
    Position store plan ∨ store.FillsHole candidate ∨ store.StaleBridge candidate := by
  have seq := of.seq
  obtain ⟨vacant, extends_, starts⟩ := databaseAdmits_iff.mp admitted
  by_cases zero : candidate.seq = 0
  · obtain ⟨prevHash, empty⟩ := starts zero
    rw [← of.stream] at empty
    exact .inl (.first empty (by omega) (of.prevHash.trans prevHash))
  · rcases extends_ (by omega) with names | names
    · obtain ⟨row, member, before, prevHash⟩ := names
      cases head : store.streamHead candidate.stream with
      | none =>
          rw [ofStream_empty head] at member
          cases member
      | some pair =>
          obtain ⟨headSeq, headId⟩ := pair
          obtain ⟨⟨top, inside, rfl, rfl⟩, most⟩ := head_mem head
          have least := most row member
          have free := vacant top inside
          by_cases last : top.seq = row.seq
          · have same : top = row := Table.eq_of_increasing chain.increasing inside member last
            rw [← of.stream] at head
            rw [← same] at prevHash
            exact .inl (.next top.seq top.id head (by omega) (of.prevHash.trans prevHash))
          · exact .inr (.inl ⟨vacant, ⟨row, member, before, prevHash⟩, top, inside, by omega⟩)
    · by_cases here : candidate.seq = store.bridgeableAt candidate.stream
      · obtain ⟨position, hash, before, prevHash, bridges⟩ := names
        have resumed := found.streamResume bridges
        have crossing : plan.seq = store.bridgeableAt plan.stream := by
          rw [of.stream]
          omega
        refine .inl ((position_at_bridge crossing).mpr ⟨hash, ?_, of.prevHash.trans prevHash⟩)
        rw [of.stream, show plan.seq - 1 = position by omega, resumed]
      · by_cases chained : store.NamesHead candidate
        · obtain ⟨headSeq, headId, head, after, prevHash⟩ := chained
          rw [← of.stream] at head
          exact .inl (.next headSeq headId head (by omega) (of.prevHash.trans prevHash))
        · exact .inr (.inr ⟨vacant, names, here, chained⟩)

theorem appendTakes_iff (chain : ChainOk store candidate.stream) (found : store.BridgesFound)
    (natural : 0 ≤ candidate.seq) : store.AppendTakes candidate ↔
      store.databaseAdmits candidate = true ∧ ¬store.FillsHole candidate ∧ ¬store.StaleBridge candidate := by
  constructor
  · rintro ⟨plan, of, passed⟩
    have position := checkPosition_eq_ok.mp passed
    exact ⟨databaseAdmits_of_position position of, not_fillsHole_of_position position of,
      not_staleBridge_of_position position of⟩
  · rintro ⟨admitted, unfilled, fresh⟩
    have of := candidate.plan_of natural
    rcases position_of_databaseAdmits chain found of admitted with position | fills | stale
    · exact ⟨_, of, checkPosition_eq_ok.mpr position⟩
    · exact absurd fills unfilled
    · exact absurd stale fresh

theorem FillsHole.admitted (fills : store.FillsHole candidate) : store.databaseAdmits candidate = true := by
  obtain ⟨row, _, before, _⟩ := fills.names
  rw [databaseAdmits_iff]
  exact ⟨fills.vacant, fun _ => .inl fills.names, fun zero => by omega⟩

theorem StaleBridge.admitted (stale : store.StaleBridge candidate) : store.databaseAdmits candidate = true := by
  obtain ⟨position, _, before, _⟩ := stale.names
  rw [databaseAdmits_iff]
  exact ⟨stale.vacant, fun _ => .inr stale.names, fun zero => by omega⟩

theorem admitted_of_negative (negative : candidate.seq < 0) : store.databaseAdmits candidate = true := by
  rw [databaseAdmits_iff]
  refine ⟨?_, fun positive => ?_, fun zero => ?_⟩
  · intro row _ same
    omega
  · omega
  · omega

theorem not_appendTakes_of_negative (negative : candidate.seq < 0) : ¬store.AppendTakes candidate := by
  rintro ⟨plan, of, _⟩
  have seq := of.seq
  omega

end Store

namespace World

variable {world : World}

theorem bridgesFound (reached : (kernel ext config).Reachable world) : world.store.BridgesFound := by
  refine World.invariant ext config (fun world => world.store.BridgesFound) ?_ ?_ reached
  · intro row member
    cases member
  · intro world action next known found step
    cases step with
    | quiet store accepted tasks =>
        unfold Store.BridgesFound Store.streamResume
        rw [store.envelopes.2.2.2.2.2.2.2.2.1]
        exact found
    | appends request snapshot validated waiting fresh store accepted tasks => exact found.append store

/-- Whatever an append takes the database admits, and it admits nothing else but a negative position, a filled
hole and a stale bridge. -/
theorem chain_triggers_agree_iff (reached : (kernel ext config).Reachable world) (candidate : Candidate) :
    (world.store.AppendTakes candidate → world.store.databaseAdmits candidate = true) ∧
      ((world.store.databaseAdmits candidate = true ↔ world.store.AppendTakes candidate) ↔
        0 ≤ candidate.seq ∧ ¬world.store.FillsHole candidate ∧ ¬world.store.StaleBridge candidate) := by
  by_cases natural : 0 ≤ candidate.seq
  · have takes := Store.appendTakes_iff (chains reached candidate.stream) (bridgesFound reached) natural
    refine ⟨fun taken => (takes.mp taken).1, ?_⟩
    constructor
    · intro agree
      refine ⟨natural, fun fills => ?_, fun stale => ?_⟩
      · exact (takes.mp (agree.mp fills.admitted)).2.1 fills
      · exact (takes.mp (agree.mp stale.admitted)).2.2 stale
    · rintro ⟨_, unfilled, fresh⟩
      rw [takes]
      exact ⟨fun admitted => ⟨admitted, unfilled, fresh⟩, And.left⟩
  · have negative : candidate.seq < 0 := by omega
    have never : ¬world.store.AppendTakes candidate := Store.not_appendTakes_of_negative negative
    refine ⟨fun taken => absurd taken never, ?_⟩
    constructor
    · intro agree
      exact absurd (agree.mp (Store.admitted_of_negative negative)) never
    · rintro ⟨positive, _⟩
      exact absurd positive natural

end World

end Stozher

namespace Stozher.Deployment

open Library Ingest World

/-- The next note of a stream that holds none. -/
def genesisNote : Candidate where
  stream := "ops:notes"
  seq := 0
  prevHash := none
  lower := by decide
  upper := by decide

theorem genesis_agreed : (after founding).store.databaseAdmits genesisNote = true ↔
    (after founding).store.AppendTakes genesisNote := by
  refine (chain_triggers_agree_iff (reachable founding) genesisNote).2.mpr ⟨by decide, ?_, ?_⟩
  · intro fills
    obtain ⟨row, _, before, _⟩ := fills.names
    change (row.seq : Int) + 1 = 0 at before
    omega
  · intro stale
    obtain ⟨position, _, before, _⟩ := stale.names
    change (position : Int) + 1 = 0 at before
    omega

/-- What a performed append that was seen to pass writes. -/
theorem appends_of_offered {world : World} {index : Nat} {seen : Offered} (found : offered world index = some seen)
    (unknown : seen.known = false) (passes : seen.refusal = none) : ∃ plan : AppendPlan, plan.stream = seen.stream ∧
      plan.seq = seen.seq ∧ world.store.Appends plan (World.step ext config world (.perform index)).store := by
  obtain ⟨plan, planned, rfl⟩ := Option.map_eq_some_iff.mp found
  obtain ⟨request, snapshot, validated, task, rfl⟩ := planAt_eq_some planned
  have fresh : world.store.envelopeById validated.plan.id = none := by
    cases held : world.store.envelopeById validated.plan.id with
    | none => rfl
    | some row =>
        dsimp only at unknown
        rw [held] at unknown
        cases unknown
  obtain ⟨⟨store, appended⟩, done⟩ := isOk_iff.mp (refusal_eq_none.mp passes)
  refine ⟨validated.plan, rfl, rfl, ?_⟩
  rw [perform_store task done]
  exact (Store.append_fresh fresh done).1

/-- A note chained onto the first one, at the position that was refused and resumed. -/
def fillingNote : Candidate where
  stream := "ops:notes"
  seq := 1
  prevHash := some firstNote.digest
  lower := by decide
  upper := by decide

/-- The refused position is resumed and crossed, and the database lets a row into it. -/
theorem resumed_position_insertable : ∃ world : World, (kernel ext config).Reachable world ∧
    world.ResumeAccepted "ops:notes" 1 ∧ world.store.databaseAdmits fillingNote = true ∧
      ¬world.store.AppendTakes fillingNote := by
  have bridged := congrArg Observed.bridged observed_eq
  dsimp only [observed] at bridged
  obtain ⟨plan, stream, seq, appends⟩ := appends_of_offered bridged rfl rfl
  have head := congrArg StreamSeen.head bridging_seen
  have resumes := congrArg StreamSeen.resumes bridging_seen
  dsimp only [streamSeen] at head resumes
  obtain ⟨⟨first, member, firstSeq, firstId⟩, most⟩ := Store.head_mem head
  obtain ⟨row, built, _, _, envelopes⟩ := appends.envelopes
  have of := Store.envelopeRow_eq_ok built
  have here : row.stream = "ops:notes" := of.stream.trans stream
  have second : row.seq = 2 := by
    rw [of.seq, seq]
    rfl
  have rows := Store.ofStream_append "ops:notes" envelopes
  rw [if_pos here] at rows
  have fills : (World.step ext config (after resumed) (.perform 1)).store.FillsHole fillingNote := by
    constructor
    · intro other inside
      change other ∈ (World.step ext config (after resumed) (.perform 1)).store.ofStream "ops:notes" at inside
      change (other.seq : Int) ≠ 1
      rw [rows] at inside
      rcases List.mem_append.mp inside with earlier | last
      · have least := most other earlier
        omega
      · rw [List.mem_singleton.mp last, second]
        decide
    · refine ⟨first, ?_, ?_, ?_⟩
      · change first ∈ (World.step ext config (after resumed) (.perform 1)).store.ofStream "ops:notes"
        rw [rows]
        exact List.mem_append_left _ member
      · change (first.seq : Int) + 1 = 1
        omega
      · rw [firstId]
        rfl
    · refine ⟨row, ?_, ?_⟩
      · change row ∈ (World.step ext config (after resumed) (.perform 1)).store.ofStream "ops:notes"
        rw [rows]
        exact List.mem_append_right _ List.mem_cons_self
      · change (1 : Int) < row.seq
        omega
  refine ⟨_, (reachable resumed).step (.perform 1), ?_, fills.admitted, ?_⟩
  · have seen : resumeOf 1 refusedNoteBody ∈ (streamSeen (after resumed)).resumes := by
      change _ ∈ (after resumed).accepted.filterMap fun taken => taken.plan.projections.streamResume
      rw [resumes]
      exact List.mem_cons_self
    obtain ⟨taken, accepted, rest⟩ := resumeAccepted _ seen
    have kept := (step_cases ext config (after resumed) (.perform 1)).accepted_grows
    exact ⟨taken, kept.subset accepted, rest⟩
  · rintro ⟨plan, offered_, passed⟩
    exact Store.not_fillsHole_of_position (Store.checkPosition_eq_ok.mp passed) offered_ fills

end Stozher.Deployment
