import Stozher.History
import Stozher.Library.Splits
import Stozher.RootApproval
import Mathlib.Data.List.Chain
import Stozher.Deployment

namespace Stozher

open Library Ingest

variable {ext : External} {config : Config}

/-- The columns of a stored envelope that place it in its chain. -/
structure EnvelopeRow.Of (row : EnvelopeRow) (plan : AppendPlan) : Prop where
  stream : row.stream = plan.stream
  seq : row.seq = saturate plan.seq
  id : row.id = plan.id
  prevHash : row.prevHash = plan.prevHash
  canonicalJson : row.canonicalJson = plan.canonicalJson

/-- What the other columns of a row are read from. -/
structure EnvelopeRow.Columns (row : EnvelopeRow) (plan : AppendPlan) : Prop where
  kind : plan.envelope.getStr "kind" = some row.kind
  subject : (plan.envelope.index "identity").getStr "subject" = some row.subject
  mandateRef : row.mandateRef = plan.envelope.getStr "mandate-ref"
  effectiveClass : row.effectiveClass = plan.effectiveClass
  outcome : row.outcome = (plan.envelope.get "execution").bind (·.getStr "outcome")
  emittedAt : plan.envelope.getStr "emitted-at" = some row.emittedAt
  commitmentType : row.commitmentType = (plan.envelope.get "commitment-ref").bind (·.getStr "object-type")
  commitmentId : row.commitmentId = (plan.envelope.get "commitment-ref").bind (·.getStr "object-id")
  commitmentTransition :
    row.commitmentTransition = (plan.envelope.get "commitment-ref").bind (·.getStr "transition")
  policyViolation : row.policyViolation = plan.policyViolation

namespace Store

variable {store next : Store} {plan : AppendPlan}

theorem envelopeRow_columns {row : EnvelopeRow} (built : envelopeRow plan = .ok row) : row.Columns plan := by
  unfold envelopeRow notNull at built
  simp only [bind_eq_ok, pure_eq_ok, okOr_eq_ok] at built
  obtain ⟨_, kind, _, subject, _, _, _, _, _, emittedAt, rfl⟩ := built
  exact ⟨kind, subject, rfl, rfl, rfl, emittedAt, rfl, rfl, rfl, rfl⟩

theorem envelopeRow_eq_ok {row : EnvelopeRow} (built : envelopeRow plan = .ok row) : row.Of plan := by
  unfold envelopeRow at built
  simp only [bind_eq_ok, pure_eq_ok] at built
  obtain ⟨_, _, _, _, _, _, _, _, _, _, rfl⟩ := built
  exact ⟨rfl, rfl, rfl, rfl, rfl⟩

/-- Where an envelope may go in its stream. -/
inductive Position (store : Store) (plan : AppendPlan) : Prop where
  | first (empty : store.streamHead plan.stream = none) (seq : plan.seq = 0)
      (prevHash : plan.prevHash = none)
  | firstBridged (hash : String) (empty : store.streamHead plan.stream = none) (seq : plan.seq = 1)
      (resumed : store.streamResume plan.stream 0 = some hash) (prevHash : plan.prevHash = some hash)
  | next (headSeq : Nat) (headId : String)
      (head : store.streamHead plan.stream = some (headSeq, headId)) (seq : plan.seq = headSeq + 1)
      (prevHash : plan.prevHash = some headId)
  | nextBridged (headSeq : Nat) (headId hash : String)
      (head : store.streamHead plan.stream = some (headSeq, headId)) (seq : plan.seq = headSeq + 2)
      (resumed : store.streamResume plan.stream (headSeq + 1) = some hash)
      (prevHash : plan.prevHash = some hash)

theorem bridged_iff (store : Store) (plan : AppendPlan) : store.bridged plan = true ↔ plan.seq = store.bridgeableAt plan.stream ∧
    ∃ hash, store.streamResume plan.stream (store.bridgeableAt plan.stream - 1) = some hash ∧
      plan.prevHash = some hash := by
  unfold bridged bridgeFor
  by_cases same : plan.seq = store.bridgeableAt plan.stream
  · rw [if_pos same, same]
    cases held : store.streamResume plan.stream (store.bridgeableAt plan.stream - 1) with
    | none => simp
    | some hash =>
        simp only [Option.isSome_some, Bool.true_and, beq_iff_eq, Option.some.injEq, exists_eq_left',
          true_and]
        exact eq_comm
  · rw [if_neg same]
    simp [same]

theorem checkPosition_eq_ok : checkPosition store plan = .ok () ↔ Position store plan := by
  cases head : store.streamHead plan.stream with
  | none =>
      have bridgeable : store.bridgeableAt plan.stream = 1 := by rw [bridgeableAt, head]
      have across := bridged_iff store plan
      rw [bridgeable] at across
      unfold checkPosition
      dsimp only
      rw [head]
      simp only [require_bind_eq_ok, require_eq_ok, across]
      constructor
      · rintro ⟨zero | ⟨one, hash, resumed, prevHash⟩, first⟩
        · exact .first head zero (first zero)
        · exact .firstBridged hash head one resumed prevHash
      · rintro (⟨_, seq, prevHash⟩ | ⟨hash, _, seq, resumed, prevHash⟩ | ⟨_, _, other, _, _⟩ |
          ⟨_, _, _, other, _, _, _⟩)
        · exact ⟨Or.inl seq, fun _ => prevHash⟩
        · exact ⟨Or.inr ⟨seq, hash, resumed, prevHash⟩, fun zero => by omega⟩
        · rw [head] at other
          cases other
        · rw [head] at other
          cases other
  | some pair =>
      obtain ⟨headSeq, headId⟩ := pair
      have bridgeable : store.bridgeableAt plan.stream = headSeq + 2 := by rw [bridgeableAt, head]
      have across := bridged_iff store plan
      rw [bridgeable] at across
      unfold checkPosition
      dsimp only
      rw [head]
      dsimp only
      constructor
      · intro passed
        split at passed
        · cases passed
        · split at passed
          · rw [require_eq_ok, across] at passed
            obtain ⟨seq, hash, resumed, prevHash⟩ := passed
            exact .nextBridged headSeq headId hash head seq resumed prevHash
          · rw [require_eq_ok] at passed
            exact .next headSeq headId head (by omega) passed
      · rintro (⟨other, _, _⟩ | ⟨_, other, _, _, _⟩ | ⟨seqIs, idIs, same, seq, prevHash⟩ |
          ⟨seqIs, idIs, hash, same, seq, resumed, prevHash⟩)
        · rw [head] at other
          cases other
        · rw [head] at other
          cases other
        · rw [head] at same
          cases same
          rw [if_neg (by omega), if_neg (by omega), require_eq_ok]
          exact prevHash
        · rw [head] at same
          cases same
          rw [if_neg (by omega), if_pos (by omega), require_eq_ok, across]
          exact ⟨seq, hash, resumed, prevHash⟩

/-- An accepted resume for a position, with the hash its successor must name. -/
def Bridges (store : Store) (stream : String) (position : Nat) (hash : String) : Prop :=
  ∃ row ∈ store.streamResumes, row.stream = stream ∧ row.resumeSeq = position ∧ row.bridgeHash = hash

/-- How one stored envelope of a stream follows another. -/
def Follows (store : Store) (earlier later : EnvelopeRow) : Prop :=
  (later.seq = earlier.seq + 1 ∧ later.prevHash = some earlier.id) ∨
    (later.seq = earlier.seq + 2 ∧
      ∃ hash, later.prevHash = some hash ∧ store.Bridges later.stream (earlier.seq + 1) hash)

/-- How a stream starts. -/
def Starts (store : Store) (first : EnvelopeRow) : Prop :=
  (first.seq = 0 ∧ first.prevHash = none) ∨
    (first.seq = 1 ∧ ∃ hash, first.prevHash = some hash ∧ store.Bridges first.stream 0 hash)

/-- The shape of one stream, in the order its envelopes were stored. -/
structure ChainOk (store : Store) (stream : String) : Prop where
  increasing : (store.ofStream stream).Pairwise fun a b => a.seq < b.seq
  linked : (store.ofStream stream).IsChain store.Follows
  starts : ∀ first, (store.ofStream stream).head? = some first → store.Starts first

theorem Bridges.grows {stream hash : String} {position : Nat} (grows : store.Grows next)
    (bridges : store.Bridges stream position hash) : next.Bridges stream position hash := by
  obtain ⟨row, member, known⟩ := bridges
  exact ⟨row, grows.streamResumes.subset member, known⟩

theorem Follows.grows (grows : store.Grows next) {earlier later : EnvelopeRow}
    (follows : store.Follows earlier later) : next.Follows earlier later := by
  rcases follows with adjacent | ⟨seq, hash, prevHash, bridges⟩
  · exact Or.inl adjacent
  · exact Or.inr ⟨seq, hash, prevHash, bridges.grows grows⟩

theorem Starts.grows (grows : store.Grows next) {first : EnvelopeRow} (starts : store.Starts first) :
    next.Starts first := by
  rcases starts with genesis | ⟨seq, hash, prevHash, bridges⟩
  · exact Or.inl genesis
  · exact Or.inr ⟨seq, hash, prevHash, bridges.grows grows⟩

theorem ChainOk.grows {stream : String} (chain : ChainOk store stream) (grows : store.Grows next)
    (same : next.ofStream stream = store.ofStream stream) : ChainOk next stream where
  increasing := same ▸ chain.increasing
  linked := by
    rw [same]
    exact chain.linked.imp fun _ _ follows => follows.grows grows
  starts := by
    rw [same]
    exact fun first head => (chain.starts first head).grows grows

theorem streamResume_bridges {stream hash : String} {position : Nat} (small : position < 2 ^ 63)
    (resumed : store.streamResume stream position = some hash) : store.Bridges stream position hash := by
  unfold streamResume at resumed
  rw [Option.map_eq_some_iff] at resumed
  obtain ⟨row, found, bridge⟩ := resumed
  have named := List.find?_some found
  simp only [Bool.and_eq_true, beq_iff_eq, saturate_of_lt small] at named
  exact ⟨row, List.mem_of_find?_eq_some found, named.1, named.2, bridge⟩

theorem streamHead_eq {stream : String} (chain : ChainOk store stream) :
    store.streamHead stream = (store.ofStream stream).getLast?.map fun row => (row.seq, row.id) := by
  unfold streamHead
  rw [Table.topBy_of_increasing chain.increasing]

theorem mem_ofStream {stream : String} {row : EnvelopeRow} :
    row ∈ store.ofStream stream ↔ row ∈ store.envelopes ∧ row.stream = stream := by
  unfold ofStream
  rw [List.mem_filter, beq_iff_eq]

theorem ofStream_append (stream : String) {row : EnvelopeRow}
    (envelopes : next.envelopes = store.envelopes ++ [row]) :
    next.ofStream stream = store.ofStream stream ++ if row.stream = stream then [row] else [] := by
  unfold ofStream
  rw [envelopes, List.filter_append]
  by_cases same : row.stream = stream <;> simp [same]

theorem ChainOk.start {stream : String} {row : EnvelopeRow} (only : next.ofStream stream = [row])
    (starts : next.Starts row) : ChainOk next stream where
  increasing := only ▸ List.pairwise_singleton _ _
  linked := only ▸ .singleton _
  starts := by
    rw [only]
    intro first head
    cases head
    exact starts

theorem ChainOk.snoc {stream : String} {last row : EnvelopeRow} (chain : ChainOk store stream)
    (grows : store.Grows next) (ends : (store.ofStream stream).getLast? = some last)
    (extended : next.ofStream stream = store.ofStream stream ++ [row]) (greater : last.seq < row.seq)
    (follows : next.Follows last row) : ChainOk next stream where
  increasing := by
    rw [extended, List.pairwise_append]
    refine ⟨chain.increasing, List.pairwise_singleton _ _, ?_⟩
    intro other member new same
    rw [List.mem_singleton] at same
    subst same
    rcases List.eq_nil_or_concat (store.ofStream stream) with empty | ⟨before, top, split⟩
    · rw [empty] at ends
      cases ends
    · rw [List.concat_eq_append] at split
      rw [split, List.getLast?_concat] at ends
      cases ends
      have increasing := chain.increasing
      rw [split] at increasing member
      rcases List.mem_append.mp member with earlier | final
      · have below := (List.pairwise_append.mp increasing).2.2 other earlier last List.mem_cons_self
        omega
      · rw [List.mem_singleton] at final
        subst final
        exact greater
  linked := by
    rw [extended, List.isChain_append]
    refine ⟨chain.linked.imp fun _ _ earlier => earlier.grows grows, .singleton _, ?_⟩
    intro top isTop new isNew
    rw [ends] at isTop
    cases isTop
    cases isNew
    exact follows
  starts := by
    intro first head
    refine (chain.starts first ?_).grows grows
    rw [extended, List.head?_append] at head
    cases found : (store.ofStream stream).head? with
    | none =>
        rw [List.head?_eq_none_iff] at found
        rw [found] at ends
        cases ends
    | some other =>
        rw [found] at head
        cases head
        rfl

/-- An envelope stored at an admitted position extends its chain. -/
theorem ChainOk.extend {row : EnvelopeRow} (chain : ChainOk store plan.stream)
    (position : Position store plan) (grows : store.Grows next) (of : row.Of plan)
    (small : plan.seq < 2 ^ 53)
    (extended : next.ofStream plan.stream = store.ofStream plan.stream ++ [row]) :
    ChainOk next plan.stream := by
  have seq : row.seq = plan.seq := by rw [of.seq, saturate_of_lt (by omega)]
  have head := streamHead_eq chain
  have alone : store.streamHead plan.stream = none → next.ofStream plan.stream = [row] := by
    intro empty
    rw [empty, eq_comm, Option.map_eq_none_iff, List.getLast?_eq_none_iff] at head
    rw [extended, head, List.nil_append]
  cases position with
  | first empty zero prevHash =>
      exact .start (alone empty) (Or.inl ⟨seq.trans zero, of.prevHash.trans prevHash⟩)
  | firstBridged hash empty one resumed prevHash =>
      refine .start (alone empty) (Or.inr ⟨seq.trans one, hash, of.prevHash.trans prevHash, ?_⟩)
      rw [of.stream]
      exact (streamResume_bridges (by decide) resumed).grows grows
  | next headSeq headId found after prevHash =>
      rw [found, eq_comm, Option.map_eq_some_iff] at head
      obtain ⟨last, ends, same⟩ := head
      cases same
      exact chain.snoc grows ends extended (by omega)
        (Or.inl ⟨seq.trans after, of.prevHash.trans prevHash⟩)
  | nextBridged headSeq headId hash found after resumed prevHash =>
      rw [found, eq_comm, Option.map_eq_some_iff] at head
      obtain ⟨last, ends, same⟩ := head
      cases same
      refine chain.snoc grows ends extended (by omega)
        (Or.inr ⟨seq.trans after, hash, of.prevHash.trans prevHash, ?_⟩)
      rw [of.stream]
      exact (streamResume_bridges (by omega) resumed).grows grows

end Store

namespace World

/-- The accepted envelope a stored row was written for, as validation left it. -/
theorem row_built {world : World} (known : Traced ext config world) {row : EnvelopeRow}
    (member : row ∈ world.store.envelopes) :
    ∃ taken ∈ world.accepted, Store.envelopeRow taken.plan = .ok row ∧ ∃ before after,
      TakenAt ext config world taken before after := by
  obtain ⟨taken, accepted, built⟩ := forall₂_mem_left known.rows member
  exact ⟨taken, accepted, built, known.accepted taken accepted⟩

theorem row_taken {world : World} (known : Traced ext config world) {row : EnvelopeRow}
    (member : row ∈ world.store.envelopes) :
    ∃ taken ∈ world.accepted, row.Of taken.plan ∧ ∃ before after,
      TakenAt ext config world taken before after := by
  obtain ⟨taken, accepted, built, taking⟩ := row_built known member
  exact ⟨taken, accepted, Store.envelopeRow_eq_ok built, taking⟩

theorem Origin.placed {world : World} {request : Submission} {snapshot : Store} {plan : AppendPlan}
    (origin : Origin ext config world request snapshot plan) :
    Envelope.Placed plan.envelope plan.stream plan.seq := by
  obtain ⟨subjectKey, payloads, admitted⟩ := origin.admitted
  obtain ⟨map, kind, spec, valid⟩ := Envelope.validate_eq_ok admitted.valid
  obtain ⟨stream, seq, placed⟩ := valid.placed
  have streamIs : plan.stream = stream := by
    unfold AppendPlan.stream
    rw [placed.hasStream, Option.getD_some]
  have seqIs : plan.seq = seq := by
    unfold AppendPlan.seq
    rw [placed.hasSeq, Option.getD_some]
  rw [streamIs, seqIs]
  exact placed

theorem chain_step {world next : World} {action : Action} (known : Traced ext config world)
    (chains : ∀ stream, world.store.ChainOk stream) (step : StepTo ext config world action next) :
    ∀ stream, next.store.ChainOk stream := by
  intro stream
  have grows := step.grows
  cases step with
  | quiet store accepted tasks =>
      refine (chains stream).grows grows ?_
      unfold Store.ofStream
      rw [store.envelopes.1]
  | appends request snapshot validated waiting fresh store accepted tasks =>
      obtain ⟨row, built, _, _, envelopes⟩ := store.envelopes
      have of := Store.envelopeRow_eq_ok built
      have extended := Store.ofStream_append stream envelopes
      have placed := (known.tasks _ _ _ waiting).placed
      by_cases same : row.stream = stream
      · have here : stream = validated.plan.stream := same.symm.trans of.stream
        subst here
        rw [if_pos same] at extended
        exact (chains _).extend (Store.checkPosition_eq_ok.mp store.position) grows of placed.small extended
      · rw [if_neg same, List.append_nil] at extended
        exact (chains stream).grows grows extended

theorem chains {world : World} (reached : (kernel ext config).Reachable world) :
    ∀ stream, world.store.ChainOk stream := by
  refine World.invariant ext config
    (fun world => ∀ stream, world.store.ChainOk stream) ?_
    (fun _ _ _ known holds step => chain_step known holds step) reached
  intro stream
  exact ⟨.nil, .nil, by intro first head; cases head⟩

/-- A recorded resume: written by an accepted envelope that a root approved, for a refusal on record. -/
structure Resumed (ext : External) (config : Config) (world : World) (row : ResumeRow)
    (taken : Accepted) (resume : StreamResume) : Prop where
  stored : taken ∈ world.accepted
  written : row.WrittenBy taken.plan resume
  refused : ∃ rejection ∈ world.store.rejections, rejection.claimedStream = some row.stream ∧
    rejection.claimedSeq = some row.resumeSeq ∧ rejection.objectHash = row.bridgeHash

theorem rejectionAt_mem {store : Store} {stream hash : String} {position : Nat}
    (found : store.rejectionAt stream position = some hash) :
    ∃ rejection ∈ store.rejections, rejection.claimedStream = some stream ∧
      rejection.claimedSeq = some (saturate position) ∧ rejection.objectHash = hash := by
  unfold Store.rejectionAt at found
  rw [Option.map_eq_some_iff] at found
  obtain ⟨row, top, same⟩ := found
  have member := Table.topBy_mem top
  simp only [List.mem_filter, Bool.and_eq_true, beq_iff_eq] at member
  exact ⟨row, member.1, member.2.1, member.2.2, same⟩

theorem resumed {world : World} (reached : (kernel ext config).Reachable world) :
    ∀ row ∈ world.store.streamResumes, ∃ taken resume, Resumed ext config world row taken resume := by
  refine World.invariant ext config (fun world =>
    ∀ row ∈ world.store.streamResumes, ∃ taken resume, Resumed ext config world row taken resume)
    (by intro row member; cases member) ?_ reached
  intro world _ next known holds step row member
  have storeGrows := step.grows
  have acceptedGrows := step.accepted_grows
  have earlier : row ∈ world.store.streamResumes →
      ∃ taken resume, Resumed ext config next row taken resume := by
    intro held
    obtain ⟨taken, resume, from_⟩ := holds row held
    obtain ⟨rejection, recorded, claims⟩ := from_.refused
    exact ⟨taken, resume, acceptedGrows.subset from_.stored, from_.written, rejection,
      storeGrows.rejections.subset recorded, claims⟩
  cases step with
  | quiet store accepted tasks =>
      rw [store.envelopes.2.2.2.2.2.2.2.2.1] at member
      exact earlier member
  | appends request snapshot validated waiting fresh store accepted tasks =>
      obtain ⟨rows, resumes, by_⟩ := store.streamResumes
      rw [resumes] at member
      rcases List.mem_append.mp member with held | new
      · exact earlier held
      · obtain ⟨resume, written⟩ := by_.new row new
        obtain ⟨rejection, recorded, stream, seq, hash⟩ :=
          rejectionAt_mem (by_.refused resume written.projected)
        refine ⟨_, resume, accepted ▸ List.mem_append_right _ List.mem_cons_self, written, rejection,
          storeGrows.rejections.subset recorded, ?_, ?_, ?_⟩
        · rw [stream, written.stream]
        · rw [seq, written.resumeSeq]
        · rw [hash, written.bridgeHash]

theorem Ruled.inForce_of_resume {store : Store} {plan : AppendPlan} {subjectKey : KeyId}
    {payloads : List Value} {resume : StreamResume}
    (rule : Ruled ext config store plan subjectKey payloads)
    (projected : plan.projections.streamResume = some resume) :
    policyInForce ext config store ≠ .ok none := by
  cases rule with
  | genesis unpublished valid =>
      exfalso
      rcases validateGenesis_cases valid with ⟨_, ⟨_, _, valid⟩ | ⟨_, _, valid⟩⟩
      · obtain ⟨_, _, _, _, _, _, same⟩ := validateGenesisMandate_eq_ok valid
        rw [same] at projected
        cases projected
      · obtain ⟨changed, _, _, change, _, same⟩ := validateGenesisPolicy_eq_ok valid
        obtain ⟨_, _, _, _, _, _, _, _, rfl⟩ := validatePolicyChange_eq_ok change
        rw [same] at projected
        cases projected
  | inForce policy published admits unauthorized =>
      rw [published]
      intro absent
      cases absent

/-- A resume on record for a position: a root approved the envelope that carried it, and it names the
bytes of a rejection that claims the position. -/
def ApprovedBridge (ext : External) (world : World) (stream : String) (position : Nat)
    (hash : String) : Prop :=
  ∃ row ∈ world.store.streamResumes,
    row.stream = stream ∧ row.resumeSeq = position ∧ row.bridgeHash = hash ∧
    (∃ taken ∈ world.accepted, ∃ resume request decision root subject,
      row.WrittenBy taken.plan resume ∧
      ApprovedByRoot ext taken.snapshot taken.plan.envelope request decision root subject) ∧
    ∃ rejection ∈ world.store.rejections, rejection.claimedStream = some stream ∧
      rejection.claimedSeq = some position ∧ rejection.objectHash = hash

theorem approvedBridge {world : World} (reached : (kernel ext config).Reachable world)
    {stream hash : String} {position : Nat} (bridges : world.store.Bridges stream position hash) :
    ApprovedBridge ext world stream position hash := by
  obtain ⟨row, member, rfl, rfl, rfl⟩ := bridges
  obtain ⟨taken, resume, from_⟩ := resumed reached row member
  obtain ⟨before, after, taking⟩ := (traced reached).accepted taken from_.stored
  obtain ⟨subjectKey, payloads, admitted⟩ := taking.origin.admitted
  have projected := from_.written.projected
  have published := Ruled.inForce_of_resume admitted.rule projected
  have changes : changesPermissions taken.plan.projections := by simp [changesPermissions, projected]
  obtain ⟨_, request, decision, root, subject, approval, _⟩ := admitted.approved published changes
  exact ⟨row, member, rfl, rfl, rfl, ⟨taken, from_.stored, resume, request, decision, root, subject,
    from_.written, approval⟩, from_.refused⟩

/-- How two envelopes stored next to each other are linked. -/
def Linked (ext : External) (world : World) (earlier later : EnvelopeRow) : Prop :=
  (later.seq = earlier.seq + 1 ∧ ∃ id, Signed.objectId ext earlier.canonicalJson.tree = .ok id ∧
      later.prevHash = some id) ∨
    (later.seq = earlier.seq + 2 ∧ ∃ hash, later.prevHash = some hash ∧
      ApprovedBridge ext world later.stream (earlier.seq + 1) hash)

theorem row_id {world : World} (reached : (kernel ext config).Reachable world) {row : EnvelopeRow}
    (member : row ∈ world.store.envelopes) :
    Signed.objectId ext row.canonicalJson.tree = .ok row.id := by
  obtain ⟨taken, _, of, before, after, taking⟩ := row_taken (traced reached) member
  obtain ⟨subjectKey, payloads, admitted⟩ := taking.origin.admitted
  rw [of.canonicalJson, of.id, admitted.canonical]
  exact admitted.hasId

/-- The shape of every stored stream, its envelopes in the order of their positions. -/
theorem stored_chain_shape {world : World} (reached : (kernel ext config).Reachable world)
    (stream : String) :
    let rows := (world.store.ofStream stream).insertionSort fun a b => a.seq ≤ b.seq
    (rows.map EnvelopeRow.seq).Nodup ∧ rows.IsChain (Linked ext world) ∧
      ∀ first, rows.head? = some first →
        (first.seq = 0 ∧ first.prevHash = none) ∨
          (first.seq = 1 ∧ ∃ hash, first.prevHash = some hash ∧
            ApprovedBridge ext world first.stream 0 hash) := by
  have chain := chains reached stream
  have sorted : (world.store.ofStream stream).insertionSort (fun a b => a.seq ≤ b.seq) =
      world.store.ofStream stream :=
    List.Pairwise.insertionSort_eq (chain.increasing.imp fun less => le_of_lt less)
  dsimp only
  rw [sorted]
  refine ⟨?_, ?_, ?_⟩
  · rw [List.Nodup, List.pairwise_map]
    exact chain.increasing.imp fun less => Nat.ne_of_lt less
  · refine chain.linked.imp_of_mem_imp fun earlier later member _ follows => ?_
    rcases follows with ⟨seq, prevHash⟩ | ⟨seq, hash, prevHash, bridges⟩
    · exact Or.inl ⟨seq, earlier.id, row_id reached (List.mem_of_mem_filter member), prevHash⟩
    · exact Or.inr ⟨seq, hash, prevHash, approvedBridge reached bridges⟩
  · intro first head
    rcases chain.starts first head with genesis | ⟨seq, hash, prevHash, bridges⟩
    · exact Or.inl genesis
    · exact Or.inr ⟨seq, hash, prevHash, approvedBridge reached bridges⟩

end World

end Stozher

namespace Stozher.Deployment

open World

theorem founding_chain_shape :
    let rows := ((after founding).store.ofStream "kernel:core").insertionSort fun a b => a.seq ≤ b.seq
    (rows.map EnvelopeRow.seq).Nodup ∧ rows.IsChain (Linked ext (after founding)) ∧
      ∀ first, rows.head? = some first →
        (first.seq = 0 ∧ first.prevHash = none) ∨
          (first.seq = 1 ∧ ∃ hash, first.prevHash = some hash ∧
            ApprovedBridge ext (after founding) first.stream 0 hash) :=
  stored_chain_shape (reachable founding) "kernel:core"

end Stozher.Deployment
