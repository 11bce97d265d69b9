import Stozher.ChainVerification
import Stozher.Library.Ranges

namespace Stozher

open Library Ingest

variable {ext : External} {config : Config}

namespace CheckpointEntry

/-- The positions a checkpoint attests. -/
def range (row : CheckpointEntry) : Nat × Nat :=
  (row.fromSeq, row.toSeq)

end CheckpointEntry

namespace Store

variable {store next : Store} {plan : AppendPlan} {claim : CheckpointClaim}

/-- The checkpoints of a stream. -/
def checkpointsOf (store : Store) (stream : String) : List CheckpointEntry :=
  store.checkpoints.filter fun row => row.stream == stream

/-- The position the next checkpoint of a stream has to start at. -/
def nextFrom (store : Store) (stream : String) : Nat :=
  ((store.lastCheckpoint stream).map fun last => last.2.1 + 1).getD 0

/-- The row a checkpoint is kept as. -/
def checkpointRow (plan : AppendPlan) (claim : CheckpointClaim) : CheckpointEntry where
  stream := claim.stream
  fromSeq := saturate claim.fromSeq
  toSeq := saturate claim.toSeq
  headHash := claim.headHash
  envelopeId := plan.id
  observedAt := claim.observedAt

theorem writeCheckpoint_iff (projected : plan.projections.checkpoint = some claim) :
    writeCheckpoint plan store = .ok next ↔ claim.fromSeq = store.nextFrom claim.stream ∧
      (∀ row ∈ store.checkpointsOf claim.stream, row.fromSeq ≠ saturate claim.fromSeq) ∧
      next = { store with checkpoints := store.checkpoints ++ [checkpointRow plan claim] } := by
  have unused : (store.checkpoints.all fun row =>
      !(row.stream == claim.stream && row.fromSeq == saturate claim.fromSeq)) = true ↔
        ∀ row ∈ store.checkpointsOf claim.stream, row.fromSeq ≠ saturate claim.fromSeq := by
    unfold checkpointsOf
    rw [List.all_eq_true]
    simp only [List.mem_filter, Bool.not_eq_true', Bool.and_eq_false_iff, beq_eq_false_iff_ne, beq_iff_eq]
    constructor
    · intro apart row held
      rcases apart row held.1 with other | other
      · exact absurd held.2 other
      · exact other
    · intro apart row member
      by_cases same : row.stream = claim.stream
      · exact .inr (apart row ⟨member, same⟩)
      · exact .inl same
  have checked : ∀ (expected : Nat) (discontinuous used : Error), (do
      require (claim.fromSeq = expected) discontinuous
      require (store.checkpoints.all fun row =>
        !(row.stream == claim.stream && row.fromSeq == saturate claim.fromSeq)) used
      return { store with checkpoints := store.checkpoints ++ [checkpointRow plan claim] } : Result Store) = .ok next ↔
        claim.fromSeq = expected ∧ (∀ row ∈ store.checkpointsOf claim.stream, row.fromSeq ≠ saturate claim.fromSeq) ∧
        next = { store with checkpoints := store.checkpoints ++ [checkpointRow plan claim] } := by
    intro expected discontinuous used
    simp only [bind_eq_ok, require_eq_ok, pure_eq_ok, unused]
    constructor
    · intro written
      obtain ⟨_, continuous, _, free, rfl⟩ := written
      exact ⟨continuous, free, rfl⟩
    · intro written
      obtain ⟨continuous, free, rfl⟩ := written
      exact ⟨(), continuous, (), free, rfl⟩
  unfold writeCheckpoint nextFrom
  rw [projected]
  dsimp only
  cases store.lastCheckpoint claim.stream with
  | none => exact checked 0 _ _
  | some last => exact checked (last.2.1 + 1) _ _

/-- Where the ranges of a stream follow one another, the next is to start after them. -/
theorem nextFrom_eq {stream : String} (follows : Follow 0 ((store.checkpointsOf stream).map CheckpointEntry.range)) :
    store.nextFrom stream = pastEnd 0 ((store.checkpointsOf stream).map CheckpointEntry.range) := by
  have tops : (store.checkpointsOf stream).Pairwise fun a b => a.toSeq < b.toSeq := by
    have order := List.pairwise_map.mp follows.increasing
    refine order.imp_of_mem ?_
    intro a b _ isB less
    have upright := (follows.bounds (List.mem_map_of_mem isB)).2.1
    exact Nat.lt_of_lt_of_le less upright
  unfold nextFrom lastCheckpoint
  rw [Table.topBy_of_increasing (show ((store.checkpoints.filter fun row => row.stream == stream).Pairwise
    fun a b => a.toSeq < b.toSeq) from tops), Follow.pastEnd_eq, List.getLast?_map]
  unfold checkpointsOf
  cases (store.checkpoints.filter fun row => row.stream == stream).getLast? with
  | none => rfl
  | some last => rfl

theorem checkpointsOf_concat {row : CheckpointEntry} (same : next.checkpoints = store.checkpoints ++ [row])
    (stream : String) : next.checkpointsOf stream =
      store.checkpointsOf stream ++ if row.stream = stream then [row] else [] := by
  unfold checkpointsOf
  rw [same, List.filter_append, List.filter_cons]
  by_cases own : row.stream = stream
  · rw [if_pos own, if_pos (beq_iff_eq.mpr own)]
    rfl
  · rw [if_neg own, if_neg fun equal => own (beq_iff_eq.mp equal)]
    rfl

end Store

namespace World

variable {world : World}

/-- Every checkpoint the kernel took ends no earlier than it starts. -/
def Upright (world : World) : Prop :=
  ∀ taken ∈ world.accepted, ∀ claim, taken.plan.projections.checkpoint = some claim → claim.fromSeq ≤ claim.toSeq

/-- What is known of the checkpoints on record. -/
structure CheckpointsOk (world : World) : Prop where
  kept : ∀ taken ∈ world.accepted, ∀ claim, taken.plan.projections.checkpoint = some claim →
    Store.checkpointRow taken.plan claim ∈ world.store.checkpoints
  taken : ∀ row ∈ world.store.checkpoints, ∃ taken ∈ world.accepted, ∃ claim,
    taken.plan.projections.checkpoint = some claim ∧ row = Store.checkpointRow taken.plan claim
  bounded : ∀ taken ∈ world.accepted, ∀ claim, taken.plan.projections.checkpoint = some claim →
    claim.fromSeq ≤ 2 ^ 53 ∧ claim.toSeq < 2 ^ 53
  follows : Upright world → ∀ stream, Follow 0 ((world.store.checkpointsOf stream).map CheckpointEntry.range)

/-- What an append makes of the checkpoints. -/
theorem checkpoints_cases {store next : Store} {plan : AppendPlan} (appends : store.Appends plan next) :
    plan.projections.checkpoint = none ∧ next.checkpoints = store.checkpoints ∨
      ∃ claim, plan.projections.checkpoint = some claim ∧ claim.fromSeq = store.nextFrom claim.stream ∧
        next.checkpoints = store.checkpoints ++ [Store.checkpointRow plan claim] := by
  have written := appends.checkpoint
  cases projected : plan.projections.checkpoint with
  | none =>
      unfold Store.writeCheckpoint at written
      rw [projected] at written
      exact .inl ⟨rfl, (congrArg Store.checkpoints (Except.ok.inj written)).symm⟩
  | some claim =>
      obtain ⟨continuous, _, same⟩ := (Store.writeCheckpoint_iff projected).mp written
      exact .inr ⟨claim, rfl, continuous, congrArg Store.checkpoints same⟩

theorem toSeq_small {request : Submission} {snapshot : Store}
    {plan : AppendPlan} (origin : Origin ext config world request snapshot plan) {claim : CheckpointClaim}
    (projected : plan.projections.checkpoint = some claim) : claim.toSeq < 2 ^ 53 := by
  obtain ⟨past, pastReached, same, _⟩ := origin.earlier
  obtain ⟨held, stored, top, _⟩ := origin.attested projected
  subst same
  have small := (ofStream_verifiable pastReached held stored).small
  unfold saturate at top
  omega

theorem CheckpointsOk.nextFrom_le (known : CheckpointsOk world) (stream : String) :
    world.store.nextFrom stream ≤ 2 ^ 53 := by
  unfold Store.nextFrom Store.lastCheckpoint
  cases last : Table.topBy CheckpointEntry.toSeq (world.store.checkpoints.filter fun row => row.stream == stream) with
  | none => exact Nat.zero_le _
  | some row =>
      obtain ⟨taken, inside, claim, projected, rfl⟩ :=
        known.taken row (List.mem_of_mem_filter (Table.topBy_mem last))
      have bound := (known.bounded taken inside claim projected).2
      have top : (Store.checkpointRow taken.plan claim).toSeq = saturate claim.toSeq := rfl
      rw [Option.map_some, Option.map_some, Option.getD_some, top, saturate_of_lt (by omega)]
      dsimp only
      omega

theorem CheckpointsOk.append {next : World} (known : CheckpointsOk world) {request : Submission} {snapshot : Store}
    {validated : Validated} {before : World} (origin : Origin ext config before request snapshot validated.plan)
    (appends : world.store.Appends validated.plan next.store) {new : Accepted} (isNew : new.plan = validated.plan)
    (accepted : next.accepted = world.accepted ++ [new]) : CheckpointsOk next := by
  have members : ∀ taken ∈ next.accepted, taken ∈ world.accepted ∨ taken.plan = validated.plan := by
    intro taken member
    rw [accepted] at member
    rcases List.mem_append.mp member with earlier | last
    · exact .inl earlier
    · rw [List.mem_singleton.mp last]
      exact .inr isNew
  rcases checkpoints_cases appends with ⟨none, same⟩ | ⟨claim, projected, continuous, same⟩
  · have idle : ∀ taken ∈ next.accepted, ∀ claim, taken.plan.projections.checkpoint = some claim →
        taken ∈ world.accepted := by
      intro taken member claim projected
      rcases members taken member with earlier | last
      · exact earlier
      · rw [last, none] at projected
        cases projected
    refine ⟨?_, ?_, ?_, ?_⟩
    · intro taken member claim projected
      rw [same]
      exact known.kept taken (idle taken member claim projected) claim projected
    · intro row member
      rw [same] at member
      obtain ⟨taken, inside, held⟩ := known.taken row member
      exact ⟨taken, accepted ▸ List.mem_append_left _ inside, held⟩
    · intro taken member claim projected
      exact known.bounded taken (idle taken member claim projected) claim projected
    · intro upright stream
      have earlier : Upright world := fun taken member => upright taken (accepted ▸ List.mem_append_left _ member)
      unfold Store.checkpointsOf
      rw [same]
      exact known.follows earlier stream
  · have low : claim.fromSeq ≤ 2 ^ 53 := continuous ▸ known.nextFrom_le claim.stream
    have high := toSeq_small origin projected
    have claims : ∀ taken : Accepted, taken.plan = validated.plan → ∀ other, taken.plan.projections.checkpoint = some other →
        other = claim := by
      intro taken last other found
      rw [last, projected] at found
      exact (Option.some.inj found).symm
    refine ⟨?_, ?_, ?_, ?_⟩
    · intro taken member other found
      rw [same]
      rcases members taken member with earlier | last
      · exact List.mem_append_left _ (known.kept taken earlier other found)
      · rw [claims taken last other found, last]
        exact List.mem_append_right _ List.mem_cons_self
    · intro row member
      rw [same] at member
      rcases List.mem_append.mp member with earlier | last
      · obtain ⟨taken, inside, held⟩ := known.taken row earlier
        exact ⟨taken, accepted ▸ List.mem_append_left _ inside, held⟩
      · refine ⟨new, accepted ▸ List.mem_append_right _ List.mem_cons_self, claim, ?_, ?_⟩
        · rw [isNew, projected]
        · rw [List.mem_singleton.mp last, isNew]
    · intro taken member other found
      rcases members taken member with earlier | last
      · exact known.bounded taken earlier other found
      · rw [claims taken last other found]
        exact ⟨low, high⟩
    · intro upright stream
      have earlier : Upright world := fun taken member => upright taken (accepted ▸ List.mem_append_left _ member)
      have follows := known.follows earlier stream
      have here : (Store.checkpointRow validated.plan claim).stream = claim.stream := rfl
      rw [Store.checkpointsOf_concat same, here]
      by_cases own : claim.stream = stream
      · subst own
        have ends : claim.fromSeq ≤ claim.toSeq :=
          upright new (accepted ▸ List.mem_append_right _ List.mem_cons_self) claim (isNew ▸ projected)
        have range : (Store.checkpointRow validated.plan claim).range = (claim.fromSeq, claim.toSeq) := by
          unfold CheckpointEntry.range Store.checkpointRow
          rw [saturate_of_lt (by omega), saturate_of_lt (by omega)]
        rw [if_pos rfl, List.map_append, List.map_singleton, range, Follow.concat, ← Store.nextFrom_eq follows]
        exact ⟨follows, continuous, ends⟩
      · rw [if_neg own, List.append_nil]
        exact follows

theorem checkpointsOk (reached : (kernel ext config).Reachable world) : CheckpointsOk world := by
  refine World.invariant ext config CheckpointsOk ?_ ?_ reached
  · refine ⟨?_, ?_, ?_, ?_⟩
    · intro _ member
      cases member
    · intro _ member
      cases member
    · intro _ member
      cases member
    · exact fun _ _ => trivial
  · intro world _ next traced known step
    cases step with
    | quiet store accepted tasks =>
        have same := store.envelopes.2.2.2.2.2.2.2.2.2
        refine ⟨?_, ?_, ?_, ?_⟩
        · rw [accepted, same]
          exact known.kept
        · rw [accepted, same]
          exact known.taken
        · rw [accepted]
          exact known.bounded
        · unfold Upright Store.checkpointsOf
          rw [accepted, same]
          exact known.follows
    | appends request snapshot validated waiting fresh store accepted tasks =>
        exact known.append (traced.tasks _ _ _ waiting) store rfl accepted

end World

/-- The body of a checkpoint. -/
def checkpointBody (stream : String) (fromSeq toSeq : Nat) (headHash : String) (count : Nat) (observedAt : String) :
    Members :=
  [("stream", .string stream), ("from-seq", .ofNat fromSeq), ("to-seq", .ofNat toSeq),
    ("head-hash", .string headHash), ("count", .ofNat count), ("observed-at", .string observedAt)]

/-- A checkpoint from where the last one ended up to a position on record is accepted. -/
def CanFollow (ext : External) (config : Config) (store : Store) (stream : String) : Prop :=
  ∀ held ∈ store.ofStream stream, store.nextFrom stream ≤ held.seq → ∀ observedAt instant,
    Clock.parseTimestamp observedAt = .ok instant → ∀ (env : Value) (plan : AppendPlan),
      env.get "checkpoint" = some (.object (checkpointBody stream (store.nextFrom stream) held.seq held.id
        (held.seq - store.nextFrom stream + 1) observedAt)) →
      (env.index "sig").getStr "key" = some config.kernelKey.id.text →
      ∃ checked next, validateCheckpoint ext config store env plan = .ok checked ∧
        Store.writeCheckpoint checked store = .ok next

/-- The checkpoints of a stream divide it up to where the last one ends. -/
structure Partitioned (ext : External) (config : Config) (store : Store) (stream : String) : Prop where
  ranges : Follow 0 (((store.checkpointsOf stream).insertionSort fun a b => a.fromSeq ≤ b.fromSeq).map
    CheckpointEntry.range)
  counts : ∀ row ∈ store.checkpointsOf stream, ∃ held ∈ store.envelopes, held.id = row.envelopeId ∧
    ∃ count, ((held.canonicalJson.tree.index "checkpoint").get "count").bind Value.asU64 = some count ∧
      count + row.fromSeq = row.toSeq + 1
  heads : ∀ row ∈ store.checkpointsOf stream, ∃ held ∈ store.ofStream stream,
    held.seq = row.toSeq ∧ held.id = row.headHash
  further : CanFollow ext config store stream

namespace World

variable {world : World}

theorem checkpoint_counted (reached : (kernel ext config).Reachable world) {taken : Accepted}
    (inside : taken ∈ world.accepted) {claim : CheckpointClaim}
    (projected : taken.plan.projections.checkpoint = some claim) :
    ((taken.plan.envelope.index "checkpoint").get "count").bind Value.asU64 =
      some (claim.toSeq - claim.fromSeq + 1) := by
  obtain ⟨before, after_, at_⟩ := (traced reached).accepted taken inside
  obtain ⟨subjectKey, payloads, admitted⟩ := at_.origin.admitted
  have valid := admitted.rule.ceremony.attests projected
  unfold validateCheckpoint at valid
  simp only [bind_eq_ok, okOr_eq_ok, forEach_eq_ok, require_eq_ok, pure_eq_ok] at valid
  obtain ⟨body, carried, _, _, _, _, ⟨other, count⟩, read, _, _, _, counted, _, _, attested, _, head, _, _, _,
    same⟩ := valid
  rw [← same] at projected
  cases projected
  dsimp only at counted
  unfold checkpointClaim at read
  simp only [bind_eq_ok, okOr_eq_ok, pure_eq_ok, Prod.mk.injEq] at read
  obtain ⟨_, _, _, _, _, _, _, hasCount, _, _, _, _, rfl, rfl⟩ := read
  obtain ⟨held, found, isObject⟩ := Option.bind_eq_some_iff.mp carried
  have index : taken.plan.envelope.index "checkpoint" = held := by
    unfold Value.index
    rw [found, Option.getD_some]
  rw [index, Value.get, isObject, Option.bind_some, hasCount, counted]

theorem asU64_ofNat {n : Nat} (small : n < 2 ^ 64) : (Value.ofNat n).asU64 = some n := by
  unfold Value.ofNat
  rw [dif_pos small]
  rfl

theorem streamKind_iff {store : Store} {stream : String} :
    (store.streamKind stream).isSome = true ↔ ∃ row ∈ store.streams, row.stream = stream := by
  unfold Store.streamKind
  rw [Option.isSome_map, List.find?_isSome]
  simp only [beq_iff_eq]

theorem touchStream_keeps (store : Store) (plan : AppendPlan) (stream : String) :
    (∃ row ∈ (Store.touchStream plan store).streams, row.stream = stream) ↔
      (∃ row ∈ store.streams, row.stream = stream) ∨ stream = plan.stream := by
  unfold Store.touchStream
  by_cases held : (store.streamKind plan.stream).isSome = true
  · rw [if_pos held]
    obtain ⟨own, inside, named⟩ := streamKind_iff.mp held
    constructor
    · intro touched
      obtain ⟨_, member, rfl⟩ := touched
      obtain ⟨row, stored, rfl⟩ := List.mem_map.mp member
      refine .inl ⟨row, stored, ?_⟩
      split <;> rfl
    · intro either
      have before : ∃ row ∈ store.streams, row.stream = stream := by
        rcases either with before | rfl
        · exact before
        · exact ⟨own, inside, named⟩
      obtain ⟨row, stored, rfl⟩ := before
      refine ⟨_, List.mem_map_of_mem stored, ?_⟩
      split <;> rfl
  · rw [if_neg held]
    simp only [List.mem_append, List.mem_singleton, or_and_right, exists_or, exists_eq_left]
    exact or_congr_right eq_comm

/-- A stream that holds an envelope is on record. -/
theorem streamKind_isSome (reached : (kernel ext config).Reachable world) :
    ∀ row ∈ world.store.envelopes, (world.store.streamKind row.stream).isSome = true := by
  refine World.invariant ext config (fun world =>
    ∀ row ∈ world.store.envelopes, (world.store.streamKind row.stream).isSome = true) ?_ ?_ reached
  · intro row member
    cases member
  · intro world _ next traced known step
    cases step with
    | quiet store accepted tasks =>
        unfold Store.streamKind
        rw [store.envelopes.1, store.envelopes.2.1]
        exact known
    | appends request snapshot validated waiting fresh store accepted tasks =>
        obtain ⟨row, built, _, _, envelopes⟩ := store.envelopes
        have of := Store.envelopeRow_eq_ok built
        intro held member
        rw [envelopes] at member
        rw [streamKind_iff, store.streams, touchStream_keeps]
        rcases List.mem_append.mp member with earlier | last
        · exact .inl (streamKind_iff.mp (known held earlier))
        · rw [List.mem_singleton.mp last]
          exact .inr of.stream

/-- The one envelope a position of a stream holds. -/
theorem range_single (reached : (kernel ext config).Reachable world) {stream : String} {held : EnvelopeRow}
    (stored : held ∈ world.store.ofStream stream) :
    (world.store.range stream held.seq held.seq).head? = some held.canonicalJson.tree := by
  have chain := chains reached stream
  have small := (ofStream_verifiable reached held stored).small
  rw [Store.range_of_chain chain, List.head?_map, saturate_of_lt (by omega)]
  have inside : held ∈ (world.store.ofStream stream).filter fun row =>
      decide (held.seq ≤ row.seq ∧ row.seq ≤ held.seq) := by
    rw [List.mem_filter]
    exact ⟨stored, by simp⟩
  cases first : ((world.store.ofStream stream).filter fun row =>
      decide (held.seq ≤ row.seq ∧ row.seq ≤ held.seq)).head? with
  | none =>
      rw [List.head?_eq_none_iff.mp first] at inside
      cases inside
  | some row =>
      obtain ⟨member, same⟩ := List.mem_filter.mp (List.mem_of_head? first)
      rw [decide_eq_true_eq] at same
      have distinct : ((world.store.ofStream stream).map EnvelopeRow.seq).Nodup :=
        List.pairwise_map.mpr (chain.increasing.imp fun less => Nat.ne_of_lt less)
      have one := List.inj_on_of_nodup_map distinct member stored (by omega)
      rw [one, Option.map_some]

theorem canFollow (reached : (kernel ext config).Reachable world) {stream : String}
    (follows : Follow 0 ((world.store.checkpointsOf stream).map CheckpointEntry.range)) :
    CanFollow ext config world.store stream := by
  intro held stored newer observedAt instant parsed env plan body signer
  have verifiable := ofStream_verifiable reached held stored
  have small := verifiable.small
  obtain ⟨inside, isStream⟩ := List.mem_filter.mp stored
  have known := streamKind_isSome reached held inside
  rw [beq_iff_eq.mp isStream] at known
  let claim : CheckpointClaim := {
    stream, fromSeq := world.store.nextFrom stream, toSeq := held.seq, headHash := held.id, observedAt }
  let checked : AppendPlan := { plan with projections := { plan.projections with checkpoint := some claim } }
  have valid : validateCheckpoint ext config world.store env plan = .ok checked := by
    unfold validateCheckpoint
    simp only [bind_eq_ok, okOr_eq_ok, forEach_eq_ok, require_eq_ok, pure_eq_ok]
    have start : (Value.ofNat (world.store.nextFrom stream)).asU64 = some (world.store.nextFrom stream) :=
      asU64_ofNat (by omega)
    have stop : (Value.ofNat held.seq).asU64 = some held.seq := asU64_ofNat (by omega)
    have count : (Value.ofNat (held.seq - world.store.nextFrom stream + 1)).asU64 =
        some (held.seq - world.store.nextFrom stream + 1) := asU64_ofNat (by omega)
    refine ⟨_, by rw [body]; rfl, (), ?_, (), signer, (claim, held.seq - world.store.nextFrom stream + 1), ?_, instant,
      parsed, (), rfl, (), known, _, range_single reached stored, held.id, verifiable.id, (), rfl, rfl⟩
    · intro key member
      exact member
    · unfold checkpointClaim
      simp only [bind_eq_ok, okOr_eq_ok, pure_eq_ok]
      exact ⟨stream, rfl, _, start, _, stop, _, count, held.id, rfl, observedAt, rfl, rfl⟩
  have projected : checked.projections.checkpoint = some claim := rfl
  refine ⟨checked, _, valid, (Store.writeCheckpoint_iff projected).mpr ⟨rfl, ?_, rfl⟩⟩
  intro row member same
  have bounds := follows.bounds (List.mem_map_of_mem (f := CheckpointEntry.range) member)
  rw [← Store.nextFrom_eq follows] at bounds
  have start : row.fromSeq = saturate (world.store.nextFrom stream) := same
  have within_ : row.fromSeq ≤ row.toSeq ∧ row.toSeq < world.store.nextFrom stream := bounds.2
  rw [saturate_of_lt (by omega)] at start
  omega

/-- The row an accepted envelope was stored as. -/
theorem built_of_taken (reached : (kernel ext config).Reachable world) {taken : Accepted}
    (inside : taken ∈ world.accepted) : ∃ held ∈ world.store.envelopes, Store.envelopeRow taken.plan = .ok held := by
  obtain ⟨index, bound, found⟩ := List.mem_iff_getElem.mp inside
  have rows := (traced reached).rows
  have within_ : index < world.store.envelopes.length := rows.length_eq ▸ bound
  have built := (List.forall₂_iff_get.mp rows).2 index within_ bound
  rw [List.get_eq_getElem, List.get_eq_getElem, found] at built
  exact ⟨_, List.getElem_mem within_, built⟩

theorem CheckpointsOk.range (known : CheckpointsOk world) {taken : Accepted} (inside : taken ∈ world.accepted)
    {claim : CheckpointClaim} (projected : taken.plan.projections.checkpoint = some claim) :
    (Store.checkpointRow taken.plan claim).range = (claim.fromSeq, claim.toSeq) := by
  obtain ⟨low, high⟩ := known.bounded taken inside claim projected
  unfold CheckpointEntry.range Store.checkpointRow
  rw [saturate_of_lt (by omega), saturate_of_lt (by omega)]

theorem partitioned (reached : (kernel ext config).Reachable world) (upright : Upright world) (stream : String) :
    Partitioned ext config world.store stream := by
  have known := checkpointsOk reached
  have follows := known.follows upright stream
  have sorted : (world.store.checkpointsOf stream).insertionSort (fun a b => a.fromSeq ≤ b.fromSeq) =
      world.store.checkpointsOf stream := by
    refine List.Pairwise.insertionSort_eq ?_
    refine (List.pairwise_map.mp follows.increasing).imp_of_mem ?_
    intro a b isA _ less
    have own := (follows.bounds (List.mem_map_of_mem isA)).2.1
    exact own.trans (Nat.le_of_lt less)
  constructor
  · rw [sorted]
    exact follows
  · intro row member
    obtain ⟨taken, inside, claim, projected, rfl⟩ := known.taken row (List.mem_of_mem_filter member)
    obtain ⟨held, stored, built⟩ := built_of_taken reached inside
    obtain ⟨before, after_, at_⟩ := (traced reached).accepted taken inside
    obtain ⟨subjectKey, payloads, admitted⟩ := at_.origin.admitted
    have of := Store.envelopeRow_eq_ok built
    have tree : held.canonicalJson.tree = taken.plan.envelope := by rw [of.canonicalJson, admitted.canonical]
    refine ⟨held, stored, of.id, _, tree ▸ checkpoint_counted reached inside projected, ?_⟩
    have ranges := known.range inside projected
    have ends := upright taken inside claim projected
    unfold CheckpointEntry.range at ranges
    rw [Prod.mk.injEq] at ranges
    omega
  · intro row member
    obtain ⟨inside, named⟩ := List.mem_filter.mp member
    rw [← beq_iff_eq.mp named]
    exact attested reached row inside
  · exact canFollow reached follows

/-- The checkpoints of every stream divide it up, and more of it can still be checkpointed, exactly when no checkpoint
that was taken ends before it starts. -/
theorem checkpoints_partition (reached : (kernel ext config).Reachable world) :
    (∀ stream, Partitioned ext config world.store stream) ↔ Upright world := by
  constructor
  · intro divided taken inside claim projected
    have known := checkpointsOk reached
    have row := known.kept taken inside claim projected
    have range := known.range inside projected
    have listed : Store.checkpointRow taken.plan claim ∈ (world.store.checkpointsOf claim.stream).insertionSort
        fun a b => a.fromSeq ≤ b.fromSeq := by
      rw [List.mem_insertionSort]
      exact List.mem_filter.mpr ⟨row, beq_self_eq_true claim.stream⟩
    have bounds := (divided claim.stream).ranges.bounds (List.mem_map_of_mem listed)
    rw [range] at bounds
    exact bounds.2.1
  · exact fun upright stream => partitioned reached upright stream

/-- Each position up to where the last checkpoint of a stream ends is in one checkpoint of it. -/
theorem checkpointed_once (reached : (kernel ext config).Reachable world) (upright : Upright world) {stream : String}
    {n : Nat} (covered : n < world.store.nextFrom stream) :
    ∃! range, range ∈ (world.store.checkpointsOf stream).map CheckpointEntry.range ∧ range.1 ≤ n ∧ n ≤ range.2 := by
  have follows := (checkpointsOk reached).follows upright stream
  exact follows.covers (Nat.zero_le n) (Store.nextFrom_eq follows ▸ covered)

end World

end Stozher

namespace Stozher.Deployment

open Library Library.Text Recorded Ingest

def checkpoint (seq : Nat) (prev : Option String) (start stop count : Nat) (headHash : String) (sig : Members) : Value :=
  .object ([("checkpoint", .object [("count", .ofNat count), ("from-seq", .ofNat start), ("head-hash", .string headHash),
      ("observed-at", .string nine), ("stream", .string "kernel:core"), ("to-seq", .ofNat stop)]),
    ("emitted-at", .string nine), ("identity", kernelIdentity), ("kind", .string "checkpoint"),
    ("prev-hash", .ofOption prev), ("seq", .ofNat seq)] ++ sig ++
    [("stream", .string "kernel:checkpoints"), ("v", .string "stozher/0.1")])

def coreCheckpoint : Recorded where
  form := checkpoint 0 none 0 1 2 policyChange.digest
  sealed := some (kernelKey, signatureText
    0xc0ab7408faf0651b1ae447fbc813df90983d98bd59d647210b43240ace71a131
    0xef9b71213c4c17f5f50fb0a9e71871fea1beb19ee94c080f501b7109055b1104)
  digest := hex 64 0x9b5fc68aaf0444547151c6e8975dd5132df2ef648a2bb61db34f331dc696234b

/-- A checkpoint of one position, from the next one to the first. -/
def invertedCheckpoint : Recorded where
  form := checkpoint 1 (some coreCheckpoint.digest) 2 0 1 opsGrant.digest
  sealed := some (kernelKey, signatureText
    0x62fc573c531ca79a7733cc683f02894c66751fa04c17fcae6326b45e23c5af93
    0x00ba1dada43ebfc9840d79bec3fc0eb30a38dfb3b9ba3f28bcdfd8b8742b8f00)
  digest := hex 64 0xa95d75873be72dc165021fabd74c3869f987be871a11b0deb9da963a5ade9ace

def checkpointedExt : External :=
  external (records ++ [coreCheckpoint, invertedCheckpoint])

@[irreducible] def invertedWorld : World :=
  (kernel checkpointedExt config).run .initial (founding ++ enter (submission coreCheckpoint.document []) nine ++
    enter (submission invertedCheckpoint.document []) nine)

theorem inverted_reachable : (kernel checkpointedExt config).Reachable invertedWorld := by
  unfold invertedWorld
  exact ⟨.initial, _, rfl, rfl⟩

structure CheckpointsSeen : Prop where
  founding : ((after founding).accepted.map fun taken => taken.plan.projections.checkpoint.isSome) = [false, false]
  inverted : ((invertedWorld.store.checkpointsOf "kernel:core").insertionSort fun a b => a.fromSeq ≤ b.fromSeq).map
    CheckpointEntry.range = [(0, 1), (2, 0)]

theorem checkpoints_seen : CheckpointsSeen := by
  constructor <;> decide +kernel

theorem founding_partitioned : Partitioned ext config (after founding).store "kernel:core" := by
  refine (World.checkpoints_partition (reachable founding)).mpr ?_ "kernel:core"
  intro taken member claim projected
  have seen := List.mem_map_of_mem (f := fun taken : Accepted => taken.plan.projections.checkpoint.isSome) member
  rw [checkpoints_seen.founding, projected, Option.isSome_some] at seen
  exact absurd seen (by decide)

/-- A checkpoint that ends before it starts is accepted. -/
theorem inverted_checkpoint_accepted : ¬∀ (ext : External) config world, (kernel ext config).Reachable world →
    ∀ stream, Partitioned ext config world.store stream := by
  intro divided
  have ranges := (divided _ _ _ inverted_reachable "kernel:core").ranges
  rw [checkpoints_seen.inverted] at ranges
  exact absurd ranges.2.2.2.1 (by decide)

end Stozher.Deployment
