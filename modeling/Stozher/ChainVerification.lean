import Stozher.ChainShape
import Stozher.RejectionChain
import Mathlib.Data.List.Dedup
import Stozher.Deployment

namespace Stozher

open Library Ingest

variable {ext : External} {config : Config}

/-- What every stored envelope is to a verifier: the row's columns, signed and valid. -/
structure EnvelopeRow.Verifiable (ext : External) (row : EnvelopeRow) : Prop where
  stream : row.canonicalJson.tree.getStr "stream" = some row.stream
  seq : row.canonicalJson.tree.getU64 "seq" = some row.seq
  small : row.seq < 2 ^ 53
  prevHash : row.canonicalJson.tree.getStr "prev-hash" = row.prevHash
  id : Signed.objectId ext row.canonicalJson.tree = .ok row.id
  signed : ∃ key, Signed.verifySignedObject ext row.canonicalJson.tree = .ok key
  valid : Envelope.validate ext row.canonicalJson.tree = .ok ()

/-- Rows that leave no position out. -/
def Contiguous (rows : List EnvelopeRow) : Prop :=
  rows.IsChain fun earlier later => later.seq = earlier.seq + 1

namespace World

theorem verifiable {world : World} (reached : (kernel ext config).Reachable world)
    {row : EnvelopeRow} (member : row ∈ world.store.envelopes) : row.Verifiable ext := by
  obtain ⟨taken, _, of, before, after, taking⟩ := row_taken (traced reached) member
  obtain ⟨subjectKey, payloads, admitted⟩ := taking.origin.admitted
  have placed := taking.origin.placed
  have tree : row.canonicalJson.tree = taken.plan.envelope := by
    rw [of.canonicalJson, admitted.canonical]
  have seq : row.seq = taken.plan.seq := by
    rw [of.seq, saturate_of_lt (by have := placed.small; omega)]
  constructor
  · rw [tree, of.stream]
    exact placed.hasStream
  · rw [tree, seq]
    exact placed.hasSeq
  · rw [seq]
    exact placed.small
  · rw [tree, of.prevHash]
    rfl
  · exact row_id reached member
  · rw [tree]
    exact ⟨subjectKey, admitted.signed⟩
  · rw [tree]
    exact admitted.valid

end World

namespace Chain

variable {stream : String}

theorem checkPrevious_unanchored {seq : Nat} {previousId claimed : Option String} :
    checkPrevious none seq previousId claimed = .ok () ↔ previousId = none ∨ claimed = previousId := by
  unfold checkPrevious
  cases previousId with
  | none => cases claimed <;> simp
  | some actual => cases claimed <;> simp [require_eq_ok]

theorem verifyLink_stored {row : EnvelopeRow} (known : row.Verifiable ext) (within : row.stream = stream)
    {expected : Nat} {previousId : Option String} {id : String} :
    verifyLink ext stream none expected previousId row.canonicalJson.tree = .ok id ↔
      row.seq = expected ∧ (previousId = none ∨ row.prevHash = previousId) ∧ row.id = id := by
  obtain ⟨key, signed⟩ := known.signed
  unfold verifyLink
  simp only [known.stream, known.seq, known.prevHash, signed, known.valid, known.id, Except.mapError,
    ok_bind, Option.getD_some, bind_eq_ok, require_eq_ok, Except.ok.injEq]
  constructor
  · rintro ⟨_, _, _, seq, _, previous, same⟩
    exact ⟨seq, checkPrevious_unanchored.mp previous, same⟩
  · rintro ⟨seq, previous, same⟩
    exact ⟨(), within, (), seq, (), checkPrevious_unanchored.mpr previous, same⟩

theorem verifyLinks_contiguous {rows : List EnvelopeRow} (known : ∀ row ∈ rows, row.Verifiable ext)
    (within : ∀ row ∈ rows, row.stream = stream) {expected : Nat} {previousId last : Option String}
    (verified : verifyLinks ext stream none expected previousId
      (rows.map fun row => row.canonicalJson.tree) = .ok last) :
    Contiguous rows ∧ ∀ first, rows.head? = some first → first.seq = expected := by
  induction rows generalizing expected previousId with
  | nil => exact ⟨.nil, by intro first head; cases head⟩
  | cons first rest ih =>
      rw [List.map_cons, verifyLinks, bind_eq_ok] at verified
      obtain ⟨id, link, others⟩ := verified
      rw [verifyLink_stored (known _ List.mem_cons_self) (within _ List.mem_cons_self)] at link
      obtain ⟨contiguous, next⟩ := ih (fun row member => known row (List.mem_cons_of_mem _ member))
        (fun row member => within row (List.mem_cons_of_mem _ member)) others
      refine ⟨?_, ?_⟩
      · cases rest with
        | nil => exact .singleton _
        | cons second tail =>
            refine .cons_cons ?_ contiguous
            rw [next second rfl, link.1]
      · intro other head
        cases head
        exact link.1

theorem verifyLinks_of_contiguous {store : Store} {rows : List EnvelopeRow}
    (known : ∀ row ∈ rows, row.Verifiable ext) (within : ∀ row ∈ rows, row.stream = stream)
    (linked : rows.IsChain store.Follows) (contiguous : Contiguous rows) (expected : Nat)
    (previousId : Option String)
    (starts : ∀ first, rows.head? = some first →
      first.seq = expected ∧ (previousId = none ∨ first.prevHash = previousId)) :
    verifyLinks ext stream none expected previousId (rows.map fun row => row.canonicalJson.tree) =
      .ok (match rows.getLast? with
        | some last => some last.id
        | none => previousId) := by
  induction rows generalizing expected previousId with
  | nil => rfl
  | cons first rest ih =>
      have link : verifyLink ext stream none expected previousId first.canonicalJson.tree = .ok first.id :=
        (verifyLink_stored (known _ List.mem_cons_self) (within _ List.mem_cons_self)).mpr ⟨(starts first rfl).1, (starts first rfl).2, rfl⟩
      rw [List.map_cons, verifyLinks, link, ok_bind]
      cases rest with
      | nil => rfl
      | cons second tail =>
          obtain ⟨follows, laterLinked⟩ := List.isChain_cons_cons.mp linked
          obtain ⟨adjacent, laterContiguous⟩ := List.isChain_cons_cons.mp contiguous
          rw [ih (fun row member => known row (List.mem_cons_of_mem _ member))
            (fun row member => within row (List.mem_cons_of_mem _ member)) laterLinked laterContiguous,
            List.getLast?_cons_cons]
          · cases found : (second :: tail).getLast? with
            | none => simp at found
            | some last => rfl
          · intro other head
            cases head
            refine ⟨by rw [adjacent, (starts first rfl).1], Or.inr ?_⟩
            rcases follows with ⟨_, prevHash⟩ | ⟨gap, _⟩
            · exact prevHash
            · omega

theorem contiguous_of_verifyChain {rows : List EnvelopeRow} (known : ∀ row ∈ rows, row.Verifiable ext)
    (within : ∀ row ∈ rows, row.stream = stream) {result : ChainResult}
    (verified : verifyChain ext (rows.map fun row => row.canonicalJson.tree) stream none = .ok result) :
    Contiguous rows := by
  unfold verifyChain at verified
  simp only [bind_eq_ok] at verified
  obtain ⟨_, _, _, links, _⟩ := verified
  exact (verifyLinks_contiguous known within links).1

/-- A range of linked rows that leaves no position out verifies to its last row. -/
theorem verifyChain_of_contiguous {store : Store} {rows : List EnvelopeRow} {first last : EnvelopeRow}
    (known : ∀ row ∈ rows, row.Verifiable ext) (within : ∀ row ∈ rows, row.stream = stream)
    (linked : rows.IsChain store.Follows) (contiguous : Contiguous rows)
    (starts : rows.head? = some first) (ends : rows.getLast? = some last) :
    verifyChain ext (rows.map fun row => row.canonicalJson.tree) stream none =
      .ok { count := rows.length, headHash := last.id, anchored := first.seq == 0 } := by
  have firstSeq : (first.canonicalJson.tree.getU64 "seq").getD 0 = first.seq := by
    rw [(known first (List.mem_of_head? starts)).seq, Option.getD_some]
  have links := verifyLinks_of_contiguous known within linked contiguous first.seq none (fun other head => by
      rw [starts] at head
      cases head
      exact ⟨rfl, Or.inl rfl⟩)
  unfold verifyChain
  rw [List.head?_map, starts, Option.map_some]
  simp only [okOr, ok_bind, firstSeq, links, ends, List.length_map]
  simp [pure, Except.pure]

end Chain

namespace Store

variable {store : Store} {stream : String}

theorem range_of_chain (chain : ChainOk store stream) (fromSeq toSeq : Nat) :
    store.range stream fromSeq toSeq = ((store.ofStream stream).filter fun row =>
      decide (saturate fromSeq ≤ row.seq ∧ row.seq ≤ saturate toSeq)).map
        fun row => row.canonicalJson.tree := by
  unfold range
  rw [List.Pairwise.insertionSort_eq]
  exact (chain.increasing.filter _).imp fun less => le_of_lt less

/-- A range from the start keeps the rows up to a position. -/
def upTo (rows : List EnvelopeRow) (toSeq : Nat) : List EnvelopeRow :=
  rows.filter fun row => decide (row.seq ≤ saturate toSeq)

theorem range_from_start (chain : ChainOk store stream) (toSeq : Nat) :
    store.range stream 0 toSeq =
      (upTo (store.ofStream stream) toSeq).map fun row => row.canonicalJson.tree := by
  rw [range_of_chain chain]
  unfold upTo
  simp [saturate]

/-- The rows up to a position come before the others. -/
theorem upTo_isPrefix {rows : List EnvelopeRow} (increasing : rows.Pairwise fun a b => a.seq < b.seq)
    (toSeq : Nat) : upTo rows toSeq <+: rows := by
  induction rows with
  | nil => exact List.prefix_refl _
  | cons first rest ih =>
      obtain ⟨below, later⟩ := List.pairwise_cons.mp increasing
      unfold upTo at ih ⊢
      by_cases within : first.seq ≤ saturate toSeq
      · rw [List.filter_cons_of_pos (by simpa using within), List.prefix_cons_inj]
        exact ih later
      · have none : (first :: rest).filter (fun row => decide (row.seq ≤ saturate toSeq)) = [] := by
          rw [List.filter_eq_nil_iff]
          intro row member
          rcases List.mem_cons.mp member with rfl | other
          · simpa using within
          · have := below row other
            simp only [decide_eq_true_eq]
            omega
        rw [none]
        exact List.nil_prefix

theorem upTo_getLast? {rows : List EnvelopeRow} (increasing : rows.Pairwise fun a b => a.seq < b.seq)
    {held : EnvelopeRow} {toSeq : Nat} (member : held ∈ rows) (top : held.seq = saturate toSeq) :
    (upTo rows toSeq).getLast? = some held := by
  have within : held ∈ upTo rows toSeq := by
    unfold upTo
    simp [member, top]
  have sorted : (upTo rows toSeq).Pairwise fun a b => a.seq < b.seq := increasing.filter _
  have topped := Table.topBy_of_increasing sorted
  cases ends : (upTo rows toSeq).getLast? with
  | none =>
      rw [List.getLast?_eq_none_iff] at ends
      rw [ends] at within
      cases within
  | some last =>
      rw [ends] at topped
      have above := Table.topBy_le topped within
      have inside := Table.topBy_mem topped
      have below : last.seq ≤ saturate toSeq := by
        have kept := (List.mem_filter.mp inside).2
        simpa using kept
      have distinct : (rows.map EnvelopeRow.seq).Nodup := by
        rw [List.Nodup, List.pairwise_map]
        exact increasing.imp fun less => Nat.ne_of_lt less
      have same := List.inj_on_of_nodup_map distinct (List.mem_of_mem_filter inside) member (by omega)
      rw [same]

end Store

namespace World

variable {world : World} {stream : String}

theorem ofStream_verifiable (reached : (kernel ext config).Reachable world) :
    ∀ row ∈ world.store.ofStream stream, row.Verifiable ext :=
  fun _ member => verifiable reached (List.mem_of_mem_filter member)

theorem ofStream_within : ∀ row ∈ world.store.ofStream stream, row.stream = stream := by
  intro row member
  simpa using (List.mem_filter.mp member).2

/-- The range up to a stored envelope verifies to that envelope. -/
theorem verifyRange_of_contiguous (reached : (kernel ext config).Reachable world)
    (contiguous : Contiguous (world.store.ofStream stream)) {first held : EnvelopeRow} (toSeq : Nat)
    (starts : (world.store.ofStream stream).head? = some first)
    (member : held ∈ world.store.ofStream stream) (top : held.seq = saturate toSeq) :
    ∃ count, Chain.verifyChain ext (world.store.range stream 0 toSeq) stream none =
      .ok { count, headHash := held.id, anchored := first.seq == 0 } := by
  have chain := chains reached stream
  have before := Store.upTo_isPrefix chain.increasing toSeq
  have ends := Store.upTo_getLast? chain.increasing member top
  have begins : (Store.upTo (world.store.ofStream stream) toSeq).head? = some first := by
    obtain ⟨others, split⟩ := before
    cases found : Store.upTo (world.store.ofStream stream) toSeq with
    | nil =>
        rw [found] at ends
        cases ends
    | cons head tail =>
        rw [← split, found] at starts
        exact starts
  have linked := List.IsChain.prefix chain.linked before
  have gapless := List.IsChain.prefix contiguous before
  rw [Store.range_from_start chain]
  exact ⟨_, Chain.verifyChain_of_contiguous
    (fun row inside => ofStream_verifiable reached row (before.subset inside))
    (fun row inside => ofStream_within row (before.subset inside)) linked gapless begins ends⟩

/-- The head of a stream is a stored envelope. -/
theorem head_held (reached : (kernel ext config).Reachable world) {headSeq : Nat} {headId : String}
    (head : world.store.streamHead stream = some (headSeq, headId)) :
    ∃ first held, (world.store.ofStream stream).head? = some first ∧
      held ∈ world.store.ofStream stream ∧ held.seq = saturate headSeq ∧ held.id = headId := by
  rw [Store.streamHead_eq (chains reached stream), Option.map_eq_some_iff] at head
  obtain ⟨held, ends, same⟩ := head
  cases same
  have member := List.mem_of_getLast? ends
  obtain ⟨first, rest, split⟩ := List.exists_cons_of_ne_nil (List.ne_nil_of_mem member)
  have small := (ofStream_verifiable reached held member).small
  exact ⟨first, held, by rw [split, List.head?_cons], member, (saturate_of_lt (by omega)).symm, rfl⟩

theorem contiguous_of_verifyHead (reached : (kernel ext config).Reachable world) {headSeq : Nat}
    {headId : String} (head : world.store.streamHead stream = some (headSeq, headId))
    {result : Chain.ChainResult}
    (verified : Chain.verifyChain ext (world.store.range stream 0 headSeq) stream none = .ok result) :
    Contiguous (world.store.ofStream stream) := by
  have chain := chains reached stream
  obtain ⟨first, held, starts, member, top, _⟩ := head_held reached head
  have before := Store.upTo_isPrefix chain.increasing headSeq
  have ends := Store.upTo_getLast? chain.increasing member top
  have whole : Store.upTo (world.store.ofStream stream) headSeq = world.store.ofStream stream := by
    unfold Store.upTo
    rw [List.filter_eq_self]
    intro row inside
    rw [Store.streamHead_eq chain, ← Table.topBy_of_increasing chain.increasing,
      Option.map_eq_some_iff] at head
    obtain ⟨last, topped, same⟩ := head
    cases same
    have below := Table.topBy_le topped inside
    have small := (ofStream_verifiable reached last (Table.topBy_mem topped)).small
    rw [saturate_of_lt (by omega)]
    simpa using below
  rw [Store.range_from_start chain, whole] at verified
  exact Chain.contiguous_of_verifyChain (ofStream_verifiable reached) ofStream_within verified

/-- Every checkpoint attests a stored envelope. -/
def Attested (world : World) : Prop :=
  ∀ row ∈ world.store.checkpoints, ∃ held ∈ world.store.ofStream row.stream,
    held.seq = row.toSeq ∧ held.id = row.headHash

theorem Attested.grows {next : World} (attested : Attested world)
    (grows : world.store.Grows next.store) {row : CheckpointEntry}
    (member : row ∈ world.store.checkpoints) :
    ∃ held ∈ next.store.ofStream row.stream, held.seq = row.toSeq ∧ held.id = row.headHash := by
  obtain ⟨held, stored, known⟩ := attested row member
  exact ⟨held, (grows.envelopes.filter _).subset stored, known⟩

/-- What a validated checkpoint attests is stored where it was validated. -/
theorem Origin.attested {request : Submission} {snapshot : Store} {plan : AppendPlan}
    (origin : Origin ext config world request snapshot plan) {claim : CheckpointClaim}
    (projected : plan.projections.checkpoint = some claim) :
    ∃ held ∈ snapshot.ofStream claim.stream,
      held.seq = saturate claim.toSeq ∧ held.id = claim.headHash := by
  obtain ⟨past, reached, rfl, _⟩ := origin.earlier
  obtain ⟨subjectKey, payloads, admitted⟩ := origin.admitted
  obtain ⟨_, other, _, attested, _, _, found, hashed, same⟩ :=
    validateCheckpoint_eq_ok (admitted.rule.ceremony.attests projected)
  rw [same] at projected
  cases projected
  rw [Store.range_of_chain (chains reached claim.stream), List.head?_map,
    Option.map_eq_some_iff] at found
  obtain ⟨held, isHead, rfl⟩ := found
  have inside := List.mem_filter.mp (List.mem_of_head? isHead)
  have at_ := inside.2
  rw [decide_eq_true_eq] at at_
  have identified := (ofStream_verifiable reached held inside.1).id
  rw [hashed, Except.ok.injEq] at identified
  exact ⟨held, inside.1, by omega, identified.symm⟩

theorem attested (reached : (kernel ext config).Reachable world) : Attested world := by
  refine World.invariant ext config Attested ?_ ?_ reached
  · intro row member
    cases member
  · intro world _ next known holds step row member
    have grows := step.grows
    cases step with
    | quiet store accepted tasks =>
        rw [store.envelopes.2.2.2.2.2.2.2.2.2] at member
        exact holds.grows grows member
    | appends request snapshot validated waiting fresh store accepted tasks =>
        obtain ⟨rows, checkpoints, written⟩ := store.checkpoints
        rw [checkpoints] at member
        rcases List.mem_append.mp member with earlier | new
        · exact holds.grows grows earlier
        · obtain ⟨claim, from_⟩ := written row new
          have origin := known.tasks _ _ _ waiting
          obtain ⟨held, stored, top, id⟩ := origin.attested from_.projected
          refine ⟨held, ?_, by rw [top, from_.toSeq], by rw [id, from_.headHash]⟩
          rw [from_.stream]
          exact ((origin.seen.trans grows).envelopes.filter _).subset stored

theorem verifyCheckpoint_of_contiguous (reached : (kernel ext config).Reachable world)
    (contiguous : Contiguous (world.store.ofStream stream)) :
    world.store.verifyCheckpoint ext stream = .ok () := by
  unfold Store.verifyCheckpoint Store.lastCheckpoint
  cases last : Table.topBy CheckpointEntry.toSeq
      (world.store.checkpoints.filter fun row => row.stream == stream) with
  | none => rfl
  | some row =>
      obtain ⟨member, within⟩ := List.mem_filter.mp (Table.topBy_mem last)
      rw [beq_iff_eq] at within
      subst within
      obtain ⟨held, stored, top, id⟩ := attested reached row member
      obtain ⟨first, rest, split⟩ := List.exists_cons_of_ne_nil (List.ne_nil_of_mem stored)
      have small := (ofStream_verifiable reached held stored).small
      obtain ⟨count, verified⟩ := verifyRange_of_contiguous reached contiguous row.toSeq
        (by rw [split, List.head?_cons]) stored (by rw [← top, saturate_of_lt (by omega)])
      rw [Option.map_some]
      dsimp only
      rw [verified, ok_bind, require_eq_ok]
      exact id

/-- A held stream verifies exactly when it leaves no position out. -/
theorem verifyStream_iff (reached : (kernel ext config).Reachable world) {first : EnvelopeRow}
    (starts : (world.store.ofStream stream).head? = some first) :
    (∃ report, world.store.verifyStream ext stream = .ok report ∧
      (report.anchored = true ↔ first.seq = 0)) ↔ Contiguous (world.store.ofStream stream) := by
  have head : ∃ headSeq headId, world.store.streamHead stream = some (headSeq, headId) := by
    rw [Store.streamHead_eq (chains reached stream)]
    cases ends : (world.store.ofStream stream).getLast? with
    | none =>
        rw [List.getLast?_eq_none_iff] at ends
        rw [ends] at starts
        cases starts
    | some last => exact ⟨last.seq, last.id, rfl⟩
  obtain ⟨headSeq, headId, head⟩ := head
  unfold Store.verifyStream
  rw [head]
  simp only [okOr, ok_bind, bind_eq_ok, pure_eq_ok]
  constructor
  · rintro ⟨report, ⟨result, verified, _⟩, _⟩
    exact contiguous_of_verifyHead reached head verified
  · intro contiguous
    obtain ⟨other, held, begins, member, top, _⟩ := head_held reached head
    rw [starts] at begins
    cases begins
    obtain ⟨count, verified⟩ := verifyRange_of_contiguous reached contiguous _ starts member top
    refine ⟨_, ⟨_, verified, (), verifyCheckpoint_of_contiguous reached contiguous, rfl⟩, ?_⟩
    simp

theorem verifyHeldStream_iff (reached : (kernel ext config).Reachable world) :
    world.store.verifyHeldStream ext stream = .ok () ↔ Contiguous (world.store.ofStream stream) := by
  unfold Store.verifyHeldStream
  cases head : world.store.streamHead stream with
  | none =>
      rw [Store.streamHead_eq (chains reached stream), Option.map_eq_none_iff,
        List.getLast?_eq_none_iff] at head
      rw [head]
      exact ⟨fun _ => .nil, fun _ => rfl⟩
  | some pair =>
      obtain ⟨headSeq, headId⟩ := pair
      dsimp only
      rw [bind_eq_ok]
      constructor
      · rintro ⟨result, verified, _⟩
        exact contiguous_of_verifyHead reached head verified
      · intro contiguous
        obtain ⟨first, held, starts, member, top, _⟩ := head_held reached head
        obtain ⟨count, verified⟩ := verifyRange_of_contiguous reached contiguous _ starts member top
        exact ⟨_, verified, rfl⟩

theorem mem_streamsHoldingEnvelopes :
    stream ∈ world.store.streamsHoldingEnvelopes ↔ world.store.ofStream stream ≠ [] := by
  unfold Store.streamsHoldingEnvelopes Store.ofStream
  rw [List.mem_insertionSort, List.mem_dedup, List.mem_map, ne_eq, List.filter_eq_nil_iff]
  simp only [beq_iff_eq, not_forall, not_not, exists_prop]

/-- Every chain the store holds verifies exactly when no stream leaves a position out. -/
theorem verifyEveryChain_iff (signs : config.kernelKey.Signs ext)
    (reached : (kernel ext config).Reachable world)
    (counted : world.store.rejections.length ≤ 2 ^ 53 + 1) :
    world.store.verifyEveryChain ext config.rejectionStream = .ok () ↔
      ∀ stream, Contiguous (world.store.ofStream stream) := by
  obtain ⟨last, rejections⟩ := verifyRejectionChain_held signs reached counted
  unfold Store.verifyEveryChain
  rw [bind_eq_ok]
  constructor
  · rintro ⟨_, streams, _⟩ stream
    by_cases empty : world.store.ofStream stream = []
    · rw [empty]
      exact .nil
    · exact (verifyHeldStream_iff reached).mp
        (forEach_eq_ok.mp streams stream (mem_streamsHoldingEnvelopes.mpr empty))
  · intro contiguous
    refine ⟨(), forEach_eq_ok.mpr fun stream _ => (verifyHeldStream_iff reached).mpr (contiguous stream), ?_⟩
    rw [rejections]
    rfl

/-- A step that takes an envelope across a bridge, two positions past the head of its stream. -/
def Crosses (ext : External) (config : Config) (world : World) (action : Action) : Prop :=
  ∃ taken headSeq headId, (step ext config world action).accepted = world.accepted ++ [taken] ∧
    world.store.streamHead taken.plan.stream = some (headSeq, headId) ∧
    taken.plan.seq = headSeq + 2

theorem contiguous_concat {rows : List EnvelopeRow} {row : EnvelopeRow} :
    Contiguous (rows ++ [row]) ↔
      Contiguous rows ∧ ∀ last, rows.getLast? = some last → row.seq = last.seq + 1 := by
  unfold Contiguous
  rw [List.isChain_append]
  simp

/-- A row leaves the streams without gaps exactly when it comes right after the last one of its own. -/
theorem contiguous_append {store next : Store} {row : EnvelopeRow}
    (envelopes : next.envelopes = store.envelopes ++ [row]) :
    (∀ stream, Contiguous (next.ofStream stream)) ↔ (∀ stream, Contiguous (store.ofStream stream)) ∧
      ∀ last, (store.ofStream row.stream).getLast? = some last → row.seq = last.seq + 1 := by
  have here := Store.ofStream_append row.stream envelopes
  rw [if_pos rfl] at here
  have elsewhere : ∀ stream, stream ≠ row.stream → next.ofStream stream = store.ofStream stream := by
    intro stream other
    rw [Store.ofStream_append stream envelopes, if_neg (fun same => other same.symm), List.append_nil]
  constructor
  · intro contiguous
    have extended := contiguous row.stream
    rw [here, contiguous_concat] at extended
    refine ⟨fun stream => ?_, extended.2⟩
    by_cases same : stream = row.stream
    · exact same ▸ extended.1
    · exact elsewhere stream same ▸ contiguous stream
  · rintro ⟨contiguous, adjacent⟩ stream
    by_cases same : stream = row.stream
    · subst same
      rw [here, contiguous_concat]
      exact ⟨contiguous _, adjacent⟩
    · rw [elsewhere stream same]
      exact contiguous stream

theorem crosses_iff {action : Action} {taken : Accepted}
    (accepted : (step ext config world action).accepted = world.accepted ++ [taken]) :
    Crosses ext config world action ↔ ∃ headSeq headId,
      world.store.streamHead taken.plan.stream = some (headSeq, headId) ∧ taken.plan.seq = headSeq + 2 := by
  constructor
  · rintro ⟨other, headSeq, headId, grown, isHead, across⟩
    rw [accepted, List.append_cancel_left_eq, List.cons.injEq] at grown
    obtain ⟨rfl, _⟩ := grown
    exact ⟨headSeq, headId, isHead, across⟩
  · rintro ⟨headSeq, headId, isHead, across⟩
    exact ⟨taken, headSeq, headId, accepted, isHead, across⟩

/-- An envelope of a stream that has one is taken right after the head, or across one position. -/
theorem seq_of_position {store : Store} {plan : AppendPlan} {headSeq : Nat} {headId : String}
    (passed : Store.checkPosition store plan = .ok ())
    (head : store.streamHead plan.stream = some (headSeq, headId)) :
    plan.seq = headSeq + 1 ∨ plan.seq = headSeq + 2 := by
  cases Store.checkPosition_eq_ok.mp passed with
  | first empty _ _ =>
      rw [head] at empty
      cases empty
  | firstBridged _ empty _ _ _ =>
      rw [head] at empty
      cases empty
  | next headSeq headId found after _ =>
      rw [head] at found
      cases found
      exact .inl after
  | nextBridged headSeq headId _ found after _ _ =>
      rw [head] at found
      cases found
      exact .inr after

/-- One step keeps the streams without gaps exactly when it crosses no bridge. -/
theorem contiguous_step (reached : (kernel ext config).Reachable world) (action : Action) :
    (∀ stream, Contiguous ((step ext config world action).store.ofStream stream)) ↔
      (∀ stream, Contiguous (world.store.ofStream stream)) ∧ ¬ Crosses ext config world action := by
  have known := traced reached
  cases step_cases ext config world action with
  | quiet store accepted tasks =>
      have streams : ∀ stream, (step ext config world action).store.ofStream stream =
          world.store.ofStream stream := by
        intro stream
        unfold Store.ofStream
        rw [store.envelopes.1]
      have stays : ¬ Crosses ext config world action := by
        rintro ⟨taken, _, _, grown, _⟩
        rw [accepted] at grown
        have := congrArg List.length grown
        simp at this
      simp only [streams, stays, not_false_eq_true, and_true]
  | appends request snapshot validated waiting fresh store accepted tasks =>
      obtain ⟨row, built, _, _, envelopes⟩ := store.envelopes
      have of := Store.envelopeRow_eq_ok built
      have placed := (known.tasks _ _ _ waiting).placed
      have seq : row.seq = validated.plan.seq := by
        rw [of.seq, saturate_of_lt (by have := placed.small; omega)]
      have head := Store.streamHead_eq (chains reached validated.plan.stream)
      rw [contiguous_append envelopes, crosses_iff accepted, of.stream, seq]
      apply and_congr_right
      intro _
      constructor
      · rintro adjacent ⟨headSeq, headId, isHead, across⟩
        rw [head, Option.map_eq_some_iff] at isHead
        obtain ⟨last, ends, same⟩ := isHead
        cases same
        have after := adjacent last ends
        dsimp only at across
        omega
      · intro apart last ends
        rw [ends] at head
        rcases seq_of_position store.position head with after | across
        · exact after
        · exact absurd ⟨last.seq, last.id, head, across⟩ apart

/-- A run leaves the streams without gaps exactly when none of its steps crosses a bridge. -/
theorem contiguous_run (actions : List Action) :
    (∀ stream, Contiguous (((kernel ext config).run World.initial actions).store.ofStream stream)) ↔
      ∀ before action after, actions = before ++ action :: after →
        ¬ Crosses ext config ((kernel ext config).run World.initial before) action := by
  induction actions using List.reverseRecOn with
  | nil =>
      refine ⟨fun _ before action after split => by simp at split, fun _ stream => ?_⟩
      exact .nil
  | append_singleton actions last ih =>
      have reached : (kernel ext config).Reachable ((kernel ext config).run World.initial actions) :=
        ⟨World.initial, actions, rfl, rfl⟩
      rw [System.run_append, System.run_cons, System.run_nil]
      refine (contiguous_step reached last).trans ?_
      rw [ih]
      constructor
      · rintro ⟨earlier, final⟩ before action after split
        rcases List.eq_nil_or_concat after with rfl | ⟨between, other, rfl⟩
        · obtain ⟨rfl, same⟩ := List.append_inj' split rfl
          cases same
          exact final
        · rw [List.concat_eq_append, ← List.cons_append, ← List.append_assoc] at split
          obtain ⟨here, _⟩ := List.append_inj' split rfl
          exact earlier before action between here
      · intro each
        refine ⟨fun before action after split => ?_, each actions last [] rfl⟩
        refine each before action (after ++ [last]) ?_
        rw [split, List.append_assoc, List.cons_append]

/-- What a verifier is owed of a store: each stream that holds envelopes verifies, as anchored when it
starts at its first position, and so does everything verified at once. -/
structure Verifies (ext : External) (config : Config) (world : World) : Prop where
  streams : ∀ stream first, (world.store.ofStream stream).head? = some first →
    ∃ report, world.store.verifyStream ext stream = .ok report ∧
      (report.anchored = true ↔ first.seq = 0)
  everyChain : world.store.verifyEveryChain ext config.rejectionStream = .ok ()

/-- After a run everything the kernel holds verifies exactly when no append crossed a bridge past the
head of its stream. -/
theorem verifies_iff_uncrossed (signs : config.kernelKey.Signs ext) (actions : List Action)
    (counted : ((kernel ext config).run World.initial actions).store.rejections.length ≤ 2 ^ 53 + 1) :
    Verifies ext config ((kernel ext config).run World.initial actions) ↔
      ∀ before action after, actions = before ++ action :: after →
        ¬ Crosses ext config ((kernel ext config).run World.initial before) action := by
  have reached : (kernel ext config).Reachable ((kernel ext config).run World.initial actions) :=
    ⟨World.initial, actions, rfl, rfl⟩
  rw [← contiguous_run]
  constructor
  · intro verifies
    exact (verifyEveryChain_iff signs reached counted).mp verifies.everyChain
  · intro contiguous
    exact ⟨fun stream first starts => (verifyStream_iff reached starts).mpr (contiguous stream),
      (verifyEveryChain_iff signs reached counted).mpr contiguous⟩

end World

end Stozher

namespace Stozher.Deployment

open World

theorem kernel_signs : config.kernelKey.Signs ext := by
  have hex : (records.all fun recorded => recorded.sealed.all fun entry =>
      entry.1 != kernelId.text || decide (Crypto.decodeHex 64 entry.2 = .ok entry.2)) = true := by decide +kernel
  refine Recorded.signs ?_
  intro recorded member value isSealed
  have one := List.all_eq_true.mp hex recorded member
  rw [isSealed, Option.all_some] at one
  dsimp only at one
  rw [bne_self_eq_false, Bool.false_or] at one
  exact of_decide_eq_true one

theorem resumed_verifies_iff :
    Verifies ext config (after resumed) ↔ ∀ before action later, resumed = before ++ action :: later →
      ¬ Crosses ext config (after before) action := by
  have refused := congrArg Observed.bridging observed_eq
  dsimp only [observed] at refused
  have rows := congrArg StreamSeen.refused refused
  dsimp only [streamSeen] at rows
  have counted := congrArg List.length rows
  rw [List.length_map] at counted
  have verifies := verifies_iff_uncrossed kernel_signs resumed (by rw [run_initial, counted]; decide)
  simp only [run_initial] at verifies
  exact verifies

/-- A stream that crosses an authorized bridge no longer verifies. -/
theorem bridged_stream_fails :
    (kernel ext config).Reachable (after (resumed ++ [.perform 1])) ∧
      (∃ error, (after (resumed ++ [.perform 1])).store.verifyStream ext "ops:notes" = .error error ∧
        error.code = "chain-seq-gap") ∧
      ∃ error, (after (resumed ++ [.perform 1])).store.verifyEveryChain ext config.rejectionStream = .error error ∧
        error.code = "chain-seq-gap" := by
  have broken := congrArg Observed.broken observed_eq
  dsimp only [observed] at broken
  rw [Prod.mk.injEq] at broken
  exact ⟨reachable _, refusal_eq_some broken.1, refusal_eq_some broken.2⟩

end Stozher.Deployment
