import Mathlib.Data.List.Dedup
import Stozher.ChainShape
import Stozher.Deployment
import Stozher.RejectionChain
import Stozher.Sync

namespace Stozher

open Library Ingest

def StreamKind.text : StreamKind → String
  | .effect => "effect"
  | .signal => "signal"

/-- What the stream surface says of one stream. -/
structure StreamRecord where
  stream : String
  streamKind : Option String
  headSeq : Option Nat
  headHash : Option String
  firstSeenAt : Option String
  lastAppendedAt : Option String
  lastRefusedAt : Option String
  lastRefusalReason : Option String
  deriving DecidableEq

namespace Store

variable (store : Store)

/-- The refusals that claimed to be of a stream. -/
def refusalsOf (stream : String) : List RejectionRow :=
  store.rejections.filter fun row => row.claimedStream == some stream

/-- Every stream an envelope is of or a refused one claimed to be of. -/
def streamsKnown : List String :=
  (store.envelopes.map EnvelopeRow.stream ++ store.rejections.filterMap RejectionRow.claimedStream).dedup.insertionSort
    (· ≤ ·)

def streamRow (stream : String) : Option StreamRow :=
  store.streams.find? fun row => row.stream == stream

def streamRecord (stream : String) : StreamRecord :=
  let accepted := Table.topBy EnvelopeRow.seq (store.ofStream stream)
  let refused := Table.topBy RejectionRow.seq (store.refusalsOf stream)
  let row := store.streamRow stream
  { stream
    streamKind := (row.map fun row => row.streamKind.text) <|> accepted.map EnvelopeRow.kind
    headSeq := accepted.map EnvelopeRow.seq
    headHash := accepted.map EnvelopeRow.id
    firstSeenAt := row.map StreamRow.firstSeenAt
    lastAppendedAt := row.map StreamRow.lastAppendedAt
    lastRefusedAt := refused.map RejectionRow.receivedAt
    lastRefusalReason := refused.map RejectionRow.reason }

/-- Every stream, with its head and the last append and refusal. -/
def streamRecords : List StreamRecord :=
  store.streamsKnown.map store.streamRecord

end Store

/-- Seconds between two timestamps. -/
def ageSeconds (start stop : String) : Option Int := do
  let start ← (Clock.parseTimestamp start).toOption
  let stop ← (Clock.parseTimestamp stop).toOption
  return (stop - start).tdiv 1000

namespace StreamRecord

/-- Where the console shows a stream to stand. -/
def status (record : StreamRecord) (now : String) (quietAfter : Int) : Sync.StreamStatus :=
  Sync.streamStatus record.lastAppendedAt record.lastRefusedAt (record.lastAppendedAt.bind (ageSeconds · now)) quietAfter

/-- What is to be said of a stream, from what was accepted of it and what was refused, each in order. -/
def told (stream : String) (taken : List Accepted) (refused : List RejectionRow) : StreamRecord where
  stream
  streamKind := taken.head?.map fun first => first.plan.streamKind.text
  headSeq := taken.getLast?.map fun last => last.plan.seq
  headHash := taken.getLast?.map fun last => last.plan.id
  firstSeenAt := taken.head?.map fun first => first.plan.receivedAt
  lastAppendedAt := taken.getLast?.map fun last => last.plan.receivedAt
  lastRefusedAt := refused.getLast?.map RejectionRow.receivedAt
  lastRefusalReason := refused.getLast?.map RejectionRow.reason

variable {record : StreamRecord} {now : String} {quietAfter : Int}

/-- A stream is shown as refused when nothing was appended to it after its last refusal. -/
theorem status_refused : record.status now quietAfter = .refused ↔
    ∃ refusedAt, record.lastRefusedAt = some refusedAt ∧
      ∀ appendedAt, record.lastAppendedAt = some appendedAt → appendedAt ≤ refusedAt := by
  unfold status Sync.streamStatus
  have later : (record.lastRefusedAt.any fun refused => record.lastAppendedAt.all fun accepted => accepted ≤ refused) =
      true ↔ ∃ refusedAt, record.lastRefusedAt = some refusedAt ∧
        ∀ appendedAt, record.lastAppendedAt = some appendedAt → appendedAt ≤ refusedAt := by
    rw [Option.any_eq_true]
    apply exists_congr
    intro refusedAt
    apply and_congr_right
    intro _
    cases record.lastAppendedAt with
    | none => simp
    | some appendedAt => simp
  by_cases refused : (record.lastRefusedAt.any fun refused =>
      record.lastAppendedAt.all fun accepted => accepted ≤ refused) = true
  · rw [if_pos refused]
    exact iff_of_true rfl (later.mp refused)
  · rw [if_neg refused]
    refine iff_of_false ?_ fun known => refused (later.mpr known)
    cases record.lastAppendedAt.bind (ageSeconds · now) with
    | none => simp
    | some silent =>
        dsimp only
        split <;> simp

/-- A stream is shown as healthy when it was appended to no longer ago than it may be silent and not refused since. -/
theorem status_healthy : record.status now quietAfter = .healthy ↔
    record.status now quietAfter ≠ .refused ∧ ∃ appendedAt silent, record.lastAppendedAt = some appendedAt ∧
      ageSeconds appendedAt now = some silent ∧ silent ≤ quietAfter := by
  have recent : (∃ appendedAt silent, record.lastAppendedAt = some appendedAt ∧
      ageSeconds appendedAt now = some silent ∧ silent ≤ quietAfter) ↔
        ∃ silent, record.lastAppendedAt.bind (ageSeconds · now) = some silent ∧ silent ≤ quietAfter := by
    simp only [Option.bind_eq_some_iff]
    constructor
    · rintro ⟨appendedAt, silent, appended, age, within_⟩
      exact ⟨silent, ⟨appendedAt, appended, age⟩, within_⟩
    · rintro ⟨silent, ⟨appendedAt, appended, age⟩, within_⟩
      exact ⟨appendedAt, silent, appended, age, within_⟩
  rw [recent]
  unfold status Sync.streamStatus
  split
  · simp
  · cases record.lastAppendedAt.bind (ageSeconds · now) with
    | none => simp
    | some silent =>
        dsimp only
        by_cases quiet : quietAfter < silent
        · simp [quiet]
        · simp [quiet, not_lt.mp quiet]

end StreamRecord

variable {ext : External} {config : Config} {world : World}

namespace Store

/-- The refusals are of one stream, each at a later position than those before it. -/
structure Numbered (config : Config) (rows : List RejectionRow) : Prop where
  increasing : rows.Pairwise fun a b => a.seq < b.seq
  streams : ∀ row ∈ rows, row.stream = config.rejectionStream
  small : ∀ row ∈ rows, row.seq < 2 ^ 63

/-- A refusal is recorded past the others, and none is once the positions are used up. -/
theorem Numbered.record {store next : Store} {input : RejectionInput} {recorded : RejectionRecord}
    (numbered : Numbered config store.rejections)
    (done : store.recordRejection ext config.rejectionStream config.kernelKey input = .ok (next, recorded)) :
    Numbered config next.rejections := by
  have all : store.rejections.filter (fun row => row.stream == config.rejectionStream) = store.rejections := by
    rw [List.filter_eq_self]
    intro row member
    simp [numbered.streams row member]
  unfold recordRejection at done
  dsimp only at done
  rw [all] at done
  simp only [bind_eq_ok, require_eq_ok, pure_eq_ok, Prod.mk.injEq] at done
  obtain ⟨record, _, canonical, _, id, _, _, unique, rfl, _⟩ := done
  have past : ∀ row ∈ store.rejections,
      row.seq < saturate (seqAfter (Table.topBy RejectionRow.seq store.rejections)) := by
    intro row member
    cases top : Table.topBy RejectionRow.seq store.rejections with
    | none =>
        rw [Table.topBy_eq_none.mp top] at member
        cases member
    | some last =>
        rw [top] at unique
        have held := Table.topBy_mem top
        have above := Table.topBy_le top member
        have small := numbered.small last held
        have free := List.all_eq_true.mp unique last held
        simp only [numbered.streams last held, beq_self_eq_true, Bool.true_and, Bool.and_eq_true,
          Bool.not_eq_true', beq_eq_false_iff_ne] at free
        have other := free.1
        unfold saturate seqAfter at other ⊢
        dsimp only at other ⊢
        omega
  refine ⟨List.pairwise_append.mpr ⟨numbered.increasing, List.pairwise_singleton _ _, ?_⟩, ?_, ?_⟩
  · intro row member new isNew
    rw [List.mem_singleton.mp isNew]
    exact past row member
  · intro row member
    rcases List.mem_append.mp member with earlier | new
    · exact numbered.streams row earlier
    · rw [List.mem_singleton.mp new]
  · intro row member
    rcases List.mem_append.mp member with earlier | new
    · exact numbered.small row earlier
    · rw [List.mem_singleton.mp new]
      show saturate _ < 2 ^ 63
      unfold saturate
      omega

end Store

namespace World

theorem numbered (reached : (kernel ext config).Reachable world) : Store.Numbered config world.store.rejections := by
  refine World.invariant ext config (fun world => Store.Numbered config world.store.rejections) ?_ ?_ reached
  · constructor <;> simp [World.initial, Store.empty]
  · intro world _ next _ known step
    rcases step.rejections with same | ⟨input, recorded, done, _⟩
    · rw [same]
      exact known
    · exact known.record done

/-- What was accepted of a stream, in order. -/
def acceptedOf (world : World) (stream : String) : List Accepted :=
  world.accepted.filter fun taken => taken.plan.stream == stream

/-- The projection's row of a stream, from what was accepted of it. -/
def streamNoted (taken : List Accepted) : Option StreamRow := do
  let first ← taken.head?
  let last ← taken.getLast?
  return {
    stream := first.plan.stream
    streamKind := first.plan.streamKind
    headSeq := saturate last.plan.seq
    headHash := last.plan.id
    firstSeenAt := first.plan.receivedAt
    lastAppendedAt := last.plan.receivedAt }

theorem streamNoted_concat (taken : List Accepted) (last : Accepted) :
    streamNoted (taken ++ [last]) = some ((streamNoted taken).elim
      { stream := last.plan.stream, streamKind := last.plan.streamKind, headSeq := saturate last.plan.seq
        headHash := last.plan.id, firstSeenAt := last.plan.receivedAt, lastAppendedAt := last.plan.receivedAt }
      fun row => { row with
        headSeq := saturate last.plan.seq, headHash := last.plan.id, lastAppendedAt := last.plan.receivedAt }) := by
  cases taken with
  | nil => rfl
  | cons first rest =>
      unfold streamNoted
      rw [List.getLast?_concat]
      cases ended : (first :: rest).getLast? with
      | none => simp at ended
      | some before => rfl

theorem streamNoted_stream {taken : List Accepted} {stream : String} {row : StreamRow}
    (all : ∀ accepted ∈ taken, accepted.plan.stream = stream) (noted : streamNoted taken = some row) :
    row.stream = stream := by
  unfold streamNoted at noted
  simp only [Option.bind_eq_bind, Option.bind_eq_some_iff, Option.pure_def, Option.some.injEq] at noted
  obtain ⟨first, isFirst, last, _, rfl⟩ := noted
  exact all first (List.mem_of_mem_head? isFirst)

theorem acceptedOf_stream {stream : String} : ∀ taken ∈ world.acceptedOf stream, taken.plan.stream = stream := by
  intro taken member
  exact beq_iff_eq.mp (List.mem_filter.mp member).2

theorem acceptedOf_concat {next : World} {taken : Accepted} (stream : String)
    (accepted : next.accepted = world.accepted ++ [taken]) :
    next.acceptedOf stream = world.acceptedOf stream ++ if taken.plan.stream = stream then [taken] else [] := by
  unfold acceptedOf
  rw [accepted, List.filter_append, List.filter_cons, List.filter_nil]
  by_cases same : taken.plan.stream = stream
  · rw [if_pos (beq_iff_eq.mpr same), if_pos same]
  · rw [if_neg fun named => same (beq_iff_eq.mp named), if_neg same]

theorem touchStream_row (store : Store) (plan : AppendPlan) (stream : String) :
    (Store.touchStream plan store).streamRow stream =
      if plan.stream = stream then some ((store.streamRow stream).elim
        { stream := plan.stream, streamKind := plan.streamKind, headSeq := saturate plan.seq, headHash := plan.id
          firstSeenAt := plan.receivedAt, lastAppendedAt := plan.receivedAt }
        fun row => { row with
          headSeq := saturate plan.seq, headHash := plan.id, lastAppendedAt := plan.receivedAt })
      else store.streamRow stream := by
  have touched : ∀ rows : List StreamRow, (rows.map fun row =>
      if row.stream = plan.stream then
        { row with headSeq := saturate plan.seq, headHash := plan.id, lastAppendedAt := plan.receivedAt }
      else row).find? (fun row => row.stream == stream) =
        (rows.find? fun row => row.stream == stream).map fun row =>
          if row.stream = plan.stream then
            { row with headSeq := saturate plan.seq, headHash := plan.id, lastAppendedAt := plan.receivedAt }
          else row := by
    intro rows
    rw [List.find?_map]
    congr 2
    funext row
    dsimp only [Function.comp_apply]
    split <;> rfl
  unfold Store.touchStream
  by_cases held : (store.streamKind plan.stream).isSome = true
  · rw [if_pos held]
    unfold Store.streamRow
    rw [touched]
    by_cases same : plan.stream = stream
    · subst same
      rw [if_pos rfl]
      unfold Store.streamKind at held
      rw [Option.isSome_map, Option.isSome_iff_exists] at held
      obtain ⟨row, found⟩ := held
      have named : row.stream = plan.stream := by simpa using List.find?_some found
      rw [found, Option.map_some, Option.elim_some, if_pos named]
    · rw [if_neg same]
      cases found : store.streams.find? fun row => row.stream == stream with
      | none => rfl
      | some row =>
          have named : row.stream = stream := by simpa using List.find?_some found
          rw [Option.map_some, if_neg fun own => same (own.symm.trans named)]
  · rw [if_neg held]
    unfold Store.streamRow
    rw [List.find?_append, List.find?_singleton]
    have absent : store.streams.find? (fun row => row.stream == plan.stream) = none := by
      unfold Store.streamKind at held
      rw [Option.isSome_map] at held
      exact Option.not_isSome_iff_eq_none.mp held
    by_cases same : plan.stream = stream
    · subst same
      rw [absent]
      simp
    · simp [same]

/-- The projection's rows are those that what was accepted of each stream makes. -/
theorem streams_noted (reached : (kernel ext config).Reachable world) :
    ∀ stream, world.store.streamRow stream = streamNoted (world.acceptedOf stream) := by
  refine World.invariant ext config
    (fun world => ∀ stream, world.store.streamRow stream = streamNoted (world.acceptedOf stream)) ?_ ?_ reached
  · intro stream
    rfl
  · intro world _ next traced known step stream
    cases step with
    | quiet store accepted tasks =>
        unfold acceptedOf Store.streamRow
        rw [store.envelopes.2.1, accepted]
        exact known stream
    | appends request snapshot validated waiting fresh store accepted tasks =>
        have touched : next.store.streamRow stream = (Store.touchStream validated.plan world.store).streamRow stream := by
          unfold Store.streamRow
          rw [store.streams]
        rw [touched, touchStream_row, acceptedOf_concat stream accepted]
        by_cases same : validated.plan.stream = stream
        · rw [if_pos same, if_pos same, known stream, streamNoted_concat]
        · rw [if_neg same, if_neg same, List.append_nil, known stream]

/-- The rows of a stream are those of what was accepted of it. -/
theorem ofStream_accepted (known : Traced ext config world) (stream : String) :
    List.Forall₂ (fun row taken => Store.envelopeRow taken.plan = .ok row) (world.store.ofStream stream)
      (world.acceptedOf stream) := by
  refine List.rel_filter ?_ known.rows
  intro row taken built
  dsimp only
  rw [(Store.envelopeRow_eq_ok built).stream]

theorem refusalsOf_top (reached : (kernel ext config).Reachable world) (stream : String) :
    Table.topBy RejectionRow.seq (world.store.refusalsOf stream) = (world.store.refusalsOf stream).getLast? :=
  Table.topBy_of_increasing ((numbered reached).increasing.filter _)

/-- The head of a stream is the last envelope accepted of it. -/
theorem ofStream_top (reached : (kernel ext config).Reachable world) (stream : String) :
    (Table.topBy EnvelopeRow.seq (world.store.ofStream stream)).map (fun row => (row.seq, row.id)) =
      (world.acceptedOf stream).getLast?.map fun taken => (taken.plan.seq, taken.plan.id) := by
  have known := traced reached
  have columns : (world.store.ofStream stream).map (fun row => (row.seq, row.id)) =
      (world.acceptedOf stream).map fun taken => (saturate taken.plan.seq, taken.plan.id) := by
    rw [← List.forall₂_eq_eq_eq, List.forall₂_map_left_iff, List.forall₂_map_right_iff]
    refine (ofStream_accepted known stream).imp ?_
    intro row taken built
    have of := Store.envelopeRow_eq_ok built
    rw [of.seq, of.id]
  have small : ∀ taken ∈ world.acceptedOf stream, saturate taken.plan.seq = taken.plan.seq := by
    intro taken member
    obtain ⟨before, after, at_⟩ := known.accepted taken (List.mem_of_mem_filter member)
    have placed := at_.origin.placed.small
    exact saturate_of_lt (by omega)
  rw [Table.topBy_of_increasing (chains reached stream).increasing, ← List.getLast?_map, columns, List.getLast?_map]
  cases last : (world.acceptedOf stream).getLast? with
  | none => rfl
  | some taken => rw [Option.map_some, Option.map_some, small taken (List.mem_of_getLast? last)]

/-- What the surface says of a stream is what there is to say of it. -/
theorem streamRecord_told (reached : (kernel ext config).Reachable world) {stream : String} :
    world.store.streamRecord stream =
      .told stream (world.acceptedOf stream) (world.store.refusalsOf stream) := by
  have noted := streams_noted reached stream
  have top := ofStream_top reached stream
  unfold Store.streamRecord StreamRecord.told
  dsimp only
  rw [refusalsOf_top reached, noted]
  have seqs := congrArg (Option.map Prod.fst) top
  have ids := congrArg (Option.map Prod.snd) top
  simp only [Option.map_map, Function.comp_def] at seqs ids
  cases taken : world.acceptedOf stream with
  | nil =>
      rw [taken] at seqs ids
      have none : Table.topBy EnvelopeRow.seq (world.store.ofStream stream) = none := by
        cases found : Table.topBy EnvelopeRow.seq (world.store.ofStream stream) with
        | none => rfl
        | some row =>
            rw [found] at seqs
            cases seqs
      rw [none]
      rfl
  | cons first rest =>
      rw [taken] at seqs ids
      obtain ⟨last, isLast⟩ := Option.ne_none_iff_exists'.mp
        fun none => List.cons_ne_nil first rest (List.getLast?_eq_none_iff.mp none)
      unfold streamNoted
      rw [isLast] at seqs ids ⊢
      simp only [List.head?_cons, Option.bind_eq_bind, Option.bind_some, Option.pure_def, Option.map_some]
        at seqs ids ⊢
      rw [seqs, ids]
      rfl

theorem mem_streamsKnown (reached : (kernel ext config).Reachable world) {stream : String} :
    stream ∈ world.store.streamsKnown ↔ (∃ taken ∈ world.accepted, taken.plan.stream = stream) ∨
      ∃ row ∈ world.store.rejections, row.claimedStream = some stream := by
  have rows : stream ∈ world.store.envelopes.map EnvelopeRow.stream ↔
      ∃ taken ∈ world.accepted, taken.plan.stream = stream := by
    have columns : world.store.envelopes.map EnvelopeRow.stream =
        world.accepted.map fun taken => taken.plan.stream := by
      rw [← List.forall₂_eq_eq_eq, List.forall₂_map_left_iff, List.forall₂_map_right_iff]
      exact (traced reached).rows.imp fun row taken built => (Store.envelopeRow_eq_ok built).stream
    rw [columns, List.mem_map]
  unfold Store.streamsKnown
  rw [List.mem_insertionSort, List.mem_dedup, List.mem_append, rows, List.mem_filterMap]

theorem streamsKnown_increasing (store : Store) : store.streamsKnown.Pairwise (· < ·) := by
  have sorted : store.streamsKnown.Pairwise (· ≤ ·) := List.pairwise_insertionSort _ _
  have distinct : store.streamsKnown.Nodup := by
    unfold Store.streamsKnown
    exact (List.perm_insertionSort _ _).nodup_iff.mpr (List.nodup_dedup _)
  exact (sorted.and distinct).imp fun both => lt_of_le_of_ne both.1 both.2

/-- The surface lists each stream that anything was accepted or refused of, once and in order. It shows the head and
the times that the accepted envelopes have and the refusal recorded last, and a stream as refused exactly when the
envelope accepted last of it was not received after that refusal; it shows as healthy one that has not been silent for
longer than it may be. -/
theorem surface_tells (reached : (kernel ext config).Reachable world) :
    (world.store.streamRecords.map StreamRecord.stream).Pairwise (· < ·) ∧
    (∀ stream, stream ∈ world.store.streamRecords.map StreamRecord.stream ↔
      (∃ taken ∈ world.accepted, taken.plan.stream = stream) ∨
        ∃ row ∈ world.store.rejections, row.claimedStream = some stream) ∧
    ∀ record ∈ world.store.streamRecords,
      record = .told record.stream (world.acceptedOf record.stream) (world.store.refusalsOf record.stream) ∧
      ∀ now quietAfter,
        (record.status now quietAfter = .refused ↔
          ∃ refusal, (world.store.refusalsOf record.stream).getLast? = some refusal ∧
            ∀ taken, (world.acceptedOf record.stream).getLast? = some taken →
              taken.plan.receivedAt ≤ refusal.receivedAt) ∧
        (record.status now quietAfter = .healthy ↔ record.status now quietAfter ≠ .refused ∧
          ∃ taken silent, (world.acceptedOf record.stream).getLast? = some taken ∧
            ageSeconds taken.plan.receivedAt now = some silent ∧ silent ≤ quietAfter) := by
  have names : world.store.streamRecords.map StreamRecord.stream = world.store.streamsKnown := by
    unfold Store.streamRecords
    rw [List.map_map]
    exact List.map_id _
  rw [names]
  refine ⟨streamsKnown_increasing _, fun stream => mem_streamsKnown reached, ?_⟩
  intro record member
  obtain ⟨stream, _, rfl⟩ := List.mem_map.mp member
  have told := @streamRecord_told ext config world reached stream
  refine ⟨told, fun now quietAfter => ⟨?_, ?_⟩⟩
  · rw [StreamRecord.status_refused, told]
    unfold StreamRecord.told
    simp only [Option.map_eq_some_iff, forall_exists_index, and_imp, forall_apply_eq_imp_iff₂]
    constructor
    · rintro ⟨refusedAt, ⟨refusal, last, rfl⟩, earlier⟩
      exact ⟨refusal, last, earlier⟩
    · rintro ⟨refusal, last, earlier⟩
      exact ⟨_, ⟨refusal, last, rfl⟩, earlier⟩
  · rw [StreamRecord.status_healthy]
    apply and_congr_right
    intro _
    rw [told]
    unfold StreamRecord.told
    simp only [Option.map_eq_some_iff]
    constructor
    · rintro ⟨_, silent, ⟨taken, last, rfl⟩, age, within_⟩
      exact ⟨taken, silent, last, age, within_⟩
    · rintro ⟨taken, silent, last, age, within_⟩
      exact ⟨_, silent, ⟨taken, last, rfl⟩, age, within_⟩

end World

end Stozher

namespace Stozher.Deployment

theorem resumed_surface : ((after resumed).store.streamRecords.map StreamRecord.stream).Pairwise (· < ·) :=
  (World.surface_tells (reachable resumed)).1

end Stozher.Deployment
