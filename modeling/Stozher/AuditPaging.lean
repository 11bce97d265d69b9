import Mathlib.Data.Prod.Lex
import Stozher.ChainVerification
import Stozher.Library.Paging
import Stozher.Query
import Stozher.Timestamps
import Stozher.Deployment

namespace Stozher

open Library Library.Text Ingest

variable {ext : External} {config : Config}

/-- What the audit ordering compares: a later emission, an earlier stream or a later position comes first. -/
abbrev AuditKey := Stringᵒᵈ ×ₗ String ×ₗ Natᵒᵈ

def Cursor.key (cursor : Cursor) : AuditKey :=
  toLex (OrderDual.toDual cursor.emittedAt, toLex (cursor.stream, OrderDual.toDual cursor.seq))

namespace EnvelopeRow

/-- The position of a stored envelope in the audit ordering. -/
def cursor (row : EnvelopeRow) : Cursor where
  emittedAt := row.emittedAt
  stream := row.stream
  seq := row.seq

def auditKey (row : EnvelopeRow) : AuditKey :=
  row.cursor.key

/-- The keyset predicate is the strict order of the audit ordering. -/
theorem follows_iff {row : EnvelopeRow} {after : Cursor} :
    row.follows after = true ↔ after.key < row.auditKey := by
  unfold follows auditKey Cursor.key cursor
  rw [Prod.Lex.toLex_lt_toLex, Prod.Lex.toLex_lt_toLex]
  simp only [Bool.or_eq_true, Bool.and_eq_true, decide_eq_true_eq, OrderDual.toDual_lt_toDual,
    EmbeddingLike.apply_eq_iff_eq]
  constructor
  · rintro ((later | ⟨same, next⟩) | ⟨⟨same, stream⟩, back⟩)
    · exact .inl later
    · exact .inr ⟨same.symm, .inl next⟩
    · exact .inr ⟨same.symm, .inr ⟨stream.symm, back⟩⟩
  · rintro (later | ⟨same, next | ⟨stream, back⟩⟩)
    · exact .inl (.inl later)
    · exact .inl (.inr ⟨same.symm, next⟩)
    · exact .inr ⟨⟨same.symm, stream.symm⟩, back⟩

theorem precedes_iff {first second : EnvelopeRow} :
    first.precedes second = true ↔ first.auditKey ≤ second.auditKey := by
  unfold precedes auditKey Cursor.key cursor
  rw [Prod.Lex.toLex_le_toLex, Prod.Lex.toLex_le_toLex]
  simp only [Bool.or_eq_true, Bool.and_eq_true, decide_eq_true_eq, OrderDual.toDual_lt_toDual,
    OrderDual.toDual_le_toDual, EmbeddingLike.apply_eq_iff_eq]

theorem auditKey_inj {first second : EnvelopeRow} (same : first.auditKey = second.auditKey) :
    first.cursor = second.cursor := by
  unfold auditKey Cursor.key at same
  simp only [EmbeddingLike.apply_eq_iff_eq, Prod.mk.injEq] at same
  obtain ⟨emittedAt, stream, seq⟩ := same
  have emitted : first.emittedAt = second.emittedAt := emittedAt
  have streams : first.stream = second.stream := stream
  have seqs : first.seq = second.seq := seq
  unfold cursor
  rw [emitted, streams, seqs]

end EnvelopeRow

namespace Store

variable {store later : Store} {filter : EnvelopeQuery}

/-- A query answers with a page of the rows its filters match. -/
theorem queryRows_eq : store.queryRows filter =
    page EnvelopeRow.auditKey filter.pageSize (filter.after.map Cursor.key)
      (store.envelopes.filter (store.predicate filter)) := by
  have following : (fun row : EnvelopeRow => filter.after.all row.follows) =
      isAfter EnvelopeRow.auditKey (filter.after.map Cursor.key) := by
    funext row
    unfold isAfter
    cases filter.after with
    | none => rfl
    | some after =>
        rw [Option.all_some, Option.map_some, Option.all_some, Bool.eq_iff_iff, EnvelopeRow.follows_iff,
          decide_eq_true_iff]
  have ordering : (fun first second : EnvelopeRow => first.precedes second = true) =
      fun first second => first.auditKey ≤ second.auditKey := by
    funext first second
    rw [EnvelopeRow.precedes_iff]
  unfold queryRows page sortedAfter
  rw [following]
  simp only [ordering]

theorem mem_mandateSubtree {root id : String} : id ∈ store.mandateSubtree root ↔
    Relation.ReflTransGen (fun parent child => child ∈ store.childMandates parent) root id := by
  unfold mandateSubtree
  rw [List.mem_insertionSort]
  have covered : ∀ parent, store.childMandates parent ⊆ root :: store.mandates.map MandateRow.mandateId := by
    intro parent child member
    obtain ⟨row, inside, same⟩ := List.mem_map.mp member
    exact List.mem_cons_of_mem _ (List.mem_map.mpr ⟨row, List.mem_of_mem_filter inside, same⟩)
  refine (Exploring.initial root).mem_explore covered ?_ ?_
  · intro id member
    rw [List.mem_singleton.mp member]
    exact List.mem_cons_self
  · simp

theorem Grows.mandateSubtree (grows : store.Grows later) {root id : String}
    (member : id ∈ store.mandateSubtree root) : id ∈ later.mandateSubtree root := by
  rw [mem_mandateSubtree] at member ⊢
  refine Relation.ReflTransGen.mono ?_ _ _ member
  intro parent child isChild
  obtain ⟨row, inside, same⟩ := List.mem_map.mp isChild
  obtain ⟨held, beneath⟩ := List.mem_filter.mp inside
  exact List.mem_map.mpr ⟨row, List.mem_filter.mpr ⟨grows.mandates.subset held, beneath⟩, same⟩

/-- A stored envelope that matches goes on to match. -/
theorem Grows.predicate (grows : store.Grows later) {row : EnvelopeRow}
    (matches_ : store.predicate filter row = true) : later.predicate filter row = true := by
  unfold Store.predicate at matches_ ⊢
  rw [Bool.and_eq_true] at matches_ ⊢
  refine ⟨matches_.1, ?_⟩
  cases root : filter.mandateSubtreeOf with
  | none => rfl
  | some root =>
      have beneath := matches_.2
      rw [root, Option.all_some, Option.any_eq_true] at beneath
      obtain ⟨mandate, cited, inside⟩ := beneath
      rw [Option.all_some, Option.any_eq_true]
      exact ⟨mandate, cited, List.contains_iff_mem.mpr (grows.mandateSubtree (List.contains_iff_mem.mp inside))⟩

end Store

namespace Envelope

variable {env : Value} {map : Members} {kind : String} {spec : KindSpec}

theorem Valid.emitted (valid : Valid ext env map kind spec) {emittedAt : String}
    (emitted : env.getStr "emitted-at" = some emittedAt) : Timestamp emittedAt := by
  have checked := valid.timestamps
  have object := valid.object
  subst object
  unfold validateTimestamps at checked
  rw [bind_eq_ok] at checked
  obtain ⟨_, required, _⟩ := checked
  unfold requireTimestamp at required
  simp only [bind_eq_ok, okOr_eq_ok, require_eq_ok] at required
  obtain ⟨text, isText, isTime⟩ := required
  have same : text = emittedAt := by
    have found := Value.getStr_eq_some emitted
    rw [get_object] at found
    rw [found, Option.getD_some] at isText
    exact (Option.some.inj isText).symm
  rw [← same]
  exact timestamp_of_isTimestamp isTime

theorem Valid.named (valid : Valid ext env map kind spec) {stream : String}
    (hasStream : env.getStr "stream" = some stream) : stream ≠ "" := by
  have checked := valid.position
  have object := valid.object
  subst object
  unfold validatePosition validateStreamId at checked
  simp only [bind_eq_ok, okOr_eq_ok, require_eq_ok] at checked
  obtain ⟨text, isText, _, ⟨nonempty, _⟩, _⟩ := checked
  have same : text = stream := Option.some.inj (isText.symm.trans hasStream)
  rw [← same]
  rintro rfl
  exact nonempty rfl

end Envelope

/-- A cursor is read back from what it is written as. -/
theorem decode_encode {cursor : Cursor} (timestamp : Envelope.Timestamp cursor.emittedAt)
    (fits : cursor.seq < 2 ^ 64) (named : cursor.stream ≠ "") :
    OwnedCursor.decode cursor.encode = some cursor := by
  have written : cursor.encode.toList =
      cursor.emittedAt.toList ++ '/' :: ((toString cursor.seq).toList ++ '/' :: cursor.stream.toList) := by
    unfold Cursor.encode
    simp [String.toList_append, toString]
  have digits : '/' ∉ (toString cursor.seq).toList := by
    intro member
    exact absurd (isDigit_of_mem_toString member) (by decide)
  have parts : splitN 3 '/' cursor.encode.toList =
      [cursor.emittedAt.toList, (toString cursor.seq).toList, cursor.stream.toList] := by
    rw [written, splitN_separated timestamp.no_slash, splitN_separated digits]
    rfl
  have emitted : cursor.emittedAt.toList ≠ [] := by
    intro empty
    have size := timestamp.length
    rw [String.toList_eq_nil_iff.mp empty] at size
    exact absurd size (by decide)
  have stream : cursor.stream.toList ≠ [] := fun empty => named (String.toList_eq_nil_iff.mp empty)
  obtain ⟨millis, parsed⟩ := isOk_iff.mp (Clock.parseTimestamp_isOk timestamp)
  unfold OwnedCursor.decode
  simp only [parts, List.getElem?_cons_zero, List.getElem?_cons_succ, Option.bind_some, bind, parseU64_toString fits]
  rw [if_neg (by simp [emitted, stream])]
  simp only [String.ofList_toList, parsed]
  rfl

namespace World

variable {world : World} {row : EnvelopeRow}

theorem row_columns (reached : (kernel ext config).Reachable world) (member : row ∈ world.store.envelopes) :
    row.canonicalJson.tree.getStr "emitted-at" = some row.emittedAt ∧ Envelope.Timestamp row.emittedAt ∧
      row.stream ≠ "" := by
  obtain ⟨taken, _, built, before, after, taking⟩ := row_built (traced reached) member
  obtain ⟨subjectKey, payloads, admitted⟩ := taking.origin.admitted
  obtain ⟨map, kind, spec, valid⟩ := Envelope.validate_eq_ok admitted.valid
  have emitted := (Store.envelopeRow_columns built).emittedAt
  have of := Store.envelopeRow_eq_ok built
  refine ⟨?_, valid.emitted emitted, ?_⟩
  · rw [of.canonicalJson, admitted.canonical]
    exact emitted
  · rw [of.stream]
    exact valid.named taking.origin.placed.hasStream

/-- No two stored envelopes have the same place in the audit ordering. -/
theorem distinct_keys (reached : (kernel ext config).Reachable world) :
    DistinctKeys EnvelopeRow.auditKey world.store.envelopes := by
  refine invariant ext config (fun world => DistinctKeys EnvelopeRow.auditKey world.store.envelopes)
    List.Pairwise.nil ?_ reached
  intro world action next _ distinct step
  cases step with
  | quiet store _ _ =>
      rw [store.envelopes.1]
      exact distinct
  | appends _ _ _ _ _ store _ _ =>
      obtain ⟨row, _, _, free, envelopes⟩ := store.envelopes
      rw [envelopes]
      refine List.pairwise_append.mpr ⟨distinct, List.pairwise_singleton _ _, ?_⟩
      intro other held new isNew same
      rw [List.mem_singleton.mp isNew] at same
      have cursors := EnvelopeRow.auditKey_inj same
      exact (free other held).1 ⟨congrArg Cursor.stream cursors, congrArg Cursor.seq cursors⟩

theorem cursorAfter_records (reached : (kernel ext config).Reachable world) {rows : List EnvelopeRow}
    (held : ∀ row ∈ rows, row ∈ world.store.envelopes) :
    cursorAfter (rows.map EnvelopeRow.record) = rows.getLast?.map EnvelopeRow.cursor := by
  unfold cursorAfter
  rw [List.getLast?_map]
  cases last : rows.getLast? with
  | none => rfl
  | some row =>
      have member := held row (List.mem_of_getLast? last)
      have verifiable := verifiable reached member
      have envelope : row.record.get "envelope" = some row.canonicalJson.tree := rfl
      simp only [Option.map_some, bind, Option.bind_some, envelope, (row_columns reached member).1,
        verifiable.stream, verifiable.seq]
      rfl

theorem cursor_read_back (reached : (kernel ext config).Reachable world) (member : row ∈ world.store.envelopes) :
    OwnedCursor.decode row.cursor.encode = some row.cursor := by
  obtain ⟨_, timestamp, named⟩ := row_columns reached member
  have small := (verifiable reached member).small
  exact decode_encode timestamp (lt_trans small (by decide)) named

end World

/-- Page after page of a query, each from where the one before it ended and with anything in between them, up
to a page that is not full. -/
inductive AuditWalk (ext : External) (config : Config) (filter : EnvelopeQuery) :
    World → Option Cursor → List Value → World → Prop where
  | last {world : World} {after : Option Cursor}
      (short : (world.store.query { filter with after }).length < filter.pageSize) :
      AuditWalk ext config filter world after (world.store.query { filter with after }) world
  | next {world final : World} {after : Option Cursor} {cursor : Cursor} {records : List Value}
      (named : cursorAfter (world.store.query { filter with after }) = some cursor) (actions : List Action)
      (rest : AuditWalk ext config filter ((kernel ext config).run world actions) (some cursor) records final) :
      AuditWalk ext config filter world after (world.store.query { filter with after } ++ records) final

namespace AuditWalk

variable {filter : EnvelopeQuery} {world final : World} {after : Option Cursor} {records : List Value}

/-- The rows a query's filters match. -/
def matching (filter : EnvelopeQuery) (world : World) : List EnvelopeRow :=
  world.store.envelopes.filter (world.store.predicate filter)

theorem matching_distinct (reached : (kernel ext config).Reachable world) :
    DistinctKeys EnvelopeRow.auditKey (matching filter world) :=
  (World.distinct_keys reached).filter _

theorem queryRows_page : world.store.queryRows { filter with after } =
    page EnvelopeRow.auditKey filter.pageSize (after.map Cursor.key) (matching filter world) :=
  Store.queryRows_eq

theorem queryRows_held : ∀ row ∈ world.store.queryRows { filter with after }, row ∈ world.store.envelopes := by
  intro row member
  rw [queryRows_page] at member
  exact List.mem_of_mem_filter (mem_of_page member).1

theorem matching_grows (actions : List Action) :
    ∀ row ∈ matching filter world, row ∈ matching filter ((kernel ext config).run world actions) := by
  intro row member
  obtain ⟨held, matches_⟩ := List.mem_filter.mp member
  have grows := @World.run_store_grows ext config world actions
  exact List.mem_filter.mpr ⟨grows.envelopes.subset held, grows.predicate matches_⟩

/-- A walk over the kernel's envelopes is a walk over the rows that match. -/
theorem paged (walk : AuditWalk ext config filter world after records final)
    (reached : (kernel ext config).Reachable world) :
    ∃ rows : List EnvelopeRow, records = rows.map EnvelopeRow.record ∧
      PagedWalk EnvelopeRow.auditKey filter.pageSize (matching filter world) (after.map Cursor.key) rows
        (matching filter final) := by
  induction walk with
  | last short =>
      unfold Store.query at short
      rw [List.length_map, queryRows_page] at short
      refine ⟨_, rfl, ?_⟩
      rw [queryRows_page]
      exact .last (matching_distinct reached) short
  | next named actions rest ih =>
      obtain ⟨rows, same, walk⟩ := ih (reached.run actions)
      unfold Store.query at named
      rw [World.cursorAfter_records reached queryRows_held, Option.map_eq_some_iff] at named
      obtain ⟨row, isLast, rfl⟩ := named
      rw [queryRows_page] at isLast
      refine ⟨_, by rw [same, Store.query, ← List.map_append], ?_⟩
      rw [queryRows_page]
      exact .next (matching_distinct reached) isLast (matching_grows actions) walk

/-- A walk that nothing interrupts comes to an end. -/
theorem ends (reached : (kernel ext config).Reachable world) (filter : EnvelopeQuery) (after : Option Cursor) :
    ∃ records, AuditWalk ext config filter world after records world := by
  have positive : 0 < filter.pageSize := by
    unfold EnvelopeQuery.pageSize
    omega
  refine @page_induction _ _ _ EnvelopeRow.auditKey _ (matching filter world) (fun position =>
    ∀ after : Option Cursor, after.map Cursor.key = position → ∃ records,
      AuditWalk ext config filter world after records world) positive ?_ ?_ (after.map Cursor.key) after rfl
  · rintro _ short after rfl
    rw [← queryRows_page] at short
    exact ⟨_, .last (by rwa [Store.query, List.length_map])⟩
  · rintro _ row isLast rest after rfl
    rw [← queryRows_page] at isLast
    obtain ⟨records, walk⟩ := rest (some row.cursor) rfl
    refine ⟨_, .next ?_ [] walk⟩
    rw [Store.query, World.cursorAfter_records reached queryRows_held, isLast]
    rfl

end AuditWalk

/-- Strictly before another in the audit ordering. -/
def EnvelopeRow.Before (first second : EnvelopeRow) : Prop :=
  second.emittedAt < first.emittedAt ∨ (first.emittedAt = second.emittedAt ∧
    (first.stream < second.stream ∨ (first.stream = second.stream ∧ second.seq < first.seq)))

theorem EnvelopeRow.before_of_auditKey {first second : EnvelopeRow} (less : first.auditKey < second.auditKey) :
    first.Before second := by
  unfold auditKey Cursor.key cursor at less
  rw [Prod.Lex.toLex_lt_toLex, Prod.Lex.toLex_lt_toLex] at less
  simp only [OrderDual.toDual_lt_toDual, EmbeddingLike.apply_eq_iff_eq] at less
  exact less

theorem EnvelopeRow.auditKey_of_before {first second : EnvelopeRow} (before : first.Before second) :
    first.auditKey < second.auditKey := by
  unfold auditKey Cursor.key cursor
  rw [Prod.Lex.toLex_lt_toLex, Prod.Lex.toLex_lt_toLex]
  simp only [OrderDual.toDual_lt_toDual, EmbeddingLike.apply_eq_iff_eq]
  exact before

/-- A walk through the audit log returns every matching envelope stored when it began, each of them once and in
the audit ordering, whatever is appended meanwhile, and a cursor is read back as it was written. -/
theorem audit_walk_complete {world : World} (reached : (kernel ext config).Reachable world)
    (filter : EnvelopeQuery) :
    (∀ after, ∃ records, AuditWalk ext config filter world after records world) ∧
      (∀ records final, AuditWalk ext config filter world none records final →
        ∃ rows : List EnvelopeRow, records = rows.map EnvelopeRow.record ∧ rows.Pairwise EnvelopeRow.Before ∧
          (∀ row ∈ world.store.envelopes, world.store.predicate filter row = true → row ∈ rows) ∧
          ∀ row ∈ rows, row ∈ final.store.envelopes ∧ final.store.predicate filter row = true) ∧
      ∀ row ∈ world.store.envelopes, ∃ cursor, cursorAfter [row.record] = some cursor ∧
        OwnedCursor.decode cursor.encode = some cursor := by
  refine ⟨AuditWalk.ends reached filter, ?_, ?_⟩
  · intro records final walk
    obtain ⟨rows, same, walk⟩ := walk.paged reached
    refine ⟨rows, same, walk.increasing.imp EnvelopeRow.before_of_auditKey, ?_, ?_⟩
    · intro row held matches_
      exact walk.covers row (List.mem_filter.mpr ⟨held, matches_⟩) isAfter_none
    · intro row member
      exact List.mem_filter.mp (walk.after_start row member).1
  · intro row member
    have held : ∀ other ∈ [row], other ∈ world.store.envelopes := by
      intro other isRow
      rw [List.mem_singleton.mp isRow]
      exact member
    exact ⟨row.cursor, World.cursorAfter_records reached held, World.cursor_read_back reached member⟩

end Stozher

namespace Stozher.Deployment

open Library

/-- A query without a filter, a row at a time. -/
def everything : EnvelopeQuery where
  subject := none
  mandateRef := none
  mandateSubtreeOf := none
  classification := none
  kind := none
  action := none
  component := none
  stream := none
  emittedFrom := none
  emittedTo := none
  correlationRef := none
  correlationPrefix := none
  commitmentId := none
  outcome := none
  humanRoot := none
  violationsOnly := false
  limit := 1
  after := none

theorem founding_audit_walk :
    ∃ records, AuditWalk ext config everything (after founding) none records (after founding) ∧
      ∃ rows : List EnvelopeRow, records = rows.map EnvelopeRow.record ∧ rows.Pairwise EnvelopeRow.Before ∧
        ∀ row ∈ (after founding).store.envelopes, row ∈ rows := by
  obtain ⟨ends, complete, _⟩ := audit_walk_complete (reachable founding) everything
  obtain ⟨records, walk⟩ := ends none
  obtain ⟨rows, same, ordered, covers, _⟩ := complete records _ walk
  exact ⟨records, walk, rows, same, ordered, fun row member => covers row member rfl⟩

end Stozher.Deployment
