import Stozher.AuditPaging

namespace Stozher

open Library Library.Text Ingest

variable {ext : External} {config : Config}

/-- What a page of the audit answers with. -/
structure EnvelopesPage where
  count : Nat
  next : Option String
  records : List Value

/-- The row cap a request asks for. -/
def limitOf (get : String → Option String) : Int :=
  ((get "limit").bind fun limit => parseI64 limit.toList).getD 100

/-- The filters a request names. -/
def envelopeFilter (get : String → Option String) (after : Option Cursor) : EnvelopeQuery where
  subject := get "subject"
  mandateRef := get "mandate-ref"
  mandateSubtreeOf := get "mandate-subtree-of"
  classification := get "classification"
  kind := get "kind"
  action := get "action"
  component := get "component"
  stream := get "stream"
  emittedFrom := get "emitted-from"
  emittedTo := get "emitted-to"
  correlationRef := get "correlation-ref"
  correlationPrefix := get "correlation-prefix"
  commitmentId := get "commitment-id"
  outcome := get "outcome"
  humanRoot := get "human-root"
  violationsOnly := get "violations-only" == some "true"
  limit := limitOf get
  after

/-- Where a request resumes, unless it names no position. -/
def resumeOf (get : String → Option String) : Except String (Option Cursor) :=
  match get "after" with
  | none => .ok none
  | some encoded =>
      match OwnedCursor.decode encoded with
      | some cursor => .ok (some cursor)
      | none => .error "after is not a cursor this kernel wrote"

/-- A page, with the position of its last record where it is as long as the request asked for. -/
def envelopesPage (store : Store) (filter : EnvelopeQuery) : EnvelopesPage :=
  let records := store.query filter
  let full := decide (filter.limit ≤ records.length)
  { count := records.length
    next := if full then (cursorAfter records).map Cursor.encode else none
    records }

def getEnvelopes (store : Store) (get : String → Option String) : Except String EnvelopesPage := do
  let resume ← resumeOf get
  return envelopesPage store (envelopeFilter get resume)

/-- The parameters of a request with the position it resumes from. -/
def echoing (get : String → Option String) (after : Option String) (name : String) : Option String :=
  if name = "after" then after else get name

/-- Page after page, each asked for with the `next` of the one before it, until there is none. -/
inductive EchoWalk (ext : External) (config : Config) (get : String → Option String) :
    World → Option String → List Value → World → Prop where
  | last {world : World} {after : Option String} {page : EnvelopesPage}
      (answered : getEnvelopes world.store (echoing get after) = .ok page) (ended : page.next = none) :
      EchoWalk ext config get world after page.records world
  | next {world final : World} {after : Option String} {page : EnvelopesPage} {position : String}
      {records : List Value} (answered : getEnvelopes world.store (echoing get after) = .ok page)
      (named : page.next = some position) (actions : List Action)
      (rest : EchoWalk ext config get ((kernel ext config).run world actions) (some position) records final) :
      EchoWalk ext config get world after (page.records ++ records) final

/-- The whole audit a filter asks for, as far as it was stored when the walk began: each record once and in
order, and nothing that matches in the end sorts after the last of them. -/
def WholeAudit (filter : EnvelopeQuery) (world final : World) (records : List Value) : Prop :=
  ∃ rows : List EnvelopeRow, records = rows.map EnvelopeRow.record ∧ rows.Pairwise EnvelopeRow.Before ∧
    (∀ row ∈ world.store.envelopes, world.store.predicate filter row = true → row ∈ rows) ∧
    (∀ row ∈ rows, row ∈ final.store.envelopes ∧ final.store.predicate filter row = true) ∧
    ∀ row ∈ final.store.envelopes, final.store.predicate filter row = true →
      ∃ last, rows.getLast? = some last ∧ ¬ last.Before row

namespace EchoWalk

variable {get : String → Option String} {world final : World} {after : Option String} {records : List Value}

theorem resumeOf_echoing_some {cursor : Cursor} {position : String} (reads : OwnedCursor.decode position = some cursor) :
    resumeOf (echoing get (some position)) = .ok (some cursor) := by
  have named : echoing get (some position) "after" = some position := rfl
  unfold resumeOf
  rw [named]
  dsimp only
  rw [reads]

theorem page_of_answer {page : EnvelopesPage} {cursor : Option Cursor}
    (answered : getEnvelopes world.store (echoing get after) = .ok page)
    (resumes : resumeOf (echoing get after) = .ok cursor) :
    page = envelopesPage world.store { envelopeFilter get none with after := cursor } := by
  unfold getEnvelopes at answered
  rw [resumes] at answered
  exact (Except.ok.inj answered).symm

variable {filter : EnvelopeQuery} {cursor : Option Cursor}

/-- The position a response names is that of its last record. -/
theorem next_eq (reached : (kernel ext config).Reachable world) :
    (envelopesPage world.store { filter with after := cursor }).next =
      if filter.limit ≤ (world.store.queryRows { filter with after := cursor }).length then
        (world.store.queryRows { filter with after := cursor }).getLast?.map fun row => row.cursor.encode
      else none := by
  have named := World.cursorAfter_records reached
    (@AuditWalk.queryRows_held filter world cursor)
  unfold envelopesPage Store.query
  dsimp only
  rw [named, List.length_map, Option.map_map]
  simp only [decide_eq_true_eq]
  rfl

/-- A response names no next position exactly when its page is not full, for a limit that is not clamped. -/
theorem next_eq_none_iff (reached : (kernel ext config).Reachable world) (small : filter.limit ≤ 10000) :
    (envelopesPage world.store { filter with after := cursor }).next = none ↔
      (world.store.queryRows { filter with after := cursor }).length < filter.pageSize := by
  rw [next_eq reached]
  unfold EnvelopeQuery.pageSize
  cases last : (world.store.queryRows { filter with after := cursor }).getLast? with
  | none =>
      rw [List.getLast?_eq_none_iff] at last
      rw [last, Option.map_none, ite_self, List.length_nil]
      refine ⟨fun _ => ?_, fun _ => rfl⟩
      omega
  | some row =>
      have nonempty : 0 < (world.store.queryRows { filter with after := cursor }).length :=
        List.length_pos_of_mem (List.mem_of_getLast? last)
      rw [Option.map_some]
      by_cases full : filter.limit ≤ (world.store.queryRows { filter with after := cursor }).length
      · rw [if_pos full]
        constructor
        · intro absent
          cases absent
        · intro short
          omega
      · rw [if_neg full]
        refine ⟨fun _ => ?_, fun _ => rfl⟩
        omega

theorem next_eq_some (reached : (kernel ext config).Reachable world) {position : String}
    (named : (envelopesPage world.store { filter with after := cursor }).next = some position) :
    ∃ row, (world.store.queryRows { filter with after := cursor }).getLast? = some row ∧
      position = row.cursor.encode := by
  rw [next_eq reached] at named
  split at named
  · obtain ⟨row, last, same⟩ := Option.map_eq_some_iff.mp named
    exact ⟨row, last, same.symm⟩
  · cases named

/-- A client that echoes `next` walks the audit. -/
theorem audit (walk : EchoWalk ext config get world after records final) (small : limitOf get ≤ 10000)
    (reached : (kernel ext config).Reachable world) (resumes : resumeOf (echoing get after) = .ok cursor) :
    AuditWalk ext config (envelopeFilter get none) world cursor records final := by
  induction walk generalizing cursor with
  | last answered ended =>
      have page := page_of_answer answered resumes
      subst page
      refine .last ?_
      unfold Store.query
      rw [List.length_map]
      exact (next_eq_none_iff reached small).mp ended
  | next answered named actions rest ih =>
      have page := page_of_answer answered resumes
      subst page
      obtain ⟨row, last, rfl⟩ := next_eq_some reached named
      have held := AuditWalk.queryRows_held row (List.mem_of_getLast? last)
      refine .next ?_ actions (ih (reached.run actions)
        (resumeOf_echoing_some (World.cursor_read_back reached held)))
      unfold Store.query
      rw [World.cursorAfter_records reached AuditWalk.queryRows_held, last, Option.map_some]

end EchoWalk

theorem wholeAudit_of_paged {filter : EnvelopeQuery} {world final : World} {limit : Nat} {rows : List EnvelopeRow}
    (walk : PagedWalk EnvelopeRow.auditKey limit (AuditWalk.matching filter world) none rows
      (AuditWalk.matching filter final)) :
    WholeAudit filter world final (rows.map EnvelopeRow.record) := by
  refine ⟨rows, rfl, walk.increasing.imp EnvelopeRow.before_of_auditKey, ?_, ?_, ?_⟩
  · intro row held matches_
    exact walk.covers row (List.mem_filter.mpr ⟨held, matches_⟩) isAfter_none
  · intro row member
    exact List.mem_filter.mp (walk.after_start row member).1
  · intro row held matches_
    obtain ⟨seen, inside, le⟩ := walk.exhausts row (List.mem_filter.mpr ⟨held, matches_⟩) isAfter_none
    obtain ⟨last, isLast, beyond⟩ := le_getLast_of_increasing walk.increasing inside
    refine ⟨last, isLast, ?_⟩
    intro before
    exact absurd (EnvelopeRow.auditKey_of_before before) (not_lt.mpr (le.trans beyond))

/-- A page as long as what matches is the whole audit. -/
theorem wholeAudit_of_few {filter : EnvelopeQuery} {world : World} (reached : (kernel ext config).Reachable world)
    (few : (AuditWalk.matching filter world).length ≤ filter.pageSize) :
    WholeAudit filter world world (world.store.query { filter with after := none }) := by
  have short : (page EnvelopeRow.auditKey (filter.pageSize + 1) none (AuditWalk.matching filter world)).length <
      filter.pageSize + 1 := by
    rw [← page_whole few]
    unfold page
    rw [List.length_take]
    omega
  have walk := PagedWalk.last (AuditWalk.matching_distinct reached) short
  unfold Store.query
  rw [AuditWalk.queryRows_page, Option.map_none, page_whole few]
  exact wholeAudit_of_paged walk

/-- Beyond the cap of the store a response never names a next position. -/
theorem next_of_large {store : Store} {filter : EnvelopeQuery} (large : 10000 < filter.limit) :
    (envelopesPage store filter).next = none := by
  have most : (store.query filter).length ≤ 10000 := by
    unfold Store.query Store.queryRows EnvelopeQuery.pageSize
    dsimp only
    rw [List.length_map, List.length_take]
    omega
  have partial_ : ¬ filter.limit ≤ ((store.query filter).length : Int) := by omega
  unfold envelopesPage
  dsimp only
  rw [decide_eq_false partial_]
  rfl

theorem pageSize_of_large {filter : EnvelopeQuery} (large : 10000 < filter.limit) : filter.pageSize = 10000 := by
  unfold EnvelopeQuery.pageSize
  omega

namespace EchoWalk

variable {get : String → Option String} {world final : World} {records : List Value}

theorem resumeOf_start (get : String → Option String) : resumeOf (echoing get none) = .ok none := rfl

theorem answered_first (world : World) (get : String → Option String) :
    getEnvelopes world.store (echoing get none) = .ok (envelopesPage world.store (envelopeFilter get none)) := rfl

/-- With a larger limit than the store's cap, the walk is one page. -/
theorem single (walk : EchoWalk ext config get world none records final) (large : 10000 < limitOf get) :
    records = world.store.query (envelopeFilter get none) ∧ final = world := by
  cases walk with
  | last answered ended =>
      rw [page_of_answer answered (resumeOf_start get)]
      exact ⟨rfl, rfl⟩
  | next answered named =>
      rw [page_of_answer answered (resumeOf_start get), next_of_large large] at named
      cases named

/-- A walk that nothing interrupts comes to an end. -/
theorem ends (reached : (kernel ext config).Reachable world) :
    ∃ records, EchoWalk ext config get world none records world := by
  by_cases small : limitOf get ≤ 10000
  · have positive : 0 < (envelopeFilter get none).pageSize := by
      unfold EnvelopeQuery.pageSize
      omega
    have answers : ∀ (cursor : Option Cursor) (after : Option String),
        resumeOf (echoing get after) = .ok cursor → getEnvelopes world.store (echoing get after) =
          .ok (envelopesPage world.store { envelopeFilter get none with after := cursor }) := by
      intro cursor after resumes
      unfold getEnvelopes
      rw [resumes]
      rfl
    refine @page_induction _ _ _ EnvelopeRow.auditKey _ (AuditWalk.matching (envelopeFilter get none) world)
      (fun position => ∀ cursor : Option Cursor, cursor.map Cursor.key = position → ∀ after,
        resumeOf (echoing get after) = .ok cursor → ∃ records, EchoWalk ext config get world after records world)
      positive ?_ ?_ none none rfl none (resumeOf_start get)
    · intro _ short cursor isKey after resumes
      rw [← isKey, ← AuditWalk.queryRows_page] at short
      exact ⟨_, .last (answers cursor after resumes) ((next_eq_none_iff reached small).mpr short)⟩
    · intro _ row isLast rest cursor isKey after resumes
      rw [← isKey, ← AuditWalk.queryRows_page] at isLast
      have held := AuditWalk.queryRows_held row (List.mem_of_getLast? isLast)
      cases named : (envelopesPage world.store { envelopeFilter get none with after := cursor }).next with
      | none => exact ⟨_, .last (answers cursor after resumes) named⟩
      | some position =>
          obtain ⟨other, last, rfl⟩ := next_eq_some reached named
          rw [isLast] at last
          cases last
          obtain ⟨records, walk⟩ := rest (some row.cursor) rfl (some row.cursor.encode)
            (resumeOf_echoing_some (World.cursor_read_back reached held))
          exact ⟨_, .next (answers cursor after resumes) named [] walk⟩
  · exact ⟨_, .last (answered_first world get) (next_of_large (not_le.mp small))⟩

end EchoWalk

/-- A client that follows `next` until there is none gets the whole audit exactly when its limit is within the
store's cap, or no more match than that. -/
theorem echoed_audit_whole_iff {world : World} (reached : (kernel ext config).Reachable world)
    (get : String → Option String) :
    ((∃ records, EchoWalk ext config get world none records world) ∧
      ∀ records final, EchoWalk ext config get world none records final →
        WholeAudit (envelopeFilter get none) world final records) ↔
      limitOf get ≤ 10000 ∨
        (world.store.envelopes.filter (world.store.predicate (envelopeFilter get none))).length ≤ 10000 := by
  have distinct : (AuditWalk.matching (envelopeFilter get none) world).Nodup :=
    (AuditWalk.matching_distinct reached).imp fun differ same => differ (congrArg _ same)
  by_cases small : limitOf get ≤ 10000
  · refine ⟨fun _ => .inl small, fun _ => ⟨EchoWalk.ends reached, ?_⟩⟩
    intro records final walk
    obtain ⟨rows, rfl, paged⟩ := (walk.audit small reached (EchoWalk.resumeOf_start get)).paged reached
    exact wholeAudit_of_paged paged
  · have large := not_le.mp small
    have cap : (envelopeFilter get none).pageSize = 10000 := pageSize_of_large large
    constructor
    · intro whole
      obtain ⟨⟨records, walk⟩, complete⟩ := whole
      obtain ⟨rows, same, _, covers, _⟩ := complete records world walk
      rw [(walk.single large).1] at same
      have lengths := congrArg List.length same
      unfold Store.query Store.queryRows at lengths
      simp only [List.length_map, List.length_take, cap] at lengths
      have inside : AuditWalk.matching (envelopeFilter get none) world ⊆ rows := by
        intro row member
        obtain ⟨held, matches_⟩ := List.mem_filter.mp member
        exact covers row held matches_
      have fewer := (distinct.subperm inside).length_le
      unfold AuditWalk.matching at fewer
      exact .inr (by omega)
    · intro condition
      have few := condition.resolve_left small
      refine ⟨EchoWalk.ends reached, ?_⟩
      intro records final walk
      obtain ⟨rfl, rfl⟩ := walk.single large
      exact wholeAudit_of_few reached (cap ▸ few)

end Stozher

namespace Stozher.Deployment

open Library

theorem founding_audit_echoed :
    ∃ records, EchoWalk ext config (fun _ => none) (after founding) none records (after founding) ∧
      WholeAudit (envelopeFilter (fun _ => none) none) (after founding) (after founding) records := by
  obtain ⟨⟨records, walk⟩, whole⟩ :=
    (echoed_audit_whole_iff (reachable founding) fun _ => none).mpr (.inl (by decide))
  exact ⟨records, walk, whole records _ walk⟩

/-- An envelope stored far along a stream. -/
def crowdRow (seq : Nat) : EnvelopeRow where
  stream := "ops:notes"
  seq := seq
  id := toString seq
  prevHash := none
  kind := "cognition"
  subject := "agent:ops"
  subjectKey := opsKey
  component := "kernel"
  mandateRef := none
  humanRoot := none
  policyVersion := none
  classification := none
  effectiveClass := none
  action := none
  target := none
  argsHash := none
  outcome := none
  emittedAt := nine
  receivedAt := nine
  correlationRef := none
  commitmentType := none
  commitmentId := none
  commitmentTransition := none
  policyViolation := none
  canonicalJson := { tree := .array (List.replicate seq .null) }

/-- A store with so many envelopes of one stream. -/
def crowded (count : Nat) : Store :=
  { Store.empty with envelopes := (List.range count).map crowdRow }

/-- A request for more than the cap. -/
def asksForAll (name : String) : Option String :=
  if name = "limit" then some "20000" else none

theorem crowd_matches (count seq : Nat) :
    (crowded count).predicate (envelopeFilter asksForAll none) (crowdRow seq) = true := by
  simp [Store.predicate, envelopeFilter, asksForAll, EnvelopeQuery.equals, EnvelopeQuery.like]

theorem crowdRow_record_injective : Function.Injective fun seq => (crowdRow seq).record := by
  intro first second same
  have one : ∀ seq, (((crowdRow seq).record.get "envelope").bind Value.asArray).map List.length = some seq := by
    intro seq
    show some (List.replicate seq Value.null).length = some seq
    rw [List.length_replicate]
  have lengths := congrArg (fun record : Value =>
    ((record.get "envelope").bind Value.asArray).map List.length) same
  dsimp only at lengths
  rw [one, one] at lengths
  exact Option.some.inj lengths

theorem crowd_cut {count : Nat} (more : 10000 < count) :
    ∃ page, getEnvelopes (crowded count) asksForAll = .ok page ∧ page.next = none ∧
      ∃ row ∈ (crowded count).envelopes,
        (crowded count).predicate (envelopeFilter asksForAll none) row = true ∧ row.record ∉ page.records := by
  have limit : (envelopeFilter asksForAll none).limit = 20000 := by decide
  refine ⟨envelopesPage (crowded count) (envelopeFilter asksForAll none), rfl,
    next_of_large (by rw [limit]; decide), ?_⟩
  by_contra all
  have inside : (List.range count).map (fun seq => (crowdRow seq).record) ⊆
      (envelopesPage (crowded count) (envelopeFilter asksForAll none)).records := by
    intro record member
    obtain ⟨seq, isSeq, rfl⟩ := List.mem_map.mp member
    by_contra absent
    exact all ⟨crowdRow seq, List.mem_map_of_mem isSeq, crowd_matches count seq, absent⟩
  have fewer := ((List.nodup_range.map crowdRow_record_injective).subperm inside).length_le
  have most : (envelopesPage (crowded count) (envelopeFilter asksForAll none)).records.length ≤ 10000 := by
    show ((crowded count).query (envelopeFilter asksForAll none)).length ≤ 10000
    unfold Store.query Store.queryRows
    dsimp only
    rw [List.length_map, List.length_take, pageSize_of_large (by rw [limit]; decide)]
    exact Nat.min_le_left _ _
  rw [List.length_map, List.length_range] at fewer
  omega

theorem crowded_audit_cut :
    ∃ page, getEnvelopes (crowded 10001) asksForAll = .ok page ∧ page.next = none ∧
      ∃ row ∈ (crowded 10001).envelopes,
        (crowded 10001).predicate (envelopeFilter asksForAll none) row = true ∧ row.record ∉ page.records :=
  crowd_cut (by decide)

end Stozher.Deployment
