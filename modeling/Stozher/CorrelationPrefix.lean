import Stozher.AuditPaging
import Stozher.CorrelationRef
import Stozher.Library.Like

namespace Stozher

open Library

/-- Neutralizes the characters a pattern does not take literally. -/
def likeEscape (text : String) : String :=
  String.ofList (text.toList.flatMap fun ch => if ch = '%' ∨ ch = '_' ∨ ch = '\\' then ['\\', ch] else [ch])

namespace EnvelopeQuery

/-- `correlation_ref LIKE ? ESCAPE '\'`, with the pattern a prefix is bound as. -/
def correlationClause (wanted column : Option String) : Bool :=
  wanted.all fun start => column.any fun value =>
    Like.like Char.toLower '\\' (likeEscape start ++ "%").toList value.toList

theorem likeEscape_eq (text : String) : (likeEscape text).toList = Like.escaped '\\' text.toList := by
  unfold likeEscape Like.escaped
  rw [String.toList_ofList]
  congr 1
  funext ch
  have same : (ch = '%' ∨ ch = '_' ∨ ch = '\\') ↔ Like.isSpecial '\\' ch = true := by
    unfold Like.isSpecial
    simp only [Bool.or_eq_true, beq_iff_eq, or_assoc]
  by_cases special : Like.isSpecial '\\' ch = true
  · rw [if_pos (same.mpr special), if_pos special]
  · rw [if_neg fun holds => special (same.mp holds), if_neg special]

theorem like_likeEscape {start value : String} :
    Like.like Char.toLower '\\' (likeEscape start ++ "%").toList value.toList = true ↔
      start.toList.map Char.toLower <+: value.toList.map Char.toLower := by
  rw [String.toList_append, likeEscape_eq]
  exact Like.like_escaped (by decide)

/-- The pattern a prefix is translated to is exact but for the case of ASCII letters. -/
theorem like_eq_clause (wanted column : Option String) : like wanted column = correlationClause wanted column := by
  unfold like correlationClause
  have agree : ∀ start value : String,
      (start.toList.map Char.toLower).isPrefixOf (value.toList.map Char.toLower) =
        Like.like Char.toLower '\\' (likeEscape start ++ "%").toList value.toList := by
    intro start value
    rw [Bool.eq_iff_iff, List.isPrefixOf_iff_prefix, like_likeEscape]
  simp only [agree]

theorem like_some {start value : String} :
    like (some start) (some value) = true ↔ start.toList.map Char.toLower <+: value.toList.map Char.toLower := by
  rw [like, Option.all_some, Option.any_some, List.isPrefixOf_iff_prefix]

/-- The other conditions of a query. -/
def unprefixed (filter : EnvelopeQuery) : EnvelopeQuery :=
  { filter with correlationPrefix := none }

end EnvelopeQuery

/-- The row's correlation reference begins with a text, character for character. -/
def EnvelopeRow.BeginsWith (row : EnvelopeRow) (start : String) : Prop :=
  ∃ reference, row.correlationRef = some reference ∧ start.toList <+: reference.toList

namespace Store

variable {store : Store} {filter : EnvelopeQuery} {start : String} {row : EnvelopeRow}

/-- A query by a prefix answers with the envelopes that begin with it, and with all of them, up to the length
of its page. -/
structure PrefixExact (store : Store) (start : String) : Prop where
  sound : ∀ filter, filter.correlationPrefix = some start → ∀ row ∈ store.queryRows filter, row.BeginsWith start
  complete : ∀ filter, filter.correlationPrefix = some start → ∀ row ∈ store.envelopes, row.BeginsWith start →
    store.predicate filter.unprefixed row = true → filter.after.all row.follows = true →
      row ∈ store.queryRows filter ∨ (store.queryRows filter).length = filter.pageSize ∧
        ∀ other ∈ store.queryRows filter, other.precedes row = true

/-- No stored correlation reference begins with a prefix but for the case of its letters. -/
def CaseAgrees (store : Store) (start : String) : Prop :=
  ∀ row ∈ store.envelopes, ∀ reference, row.correlationRef = some reference →
    start.toList.map Char.toLower <+: reference.toList.map Char.toLower → start.toList <+: reference.toList

theorem predicate_iff_unprefixed : store.predicate filter row = true ↔
    store.predicate filter.unprefixed row = true ∧
      EnvelopeQuery.like filter.correlationPrefix row.correlationRef = true := by
  have always : EnvelopeQuery.like none row.correlationRef = true := rfl
  unfold predicate EnvelopeQuery.unprefixed
  simp only [Bool.and_eq_true, always]
  tauto

theorem mem_queryRows (member : row ∈ store.queryRows filter) :
    row ∈ store.envelopes ∧ store.predicate filter row = true := by
  rw [queryRows_eq] at member
  exact List.mem_filter.mp (mem_of_page member).1

/-- What a query leaves out, a full page of rows precedes. -/
theorem mem_queryRows_or_full (member : row ∈ store.envelopes) (matches_ : store.predicate filter row = true)
    (later : filter.after.all row.follows = true) :
    row ∈ store.queryRows filter ∨ (store.queryRows filter).length = filter.pageSize ∧
      ∀ other ∈ store.queryRows filter, other.precedes row = true := by
  have following : isAfter EnvelopeRow.auditKey (filter.after.map Cursor.key) row = true := by
    cases position : filter.after with
    | none => rfl
    | some after =>
        rw [position, Option.all_some, EnvelopeRow.follows_iff] at later
        exact isAfter_some.mpr later
  rw [queryRows_eq]
  simp only [EnvelopeRow.precedes_iff]
  exact mem_page_or_full (List.mem_filter.mpr ⟨member, matches_⟩) following

theorem like_of_beginsWith (begins : row.BeginsWith start) :
    EnvelopeQuery.like (some start) row.correlationRef = true := by
  obtain ⟨reference, stored, front⟩ := begins
  rw [stored, EnvelopeQuery.like_some]
  exact front.map Char.toLower

theorem beginsWith_of_like (agrees : store.CaseAgrees start) (member : row ∈ store.envelopes)
    (likes : EnvelopeQuery.like (some start) row.correlationRef = true) : row.BeginsWith start := by
  rw [EnvelopeQuery.like_eq_clause] at likes
  unfold EnvelopeQuery.correlationClause at likes
  rw [Option.all_some, Option.any_eq_true] at likes
  obtain ⟨reference, stored, likes⟩ := likes
  exact ⟨reference, stored, agrees row member reference stored (EnvelopeQuery.like_likeEscape.mp likes)⟩

/-- A query by a whole reference and a prefix of it, a row at a time. -/
def referenceQuery (reference start : String) : EnvelopeQuery :=
  { Deployment.everything with correlationRef := some reference, correlationPrefix := some start }

theorem referenceQuery_predicate {reference : String} : store.predicate (referenceQuery reference start) row = true ↔
    row.correlationRef = some reference ∧ EnvelopeQuery.like (some start) row.correlationRef = true := by
  unfold predicate referenceQuery Deployment.everything EnvelopeQuery.equals
  simp

theorem PrefixExact.caseAgrees (exact_ : store.PrefixExact start) : store.CaseAgrees start := by
  intro row member reference stored folded
  have matches_ : store.predicate (referenceQuery reference start) row = true := by
    rw [referenceQuery_predicate, stored, EnvelopeQuery.like_some]
    exact ⟨rfl, folded⟩
  have answered : ∃ other, other ∈ store.queryRows (referenceQuery reference start) := by
    rcases mem_queryRows_or_full member matches_ rfl with here | ⟨full, _⟩
    · exact ⟨row, here⟩
    · have one : (referenceQuery reference start).pageSize = 1 := rfl
      exact List.exists_mem_of_length_pos (by omega)
  obtain ⟨other, inside⟩ := answered
  obtain ⟨same, _⟩ := referenceQuery_predicate.mp (mem_queryRows inside).2
  obtain ⟨text, its, begins⟩ := exact_.sound _ rfl other inside
  rw [same] at its
  cases its
  exact begins

theorem envelopeRow_correlationRef {plan : AppendPlan} (built : envelopeRow plan = .ok row) :
    row.correlationRef = plan.envelope.getStr "correlation-ref" := by
  unfold envelopeRow at built
  simp only [bind_eq_ok, pure_eq_ok] at built
  obtain ⟨_, _, _, _, _, _, _, _, _, _, rfl⟩ := built
  rfl

end Store

end Stozher

namespace Stozher.Deployment

open Library

/-- The world that took the grant with a correlation reference. -/
def referred : World :=
  (kernel grantExt config).run seeded (seeded.alone referringGrant)

theorem referred_reached : (kernel grantExt config).Reachable referred :=
  .run (.run (.of_start rfl) _) _

theorem referred_accepted : referred.accepted.map (fun taken => taken.plan.envelope.getStr "correlation-ref") =
    [some "ceremony"] := by
  decide +kernel

theorem referred_stored : ∃ row ∈ referred.store.envelopes, row.correlationRef = some "ceremony" := by
  have held : some "ceremony" ∈ referred.accepted.map fun taken => taken.plan.envelope.getStr "correlation-ref" := by
    rw [referred_accepted]
    exact List.mem_cons_self
  obtain ⟨taken, inside, carried⟩ := List.mem_map.mp held
  obtain ⟨row, member, built⟩ := forall₂_mem_right (World.traced referred_reached).rows inside
  exact ⟨row, member, (Store.envelopeRow_correlationRef built).trans carried⟩

end Stozher.Deployment
