import Mathlib.Algebra.Order.BigOperators.Group.List
import Stozher.MandateLine

namespace Stozher

open Library Ingest

variable {ext : External} {config : Config}

/-- The applied calls an envelope records: one of its own, or those it folds. -/
def appliedCalls (env : Value) : Nat :=
  if env.getStr "kind" = some "effect" then
    if (env.index "execution").getStr "outcome" = some "applied" then 1 else 0
  else if env.getStr "kind" = some "aggregate" then (((env.index "counts").index "total").asI64.getD 0).toNat
  else 0

/-- An effect that was applied. -/
def AppliedEffect (env : Value) : Prop :=
  env.getStr "kind" = some "effect" ∧ (env.index "execution").getStr "outcome" = some "applied"

instance (env : Value) : Decidable (AppliedEffect env) :=
  inferInstanceAs (Decidable (_ ∧ _))

namespace Budget

/-- What an envelope charges of requests, whatever else it costs. -/
theorem accrualOf_requests (env : Value) :
    (accrualOf env).filter (fun entry => entry.1 == "requests") =
      if AppliedEffect env then [("requests", "1")] else [] := by
  have keeps : ∀ (amounts : Amounts) (entry : String × Value), (addCost amounts entry).filter (fun entry => entry.1 == "requests") =
      amounts.filter fun entry => entry.1 == "requests" := by
    intro amounts entry
    obtain ⟨dimension, value⟩ := entry
    unfold addCost
    dsimp only
    split
    · rename_i named
      have other : dimension ≠ "requests" := by
        intro same
        subst same
        exact absurd named (by decide)
      split
      · unfold insert
        rw [List.filter_cons_of_neg (by simpa using other), List.filter_filter]
        apply List.filter_congr
        intro entry _
        by_cases same : entry.1 = "requests"
        · simp [same, Ne.symm other]
        · simp [same]
      · rfl
    · rfl
  have folded : ∀ (entries : List (String × Value)) (amounts : Amounts), (entries.foldl addCost amounts).filter (fun entry => entry.1 == "requests") =
      amounts.filter fun entry => entry.1 == "requests" := by
    intro entries
    induction entries with
    | nil => exact fun _ => rfl
    | cons entry rest ih =>
        intro amounts
        rw [List.foldl_cons, ih, keeps]
  unfold accrualOf
  dsimp only
  rw [folded]
  by_cases applied : AppliedEffect env
  · rw [if_pos applied]
    unfold AppliedEffect at applied
    rw [if_pos applied]
    rfl
  · rw [if_neg applied]
    unfold AppliedEffect at applied
    rw [if_neg applied]
    rfl

end Budget

namespace Store

variable (store : Store)

/-- The mandate a number of delegations above another. -/
def ancestorAt : Nat → String → Option String
  | 0, id => some id
  | steps + 1, id => (store.parentOf id).bind (ancestorAt steps)

variable {store}

theorem ancestorAt_eq {leafRef : String} {rest : List String} (ascends : Ascends store.parentOf (leafRef :: rest))
    (steps : Nat) : store.ancestorAt steps leafRef = (leafRef :: rest)[steps]? := by
  induction steps generalizing leafRef rest with
  | zero => rfl
  | succ steps ih =>
      unfold ancestorAt
      cases rest with
      | nil =>
          have ends : store.parentOf leafRef = none := ascends
          rw [ends]
          rfl
      | cons next others =>
          rw [ascends.1, Option.bind_some, ih ascends.2]
          rfl

/-- A line reaches a mandate exactly when it is at most sixty-four delegations above. -/
theorem mem_mandateLine (consistent : store.Consistent) {leafRef : String} {rest : List String}
    (ascends : Ascends store.parentOf (leafRef :: rest)) {mandate : String} :
    mandate ∈ store.mandateLine leafRef ↔ ∃ steps ≤ 64, store.ancestorAt steps leafRef = some mandate := by
  rw [mandateLine_eq_take consistent ascends, List.mem_iff_getElem?]
  constructor
  · intro inside
    obtain ⟨i, found⟩ := inside
    have low : i < 65 := by
      by_contra high
      rw [List.getElem?_eq_none (by simp; omega)] at found
      cases found
    rw [List.getElem?_take_of_lt low] at found
    exact ⟨i, by omega, (ancestorAt_eq ascends i).trans found⟩
  · intro above
    obtain ⟨steps, few, found⟩ := above
    refine ⟨steps, ?_⟩
    rw [List.getElem?_take_of_lt (by omega), ← ancestorAt_eq ascends]
    exact found

theorem beneath_of_ancestorAt {steps : Nat} {id mandate : String} (above : store.ancestorAt steps id = some mandate) :
    store.Beneath id mandate := by
  induction steps generalizing id with
  | zero =>
      cases above
      exact .refl
  | succ steps ih =>
      unfold ancestorAt at above
      rw [Option.bind_eq_some_iff] at above
      obtain ⟨parent, up, above⟩ := above
      exact .head up (ih above)

/-- The mandate an envelope was stored under is the mandate itself or one delegated beneath it. -/
def Under (store : Store) (row : EnvelopeRow) (mandate : String) : Prop :=
  ∃ cited, row.mandateRef = some cited ∧ store.Beneath cited mandate

/-- The mandate an envelope was stored under is at most sixty-four delegations beneath. -/
def Near (store : Store) (row : EnvelopeRow) (mandate : String) : Prop :=
  ∃ cited, row.mandateRef = some cited ∧ ∃ steps ≤ 64, store.ancestorAt steps cited = some mandate

theorem Near.under {row : EnvelopeRow} {mandate : String} (near : store.Near row mandate) : store.Under row mandate := by
  obtain ⟨cited, cites, steps, _, above⟩ := near
  exact ⟨cited, cites, beneath_of_ancestorAt above⟩

end Store

theorem appliedCalls_effect {env : Value} (applied : AppliedEffect env) : appliedCalls env = 1 := by
  unfold appliedCalls
  rw [if_pos applied.1, if_pos applied.2]

namespace World

variable {world : World}

open scoped Classical in
/-- The applied calls one stored envelope adds to what was done under a mandate. -/
noncomputable def recorded (world : World) (mandate : String) (row : EnvelopeRow) : Nat :=
  if world.store.Under row mandate then appliedCalls row.canonicalJson.tree else 0

open scoped Classical in
/-- The requests one stored envelope is charged to a mandate. -/
noncomputable def charged (world : World) (mandate : String) (row : EnvelopeRow) : Nat :=
  if world.store.Near row mandate ∧ AppliedEffect row.canonicalJson.tree then 1 else 0

/-- The applied calls recorded under a mandate and under every mandate delegated beneath it. -/
noncomputable def callsUnder (world : World) (mandate : String) : Nat :=
  (world.store.envelopes.map (world.recorded mandate)).sum

/-- The requests accrued to a mandate come to a number of calls. -/
def RequestsAccrued (world : World) (mandate : String) (count : Nat) : Prop :=
  (heldIn world.store.spend (mandate, "requests") = none ∧ count = 0) ∨
    ∃ total, heldIn world.store.spend (mandate, "requests") = some total ∧ Decimal.Denotes total count 0

theorem charged_le (mandate : String) (row : EnvelopeRow) : world.charged mandate row ≤ world.recorded mandate row := by
  unfold charged
  split
  · rename_i counts
    unfold recorded
    rw [if_pos counts.1.under, appliedCalls_effect counts.2]
  · exact Nat.zero_le _

/-- What a stored envelope is charged of requests is what it records exactly when it folds no calls, and an applied
effect is recorded near enough. -/
theorem charged_eq_iff (mandate : String) (row : EnvelopeRow) :
    world.charged mandate row = world.recorded mandate row ↔ (world.store.Under row mandate →
      (row.canonicalJson.tree.getStr "kind" = some "aggregate" → appliedCalls row.canonicalJson.tree = 0) ∧
      (AppliedEffect row.canonicalJson.tree → world.store.Near row mandate)) := by
  unfold charged recorded
  by_cases under : world.store.Under row mandate
  · rw [if_pos under]
    by_cases applied : AppliedEffect row.canonicalJson.tree
    · rw [appliedCalls_effect applied]
      have single : row.canonicalJson.tree.getStr "kind" ≠ some "aggregate" := by
        rw [applied.1]
        decide
      simp [under, applied, single]
    · have calls : appliedCalls row.canonicalJson.tree = 0 ↔
          (row.canonicalJson.tree.getStr "kind" = some "aggregate" → appliedCalls row.canonicalJson.tree = 0) := by
        constructor
        · intro free _
          exact free
        · intro folds
          by_cases aggregate : row.canonicalJson.tree.getStr "kind" = some "aggregate"
          · exact folds aggregate
          · unfold appliedCalls
            by_cases effect : row.canonicalJson.tree.getStr "kind" = some "effect"
            · rw [if_pos effect, if_neg fun outcome => applied ⟨effect, outcome⟩]
            · rw [if_neg effect, if_neg aggregate]
      rw [if_neg fun counts => applied counts.2, eq_comm, calls]
      simp [under, applied]
  · have far : ¬ world.store.Near row mandate := fun near => under near.under
    simp [under, far]

/-- The mandate a stored envelope cites ascends to a root. -/
theorem row_ascends (reached : (kernel ext config).Reachable world) {row : EnvelopeRow}
    (member : row ∈ world.store.envelopes) {cited : String} (cites : row.mandateRef = some cited) :
    ∃ rest, Ascends world.store.parentOf (cited :: rest) := by
  obtain ⟨taken, accepted, built, before, after, taking⟩ := row_built (traced reached) member
  obtain ⟨subjectKey, payloads, admitted⟩ := taking.origin.admitted
  have grows : taken.snapshot.Grows world.store :=
    (taking.origin.seen.trans taking.appends.grows).trans taking.kept
  rw [(Store.envelopeRow_columns built).mandateRef] at cites
  obtain ⟨leafRef, depth, request, result, isCited, walked⟩ := admitted.rule.walks (acts_of_cites admitted.valid cites)
  cases cites.symm.trans isCited
  obtain ⟨rest, ascends, stored⟩ := Store.walked_path walked
  refine ⟨rest, ascends.congr ?_⟩
  intro link inside
  obtain ⟨value, held⟩ := stored link inside
  exact Store.parentOf_grows grows held

theorem row_requests (reached : (kernel ext config).Reachable world) {row : EnvelopeRow}
    (member : row ∈ world.store.envelopes) (mandate : String) :
    amountsTo (mandate, "requests") (if row.mandateRef.isSome then world.store.rowPostings row else []) =
      List.replicate (world.charged mandate row) "1" := by
  cases cites : row.mandateRef with
  | none =>
      have far : ¬ world.store.Near row mandate := by
        intro near
        obtain ⟨cited, isCited, _⟩ := near
        cases cites.symm.trans isCited
      have free : world.charged mandate row = 0 := by
        unfold charged
        exact if_neg fun counts => far counts.1
      rw [free]
      rfl
  | some cited =>
      obtain ⟨rest, ascends⟩ := row_ascends reached member cites
      have distinct : (world.store.mandateLine cited).Nodup := by
        rw [Store.mandateLine_eq_take (consistent reached) ascends]
        exact ascends.nodup.sublist (List.take_sublist 65 _)
      have near : world.store.Near row mandate ↔ mandate ∈ world.store.mandateLine cited := by
        rw [Store.mem_mandateLine (consistent reached) ascends]
        constructor
        · intro near
          obtain ⟨leaf, isCited, above⟩ := near
          cases cites.symm.trans isCited
          exact above
        · exact fun above => ⟨cited, cites, above⟩
      have split : ∀ postings : List SpendRow, amountsTo (mandate, "requests") postings =
          ((postings.filter fun posting => posting.mandateId == mandate).filter fun posting =>
            posting.dimension == "requests").map SpendRow.amount := by
        intro postings
        unfold amountsTo SpendRow.key
        rw [List.filter_filter]
        congr 2
        funext posting
        rw [Bool.and_comm]
        rfl
      unfold Store.rowPostings charged
      rw [Option.isSome_some, if_pos rfl, split, cites, Option.getD_some, postings_to distinct mandate, near]
      by_cases reaches : mandate ∈ world.store.mandateLine cited
      · have entries := Budget.accrualOf_requests row.canonicalJson.tree
        rw [if_pos reaches, List.filter_map, List.map_map]
        show ((Budget.accrualOf row.canonicalJson.tree).filter fun entry => entry.1 == "requests").map Prod.snd = _
        rw [entries]
        by_cases applied : AppliedEffect row.canonicalJson.tree
        · rw [if_pos applied, if_pos ⟨reaches, applied⟩]
          rfl
        · rw [if_neg applied, if_neg fun counts => applied counts.2]
          rfl
      · rw [if_neg reaches, if_neg fun counts => reaches counts.1]
        rfl

theorem requests_charged (reached : (kernel ext config).Reachable world) (mandate : String) :
    amountsTo (mandate, "requests") world.postings =
      List.replicate (world.store.envelopes.map (world.charged mandate)).sum "1" := by
  rw [postings, postings_of_rows reached (fun _ held => held) (traced reached).rows]
  have each : ∀ rows ⊆ world.store.envelopes, amountsTo (mandate, "requests")
      ((rows.filter fun row => row.mandateRef.isSome).flatMap world.store.rowPostings) =
        List.replicate (rows.map (world.charged mandate)).sum "1" := by
    intro rows
    induction rows with
    | nil => exact fun _ => rfl
    | cons row rest ih =>
        intro inside
        have first := row_requests reached (inside List.mem_cons_self) mandate
        have later := ih fun other member => inside (List.mem_cons_of_mem row member)
        rw [List.map_cons, List.sum_cons, List.replicate_add, ← first, ← later, ← amountsTo_append, List.filter_cons]
        split
        · rw [List.flatMap_cons]
        · rw [List.nil_append]
  exact each _ (List.Subset.refl _)

end World

namespace Decimal

/-- A one for each call. -/
def ones (count : Nat) : List Quantity :=
  List.replicate count { value := 1, scale := 0 }

theorem ones_sum (count : Nat) : (ones count).sum = { value := count, scale := 0 } := by
  induction count with
  | zero => rfl
  | succ count ih =>
      unfold ones at ih ⊢
      rw [List.replicate_succ, List.sum_cons, ih, Quantity.add_def]
      ext
      · push_cast
        exact add_comm _ _
      · rfl

theorem ones_amounts (count : Nat) : List.Forall₂ Amount (List.replicate count "1") (ones count) := by
  have read : parts "1" = .ok ([0x31], []) := by decide
  have one : Amount "1" { value := 1, scale := 0 } := by
    refine ⟨[0x31], [], parts_eq_ok read, rfl, ?_⟩
    have value : Text.decimalValue ([0x31] ++ []) = 1 := by decide
    rw [value]
    norm_num
  induction count with
  | zero => exact .nil
  | succ count ih => exact .cons one ih

end Decimal

namespace World

variable {world : World}

/-- The requests accrued to a mandate are the applied effects recorded near enough beneath it. -/
theorem requestsAccrued_iff (reached : (kernel ext config).Reachable world) (mandate : String) (count : Nat) :
    RequestsAccrued world mandate count ↔ (world.store.envelopes.map (world.charged mandate)).sum = count := by
  obtain ⟨_, amounts⟩ := posted_amounts (booked reached)
  have run := amounts (mandate, "requests")
  rw [requests_charged reached] at run
  have known := Decimal.ones_amounts (world.store.envelopes.map (world.charged mandate)).sum
  have spec := ((Decimal.adds.tally_spec known).1 _ run).2
  rw [Decimal.ones_sum] at spec
  unfold RequestsAccrued
  constructor
  · intro accrued
    rcases accrued with ⟨nothing, free⟩ | ⟨total, held, denotes⟩
    · rcases spec with ⟨empty, _⟩ | ⟨total, held, _⟩
      · rw [free]
        exact (List.replicate_eq_nil_iff _).mp empty
      · cases nothing.symm.trans held
    · rcases spec with ⟨_, nothing⟩ | ⟨other, isHeld, counts⟩
      · cases nothing.symm.trans held
      · cases held.symm.trans isHeld
        have same := (Decimal.Denotes.unique counts denotes).1
        rw [NNRat.coe_natCast] at same
        exact Nat.cast_injective same
  · intro count_
    rcases spec with ⟨empty, nothing⟩ | ⟨total, held, denotes⟩
    · exact .inl ⟨nothing, count_ ▸ (List.replicate_eq_nil_iff _).mp empty⟩
    · refine .inr ⟨total, held, ?_⟩
      rw [← count_]
      have counts : Decimal.Denotes total
          (((world.store.envelopes.map (world.charged mandate)).sum : ℚ≥0) : ℚ) 0 := denotes
      rw [NNRat.coe_natCast] at counts
      exact counts

theorem sums_eq_iff {rows : List EnvelopeRow} {f g : EnvelopeRow → Nat} (le : ∀ row ∈ rows, f row ≤ g row) :
    (rows.map f).sum = (rows.map g).sum ↔ ∀ row ∈ rows, f row = g row := by
  induction rows with
  | nil => exact ⟨fun _ _ member => absurd member List.not_mem_nil, fun _ => rfl⟩
  | cons row rest ih =>
      have first := le row List.mem_cons_self
      have others := fun other member => le other (List.mem_cons_of_mem row member)
      have sums := List.sum_le_sum others
      rw [List.map_cons, List.map_cons, List.sum_cons, List.sum_cons, List.forall_mem_cons, ← ih others]
      omega

/-- The requests accrued to a mandate are the applied calls recorded under it and beneath it exactly when none of them
was folded into an aggregate, and every applied effect is at most sixty-four delegations beneath. -/
theorem requests_accrued (reached : (kernel ext config).Reachable world) (mandate : String) :
    RequestsAccrued world mandate (callsUnder world mandate) ↔
      ∀ row ∈ world.store.envelopes, world.store.Under row mandate →
        (row.canonicalJson.tree.getStr "kind" = some "aggregate" → appliedCalls row.canonicalJson.tree = 0) ∧
        (AppliedEffect row.canonicalJson.tree → world.store.Near row mandate) := by
  rw [requestsAccrued_iff reached]
  unfold callsUnder
  rw [sums_eq_iff fun row _ => charged_le mandate row]
  exact forall₂_congr fun row _ => charged_eq_iff mandate row

end World

end Stozher

namespace Stozher.Deployment

/-- What the reads of the agent leave on record. -/
structure ReadsSeen : Prop where
  accepted : ((after (founding ++ enter secretReadsBody nine)).store.envelopes.map fun row =>
    (row.mandateRef == some opsMandate.digest, row.canonicalJson.tree.getStr "kind",
      appliedCalls row.canonicalJson.tree)) =
        [(false, some "mandate", 0), (true, some "policy-change", 0), (true, some "aggregate", 1)]
  spend : (after (founding ++ enter secretReadsBody nine)).store.spend = []
  kinds : ((after founding).store.envelopes.map fun row => row.canonicalJson.tree.getStr "kind") =
    [some "mandate", some "policy-change"]

theorem reads_seen : ReadsSeen := by
  constructor <;> decide +kernel

theorem founding_requests_accrued : World.RequestsAccrued (after founding) opsMandate.digest
    ((after founding).callsUnder opsMandate.digest) := by
  apply (World.requests_accrued (reachable founding) opsMandate.digest).mpr
  intro row member _
  have kind := List.mem_map_of_mem (f := fun row : EnvelopeRow => row.canonicalJson.tree.getStr "kind") member
  rw [reads_seen.kinds] at kind
  constructor
  · intro aggregate
    rw [aggregate] at kind
    exact absurd kind (by decide)
  · intro applied
    rw [applied.1] at kind
    exact absurd kind (by decide)

/-- A read the gateway folded is charged to no mandate. -/
theorem reads_uncharged : ¬∀ (ext : External) config world, (kernel ext config).Reachable world →
    ∀ mandate, World.RequestsAccrued world mandate (world.callsUnder mandate) := by
  intro accrued
  have counts := accrued ext config _ (reachable (founding ++ enter secretReadsBody nine)) opsMandate.digest
  have unpaid : heldIn (after (founding ++ enter secretReadsBody nine)).store.spend (opsMandate.digest, "requests") =
      none := by
    rw [reads_seen.spend]
    rfl
  rcases counts with ⟨_, free⟩ | ⟨total, held, _⟩
  · have aggregate : (true, some "aggregate", 1) ∈ (after (founding ++ enter secretReadsBody nine)).store.envelopes.map
        fun row => (row.mandateRef == some opsMandate.digest, row.canonicalJson.tree.getStr "kind",
          appliedCalls row.canonicalJson.tree) := by
      rw [reads_seen.accepted]
      decide
    obtain ⟨row, member, seen⟩ := List.mem_map.mp aggregate
    simp only [Prod.mk.injEq, beq_iff_eq] at seen
    have nothing := List.sum_eq_zero_iff.mp free _ (List.mem_map_of_mem member)
    unfold World.recorded at nothing
    rw [if_pos ⟨_, seen.1, .refl⟩, seen.2.2] at nothing
    cases nothing
  · cases unpaid.symm.trans held

end Stozher.Deployment
