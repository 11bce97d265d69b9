import Stozher.Charges

namespace Stozher

open Library Ingest

variable {ext : External} {config : Config}

namespace Store

variable {store later : Store}

theorem mandateRow_parent (consistent : store.Consistent) (id : String) :
    (store.mandateRow id).bind MandateRow.parent = store.parentOf id := by
  unfold parentOf mandate
  cases found : store.mandateRow id with
  | none => rfl
  | some row => exact consistent.parents row (List.mem_of_find?_eq_some found)

/-- A line is the same in two stores that agree on the parents along it. -/
theorem lineFrom_congr (consistent : store.Consistent) (other : later.Consistent) {path : List String}
    (closed : ∀ id ∈ path, ∀ parent, store.parentOf id = some parent → parent ∈ path)
    (same : ∀ id ∈ path, later.parentOf id = store.parentOf id) {steps : Nat} {line : List String}
    {current : String} (within_ : current ∈ path) :
    later.lineFrom steps line current = store.lineFrom steps line current := by
  induction steps generalizing line current with
  | zero => rfl
  | succ steps ih =>
      unfold lineFrom
      rw [mandateRow_parent consistent, mandateRow_parent other, same current within_]
      cases up : store.parentOf current with
      | none => rfl
      | some parent =>
          dsimp only
          rw [ih (closed current within_ parent up)]

/-- The line of a mandate whose walk passed stays what it was. -/
theorem mandateLine_grows (consistent : store.Consistent) (other : later.Consistent) (grows : store.Grows later)
    {leafRef : String} {rest : List String} (ascends : Ascends store.parentOf (leafRef :: rest))
    (stored : ∀ link ∈ leafRef :: rest, ∃ value, store.mandate link = some value) :
    later.mandateLine leafRef = store.mandateLine leafRef := by
  unfold mandateLine
  refine lineFrom_congr consistent other ?_ ?_ (List.mem_cons_self : leafRef ∈ leafRef :: rest)
  · intro id member parent up
    have above : Relation.ReflTransGen (Above store.parentOf) leafRef id := ascends.above_of_mem member
    exact ascends.mem_of_above (above.tail up)
  · intro id member
    obtain ⟨value, held⟩ := stored id member
    exact parentOf_grows grows held

theorem Quiet.spend (quiet : Quiet ext config store later) : later.spend = store.spend := by
  cases quiet with
  | same => rfl
  | rejected input record next recorded =>
      obtain ⟨row, rfl, _⟩ := recordRejection_eq_ok recorded
      rfl
  | parked rows => rfl
  | decayed now => rfl
  | seeded rootKey subject enrolledAt =>
      unfold seedConfiguredRoot
      split <;> rfl

end Store

namespace World

variable {world : World}

/-- What the accepted envelopes charge, in the order they were accepted. -/
def postings (world : World) : List SpendRow :=
  world.accepted.flatMap fun taken => taken.plan.postings

/-- The spend table is what the accepted envelopes charge, posted in their order. -/
theorem booked (reached : (kernel ext config).Reachable world) :
    foldChecked post [] world.postings = .ok world.store.spend := by
  refine World.invariant ext config (fun world => foldChecked post [] world.postings = .ok world.store.spend)
    rfl ?_ reached
  intro world action next _ known step
  cases step with
  | quiet store accepted _ =>
      unfold postings
      rw [accepted, store.spend]
      exact known
  | appends request snapshot validated _ _ store accepted _ =>
      obtain ⟨spend, run, same⟩ := Store.writeSpend_iff.mp store.spend
      have isSpend : next.store.spend = spend := congrArg Store.spend same
      unfold postings at known ⊢
      rw [accepted, List.flatMap_append, foldChecked_append, known, ok_bind, List.flatMap_singleton, run, isSpend]

/-- What an accepted envelope charges is what its row is charged when the table is rebuilt. -/
theorem postings_of_row (reached : (kernel ext config).Reachable world) {row : EnvelopeRow} {taken : Accepted}
    (accepted : taken ∈ world.accepted) (built : Store.envelopeRow taken.plan = .ok row) :
    taken.plan.postings = if row.mandateRef.isSome then world.store.rowPostings row else [] := by
  obtain ⟨before, after, taking⟩ := (traced reached).accepted taken accepted
  obtain ⟨subjectKey, payloads, admitted⟩ := taking.origin.admitted
  obtain ⟨past, pastReached, same, _⟩ := taking.origin.earlier
  have columns := Store.envelopeRow_columns built
  have of := Store.envelopeRow_eq_ok built
  have tree : row.canonicalJson.tree = taken.plan.envelope := by rw [of.canonicalJson, admitted.canonical]
  have grows : taken.snapshot.Grows world.store :=
    (taking.origin.seen.trans taking.appends.grows).trans taking.kept
  unfold AppendPlan.postings
  rw [admitted.charged.spend, columns.mandateRef]
  unfold chargeOf
  cases cited : taken.plan.envelope.getStr "mandate-ref" with
  | none => rfl
  | some leafRef =>
      obtain ⟨_, depth, request, result, cites, walked⟩ :=
        admitted.rule.walks (acts_of_cites admitted.valid cited)
      cases cited.symm.trans cites
      obtain ⟨rest, ascends, stored⟩ := Store.walked_path walked
      have line := Store.mandateLine_grows (same ▸ consistent pastReached) (consistent reached) grows ascends stored
      have charge : world.store.rowPostings row = SpendAccrual.postings {
          mandates := taken.snapshot.mandateLine leafRef
          amounts := Budget.accrualOf taken.plan.envelope } := by
        unfold Store.rowPostings
        rw [columns.mandateRef, cited, Option.getD_some, line, tree]
      rw [Option.isSome_some, if_pos rfl, charge]
      dsimp only
      by_cases free : (Budget.accrualOf taken.plan.envelope).isEmpty = true
      · rw [if_pos free, List.isEmpty_iff.mp free]
        unfold SpendAccrual.postings
        simp
      · rw [if_neg free]
        rfl

theorem postings_of_rows (reached : (kernel ext config).Reachable world) {rows : List EnvelopeRow}
    {accepted : List Accepted} (held : ∀ taken ∈ accepted, taken ∈ world.accepted)
    (built : List.Forall₂ (fun row taken => Store.envelopeRow taken.plan = .ok row) rows accepted) :
    (accepted.flatMap fun taken => taken.plan.postings) =
      (rows.filter fun row => row.mandateRef.isSome).flatMap world.store.rowPostings := by
  induction built with
  | nil => rfl
  | @cons row taken rows accepted first rest ih =>
      have later := ih fun other member => held other (List.mem_cons_of_mem _ member)
      rw [List.flatMap_cons, later, postings_of_row reached (held taken List.mem_cons_self) first]
      by_cases cites : row.mandateRef.isSome = true
      · rw [if_pos cites, List.filter_cons, if_pos cites, List.flatMap_cons]
      · rw [if_neg cites, List.filter_cons, if_neg cites, List.nil_append]

/-- Every amount an envelope was charged is a decimal. -/
def DecimalCosts (world : World) : Prop :=
  ∀ row ∈ world.store.envelopes, ∀ entry ∈ Budget.accrualOf row.canonicalJson.tree, Decimal.IsDecimal entry.2

theorem amounts_of_postings (reached : (kernel ext config).Reachable world) (decimals : DecimalCosts world)
    (key : String × String) : ∀ amount ∈ amountsTo key world.postings, ∃ quantity, Decimal.Amount amount quantity := by
  intro amount member
  rw [postings, postings_of_rows reached (fun _ held => held) (traced reached).rows] at member
  obtain ⟨posting, posted, rfl⟩ := List.mem_map.mp member
  obtain ⟨row, cites, charged⟩ := List.mem_flatMap.mp (List.mem_of_mem_filter posted)
  unfold Store.rowPostings SpendAccrual.postings at charged
  obtain ⟨mandate, _, charged⟩ := List.mem_flatMap.mp charged
  obtain ⟨entry, spent, rfl⟩ := List.mem_map.mp charged
  exact Decimal.isDecimal_iff_amount.mp (decimals row (List.mem_of_mem_filter cites) entry spent)

end World

/-- Two texts of one amount. -/
def SameAmount (one other : String) : Prop :=
  ∃ value scale, Decimal.Denotes one value scale ∧ Decimal.Denotes other value scale

theorem sameAmount_of_quantity {one other : Option String}
    (same : Option.Rel (SameQuantity Decimal.Amount) one other) : Option.Rel SameAmount one other := by
  cases same with
  | none => exact .none
  | some quantity =>
      obtain ⟨amount, left, right⟩ := quantity
      exact .some ⟨_, _, left, right⟩

end Stozher

namespace Stozher.Deployment

open Library

theorem founding_spends_nothing :
    ((after founding).store.envelopes.map fun row => Budget.accrualOf row.canonicalJson.tree) = [[], []] := by
  decide +kernel

end Stozher.Deployment
