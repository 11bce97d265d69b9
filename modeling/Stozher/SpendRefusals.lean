import Stozher.SpendFold

namespace Stozher

open Library Ingest

variable {ext : External} {config : Config}

namespace Store

variable {store next : Store} {plan : AppendPlan}

/-- Everything an append writes ahead of the spend table. -/
def appendRecords (store : Store) (plan : AppendPlan) : Result Store := do
  checkStreamKind store plan
  checkPosition store plan
  let store ← consumeGate store plan
  let store ← insertEnvelope store plan
  let store ← writeMandate plan (insertPayloads store plan)
  let store ← writeRevocation plan store
  let store ← writePolicy plan store
  let store ← writeManifest plan store
  let store ← writeEnrollRoot plan store
  let store ← writeGateDecision plan (writeRetireRoot plan store)
  let store ← writeStreamResume plan store
  writeCheckpoint plan store

theorem appendFresh_eq (store : Store) (plan : AppendPlan) : appendFresh store plan =
    (touchStream plan <$> (appendRecords store plan >>= writeSpend plan)) := by
  unfold appendFresh appendRecords writeProjections
  simp only [bind_assoc, map_eq_pure_bind]

theorem appendRecords_spend (appended : appendRecords store plan = .ok next) : next.spend = store.spend := by
  unfold appendRecords at appended
  simp only [bind_eq_ok] at appended
  obtain ⟨_, _, _, _, gated, gate, inserted, envelope, s₁, first, s₂, second, s₃, third, s₄, fourth, s₅, fifth,
    s₆, sixth, s₇, seventh, eighth⟩ := appended
  have gatedSpend : gated.spend = store.spend := by
    obtain ⟨_, rfl⟩ := consumeGate_eq_ok gate
    rfl
  have insertedSpend : inserted.spend = gated.spend := by
    obtain ⟨_, _, _, _, rfl⟩ := insertEnvelope_eq_ok envelope
    rfl
  have payloadSpend : (insertPayloads inserted plan).spend = inserted.spend := by
    obtain ⟨_, _, stored⟩ := insertPayloads_eq inserted plan
    rw [stored]
  have mandateSpend : s₁.spend = (insertPayloads inserted plan).spend := by
    obtain ⟨_, rfl, _⟩ := writeMandate_eq_ok first
    rfl
  have revocationSpend : s₂.spend = s₁.spend := by
    obtain ⟨_, rfl, _⟩ := writeRevocation_eq_ok second
    rfl
  have policySpend : s₃.spend = s₂.spend := by
    obtain ⟨_, rfl, _⟩ := writePolicy_eq_ok third
    rfl
  have manifestSpend : s₄.spend = s₃.spend := by
    obtain ⟨_, rfl⟩ := writeManifest_eq_ok fourth
    rfl
  have enrolSpend : s₅.spend = s₄.spend := by
    obtain ⟨_, rfl, _⟩ := writeEnrollRoot_eq_ok fifth
    rfl
  have retireSpend : (writeRetireRoot plan s₅).spend = s₅.spend := by
    obtain ⟨_, retired, _⟩ := writeRetireRoot_eq plan s₅
    rw [retired]
  have decisionSpend : s₆.spend = (writeRetireRoot plan s₅).spend := by
    obtain ⟨_, rfl⟩ := writeGateDecision_eq_ok sixth
    rfl
  have resumeSpend : s₇.spend = s₆.spend := by
    obtain ⟨_, rfl, _⟩ := writeStreamResume_eq_ok seventh
    rfl
  have checkpointSpend : next.spend = s₇.spend := by
    obtain ⟨_, rfl, _⟩ := writeCheckpoint_eq_ok eighth
    rfl
  rw [checkpointSpend, resumeSpend, decisionSpend, retireSpend, enrolSpend, manifestSpend, policySpend,
    revocationSpend, mandateSpend, payloadSpend, insertedSpend, gatedSpend]

/-- An append goes through where everything ahead of the spend table does and the charge can be posted. -/
theorem isOk_append_iff (fresh : store.envelopeById plan.id = none) : isOk (store.append plan) = true ↔
    isOk (store.appendRecords plan) = true ∧
      ∃ spend, foldChecked post store.spend plan.postings = .ok spend := by
  unfold append
  rw [fresh]
  dsimp only
  rw [appendFresh_eq]
  simp only [isOk_iff, bind_eq_ok, map_eq_ok]
  constructor
  · intro appended
    obtain ⟨_, _, ⟨_, ⟨recorded, records, writes⟩, _⟩, _⟩ := appended
    obtain ⟨spend, run, _⟩ := writeSpend_iff.mp writes
    rw [appendRecords_spend records] at run
    exact ⟨⟨recorded, records⟩, spend, run⟩
  · intro both
    obtain ⟨⟨recorded, records⟩, spend, run⟩ := both
    rw [← appendRecords_spend records] at run
    exact ⟨_, _, ⟨_, ⟨recorded, records, writeSpend_iff.mpr ⟨spend, run, rfl⟩⟩, rfl⟩, rfl⟩

end Store

/-- What is charged can be added to what is held: every amount is a decimal, and so is every sum. -/
structure Payable (spend postings : List SpendRow) : Prop where
  decimals : ∀ posting ∈ postings, Decimal.IsDecimal posting.amount
  fits : ∀ key quantities,
    List.Forall₂ Decimal.Amount ((heldIn spend key).toList ++ amountsTo key postings) quantities →
    quantities.length ≤ 1 ∨ Decimal.Fits quantities.sum.value quantities.sum.scale

/-- A spend table the arithmetic can go on with. -/
def DecimalSpend (spend : List SpendRow) : Prop :=
  ∀ row ∈ spend, Decimal.IsDecimal row.amount

section

variable {spend next postings : List SpendRow}

theorem tally_held (held : Option String) (amounts : List String) :
    tally Decimal.add (held.toList ++ amounts) = foldChecked (addTo Decimal.add) held amounts := by
  cases held <;> rfl

theorem heldIn_decimal (decimal : DecimalSpend spend) {key : String × String} {amount : String}
    (held : heldIn spend key = some amount) : Decimal.IsDecimal amount := by
  unfold heldIn at held
  obtain ⟨row, found, rfl⟩ := Option.map_eq_some_iff.mp held
  exact decimal row (List.mem_of_find?_eq_some found)

theorem mem_amountsTo {key : String × String} {amount : String} :
    amount ∈ amountsTo key postings ↔ ∃ posting ∈ postings, posting.key = key ∧ posting.amount = amount := by
  unfold amountsTo
  simp only [List.mem_map, List.mem_filter, beq_iff_eq, and_assoc]

theorem quantities_of_decimals (decimal : DecimalSpend spend) (decimals : ∀ posting ∈ postings, Decimal.IsDecimal posting.amount)
    (key : String × String) : ∃ quantities,
      List.Forall₂ Decimal.Amount ((heldIn spend key).toList ++ amountsTo key postings) quantities := by
  refine Adds.quantities ?_
  intro amount member
  refine Decimal.isDecimal_iff_amount.mp ?_
  rcases List.mem_append.mp member with held | charged
  · exact heldIn_decimal decimal (Option.mem_toList.mp held)
  · obtain ⟨posting, posted, _, rfl⟩ := mem_amountsTo.mp charged
    exact decimals posting posted

theorem DecimalSpend.of_held (distinct : DistinctKeys SpendRow.key next)
    (held : ∀ key amount, heldIn next key = some amount → Decimal.IsDecimal amount) : DecimalSpend next := by
  intro row member
  exact held row.key row.amount ((heldIn_eq_some distinct).mpr ⟨row, member, rfl, rfl⟩)

/-- What can be paid is posted, and leaves decimals. -/
theorem Payable.posts (payable : Payable spend postings) (decimal : DecimalSpend spend)
    (distinct : DistinctKeys SpendRow.key spend) :
    ∃ next, foldChecked post spend postings = .ok next ∧ DecimalSpend next := by
  have sums : ∀ key, ∃ total,
      foldChecked (addTo Decimal.add) (heldIn spend key) (amountsTo key postings) = .ok total ∧
        ∀ amount, total = some amount → Decimal.IsDecimal amount := by
    intro key
    obtain ⟨quantities, known⟩ := quantities_of_decimals decimal payable.decimals key
    have spec := Decimal.adds.tally_spec known
    have short := payable.fits key quantities known
    rw [← known.length_eq] at short
    obtain ⟨total, run⟩ := spec.2 short
    rw [← tally_held]
    refine ⟨total, run, ?_⟩
    rintro amount rfl
    rcases (spec.1 _ run).2 with ⟨_, none⟩ | ⟨sum, same, denotes⟩
    · cases none
    · cases same
      exact Decimal.isDecimal_iff_amount.mpr ⟨_, denotes⟩
  obtain ⟨next, run⟩ := @posts_of_amounts spend postings fun key => by
    obtain ⟨total, sum, _⟩ := sums key
    exact ⟨total, sum⟩
  obtain ⟨kept, amounts⟩ := posted_amounts run
  refine ⟨next, run, DecimalSpend.of_held (kept distinct) ?_⟩
  intro key amount held
  obtain ⟨total, sum, isDecimal⟩ := sums key
  have same : total = heldIn next key := Except.ok.inj (sum.symm.trans (amounts key))
  exact isDecimal amount (same.trans held)

/-- What was posted and left decimals could be paid. -/
theorem Payable.of_posts (run : foldChecked post spend postings = .ok next) (decimal : DecimalSpend next) :
    Payable spend postings := by
  obtain ⟨_, amounts⟩ := posted_amounts run
  have known : ∀ key, ∀ amount ∈ (heldIn spend key).toList ++ amountsTo key postings,
      ∃ quantity, Decimal.Amount amount quantity := by
    intro key
    have sum := amounts key
    rw [← tally_held] at sum
    cases held : heldIn next key with
    | some total =>
        rw [held] at sum
        exact Decimal.adds.denoted sum (Decimal.isDecimal_iff_amount.mp (heldIn_decimal decimal held))
    | none =>
        rw [held] at sum
        intro amount member
        exfalso
        obtain ⟨first, rest, split⟩ := List.exists_cons_of_ne_nil (List.ne_nil_of_mem member)
        rw [split] at sum
        exact tally_ne_none sum
  refine ⟨?_, ?_⟩
  · intro posting posted
    refine Decimal.isDecimal_iff_amount.mpr (known posting.key posting.amount ?_)
    exact List.mem_append_right _ (mem_amountsTo.mpr ⟨posting, posted, rfl, rfl⟩)
  · intro key quantities are
    have sum := amounts key
    rw [← tally_held] at sum
    have fitting := ((Decimal.adds.tally_spec are).1 _ sum).1
    rwa [are.length_eq] at fitting

end

namespace World

variable {world : World}

theorem distinct_spend (reached : (kernel ext config).Reachable world) : DistinctKeys SpendRow.key world.store.spend :=
  (posted_amounts (booked reached)).1 .nil

/-- The envelope a step appends can be paid for, where everything else of it is written. -/
def Affordable (world : World) (action : Action) : Prop :=
  ∀ index request snapshot validated, action = .perform index →
    world.tasks[index]? = some (.append request snapshot validated) →
    world.store.envelopeById validated.plan.id = none →
    isOk (world.store.appendRecords validated.plan) = true →
    Payable world.store.spend validated.plan.postings

/-- A step whose append fails at the spend table alone. -/
def RefusedForSpend (world : World) (action : Action) : Prop :=
  ∃ index request snapshot validated, action = .perform index ∧
    world.tasks[index]? = some (.append request snapshot validated) ∧
    isOk (world.store.append validated.plan) = false ∧ isOk (world.store.appendRecords validated.plan) = true

theorem step_affordable {action : Action} (reached : (kernel ext config).Reachable world)
    (decimal : DecimalSpend world.store.spend) (affordable : Affordable world action) :
    DecimalSpend (step ext config world action).store.spend := by
  cases step_cases ext config world action with
  | quiet store _ _ =>
      rw [store.spend]
      exact decimal
  | appends request snapshot validated _ fresh store _ _ performs =>
      obtain ⟨index, performed, found, passed⟩ := performs
      have records := ((Store.isOk_append_iff fresh).mp passed).1
      have payable := affordable index request snapshot validated performed found fresh records
      obtain ⟨spend, run, decimals⟩ := payable.posts decimal (distinct_spend reached)
      obtain ⟨posted, rerun, same⟩ := Store.writeSpend_iff.mp store.spend
      have isSpend : (step ext config world action).store.spend = posted := congrArg Store.spend same
      rw [isSpend, ← Except.ok.inj (run.symm.trans rerun)]
      exact decimals

/-- A step charges what can be paid exactly when the table stays decimal and the step is not refused for it. -/
theorem affordable_iff {action : Action} (reached : (kernel ext config).Reachable world)
    (decimal : DecimalSpend world.store.spend) : Affordable world action ↔
      DecimalSpend (step ext config world action).store.spend ∧ ¬ RefusedForSpend world action := by
  constructor
  · intro affordable
    refine ⟨step_affordable reached decimal affordable, ?_⟩
    intro refused
    obtain ⟨index, request, snapshot, validated, performed, found, failed, records⟩ := refused
    cases held : world.store.envelopeById validated.plan.id with
    | some row =>
        unfold Store.append at failed
        rw [held] at failed
        cases failed
    | none =>
        have payable := affordable index request snapshot validated performed found held records
        obtain ⟨spend, run, _⟩ := payable.posts decimal (distinct_spend reached)
        have passed := (Store.isOk_append_iff held).mpr ⟨records, spend, run⟩
        rw [passed] at failed
        cases failed
  · rintro ⟨later, unrefused⟩ index request snapshot validated rfl found fresh records
    have passed : isOk (world.store.append validated.plan) = true := by
      by_contra failed
      refine unrefused ⟨index, request, snapshot, validated, rfl, found, ?_, records⟩
      exact Bool.eq_false_iff.mpr failed
    obtain ⟨⟨store, appended⟩, done⟩ := isOk_iff.mp passed
    rw [perform_store found done] at later
    obtain ⟨spend, run, same⟩ := Store.writeSpend_iff.mp (Store.append_fresh fresh done).1.spend
    have isSpend : store.spend = spend := congrArg Store.spend same
    rw [isSpend] at later
    exact Payable.of_posts run later

end World

/-- The spend table stays decimal and refuses nothing exactly when whatever is appended can be paid for. -/
theorem spend_never_refuses_iff (actions : List Action) :
    (kernel ext config).EachStep World.initial actions World.Affordable ↔
      ((kernel ext config).EachState World.initial actions fun world => DecimalSpend world.store.spend) ∧
      (kernel ext config).EachStep World.initial actions fun world action => ¬ World.RefusedForSpend world action :=
  System.eachStep_iff (fun _ _ reached decimal => World.affordable_iff reached decimal) (.of_start rfl)
    (by intro row member; cases member) actions

end Stozher

namespace Stozher.Deployment

open Library Ingest

/-- A charge that is no decimal is on the stream, and the next one under the same mandate waits. -/
def wordy : List Action :=
  founding ++ enter wordyChargeBody nine ++ [.submit (submitted nextChargeBody nine), .perform 0]

/-- What is seen of an append that waits: what refuses it, and what refuses all of it but the charge. -/
def refusedCharge (world : World) : Option (Option String × Option String) :=
  (planAt world 0).map fun plan => (refusal (world.store.append plan), refusal (world.store.appendRecords plan))

structure WordySeen : Prop where
  charges : ((after wordy).store.spend.map SpendRow.amount, refusedCharge (after wordy)) =
    (["abc"], some (some "schema-type-mismatch", none))

theorem wordy_seen : WordySeen where
  charges := by decide +kernel

/-- A word is held as an amount, and the next charge is refused for it. -/
theorem wordy_charge_poisons_mandate :
    (kernel ext config).Reachable (after wordy) ∧ ¬ DecimalSpend (after wordy).store.spend ∧
      World.RefusedForSpend (after wordy) (.perform 0) := by
  have amounts : (after wordy).store.spend.map SpendRow.amount = ["abc"] := congrArg Prod.fst wordy_seen.charges
  have refused : refusedCharge (after wordy) = some (some "schema-type-mismatch", none) :=
    congrArg Prod.snd wordy_seen.charges
  refine ⟨reachable wordy, ?_, ?_⟩
  · intro decimal
    obtain ⟨row, held, isWord⟩ : ∃ row ∈ (after wordy).store.spend, row.amount = "abc" := by
      refine List.mem_map.mp ?_
      rw [amounts]
      exact List.mem_cons_self
    have isDecimal := decimal row held
    rw [isWord, Decimal.isDecimal_iff] at isDecimal
    exact absurd isDecimal (by decide)
  · obtain ⟨plan, planned, codes⟩ := Option.map_eq_some_iff.mp refused
    obtain ⟨request, snapshot, validated, waiting, rfl⟩ := planAt_eq_some planned
    obtain ⟨error, failed, _⟩ := refusal_eq_some (congrArg Prod.fst codes)
    refine ⟨0, request, snapshot, validated, rfl, waiting, ?_, refusal_eq_none.mp (congrArg Prod.snd codes)⟩
    rw [failed]
    rfl

end Stozher.Deployment
