import Stozher.DecimalOrder
import Stozher.Library.Splits
import Stozher.MandateLine

namespace Stozher

open Library Ingest

variable {ext : External} {config : Config}

namespace Budget

/-- An amount held that is more than a cap allows. -/
def Over (held : Option String) (limit : Value) : Prop :=
  ∃ amount cap, held = some amount ∧ amountOf limit = some cap ∧ Decimal.atMost amount cap = .ok false

theorem insert_distinct {amounts : Amounts} (distinct : DistinctKeys Prod.fst amounts) (dimension amount : String) :
    DistinctKeys Prod.fst (insert amounts dimension amount) := by
  refine List.pairwise_cons.mpr ⟨?_, distinct.filter _⟩
  intro entry held same
  have other := (List.mem_filter.mp held).2
  rw [← same] at other
  simp at other

/-- What an envelope accrues names each dimension once. -/
theorem accrualOf_distinct (env : Value) : DistinctKeys Prod.fst (accrualOf env) := by
  have adds : ∀ (entries : List (String × Value)) (amounts : Amounts), DistinctKeys Prod.fst amounts →
      DistinctKeys Prod.fst (entries.foldl addCost amounts) := by
    intro entries
    induction entries with
    | nil => exact fun _ distinct => distinct
    | cons entry rest ih =>
        intro amounts distinct
        refine ih _ ?_
        unfold addCost
        dsimp only
        split
        · split
          · exact insert_distinct distinct _ _
          · exact distinct
        · exact distinct
  unfold accrualOf
  dsimp only
  apply adds
  split
  · exact List.pairwise_singleton _ _
  · exact .nil

theorem amounts_of_dimension {amounts : Amounts} (distinct : DistinctKeys Prod.fst amounts) (dimension : String) :
    (amounts.filter fun entry => entry.1 == dimension).map Prod.snd = (amounts.lookup dimension).toList := by
  induction amounts with
  | nil => rfl
  | cons entry rest ih =>
      obtain ⟨name, amount⟩ := entry
      obtain ⟨apart, distinct⟩ := List.pairwise_cons.mp distinct
      by_cases same : name = dimension
      · subst same
        have none : (rest.filter fun entry => entry.1 == name) = [] := by
          rw [List.filter_eq_nil_iff]
          intro entry held equal
          exact apart entry held (beq_iff_eq.mp equal).symm
        rw [List.filter_cons_of_pos (by simp), none, List.lookup_cons, beq_self_eq_true]
        rfl
      · rw [List.filter_cons_of_neg (by simpa using same), ih distinct, List.lookup_cons,
          beq_eq_false_iff_ne.mpr (Ne.symm same)]

/-- A charge that takes what is held past a cap is seen to pass it. -/
theorem exceeds_of_over {accrued adding : Amounts} {dimension added total : String} {limit : Value}
    (adds : adding.lookup dimension = some added)
    (sum : addTo Decimal.add (accrued.lookup dimension) added = .ok (some total)) (over_ : Over (some total) limit) :
    exceeds accrued adding (dimension, limit) = true := by
  obtain ⟨amount, cap, isTotal, isCap, above⟩ := over_
  cases isTotal
  unfold exceeds
  dsimp only
  rw [adds, isCap]
  dsimp only
  cases held : accrued.lookup dimension with
  | some before =>
      rw [held, addTo, bind_eq_ok] at sum
      obtain ⟨result, added, done⟩ := sum
      cases done
      rw [Option.getD_some, added]
      dsimp only
      rw [above]
      rfl
  | none =>
      rw [held, addTo] at sum
      cases sum
      rw [Option.getD_none]
      cases fresh : Decimal.add "0" added with
      | error e => rfl
      | ok result =>
          obtain ⟨a, b, s, t, isZero, isAdded, isResult, _⟩ := Decimal.add_eq_ok fresh
          obtain ⟨c, d, width, scale, isAdded', isLimit, order⟩ := Decimal.atMost_eq_ok above
          have more : d < c := by simpa using order
          have same := (isAdded.unique isAdded').1
          dsimp only
          rw [Decimal.atMost_denotes isResult isLimit]
          have past : ¬ a + b ≤ d := by
            have nonneg := isZero.nonneg
            rw [same, not_le]
            exact lt_of_lt_of_le more (le_add_of_nonneg_left nonneg)
          rw [decide_eq_false past]
          rfl

end Budget

namespace Store

variable {store : Store}

/-- What a mandate has spent is what the table holds of it. -/
theorem lookup_spendOf (mandate dimension : String) :
    (store.spendOf mandate).lookup dimension = heldIn store.spend (mandate, dimension) := by
  unfold spendOf heldIn
  induction store.spend with
  | nil => rfl
  | cons row rest ih =>
      rw [List.find?_cons]
      by_cases own : row.mandateId = mandate
      · rw [List.filter_cons_of_pos (by simpa using own), List.map_cons, List.lookup_cons]
        by_cases same : row.dimension = dimension
        · subst own same
          have key : (row.key == (row.mandateId, row.dimension)) = true := beq_iff_eq.mpr rfl
          rw [key, beq_self_eq_true]
          rfl
        · have key : (row.key == (mandate, dimension)) = false :=
            beq_eq_false_iff_ne.mpr fun equal => same (Prod.mk.inj equal).2
          rw [key, beq_eq_false_iff_ne.mpr (Ne.symm same)]
          exact ih
      · have key : (row.key == (mandate, dimension)) = false :=
          beq_eq_false_iff_ne.mpr fun equal => own (Prod.mk.inj equal).1
        rw [List.filter_cons_of_neg (by simpa using own), key]
        exact ih

/-- What the rebuild charges for a stored envelope. -/
def rowCharges (store : Store) (row : EnvelopeRow) : List SpendRow :=
  if row.mandateRef.isSome then store.rowPostings row else []

/-- The amount a mandate has accrued in a dimension over stored envelopes, one after another. -/
def accruedBy (store : Store) (rows : List EnvelopeRow) (key : String × String) : Result (Option String) :=
  tally Decimal.add (amountsTo key (rows.flatMap store.rowCharges))

/-- A stored envelope that is charged to a mandate in a dimension. -/
def ChargedTo (store : Store) (key : String × String) (row : EnvelopeRow) : Prop :=
  ∃ posting ∈ store.rowCharges row, posting.key = key

/-- A stored envelope whose charge takes a mandate past a cap. -/
structure CrossesAt (store : Store) (key : String × String) (limit : Value) (before : List EnvelopeRow)
    (row : EnvelopeRow) : Prop where
  within_ : ∃ held, store.accruedBy before key = .ok held ∧ ¬ Budget.Over held limit
  past : ∃ held, store.accruedBy (before ++ [row]) key = .ok held ∧ Budget.Over held limit

/-- A mandate past a cap is charged by a flagged envelope, and the one that took it past is flagged. -/
structure CapsVisible (store : Store) : Prop where
  past : ∀ id mandate cap, store.mandate id = some mandate → mandate.get "budget" = some cap →
    ∀ entry ∈ cap.asObject.getD [], Budget.Over (heldIn store.spend (id, entry.1)) entry.2 →
      ∃ row ∈ store.envelopes, store.ChargedTo (id, entry.1) row ∧ row.policyViolation.isSome = true
  first : ∀ id mandate cap, store.mandate id = some mandate → mandate.get "budget" = some cap →
    ∀ entry ∈ cap.asObject.getD [], ∀ before row after, store.envelopes = before ++ row :: after →
      store.CrossesAt (id, entry.1) entry.2 before row → row.policyViolation.isSome = true

variable {key : String × String} {limit : Value}

theorem accruedBy_concat (before : List EnvelopeRow) (row : EnvelopeRow) :
    store.accruedBy (before ++ [row]) key = store.accruedBy before key >>= fun held =>
      foldChecked (addTo Decimal.add) held (amountsTo key (store.rowCharges row)) := by
  unfold accruedBy tally
  rw [List.flatMap_append, amountsTo_append, foldChecked_append, List.flatMap_singleton]

/-- Where a mandate is past a cap, some envelope took it past. -/
theorem exists_crossing {rows : List EnvelopeRow} {now : Option String} (accrued : store.accruedBy rows key = .ok now)
    (past : Budget.Over now limit) :
    ∃ before row after, rows = before ++ row :: after ∧ store.CrossesAt key limit before row := by
  induction rows using List.reverseRecOn generalizing now with
  | nil =>
      cases accrued
      obtain ⟨amount, cap, held, _⟩ := past
      cases held
  | append_singleton front row ih =>
      have step := accrued
      rw [accruedBy_concat, bind_eq_ok] at step
      obtain ⟨held, was, _⟩ := step
      by_cases earlier : Budget.Over held limit
      · obtain ⟨before, first, after, split, crosses⟩ := ih was earlier
        refine ⟨before, first, after ++ [row], ?_, crosses⟩
        rw [split, List.append_assoc, List.cons_append]
      · exact ⟨front, row, [], rfl, ⟨held, was, earlier⟩, ⟨now, accrued, past⟩⟩

theorem CrossesAt.charged {before : List EnvelopeRow} {row : EnvelopeRow}
    (crosses : store.CrossesAt key limit before row) : store.ChargedTo key row := by
  by_contra free
  have none : amountsTo key (store.rowCharges row) = [] := by
    unfold amountsTo
    rw [List.map_eq_nil_iff, List.filter_eq_nil_iff]
    exact fun posting posted same => free ⟨posting, posted, beq_iff_eq.mp same⟩
  obtain ⟨held, was, within_⟩ := crosses.within_
  obtain ⟨now, is, past⟩ := crosses.past
  rw [accruedBy_concat, was, ok_bind, none] at is
  cases is
  exact within_ past

end Store

namespace World

variable {world : World}

/-- An envelope is appended on the spend its validation read, of every mandate it is charged to. -/
def ChargesAsRead (world : World) (action : Action) : Prop :=
  ∀ index request snapshot validated, action = .perform index →
    world.tasks[index]? = some (.append request snapshot validated) →
    ∀ charge, chargeOf snapshot validated.plan.envelope = some charge → ∀ mandate ∈ charge.mandates,
      snapshot.spendOf mandate = world.store.spendOf mandate

/-- Every envelope was charged on the spend its validation read. -/
def ChargedAsRead (world : World) : Prop :=
  ∀ before taken after, world.accepted = before ++ taken :: after →
    ∀ charge, chargeOf taken.snapshot taken.plan.envelope = some charge → ∀ mandate ∈ charge.mandates,
      ∀ dimension, tally Decimal.add (amountsTo (mandate, dimension) (before.flatMap fun taken => taken.plan.postings)) =
        .ok ((taken.snapshot.spendOf mandate).lookup dimension)

theorem tally_booked (reached : (kernel ext config).Reachable world) (key : String × String) :
    tally Decimal.add (amountsTo key world.postings) = .ok (heldIn world.store.spend key) :=
  (posted_amounts (booked reached)).2 key

theorem ChargedAsRead.step (reached : (kernel ext config).Reachable world) (charged : ChargedAsRead world)
    {action : Action} (asRead : ChargesAsRead world action) :
    ChargedAsRead ((kernel ext config).step world action) := by
  cases step_cases ext config world action with
  | quiet store accepted tasks =>
      intro before taken after split
      exact charged before taken after (accepted.symm.trans split)
  | appends request snapshot validated waiting fresh store accepted tasks performs =>
      intro before taken after split charge isCharge mandate member dimension
      rcases split_concat (accepted.symm.trans split) with ⟨rfl, rfl, rfl⟩ | ⟨front, rfl, earlier⟩
      · obtain ⟨index, performed, found, _⟩ := performs
        rw [asRead index request snapshot validated performed found charge isCharge mandate member,
          Store.lookup_spendOf]
        exact tally_booked reached (mandate, dimension)
      · exact charged before taken front earlier charge isCharge mandate member dimension

/-- What an accepted envelope is charged is what its row is. -/
theorem rowCharges_of_row (reached : (kernel ext config).Reachable world) {row : EnvelopeRow} {taken : Accepted}
    (accepted : taken ∈ world.accepted) (built : Store.envelopeRow taken.plan = .ok row) :
    world.store.rowCharges row = taken.plan.postings :=
  (postings_of_row reached accepted built).symm

theorem rowCharges_of_rows (reached : (kernel ext config).Reachable world) {rows : List EnvelopeRow}
    {accepted : List Accepted} (held : ∀ taken ∈ accepted, taken ∈ world.accepted)
    (built : List.Forall₂ (fun row taken => Store.envelopeRow taken.plan = .ok row) rows accepted) :
    rows.flatMap world.store.rowCharges = accepted.flatMap fun taken => taken.plan.postings := by
  induction built with
  | nil => rfl
  | @cons row taken rows accepted first rest ih =>
      rw [List.flatMap_cons, List.flatMap_cons, rowCharges_of_row reached (held taken List.mem_cons_self) first,
        ih fun other member => held other (List.mem_cons_of_mem _ member)]

theorem accruedBy_all (reached : (kernel ext config).Reachable world) (key : String × String) :
    world.store.accruedBy world.store.envelopes key = .ok (heldIn world.store.spend key) := by
  unfold Store.accruedBy
  rw [rowCharges_of_rows reached (fun _ held => held) (traced reached).rows]
  exact tally_booked reached key

/-- What a charge posts to a mandate in a dimension: its one amount of it. -/
theorem amountsTo_postings {mandates : List String} {amounts : Budget.Amounts} (distinct : mandates.Nodup)
    (dimensions : DistinctKeys Prod.fst amounts) (mandate dimension : String) :
    amountsTo (mandate, dimension) (SpendAccrual.postings { mandates, amounts }) =
      if mandate ∈ mandates then (amounts.lookup dimension).toList else [] := by
  have split : ∀ postings : List SpendRow, amountsTo (mandate, dimension) postings =
      ((postings.filter fun posting => posting.mandateId == mandate).filter fun posting =>
        posting.dimension == dimension).map SpendRow.amount := by
    intro postings
    unfold amountsTo SpendRow.key
    rw [List.filter_filter]
    congr 2
    funext posting
    rw [Bool.and_comm]
    rfl
  rw [split, postings_to distinct mandate]
  by_cases reaches : mandate ∈ mandates
  · rw [if_pos reaches, if_pos reaches, List.filter_map, List.map_map]
    exact Budget.amounts_of_dimension dimensions dimension
  · rw [if_neg reaches, if_neg reaches]
    rfl

/-- The charge of an accepted envelope is along mandates on record, each of them once. -/
theorem charge_line (reached : (kernel ext config).Reachable world) {taken : Accepted}
    (accepted : taken ∈ world.accepted) {charge : SpendAccrual}
    (isCharge : chargeOf taken.snapshot taken.plan.envelope = some charge) :
    charge.mandates.Nodup ∧ charge.amounts = Budget.accrualOf taken.plan.envelope ∧
      ∀ id ∈ charge.mandates, ∃ mandate, taken.snapshot.mandate id = some mandate := by
  obtain ⟨before, after, taking⟩ := (traced reached).accepted taken accepted
  obtain ⟨subjectKey, payloads, admitted⟩ := taking.origin.admitted
  obtain ⟨past, pastReached, same, _⟩ := taking.origin.earlier
  unfold chargeOf at isCharge
  cases cited : taken.plan.envelope.getStr "mandate-ref" with
  | none =>
      rw [cited] at isCharge
      cases isCharge
  | some leafRef =>
      rw [cited] at isCharge
      dsimp only at isCharge
      split at isCharge
      · cases isCharge
      · cases isCharge
        obtain ⟨_, depth, request, result, cites, walked⟩ := admitted.rule.walks (acts_of_cites admitted.valid cited)
        cases cited.symm.trans cites
        obtain ⟨rest, ascends, stored⟩ := Store.walked_path walked
        have line := Store.mandateLine_eq_take (same ▸ consistent pastReached) ascends
        dsimp only
        rw [line]
        refine ⟨ascends.nodup.sublist (List.take_sublist 65 _), rfl, ?_⟩
        exact fun id member => stored id (List.mem_of_mem_take member)

/-- An envelope that takes a mandate past a cap, charged on the spend its validation read, is flagged. -/
theorem crossing_flagged (reached : (kernel ext config).Reachable world) (charged : ChargedAsRead world)
    {before after : List Accepted} {taken : Accepted} (split : world.accepted = before ++ taken :: after)
    {id dimension : String} {mandate cap limit : Value} (stored : world.store.mandate id = some mandate)
    (capped : mandate.get "budget" = some cap) (listed : (dimension, limit) ∈ cap.asObject.getD [])
    {held now : Option String}
    (was : tally Decimal.add (amountsTo (id, dimension) (before.flatMap fun taken => taken.plan.postings)) = .ok held)
    (is : foldChecked (addTo Decimal.add) held (amountsTo (id, dimension) taken.plan.postings) = .ok now)
    (within_ : ¬ Budget.Over held limit) (past : Budget.Over now limit) :
    taken.plan.policyViolation.isSome = true := by
  have accepted : taken ∈ world.accepted := by
    rw [split]
    exact List.mem_append_right _ List.mem_cons_self
  obtain ⟨beforeWorld, afterStore, taking⟩ := (traced reached).accepted taken accepted
  obtain ⟨subjectKey, payloads, admitted⟩ := taking.origin.admitted
  have grows : taken.snapshot.Grows world.store :=
    (taking.origin.seen.trans taking.appends.grows).trans taking.kept
  unfold AppendPlan.postings at is
  rw [admitted.charged.spend] at is
  cases isCharge : chargeOf taken.snapshot taken.plan.envelope with
  | none =>
      rw [isCharge] at is
      cases is
      exact absurd past within_
  | some charge =>
      obtain ⟨distinct, amounts, known⟩ := charge_line reached accepted isCharge
      have dimensions : DistinctKeys Prod.fst charge.amounts := amounts ▸ Budget.accrualOf_distinct _
      rw [isCharge, Option.map_some, Option.getD_some, amountsTo_postings distinct dimensions] at is
      by_cases member : id ∈ charge.mandates
      · cases adds : charge.amounts.lookup dimension with
        | none =>
            rw [if_pos member, adds] at is
            cases is
            exact absurd past within_
        | some added =>
            rw [if_pos member, adds, Option.toList_some, foldChecked_cons, bind_eq_ok] at is
            obtain ⟨result, sum, done⟩ := is
            cases done
            have read := charged before taken after split charge isCharge id member dimension
            cases was.symm.trans read
            have above := past
            obtain ⟨total, _, isTotal, _⟩ := above
            rw [isTotal] at sum past
            obtain ⟨own, found⟩ := known id member
            have same : own = mandate := Option.some.inj ((Store.mandate_grows grows found).symm.trans stored)
            refine admitted.charged.flagged charge isCharge (List.any_eq_true.mpr ⟨id, member, ?_⟩)
            unfold passesBudget
            rw [found, same, Option.bind_some, capped]
            dsimp only
            rw [Bool.not_eq_true', List.isEmpty_eq_false_iff]
            have exceeded := Budget.exceeds_of_over adds sum past
            have inside : dimension ∈ Budget.wouldExceed cap (taken.snapshot.spendOf id) charge.amounts := by
              unfold Budget.wouldExceed
              exact List.mem_map.mpr ⟨(dimension, limit), List.mem_filter.mpr ⟨listed, exceeded⟩, rfl⟩
            exact List.ne_nil_of_mem inside
      · rw [if_neg member] at is
        cases is
        exact absurd past within_

/-- Where every envelope was charged on the spend its validation read, a crossed cap is visible. -/
theorem visible_of_charged (reached : (kernel ext config).Reachable world) (charged : ChargedAsRead world) :
    world.store.CapsVisible := by
  have first : ∀ id mandate cap, world.store.mandate id = some mandate → mandate.get "budget" = some cap →
      ∀ entry ∈ cap.asObject.getD [], ∀ before row after, world.store.envelopes = before ++ row :: after →
        world.store.CrossesAt (id, entry.1) entry.2 before row → row.policyViolation.isSome = true := by
    intro id mandate cap stored capped entry listed before row after split crosses
    have rows := (traced reached).rows
    rw [split] at rows
    obtain ⟨front, taken, back, accepted, related, built⟩ := forall₂_split rows
    have inside : ∀ other ∈ front ++ taken :: back, other ∈ world.accepted := fun other member => accepted ▸ member
    have charges : world.store.rowCharges row = taken.plan.postings :=
      rowCharges_of_row reached (inside taken (List.mem_append_right _ List.mem_cons_self)) built
    have earlier : before.flatMap world.store.rowCharges = front.flatMap fun taken => taken.plan.postings :=
      rowCharges_of_rows reached (fun other member => inside other (List.mem_append_left _ member)) related
    obtain ⟨held, was, within_⟩ := crosses.within_
    obtain ⟨now, is, past⟩ := crosses.past
    rw [Store.accruedBy_concat, was, ok_bind, charges] at is
    unfold Store.accruedBy at was
    rw [earlier] at was
    rw [(Store.envelopeRow_columns built).policyViolation]
    exact crossing_flagged reached charged accepted stored capped listed was is within_ past
  refine ⟨?_, first⟩
  intro id mandate cap stored capped entry listed past
  obtain ⟨before, row, after, split, crosses⟩ :=
    Store.exists_crossing (accruedBy_all reached (id, entry.1)) past
  refine ⟨row, ?_, crosses.charged, first id mandate cap stored capped entry listed before row after split crosses⟩
  rw [split]
  exact List.mem_append_right _ List.mem_cons_self

/-- In a run whose appends find the spend their validations read, of every mandate they charge, a mandate past a cap is
charged by a flagged envelope, and the envelope that took it past the cap is flagged. -/
theorem crossed_caps_visible {actions : List Action}
    (each : (kernel ext config).EachStep World.initial actions ChargesAsRead) :
    (kernel ext config).EachState World.initial actions fun world => world.store.CapsVisible := by
  have known : (kernel ext config).EachState World.initial actions fun world =>
      (kernel ext config).Reachable world ∧ ChargedAsRead world := by
    refine each.states ⟨.of_start rfl, ?_⟩ ?_
    · intro before taken after split
      cases before <;> cases split
    · intro world action asRead both
      exact ⟨both.1.step action, both.2.step both.1 asRead⟩
  intro before after split
  obtain ⟨reached, charged⟩ := known before after split
  exact visible_of_charged reached charged

end World

end Stozher

namespace Stozher.Deployment

open Library Library.Text Recorded Ingest

/-- A mandate that may spend a hundred dollars. -/
def cappedForm (sig : Members) : Value :=
  .object (("budget", spent "100") ::
    ((mandate "interactive" "human:ana" anaKey "human" "agent:ops" opsKey none 1 'b' sig).asObject.getD []))

def cappedMandate : Recorded where
  form := cappedForm
  sealed := some (anaKey, signatureText
    0x5cf2769473b3d0824fa27afc82a32dc5a90331717841fd7d19a7ed82ef656d25
    0x4df9f02c4deab34a44b2658e6c9f1d32ddb67ad637e957e64a744e4ca88bb30b)
  digest := hex 64 0x9a92098998ef2c9cd38dad51c8beccd0297efa3e704d488f23cde6e630588031

def cappedGrant : Recorded where
  form := grant opsIdentity 2 (some policyChange.digest) cappedMandate.document
  sealed := some (opsKey, signatureText
    0xf713b3bf8ecde5d4ba462116e888a3550f6d69bf1d8bf8c79b80fa9660700cea
    0x880b4bb7628c6ef558794ed9e7778e383842d0532063e2743597c0bbda35c50b)
  digest := hex 64 0x4b8c44eb0afefbd4d90b6c890eb0f3ce8d2e71f834ee383b57ddcb5d9fe31645

def firstCharge : Recorded where
  form := cognition opsIdentity (spent "60") "ops:notes" 0 none cappedMandate.digest
  sealed := some (opsKey, signatureText
    0x3bba43c4db8403b587e05c6080154f06f3f43c97e8e26b475a7cec445109da22
    0xdb26556d05089447ab92fdb18ecf612eb623bccc90b2ac3ea4dbdc91b87e5401)
  digest := hex 64 0x477b81499f8c817060e0546da0cfb3a2cf9269de84acb6bc60ca9a06038a3195

def secondCharge : Recorded where
  form := cognition opsIdentity (spent "60") "ops:work" 0 none cappedMandate.digest
  sealed := some (opsKey, signatureText
    0x8eef1150125dbfc5b6457c74991f1207a9c8daa843d956e89342ee25ab822802
    0x8cbe912124dbf2ed66cd0276641b7195de7540dbe191550aa12cd4203a2d980d)
  digest := hex 64 0x701b04e410e998ec0458cb6ed11907ce30231791f4a3f68b460c4c218b5a3c05

def cappedExt : External :=
  external (records ++ [cappedMandate, cappedGrant, firstCharge, secondCharge])

def capping : List Action :=
  founding ++ enter (submission cappedGrant.document []) nine

/-- Two charges of sixty dollars, one after the other. -/
def inTurn : List Action :=
  capping ++ enter (submission firstCharge.document []) nine ++ enter (submission secondCharge.document []) nine

/-- Two charges of sixty dollars, both of them validated before either is appended. -/
def atOnce : List Action :=
  capping ++ [.submit (submitted (submission firstCharge.document []) nine),
    .submit (submitted (submission secondCharge.document []) nine), .perform 0, .perform 0, .perform 0, .perform 0]

@[irreducible] def chargedAtOnce : World :=
  (kernel cappedExt config).run .initial atOnce

theorem chargedAtOnce_reachable : (kernel cappedExt config).Reachable chargedAtOnce := by
  unfold chargedAtOnce
  exact ⟨.initial, atOnce, rfl, rfl⟩

def readsCurrent (world : World) (action : Action) : Bool :=
  match action with
  | .perform index =>
      match world.tasks[index]? with
      | some (.append _ snapshot validated) =>
          match chargeOf snapshot validated.plan.envelope with
          | some charge => charge.mandates.all fun mandate =>
              decide (snapshot.spendOf mandate = world.store.spendOf mandate)
          | none => true
      | _ => true
  | _ => true

theorem chargesAsRead_of_readsCurrent {world : World} {action : Action} (current : readsCurrent world action = true) :
    World.ChargesAsRead world action := by
  intro index request snapshot validated performs waiting charge isCharge mandate member
  subst performs
  unfold readsCurrent at current
  dsimp only at current
  rw [waiting] at current
  dsimp only at current
  rw [isCharge] at current
  exact of_decide_eq_true (List.all_eq_true.mp current mandate member)

structure CappedSeen : Prop where
  inTurn : (kernel cappedExt config).allSteps readsCurrent .initial inTurn = true
  atOnce : (heldIn chargedAtOnce.store.spend (cappedMandate.digest, "money-usd"),
    (chargedAtOnce.store.mandate cappedMandate.digest).bind (·.get "budget"),
    chargedAtOnce.store.envelopes.map EnvelopeRow.policyViolation) =
      (some "120", some (spent "100"), [none, none, none, none, none])
  past : Decimal.atMost "120" "100" = .ok false

theorem capped_seen : CappedSeen := by
  constructor <;> decide +kernel

theorem in_turn_visible :
    (kernel cappedExt config).EachState World.initial inTurn fun world => world.store.CapsVisible := by
  apply World.crossed_caps_visible
  intro before action after split
  exact chargesAsRead_of_readsCurrent (System.eachStep_of_allSteps capped_seen.inTurn before action after split)

/-- A mandate is past its cap and nothing charged to it is flagged. -/
theorem charges_at_once_unflagged : ¬∀ (ext : External) config world, (kernel ext config).Reachable world →
    world.store.CapsVisible := by
  intro visible
  have seen := capped_seen.atOnce
  rw [Prod.mk.injEq, Prod.mk.injEq] at seen
  obtain ⟨held, capped, violations⟩ := seen
  obtain ⟨mandate, stored, capped⟩ := Option.bind_eq_some_iff.mp capped
  have over_ : Budget.Over (heldIn chargedAtOnce.store.spend (cappedMandate.digest, "money-usd")) (.string "100") :=
    ⟨"120", "100", held, rfl, capped_seen.past⟩
  obtain ⟨row, member, _, flagged⟩ := (visible _ _ _ chargedAtOnce_reachable).past cappedMandate.digest mandate _
    stored capped ("money-usd", .string "100") List.mem_cons_self over_
  have unflagged := List.mem_map_of_mem (f := EnvelopeRow.policyViolation) member
  rw [violations] at unflagged
  have none : row.policyViolation = none := by simpa using unflagged
  rw [none] at flagged
  cases flagged

end Stozher.Deployment
