import Stozher.Append
import Stozher.DecimalValue
import Stozher.Library.Paging

namespace Stozher

open Library

namespace Store

/-- Adds what one stored envelope spent to the totals, and counts it. -/
def foldSpend (store : Store) (folded : Nat × List SpendRow) (row : EnvelopeRow) :
    Result (Nat × List SpendRow) := do
  let amounts := Budget.accrualOf row.canonicalJson.tree
  if amounts.isEmpty then return folded
  else
    let totals ← foldChecked (fun totals mandate => foldChecked (accrue mandate) totals amounts)
      folded.2 (store.mandateLine (row.mandateRef.getD ""))
    return (folded.1 + 1, totals)

def spendBefore (a b : SpendRow) : Prop :=
  a.mandateId < b.mandateId ∨ (a.mandateId = b.mandateId ∧ a.dimension ≤ b.dimension)

instance : DecidableRel spendBefore :=
  fun _ _ => inferInstanceAs (Decidable (_ ∨ _))

def storedBefore (a b : EnvelopeRow) : Prop :=
  a.stream < b.stream ∨ (a.stream = b.stream ∧ a.seq ≤ b.seq)

instance : DecidableRel storedBefore :=
  fun _ _ => inferInstanceAs (Decidable (_ ∨ _))

/-- The envelopes that cite a mandate, stream by stream. -/
def citing (store : Store) : List EnvelopeRow :=
  (store.envelopes.filter fun row => row.mandateRef.isSome).insertionSort storedBefore

/-- Drops the spend table and folds it again from the stored envelopes. -/
def rebuildSpend (store : Store) : Result (Store × Nat) := do
  let (folded, totals) ← foldChecked store.foldSpend (0, []) store.citing
  return ({ store with spend := totals.insertionSort spendBefore }, folded)

end Store

namespace SpendRow

def key (row : SpendRow) : String × String :=
  (row.mandateId, row.dimension)

end SpendRow

/-- The amount a spend table holds of a mandate in a dimension. -/
def heldIn (spend : List SpendRow) (key : String × String) : Option String :=
  (spend.find? fun row => row.key == key).map SpendRow.amount

/-- The amounts posted to a mandate in a dimension. -/
def amountsTo (key : String × String) (postings : List SpendRow) : List String :=
  (postings.filter fun row => row.key == key).map SpendRow.amount

/-- One amount charged to one mandate. -/
def post (spend : List SpendRow) (posting : SpendRow) : Result (List SpendRow) :=
  Store.accrue posting.mandateId spend (posting.dimension, posting.amount)

/-- What an accrual charges, amount by amount. -/
def SpendAccrual.postings (accrual : SpendAccrual) : List SpendRow :=
  accrual.mandates.flatMap fun mandate => accrual.amounts.map fun entry =>
    { mandateId := mandate, dimension := entry.1, amount := entry.2 }

section

variable {spend next : List SpendRow} {posting : SpendRow}

theorem isSpendOf_eq (posting : SpendRow) :
    Store.isSpendOf posting.mandateId posting.dimension = fun row => row.key == posting.key := by
  funext row
  unfold Store.isSpendOf SpendRow.key
  rw [Bool.eq_iff_iff]
  simp

/-- A posting adds its amount to the one row of its key, or starts the row. -/
structure Posted (spend : List SpendRow) (posting : SpendRow) (total : String) (next : List SpendRow) :
    Prop where
  added : addTo Decimal.add (heldIn spend posting.key) posting.amount = .ok (some total)
  here : heldIn next posting.key = some total
  elsewhere : ∀ key, key ≠ posting.key → heldIn next key = heldIn spend key
  distinct : DistinctKeys SpendRow.key spend → DistinctKeys SpendRow.key next

/-- Replaces the amount of a key. -/
def setAmount (key : String × String) (total : String) (row : SpendRow) : SpendRow :=
  if row.key == key then { row with amount := total } else row

theorem setAmount_key (key : String × String) (total : String) (row : SpendRow) :
    (setAmount key total row).key = row.key := by
  unfold setAmount
  split <;> rfl

theorem heldIn_map_setAmount (key other : String × String) (total : String) :
    heldIn (spend.map (setAmount key total)) other =
      if other = key then (heldIn spend key).map fun _ => total else heldIn spend other := by
  unfold heldIn
  have keeps : (fun row : SpendRow => row.key == other) ∘ setAmount key total = fun row => row.key == other := by
    funext row
    rw [Function.comp_apply, setAmount_key]
  rw [List.find?_map, keeps, Option.map_map]
  by_cases same : other = key
  · subst same
    rw [if_pos rfl, Option.map_map]
    cases found : spend.find? fun row => row.key == other with
    | none => rfl
    | some row =>
        have named := List.find?_some found
        simp [setAmount, named]
  · rw [if_neg same]
    cases found : spend.find? fun row => row.key == other with
    | none => rfl
    | some row =>
        have named : row.key = other := by simpa using List.find?_some found
        have differs : row.key ≠ key := named ▸ same
        simp [setAmount, differs]

theorem heldIn_concat (spend : List SpendRow) (posting : SpendRow) (key : String × String) :
    heldIn (spend ++ [posting]) key =
      (heldIn spend key).or (if posting.key = key then some posting.amount else none) := by
  unfold heldIn
  rw [List.find?_append, List.find?_singleton]
  cases spend.find? fun row => row.key == key with
  | some row => rfl
  | none =>
      simp only [Option.none_or, Option.map_none, beq_iff_eq]
      split <;> rfl

theorem distinct_map_setAmount {key : String × String} {total : String}
    (distinct : DistinctKeys SpendRow.key spend) :
    DistinctKeys SpendRow.key (spend.map (setAmount key total)) := by
  refine List.pairwise_map.mpr (distinct.imp ?_)
  intro first second differ
  rw [setAmount_key, setAmount_key]
  exact differ

theorem post_held {held : SpendRow} (found : (spend.find? fun row => row.key == posting.key) = some held) :
    post spend posting =
      (fun total => spend.map (setAmount posting.key total)) <$> Decimal.add held.amount posting.amount := by
  unfold post Store.accrue
  dsimp only
  rw [isSpendOf_eq, found]
  rfl

theorem post_free (free : (spend.find? fun row => row.key == posting.key) = none) :
    post spend posting = .ok (spend ++ [posting]) := by
  unfold post Store.accrue
  dsimp only
  rw [isSpendOf_eq, free]
  rfl

theorem post_eq_ok (done : post spend posting = .ok next) : ∃ total, Posted spend posting total next := by
  cases found : spend.find? fun row => row.key == posting.key with
  | some held =>
      rw [post_held found, map_eq_ok] at done
      obtain ⟨total, added, rfl⟩ := done
      have holds : heldIn spend posting.key = some held.amount := by
        unfold heldIn
        rw [found, Option.map_some]
      refine ⟨total, ⟨?_, ?_, ?_, distinct_map_setAmount⟩⟩
      · rw [holds, addTo, added]
        rfl
      · rw [heldIn_map_setAmount, if_pos rfl, holds, Option.map_some]
      · intro key other
        rw [heldIn_map_setAmount, if_neg other]
  | none =>
      rw [post_free found] at done
      cases done
      have free : heldIn spend posting.key = none := by
        unfold heldIn
        rw [found, Option.map_none]
      refine ⟨posting.amount, ⟨?_, ?_, ?_, ?_⟩⟩
      · rw [free, addTo]
      · rw [heldIn_concat, free, Option.none_or, if_pos rfl]
      · intro key other
        rw [heldIn_concat, if_neg (Ne.symm other), Option.or_none]
      · intro distinct
        refine List.pairwise_append.mpr ⟨distinct, List.pairwise_singleton _ _, ?_⟩
        intro row member last isLast
        rw [List.mem_singleton.mp isLast]
        intro same
        exact List.find?_eq_none.mp found row member (beq_iff_eq.mpr same)

theorem post_of_added {total : Option String}
    (added : addTo Decimal.add (heldIn spend posting.key) posting.amount = .ok total) :
    ∃ next, post spend posting = .ok next := by
  cases found : spend.find? fun row => row.key == posting.key with
  | some held =>
      unfold heldIn at added
      rw [found, Option.map_some, addTo, bind_eq_ok] at added
      obtain ⟨sum, added, _⟩ := added
      rw [post_held found, added]
      exact ⟨_, rfl⟩
  | none => exact ⟨_, post_free found⟩

theorem amountsTo_cons_self (posting : SpendRow) (rest : List SpendRow) :
    amountsTo posting.key (posting :: rest) = posting.amount :: amountsTo posting.key rest := by
  unfold amountsTo
  rw [List.filter_cons_of_pos (by simp), List.map_cons]

theorem amountsTo_cons_of_ne {key : String × String} (differ : key ≠ posting.key) (rest : List SpendRow) :
    amountsTo key (posting :: rest) = amountsTo key rest := by
  unfold amountsTo
  rw [List.filter_cons_of_neg (by simpa using Ne.symm differ)]

/-- What postings make of a spend table: key by key, the amounts posted to it added to what it held. -/
theorem posted_amounts {postings : List SpendRow} (run : foldChecked post spend postings = .ok next) :
    (DistinctKeys SpendRow.key spend → DistinctKeys SpendRow.key next) ∧
      ∀ key, foldChecked (addTo Decimal.add) (heldIn spend key) (amountsTo key postings) = .ok (heldIn next key) := by
  induction postings generalizing spend with
  | nil =>
      cases run
      exact ⟨fun distinct => distinct, fun key => rfl⟩
  | cons posting rest ih =>
      rw [foldChecked_cons, bind_eq_ok] at run
      obtain ⟨middle, step, run⟩ := run
      obtain ⟨total, posted⟩ := post_eq_ok step
      obtain ⟨distinct, amounts⟩ := ih run
      refine ⟨fun held => distinct (posted.distinct held), ?_⟩
      intro key
      by_cases same : key = posting.key
      · subst same
        rw [amountsTo_cons_self, foldChecked_cons, posted.added, ok_bind, ← posted.here]
        exact amounts posting.key
      · rw [amountsTo_cons_of_ne same, ← posted.elsewhere key same]
        exact amounts key

/-- Postings go through where the amounts of each key can be added. -/
theorem posts_of_amounts {postings : List SpendRow}
    (sums : ∀ key, ∃ total, foldChecked (addTo Decimal.add) (heldIn spend key) (amountsTo key postings) = .ok total) :
    ∃ next, foldChecked post spend postings = .ok next := by
  induction postings generalizing spend with
  | nil => exact ⟨spend, rfl⟩
  | cons posting rest ih =>
      obtain ⟨total, sum⟩ := sums posting.key
      rw [amountsTo_cons_self, foldChecked_cons, bind_eq_ok] at sum
      obtain ⟨held, added, later⟩ := sum
      obtain ⟨middle, step⟩ := post_of_added added
      obtain ⟨sumHere, posted⟩ := post_eq_ok step
      have others : ∀ key, ∃ total, foldChecked (addTo Decimal.add) (heldIn middle key) (amountsTo key rest) =
          .ok total := by
        intro key
        by_cases same : key = posting.key
        · subst same
          rw [posted.added] at added
          rw [posted.here, Except.ok.inj added]
          exact ⟨total, later⟩
        · rw [posted.elsewhere key same, ← amountsTo_cons_of_ne same]
          exact sums key
      obtain ⟨next, run⟩ := ih others
      refine ⟨next, ?_⟩
      rw [foldChecked_cons, step, ok_bind]
      exact run

theorem amountsTo_append (key : String × String) (first second : List SpendRow) :
    amountsTo key (first ++ second) = amountsTo key first ++ amountsTo key second := by
  unfold amountsTo
  rw [List.filter_append, List.map_append]

theorem amountsTo_perm {first second : List SpendRow} (same : first.Perm second) (key : String × String) :
    (amountsTo key first).Perm (amountsTo key second) :=
  (same.filter _).map _

/-- What a table holds of a key is what its one row of the key holds. -/
theorem heldIn_eq_some {key : String × String} {amount : String} (distinct : DistinctKeys SpendRow.key spend) :
    heldIn spend key = some amount ↔ ∃ row ∈ spend, row.key = key ∧ row.amount = amount := by
  unfold heldIn
  rw [Option.map_eq_some_iff]
  constructor
  · intro found
    obtain ⟨row, isRow, same⟩ := found
    have named := List.find?_some isRow
    exact ⟨row, List.mem_of_find?_eq_some isRow, by simpa using named, same⟩
  · intro held
    obtain ⟨row, member, named, same⟩ := held
    cases found : spend.find? fun row => row.key == key with
    | none => exact absurd (beq_iff_eq.mpr named) (List.find?_eq_none.mp found row member)
    | some other =>
        have otherNamed : other.key = key := by simpa using List.find?_some found
        have keys : (spend.map SpendRow.key).Nodup := List.pairwise_map.mpr distinct
        have one : other = row := List.inj_on_of_nodup_map keys (List.mem_of_find?_eq_some found) member
          (otherNamed.trans named.symm)
        exact ⟨other, rfl, one ▸ same⟩

theorem heldIn_perm {other : List SpendRow} (distinct : DistinctKeys SpendRow.key spend) (same : spend.Perm other)
    (key : String × String) : heldIn spend key = heldIn other key := by
  have otherDistinct : DistinctKeys SpendRow.key other := same.pairwise distinct Ne.symm
  refine Option.ext fun amount => ?_
  rw [heldIn_eq_some distinct, heldIn_eq_some otherDistinct]
  constructor
  · intro held
    obtain ⟨row, member, known⟩ := held
    exact ⟨row, same.mem_iff.mp member, known⟩
  · intro held
    obtain ⟨row, member, known⟩ := held
    exact ⟨row, same.mem_iff.mpr member, known⟩

end

/-- A charge is posted mandate by mandate, amount by amount. -/
theorem foldChecked_postings (accrual : SpendAccrual) (spend : List SpendRow) :
    foldChecked post spend accrual.postings =
      foldChecked (fun spend mandate => foldChecked (Store.accrue mandate) spend accrual.amounts) spend
        accrual.mandates := by
  unfold SpendAccrual.postings
  rw [foldChecked_flatMap]
  have each : (fun (spend : List SpendRow) (mandate : String) => foldChecked post spend
      (accrual.amounts.map fun entry => { mandateId := mandate, dimension := entry.1, amount := entry.2 })) =
      fun spend mandate => foldChecked (Store.accrue mandate) spend accrual.amounts := by
    funext spend mandate
    exact foldChecked_map
  rw [each]

/-- What a plan posts to the spend table. -/
def AppendPlan.postings (plan : AppendPlan) : List SpendRow :=
  (plan.spend.map SpendAccrual.postings).getD []

namespace Store

variable {store next : Store} {plan : AppendPlan}

theorem writeSpend_iff : writeSpend plan store = .ok next ↔
    ∃ spend, foldChecked post store.spend plan.postings = .ok spend ∧ next = { store with spend } := by
  unfold writeSpend AppendPlan.postings
  cases plan.spend with
  | none =>
      constructor
      · intro written
        cases written
        exact ⟨store.spend, rfl, rfl⟩
      · intro posted
        obtain ⟨spend, run, rfl⟩ := posted
        cases run
        rfl
  | some accrual =>
      dsimp only
      rw [Option.map_some, Option.getD_some, foldChecked_postings, bind_eq_ok]
      constructor
      · intro written
        obtain ⟨spend, run, done⟩ := written
        cases done
        exact ⟨spend, run, rfl⟩
      · intro posted
        obtain ⟨spend, run, rfl⟩ := posted
        exact ⟨spend, run, rfl⟩

/-- What the rebuild posts for a stored envelope. -/
def rowPostings (store : Store) (row : EnvelopeRow) : List SpendRow :=
  SpendAccrual.postings {
    mandates := store.mandateLine (row.mandateRef.getD "")
    amounts := Budget.accrualOf row.canonicalJson.tree }

theorem foldSpend_of_postings {rows : List EnvelopeRow} {count : Nat} {totals spend : List SpendRow}
    (run : foldChecked post totals (rows.flatMap store.rowPostings) = .ok spend) :
    ∃ folded, foldChecked store.foldSpend (count, totals) rows = .ok (folded, spend) := by
  induction rows generalizing count totals with
  | nil =>
      cases run
      exact ⟨count, rfl⟩
  | cons row rest ih =>
      rw [List.flatMap_cons, foldChecked_append, bind_eq_ok] at run
      obtain ⟨middle, first, later⟩ := run
      rw [foldChecked_cons]
      unfold foldSpend
      dsimp only
      by_cases free : (Budget.accrualOf row.canonicalJson.tree).isEmpty = true
      · rw [if_pos free]
        unfold rowPostings SpendAccrual.postings at first
        rw [List.isEmpty_iff.mp free] at first
        have nothing : ∀ mandates : List String, (mandates.flatMap fun mandate =>
            ([] : Budget.Amounts).map fun entry =>
              ({ mandateId := mandate, dimension := entry.1, amount := entry.2 } : SpendRow)) = [] := by
          intro mandates
          simp
        rw [nothing] at first
        cases first
        exact ih later
      · unfold rowPostings at first
        rw [foldChecked_postings] at first
        rw [if_neg free, first]
        exact ih later

end Store

end Stozher
