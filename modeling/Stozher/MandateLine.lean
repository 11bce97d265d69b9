import Stozher.SpendFold

namespace Stozher

open Library Ingest

variable {ext : External} {config : Config}

namespace Store

variable {store : Store}

/-- A line goes on along the path for as many steps as it is given. -/
theorem lineFrom_eq_take (consistent : store.Consistent) {steps : Nat} {before rest : List String} {current : String}
    (ascends : Ascends store.parentOf (current :: rest)) (distinct : (before ++ current :: rest).Nodup) :
    store.lineFrom steps (before ++ [current]) current = before ++ (current :: rest).take (steps + 1) := by
  induction steps generalizing before current rest with
  | zero => rfl
  | succ steps ih =>
      unfold lineFrom
      rw [mandateRow_parent consistent]
      cases rest with
      | nil =>
          have ends : store.parentOf current = none := ascends
          rw [ends]
          rfl
      | cons next others =>
          have moved : before ++ current :: next :: others = (before ++ [current]) ++ next :: others := by
            rw [List.append_assoc, List.singleton_append]
          rw [moved] at distinct
          have fresh : next ∉ before ++ [current] := by
            intro again
            exact (List.nodup_append.mp distinct).2.2 next again next List.mem_cons_self rfl
          rw [ascends.1]
          dsimp only
          rw [if_neg fresh, ih ascends.2 distinct, List.append_assoc, List.singleton_append]
          rfl

/-- The line an envelope is charged along: its mandate and the sixty-four above it. -/
theorem mandateLine_eq_take (consistent : store.Consistent) {leafRef : String} {rest : List String}
    (ascends : Ascends store.parentOf (leafRef :: rest)) :
    store.mandateLine leafRef = (leafRef :: rest).take 65 :=
  @lineFrom_eq_take store consistent 64 [] rest leafRef ascends ascends.nodup

end Store

/-- What a charge posts to one of its mandates. -/
theorem postings_to {mandates : List String} {amounts : Budget.Amounts} (distinct : mandates.Nodup)
    (mandate : String) :
    (SpendAccrual.postings { mandates, amounts }).filter (fun posting => posting.mandateId == mandate) =
      if mandate ∈ mandates then
        amounts.map fun entry => { mandateId := mandate, dimension := entry.1, amount := entry.2 }
      else [] := by
  unfold SpendAccrual.postings
  dsimp only
  induction mandates with
  | nil => rfl
  | cons first rest ih =>
      obtain ⟨apart, distinct⟩ := List.nodup_cons.mp distinct
      rw [List.flatMap_cons, List.filter_append, ih distinct]
      by_cases same : first = mandate
      · subst same
        have own : ∀ posting ∈ amounts.map fun entry : String × String =>
            ({ mandateId := first, dimension := entry.1, amount := entry.2 } : SpendRow),
              (posting.mandateId == first) = true := by
          intro posting posted
          obtain ⟨entry, _, rfl⟩ := List.mem_map.mp posted
          exact beq_self_eq_true first
        rw [List.filter_eq_self.mpr own, if_neg apart, if_pos List.mem_cons_self, List.append_nil]
      · have other : ∀ posting ∈ amounts.map fun entry : String × String =>
            ({ mandateId := first, dimension := entry.1, amount := entry.2 } : SpendRow),
              ¬ (posting.mandateId == mandate) = true := by
          intro posting posted
          obtain ⟨entry, _, rfl⟩ := List.mem_map.mp posted
          exact fun equal => same (beq_iff_eq.mp equal)
        rw [List.filter_eq_nil_iff.mpr other, List.nil_append]
        simp only [List.mem_cons, Ne.symm same, false_or]

/-- What a charge of these amounts posts to a mandate. -/
def chargeRows (amounts : Budget.Amounts) (mandate : String) : List SpendRow :=
  amounts.map fun entry => { mandateId := mandate, dimension := entry.1, amount := entry.2 }

/-- What a plan posts to a mandate. -/
def AppendPlan.postedTo (plan : AppendPlan) (mandate : String) : List SpendRow :=
  plan.postings.filter fun posting => posting.mandateId == mandate

namespace World

variable {world : World}

/-- An accepted envelope is charged along the line of the mandate it cites. -/
theorem charged_line (reached : (kernel ext config).Reachable world) {taken : Accepted}
    (accepted : taken ∈ world.accepted) {leafRef : String} (cites : taken.plan.envelope.getStr "mandate-ref" = some leafRef)
    {rest : List String} (ascends : Ascends taken.snapshot.parentOf (leafRef :: rest)) (mandate : String) :
    taken.plan.postedTo mandate = if mandate ∈ (leafRef :: rest).take 65 then
      chargeRows (Budget.accrualOf taken.plan.envelope) mandate else [] := by
  obtain ⟨before, after, taking⟩ := (traced reached).accepted taken accepted
  obtain ⟨subjectKey, payloads, admitted⟩ := taking.origin.admitted
  obtain ⟨past, pastReached, same, _⟩ := taking.origin.earlier
  have line := Store.mandateLine_eq_take (same ▸ consistent pastReached) ascends
  unfold AppendPlan.postedTo AppendPlan.postings
  rw [admitted.charged.spend]
  unfold chargeOf
  rw [cites]
  dsimp only
  by_cases free : (Budget.accrualOf taken.plan.envelope).isEmpty = true
  · rw [if_pos free, List.isEmpty_iff.mp free]
    unfold chargeRows
    simp
  · rw [if_neg free, line]
    exact postings_to (ascends.nodup.sublist (List.take_sublist 65 _)) mandate

/-- The mandates the kernel walked over for an accepted envelope, from the one it cites to the root's. -/
def Walked (ext : External) (taken : Accepted) (leafRef : String) (path : List (String × Value)) : Prop :=
  ∃ subjectKey depth request result,
    Mandate.walk ext
      (walkParams taken.snapshot leafRef (rootKeysAt taken.snapshot (emittedAt taken.plan.envelope)) subjectKey
        (emittedAt taken.plan.envelope) depth).1 leafRef request
      (walkParams taken.snapshot leafRef (rootKeysAt taken.snapshot (emittedAt taken.plan.envelope)) subjectKey
        (emittedAt taken.plan.envelope) depth).2 = .ok result ∧
    Mandate.SoundChain ext
      (walkParams taken.snapshot leafRef (rootKeysAt taken.snapshot (emittedAt taken.plan.envelope)) subjectKey
        (emittedAt taken.plan.envelope) depth).1
      (walkParams taken.snapshot leafRef (rootKeysAt taken.snapshot (emittedAt taken.plan.envelope)) subjectKey
        (emittedAt taken.plan.envelope) depth).2 request leafRef result.humanRoot path

theorem Walked.ascends {taken : Accepted} {leafRef : String} {path : List (String × Value)}
    (walked : Walked ext taken leafRef path) :
    ∃ rest, path.map Prod.fst = leafRef :: rest ∧ Ascends taken.snapshot.parentOf (leafRef :: rest) := by
  obtain ⟨subjectKey, depth, request, result, _, sound⟩ := walked
  obtain ⟨leaf, first, _⟩ := sound.leaf
  have climbs : Ascends taken.snapshot.parentOf (path.map Prod.fst) := by
    refine sound.ascends.congr ?_
    intro id inside
    obtain ⟨link, listed, rfl⟩ := List.mem_map.mp inside
    have stored := (sound.links link listed).stored
    unfold Store.parentOf Mandate.parentOf
    rw [stored, Store.mandateAncestry_get stored]
  cases path with
  | nil => cases first
  | cons head tail =>
      cases first
      exact ⟨tail.map Prod.fst, rfl, climbs⟩

/-- The walk behind an accepted envelope that cites a mandate. -/
theorem walked_of_accepted (reached : (kernel ext config).Reachable world) {taken : Accepted}
    (accepted : taken ∈ world.accepted) {leafRef : String}
    (cites : taken.plan.envelope.getStr "mandate-ref" = some leafRef) : ∃ path, Walked ext taken leafRef path := by
  obtain ⟨before, after, taking⟩ := (traced reached).accepted taken accepted
  obtain ⟨subjectKey, payloads, admitted⟩ := taking.origin.admitted
  obtain ⟨cited, depth, request, result, isCited, walked⟩ :=
    admitted.rule.walks (acts_of_cites admitted.valid cites)
  rw [cites, Option.some.injEq] at isCited
  subst isCited
  obtain ⟨path, sound, _⟩ := Mandate.walk_sound walked
  exact ⟨path, subjectKey, depth, request, result, walked, sound⟩

/-- Each mandate of a walk is charged exactly when there is nothing to charge or the walk is over sixty-five at most. -/
theorem Walked.charged_iff (reached : (kernel ext config).Reachable world) {taken : Accepted}
    (accepted : taken ∈ world.accepted) {leafRef : String}
    (cites : taken.plan.envelope.getStr "mandate-ref" = some leafRef) {path : List (String × Value)}
    (walked : Walked ext taken leafRef path) :
    (∀ link ∈ path, taken.plan.postedTo link.1 = chargeRows (Budget.accrualOf taken.plan.envelope) link.1) ↔
      Budget.accrualOf taken.plan.envelope = [] ∨ path.length ≤ 65 := by
  obtain ⟨rest, ids, ascends⟩ := walked.ascends
  have charged := charged_line reached accepted cites ascends
  have lengths : path.length = (leafRef :: rest).length := by rw [← ids, List.length_map]
  constructor
  · intro each
    by_contra neither
    rw [not_or, not_le, lengths] at neither
    obtain ⟨spends, long⟩ := neither
    have beyond : (leafRef :: rest)[65] ∉ (leafRef :: rest).take 65 := by
      intro again
      obtain ⟨i, low, same⟩ := List.mem_take_iff_getElem.mp again
      have equal := (List.Nodup.getElem_inj_iff ascends.nodup).mp same
      omega
    have inside : (leafRef :: rest)[65] ∈ path.map Prod.fst := by
      rw [ids]
      exact List.getElem_mem long
    obtain ⟨link, listed, isLink⟩ := List.mem_map.mp inside
    have posted := each link listed
    rw [charged, isLink, if_neg beyond] at posted
    exact spends (List.map_eq_nil_iff.mp posted.symm)
  · intro either link listed
    rw [charged]
    rcases either with nothing | short
    · rw [nothing]
      exact ite_self _
    · have inside : link.1 ∈ leafRef :: rest := by
        rw [← ids]
        exact List.mem_map_of_mem listed
      rw [List.take_of_length_le (by omega), if_pos inside]

/-- The amounts of an accepted envelope are charged, once each, to every mandate the kernel walked over for it exactly
when it has none or the walk was over sixty-five mandates at most; and the spend table is what is charged. -/
theorem ancestors_charged (reached : (kernel ext config).Reachable world) :
    foldChecked post [] world.postings = .ok world.store.spend ∧
    ∀ taken ∈ world.accepted, ∀ leafRef, taken.plan.envelope.getStr "mandate-ref" = some leafRef →
      ∃ path, Walked ext taken leafRef path ∧
        ((∀ link ∈ path, taken.plan.postedTo link.1 = chargeRows (Budget.accrualOf taken.plan.envelope) link.1) ↔
          Budget.accrualOf taken.plan.envelope = [] ∨ path.length ≤ 65) := by
  refine ⟨booked reached, ?_⟩
  intro taken accepted leafRef cites
  obtain ⟨path, walked⟩ := walked_of_accepted reached accepted cites
  exact ⟨path, walked, walked.charged_iff reached accepted cites⟩

end World

end Stozher
