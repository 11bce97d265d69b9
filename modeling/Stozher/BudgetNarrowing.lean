import Mathlib.Data.List.Chain
import Stozher.Admission
import Stozher.DecimalOrder
import Stozher.ScopeInclusion

namespace Stozher.Mandate

open Library

/-- The cap a mandate states in a dimension. -/
def capOf (mandate : Value) (dimension : String) : Option Value :=
  ((mandate.get "budget").bind Value.asObject).bind fun budget => Members.get budget dimension

/-- A cap is at most another: two integers, or two decimal texts. -/
inductive CapAtMost : Value → Value → Prop where
  | integers {own above : Number} {c p : Int} (isOwn : own.asI64 = some c) (isAbove : above.asI64 = some p)
      (le : c ≤ p) : CapAtMost (.number own) (.number above)
  | decimals {own above : String} {c p : ℚ} {s t : Nat} (isOwn : Decimal.Denotes own c s)
      (isAbove : Decimal.Denotes above p t) (le : c ≤ p) : CapAtMost (.string own) (.string above)

theorem CapAtMost.trans {low middle high : Value} (first : CapAtMost low middle) (second : CapAtMost middle high) :
    CapAtMost low high := by
  cases first with
  | integers isLow isMiddle below =>
      cases second with
      | integers isMiddle' isHigh above =>
          cases isMiddle.symm.trans isMiddle'
          exact .integers isLow isHigh (below.trans above)
  | decimals isLow isMiddle below =>
      cases second with
      | decimals isMiddle' isHigh above =>
          obtain ⟨same, _⟩ := isMiddle.unique isMiddle'
          exact .decimals isLow isHigh (below.trans (same ▸ above))

theorem capWithin_atMost {child : Members} {dimension : String} {own above : Value}
    (within_ : capWithin child (dimension, above) = .ok true) (states : Members.get child dimension = some own) :
    CapAtMost own above := by
  unfold capWithin at within_
  dsimp only at within_
  rw [states] at within_
  dsimp only at within_
  split at within_
  · split at within_
    · rename_i c p isOwn isAbove
      exact .integers isOwn isAbove (of_decide_eq_true (Except.ok.inj within_))
    · cases within_
  · obtain ⟨a, b, s, t, isOwn, isAbove, le⟩ := Decimal.atMost_eq_ok within_
    exact .decimals isOwn isAbove (of_decide_eq_true le.symm)
  · cases within_

/-- A budget within another keeps each cap they both state. -/
theorem budgetWithin_atMost {child parent : Value} {dimension : String} {own above : Value}
    (within_ : budgetWithin (child.get "budget") (parent.get "budget") = .ok true)
    (isOwn : capOf child dimension = some own) (isAbove : capOf parent dimension = some above) :
    CapAtMost own above := by
  obtain ⟨narrow, isNarrow, states⟩ := Option.bind_eq_some_iff.mp isOwn
  obtain ⟨wide, isWide, caps⟩ := Option.bind_eq_some_iff.mp isAbove
  unfold budgetWithin at within_
  rw [isNarrow, isWide] at within_
  exact capWithin_atMost (everyChecked_eq_true.mp within_ _ (Envelope.mem_of_get caps)) states

/-- Along links that all state a cap, the last states at least the first. -/
theorem caps_narrow {dimension : String} {descendant ancestor : String × Value} {between : List (String × Value)}
    (delegations : (descendant :: (between ++ [ancestor])).IsChain fun child parent =>
      Delegated child.2 parent.1 parent.2)
    (stated : ∀ link ∈ between, (capOf link.2 dimension).isSome = true) {own above : Value}
    (isOwn : capOf descendant.2 dimension = some own) (isAbove : capOf ancestor.2 dimension = some above) :
    CapAtMost own above := by
  induction between generalizing descendant own with
  | nil => exact budgetWithin_atMost (List.isChain_cons_cons.mp delegations).1.budget isOwn isAbove
  | cons next rest ih =>
      obtain ⟨delegation, later⟩ := List.isChain_cons_cons.mp delegations
      obtain ⟨cap, isCap⟩ := Option.isSome_iff_exists.mp (stated next List.mem_cons_self)
      have below := budgetWithin_atMost delegation.budget isOwn isCap
      exact below.trans (ih later (fun link inside => stated link (List.mem_cons_of_mem _ inside)) isCap)

/-- A dimension that two mandates of an accepted chain and all between them cap, the lower caps no higher. -/
theorem budgets_narrow {ext : External} {mandates : Members} {leafRef : String} {request : Scoped}
    {params : VerifyParams} {result : MandateChainOk}
    (accepted : walk ext mandates leafRef request params = .ok result) :
    ∃ path, SoundChain ext mandates params request leafRef result.humanRoot path ∧
      ∀ dimension descendant between ancestor own above, descendant :: (between ++ [ancestor]) <:+: path →
        (∀ link ∈ between, (capOf link.2 dimension).isSome = true) →
        capOf descendant.2 dimension = some own → capOf ancestor.2 dimension = some above → CapAtMost own above := by
  obtain ⟨path, sound, _⟩ := walk_sound accepted
  refine ⟨path, sound, ?_⟩
  intro dimension descendant between ancestor own above within_ stated isOwn isAbove
  have delegated := List.IsChain.infix sound.delegations within_
  exact caps_narrow delegated stated isOwn isAbove

/-- The path of a sound chain is what the mandates make of its leaf. -/
theorem SoundChain.path_eq {ext : External} {mandates : Members} {leafRef humanRoot : String} {request : Scoped}
    {params : VerifyParams} {path : List (String × Value)} {rest : List String}
    (sound : SoundChain ext mandates params request leafRef humanRoot path)
    (ascends : Ascends (parentOf mandates) (leafRef :: rest)) :
    path.map Prod.fst = leafRef :: rest ∧ ∀ link ∈ path, mandates.get link.1 = some link.2 := by
  refine ⟨?_, fun link inside => (sound.links link inside).stored⟩
  obtain ⟨leaf, first, _⟩ := sound.leaf
  cases path with
  | nil => cases first
  | cons head tail =>
      cases first
      have climbs : Ascends (parentOf mandates) (leafRef :: tail.map Prod.fst) := sound.ascends
      rw [List.map_cons, climbs.unique ascends]

end Stozher.Mandate

namespace Stozher.Deployment

open Library Mandate Recorded

structure BudgetsSeen : Prop where
  top : charterMandate.document.getStr "parent" = none
  charter : capOf charterMandate.document "requests" = some (.ofNat 5)
  spread : capOf spreadMandate.document "requests" = some (.ofNat 100)
  money : capOf charterMandate.document "money-eur" = some (.string "10.00") ∧
    (capOf handedMandate.document "money-eur").isSome = true ∧
    capOf spreadMandate.document "money-eur" = some (.string "3")

theorem budgets_seen : BudgetsSeen := by
  constructor <;> decide +kernel

theorem spread_ascends : Ascends (parentOf chainMandates)
    [spreadMandate.digest, handedMandate.digest, charterMandate.digest] := by
  refine ⟨?_, ?_, ?_⟩
  · unfold parentOf
    rw [chain_seen.found.2.2]
    exact chain_seen.parents.2
  · unfold parentOf
    rw [chain_seen.found.2.1]
    exact chain_seen.parents.1
  · show parentOf chainMandates charterMandate.digest = none
    unfold parentOf
    rw [chain_seen.found.1]
    exact budgets_seen.top

theorem spread_path {path : List (String × Value)} {humanRoot : String}
    (sound : SoundChain chainExt chainMandates chainAt mergeAsked spreadMandate.digest humanRoot path) :
    path = [(spreadMandate.digest, spreadMandate.document), (handedMandate.digest, handedMandate.document),
      (charterMandate.digest, charterMandate.document)] := by
  obtain ⟨ids, stored⟩ := sound.path_eq spread_ascends
  obtain ⟨first, path, rfl, isFirst, ids⟩ := List.map_eq_cons_iff.mp ids
  obtain ⟨second, path, rfl, isSecond, ids⟩ := List.map_eq_cons_iff.mp ids
  obtain ⟨third, path, rfl, isThird, ids⟩ := List.map_eq_cons_iff.mp ids
  cases List.map_eq_nil_iff.mp ids
  have holds : ∀ link ∈ [first, second, third], ∀ id document, link.1 = id → chainMandates.get id = some document →
      link = (id, document) := by
    intro link inside id document same found
    have own := stored link inside
    rw [same, found] at own
    exact Prod.ext same (Option.some.inj own).symm
  rw [holds first (by simp) _ _ isFirst chain_seen.found.2.2,
    holds second (by simp) _ _ isSecond chain_seen.found.2.1,
    holds third (by simp) _ _ isThird chain_seen.found.1]

/-- Money is capped by all three mandates, and by the last no higher than by the first. -/
theorem money_narrows : CapAtMost (.string "3") (.string "10.00") := by
  obtain ⟨result, accepted⟩ := isOk_iff.mp chain_seen.spread
  obtain ⟨path, sound, narrows⟩ := budgets_narrow accepted
  rw [spread_path sound] at narrows
  refine narrows "money-eur" _ [(handedMandate.digest, handedMandate.document)] _ _ _ (List.infix_refl _) ?_
    budgets_seen.money.2.2 budgets_seen.money.1
  intro link inside
  rw [List.mem_singleton.mp inside]
  exact budgets_seen.money.2.1

/-- A chain is accepted whose last mandate may make a hundred requests and whose first may make five. -/
theorem requests_widen : ¬∀ (ext : External) mandates leafRef (request : Scoped) params result,
    walk ext mandates leafRef request params = .ok result →
      ∃ path, SoundChain ext mandates params request leafRef result.humanRoot path ∧
        ∀ dimension descendant between ancestor own above, descendant :: (between ++ [ancestor]) <:+: path →
          capOf descendant.2 dimension = some own → capOf ancestor.2 dimension = some above →
            CapAtMost own above := by
  intro narrow
  obtain ⟨result, accepted⟩ := isOk_iff.mp chain_seen.spread
  obtain ⟨path, sound, narrows⟩ := narrow _ _ _ _ _ result accepted
  rw [spread_path sound] at narrows
  have widened := narrows "requests" _ [(handedMandate.digest, handedMandate.document)] _ _ _ (List.infix_refl _)
    budgets_seen.spread budgets_seen.charter
  cases widened with
  | integers isOwn isAbove le =>
      cases Option.some.inj isOwn
      cases Option.some.inj isAbove
      exact absurd le (by decide)

end Stozher.Deployment
