import Stozher.Gateway.Authorization
import Stozher.Library.Refusal

namespace Stozher

open Library

namespace Jcs

variable (ext : External) {kind : Error → Prop}

mutual

theorem writeValue_refuses (is : kind (err "jcs-non-finite-number" "the number is not finite")) :
    ∀ value, Refuses kind (writeValue value)
  | .null => refuses_ok _
  | .bool _ => refuses_ok _
  | .number n => by
      unfold writeValue canonicalNumber
      exact refuses_bind (refuses_bind (refuses_require is) fun _ => refuses_pure _) fun _ => refuses_pure _
  | .string _ => refuses_ok _
  | .array items => by
      unfold writeValue
      exact refuses_bind (writeItems_refuses is items) fun _ => refuses_pure _
  | .object members => by
      unfold writeValue
      exact refuses_bind (writeMembers_refuses is members) fun _ => refuses_pure _

theorem writeItems_refuses (is : kind (err "jcs-non-finite-number" "the number is not finite")) :
    ∀ items, Refuses kind (writeItems items)
  | [] => refuses_ok _
  | item :: rest => by
      unfold writeItems
      exact refuses_bind (writeValue_refuses is item) fun _ =>
        refuses_bind (writeItems_refuses is rest) fun _ => refuses_pure _

theorem writeMembers_refuses (is : kind (err "jcs-non-finite-number" "the number is not finite")) :
    ∀ members, Refuses kind (writeMembers members)
  | [] => refuses_ok _
  | (name, value) :: rest => by
      unfold writeMembers
      exact refuses_bind (writeValue_refuses is value) fun _ =>
        refuses_bind (writeMembers_refuses is rest) fun _ => refuses_pure _

end

/-- The only value without a hash is one that holds a number that is not finite. -/
theorem objectHash_refuses (is : kind (err "jcs-non-finite-number" "the number is not finite"))
    (value : Value) : Refuses kind (objectHash ext value) := by
  unfold objectHash canonicalize
  exact refuses_bind (refuses_bind (writeValue_refuses is value) fun _ => refuses_pure _) fun _ =>
    refuses_pure _

end Jcs

namespace Gateway

variable {ext : External} {envelope request decision : Value} {approvers : List Gate.Approver}

/-- An approval by one of the approvers, over a request that had not timed out when it was given. -/
structure Endorsed (ext : External) (approvers : List Gate.Approver) (request decision : Value)
    (ok : Gate.AuthorizationOk) : Prop where
  objects : request.isObject = true ∧ decision.isObject = true
  hashed : Jcs.objectHash ext request = .ok ok.requestHash
  covers : decision.getStr "request-hash" = some ok.requestHash
  signed : Signed.verifySignedObject ext decision = .ok ok.decidedBy
  permitted : verifyApprover request ok.decidedBy approvers = .ok ()
  approves : decision.getStr "decision" = some "approve"
  inTime : ∃ decidedAt notAfter requestNotAfter, decision.getStr "decided-at" = some decidedAt ∧
    decision.getStr "not-after" = some notAfter ∧ request.getStr "not-after" = some requestNotAfter ∧
    Envelope.isTimestamp decidedAt = true ∧ Envelope.isTimestamp notAfter = true ∧
    Envelope.isTimestamp requestNotAfter = true ∧ decidedAt ≤ requestNotAfter
  uses : ok.singleUse = singleUse decision

/-- An endorsed request has a key, and it is not the approver's. -/
theorem Endorsed.requester {ok : Gate.AuthorizationOk} (endorsed : Endorsed ext approvers request decision ok) :
    ∃ requesterKey, request.getStr "key" = some requesterKey ∧ ok.decidedBy.text ≠ requesterKey := by
  have permitted := endorsed.permitted
  unfold verifyApprover present at permitted
  simp only [bind_eq_ok, okOr_eq_ok, require_eq_ok, Value.index_asStr] at permitted
  obtain ⟨requesterKey, hasKey, _, other, _⟩ := permitted
  exact ⟨requesterKey, hasKey, other⟩

/-- An instant inside the window of an approval. -/
def Within (decision : Value) (at_ : String) : Prop :=
  Envelope.isTimestamp at_ = true ∧ ∃ decidedAt notAfter, decision.getStr "decided-at" = some decidedAt ∧
    decision.getStr "not-after" = some notAfter ∧ decidedAt ≤ at_ ∧ at_ ≤ notAfter

theorem verifyVerdict_eq_ok {u : Unit} :
    verifyVerdict ext decision = .ok u ↔ decision.getStr "decision" = some "approve" := by
  unfold verifyVerdict
  rw [Value.index_asStr]
  split
  · rename_i approve
    simp [approve]
  · rename_i deny
    simp [deny]
  · rename_i other _
    constructor
    · intro passed
      cases passed
    · intro approve
      exact absurd approve other

theorem verifyWindow_eq_ok {when_ : Value} {u : Unit} :
    verifyWindow request decision when_ = .ok u ↔
      (∃ decidedAt notAfter requestNotAfter, decision.getStr "decided-at" = some decidedAt ∧
        decision.getStr "not-after" = some notAfter ∧ request.getStr "not-after" = some requestNotAfter ∧
        Envelope.isTimestamp decidedAt = true ∧ Envelope.isTimestamp notAfter = true ∧
        Envelope.isTimestamp requestNotAfter = true ∧ decidedAt ≤ requestNotAfter) ∧
      ∃ at_, when_.asStr = some at_ ∧ Within decision at_ := by
  unfold verifyWindow present Within
  simp only [bind_eq_ok, okOr_eq_ok, forEach_eq_ok, require_eq_ok, Value.index_asStr, List.forall_mem_cons,
    List.not_mem_nil, false_implies, implies_true, and_true]
  constructor
  · intro ⟨decidedAt, hasDecided, notAfter, hasNotAfter, requestNotAfter, hasRequest, at_, hasAt, _,
      ⟨isDecided, isNotAfter, isRequest, isAt⟩, _, early, after, before⟩
    exact ⟨⟨decidedAt, notAfter, requestNotAfter, hasDecided, hasNotAfter, hasRequest, isDecided, isNotAfter,
      isRequest, early⟩, at_, hasAt, isAt, decidedAt, notAfter, hasDecided, hasNotAfter, after, before⟩
  · intro ⟨⟨decidedAt, notAfter, requestNotAfter, hasDecided, hasNotAfter, hasRequest, isDecided, isNotAfter,
      isRequest, early⟩, at_, hasAt, isAt, other, end_, isOther, isEnd, after, before⟩
    rw [hasDecided, Option.some.injEq] at isOther
    rw [hasNotAfter, Option.some.injEq] at isEnd
    subst isOther isEnd
    exact ⟨decidedAt, hasDecided, notAfter, hasNotAfter, requestNotAfter, hasRequest, at_, hasAt, (),
      ⟨isDecided, isNotAfter, isRequest, isAt⟩, (), early, after, before⟩

/-- What an envelope has to be for the eleven steps to pass it with an approval. -/
theorem verifyAuthorization_some {requiresGate : Bool} {seen : List String} {at_ : Option String}
    {ok : Gate.AuthorizationOk} (isRequest : (envelope.index "authorization").index "request" = request)
    (isDecision : (envelope.index "authorization").index "decision" = decision) :
    verifyAuthorization ext envelope requiresGate approvers seen at_ = .ok (some ok) ↔
      Endorsed ext approvers request decision ok ∧
      (∃ when_, ((at_.map Value.string).getD (envelope.index "emitted-at")).asStr = some when_ ∧
        Within decision when_) ∧
      Gate.bound.all (agrees request envelope) = true ∧
      ¬ (singleUse decision = true ∧ ok.requestHash ∈ seen) := by
  subst isRequest isDecision
  unfold verifyAuthorization
  dsimp only
  split
  · rename_i absent
    constructor
    · intro passed
      simp only [require_bind_eq_ok, pure_eq_ok, reduceCtorEq, and_false] at passed
    · intro ⟨endorsed, _⟩
      have object := endorsed.objects.1
      cases carried : envelope.index "authorization" with
      | null =>
          rw [carried] at object
          cases object
      | _ =>
          rw [carried] at absent
          cases absent
  · unfold verifyDecision
    simp only [bind_eq_ok, require_eq_ok, mapError_eq_ok, verifyVerdict_eq_ok, verifyWindow_eq_ok,
      Value.index_asStr, pure_eq_ok, Option.some.injEq]
    constructor
    · intro ⟨_, objects, ⟨hash, decidedBy⟩, ⟨_, hashed, _, covers, _, signed, pair⟩, _, permitted, _, approves,
        _, ⟨inTime, window⟩, _, bound, _, unspent, same⟩
      cases pair
      subst same
      exact ⟨⟨objects, hashed, covers, signed, permitted, approves, inTime, rfl⟩, window, bound, unspent⟩
    · intro ⟨endorsed, window, bound, unspent⟩
      refine ⟨(), endorsed.objects, (ok.requestHash, ok.decidedBy),
        ⟨_, endorsed.hashed, (), endorsed.covers, _, endorsed.signed, rfl⟩, (), endorsed.permitted, (),
        endorsed.approves, (), ⟨endorsed.inTime, window⟩, (), bound, (), unspent, ?_⟩
      rw [← endorsed.uses]

/-- Only a decision that denies is refused as a denial. -/
theorem denied_of_refused {requiresGate : Bool} {seen : List String} {at_ : Option String} {e : Error}
    (refused : verifyAuthorization ext envelope requiresGate approvers seen at_ = .error e)
    (code : e.code = "gate-denied") :
    ((envelope.index "authorization").index "decision").getStr "decision" ≠ some "approve" := by
  intro approves
  have others : Refuses (fun e : Error => e.code ≠ "gate-denied")
      (verifyAuthorization ext envelope requiresGate approvers seen at_) := by
    have passed : verifyVerdict ext ((envelope.index "authorization").index "decision") = .ok () :=
      verifyVerdict_eq_ok.mpr approves
    unfold verifyAuthorization
    dsimp only
    rw [passed]
    have dated : ∀ (value : Value) what, Refuses (fun e : Error => e.code ≠ "gate-denied")
        (present value what) := fun _ _ => refuses_okOr (by simp [err])
    apply refuses_ite
    · exact refuses_bind (refuses_require (by simp [err])) fun _ => refuses_pure _
    · refine refuses_bind (refuses_require (by simp [err])) fun _ => refuses_bind ?_ fun _ =>
        refuses_bind ?_ fun _ => refuses_bind (refuses_ok _) fun _ => refuses_bind ?_ fun _ =>
          refuses_bind (refuses_require (by simp [err])) fun _ =>
            refuses_bind (refuses_require (by simp [err])) fun _ => refuses_pure _
      · unfold verifyDecision
        exact refuses_bind (Jcs.objectHash_refuses ext (by simp [err]) _) fun _ =>
          refuses_bind (refuses_require (by simp [err])) fun _ =>
            refuses_bind (refuses_mapError fun _ => by simp [err]) fun _ => refuses_pure _
      · unfold verifyApprover checkActingAs
        refine refuses_bind (dated _ _) fun _ => refuses_bind (refuses_require (by simp [err])) fun _ =>
          refuses_bind ?_ fun _ => refuses_require (by simp [err])
        split
        · exact refuses_require (by simp [err])
        · exact refuses_ok _
      · unfold verifyWindow
        exact refuses_bind (dated _ _) fun _ => refuses_bind (dated _ _) fun _ =>
          refuses_bind (dated _ _) fun _ => refuses_bind (dated _ _) fun _ =>
            refuses_bind (refuses_forEach (fun _ => refuses_require (by simp [err])) _) fun _ =>
              refuses_bind (refuses_require (by simp [err])) fun _ => refuses_require (by simp [err])
  exact others e refused code

end Gateway

end Stozher
