import Stozher.RootApproval
import Stozher.SelfApproval

namespace Stozher

open Library

variable {ext : External}

namespace Signed

/-- A strict verification of a signed object: the signature is over its members but `sig`. -/
structure Verified (ext : External) (object : Value) (key : KeyId) (members : Members) : Prop where
  isObject : object = .object members
  strict : ∃ message signature, Jcs.canonicalize (.object (members.filter fun member => member.1 != "sig")) =
    .ok message ∧ ext.verifyStrict key (.canonical message) signature = true

theorem verifySignedObject_eq_ok {object : Value} {key : KeyId}
    (verified : verifySignedObject ext object = .ok key) : ∃ members, Verified ext object key members := by
  unfold verifySignedObject signingInput at verified
  simp only [bind_eq_ok, okOr_eq_ok, require_eq_ok, pure_eq_ok] at verified
  obtain ⟨_, _, _, _, signature, _, message, ⟨members, isObject, canonical⟩, _, strict, rfl⟩ := verified
  exact ⟨members, Envelope.asObject_eq_some isObject, message, signature, canonical, strict⟩

end Signed

namespace GateQueue

/-- What the request of an approval is checked to name. -/
theorem validate_bound {request : Value} {at_ : String} {queued : GateRequest}
    (valid : validate ext request at_ = .ok queued) :
    ∀ entry ∈ Gate.bound, ∃ text, request.getStr entry.1 = some text := by
  have validated := validate_eq_ok valid
  intro entry listed
  simp only [Gate.bound, List.mem_cons, List.not_mem_nil, or_false] at listed
  rcases listed with rfl | rfl | rfl | rfl | rfl | rfl | rfl | rfl | rfl
  · exact ⟨_, validated.subject⟩
  · exact ⟨_, validated.subjectKey⟩
  · exact ⟨_, validated.component⟩
  · exact ⟨_, validated.mandateRef⟩
  · exact ⟨_, validated.policyVersion⟩
  · exact ⟨_, validated.classification⟩
  · exact ⟨_, validated.action⟩
  · exact ⟨_, validated.target⟩
  · exact ⟨_, validated.argsHash⟩

theorem validateEmbedded_bound {authorization request : Value}
    (valid : validateEmbedded ext authorization = .ok ()) (carries : authorization.get "request" = some request) :
    ∀ entry ∈ Gate.bound, ∃ text, request.getStr entry.1 = some text := by
  unfold validateEmbedded at valid
  simp only [bind_eq_ok, okOr_eq_ok] at valid
  obtain ⟨other, isOther, _, _, _, _, _, _, queued, checked, _⟩ := valid
  cases carries.symm.trans isOther
  exact validate_bound checked

end GateQueue

namespace Gate

variable {env : Value} {approvers : List Approver} {seen : List String}

/-- The instants of an approval: real ones, and in order. -/
def InWindow (env request decision : Value) : Prop :=
  ∃ decidedAt notAfter requestNotAfter emittedAt, decision.getStr "decided-at" = some decidedAt ∧
    decision.getStr "not-after" = some notAfter ∧ request.getStr "not-after" = some requestNotAfter ∧
    env.getStr "emitted-at" = some emittedAt ∧
    (∀ text ∈ [decidedAt, notAfter, requestNotAfter, emittedAt], Envelope.isTimestamp text = true) ∧
    decidedAt ≤ requestNotAfter ∧ decidedAt ≤ emittedAt ∧ emittedAt ≤ notAfter

theorem verifyWindow_inWindow {request decision : Value} (passed : verifyWindow env request decision = .ok ()) :
    InWindow env request decision := by
  unfold verifyWindow at passed
  simp only [bind_eq_ok, okOr_eq_ok, require_eq_ok, forEach_eq_ok] at passed
  obtain ⟨decidedAt, decided, notAfter, ends, requestNotAfter, expires, emittedAt, emitted, _, instants, _, early,
    after, before⟩ := passed
  refine ⟨decidedAt, notAfter, requestNotAfter, emittedAt, decided, ends, expires, emitted, ?_, early, after, before⟩
  intro text listed
  simp only [List.mem_cons, List.not_mem_nil, or_false] at listed
  rcases listed with rfl | rfl | rfl | rfl
  · exact instants ("authorization.decision.decided-at", text) (by simp)
  · exact instants ("authorization.decision.not-after", text) (by simp)
  · exact instants ("authorization.request.not-after", text) (by simp)
  · exact instants ("emitted-at", text) (by simp)

/-- An approval that covers exactly the effect an envelope records. -/
structure Covers (ext : External) (env : Value) (approvers : List Approver) (seen : List String)
    (request decision : Value) (ok : AuthorizationOk) : Prop where
  carried : Carries env request decision
  hashed : Jcs.objectHash ext request = .ok ok.requestHash
  signed : ∃ members, Signed.Verified ext decision ok.decidedBy members ∧
    (Value.object (members.filter fun member => member.1 != "sig")).getStr "request-hash" = some ok.requestHash
  listed : ∃ approver ∈ approvers, approver.key = ok.decidedBy ∧
    approvers.find? (fun candidate => candidate.key == ok.decidedBy) = some approver ∧
    ∃ subject, request.getStr "subject" = some subject ∧ approver.subject ≠ some subject
  otherKey : ∃ key, request.getStr "key" = some key ∧ ok.decidedBy.text ≠ key
  approves : decision.getStr "decision" = some "approve"
  window : InWindow env request decision
  bound : ∀ entry ∈ bound, ∃ text, request.getStr entry.1 = some text ∧ performedAt env entry.2 = some text
  use : ok.singleUse = singleUse decision
  unspent : singleUse decision = true → ok.requestHash ∉ seen

/-- An authorization that verifies covers exactly this effect, and nothing is returned only where nothing was carried
and nothing asked for. -/
theorem authorization_covers {required : Bool}
    (embedded : ∀ authorization, env.get "authorization" = some authorization →
      GateQueue.validateEmbedded ext authorization = .ok ()) :
    (∀ ok, verifyAuthorization ext env required approvers seen = .ok (some ok) →
      ∃ request decision, Covers ext env approvers seen request decision ok) ∧
    (verifyAuthorization ext env required approvers seen = .ok none →
      env.get "authorization" = none ∧ required = false) := by
  unfold verifyAuthorization
  constructor
  · intro ok verified
    split at verified
    · simp only [bind_eq_ok, pure_eq_ok] at verified
      obtain ⟨_, _, absurd_⟩ := verified
      cases absurd_
    · rename_i authorization carried
      simp only [bind_eq_ok, okOr_eq_ok, require_eq_ok, forEach_eq_ok, pure_eq_ok] at verified
      obtain ⟨request, hasRequest, decision, hasDecision, ⟨requestHash, decidedBy⟩, decided, _, permitted, _,
        verdict, _, window, _, same, _, unused, result⟩ := verified
      cases result
      obtain ⟨hashed, covers, signed⟩ := verifyDecision_eq_ok decided
      obtain ⟨otherKey, approver, found, notSubject⟩ := verifyApprover_eq_ok permitted
      obtain ⟨members, verified⟩ := Signed.verifySignedObject_eq_ok signed
      have named := GateQueue.validateEmbedded_bound (embedded authorization carried) hasRequest
      refine ⟨request, decision, ⟨authorization, carried, hasRequest, hasDecision⟩, hashed, ⟨members, verified, ?_⟩,
        ⟨approver, List.mem_of_find?_eq_some found, ?_, found, ?_⟩, otherKey, verifyVerdict_eq_ok verdict,
        verifyWindow_inWindow window, ?_, rfl, unused⟩
      · rw [← covers, verified.isObject]
        show (Members.get _ _).bind Value.asStr = (Members.get _ _).bind Value.asStr
        rw [Members.get_filter_of_ne (by decide)]
      · have isKey := List.find?_some found
        exact beq_iff_eq.mp isKey
      · obtain ⟨subject, isSubject⟩ := named ("subject", ["identity", "subject"]) (by decide)
        exact ⟨subject, isSubject, fun acts => notSubject subject acts isSubject⟩
      · intro entry listed
        obtain ⟨text, isText⟩ := named entry listed
        have equal : request.getStr entry.1 = performedAt env entry.2 := require_eq_ok.mp (same entry listed)
        exact ⟨text, isText, equal ▸ isText⟩
  · intro verified
    split at verified
    · rename_i absent
      simp only [bind_eq_ok, require_eq_ok, pure_eq_ok] at verified
      obtain ⟨_, ungated, _⟩ := verified
      exact ⟨absent, ungated⟩
    · simp only [bind_eq_ok, pure_eq_ok, reduceCtorEq, and_false, exists_false] at verified

end Gate

end Stozher

namespace Stozher.Deployment

open Library Recorded

def mergeVerified : Gate.AuthorizationOk :=
  { requestHash := mergeRequest.digest, decidedBy := anaId, singleUse := true }

structure CoverSeen : Prop where
  embedded : (mergeEffect.document.get "authorization").all
    (fun authorization => isOk (GateQueue.validateEmbedded ext authorization)) = true
  verified : (Gate.verifyAuthorization ext mergeEffect.document true [.named anaId "human:ana"] []).toOption =
    some (some mergeVerified)
  note : firstNote.document.get "authorization" = none

theorem cover_seen : CoverSeen := by
  constructor <;> decide +kernel

/-- The approval of a merge covers it, and a note needs none. -/
theorem merge_covered : (∃ request decision,
    Gate.Covers ext mergeEffect.document [.named anaId "human:ana"] [] request decision mergeVerified) ∧
      firstNote.document.get "authorization" = none ∧ false = false := by
  constructor
  · refine (Gate.authorization_covers ?_).1 mergeVerified (toOption_eq_some.mp cover_seen.verified)
    intro authorization carried
    have embedded := cover_seen.embedded
    rw [carried] at embedded
    obtain ⟨_, valid⟩ := isOk_iff.mp embedded
    exact valid
  · refine (@Gate.authorization_covers ext firstNote.document [] [] false ?_).2 ?_
    · intro authorization carried
      rw [cover_seen.note] at carried
      cases carried
    · unfold Gate.verifyAuthorization
      rw [cover_seen.note]
      rfl

end Stozher.Deployment
