import Stozher.Admission
import Stozher.Chain
import Stozher.Library.Linked
import Stozher.Deployment

namespace Stozher.Chain

open Library

variable {ext : External} {stream : String} {anchor : Option String}

/-- The id an envelope is named by. -/
def idOf (ext : External) (envelope : Value) : Option String :=
  (Signed.objectId ext envelope).toOption

theorem idOf_eq_some {envelope : Value} {id : String} (named : idOf ext envelope = some id) :
    Signed.objectId ext envelope = .ok id := by
  unfold idOf at named
  cases hashed : Signed.objectId ext envelope with
  | error reason =>
      rw [hashed] at named
      cases named
  | ok id' =>
      rw [hashed] at named
      cases named
      rfl

def prevHashOf (envelope : Value) : Option String :=
  envelope.getStr "prev-hash"

/-- Positions that leave none out, from the first on. -/
def SeqsFrom (start : Nat) (envelopes : List Value) : Prop :=
  ∀ i envelope, envelopes[i]? = some envelope → envelope.getU64 "seq" = some (start + i)

theorem checkPrevious_eq_ok {seq : Nat} {id : String} {claimed : Option String}
    (passed : checkPrevious anchor seq (some id) claimed = .ok ()) : claimed = some id := by
  cases claimed with
  | none => cases passed
  | some claimed =>
      have same : claimed = id := require_eq_ok.mp passed
      rw [same]

/-- What one link that verifies is known to be. -/
structure Verified (ext : External) (expectedSeq : Nat) (previousId : Option String) (current : Value)
    (id : String) : Prop where
  valid : Envelope.validate ext current = .ok ()
  seq : current.getU64 "seq" = some expectedSeq
  follows : ∀ previous, previousId = some previous → prevHashOf current = some previous
  id : idOf ext current = some id

theorem verifyLink_eq_ok {expectedSeq : Nat} {previousId : Option String} {current : Value} {id : String}
    (verified : verifyLink ext stream anchor expectedSeq previousId current = .ok id) :
    Verified ext expectedSeq previousId current id := by
  unfold verifyLink at verified
  simp only [bind_eq_ok, mapError_eq_ok, require_eq_ok] at verified
  obtain ⟨_, _, _, valid, _, _, _, seq, _, previous, hashed⟩ := verified
  obtain ⟨map, kind, spec, known⟩ := Envelope.validate_eq_ok valid
  obtain ⟨place, position, placed⟩ := known.placed
  have hasSeq := placed.hasSeq
  rw [hasSeq, Option.getD_some] at seq
  refine ⟨valid, ?_, ?_, ?_⟩
  · rw [hasSeq, seq]
  · intro before isBefore
    rw [isBefore] at previous
    exact checkPrevious_eq_ok previous
  · unfold idOf
    rw [hashed]
    rfl

/-- What a range that verifies is known to be. -/
structure VerifiedRange (ext : External) (expectedSeq : Nat) (previousId : Option String)
    (envelopes : List Value) (last : Option String) : Prop where
  valid : ∀ envelope ∈ envelopes, Envelope.validate ext envelope = .ok ()
  seqs : SeqsFrom expectedSeq envelopes
  linked : Linked (idOf ext) prevHashOf envelopes
  follows : ∀ first, envelopes.head? = some first → ∀ previous, previousId = some previous →
    prevHashOf first = some previous
  named : ∀ envelope ∈ envelopes, ∃ id, idOf ext envelope = some id
  last : ∀ final, envelopes.getLast? = some final → last = idOf ext final

theorem verifyLinks_eq_ok {expectedSeq : Nat} {previousId last : Option String} {envelopes : List Value}
    (verified : verifyLinks ext stream anchor expectedSeq previousId envelopes = .ok last) :
    VerifiedRange ext expectedSeq previousId envelopes last := by
  induction envelopes generalizing expectedSeq previousId with
  | nil => constructor <;> simp [SeqsFrom, Linked]
  | cons first rest ih =>
      rw [verifyLinks, bind_eq_ok] at verified
      obtain ⟨id, link, others⟩ := verified
      have head := verifyLink_eq_ok link
      have tail := ih others
      constructor
      · intro envelope member
        rcases List.mem_cons.mp member with rfl | later
        · exact head.valid
        · exact tail.valid envelope later
      · intro i envelope found
        cases i with
        | zero =>
            cases found
            exact head.seq
        | succ i =>
            rw [List.getElem?_cons_succ] at found
            rw [tail.seqs i envelope found]
            congr 1
            omega
      · cases rest with
        | nil => exact .singleton _
        | cons second others =>
            refine .cons_cons ?_ tail.linked
            rw [tail.follows second rfl id rfl, head.id]
      · intro other isFirst
        cases isFirst
        exact head.follows
      · intro envelope member
        rcases List.mem_cons.mp member with rfl | later
        · exact ⟨id, head.id⟩
        · exact tail.named envelope later
      · intro final isLast
        cases rest with
        | nil =>
            rw [List.getLast?_singleton, Option.some.injEq] at isLast
            cases others
            rw [← isLast, head.id]
        | cons second others =>
            rw [List.getLast?_cons_cons] at isLast
            exact tail.last final isLast

/-- What an accepted chain is known to be, from its first envelope to the head it reports. -/
theorem verifyChain_eq_ok {envelopes : List Value} {result : ChainResult}
    (verified : verifyChain ext envelopes stream anchor = .ok result) :
    ∃ first rest, envelopes = first :: rest ∧
      VerifiedRange ext ((first.getU64 "seq").getD 0) none envelopes
        (envelopes.getLast?.bind (idOf ext)) ∧
      envelopes.getLast?.map (idOf ext) = some (some result.headHash) := by
  unfold verifyChain at verified
  simp only [bind_eq_ok, okOr_eq_ok, pure_eq_ok] at verified
  obtain ⟨first, isFirst, previousId, links, rfl⟩ := verified
  cases envelopes with
  | nil => cases isFirst
  | cons start rest =>
      rw [List.head?_cons, Option.some.injEq] at isFirst
      subst isFirst
      have range := verifyLinks_eq_ok links
      have nonempty : (start :: rest).getLast? ≠ none := by simp
      obtain ⟨final, isLast⟩ := Option.ne_none_iff_exists'.mp nonempty
      have reported := range.last final isLast
      obtain ⟨id, named⟩ := range.named final (List.mem_of_getLast? isLast)
      rw [named] at reported
      subst reported
      refine ⟨start, rest, rfl, ?_, ?_⟩
      · rw [isLast, Option.bind_some, named]
        exact range
      · rw [isLast, Option.map_some, named, Option.getD_some]

/-- Two chains of one length that verify to one head are the same envelopes, where no two of their envelopes
that differ hash to one id. -/
theorem verifyChain_tamper_evident {first second : List Value} {otherAnchor : Option String}
    {one other : ChainResult} (verified : verifyChain ext first stream anchor = .ok one)
    (otherVerified : verifyChain ext second stream otherAnchor = .ok other)
    (length : first.length = second.length) (head : one.headHash = other.headHash)
    (collisionFree : ∀ a ∈ first, ∀ b ∈ second, ∀ hash, Signed.objectId ext a = .ok hash →
      Signed.objectId ext b = .ok hash → Jcs.canonicalize a = Jcs.canonicalize b) :
    List.Forall₂ (fun a b => Jcs.canonicalize a = Jcs.canonicalize b) first second ∧
      (∃ start, SeqsFrom start first ∧ SeqsFrom start second) ∧
      first.head?.map prevHashOf = second.head?.map prevHashOf := by
  obtain ⟨a, tail, isFirst, range, ends⟩ := verifyChain_eq_ok verified
  obtain ⟨b, otherTail, isSecond, otherRange, otherEnds⟩ := verifyChain_eq_ok otherVerified
  -- a valid envelope is its own canonical form
  have same : ∀ x ∈ first, ∀ y ∈ second, Jcs.canonicalize x = Jcs.canonicalize y → x = y := by
    intro x isOne y isOther forms
    obtain ⟨_, _, _, known⟩ := Envelope.validate_eq_ok (range.valid x isOne)
    obtain ⟨_, _, _, otherKnown⟩ := Envelope.validate_eq_ok (otherRange.valid y isOther)
    rw [known.canonical, otherKnown.canonical] at forms
    cases forms
    rfl
  have agree : List.Forall₂ (fun x y => Jcs.canonicalize x = Jcs.canonicalize y) first second := by
    refine Linked.agree ?_ ?_ range.linked otherRange.linked length ?_
    · intro x isOne y isOther ids
      obtain ⟨id, named⟩ := range.named x isOne
      rw [named] at ids
      exact collisionFree x isOne y isOther id (idOf_eq_some named) (idOf_eq_some ids.symm)
    · intro x isOne y isOther forms
      rw [same x isOne y isOther forms]
    · rw [ends, otherEnds, head]
  have starts : a = b := by
    subst isFirst isSecond
    cases agree with
    | cons forms _ => exact same a List.mem_cons_self b List.mem_cons_self forms
  refine ⟨agree, ⟨_, range.seqs, ?_⟩, ?_⟩
  · rw [starts]
    exact otherRange.seqs
  · rw [isFirst, isSecond, List.head?_cons, List.head?_cons, starts]

end Stozher.Chain

namespace Stozher.Deployment

open Library Chain

/-- The kernel's own stream once the deployment is founded. -/
def founded : List Value := [opsGrant.document, policyChange.document]

structure FoundedSeen : Prop where
  verifies : isOk (verifyChain ext founded "kernel:core" none) = true
  grant : Signed.objectId ext opsGrant.document = .ok opsGrant.digest
  change : Signed.objectId ext policyChange.document = .ok policyChange.digest
  differ : opsGrant.digest ≠ policyChange.digest

theorem founded_seen : FoundedSeen := by
  constructor <;> decide +kernel

theorem founded_tamper_evident :
    ∃ result, verifyChain ext founded "kernel:core" none = .ok result ∧
      List.Forall₂ (fun a b => Jcs.canonicalize a = Jcs.canonicalize b) founded founded ∧
      (∃ start, SeqsFrom start founded ∧ SeqsFrom start founded) ∧
      founded.head?.map prevHashOf = founded.head?.map prevHashOf := by
  obtain ⟨result, verified⟩ := isOk_iff.mp founded_seen.verifies
  refine ⟨result, verified, verifyChain_tamper_evident verified verified rfl rfl ?_⟩
  intro a first b second hash one other
  have either : ∀ c ∈ founded, c = opsGrant.document ∨ c = policyChange.document := by
    intro c member
    simpa [founded] using member
  rcases either a first with rfl | rfl <;> rcases either b second with rfl | rfl
  · rfl
  · rw [founded_seen.grant] at one
    rw [founded_seen.change] at other
    exact absurd ((Except.ok.inj one).trans (Except.ok.inj other).symm) founded_seen.differ
  · rw [founded_seen.change] at one
    rw [founded_seen.grant] at other
    exact absurd ((Except.ok.inj one).trans (Except.ok.inj other).symm).symm founded_seen.differ
  · rfl

end Stozher.Deployment
