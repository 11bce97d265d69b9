import Stozher.TamperEvidence

namespace Stozher.Chain

open Library

variable (ext : External)

/-- What a checkpoint attests. -/
structure Attestation where
  stream : String
  fromSeq : Nat
  toSeq : Nat
  count : Nat
  headHash : String
  deriving DecidableEq

/-- The members of a checkpoint that are read before anything is checked. -/
def attestation (checkpoint : Value) : Result Attestation := do
  let missing := fun what : String => err "schema-missing-member" what
  let body ← okOr (checkpoint.get "checkpoint") (missing "checkpoint")
  let stream ← okOr (body.getStr "stream") (missing "checkpoint.stream")
  let fromSeq ← okOr (body.getU64 "from-seq") (missing "checkpoint.from-seq")
  let toSeq ← okOr (body.getU64 "to-seq") (missing "checkpoint.to-seq")
  let count ← okOr (body.getU64 "count") (missing "checkpoint.count")
  let headHash ← okOr (body.getStr "head-hash") (missing "checkpoint.head-hash")
  return { stream, fromSeq, toSeq, count, headHash }

/-- A sum of 64 bits, which traps where it overflows. -/
def sum64 (first second : Nat) : Option Nat :=
  if first + second < 2 ^ 64 then some (first + second) else none

/-- The links of a range with the position expected at each index added up in 64 bits. The sum is taken here before the
link is checked, so a trap is never missed. -/
def verifyLinksTrapping (stream : String) (expectedFirstPrev : Option String) (firstSeq : Nat) :
    Nat → Option String → List Value → Option (Result (Option String))
  | _, previousId, [] => some (.ok previousId)
  | index, previousId, current :: rest => do
      let expectedSeq ← sum64 firstSeq index
      match verifyLink ext stream expectedFirstPrev expectedSeq previousId current with
      | .error refusal => some (.error refusal)
      | .ok id => verifyLinksTrapping stream expectedFirstPrev firstSeq (index + 1) (some id) rest

def verifyChainTrapping (envelopes : List Value) (stream : String) (expectedFirstPrev : Option String) :
    Option (Result ChainResult) :=
  match envelopes.head? with
  | none => some (.error (err "chain-empty-range" "no envelopes supplied"))
  | some first =>
      let firstSeq := (first.getU64 "seq").getD 0
      (verifyLinksTrapping ext stream expectedFirstPrev firstSeq 0 none envelopes).map fun links => do
        let previousId ← links
        return {
          count := envelopes.length
          headHash := previousId.getD ""
          anchored := firstSeq == 0 || expectedFirstPrev.isSome }

/-- The checks before the range is verified. -/
def checkRange (attested : Attestation) (attests : Nat) (range : List Value) : Result Unit := do
  require (attested.count = attests) (err "checkpoint-count-mismatch"
    s!"count {attested.count} does not match the attested range {attested.fromSeq}..={attested.toSeq}")
  require (range.length = attested.count) (err "checkpoint-count-mismatch"
    s!"attests {attested.count} envelopes, supplied {range.length}")
  let observedFirst ← okOr (range.head?.bind (·.getU64 "seq")) (err "schema-missing-member" "range[0].seq")
  require (observedFirst = attested.fromSeq) (err "checkpoint-range-mismatch"
    s!"attests from seq {attested.fromSeq}, supplied range begins at {observedFirst}")

/-- Checks a checkpoint against the range it attests; nothing where an addition overflows. -/
def verifyCheckpoint (checkpoint : Value) (range : List Value) (expectedFirstPrev : Option String) :
    Option (Result ChainResult) :=
  match attestation checkpoint with
  | .error refusal => some (.error refusal)
  | .ok attested => do
      let attests ← sum64 (attested.toSeq - attested.fromSeq) 1
      match checkRange attested attests range with
      | .error refusal => some (.error refusal)
      | .ok _ =>
          let verified ← verifyChainTrapping ext range attested.stream expectedFirstPrev
          some do
            let result ← verified
            require (result.headHash = attested.headHash) (err "checkpoint-head-mismatch"
              s!"head {result.headHash} != attested {attested.headHash}")
            return result

/-- A range is exactly what is attested: the signed and valid envelopes of the stream at its positions, in order and
linked, the first one to the anchor where it has a predecessor. -/
structure Attests (attested : Attestation) (range : List Value) (anchor : Option String) (result : ChainResult) : Prop where
  inOrder : attested.fromSeq ≤ attested.toSeq
  counted : attested.count = attested.toSeq - attested.fromSeq + 1 ∧ range.length = attested.count ∧
    result.count = attested.count
  signed : ∀ envelope ∈ range, isOk (Signed.verifySignedObject ext envelope) = true ∧
    Envelope.validate ext envelope = .ok () ∧ envelope.getStr "stream" = some attested.stream
  positions : SeqsFrom attested.fromSeq range
  linked : Linked (idOf ext) prevHashOf range
  anchored : ∀ first, range.head? = some first →
    (attested.fromSeq = 0 → prevHashOf first = none) ∧
      (attested.fromSeq ≠ 0 → ∀ hash, anchor = some hash → prevHashOf first = some hash)
  head : range.getLast?.bind (idOf ext) = some attested.headHash ∧ result.headHash = attested.headHash

/-- No addition overflows, and an accepted checkpoint attests exactly its range. -/
def CheckpointSound (checkpoint : Value) (range : List Value) (anchor : Option String) : Prop :=
  (verifyCheckpoint ext checkpoint range anchor).isSome = true ∧
    ∀ result, verifyCheckpoint ext checkpoint range anchor = some (.ok result) →
      ∃ attested, attestation checkpoint = .ok attested ∧ Attests ext attested range anchor result

/-- A chain from the attested position on, of the attested length and head. -/
def Consistent (attested : Attestation) (range : List Value) (anchor : Option String) : Prop :=
  range.length = attested.count ∧ (range.head?.bind (·.getU64 "seq")) = some attested.fromSeq ∧
    ∃ result, verifyChain ext range attested.stream anchor = .ok result ∧ result.headHash = attested.headHash

/-- Not the one range of 2^64 positions, and not an inverted range attested over the one envelope it starts at. -/
def Attestable (checkpoint : Value) (range : List Value) (anchor : Option String) : Prop :=
  ∀ attested, attestation checkpoint = .ok attested → ¬(attested.fromSeq = 0 ∧ attested.toSeq = 2 ^ 64 - 1) ∧
    ¬(attested.toSeq < attested.fromSeq ∧ attested.count = 1 ∧ Consistent ext attested range anchor)

variable {ext} {stream : String} {anchor : Option String}

theorem sum64_eq {first second : Nat} (fits : first + second < 2 ^ 64) : sum64 first second = some (first + second) :=
  if_pos fits

/-- Where the positions of a range fit in 64 bits, nothing traps. -/
theorem verifyLinksTrapping_eq {firstSeq index : Nat} {previousId : Option String} {envelopes : List Value}
    (fits : firstSeq + index + envelopes.length ≤ 2 ^ 64) :
    verifyLinksTrapping ext stream anchor firstSeq index previousId envelopes =
      some (verifyLinks ext stream anchor (firstSeq + index) previousId envelopes) := by
  induction envelopes generalizing index previousId with
  | nil => rfl
  | cons current rest ih =>
      rw [List.length_cons] at fits
      unfold verifyLinksTrapping verifyLinks
      rw [sum64_eq (by omega), Option.bind_eq_bind, Option.bind_some]
      cases verifyLink ext stream anchor (firstSeq + index) previousId current with
      | error refusal => rfl
      | ok id => exact ih (by omega)

theorem verifyChainTrapping_eq {envelopes : List Value}
    (fits : ∀ first, envelopes.head? = some first → (first.getU64 "seq").getD 0 + envelopes.length ≤ 2 ^ 64) :
    verifyChainTrapping ext envelopes stream anchor = some (verifyChain ext envelopes stream anchor) := by
  unfold verifyChainTrapping verifyChain
  cases envelopes with
  | nil => rfl
  | cons first rest =>
      have room := fits first rfl
      show (verifyLinksTrapping ext stream anchor _ 0 none (first :: rest)).map _ = _
      rw [verifyLinksTrapping_eq (by rw [Nat.add_zero]; exact room), Option.map_some]
      rfl

theorem checkRange_eq_ok {attested : Attestation} {attests : Nat} {range : List Value} {passed : Unit} :
    checkRange attested attests range = .ok passed ↔ attested.count = attests ∧ range.length = attested.count ∧
      (range.head?.bind (·.getU64 "seq")) = some attested.fromSeq := by
  unfold checkRange
  simp only [bind_eq_ok, require_eq_ok, okOr_eq_ok]
  constructor
  · rintro ⟨_, counted, _, length, first, isFirst, rfl⟩
    exact ⟨counted, length, isFirst⟩
  · rintro ⟨counted, length, isFirst⟩
    exact ⟨(), counted, (), length, _, isFirst, rfl⟩

theorem getU64_lt {value : Value} {name : String} {n : Nat} (found : value.getU64 name = some n) : n < 2 ^ 64 := by
  unfold Value.getU64 at found
  obtain ⟨inner, _, isNat⟩ := Option.bind_eq_some_iff.mp found
  cases inner with
  | number number =>
      cases number with
      | posInt k fits =>
          have same : k = n := Option.some.inj isNat
          rwa [← same]
      | negInt i fits => cases isNat
      | float bits => cases isNat
  | _ => cases isNat

theorem attestation_lt {checkpoint : Value} {attested : Attestation} (isAttested : attestation checkpoint = .ok attested) :
    attested.fromSeq < 2 ^ 64 ∧ attested.toSeq < 2 ^ 64 := by
  unfold attestation at isAttested
  simp only [bind_eq_ok, okOr_eq_ok, pure_eq_ok] at isAttested
  obtain ⟨body, _, stream, _, fromSeq, isFrom, toSeq, isTo, count, _, head, _, rfl⟩ := isAttested
  exact ⟨getU64_lt isFrom, getU64_lt isTo⟩

/-- The outcome of a checkpoint whose members are there, by whether its range has 2^64 positions. -/
theorem verifyCheckpoint_eq {checkpoint : Value} {range : List Value} {attested : Attestation}
    (isAttested : attestation checkpoint = .ok attested) : verifyCheckpoint ext checkpoint range anchor =
      if attested.toSeq - attested.fromSeq + 1 < 2 ^ 64 then
        some do
          checkRange attested (attested.toSeq - attested.fromSeq + 1) range
          let result ← verifyChain ext range attested.stream anchor
          require (result.headHash = attested.headHash) (err "checkpoint-head-mismatch"
            s!"head {result.headHash} != attested {attested.headHash}")
          return result
      else none := by
  obtain ⟨low, high⟩ := attestation_lt isAttested
  unfold verifyCheckpoint
  rw [isAttested]
  by_cases fits : attested.toSeq - attested.fromSeq + 1 < 2 ^ 64
  · rw [if_pos fits]
    dsimp only
    rw [sum64_eq fits, Option.bind_eq_bind, Option.bind_some]
    cases checked : checkRange attested (attested.toSeq - attested.fromSeq + 1) range with
    | error refusal => rfl
    | ok _ =>
        obtain ⟨counted, length, isFirst⟩ := checkRange_eq_ok.mp checked
        have room : ∀ first, range.head? = some first → (first.getU64 "seq").getD 0 + range.length ≤ 2 ^ 64 := by
          intro first head
          rw [head, Option.bind_some] at isFirst
          rw [isFirst, Option.getD_some]
          omega
        dsimp only
        rw [verifyChainTrapping_eq room]
        rfl
  · rw [if_neg fits]
    dsimp only
    have traps : sum64 (attested.toSeq - attested.fromSeq) 1 = none := if_neg fits
    rw [traps]
    rfl

/-- What is accepted: a chain from the attested position on, of the attested head, and of as many envelopes as its
positions, or one for an inverted range. -/
theorem verifyCheckpoint_iff {checkpoint : Value} {range : List Value} {attested : Attestation}
    (isAttested : attestation checkpoint = .ok attested) (result : ChainResult) :
    verifyCheckpoint ext checkpoint range anchor = some (.ok result) ↔
      attested.toSeq - attested.fromSeq + 1 < 2 ^ 64 ∧ attested.count = attested.toSeq - attested.fromSeq + 1 ∧
        range.length = attested.count ∧ (range.head?.bind (·.getU64 "seq")) = some attested.fromSeq ∧
          verifyChain ext range attested.stream anchor = .ok result ∧ result.headHash = attested.headHash := by
  rw [verifyCheckpoint_eq isAttested]
  by_cases fits : attested.toSeq - attested.fromSeq + 1 < 2 ^ 64
  · rw [if_pos fits, Option.some.injEq]
    simp only [bind_eq_ok, checkRange_eq_ok, require_eq_ok, pure_eq_ok]
    constructor
    · rintro ⟨_, ⟨counted, length, isFirst⟩, other, verified, _, head, rfl⟩
      exact ⟨fits, counted, length, isFirst, verified, head⟩
    · rintro ⟨_, counted, length, isFirst, verified, head⟩
      exact ⟨(), ⟨counted, length, isFirst⟩, result, verified, (), head, rfl⟩
  · rw [if_neg fits]
    exact iff_of_false (fun none => nomatch none) fun all => fits all.1

/-- What one link that verifies says of its stream, its signature and the anchor. -/
theorem verifyLink_signed {expectedSeq : Nat} {previousId : Option String} {current : Value} {id : String}
    (verified : verifyLink ext stream anchor expectedSeq previousId current = .ok id) :
    isOk (Signed.verifySignedObject ext current) = true ∧ current.getStr "stream" = some stream ∧
      (previousId = none → (expectedSeq = 0 → prevHashOf current = none) ∧
        (expectedSeq ≠ 0 → ∀ hash, anchor = some hash → prevHashOf current = some hash)) := by
  unfold verifyLink at verified
  simp only [bind_eq_ok, mapError_eq_ok, require_eq_ok] at verified
  obtain ⟨key, signed, _, valid, _, isStream, _, seq, _, previous, _⟩ := verified
  obtain ⟨map, kind, spec, known⟩ := Envelope.validate_eq_ok valid
  obtain ⟨place, position, placed⟩ := known.placed
  rw [placed.hasStream, Option.getD_some] at isStream
  rw [placed.hasSeq, Option.getD_some] at seq
  refine ⟨isOk_iff.mpr ⟨key, signed⟩, by rw [placed.hasStream, isStream], ?_⟩
  rintro rfl
  constructor
  · intro genesis
    exact placed.first (seq.trans genesis)
  · rintro later hash rfl
    obtain ⟨claimed, isClaimed⟩ := placed.later (by omega)
    rw [isClaimed] at previous
    have same : claimed = hash := require_eq_ok.mp previous
    unfold prevHashOf
    rw [isClaimed, same]

theorem verifyLinks_signed {expectedSeq : Nat} {previousId last : Option String} {envelopes : List Value}
    (verified : verifyLinks ext stream anchor expectedSeq previousId envelopes = .ok last) :
    (∀ envelope ∈ envelopes, isOk (Signed.verifySignedObject ext envelope) = true ∧
      envelope.getStr "stream" = some stream) ∧
      (previousId = none → ∀ first, envelopes.head? = some first → (expectedSeq = 0 → prevHashOf first = none) ∧
        (expectedSeq ≠ 0 → ∀ hash, anchor = some hash → prevHashOf first = some hash)) := by
  induction envelopes generalizing expectedSeq previousId with
  | nil => exact ⟨fun envelope none => absurd none List.not_mem_nil, fun _ first head => nomatch head⟩
  | cons current rest ih =>
      rw [verifyLinks, bind_eq_ok] at verified
      obtain ⟨id, link, others⟩ := verified
      obtain ⟨signed, isStream, anchored⟩ := verifyLink_signed link
      constructor
      · intro envelope member
        rcases List.mem_cons.mp member with rfl | later
        · exact ⟨signed, isStream⟩
        · exact (ih others).1 envelope later
      · intro unlinked first head
        rw [← Option.some.inj head]
        exact anchored unlinked

/-- A chain that verifies from a position on, in order, attests its range. -/
theorem attests_of_verified {attested : Attestation} {range : List Value} {result : ChainResult}
    (inOrder : attested.fromSeq ≤ attested.toSeq) (counted : attested.count = attested.toSeq - attested.fromSeq + 1)
    (length : range.length = attested.count) (isFirst : (range.head?.bind (·.getU64 "seq")) = some attested.fromSeq)
    (verified : verifyChain ext range attested.stream anchor = .ok result) (head : result.headHash = attested.headHash) :
    Attests ext attested range anchor result := by
  obtain ⟨first, rest, isRange, known, ends⟩ := verifyChain_eq_ok verified
  unfold verifyChain at verified
  simp only [bind_eq_ok, okOr_eq_ok, pure_eq_ok] at verified
  obtain ⟨start, isStart, last, links, isResult⟩ := verified
  have sameStart : start = first := by
    rw [isRange, List.head?_cons] at isStart
    exact (Option.some.inj isStart).symm
  subst sameStart
  rw [isStart, Option.bind_some] at isFirst
  rw [isFirst, Option.getD_some] at links known
  obtain ⟨signed, anchored⟩ := verifyLinks_signed links
  constructor
  · exact inOrder
  · refine ⟨counted, length, ?_⟩
    rw [← isResult]
    exact length
  · exact fun envelope member => ⟨(signed envelope member).1, known.valid envelope member, (signed envelope member).2⟩
  · exact known.seqs
  · exact known.linked
  · exact anchored rfl
  · refine ⟨?_, head⟩
    cases final : range.getLast? with
    | none =>
        rw [final] at ends
        cases ends
    | some envelope =>
        rw [final, Option.map_some, Option.some.injEq] at ends
        rw [Option.bind_some, ends, head]

/-- A checkpoint is sound exactly where it is attestable. -/
theorem checkpoint_sound_iff (checkpoint : Value) (range : List Value) (anchor : Option String) :
    CheckpointSound ext checkpoint range anchor ↔ Attestable ext checkpoint range anchor := by
  constructor
  · rintro ⟨total, accepted⟩ attested isAttested
    obtain ⟨low, high⟩ := attestation_lt isAttested
    constructor
    · rintro ⟨first, last⟩
      rw [verifyCheckpoint_eq isAttested, if_neg (by omega)] at total
      cases total
    · rintro ⟨inverted, one, length, isFirst, result, verified, head⟩
      have whole := (verifyCheckpoint_iff isAttested result).mpr
        ⟨by omega, by omega, length, isFirst, verified, head⟩
      obtain ⟨other, isOther, attests⟩ := accepted result whole
      rw [isAttested] at isOther
      obtain rfl := Except.ok.inj isOther
      exact absurd attests.inOrder (Nat.not_le.mpr inverted)
  · intro attestable
    cases isAttested : attestation checkpoint with
    | error refusal =>
        have refused : verifyCheckpoint ext checkpoint range anchor = some (.error refusal) := by
          unfold verifyCheckpoint
          rw [isAttested]
        constructor
        · rw [refused]
          rfl
        · intro result accepted
          rw [refused] at accepted
          cases accepted
    | ok attested =>
        obtain ⟨low, high⟩ := attestation_lt isAttested
        obtain ⟨bounded, ordered⟩ := attestable attested isAttested
        constructor
        · rw [verifyCheckpoint_eq isAttested, if_pos (by omega)]
          rfl
        · intro result accepted
          obtain ⟨_, counted, length, isFirst, verified, head⟩ := (verifyCheckpoint_iff isAttested result).mp accepted
          refine ⟨attested, isAttested, ?_⟩
          apply attests_of_verified _ counted length isFirst verified head
          by_contra inverted
          exact ordered ⟨by omega, by omega, length, isFirst, result, verified, head⟩

end Stozher.Chain

namespace Stozher.Deployment

open Library Chain

def checkpointOver (count fromSeq toSeq : Nat) (headHash : String) : Value :=
  .object [("checkpoint", .object [("count", .ofNat count), ("from-seq", .ofNat fromSeq), ("head-hash", .string headHash),
    ("stream", .string "kernel:core"), ("to-seq", .ofNat toSeq)])]

/-- From the second envelope of the kernel's stream to the first. -/
def inverted : Value := checkpointOver 1 1 0 policyChange.digest

/-- Every position there could be. -/
def boundless : Value := checkpointOver 1 0 (2 ^ 64 - 1) policyChange.digest

structure InvertedSeen : Prop where
  attested : attestation inverted = .ok ⟨"kernel:core", 1, 0, 1, policyChange.digest⟩
  accepted : (verifyCheckpoint ext inverted [policyChange.document] none).map isOk = some true
  overflows : verifyCheckpoint ext boundless [policyChange.document] none = none

theorem inverted_seen : InvertedSeen := by
  constructor <;> decide +kernel

theorem inverted_checkpoint_verified : ¬CheckpointSound ext inverted [policyChange.document] none ∧
    ¬CheckpointSound ext boundless [policyChange.document] none := by
  constructor
  · rintro ⟨_, accepted⟩
    obtain ⟨outcome, isOutcome, ok⟩ := Option.map_eq_some_iff.mp inverted_seen.accepted
    obtain ⟨result, isResult⟩ := isOk_iff.mp ok
    rw [isResult] at isOutcome
    obtain ⟨attested, isAttested, attests⟩ := accepted result isOutcome
    rw [inverted_seen.attested] at isAttested
    have inOrder := attests.inOrder
    rw [← Except.ok.inj isAttested] at inOrder
    exact absurd inOrder (by decide)
  · rintro ⟨total, _⟩
    rw [inverted_seen.overflows] at total
    cases total

end Stozher.Deployment
