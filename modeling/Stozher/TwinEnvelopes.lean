import Stozher.Admission
import Stozher.Library.TwoRuns

namespace Stozher

open Library

/-- The members of an envelope but for its correlation reference and its signature. -/
def uncorrelated (members : Members) : Members :=
  (members.filter fun member => member.1 != "correlation-ref").filter fun member => member.1 != "sig"

/-- What a signature by a key says. -/
def sigOf (key : String) (value : String) : Value :=
  .object [("alg", .string "ed25519"), ("key", .string key), ("value", .string value)]

/-- A correlation reference that is a text of at most 512 octets, if there is one, and a signature by a key. -/
structure Correlated (key : String) (members : Members) : Prop where
  reference : ∀ value, ("correlation-ref", value) ∈ members →
    ∃ text : String, value = .string text ∧ text.utf8ByteSize ≤ Envelope.correlationRefMax
  signature : ∀ value, ("sig", value) ∈ members → ∃ text : String, value = sigOf key text

/-- Two signed envelopes that differ in their correlation references and signatures only. -/
structure Twins (ext : External) (first second : Value) : Prop where
  members : ∃ key one other, first = .object one ∧ second = .object other ∧
    uncorrelated one = uncorrelated other ∧ Correlated key one ∧ Correlated key other
  signed : ∃ key, Signed.verifySignedObject ext first = .ok key ∧ Signed.verifySignedObject ext second = .ok key

namespace Twins

variable {ext : External} {first second : Value} {name : String}

theorem get_uncorrelated (members : Members) (unreferenced : name ≠ "correlation-ref") (unsigned : name ≠ "sig") :
    (uncorrelated members).get name = members.get name := by
  unfold uncorrelated
  rw [Members.get_filter_of_ne unsigned.symm, Members.get_filter_of_ne unreferenced.symm]

theorem get_eq {one other : Members} (same : uncorrelated one = uncorrelated other)
    (plain : name ≠ "correlation-ref" ∧ name ≠ "sig") : other.get name = one.get name := by
  rw [← get_uncorrelated one plain.1 plain.2, ← get_uncorrelated other plain.1 plain.2, same]

theorem get (twins : Twins ext first second) (unreferenced : name ≠ "correlation-ref") (unsigned : name ≠ "sig") :
    second.get name = first.get name := by
  obtain ⟨_, one, other, rfl, rfl, same, _⟩ := twins.members
  exact get_eq same ⟨unreferenced, unsigned⟩

theorem getStr (twins : Twins ext first second) (unreferenced : name ≠ "correlation-ref") (unsigned : name ≠ "sig") :
    second.getStr name = first.getStr name := by
  unfold Value.getStr
  rw [twins.get unreferenced unsigned]

theorem getU64 (twins : Twins ext first second) (unreferenced : name ≠ "correlation-ref") (unsigned : name ≠ "sig") :
    second.getU64 name = first.getU64 name := by
  unfold Value.getU64
  rw [twins.get unreferenced unsigned]

theorem index (twins : Twins ext first second) (unreferenced : name ≠ "correlation-ref") (unsigned : name ≠ "sig") :
    second.index name = first.index name := by
  unfold Value.index
  rw [twins.get unreferenced unsigned]

theorem sig_of_verified {key : KeyId} {env : Value} (signed : Signed.verifySignedObject ext env = .ok key) :
    (env.get "sig").isSome = true := by
  unfold Signed.verifySignedObject Signed.declaredSigner at signed
  simp only [bind_eq_ok, okOr_eq_ok] at signed
  obtain ⟨_, ⟨sig, found, _⟩, _⟩ := signed
  rw [found]
  rfl

/-- The signatures are by one key. -/
theorem sigKey (twins : Twins ext first second) :
    (second.index "sig").getStr "key" = (first.index "sig").getStr "key" := by
  obtain ⟨key, one, other, isFirst, isSecond, _, known, known'⟩ := twins.members
  obtain ⟨_, signed, signed'⟩ := twins.signed
  have named : ∀ {env : Value} {members : Members}, env = .object members → Correlated key members →
      (env.get "sig").isSome = true → (env.index "sig").getStr "key" = some key := by
    intro env members isEnv known has
    obtain ⟨sig, found⟩ := Option.isSome_iff_exists.mp has
    rw [isEnv] at found
    obtain ⟨text, isSig⟩ := known.signature sig (Envelope.mem_of_get found)
    unfold Value.index
    rw [isEnv, found, isSig]
    rfl
  rw [named isFirst known (sig_of_verified signed), named isSecond known' (sig_of_verified signed')]

end Twins

namespace Correlated

variable {ext : External} {key : String} {members : Members}

/-- What passes the reference and the signature is asked of the rest. -/
theorem forEach (known : Correlated key members) {check : String × Value → Result Unit}
    (reference : ∀ text : String, text.utf8ByteSize ≤ Envelope.correlationRefMax →
      check ("correlation-ref", .string text) = .ok ())
    (signature : ∀ text : String, check ("sig", sigOf key text) = .ok ()) :
    forEach check (uncorrelated members) = Library.forEach check members := by
  unfold uncorrelated
  rw [forEach_filter, forEach_filter]
  · intro member inside dropped
    obtain ⟨name, value⟩ := member
    have named : name = "correlation-ref" := by simpa using dropped
    subst named
    obtain ⟨text, rfl, small⟩ := known.reference value inside
    exact reference text small
  · intro member inside dropped
    obtain ⟨name, value⟩ := member
    have named : name = "sig" := by simpa using dropped
    subst named
    obtain ⟨text, rfl⟩ := known.signature value (List.mem_of_mem_filter inside)
    exact signature text

theorem checkNumbers_string {text path : String} : Envelope.checkNumbers ext (.string text) path = .ok () := by
  unfold Envelope.checkNumbers
  rfl

theorem checkNumbers_forEach (members : Members) (path : String) : Envelope.checkMembers ext members path =
    Library.forEach (fun member => Envelope.checkNumbers ext member.2
      (if path.isEmpty then member.1 else s!"{path}.{member.1}")) members := by
  induction members with
  | nil => rfl
  | cons first rest ih =>
      obtain ⟨name, value⟩ := first
      rw [Envelope.checkMembers, ih]
      rfl

end Correlated

namespace Envelope

/-- No kind requires or forbids a correlation reference, and none says more of the signature. -/
theorem kindSpec_plain {kind : String} {spec : KindSpec} (known : kindSpec kind = some spec) :
    (∀ name ∈ spec.forbidden, name ≠ "correlation-ref" ∧ name ≠ "sig") ∧
      ∀ name ∈ spec.required, name ≠ "correlation-ref" ∧ name ≠ "sig" := by
  unfold kindSpec at known
  split at known
  all_goals
    cases known
    try (constructor <;> decide)

end Envelope

namespace Twins

variable {ext : External} {first second : Value}

section

variable {key : String} {one other : Members}

theorem containsKey (same : uncorrelated one = uncorrelated other) {name : String}
    (plain : name ≠ "correlation-ref" ∧ name ≠ "sig") : other.containsKey name = one.containsKey name := by
  unfold Members.containsKey
  rw [get_eq same plain]

/-- A check that every reference and every signature passes is passed by both. -/
theorem forEach_eq (same : uncorrelated one = uncorrelated other) (known : Correlated key one)
    (known' : Correlated key other) {check : String × Value → Result Unit}
    (reference : ∀ text : String, text.utf8ByteSize ≤ Envelope.correlationRefMax →
      check ("correlation-ref", .string text) = .ok ())
    (signature : ∀ text : String, check ("sig", sigOf key text) = .ok ()) :
    forEach check other = forEach check one := by
  rw [← known.forEach reference signature, ← known'.forEach reference signature, same]

theorem validateMembers_eq (same : uncorrelated one = uncorrelated other) (known : Correlated key one)
    (known' : Correlated key other) (sig : one.containsKey "sig" = true) (sig' : other.containsKey "sig" = true)
    {kind : String} {spec : Envelope.KindSpec} (isSpec : Envelope.kindSpec kind = some spec) :
    Envelope.validateMembers kind other spec = Envelope.validateMembers kind one spec := by
  obtain ⟨forbidden, required⟩ := Envelope.kindSpec_plain isSpec
  unfold Envelope.validateMembers
  congr 1
  · apply forEach_congr
    intro name member
    rw [containsKey same (forbidden name member)]
  · funext _
    congr 1
    · unfold Members.keys
      rw [forEach_map, forEach_map]
      apply forEach_eq same known known'
      · intro text _
        exact require_eq_ok.mpr (.inr (.inr (.inr (show "correlation-ref" ∈ Envelope.commonOptional by decide))))
      · intro text
        exact require_eq_ok.mpr (.inl (show "sig" ∈ Envelope.common by decide))
    · funext _
      apply forEach_congr
      intro name member
      by_cases isSig : name = "sig"
      · subst isSig
        rw [sig, sig']
      · have plain : name ≠ "correlation-ref" ∧ name ≠ "sig" := by
          refine ⟨?_, isSig⟩
          rcases List.mem_append.mp member with common | inSpec
          · intro is
            subst is
            exact absurd common (by decide)
          · exact (required name inSpec).1
        rw [containsKey same plain]

theorem checkNumbers_eq (same : uncorrelated one = uncorrelated other) (known : Correlated key one)
    (known' : Correlated key other) :
    Envelope.checkNumbers ext (.object other) "" = Envelope.checkNumbers ext (.object one) "" := by
  rw [Envelope.checkNumbers, Envelope.checkNumbers, Correlated.checkNumbers_forEach,
    Correlated.checkNumbers_forEach]
  apply forEach_eq same known known'
  · exact fun text _ => Correlated.checkNumbers_string
  · intro text
    unfold sigOf
    rw [Envelope.checkNumbers, Envelope.checkMembers, Envelope.checkMembers, Envelope.checkMembers,
      Envelope.checkMembers, Correlated.checkNumbers_string, Correlated.checkNumbers_string,
      Correlated.checkNumbers_string]
    rfl

theorem validateDigests_eq (same : uncorrelated one = uncorrelated other) :
    Envelope.validateDigests other = Envelope.validateDigests one := by
  unfold Envelope.validateDigests
  rw [get_eq same (show "trigger" ≠ _ ∧ "trigger" ≠ _ by decide),
    get_eq same (show "sample-hashes" ≠ _ ∧ "sample-hashes" ≠ _ by decide)]
  congr 1
  · apply forEach_congr
    have plain : ∀ path ∈ ["mandate-ref", "prev-hash"], path ≠ "correlation-ref" ∧ path ≠ "sig" := by decide
    intro path member
    rw [get_eq same (plain path member)]
  · funext _
    congr 1
    apply forEach_congr
    have plain : ∀ path ∈ [("execution", "args-hash"), ("evidence", "payload-hash"), ("signal", "payload-hash")],
        path.1 ≠ "correlation-ref" ∧ path.1 ≠ "sig" := by decide
    intro path member
    dsimp only
    rw [get_eq same (plain path member)]

theorem validateTimestamps_eq (same : uncorrelated one = uncorrelated other) :
    Envelope.validateTimestamps other = Envelope.validateTimestamps one := by
  unfold Envelope.validateTimestamps
  rw [get_eq same (show "emitted-at" ≠ _ ∧ "emitted-at" ≠ _ by decide)]
  congr 1
  funext _
  apply forEach_congr
  have plain : ∀ path ∈ [("execution", "started-at"), ("execution", "finished-at"), ("evidence", "retain-until"),
      ("window", "from"), ("window", "to"), ("signal", "received-at"), ("signal", "retain-until")],
      path.1 ≠ "correlation-ref" ∧ path.1 ≠ "sig" := by decide
  intro path member
  dsimp only
  rw [get_eq same (plain path member)]

/-- A correlation reference of a known envelope is one. -/
theorem validateCorrelation_ok {members : Members} (known : Correlated key members) :
    Envelope.whenPresent (members.get "correlation-ref") Envelope.validateCorrelation = .ok () := by
  cases found : members.get "correlation-ref" with
  | none => rfl
  | some value =>
      obtain ⟨text, rfl, small⟩ := known.reference value (Envelope.mem_of_get found)
      exact require_eq_ok.mpr small

end

/-- The structural checks say the same of both. -/
theorem validate (twins : Twins ext first second) : Envelope.validate ext second = Envelope.validate ext first := by
  have sigKey := twins.sigKey
  obtain ⟨key, one, other, rfl, rfl, same, known, known'⟩ := twins.members
  obtain ⟨_, signed, signed'⟩ := twins.signed
  have get : ∀ name, name ≠ "correlation-ref" ∧ name ≠ "sig" → Members.get other name = Members.get one name :=
    fun name plain => get_eq same plain
  have subObjects : forEach Envelope.validateSubObject other = forEach Envelope.validateSubObject one :=
    forEach_eq same known known' (fun _ _ => rfl) (fun _ => rfl)
  have position : Envelope.validatePosition other = Envelope.validatePosition one := by
    unfold Envelope.validatePosition
    rw [get "stream" (by decide), get "seq" (by decide), get "prev-hash" (by decide)]
  have identity : Envelope.validateIdentity other = Envelope.validateIdentity one := by
    have sigKey : ((Members.get other "sig").getD .null).getStr "key" =
      ((Members.get one "sig").getD .null).getStr "key" := sigKey
    unfold Envelope.validateIdentity
    rw [get "identity" (by decide), sigKey]
  have counts : ∀ kind, Envelope.validateCounts kind other = Envelope.validateCounts kind one := by
    intro kind
    unfold Envelope.validateCounts
    rw [get "classification" (by decide), get "counts" (by decide), get "sample-hashes" (by decide)]
  unfold Envelope.validate
  show (Except.ok other >>= _) = (Except.ok one >>= _)
  rw [ok_bind, ok_bind, get "v" (by decide), get "kind" (by decide), get "classification" (by decide),
    get "execution" (by decide), subObjects, checkNumbers_eq same known known', validateDigests_eq same,
    validateTimestamps_eq same, position, identity]
  refine bind_congr_ok fun _ _ => bind_congr_ok fun _ _ => bind_congr_ok fun _ _ => bind_congr_ok fun _ _ => ?_
  refine bind_congr_ok fun kind _ => bind_congr_ok fun spec isSpec => ?_
  rw [validateMembers_eq same known known' (sig_of_verified signed) (sig_of_verified signed') (okOr_eq_ok.mp isSpec),
    counts, validateCorrelation_ok known, validateCorrelation_ok known']

theorem writeMembers_isOk {members : Members} :
    isOk (Jcs.writeMembers members) = true ↔ ∀ member ∈ members, isOk (Jcs.writeValue member.2) = true := by
  induction members with
  | nil => simp [Jcs.writeMembers]
  | cons first rest ih =>
      obtain ⟨name, value⟩ := first
      rw [List.forall_mem_cons, ← ih, Jcs.writeMembers]
      cases Jcs.writeValue value with
      | error refusal => simp
      | ok written =>
          cases Jcs.writeMembers rest with
          | error refusal => simp
          | ok others => simp [pure, Except.pure]

/-- A signed envelope has a canonical form. -/
theorem canonical {key : String} {members : Members} {signer : KeyId} (known : Correlated key members)
    (signed : Signed.verifySignedObject ext (.object members) = .ok signer) :
    ∃ form, Jcs.canonicalize (.object members) = .ok form := by
  unfold Signed.verifySignedObject at signed
  simp only [bind_eq_ok] at signed
  obtain ⟨_, _, _, _, _, _, message, written, _⟩ := signed
  have rest : isOk (Jcs.writeMembers (members.filter fun member => member.1 != "sig")) = true := by
    unfold Signed.signingInput Jcs.canonicalize at written
    simp only [Value.asObject, okOr, ok_bind, bind_eq_ok, Jcs.writeValue] at written
    obtain ⟨_, ⟨others, done, _⟩, _⟩ := written
    rw [done]
    rfl
  have all : isOk (Jcs.writeMembers members) = true := by
    rw [writeMembers_isOk] at rest ⊢
    intro member inside
    by_cases isSig : member.1 = "sig"
    · obtain ⟨name, value⟩ := member
      cases isSig
      obtain ⟨text, rfl⟩ := known.signature value inside
      rfl
    · exact rest member (List.mem_filter.mpr ⟨inside, bne_iff_ne.mpr isSig⟩)
  obtain ⟨others, done⟩ := isOk_iff.mp all
  refine ⟨{ tree := .object others }, ?_⟩
  unfold Jcs.canonicalize
  rw [Jcs.writeValue, done]
  rfl

end Twins

end Stozher
