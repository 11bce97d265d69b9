import Stozher.Clock
import Stozher.Display

namespace Stozher

/-- What `{}` writes of an error. -/
def Error.text (error : Error) : String :=
  match error.seq with
  | some seq => s!"{error.code} at seq {seq}: {error.detail}"
  | none => s!"{error.code}: {error.detail}"

namespace PolicyBundle

open Library

variable (ext : External)

def bundleVersion : Nat := 1

def defaultBundleMaxAge : String := "P7D"

/-- A file named on the command line, and what reading it as JSON gives. -/
structure File where
  path : String
  json : Except String Value

/-- What the command is given: its files, the age it declares, the deployment's clock, and the key it signs with. -/
structure Arguments where
  policy : File
  revocations : Option File
  anchor : Option File
  maxAge : Option String
  now : Except String String
  key : Except String Signed.SigningKey

/-- What is written, and until when it may be enforced. -/
structure Exported where
  canonical : Jcs.Canonical
  expiresAt : String

def checkRevocation (path : String) (revocation : Value) : Except String Unit := do
  let _ ← (Signed.verifySignedObject ext revocation).mapError fun e =>
    s!"{path} carries a revocation that does not verify: {e.text}"
  require ((revocation.index "revokes").isString ∧ (revocation.index "revoked-at").isString)
    s!"{path} carries a revocation missing revokes/revoked-at"

/-- The revocations of a file, each checked, or why the file cannot be exported. -/
def revocationSet (path : String) (document : Value) : Except String (List Value) := do
  let listed ← okOr document.asArray s!"{path} must be a JSON array of revocation objects"
  forEach (checkRevocation ext path) listed
  return listed

def checkPolicy (path : String) (policy : Value) : Except String Unit := do
  require (policy.index "kind" = .string "policy")
    (s!"{path} is not a policy document (kind " ++ (policy.index "kind").display ext ++ ")")
  let _ ← (Signed.verifySignedObject ext policy).mapError fun e =>
    s!"{path} does not verify as a signed policy: {e.text}"
  return ()

def listedRevocations : Option File → Except String (List Value)
  | none => .ok []
  | some file => do revocationSet ext file.path (← file.json)

/-- An anchor is always a member, and null where none was exported. -/
def anchorOf : Option File → Except String Value
  | none => .ok .null
  | some file => file.json

def checkMaxAge (maxAge : String) : Except String Unit := do
  let seconds ← (Clock.parseDurationSeconds maxAge).mapError fun e => "-" ++ s!"-max-age {maxAge}: {e.text}"
  require (0 < seconds) ("-" ++ s!"-max-age must be a positive duration; {maxAge} expires on export")

def body (policy : Value) (revocations : List Value) (anchor : Value) (maxAge now : String) : Value :=
  .object [
    ("anchor", anchor),
    ("bundle-version", .nat bundleVersion),
    ("exported-at", .string now),
    ("kind", .string "policy-bundle"),
    ("max-age", .string maxAge),
    ("policy", policy),
    ("revocations", .array revocations),
    ("v", .string "stozher/0.1")]

/-- `policy export-bundle`. -/
def policyExportBundle (arguments : Arguments) : Except String Exported := do
  let policy ← arguments.policy.json
  checkPolicy ext arguments.policy.path policy
  let revocations ← listedRevocations ext arguments.revocations
  let anchor ← anchorOf arguments.anchor
  let maxAge := arguments.maxAge.getD defaultBundleMaxAge
  checkMaxAge maxAge
  let now ← arguments.now
  let expiresAt ← (Clock.addDuration now maxAge).mapError fun e => s!"max-age {maxAge} from {now}: {e.text}"
  let key ← arguments.key
  let canonical ← (Signed.signObject key (body policy revocations anchor maxAge now) >>= Jcs.canonicalize).mapError
    fun e => s!"signing: {e.text}"
  return { canonical, expiresAt }

/-- What a bundle is exported of. -/
structure Contents where
  policy : Value
  revocations : List Value
  anchor : Value
  maxAge : String
  now : String

/-- What a bundle was exported of, once it was. -/
structure Exports (contents : Contents) (seconds : Int) (key : Signed.SigningKey) (exported : Exported) : Prop where
  policy : (∃ signer, Signed.verifySignedObject ext contents.policy = .ok signer) ∧
    contents.policy.getStr "kind" = some "policy"
  revocations : ∀ revocation ∈ contents.revocations, (∃ signer, Signed.verifySignedObject ext revocation = .ok signer) ∧
    (revocation.getStr "revokes").isSome = true ∧ (revocation.getStr "revoked-at").isSome = true
  age : Clock.parseDurationSeconds contents.maxAge = .ok seconds ∧ 0 < seconds
  expires : Clock.shift contents.now seconds = .ok exported.expiresAt
  signed : ∃ signed, Signed.signObject key (body contents.policy contents.revocations contents.anchor contents.maxAge
    contents.now) = .ok signed ∧ Jcs.canonicalize signed = .ok exported.canonical

variable {ext}

theorem index_isString {value : Value} {name : String} : (value.index name).isString = (value.getStr name).isSome := by
  rw [← Value.index_asStr]
  cases value.index name <;> rfl

theorem revocationSet_eq_ok {path : String} {document : Value} {listed : List Value}
    (checked : revocationSet ext path document = .ok listed) : document = .array listed ∧
      ∀ revocation ∈ listed, (∃ signer, Signed.verifySignedObject ext revocation = .ok signer) ∧
        (revocation.getStr "revokes").isSome = true ∧ (revocation.getStr "revoked-at").isSome = true := by
  unfold revocationSet at checked
  simp only [bind_eq_ok, okOr_eq_ok, pure_eq_ok] at checked
  obtain ⟨_, isArray, _, each, rfl⟩ := checked
  constructor
  · cases document with
    | array items => rw [Option.some.inj isArray]
    | _ => cases isArray
  · intro revocation member
    have one := forEach_eq_ok.mp each revocation member
    unfold checkRevocation at one
    simp only [bind_eq_ok, mapError_eq_ok, require_eq_ok, index_isString] at one
    obtain ⟨signer, verified, strings⟩ := one
    exact ⟨⟨signer, verified⟩, strings⟩

theorem listedRevocations_eq_ok {file : Option File} {listed : List Value}
    (checked : listedRevocations ext file = .ok listed) : ∀ revocation ∈ listed,
      (∃ signer, Signed.verifySignedObject ext revocation = .ok signer) ∧
        (revocation.getStr "revokes").isSome = true ∧ (revocation.getStr "revoked-at").isSome = true := by
  cases file with
  | none =>
      cases checked
      exact fun revocation none => absurd none List.not_mem_nil
  | some file =>
      obtain ⟨document, _, set⟩ := bind_eq_ok.mp checked
      exact (revocationSet_eq_ok set).2

/-- Whatever is exported was checked first. -/
theorem policyExportBundle_eq_ok {arguments : Arguments} {exported : Exported}
    (done : policyExportBundle ext arguments = .ok exported) : ∃ contents seconds key,
      arguments.policy.json = .ok contents.policy ∧ listedRevocations ext arguments.revocations = .ok contents.revocations ∧
        anchorOf arguments.anchor = .ok contents.anchor ∧ arguments.maxAge.getD defaultBundleMaxAge = contents.maxAge ∧
        arguments.now = .ok contents.now ∧ arguments.key = .ok key ∧ Exports ext contents seconds key exported := by
  unfold policyExportBundle at done
  simp only [bind_eq_ok, mapError_eq_ok, pure_eq_ok] at done
  obtain ⟨policy, read, _, isPolicy, revocations, listed, anchor, anchored, _, aged, now, clock, expiresAt, expires,
    key, held, canonical, ⟨signed, signs, written⟩, rfl⟩ := done
  unfold checkPolicy at isPolicy
  unfold checkMaxAge at aged
  unfold Clock.addDuration at expires
  simp only [bind_eq_ok, mapError_eq_ok, require_eq_ok] at isPolicy aged expires
  obtain ⟨_, kind, signer, verified, _⟩ := isPolicy
  obtain ⟨seconds, parsed, positive⟩ := aged
  obtain ⟨again, parsed', expires⟩ := expires
  rw [parsed] at parsed'
  cases parsed'
  refine ⟨{ policy, revocations, anchor, maxAge := arguments.maxAge.getD defaultBundleMaxAge, now }, seconds, key,
    read, listed, anchored, rfl, clock, held, ?_⟩
  constructor
  · refine ⟨⟨signer, verified⟩, ?_⟩
    rw [← Value.index_asStr, kind]
    rfl
  · exact listedRevocations_eq_ok listed
  · exact ⟨parsed, positive⟩
  · exact expires
  · exact ⟨signed, signs, written⟩

end PolicyBundle

end Stozher
