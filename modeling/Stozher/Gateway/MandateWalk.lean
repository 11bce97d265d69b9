import Stozher.Gateway.Push
import Stozher.Gateway.Structure
import Stozher.Mandate.Walk

namespace Stozher.Gateway.MandateWalk

open Library Stozher.Mandate

/-- An accepted walk. The human is whatever the root mandate says it is. -/
structure MandateOk where
  humanRoot : Value
  rootKey : String
  depth : Nat

/-- `str(value)` -/
def str (ext : External) (value : Value) : String :=
  match value with
  | .string s => s
  | other => other.display ext

section Access

/-- `object[name]` -/
def item (object : Value) (name : String) : Result Value :=
  match object with
  | .object members => okOr (Members.get members name) (err "KeyError" name)
  | _ => .error (err "TypeError" s!"the value has no member {name}")

/-- `object.get(name)`, with `None` for what is missing or null. -/
def lookup (object : Value) (name : String) : Result Value :=
  match object with
  | .object members => .ok ((Members.get members name).getD .null)
  | _ => .error (err "AttributeError" "the value has no get()")

/-- `object.get(name, default)` -/
def lookupOr (object : Value) (name : String) (default : Value) : Result Value :=
  match object with
  | .object members => .ok ((Members.get members name).getD default)
  | _ => .error (err "AttributeError" "the value has no get()")

/-- `for item in value` -/
def iterate (value : Value) : Result (List Value) :=
  match value with
  | .array items => .ok items
  | .object members => .ok (members.map fun member => .string member.1)
  | .string s => .ok (s.toList.map fun c => .string (String.ofList [c]))
  | _ => .error (err "TypeError" "the value is not iterable")

/-- A value compared with `<` or `<=` to a text. -/
def text (value : Value) : Result String :=
  okOr value.asStr (err "TypeError" "the value does not compare with a str")

/-- `any(test(item) for item in items)` -/
def anyOf {α : Type} (test : α → Result Bool) : List α → Result Bool
  | [] => .ok false
  | first :: rest => do
      if ← test first then return true
      anyOf test rest

/-- A float without its fraction. -/
def truncated (bits : Binary64) : Int :=
  let exponent := bits.exponentBits
  let significand := if exponent = 0 then bits.fractionBits else 2 ^ 52 + bits.fractionBits
  let magnitude := if 1075 ≤ exponent then significand * 2 ^ (exponent - 1075)
    else significand / 2 ^ (1075 - exponent)
  if bits.isNegative then -magnitude else magnitude

/-- `int(value)`, where `readInt` says what it reads in a text. -/
def int (readInt : String → Option Int) (value : Value) : Result Int :=
  match value with
  | .bool b => .ok b.toNat
  | .number (.posInt n _) => .ok n
  | .number (.negInt i _) => .ok i
  | .number (.float bits) =>
      if bits.isFinite then .ok (truncated bits) else .error (err "ValueError" "the float is not finite")
  | .string s => okOr (readInt s) (err "ValueError" s!"invalid literal for int(): {s}")
  | _ => .error (err "TypeError" "int() argument must be a string or a number")

end Access

section Money

def maxLen : Nat := 32

/-- The digits of a monetary value, read as one number, and how many of them follow the point. -/
def parse (value : Value) : Result (Nat × Nat) := do
  let s ← okOr value.asStr (err "MoneyFormatError" "a monetary value must be a string")
  let chars := s.toList
  require (chars ≠ [] ∧ chars.length ≤ maxLen)
    (err "MoneyFormatError" s!"a monetary value must be 1 to {maxLen} characters")
  let integer := chars.takeWhile Structure.isDigit
  let fraction := (chars.drop integer.length).drop 1
  require (integer ≠ [] ∧ (chars.drop integer.length = [] ∨ ((chars.drop integer.length).head? = some '.' ∧
      fraction ≠ [] ∧ fraction.all Structure.isDigit = true)))
    (err "MoneyFormatError" ("\"" ++ s ++ "\" is not a decimal string: the form is digits, optionally a point " ++
      "and more digits — no sign, no exponent, no whitespace"))
  return (Structure.number (integer ++ fraction), fraction.length)

def atMost (left right : Value) : Result Bool := do
  let (a, scaleA) ← parse left
  let (b, scaleB) ← parse right
  return decide (a * 10 ^ scaleB ≤ b * 10 ^ scaleA)

end Money

section Scope

/-- `pattern.endswith(".*")`, with `pattern[:-1]` where it does. -/
def dotted (pattern : Value) : Result (Option String) := do
  let pattern ← okOr pattern.asStr (err "AttributeError" "the value has no endswith()")
  return (Text.stripSuffix pattern ".*").map (· ++ ".")

def patternMatches (value : String) (pattern : Value) : Result Bool := do
  if pattern.asStr = some "*" then return true
  match ← dotted pattern with
  | some start => return Text.startsWith value start
  | none => return pattern.asStr == some value

def matchesAny (patterns : Value) (value : String) : Result Bool := do
  anyOf (patternMatches value) (← iterate patterns)

def dimensionPermits (scope : Value) (dimension value : String) : Result Bool := do
  matchesAny (← lookupOr scope dimension (.array [])) value

def scopePermits (scope : Value) (request : MandateRequest) : Result Bool :=
  everyChecked (fun (dimension, value) => dimensionPermits scope dimension value)
    [("components", request.component), ("actions", request.action),
      ("classes", request.classification), ("resources", request.resource)]

/-- Whether one pattern permits everything another does. -/
def covers (narrower wider : Value) : Result Bool := do
  if wider.asStr = some "*" then return true
  if narrower.asStr = some "*" then return false
  match ← dotted wider with
  | some start => do
      let narrower ← okOr narrower.asStr (err "AttributeError" "the value has no startswith()")
      return Text.startsWith narrower start
  | none => return Structure.equal wider narrower

def requireSubset (ext : External) (child parent : Value) : Result Unit :=
  forEach (fun dimension => do
    forEach (fun pattern => do
      let covered ← anyOf (covers pattern) (← iterate (← lookupOr parent dimension (.array [])))
      require covered (err "mandate-scope-widened" s!"{dimension}: {str ext pattern}"))
      (← iterate (← lookupOr child dimension (.array [])))) dimensions

end Scope

section Budget

/-- `name in container` -/
def holds (container : Value) (name : String) : Result Bool :=
  match container with
  | .object members => .ok (Members.containsKey members name)
  | .array items => .ok (items.any fun item => item.asStr == some name)
  | .string s => .ok (s.toList.tails.any fun rest => name.toList.isPrefixOf rest)
  | _ => .error (err "TypeError" "the value is not a container")

/-- What a cap counts as: a truth value is a whole number here. -/
def capOf : Value → Option Int
  | .bool b => some b.toNat
  | value => Structure.asInt value

def exceeds (dimension : String) (value cap : Value) : Result Bool :=
  if cap.isString || value.isString then
    (return !(← atMost value cap)).mapError fun e : Error =>
      err "schema-type-mismatch" s!"budget.{dimension}: {e.detail}"
  else do
    let mismatch := err "schema-type-mismatch" s!"budget.{dimension} must be an integer or a decimal string"
    let value ← okOr (Structure.asInt value) mismatch
    let cap ← okOr (capOf cap) mismatch
    return decide (cap < value)

def requireBudgetWithin (child parent : Value) : Result Unit :=
  if KernelResponse.truthy child && KernelResponse.truthy parent then do
    let caps ← okOr parent.asObject (err "AttributeError" "the value has no items()")
    forEach (fun (dimension, cap) => do
      if ← holds child dimension then
        let exceeded ← exceeds dimension (← item child dimension) cap
        require (exceeded = false) (err "mandate-budget-exceeds-parent" dimension)) caps
  else .ok ()

end Budget

variable (ext : External) (readInt : String → Option Int)

/-- What a walk is given besides the mandates and the leaf. -/
structure WalkParams where
  request : Option MandateRequest
  resourceOnly : Option String
  at_ : String
  subjectKey : String
  roots : List String
  revocations : List Value
  maxDepth : Nat

/-- A revocation that verifies, as its target and its instant. -/
def revocationInstant (revocation : Value) : Option (String × String) := do
  let _ ← (Signed.verifySignedObject ext revocation).toOption
  let target ← revocation.getStr "revokes"
  let at_ ← revocation.getStr "revoked-at"
  return (target, at_)

/-- The earliest valid revocation of each mandate. -/
def revocationInstants (revocations : List Value) : RevocationIndex :=
  (revocations.filterMap (revocationInstant ext)).foldl recordRevocation fun _ => none

def checkExpiry (mandate : Value) : Result Unit := do
  let notAfter ← lookup mandate "not-after"
  if KernelResponse.truthy notAfter then return ()
  else throw (err "mandate-missing-expiry" (← Signed.objectId ext mandate))

def checkWindow (mandate : Value) (at_ : String) : Result Unit := do
  let notBefore ← text (← item mandate "not-before")
  require (notBefore ≤ at_) (err "mandate-not-yet-valid" notBefore)
  let notAfter ← text (← item mandate "not-after")
  require (at_ ≤ notAfter) (err "mandate-expired" notAfter)

def checkInstant (revokedAt : RevocationIndex) (id at_ : String) : Result Unit :=
  match revokedAt id with
  | some revoked => require (¬ revoked ≤ at_) (err "mandate-revoked" revoked)
  | none => .ok ()

def checkRequest (mandate : Value) : Option MandateRequest → Result Unit
  | some request => do
      let permitted ← scopePermits (← item mandate "scope") request
      require permitted (err "mandate-scope-not-permitted" request.action)
  | none => .ok ()

def checkResource (mandate : Value) : Option String → Result Unit
  | some resource => do
      let permitted ← dimensionPermits (← item mandate "scope") "resources" resource
      require permitted (err "mandate-scope-not-permitted" resource)
  | none => .ok ()

def checkParties (mandate : Value) : Result Unit := do
  let signer ← item (← item mandate "sig") "key"
  let grantor ← item (← item mandate "grantor") "key"
  require (Structure.equal signer grantor) (err "mandate-signer-not-grantor" (str ext signer))
  let grantee ← item (← item mandate "grantee") "key"
  require (Structure.equal grantor grantee = false) (err "mandate-self-grant" (str ext grantor))

def verifyLink (revokedAt : RevocationIndex) (params : WalkParams) (mandate : Value) : Result Unit := do
  require (isOk (Signed.verifySignedObject ext mandate))
    (err "sig-invalid" "the mandate signature does not verify")
  checkParties ext mandate
  checkExpiry ext mandate
  checkWindow mandate params.at_
  checkInstant revokedAt (← Signed.objectId ext mandate) params.at_
  checkRequest mandate params.request
  checkResource mandate params.resourceOnly

/-- The root of a walk. -/
def acceptRoot (params : WalkParams) (mandate : Value) (depth : Nat) : Result MandateOk := do
  let parent ← lookup mandate "parent"
  require parent.isNull (err "mandate-root-has-parent" (str ext parent))
  let grantor ← item mandate "grantor"
  let role ← lookup grantor "role"
  require (role.asStr = some "human") (err "mandate-root-grantor-not-human" (str ext role))
  let key ← item grantor "key"
  require (params.roots.any fun root => key.asStr == some root) (err "mandate-root-not-enrolled" (str ext key))
  let subject ← item grantor "subject"
  return { humanRoot := subject, rootKey := str ext key, depth }

/-- `mandates.get(reference)`, refused where there is none. -/
def resolve (mandates : Members) (reference : Value) : Result Value := do
  require (¬ (reference.asArray.isSome = true ∨ reference.isObject = true)) (err "TypeError" "unhashable type")
  let mandate := (reference.asStr.bind (Members.get mandates)).getD .null
  require (mandate.isNull = false) (err "mandate-unresolved" (str ext reference))
  return mandate

def requireHeld (mandate parent : Value) : Result Unit := do
  let key ← item (← item mandate "grantor") "key"
  let holder ← item (← item parent "grantee") "key"
  require (Structure.equal key holder) (err "mandate-delegation-not-held" (str ext key))

def requireDepth (mandate parent : Value) : Result Unit := do
  let most ← int readInt (← lookupOr parent "max-depth" (Value.ofNat 0))
  require (1 ≤ most) (err "mandate-delegation-depth-exceeded" "parent max-depth is 0")
  let own ← int readInt (← lookupOr mandate "max-depth" (Value.ofNat 0))
  require (own ≤ most - 1) (err "mandate-delegation-depth-exceeded" "hop budget did not decrease")

/-- `first <= second`, where one of the two is a text. -/
def ordered (first second : Value) : Result Bool := do
  return decide ((← text first) ≤ (← text second))

/-- `first and second`, the second asked for only where the first holds. -/
def bothHold (first second : Result Bool) : Result Bool := do
  if ← first then second else return false

def requireWindow (mandate parent : Value) : Result Unit := do
  let inside ← bothHold
    (do ordered (← item parent "not-before") (← item mandate "not-before"))
    (do ordered (← item mandate "not-after") (← item parent "not-after"))
  if inside then return () else throw (err "mandate-window-outside-parent" (← Signed.objectId ext mandate))

/-- The parent of a delegated mandate, once the mandate is checked against it. -/
def acceptDelegation (mandates : Members) (mandate : Value) : Result Value := do
  let parentRef ← lookup mandate "parent"
  if parentRef.isNull then throw (err "mandate-delegated-without-parent" (← Signed.objectId ext mandate))
  else do
    let role ← lookup (← item mandate "grantor") "role"
    require (role.asStr = some "agent") (err "mandate-delegated-grantor-not-agent" (str ext parentRef))
    let parent ← resolve ext mandates parentRef
    requireHeld ext mandate parent
    requireDepth readInt mandate parent
    requireSubset ext (← item mandate "scope") (← item parent "scope")
    requireWindow ext mandate parent
    requireBudgetWithin (← lookup mandate "budget") (← lookup parent "budget")
    return parent

/-- The loop, from one mandate up to the root. -/
def walkFrom (mandates : Members) (revokedAt : RevocationIndex) (params : WalkParams) (depth : Nat)
    (mandate : Value) : Result MandateOk := do
  verifyLink ext revokedAt params mandate
  let kind ← lookup mandate "mandate-kind"
  if kind.asStr = some "interactive" ∨ kind.asStr = some "standing" then acceptRoot ext params mandate depth
  else if kind.asStr = some "delegated" then do
    let parent ← acceptDelegation ext readInt mandates mandate
    if depth + 1 ≤ params.maxDepth then walkFrom mandates revokedAt params (depth + 1) parent
    else throw (err "mandate-delegation-depth-exceeded" s!"depth {depth + 1}")
  else throw (err "mandate-kind-unknown" (str ext kind))
termination_by params.maxDepth - depth

def verifyMandateChain (mandates : Members) (mandateRef : String) (params : WalkParams) : Result MandateOk := do
  let mandate ← resolve ext mandates (.string mandateRef)
  let grantee ← lookupOr mandate "grantee" (.object [])
  let key ← lookup grantee "key"
  require (key.asStr = some params.subjectKey) (err "mandate-grantee-key-mismatch" params.subjectKey)
  walkFrom ext readInt mandates (revocationInstants ext params.revocations) params 0 mandate

end Stozher.Gateway.MandateWalk
