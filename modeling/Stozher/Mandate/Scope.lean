import Stozher.Decimal
import Stozher.Envelope

namespace Stozher.Mandate

open Library Library.Text

structure MandateRequest where
  component : String
  action : String
  classification : String
  resource : String
  deriving DecidableEq

def dimensions : List String := ["components", "actions", "classes", "resources"]

/-- Whether a scope pattern covers a value: exact, `*`, or a trailing `.*`. -/
def matchesPattern (pattern value : String) : Bool :=
  if pattern == "*" || pattern == value then true
  else
    match stripSuffix pattern ".*" with
    | some stem =>
        decide (stem.utf8ByteSize + 1 < value.utf8ByteSize) && startsWith value stem
          && (octets value)[stem.utf8ByteSize]? == some 0x2e
    | none => false

def coversPattern (parent child : String) : Bool :=
  if parent == "*" || parent == child then true
  else
    match stripSuffix parent ".*" with
    | some parentStem =>
        match stripSuffix child ".*" with
        | some childStem =>
            childStem == parentStem
              || (decide (parentStem.utf8ByteSize < childStem.utf8ByteSize)
                && startsWith childStem parentStem
                && (octets childStem)[parentStem.utf8ByteSize]? == some 0x2e)
        | none => matchesPattern parent child
    | none => false

def patterns (scope : Value) (dimension : String) : Result (List String) := do
  let list ← okOr ((scope.get dimension).bind Value.asArray)
    (err "schema-missing-member" s!"scope.{dimension}")
  mapChecked (fun p : Value => okOr p.asStr
    (err "scope-bad-pattern" s!"scope.{dimension} holds a non-string")) list

def dimensionPermits (scope : Value) (dimension value : String) : Result Bool := do
  return (← patterns scope dimension).any (matchesPattern · value)

def scopePermits (scope : Value) (request : MandateRequest) : Result Bool :=
  everyChecked (fun (dimension, value) => dimensionPermits scope dimension value)
    [("components", request.component), ("actions", request.action),
      ("classes", request.classification), ("resources", request.resource)]

def scopeSubset (child parent : Value) : Result Bool :=
  everyChecked (fun dimension => do
    let parentPatterns ← patterns parent dimension
    let childPatterns ← patterns child dimension
    return childPatterns.all fun c => parentPatterns.any (coversPattern · c)) dimensions

def validateScope (scope : Value) : Result Unit :=
  forEach (fun dimension => do
    forEach (fun pattern => do
      let bare := (stripSuffix pattern ".*").getD pattern
      require (pattern = "*" ∨ contains bare '*' = false) (err "scope-bad-pattern"
        s!"scope.{dimension} pattern {debug pattern} uses an unsupported wildcard")
      require (dimension = "classes" → pattern = "*" ∨ pattern ∈ Envelope.classes)
        (err "scope-bad-pattern"
          s!"scope.classes holds {debug pattern}, which is not a weight class"))
      (← patterns scope dimension)) dimensions

/-- Whether the child's cap in one of the parent's dimensions is within the parent's. -/
def capWithin (child : Members) (entry : String × Value) : Result Bool :=
  let (dimension, parentValue) := entry
  match child.get dimension with
  | none => .ok true
  | some childValue =>
      match childValue, parentValue with
      | .number c, .number p =>
          match c.asI64, p.asI64 with
          | some c, some p => .ok (decide (c ≤ p))
          | _, _ => .error (err "schema-type-mismatch" ("budget." ++ dimension ++
              " must be an integer; fractional and monetary quantities are decimal strings " ++
              "(spec 01 section 2.5)"))
      | .string c, .string p => Decimal.atMost c p
      | _, _ => .error (err "schema-type-mismatch" s!"budget.{dimension} type mismatch")

def budgetWithin (child parent : Option Value) : Result Bool :=
  match parent.bind Value.asObject, child.bind Value.asObject with
  | some parent, some child => everyChecked (capWithin child) parent
  | _, _ => .ok true

end Stozher.Mandate
