import Stozher.Error
import Stozher.Json
import Stozher.Library.Checked

namespace Stozher.Jcs

open Library

/-- The canonical form of a value, as the tree its RFC 8785 text writes: equal trees are equal texts,
and reading the text back gives the tree. -/
structure Canonical where
  tree : Value
  deriving DecidableEq

def canonicalNumber (n : Number) : Result Number := do
  let f := n.asF64
  require f.isFinite (err "jcs-non-finite-number" "the number is not finite")
  return Number.ofCanonical f

mutual

def writeValue : Value → Result Value
  | .null => .ok .null
  | .bool b => .ok (.bool b)
  | .number n => do return .number (← canonicalNumber n)
  | .string s => .ok (.string s)
  | .array items => do return .array (← writeItems items)
  | .object members => do return .object (← writeMembers members)

def writeItems : List Value → Result (List Value)
  | [] => .ok []
  | item :: rest => do
      let item ← writeValue item
      let rest ← writeItems rest
      return item :: rest

def writeMembers : List (String × Value) → Result (List (String × Value))
  | [] => .ok []
  | (name, value) :: rest => do
      let value ← writeValue value
      let rest ← writeMembers rest
      return (name, value) :: rest

end

def canonicalize (value : Value) : Result Canonical := do
  return { tree := ← writeValue value }

end Stozher.Jcs
