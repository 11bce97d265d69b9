import Stozher.Decimal
import Stozher.Json

namespace Stozher.Budget

open Library Library.Text

/-- Amounts by dimension, each dimension once. -/
abbrev Amounts := List (String × String)

def costDimensions : List String := ["tokens-in", "tokens-out", "wall-clock-seconds"]

/-- Sets one dimension, replacing what it held. -/
def insert (amounts : Amounts) (dimension amount : String) : Amounts :=
  (dimension, amount) :: amounts.filter fun entry => entry.1 != dimension

/-- The text of an amount: a decimal string, or an integer that fits. -/
def amountOf (value : Value) : Option String :=
  match value with
  | .string s => some s
  | .number n => n.asI64.map toString
  | _ => none

def addCost (amounts : Amounts) (entry : String × Value) : Amounts :=
  let (dimension, value) := entry
  if dimension ∈ costDimensions ∨ startsWith dimension "money-" = true then
    match amountOf value with
    | some amount => insert amounts dimension amount
    | none => amounts
  else amounts

def accrualOf (envelope : Value) : Amounts :=
  let amounts := if envelope.getStr "kind" = some "effect" ∧
      (envelope.index "execution").getStr "outcome" = some "applied" then [("requests", "1")] else []
  (((envelope.get "cost").bind Value.asObject).getD []).foldl addCost amounts

/-- Whether adding to what is held passes the limit, or cannot be told. -/
def exceeds (accrued adding : Amounts) (entry : String × Value) : Bool :=
  let (dimension, limit) := entry
  match adding.lookup dimension with
  | none => false
  | some added =>
      match amountOf limit with
      | none => true
      | some limit =>
          match Decimal.add ((accrued.lookup dimension).getD "0") added with
          | .error _ => true
          | .ok total =>
              match Decimal.atMost total limit with
              | .ok within => !within
              | .error _ => true

def wouldExceed (cap : Value) (accrued adding : Amounts) : List String :=
  ((cap.asObject.getD []).filter (exceeds accrued adding)).map Prod.fst

end Stozher.Budget
