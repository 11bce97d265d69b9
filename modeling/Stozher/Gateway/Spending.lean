import Mathlib.Data.List.Dedup
import Mathlib.Data.List.Sort
import Stozher.Budget
import Stozher.Gateway.MandateWalk
import Stozher.Library.FixedWidth

namespace Stozher.Gateway.Spending

open Library MandateWalk

/-- `f"{total:.{scale}f}"` of a total counted in units of its scale, or `str(total)` of a whole one. -/
def rendered (units scale : Nat) : String :=
  if scale = 0 then toString units
  else toString (units / 10 ^ scale) ++ "." ++ String.ofList (Text.fixedDigits scale units)

/-- `money.add` -/
def add (left right : Value) : Result String := do
  let (a, scaleA) ← parse left
  let (b, scaleB) ← parse right
  let scale := max scaleA scaleB
  let total := rendered (a * 10 ^ (scale - scaleA) + b * 10 ^ (scale - scaleB)) scale
  require (total.length ≤ maxLen) (err "MoneyFormatError" ("the sum of " ++ (left.asStr.getD "") ++ " and " ++
    (right.asStr.getD "") ++ " exceeds " ++ toString maxLen ++ " characters"))
  return total

/-- A cap as a decimal string. Integers are decimals of scale zero. -/
def asDecimal (value : Value) : Result String :=
  match value with
  | .number (.posInt n _) => .ok (toString n)
  | .number (.negInt i _) => .ok (toString i)
  | .string s => .ok s
  | _ => .error (err "MoneyFormatError" "a budget cap must be an integer or a decimal string")

variable (ext : External)

/-- What a mandate would come to in a dimension, with what is being added to it there. -/
def wouldHold (spent : Members) (adding : Budget.Amounts) (dimension : String) : Result String :=
  let held := MandateWalk.str ext ((Members.get spent dimension).getD (.string "0"))
  match adding.lookup dimension with
  | some added => add (.string held) (.string added)
  | none => .ok held

/-- Whether a cap leaves no room, or cannot be read. -/
def exceeds (spent : Members) (adding : Budget.Amounts) (entry : String × Value) : Bool :=
  let (dimension, cap) := entry
  let within_ := do
    let total ← wouldHold ext spent adding dimension
    atMost (.string total) (.string (← asDecimal cap))
  match within_ with
  | .ok fits => !fits
  | .error _ => true

/-- The dimensions one mandate of a chain has no room in. -/
def exceededOf (adding : Budget.Amounts) (entry : Value) : List String :=
  if KernelResponse.truthy ((entry.get "resolved").getD .null) then
    let caps := ((entry.get "budget").bind Value.asObject).getD []
    let spent := ((entry.get "spent").bind Value.asObject).getD []
    (caps.filter (exceeds ext spent adding)).map Prod.fst
  else []

/-- The dimensions on which there is no room anywhere in the chain, sorted and each named once. -/
def exceededDimensions (chain : List Value) (adding : Budget.Amounts) : List String :=
  (chain.flatMap (exceededOf ext adding)).dedup.insertionSort (· ≤ ·)

end Stozher.Gateway.Spending
