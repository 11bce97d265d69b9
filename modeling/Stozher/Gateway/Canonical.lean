import Stozher.JcsText

namespace Stozher.Gateway.Canonical

open Library Library.Text Jcs.Text

/-- What Python code raises here. -/
inductive Raised where
  | recursionError
  | canonicalizationError (error : Error)

/-- A call of a Python function, where so many more frames fit below the interpreter's recursion limit. -/
def call {α : Type} (frames : Nat) (body : Nat → Except Raised α) : Except Raised α :=
  match frames with
  | 0 => .error .recursionError
  | frames + 1 => body frames

def raise {α : Type} (code detail : String) : Except Raised α :=
  .error (.canonicalizationError (err code detail))

def isSurrogate (c : Char) : Bool :=
  0xd800 ≤ c.toNat && c.toNat ≤ 0xdfff

def rejectCharacter (c : Char) : Except Raised Unit :=
  if isSurrogate c then
    raise "jcs-lone-surrogate" ("unpaired surrogate U+" ++ String.ofList ((hexChars 4 c.toNat).map Char.toUpper))
  else .ok ()

mutual

def rejectLoneSurrogates (frames : Nat) : Value → Except Raised Unit
  | .string s => forEach rejectCharacter s.toList
  | .object members => rejectMembers frames members
  | .array items => rejectItems frames items
  | _ => .ok ()

def rejectItems (frames : Nat) : List Value → Except Raised Unit
  | [] => .ok ()
  | item :: rest => do
      call frames fun frames => rejectLoneSurrogates frames item
      rejectItems frames rest

def rejectMembers (frames : Nat) : List (String × Value) → Except Raised Unit
  | [] => .ok ()
  | (name, value) :: rest => do
      call frames fun _ => forEach rejectCharacter name.toList
      call frames fun frames => rejectLoneSurrogates frames value
      rejectMembers frames rest

end

/-- The characters Python's table of escapes has. -/
def escapes (c : Char) : Option (List Char) :=
  match c.toNat with
  | 0x22 => some "\\\"".toList
  | 0x5c => some "\\\\".toList
  | 0x08 => some "\\b".toList
  | 0x09 => some "\\t".toList
  | 0x0a => some "\\n".toList
  | 0x0c => some "\\f".toList
  | 0x0d => some "\\r".toList
  | _ => none

def stringCharacter (c : Char) : List Char :=
  match escapes c with
  | some escape => escape
  | none => if c.toNat < 0x20 then "\\u".toList ++ hexChars 4 c.toNat else [c]

def string_ (value : String) : List Char :=
  "\"".toList ++ value.toList.flatMap stringCharacter ++ "\"".toList

/-- The exponent of a float's text. -/
def matchExponent : List Char → Option Int
  | [] => some 0
  | mark :: rest =>
      let digits := if rest.head? = some '+' ∨ rest.head? = some '-' then rest.drop 1 else rest
      if (mark = 'e' ∨ mark = 'E') ∧ digits ≠ [] ∧ digits.all Char.isDigit then
        let value : Int := Nat.ofDigitChars 10 digits 0
        some (if rest.head? = some '-' then -value else value)
      else none

/-- The integer and fraction digits and the exponent of a float's text. -/
def matchRepr (text : List Char) : Option (List Char × List Char × Int) :=
  let integer := text.takeWhile Char.isDigit
  let rest := text.dropWhile Char.isDigit
  let fraction := if rest.head? = some '.' then (rest.drop 1).takeWhile Char.isDigit else []
  let rest := if fraction = [] then rest else (rest.drop 1).dropWhile Char.isDigit
  if integer = [] then none else (matchExponent rest).map fun exponent => (integer, fraction, exponent)

def stripLeft (digits : List Char) : List Char :=
  digits.dropWhile (· == '0')

def stripRight (digits : List Char) : List Char :=
  (digits.reverse.dropWhile (· == '0')).reverse

def orZero (digits : List Char) : List Char :=
  if digits = [] then ['0'] else digits

variable (repr : Binary64 → String)

/-- The shortest digits of a positive float, and the power of ten they are to be multiplied by. -/
def shortest (value : Binary64) : Except Raised (List Char × Int) :=
  match matchRepr (repr value).toList with
  | none => raise "jcs-non-finite-number" (repr value)
  | some (integer, fraction, exponent) =>
      let digits := orZero (stripLeft (integer ++ fraction))
      let stripped := stripRight digits
      .ok (orZero stripped, exponent - fraction.length + (digits.length - stripped.length : Nat))

/-- The layout of the digits of a number. -/
def layout (digits : List Char) (exponent : Int) : List Char :=
  let k : Int := digits.length
  let n := exponent + k
  if k ≤ n ∧ n ≤ 21 then digits ++ List.replicate (n - k).toNat '0'
  else if 0 < n ∧ n ≤ 21 then digits.take n.toNat ++ '.' :: digits.drop n.toNat
  else if -6 < n ∧ n ≤ 0 then "0.".toList ++ List.replicate (-n).toNat '0' ++ digits
  else
    let power := n - 1
    let sign := if 0 ≤ power then '+' else '-'
    let mantissa := if k = 1 then digits else digits.take 1 ++ '.' :: digits.drop 1
    mantissa ++ 'e' :: sign :: (toString power.natAbs).toList

/-- The value without its sign. -/
def negated (value : Binary64) : Binary64 :=
  BitVec.ofNat 64 (value.toNat % 2 ^ 63)

def writeNumber (frames : Nat) (value : Binary64) : Except Raised (List Char) := do
  if value.isFinite = false then raise "jcs-non-finite-number" (repr value)
  else if value.isZero then return ['0']
  else
    let sign := if value.isNegative then ['-'] else []
    let (digits, exponent) ← call frames fun _ =>
      shortest repr (if value.isNegative then negated value else value)
    return sign ++ layout digits exponent

def writeMember (frames : Nat) (member : String × Except Raised (List Char)) : Except Raised (List Char) := do
  let name ← call frames fun _ => Except.ok (string_ member.1)
  return name ++ ':' :: (← member.2)

mutual

def write (frames : Nat) : Value → Except Raised (List Char)
  | .null => .ok "null".toList
  | .bool true => .ok "true".toList
  | .bool false => .ok "false".toList
  | .string s => call frames fun _ => .ok (string_ s)
  | .number n => call frames fun frames => writeNumber repr frames n.asF64
  | .array items => do return '[' :: separated (← mapChecked id (writeItems frames items)) ++ [']']
  | .object members => do
      -- each name is keyed before any member is written
      forEach (fun _ => call frames fun _ => .ok ()) members
      let sorted := sortBy (fun member => encodeUtf16be member.1) (writeMembers frames members)
      return '\x7b' :: separated (← mapChecked (writeMember frames) sorted) ++ ['\x7d']

def writeItems (frames : Nat) : List Value → List (Except Raised (List Char))
  | [] => []
  | item :: rest => (call frames fun frames => write frames item) :: writeItems frames rest

def writeMembers (frames : Nat) : List (String × Value) → List (String × Except Raised (List Char))
  | [] => []
  | (name, value) :: rest => (name, call frames fun frames => write frames value) :: writeMembers frames rest

end

def tooDeep : Error :=
  err "jcs-malformed-json" "nesting exceeds what this canonicalizer can represent"

def canonicalize (frames : Nat) (value : Value) : Result String :=
  let text := do
    call frames fun frames => rejectLoneSurrogates frames value
    call frames fun frames => write repr frames value
  match text with
  | .ok text => .ok (String.ofList text)
  | .error .recursionError => .error tooDeep
  | .error (.canonicalizationError error) => .error error

def canonicalizeBytes (frames : Nat) (value : Value) : Result (List UInt8) := do
  return octets (← canonicalize repr frames value)

end Stozher.Gateway.Canonical
