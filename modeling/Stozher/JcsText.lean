import Stozher.Crypto
import Stozher.Library.FixedWidth
import Stozher.Library.Utf16

namespace Stozher.Jcs.Text

open Library Library.Text

variable (ext : External) (formatFinite : Binary64 → String)

def writeChar (c : Char) : List Char :=
  match c.toNat with
  | 0x22 => "\\\"".toList
  | 0x5c => "\\\\".toList
  | 0x08 => "\\b".toList
  | 0x09 => "\\t".toList
  | 0x0a => "\\n".toList
  | 0x0c => "\\f".toList
  | 0x0d => "\\r".toList
  | code => if code < 0x20 then "\\u".toList ++ hexChars 4 code else [c]

def writeString (s : String) : List Char :=
  "\"".toList ++ s.toList.flatMap writeChar ++ "\"".toList

/-- A number as ECMAScript writes its binary64 value. -/
def numberToString (n : Number) : Result (List Char) := do
  let f := n.asF64
  require f.isFinite (err "jcs-non-finite-number" s!"number {n.display ext} is not finite")
  if f.isZero then return "0".toList
  return (formatFinite f).toList

/-- Texts one after the other, with a comma between. -/
def separated (parts : List (List Char)) : List Char :=
  [','].intercalate parts

def writeMember (member : String × Result (List Char)) : Result (List Char) := do
  return writeString member.1 ++ ':' :: (← member.2)

/-- The members in the order of their names' UTF-16 code units. -/
def sortedKeys (members : List (String × Result (List Char))) : List (String × Result (List Char)) :=
  sortBy (fun member => encodeUtf16 member.1) members

mutual

def writeValue : Value → Result (List Char)
  | .null => .ok "null".toList
  | .bool true => .ok "true".toList
  | .bool false => .ok "false".toList
  | .number n => numberToString ext formatFinite n
  | .string s => .ok (writeString s)
  | .array items => do return '[' :: separated (← mapChecked id (writeItems items)) ++ [']']
  | .object members => do
      return '\x7b' :: separated (← mapChecked writeMember (sortedKeys (writeMembers members))) ++ ['\x7d']

def writeItems : List Value → List (Result (List Char))
  | [] => []
  | item :: rest => writeValue item :: writeItems rest

def writeMembers : List (String × Value) → List (String × Result (List Char))
  | [] => []
  | (name, value) :: rest => (name, writeValue value) :: writeMembers rest

end

/-- The RFC 8785 text of a value. -/
def canonicalize (value : Value) : Result String := do
  return String.ofList (← writeValue ext formatFinite value)

end Stozher.Jcs.Text
