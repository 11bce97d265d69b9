import Stozher.JcsText

namespace Stozher.Jcs.Text

open Library Library.Text

/-- What the parser takes from the JSON library: the tree of a text, with every member as it is written, or a message;
and where in the text a visitor's own message is said to be. -/
structure Reader where
  fromStr : String → Except String Value
  located : String → String → String

def duplicateMarker : String := "stozher-duplicate-member"

mutual

/-- The visitor of a parsed text. Its map keeps the names in order, and a repeated name is its error. -/
def strict : Value → Except String Value
  | .null => .ok .null
  | .bool b => .ok (.bool b)
  | .number (.float bits) => do
      require bits.isFinite "non-finite number"
      return .number (.float bits)
  | .number n => .ok (.number n)
  | .string s => .ok (.string s)
  | .array items => do return .array (← strictItems items)
  | .object members => do return .object (← strictMembers [] members)

def strictItems : List Value → Except String (List Value)
  | [] => .ok []
  | item :: rest => do
      let item ← strict item
      let rest ← strictItems rest
      return item :: rest

def strictMembers (map : Members) : List (String × Value) → Except String Members
  | [] => .ok map
  | (key, value) :: rest => do
      let value ← strict value
      require (map.containsKey key = false) s!"{duplicateMarker}: {key}"
      strictMembers (map.insert key value) rest

end

/-- `u32::from_str_radix(_, 16)` on four octets, where a sign may stand first. -/
def fromRadix16 (digits : List UInt8) : Option Nat :=
  let unsigned := if digits.head? = some 0x2b then digits.drop 1 else digits
  if unsigned.all isAsciiHexDigit then
    some (unsigned.foldl (fun code b => code * 16 +
      (if isAsciiDigit b then b.toNat - 0x30 else if isAsciiLowercase b then b.toNat - 0x57 else b.toNat - 0x37)) 0)
  else none

/-- An octet outside ASCII is no hex digit, so where a character begins does not matter. -/
def hexAt (bytes : List UInt8) : Option Nat :=
  if bytes.length < 4 then none else fromRadix16 (bytes.take 4)

def isHigh (code : Nat) : Bool :=
  0xd800 ≤ code && code ≤ 0xdbff

def isLow (code : Nat) : Bool :=
  0xdc00 ≤ code && code ≤ 0xdfff

/-- The scan from an octet on: how many octets are passed over, and whether a string is open. -/
def scanEscapes (skipped : Nat) (inString : Bool) : List UInt8 → Bool
  | [] => false
  | b :: rest =>
      if 0 < skipped then scanEscapes (skipped - 1) inString rest
      else if !inString then scanEscapes 0 (b == 0x22) rest
      else if b == 0x22 then scanEscapes 0 false rest
      else if b == 0x5c then
        if rest.head? = some 0x75 then
          match hexAt (rest.drop 1) with
          | some code =>
              if isHigh code then
                if (rest.drop 5).take 2 = [0x5c, 0x75] ∧ (hexAt (rest.drop 7)).any isLow = true then
                  scanEscapes 11 true rest
                else true
              else if isLow code then true
              else scanEscapes 5 true rest
          | none => scanEscapes 1 true rest
        else scanEscapes 1 true rest
      else scanEscapes 0 true rest

def hasLoneSurrogateEscape (text : String) : Bool :=
  scanEscapes 0 false (octets text)

/-- `jcs::parse`. The visitor runs on the tree, so a text that both repeats a member and is malformed behind it is
malformed here. -/
def parse (reader : Reader) (text : String) : Result Value :=
  match (reader.fromStr text).bind fun tree => (strict tree).mapError (reader.located text) with
  | .ok value => .ok value
  | .error message =>
      if message.toList.tails.any duplicateMarker.toList.isPrefixOf then .error (err "jcs-duplicate-key" message)
      else if hasLoneSurrogateEscape text then .error (err "jcs-lone-surrogate" message)
      else .error (err "jcs-malformed-json" message)

example : hasLoneSurrogateEscape "\x7b\"a\":\"\\ud83d\\ude0a\"\x7d" = false ∧
    hasLoneSurrogateEscape "\x7b\"a\":\"\\ud83d\"\x7d" = true ∧ hasLoneSurrogateEscape "\x7b\"a\":\"\\udc00\"\x7d" = true ∧
    hasLoneSurrogateEscape "\x7b\"a\":\"\\\\ud800\"\x7d" = false := by decide +kernel

end Stozher.Jcs.Text
