import Stozher.JcsText

namespace Stozher.JsonText

open Library Library.Text

def isSpace (c : Char) : Bool :=
  c == ' ' || c == '\t' || c == '\n' || c == '\r'

def skipSpace (text : List Char) : List Char :=
  text.dropWhile isSpace

def isDigit (c : Char) : Bool :=
  '0' ≤ c && c ≤ '9'

def decimal (digits : List Char) : Nat :=
  digits.foldl (fun value c => value * 10 + (c.toNat - 48)) 0

def hexDigit (c : Char) : Option Nat :=
  if isDigit c then some (c.toNat - 48)
  else if 'a' ≤ c && c ≤ 'f' then some (c.toNat - 87)
  else if 'A' ≤ c && c ≤ 'F' then some (c.toNat - 55)
  else none

/-- The code unit of four hexadecimal digits. -/
def hexUnit : List Char → Option (Nat × List Char)
  | a :: b :: c :: d :: rest => do
      let a ← hexDigit a
      let b ← hexDigit b
      let c ← hexDigit c
      let d ← hexDigit d
      return (((a * 16 + b) * 16 + c) * 16 + d, rest)
  | _ => none

def isHigh (unit : Nat) : Bool :=
  0xd800 ≤ unit && unit ≤ 0xdbff

def isLow (unit : Nat) : Bool :=
  0xdc00 ≤ unit && unit ≤ 0xdfff

/-- What follows a backslash in the short escapes. -/
def escaped (c : Char) : Option Char :=
  match c with
  | '"' => some '"'
  | '\\' => some '\\'
  | '/' => some '/'
  | 'b' => some (Char.ofNat 0x08)
  | 'f' => some (Char.ofNat 0x0c)
  | 'n' => some '\n'
  | 'r' => some '\r'
  | 't' => some '\t'
  | _ => none

/-- The low surrogate that has to follow a high one. -/
def lowUnit (text : List Char) : Option (Nat × List Char) := do
  let '\\' :: 'u' :: rest := text | none
  let (unit, rest) ← hexUnit rest
  if isLow unit then some (unit, rest) else none

/-- One character of a string, as it is spelled. -/
def readChar : List Char → Option (Char × List Char)
  | [] => none
  | '\\' :: 'u' :: rest => do
      let (unit, rest) ← hexUnit rest
      if isHigh unit then
        let (low, rest) ← lowUnit rest
        some (Char.ofNat (0x10000 + (unit - 0xd800) * 0x400 + (low - 0xdc00)), rest)
      else if isLow unit then none
      else some (Char.ofNat unit, rest)
  | '\\' :: c :: rest => (escaped c).map (·, rest)
  | c :: rest => if c == '"' || c == '\\' || decide (c.toNat < 0x20) then none else some (c, rest)

/-- The characters of a string up to its closing quote. -/
def readChars : Nat → List Char → Option (List Char × List Char)
  | 0, _ => none
  | fuel + 1, text => do
      if text.head? = some '"' then some ([], text.drop 1)
      else
        let (c, rest) ← readChar text
        let (more, rest) ← readChars fuel rest
        some (c :: more, rest)

/-- A string, from behind its opening quote. -/
def readString (text : List Char) : Option (String × List Char) := do
  let (characters, rest) ← readChars (text.length + 1) text
  return (String.ofList characters, rest)

/-- The digits of a fraction, where there is one. -/
def readFraction (text : List Char) : Option (List Char × List Char) :=
  if text.head? = some '.' then
    let digits := (text.drop 1).takeWhile isDigit
    if digits = [] then none else some (digits, (text.drop 1).drop digits.length)
  else some ([], text)

/-- An exponent, where there is one, as it is spelled. -/
def readExponent (text : List Char) : Option (List Char × List Char) :=
  if text.head? = some 'e' ∨ text.head? = some 'E' then
    let sign := (text.drop 1).take (if (text.drop 1).head? = some '+' ∨ (text.drop 1).head? = some '-' then 1 else 0)
    let digits := ((text.drop 1).drop sign.length).takeWhile isDigit
    if digits = [] then none else some (sign ++ digits, ((text.drop 1).drop sign.length).drop digits.length)
  else some ([], text)

/-- A number as the reader keeps it: a whole one in a machine word where it fits, any other as the nearest binary64. -/
def numberOf (nearest : List Char → Binary64) (token : List Char) (negative : Bool) (digits : List Char)
    (whole : Bool) : Number :=
  if fits : whole = true ∧ negative = true ∧ 0 < decimal digits ∧ decimal digits ≤ 2 ^ 63 then
    .negInt (-(decimal digits : Int)) (by omega)
  else if fits : whole = true ∧ negative = false ∧ decimal digits < 2 ^ 64 then .posInt (decimal digits) fits.2.2
  else .float (nearest token)

def readNumber (nearest : List Char → Binary64) (text : List Char) : Option (Number × List Char) := do
  let negative := text.head? == some '-'
  let unsigned := text.drop (if negative then 1 else 0)
  let run := unsigned.takeWhile isDigit
  let digits := if run.head? = some '0' then ['0'] else run
  if digits = [] then none
  let (fraction, rest) ← readFraction (unsigned.drop digits.length)
  let (exponent, rest) ← readExponent rest
  let token := text.take (text.length - rest.length)
  return (numberOf nearest token negative digits (fraction.isEmpty && exponent.isEmpty), rest)

def stripWord (word text : List Char) : Option (List Char) :=
  if word.isPrefixOf text then some (text.drop word.length) else none

mutual

def readValue (nearest : List Char → Binary64) : Nat → List Char → Option (Value × List Char)
  | 0, _ => none
  | fuel + 1, text =>
      match text with
      | 'n' :: _ => (stripWord "null".toList text).map (Value.null, ·)
      | 't' :: _ => (stripWord "true".toList text).map (Value.bool true, ·)
      | 'f' :: _ => (stripWord "false".toList text).map (Value.bool false, ·)
      | '"' :: rest => (readString rest).map fun (s, rest) => (.string s, rest)
      | '[' :: rest =>
          if (skipSpace rest).head? = some ']' then some (.array [], (skipSpace rest).drop 1)
          else (readItems nearest fuel (skipSpace rest)).map fun (items, rest) => (.array items, rest)
      | '\x7b' :: rest =>
          if (skipSpace rest).head? = some '\x7d' then some (.object [], (skipSpace rest).drop 1)
          else (readMembers nearest fuel (skipSpace rest)).map fun (members, rest) => (.object members, rest)
      | text => (readNumber nearest text).map fun (n, rest) => (.number n, rest)

/-- The items of an array up to its closing bracket. -/
def readItems (nearest : List Char → Binary64) : Nat → List Char → Option (List Value × List Char)
  | 0, _ => none
  | fuel + 1, text => do
      let (item, rest) ← readValue nearest fuel text
      match skipSpace rest with
      | ',' :: rest =>
          let (items, rest) ← readItems nearest fuel (skipSpace rest)
          some (item :: items, rest)
      | ']' :: rest => some ([item], rest)
      | _ => none

def readMember (nearest : List Char → Binary64) : Nat → List Char → Option ((String × Value) × List Char)
  | 0, _ => none
  | fuel + 1, text => do
      let '"' :: rest := text | none
      let (name, rest) ← readString rest
      let ':' :: rest := skipSpace rest | none
      let (value, rest) ← readValue nearest fuel (skipSpace rest)
      some ((name, value), rest)

/-- The members of an object up to its closing brace. -/
def readMembers (nearest : List Char → Binary64) : Nat → List Char → Option (List (String × Value) × List Char)
  | 0, _ => none
  | fuel + 1, text => do
      let (member, rest) ← readMember nearest fuel text
      match skipSpace rest with
      | ',' :: rest =>
          let (members, rest) ← readMembers nearest fuel (skipSpace rest)
          some (member :: members, rest)
      | '\x7d' :: rest => some ([member], rest)
      | _ => none

end

/-- The value a JSON text stands for, where it is one. -/
def read (nearest : List Char → Binary64) (text : String) : Option Value := do
  let (value, rest) ← readValue nearest (2 * text.toList.length + 1) (skipSpace text.toList)
  if skipSpace rest = [] then some value else none

end Stozher.JsonText
