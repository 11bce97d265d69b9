import Stozher.Library.Text

namespace Stozher

open Library

/-- A refusal: the normative code, the text for a human, and the chain position where one is known. -/
structure Error where
  code : String
  detail : String
  seq : Option Nat
  deriving DecidableEq

abbrev Result := Except Error

def err (code detail : String) : Error :=
  { code, detail, seq := none }

def Error.atSeq (error : Error) (seq : Nat) : Error :=
  { error with seq := some seq }

/-- A text between quotes, as `{:?}` writes it. -/
def debug (text : String) : String :=
  let escaped := text.toList.flatMap fun c =>
    if c = '"' then ['\\', '"']
    else if c = '\\' then ['\\', '\\']
    else if c = '\n' then ['\\', 'n']
    else if c = '\r' then ['\\', 'r']
    else if c = '\t' then ['\\', 't']
    else [c]
  String.ofList ('"' :: escaped ++ ['"'])

def debugOption : Option String → String
  | some text => "Some(" ++ debug text ++ ")"
  | none => "None"

end Stozher
