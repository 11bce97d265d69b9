import Stozher.Crypto

namespace Stozher.Value

variable (ext : External)

mutual

/-- The compact JSON text that `{}` writes. -/
def display : Value → String
  | null => "null"
  | bool b => if b then "true" else "false"
  | number n => n.display ext
  | string s => Stozher.debug s
  | array items => "[" ++ displayItems items ++ "]"
  | object members => "\x7b" ++ displayMembers members ++ "\x7d"

def displayItems : List Value → String
  | [] => ""
  | [item] => display item
  | item :: rest => display item ++ "," ++ displayItems rest

def displayMembers : List (String × Value) → String
  | [] => ""
  | [(name, item)] => Stozher.debug name ++ ":" ++ display item
  | (name, item) :: rest => Stozher.debug name ++ ":" ++ display item ++ "," ++ displayMembers rest

end

mutual

/-- The text that `{:?}` writes. -/
def debug : Value → String
  | null => "Null"
  | bool b => if b then "Bool(true)" else "Bool(false)"
  | number n => "Number(" ++ n.display ext ++ ")"
  | string s => "String(" ++ Stozher.debug s ++ ")"
  | array items => "Array [" ++ debugItems items ++ "]"
  | object members => "Object \x7b" ++ debugMembers members ++ "\x7d"

def debugItems : List Value → String
  | [] => ""
  | [item] => debug item
  | item :: rest => debug item ++ ", " ++ debugItems rest

def debugMembers : List (String × Value) → String
  | [] => ""
  | [(name, item)] => Stozher.debug name ++ ": " ++ debug item
  | (name, item) :: rest => Stozher.debug name ++ ": " ++ debug item ++ ", " ++ debugMembers rest

end

end Stozher.Value
