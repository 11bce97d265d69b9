import Stozher.Jcs

namespace Stozher

open Library Library.Text

namespace Crypto

def isDigestHex (s : String) : Bool :=
  s.utf8ByteSize == 64 && (octets s).all isLowerHexDigit

/-- Checks for `2 * n` lowercase hex digits. The octets are kept as the digits that name them. -/
def decodeHex (n : Nat) (s : String) : Result String := do
  require (s.utf8ByteSize = n * 2 ∧ (octets s).all isLowerHexDigit = true)
    (err "encoding-not-lowercase-hex" s!"expected {n * 2} lowercase hex digits, got {debug s}")
  return s

end Crypto

/-- What is hashed, signed or posted: the text of a canonical form, or any other octets. -/
inductive Octets where
  | canonical (form : Jcs.Canonical)
  | other (bytes : List UInt8)
  deriving DecidableEq

namespace KeyId

def keyIdPrefix : String := "ed25519:"

def isWellFormed (s : String) : Bool :=
  s.utf8ByteSize == 72 && startsWith s keyIdPrefix && ((octets s).drop 8).all isLowerHexDigit

end KeyId

structure KeyId where
  text : String
  wellFormed : KeyId.isWellFormed text = true
  deriving DecidableEq

namespace KeyId

def parse (s : String) : Result KeyId :=
  if s.utf8ByteSize ≠ 72 ∨ startsWith s keyIdPrefix = false then
    .error (err "key-id-malformed" s!"{debug s} is not an ed25519 key identifier")
  else if ok : isWellFormed s = true then .ok { text := s, wellFormed := ok }
  else .error (err "key-id-malformed" s!"{debug s} does not carry 64 lowercase hex digits")

theorem parse_text {s : String} {key : KeyId} (parsed : parse s = .ok key) : key.text = s := by
  unfold parse at parsed
  split at parsed
  · cases parsed
  · split at parsed
    · cases parsed
      rfl
    · cases parsed

theorem parse_self (key : KeyId) : parse key.text = .ok key := by
  have ok := key.wellFormed
  unfold parse
  rw [if_neg, dif_pos ok]
  simp only [isWellFormed, Bool.and_eq_true, beq_iff_eq] at ok
  simp [ok.1.1, ok.1.2]

end KeyId

/-- What the program takes from other crates: SHA-256, strict Ed25519 verification, JSON parsing
and the text of a float. -/
structure External where
  sha256Hex : Octets → String
  verifyStrict : KeyId → Octets → String → Bool
  parse : List UInt8 → Result Value
  parseLenient : List UInt8 → Option Value
  floatText : Binary64 → String

namespace External

variable (ext : External)

/-- Parses a request body. The text of a canonical form reads back as the form's tree. -/
def parseOctets : Octets → Result Value
  | .canonical form => .ok form.tree
  | .other bytes => ext.parse bytes

/-- Parses without refusing duplicate members. -/
def parseLenientOctets : Octets → Option Value
  | .canonical form => some form.tree
  | .other bytes => ext.parseLenient bytes

end External

def Number.display (ext : External) : Number → String
  | .posInt n _ => toString n
  | .negInt i _ => toString i
  | .float bits => ext.floatText bits

namespace Jcs

variable (ext : External)

def objectHash (value : Value) : Result String := do
  return ext.sha256Hex (.canonical (← canonicalize value))

end Jcs

end Stozher
