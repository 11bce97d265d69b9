import Stozher.Admission
import Stozher.CanonicalText
import Stozher.Deployment
import Stozher.Gateway.Structure
import Stozher.Library.Ascii

namespace Stozher.Gateway.Structure

open Library Library.Text

variable {ext : External}

section Patterns

/-- The ASCII characters of a class, and the class of their octets. -/
structure Matches (class_ : Char → Bool) (octetClass : UInt8 → Bool) : Prop where
  ascii : ∀ c, class_ c = true → c.toNat < 128
  octet : ∀ c, class_ c = true → octetClass (octetOf c) = true

theorem matches_of {class_ : Char → Bool} {octetClass : UInt8 → Bool} (bound : ∀ c, class_ c = true → c ≤ 'z')
    (each : ∀ n < 128, class_ (Char.ofNat n) = true → octetClass (octetOf (Char.ofNat n)) = true) :
    Matches class_ octetClass := by
  have ascii : ∀ c, class_ c = true → c.toNat < 128 := by
    intro c inside
    have below := char_le_iff.mp (bound c inside)
    have top : 'z'.toNat = 122 := rfl
    omega
  refine ⟨ascii, fun c inside => ?_⟩
  exact @ascii_induction (fun c => class_ c = true → octetClass (octetOf c) = true) each c (ascii c inside) inside

theorem digit_le {c : Char} (digit : isDigit c = true) : c ≤ '9' := by
  unfold isDigit at digit
  rw [Bool.and_eq_true, decide_eq_true_iff, decide_eq_true_iff] at digit
  exact digit.2

theorem digits_match : Matches isDigit isAsciiDigit := by
  apply matches_of
  · intro c digit
    exact (digit_le digit).trans (by decide)
  · decide

theorem lowerHex_match : Matches isLowerHex isLowerHexDigit := by
  apply matches_of
  · intro c inside
    unfold isLowerHex at inside
    rw [Bool.or_eq_true, Bool.and_eq_true, decide_eq_true_iff, decide_eq_true_iff] at inside
    rcases inside with digit | letter
    · exact (digit_le digit).trans (by decide)
    · exact letter.2.trans (by decide)
  · decide

theorem streamChar_match : Matches isStreamChar
    (fun b => isAsciiAlphanumeric b || b == 0x2e || b == 0x5f || b == 0x3a || b == 0x2d) := by
  apply matches_of
  · intro c inside
    unfold isStreamChar isLetter at inside
    simp only [Bool.or_eq_true, Bool.and_eq_true, decide_eq_true_iff, beq_iff_eq] at inside
    rcases inside with ((((letter | digit) | rfl) | rfl) | rfl) | rfl
    · rcases letter with upper | lower
      · exact upper.2.trans (by decide)
      · exact lower.2
    · exact (digit_le digit).trans (by decide)
    · decide
    · decide
    · decide
    · decide
  · decide

theorem Matches.all {class_ : Char → Bool} {octetClass : UInt8 → Bool} (same : Matches class_ octetClass) {s : String}
    (inside : s.toList.all class_ = true) :
    octets s = s.toList.map octetOf ∧ (octets s).all octetClass = true := by
  rw [List.all_eq_true] at inside
  have written := octets_of_ascii fun c member => same.ascii c (inside c member)
  refine ⟨written, ?_⟩
  rw [written, List.all_eq_true]
  intro b member
  obtain ⟨c, held, rfl⟩ := List.mem_map.mp member
  exact same.octet c (inside c held)

/-- What the gateway takes for a digest the kernel does. -/
theorem isDigestHex_of_hex64 {s : String} (hex : isHex64 s.toList = true) : Crypto.isDigestHex s = true := by
  unfold isHex64 at hex
  rw [Bool.and_eq_true, beq_iff_eq] at hex
  obtain ⟨written, digits⟩ := lowerHex_match.all hex.2
  unfold Crypto.isDigestHex
  rw [Bool.and_eq_true, beq_iff_eq, utf8ByteSize_eq]
  refine ⟨?_, digits⟩
  rw [written, List.length_map]
  exact hex.1

theorem validateStreamId_of_stream {s : String} (stream : isStream s = true) :
    Envelope.validateStreamId s = .ok () := by
  unfold isStream at stream
  simp only [Bool.and_eq_true, decide_eq_true_iff] at stream
  obtain ⟨written, inside⟩ := streamChar_match.all stream.2
  unfold Envelope.validateStreamId
  rw [require_eq_ok, utf8ByteSize_eq]
  have length : (octets s).length = s.toList.length := by
    rw [written, List.length_map]
  rw [length]
  exact ⟨by omega, stream.1.2, inside⟩

theorem ofList_drop {s start : String} (begins : start.toList <+: s.toList) :
    s = start ++ String.ofList (s.toList.drop start.toList.length) := by
  obtain ⟨rest, split⟩ := begins
  apply String.toList_injective
  rw [String.toList_append, String.toList_ofList, ← split, List.drop_left]

theorem parse_of_keyId {s : String} (named : isKeyId s = true) : ∃ key, KeyId.parse s = .ok key := by
  unfold isKeyId at named
  rw [Bool.and_eq_true, List.isPrefixOf_iff_prefix] at named
  have split : s = KeyId.keyIdPrefix ++ String.ofList (s.toList.drop 8) := ofList_drop named.1
  have hex : isHex64 (String.ofList (s.toList.drop 8)).toList = true := by
    rw [String.toList_ofList]
    exact named.2
  generalize String.ofList (s.toList.drop 8) = rest at split hex
  subst split
  have digest := isDigestHex_of_hex64 hex
  unfold Crypto.isDigestHex at digest
  rw [Bool.and_eq_true, beq_iff_eq, utf8ByteSize_eq] at digest
  have eight : (octets KeyId.keyIdPrefix).length = 8 := by decide +kernel
  have size : (KeyId.keyIdPrefix ++ rest).utf8ByteSize = 72 := by
    rw [utf8ByteSize_eq, octets_append, List.length_append, eight, digest.1]
  have begins : startsWith (KeyId.keyIdPrefix ++ rest) KeyId.keyIdPrefix = true := startsWith_iff.mpr ⟨rest, rfl⟩
  have wellFormed : KeyId.isWellFormed (KeyId.keyIdPrefix ++ rest) = true := by
    unfold KeyId.isWellFormed
    rw [size, begins, octets_append, ← eight, List.drop_left, digest.2]
    rfl
  unfold KeyId.parse
  rw [if_neg (by rw [size, begins]; simp), dif_pos wellFormed]
  exact ⟨_, rfl⟩

theorem lowercase_match : Matches (fun c => decide ('a' ≤ c) && decide (c ≤ 'z')) isAsciiLowercase := by
  apply matches_of
  · intro c inside
    rw [Bool.and_eq_true, decide_eq_true_iff, decide_eq_true_iff] at inside
    exact inside.2
  · decide

theorem currency_of_money {name : String} (money : isMoney name = true) :
    ∃ currency, stripPrefix name "money-" = some currency ∧ currency.utf8ByteSize = 3 ∧
      (octets currency).all isAsciiLowercase = true := by
  unfold isMoney at money
  rw [Bool.and_eq_true, Bool.and_eq_true, List.isPrefixOf_iff_prefix, beq_iff_eq] at money
  have split : name = "money-" ++ String.ofList (name.toList.drop 6) := ofList_drop money.1.1
  have rest : (String.ofList (name.toList.drop 6)).toList = name.toList.drop 6 := String.toList_ofList
  refine ⟨_, stripPrefix_eq_some.mpr split, ?_⟩
  have inside := money.2
  rw [← rest] at inside
  obtain ⟨written, letters⟩ := lowercase_match.all inside
  refine ⟨?_, letters⟩
  rw [utf8ByteSize_eq, written, List.length_map, rest, List.length_drop, money.1.2]

end Patterns

section Timestamps

theorem spells_getElem {form : List (Char → Bool)} {text : List Char} (spelled : spells form text = true)
    {i : Nat} {class_ : Char → Bool} (place : form[i]? = some class_) :
    ∃ c, text[i]? = some c ∧ class_ c = true := by
  induction form generalizing text i with
  | nil => cases place
  | cons first form ih =>
      cases text with
      | nil => cases spelled
      | cons c text =>
          unfold spells at spelled
          rw [Bool.and_eq_true] at spelled
          cases i with
          | zero =>
              cases place
              exact ⟨c, rfl, spelled.1⟩
          | succ i => exact ih spelled.2 place

theorem spells_length {form : List (Char → Bool)} {text : List Char} (spelled : spells form text = true) :
    text.length = form.length := by
  induction form generalizing text with
  | nil =>
      cases text with
      | nil => rfl
      | cons => cases spelled
  | cons first form ih =>
      cases text with
      | nil => cases spelled
      | cons c text =>
          unfold spells at spelled
          rw [Bool.and_eq_true] at spelled
          rw [List.length_cons, List.length_cons, ih spelled.2]

theorem spells_field {form : List (Char → Bool)} {text : List Char} (spelled : spells form text = true)
    (start stop : Nat) : spells ((form.take stop).drop start) ((text.take stop).drop start) = true := by
  induction form generalizing text start stop with
  | nil =>
      cases text with
      | nil => simp [spells]
      | cons => cases spelled
  | cons first form ih =>
      cases text with
      | nil => cases spelled
      | cons c text =>
          unfold spells at spelled
          rw [Bool.and_eq_true] at spelled
          cases stop with
          | zero => simp [spells]
          | succ stop =>
              cases start with
              | zero =>
                  have rest := ih spelled.2 0 stop
                  rw [List.drop_zero, List.drop_zero] at rest ⊢
                  rw [List.take_succ_cons, List.take_succ_cons]
                  unfold spells
                  rw [spelled.1, rest]
                  rfl
              | succ start => exact ih spelled.2 start stop

theorem spells_digits {n : Nat} {text : List Char} (spelled : spells (List.replicate n isDigit) text = true) :
    ∀ c ∈ text, isDigit c = true := by
  induction n generalizing text with
  | zero =>
      cases text with
      | nil => exact fun c none => absurd none List.not_mem_nil
      | cons => cases spelled
  | succ n ih =>
      cases text with
      | nil => cases spelled
      | cons first text =>
          rw [List.replicate_succ] at spelled
          unfold spells at spelled
          rw [Bool.and_eq_true] at spelled
          intro c member
          rcases List.mem_cons.mp member with rfl | later
          · exact spelled.1
          · exact ih spelled.2 c later

/-- The gateway's reading of a field of a timestamp is the kernel's. -/
theorem field_eq {s : String} (spelled : spells timestampForm s.toList = true)
    (written : octets s = s.toList.map octetOf) {start stop n : Nat}
    (digits : (timestampForm.take stop).drop start = List.replicate n isDigit) :
    (((octets s).take stop).drop start).all isAsciiDigit = true ∧
      decimalValue (((octets s).take stop).drop start) = number ((s.toList.take stop).drop start) := by
  have inside := spells_field spelled start stop
  rw [digits] at inside
  have all := spells_digits inside
  have same : ((octets s).take stop).drop start = ((s.toList.take stop).drop start).map octetOf := by
    rw [written, ← List.map_take, ← List.map_drop]
  rw [same]
  refine ⟨?_, decimalValue_octetOf fun c member => digits_match.ascii c (all c member)⟩
  rw [List.all_eq_true]
  intro b member
  obtain ⟨c, held, rfl⟩ := List.mem_map.mp member
  exact digits_match.octet c (all c held)

theorem timestampForm_ascii : ∀ class_ ∈ timestampForm, ∀ c, class_ c = true → c.toNat < 128 := by
  have marks : ∀ mark : Char, mark.toNat < 128 → ∀ c, (c == mark) = true → c.toNat < 128 := by
    intro mark ascii c same
    rw [beq_iff_eq.mp same]
    exact ascii
  unfold timestampForm
  simp only [List.forall_mem_cons, List.not_mem_nil, false_implies, implies_true, and_true]
  have digit := digits_match.ascii
  exact ⟨digit, digit, digit, digit, marks '-' (by decide), digit, digit, marks '-' (by decide), digit, digit,
    marks 'T' (by decide), digit, digit, marks ':' (by decide), digit, digit, marks ':' (by decide), digit, digit,
    marks '.' (by decide), digit, digit, digit, marks 'Z' (by decide)⟩

/-- What the gateway takes for a timestamp the kernel does. -/
theorem timestamp_accepted {s : String} (instant : isTimestamp (.string s) = true) : Envelope.isTimestamp s = true := by
  unfold isTimestamp at instant
  rw [Bool.and_eq_true, Bool.and_eq_true] at instant
  obtain ⟨⟨spelled, _⟩, denotes⟩ := instant
  have length := spells_length spelled
  have ascii : ∀ c ∈ s.toList, c.toNat < 128 := by
    intro c member
    obtain ⟨i, inside, rfl⟩ := List.mem_iff_getElem.mp member
    have place : i < timestampForm.length := length ▸ inside
    obtain ⟨d, isThere, known⟩ := spells_getElem spelled (List.getElem?_eq_getElem place)
    rw [List.getElem?_eq_getElem inside, Option.some.injEq] at isThere
    rw [isThere]
    exact timestampForm_ascii _ (List.getElem_mem place) d known
  have written := octets_of_ascii ascii
  have field := fun start stop n digits => @field_eq s spelled written start stop n digits
  have mark : ∀ (i : Nat) (c : Char), timestampForm[i]? = some (· == c) → (octets s)[i]? = some (octetOf c) := by
    intro i c place
    obtain ⟨d, isThere, same⟩ := spells_getElem spelled place
    rw [written, List.getElem?_map, isThere, beq_iff_eq.mp same]
    rfl
  obtain ⟨yearDigits, year⟩ := field 0 4 4 rfl
  obtain ⟨monthDigits, month⟩ := field 5 7 2 rfl
  obtain ⟨dayDigits, day⟩ := field 8 10 2 rfl
  obtain ⟨hourDigits, hour⟩ := field 11 13 2 rfl
  obtain ⟨minuteDigits, minute⟩ := field 14 16 2 rfl
  obtain ⟨secondDigits, second⟩ := field 17 19 2 rfl
  obtain ⟨milliDigits, _⟩ := field 20 23 3 rfl
  have size : (octets s).length = 24 := by
    rw [written, List.length_map, length]
    rfl
  unfold strptime at denotes
  unfold Envelope.isTimestamp
  simp only [Bool.and_eq_true, decide_eq_true_iff, ← year, ← month, ← day, ← hour, ← minute,
    ← second] at denotes
  simp only [Bool.and_eq_true, decide_eq_true_iff, beq_iff_eq, size, yearDigits, monthDigits, dayDigits, hourDigits,
    minuteDigits, secondDigits, milliDigits, mark 4 '-' rfl, mark 7 '-' rfl, mark 10 'T' rfl, mark 13 ':' rfl,
    mark 16 ':' rfl, mark 19 '.' rfl, mark 23 'Z' rfl, denotes]
  decide

end Timestamps

section Numbers

mutual

theorem checkNumbers_iff (value : Value) (path : String) :
    Envelope.checkNumbers ext value path = .ok () ↔ ∀ n ∈ value.numbers, n.isSafe := by
  match value with
  | .null | .bool _ | .string _ =>
      unfold Envelope.checkNumbers Value.numbers
      exact ⟨fun _ _ none => absurd none List.not_mem_nil, fun _ => rfl⟩
  | .number n =>
      unfold Value.numbers
      rw [List.forall_mem_singleton]
      constructor
      · exact Envelope.isSafe_of_checked ext
      · intro safe
        unfold Envelope.checkNumbers
        cases n with
        | posInt n fits =>
            have small : n < 2 ^ 53 := safe
            have below : n < 2 ^ 63 := by omega
            dsimp only [Number.asI64]
            rw [if_pos below, Option.some_or]
            dsimp only
            rw [require_eq_ok]
            unfold Envelope.maxSafeInteger
            omega
        | negInt i fits =>
            have small : -2 ^ 53 < i := safe
            dsimp only [Number.asI64, Option.some_or]
            rw [require_eq_ok]
            unfold Envelope.maxSafeInteger
            omega
        | float => cases safe
  | .array items =>
      unfold Envelope.checkNumbers Value.numbers
      exact checkItems_iff items path 0
  | .object members =>
      unfold Envelope.checkNumbers Value.numbers
      exact checkMembers_iff members path

theorem checkItems_iff (items : List Value) (path : String) (i : Nat) :
    Envelope.checkItems ext items path i = .ok () ↔ ∀ n ∈ Value.itemNumbers items, n.isSafe := by
  match items with
  | [] =>
      unfold Envelope.checkItems Value.itemNumbers
      exact ⟨fun _ _ none => absurd none List.not_mem_nil, fun _ => rfl⟩
  | item :: rest =>
      unfold Envelope.checkItems Value.itemNumbers
      rw [bind_eq_ok, List.forall_mem_append, ← checkNumbers_iff item, ← checkItems_iff rest path (i + 1)]
      exact ⟨fun ⟨_, first, others⟩ => ⟨first, others⟩, fun ⟨first, others⟩ => ⟨(), first, others⟩⟩

theorem checkMembers_iff (members : List (String × Value)) (path : String) :
    Envelope.checkMembers ext members path = .ok () ↔ ∀ n ∈ Value.memberNumbers members, n.isSafe := by
  match members with
  | [] =>
      unfold Envelope.checkMembers Value.memberNumbers
      exact ⟨fun _ _ none => absurd none List.not_mem_nil, fun _ => rfl⟩
  | (name, item) :: rest =>
      unfold Envelope.checkMembers Value.memberNumbers
      rw [bind_eq_ok, List.forall_mem_append, ← checkNumbers_iff item, ← checkMembers_iff rest path]
      exact ⟨fun ⟨_, first, others⟩ => ⟨first, others⟩, fun ⟨first, others⟩ => ⟨(), first, others⟩⟩

end

end Numbers

section Members

theorem nestedSpec_eq (name : String) : nestedSpec name = Envelope.subObjectSpec name := by
  unfold nestedSpec Envelope.subObjectSpec
  split
  all_goals first | rfl | (split <;> first | rfl | contradiction)

theorem mem_keys_of_get {map : Members} {name : String} {value : Value} (found : map.get name = some value) :
    name ∈ map.keys :=
  List.mem_map_of_mem (Envelope.mem_of_get found)

theorem get_of_mem_keys {map : Members} {name : String} (known : name ∈ map.keys) :
    ∃ value, map.get name = some value := by
  obtain ⟨member, inside, same⟩ := List.mem_map.mp known
  unfold Members.get
  cases found : map.find? fun member => member.1 == name with
  | some member => exact ⟨member.2, rfl⟩
  | none =>
      have other := List.find?_eq_none.mp found member inside
      exact absurd (beq_iff_eq.mpr same) other

theorem containsKey_iff {map : Members} {name : String} : map.containsKey name = true ↔ name ∈ map.keys := by
  unfold Members.containsKey
  rw [Option.isSome_iff_exists]
  exact ⟨fun ⟨_, found⟩ => mem_keys_of_get found, get_of_mem_keys⟩

theorem get_of_mem {map : Members} (distinct : map.keys.Nodup) {name : String} {value : Value}
    (member : (name, value) ∈ map) : map.get name = some value := by
  induction map with
  | nil => cases member
  | cons first rest ih =>
      unfold Members.keys at distinct
      rw [List.map_cons, List.nodup_cons] at distinct
      rcases List.mem_cons.mp member with rfl | later
      · exact Members.get_cons_self name value rest
      · obtain ⟨key, item⟩ := first
        have other : key ≠ name := by
          intro same
          apply distinct.1
          rw [same]
          exact List.mem_map.mpr ⟨(name, value), later, rfl⟩
        rw [Members.get_cons_of_ne other]
        exact ih distinct.2 later

end Members

section Values

/-- What a check of the gateway lets through is a digest of the kernel. -/
theorem requireDigest_of_hash {value : Value} {name what : String} (checked : hash value name = .ok ()) :
    Envelope.requireDigest value what = .ok () := by
  unfold hash at checked
  rw [require_eq_ok, Option.any_eq_true] at checked
  obtain ⟨s, text, hex⟩ := checked
  cases value with
  | string other =>
      cases text
      exact Envelope.requireDigest_eq_ok.mpr ⟨s, rfl, isDigestHex_of_hex64 hex⟩
  | _ => cases text

theorem requireTimestamp_of_timestamp {value : Value} {name what : String}
    (checked : timestamp ext value name = .ok ()) : Envelope.requireTimestamp value what = .ok () := by
  unfold timestamp at checked
  rw [require_eq_ok] at checked
  cases value with
  | string s =>
      unfold Envelope.requireTimestamp
      rw [okOr_bind_eq_ok]
      exact ⟨s, rfl, require_eq_ok.mpr (timestamp_accepted checked)⟩
  | _ => cases checked

theorem integer_eq_ok {value : Value} {name : String} {i : Int} :
    integer value name = .ok i ↔ asInt value = some i ∧ i.natAbs ≤ maxSafeInteger := by
  unfold integer
  simp only [okOr_bind_eq_ok, require_bind_eq_ok, pure_eq_ok]
  constructor
  · rintro ⟨n, isInt, small, rfl⟩
    exact ⟨isInt, small⟩
  · intro known
    exact ⟨i, known.1, known.2, rfl⟩

theorem asI64_of_integer {value : Value} {name : String} {i : Int} (checked : integer value name = .ok i) :
    value.asI64 = some i := by
  obtain ⟨isInt, small⟩ := integer_eq_ok.mp checked
  have bound : i.natAbs ≤ 2 ^ 53 - 1 := small
  cases value with
  | number n =>
      cases n with
      | posInt n fits =>
          cases isInt
          have below : n < 2 ^ 63 := by omega
          exact if_pos below
      | negInt j fits => exact isInt
      | float => cases isInt
  | _ => cases isInt

theorem asU64_of_integer {value : Value} {name : String} {i : Int} (checked : integer value name = .ok i)
    (positive : isNoPosition value = false) : ∃ n : Nat, i = n ∧ value.asU64 = some n := by
  have isInt := (integer_eq_ok.mp checked).1
  cases value with
  | number n =>
      cases n with
      | posInt n fits =>
          cases isInt
          exact ⟨n, rfl, rfl⟩
      | negInt => cases positive
      | float => cases isInt
  | _ => cases isInt

end Values

section Accepted

/-- What an envelope the gateway's validator lets through is known to be. -/
structure Accepted (ext : External) (map : Members) (kind : String) (required optional : List String) : Prop where
  version : map.get "v" = some (.string "stozher/0.1")
  hasKind : map.get "kind" = some (.string kind)
  hasKinds : kinds kind = some (required, optional)
  members : members kind map required optional = .ok ()
  texts : strings map ["emitted-at", "stream", "v", "kind"] = .ok ()
  emittedAt : timestamp ext ((map.get "emitted-at").getD .null) "emitted-at" = .ok ()
  position : position map = .ok ()
  nested : ∀ member ∈ map, nested member = .ok ()
  identity : identity ext map = .ok ()
  digests : ∀ name ∈ ["mandate-ref", "revokes", "decision-of"], ∀ value, map.get name = some value →
    hash value name = .ok ()
  classification : ∀ value, map.get "classification" = some value → classification ext value = .ok ()
  execution : ∀ value, map.get "execution" = some value → execution ext value = .ok ()
  evidence : ∀ value, map.get "evidence" = some value → evidence ext value = .ok ()
  trigger : ∀ value, map.get "trigger" = some value → trigger value = .ok ()
  signal : ∀ value, map.get "signal" = some value → signal ext value = .ok ()
  aggregate : kind = "aggregate" → aggregate ext map = .ok ()
  cost : kind = "cognition" → cost ((map.get "cost").getD .null) = .ok ()
  correlation : ∀ value, map.get "correlation-ref" = some value → correlation value = .ok ()

theorem guarded_bind_eq_ok {condition : Prop} [Decidable condition] {check : Result Unit} {rest : Unit → Result Unit} :
    (if condition then check >>= rest else Except.ok () >>= rest) = .ok () ↔
      (condition → check = .ok ()) ∧ rest () = .ok () := by
  by_cases holds : condition
  · rw [if_pos holds, bind_eq_ok]
    exact ⟨fun ⟨_, passed, others⟩ => ⟨fun _ => passed, others⟩, fun known => ⟨(), known.1 holds, known.2⟩⟩
  · rw [if_neg holds]
    exact ⟨fun passed => ⟨fun does => absurd does holds, passed⟩, fun known => known.2⟩

theorem validate_eq_ok {map : Members} (accepted : validate ext (.object map) = .ok ()) :
    ∃ kind required optional, Accepted ext map kind required optional := by
  unfold validate at accepted
  simp only [bind_eq_ok, okOr_eq_ok, require_eq_ok, forEach_eq_ok, Envelope.whenPresent_eq_ok, guarded_bind_eq_ok]
    at accepted
  obtain ⟨_, isMap, v, hasV, text, isText, _, version, kindValue, hasKind, kind, isKind, ⟨required, optional⟩,
    hasKinds, _, members, _, texts, _, emittedAt, _, position, _, nested, _, identity, _, digests,
    _, classification, _, execution, _, evidence, _, trigger, _, signal, _, aggregate, cost,
    correlation⟩ := accepted
  cases isMap
  rw [Value.asStr_eq_some isText, version] at hasV
  rw [Value.asStr_eq_some isKind] at hasKind
  have present := fun name check => @Envelope.whenPresent_eq_ok (map.get name) check
  exact ⟨kind, required, optional, hasV, hasKind, hasKinds, members, texts, emittedAt, position, nested, identity,
    digests, (present _ _).mp classification, (present _ _).mp execution, (present _ _).mp evidence,
    (present _ _).mp trigger, (present _ _).mp signal, aggregate, cost, correlation⟩

end Accepted

section Stages

variable {map : Members} {kind : String} {required optional : List String}

/-- Whether a kind admits a member at all. -/
def Admits (required optional : List String) (name : String) : Prop :=
  name ∈ common ∨ name ∈ commonOptional ∨ name ∈ required ∨ name ∈ optional

instance (required optional : List String) (name : String) : Decidable (Admits required optional name) :=
  inferInstanceAs (Decidable (_ ∨ _ ∨ _ ∨ _))

/-- The kernel knows a kind of the gateway by the same members, and forbids it none that it admits. -/
theorem kindSpec_of_kinds (known : kinds kind = some (required, optional)) :
    ∃ spec, Envelope.kindSpec kind = some spec ∧ spec.required = required ∧ spec.optional = optional ∧
      ∀ name ∈ spec.forbidden, ¬ Admits required optional name := by
  unfold kinds at known
  split at known
  case h_10 => cases known
  all_goals
    cases known
    exact ⟨_, rfl, rfl, rfl, by decide⟩

/-- The members that only one kind admits. -/
theorem kind_of_member (known : kinds kind = some (required, optional)) :
    (Admits required optional "cost" → kind = "cognition") ∧
      (Admits required optional "sample-hashes" → kind = "aggregate") ∧
      (Admits required optional "window" → kind = "aggregate") := by
  unfold kinds at known
  split at known
  case h_10 => cases known
  all_goals
    cases known
    decide

theorem members_eq_ok (checked : members kind map required optional = .ok ()) :
    (∀ name ∈ map.keys, Admits required optional name) ∧ ∀ name ∈ common ++ required, map.containsKey name = true := by
  unfold members at checked
  split_ifs at checked
  all_goals
    simp only [bind_eq_ok, forEach_eq_ok, require_eq_ok] at checked
    obtain ⟨_, _, _, admitted, present⟩ := checked
    exact ⟨admitted, present⟩

theorem Accepted.admits (accepted : Accepted ext map kind required optional) {name : String} {value : Value}
    (found : map.get name = some value) : Admits required optional name :=
  (members_eq_ok accepted.members).1 name (mem_keys_of_get found)

theorem Accepted.validMembers (accepted : Accepted ext map kind required optional) {spec : Envelope.KindSpec}
    (hasRequired : spec.required = required) (hasOptional : spec.optional = optional)
    (forbids : ∀ name ∈ spec.forbidden, ¬ Admits required optional name) :
    Envelope.validateMembers kind map spec = .ok () := by
  obtain ⟨admitted, present⟩ := members_eq_ok accepted.members
  unfold Envelope.validateMembers
  simp only [bind_eq_ok, forEach_eq_ok, require_eq_ok]
  refine ⟨(), ?_, (), ?_, ?_⟩
  · intro name forbidden
    rw [← Bool.not_eq_true, containsKey_iff]
    exact fun held => forbids name forbidden (admitted name held)
  · intro name held
    rw [hasRequired, hasOptional]
    have known : Admits required optional name := admitted name held
    unfold Admits at known
    tauto
  · rw [hasRequired]
    exact present

theorem costMember_accepted {member : String × Value} (checked : costMember member = .ok ()) :
    Envelope.validateCostMember member = .ok () := by
  obtain ⟨name, value⟩ := member
  unfold costMember at checked
  unfold Envelope.validateCostMember
  dsimp only at checked ⊢
  by_cases money : isMoney name = true
  · obtain ⟨currency, split, size, letters⟩ := currency_of_money money
    rw [if_pos money, require_eq_ok] at checked
    rw [split]
    dsimp only
    simp only [bind_eq_ok, require_eq_ok]
    exact ⟨(), ⟨size, letters⟩, checked⟩
  · rw [if_neg money] at checked
    by_cases known : name ∈ costMembers
    · have other : stripPrefix name "money-" = none ∧ name ∈ Envelope.costDimensions := by
        have all : ∀ name ∈ costMembers, stripPrefix name "money-" = none ∧ name ∈ Envelope.costDimensions := by
          decide +kernel
        exact all name known
      rw [other.1]
      exact require_eq_ok.mpr other.2
    · rw [if_neg known] at checked
      cases checked

theorem nested_accepted {member : String × Value} (checked : nested member = .ok ()) (other : member.1 ≠ "cost") :
    Envelope.validateSubObject member = .ok () := by
  obtain ⟨name, value⟩ := member
  unfold nested at checked
  unfold Envelope.validateSubObject
  dsimp only at checked other ⊢
  rw [if_neg other, ← nestedSpec_eq]
  cases spec : nestedSpec name with
  | none => rfl
  | some names =>
      rw [spec] at checked
      simp only [bind_eq_ok, okOr_eq_ok, forEach_eq_ok, require_eq_ok] at checked ⊢
      exact checked

theorem Accepted.subObjects (accepted : Accepted ext map kind required optional) (distinct : map.keys.Nodup) :
    ∀ member ∈ map, Envelope.validateSubObject member = .ok () := by
  intro member inside
  by_cases isCost : member.1 = "cost"
  · obtain ⟨name, value⟩ := member
    cases isCost
    have found := get_of_mem distinct inside
    have checked := accepted.cost ((kind_of_member accepted.hasKinds).1 (accepted.admits found))
    rw [found] at checked
    unfold Structure.cost at checked
    simp only [bind_eq_ok, okOr_eq_ok, forEach_eq_ok] at checked
    obtain ⟨members, isMap, each⟩ := checked
    unfold Envelope.validateSubObject
    dsimp only
    rw [if_pos rfl]
    unfold Envelope.validateCost
    simp only [bind_eq_ok, okOr_eq_ok, forEach_eq_ok]
    exact ⟨members, isMap, fun item held => costMember_accepted (each item held)⟩
  · exact nested_accepted (accepted.nested member inside) isCost

theorem position_eq_ok (checked : position map = .ok ()) :
    ∃ stream seq, (map.get "stream").bind Value.asStr = some stream ∧ isStream stream = true ∧
      (map.get "seq").bind Value.asU64 = some seq ∧
      (seq = 0 → ((map.get "prev-hash").getD .null).isNull = true) ∧
      (0 < seq → ((map.get "prev-hash").getD .null).isNull = false) ∧
      (((map.get "prev-hash").getD .null).isNull = false →
        hash ((map.get "prev-hash").getD .null) "prev-hash" = .ok ()) := by
  unfold position at checked
  simp only [bind_eq_ok, require_eq_ok] at checked
  obtain ⟨_, named, _, positive, i, isInt, _, first, _, later, digest⟩ := checked
  obtain ⟨seq, rfl, isNat⟩ := asU64_of_integer isInt positive
  have stream : ∃ stream, (map.get "stream").bind Value.asStr = some stream ∧ isStream stream = true := by
    cases found : (map.get "stream").bind Value.asStr with
    | none =>
        rw [found] at named
        exact absurd named (by decide)
    | some stream =>
        rw [found] at named
        exact ⟨stream, rfl, named⟩
  obtain ⟨stream, hasStream, named⟩ := stream
  have hasSeq : (map.get "seq").bind Value.asU64 = some seq := by
    cases found : map.get "seq" with
    | none =>
        rw [found] at isNat
        cases isNat
    | some value =>
        rw [found] at isNat
        exact isNat
  refine ⟨stream, seq, hasStream, named, hasSeq, ?_, ?_, ?_⟩
  · intro zero
    rw [← Bool.not_eq_false]
    intro present
    apply first
    exact ⟨by omega, present⟩
  · intro positive
    rw [← Bool.not_eq_true]
    intro null
    apply later
    exact ⟨by omega, null⟩
  · intro present
    rw [present] at digest
    exact digest

theorem Accepted.validPosition (accepted : Accepted ext map kind required optional) :
    Envelope.validatePosition map = .ok () := by
  obtain ⟨stream, seq, hasStream, named, hasSeq, first, later, _⟩ := position_eq_ok accepted.position
  unfold Envelope.validatePosition
  simp only [bind_eq_ok, okOr_eq_ok, require_eq_ok]
  exact ⟨stream, hasStream, (), validateStreamId_of_stream named, seq, hasSeq, (), first, later⟩

theorem getStr_of_index {value : Value} {name s : String} (text : (value.index name).asStr = some s) :
    value.getStr name = some s :=
  (Value.index_asStr value name).symm.trans text

theorem Accepted.validIdentity (accepted : Accepted ext map kind required optional) :
    Envelope.validateIdentity map = .ok () := by
  have checked := accepted.identity
  unfold Structure.identity at checked
  dsimp only at checked
  rw [require_bind_eq_ok, require_eq_ok, Option.any_eq_true] at checked
  obtain ⟨same, key, text, named⟩ := checked
  rw [Value.asStr_eq_some text] at same
  unfold equal at same
  have hasKey := getStr_of_index text
  have hasSigKey := getStr_of_index (beq_iff_eq.mp same)
  obtain ⟨parsed, parses⟩ := parse_of_keyId named
  unfold Envelope.validateIdentity
  simp only [bind_eq_ok, okOr_eq_ok, require_eq_ok]
  exact ⟨key, hasKey, parsed, parses, key, hasSigKey, rfl⟩

theorem classification_accepted {value : Value} (checked : classification ext value = .ok ())
    (present : value ≠ .null) : Envelope.validateClassification value = .ok () := by
  unfold classification at checked
  rw [require_eq_ok, Option.any_eq_true] at checked
  rcases checked with null | ⟨s, text, known⟩
  · cases value with
    | null => exact absurd rfl present
    | _ => cases null
  · unfold Envelope.validateClassification
    simp only [bind_eq_ok, okOr_eq_ok, require_eq_ok]
    exact ⟨s, text, of_decide_eq_true known⟩

theorem execution_accepted {value : Value} (checked : execution ext value = .ok ()) :
    Envelope.validateExecution value = .ok () := by
  unfold execution at checked
  simp only [bind_eq_ok, require_eq_ok] at checked
  obtain ⟨_, _, _, _, _, outcome, _, _, _, _, ordered⟩ := checked
  obtain ⟨s, text, known⟩ := Option.any_eq_true .. |>.mp outcome
  unfold Envelope.validateExecution
  simp only [bind_eq_ok, okOr_eq_ok, require_eq_ok]
  exact ⟨s, text, (), of_decide_eq_true known, ordered⟩

theorem correlation_accepted {value : Value} (checked : correlation value = .ok ()) :
    Envelope.validateCorrelation value = .ok () := by
  unfold correlation at checked
  unfold Envelope.validateCorrelation
  simp only [bind_eq_ok, okOr_eq_ok, require_eq_ok] at checked ⊢
  exact checked

theorem index_of_get {value item : Value} {name : String} (found : value.get name = some item) :
    value.index name = item := by
  unfold Value.index
  rw [found]
  rfl

/-- What an aggregate the gateway lets through sums and samples. -/
structure Aggregated (ext : External) (map : Members) (byAction : Members) (total : Int) (samples : List Value) :
    Prop where
  classification : ((map.get "classification").getD .null).asStr = some "read"
  counts : (((map.get "counts").getD .null).get "by-action").bind Value.asObject = some byAction
  isTotal : integer (((map.get "counts").getD .null).index "total") "counts.total" = .ok total
  positive : 0 ≤ total
  bounded : byAction.length ≤ aggregateMaxActions
  folds : foldChecked fold 0 byAction = .ok total
  isArray : (map.get "sample-hashes").getD .null = .array samples
  sampled : 1 ≤ samples.length ∧ samples.length ≤ 16
  digests : ∀ sample ∈ samples, hash sample "sample-hashes[]" = .ok ()
  start : timestamp ext (((map.get "window").getD .null).index "from") "window.from" = .ok ()
  stop : timestamp ext (((map.get "window").getD .null).index "to") "window.to" = .ok ()

theorem sampleBounds_eq_ok {value : Value} {samples : List Value} (checked : sampleBounds value = .ok samples) :
    value = .array samples ∧ 1 ≤ samples.length ∧ samples.length ≤ 16 := by
  cases value with
  | array items =>
      unfold sampleBounds at checked
      simp only [require_bind_eq_ok, pure_eq_ok] at checked
      obtain ⟨bounds, rfl⟩ := checked
      exact ⟨rfl, bounds⟩
  | _ => cases checked

theorem aggregate_eq_ok (checked : aggregate ext map = .ok ()) :
    ∃ byAction total samples, Aggregated ext map byAction total samples := by
  unfold aggregate at checked
  simp only [bind_eq_ok, okOr_eq_ok, require_eq_ok, forEach_eq_ok] at checked
  obtain ⟨_, classification, byAction, counts, total, isTotal, _, positive, _, bounded, folded, folds, _, same,
    samples, sampled, _, digests, _, start, stop⟩ := checked
  subst same
  obtain ⟨isArray, bounds⟩ := sampleBounds_eq_ok sampled
  exact ⟨byAction, total, samples, classification, counts, isTotal, positive, bounded, folds, isArray, bounds,
    digests, start, stop⟩

theorem addCount_of_fold {sum next : Int} {member : String × Value} (checked : fold sum member = .ok next) :
    Envelope.addCount sum member = .ok next := by
  obtain ⟨action, value⟩ := member
  unfold fold at checked
  unfold Envelope.addCount
  simp only [bind_eq_ok, okOr_eq_ok, require_eq_ok] at checked ⊢
  obtain ⟨count, isInt, _, positive, summed⟩ := checked
  exact ⟨count, asI64_of_integer isInt, (), positive, summed⟩

theorem addCounts_of_fold {byAction : Members} {sum total : Int} (folds : foldChecked fold sum byAction = .ok total) :
    foldChecked Envelope.addCount sum byAction = .ok total := by
  induction byAction generalizing sum with
  | nil => exact folds
  | cons first rest ih =>
      rw [foldChecked_cons, bind_eq_ok] at folds ⊢
      obtain ⟨next, added, others⟩ := folds
      exact ⟨next, addCount_of_fold added, ih others⟩

theorem Accepted.validCounts (accepted : Accepted ext map kind required optional) :
    Envelope.validateCounts kind map = .ok () := by
  unfold Envelope.validateCounts
  split
  · rename_i isAggregate
    obtain ⟨byAction, total, samples, known⟩ := aggregate_eq_ok (accepted.aggregate isAggregate)
    unfold Envelope.validateAggregate
    simp only [bind_eq_ok, okOr_eq_ok, require_eq_ok]
    have classification : (map.get "classification").bind Value.asStr = some "read" := by
      have read := known.classification
      cases found : map.get "classification" with
      | none =>
          rw [found] at read
          cases read
      | some value =>
          rw [found] at read
          exact read
    have counts : (((map.get "counts").getD .null).index "by-action").asObject = some byAction := by
      obtain ⟨value, found, isMap⟩ := Option.bind_eq_some_iff.mp known.counts
      rw [index_of_get found]
      exact isMap
    have samples : ((map.get "sample-hashes").getD .null).asArray = some samples := by
      rw [known.isArray]
      rfl
    refine ⟨(), classification, total, asI64_of_integer known.isTotal, (), known.positive, byAction, counts, (),
      known.bounded, total, addCounts_of_fold known.folds, (), rfl, _, samples, ?_, known.sampled.2⟩
    exact List.ne_nil_of_length_pos known.sampled.1
  · rfl

/-- A member of a member that the gateway checked wherever its parent stands. -/
theorem child_eq_ok {parent child : String} {check : Value → Result Unit}
    (checked : ∀ value, map.get parent = some value → check (value.index child) = .ok ()) :
    Envelope.whenPresent ((map.get parent).bind (·.get child)) check = .ok () := by
  rw [Envelope.whenPresent_eq_ok]
  intro item found
  obtain ⟨value, isThere, inside⟩ := Option.bind_eq_some_iff.mp found
  rw [← index_of_get inside]
  exact checked value isThere

theorem execution_members {value : Value} (checked : execution ext value = .ok ()) :
    hash (value.index "args-hash") "execution.args-hash" = .ok () ∧
      timestamp ext (value.index "started-at") "execution.started-at" = .ok () ∧
      timestamp ext (value.index "finished-at") "execution.finished-at" = .ok () := by
  unfold execution at checked
  simp only [bind_eq_ok] at checked
  obtain ⟨_, _, _, args, _, _, _, started, _, finished, _⟩ := checked
  exact ⟨args, started, finished⟩

theorem evidence_members {value : Value} (checked : evidence ext value = .ok ()) :
    hash (value.index "payload-hash") "evidence.payload-hash" = .ok () ∧
      timestamp ext (value.index "retain-until") "evidence.retain-until" = .ok () := by
  unfold evidence at checked
  simp only [bind_eq_ok] at checked
  obtain ⟨_, _, _, payload, retained⟩ := checked
  exact ⟨payload, retained⟩

theorem signal_members {value : Value} (checked : signal ext value = .ok ()) :
    hash (value.index "payload-hash") "signal.payload-hash" = .ok () ∧
      timestamp ext (value.index "received-at") "signal.received-at" = .ok () ∧
      ∀ item, value.get "retain-until" = some item → timestamp ext item "signal.retain-until" = .ok () := by
  unfold signal at checked
  simp only [bind_eq_ok] at checked
  obtain ⟨_, payload, _, received, retained⟩ := checked
  exact ⟨payload, received, Envelope.whenPresent_eq_ok.mp retained⟩

theorem trigger_members {value : Value} (checked : trigger value = .ok ()) :
    hash (value.index "signal-ref") "trigger.signal-ref" = .ok () ∧
      hash (value.index "standing-mandate-ref") "trigger.standing-mandate-ref" = .ok () := by
  unfold trigger at checked
  simp only [bind_eq_ok] at checked
  obtain ⟨_, reference, _, standing, _⟩ := checked
  exact ⟨reference, standing⟩

theorem Accepted.aggregated (accepted : Accepted ext map kind required optional) {name : String} {value : Value}
    (only : name = "sample-hashes" ∨ name = "window") (found : map.get name = some value) :
    ∃ byAction total samples, Aggregated ext map byAction total samples := by
  apply aggregate_eq_ok
  apply accepted.aggregate
  have admitted := accepted.admits found
  have kinds := kind_of_member accepted.hasKinds
  rcases only with rfl | rfl
  · exact kinds.2.1 admitted
  · exact kinds.2.2 admitted

theorem Accepted.validDigests (accepted : Accepted ext map kind required optional) :
    Envelope.validateDigests map = .ok () := by
  unfold Envelope.validateDigests
  simp only [bind_eq_ok, forEach_eq_ok, List.forall_mem_cons, List.not_mem_nil, false_implies, implies_true, and_true]
  refine ⟨(), ⟨?_, ?_⟩, (), ⟨?_, ?_, ?_⟩, (), ?_, ?_⟩
  · rw [Envelope.whenPresent_eq_ok]
    intro value found
    have there := (Option.filter_eq_some_iff.mp found).1
    exact requireDigest_of_hash (accepted.digests "mandate-ref" (by decide) value there)
  · rw [Envelope.whenPresent_eq_ok]
    intro value found
    obtain ⟨there, present⟩ := Option.filter_eq_some_iff.mp found
    obtain ⟨_, _, _, _, _, _, _, digest⟩ := position_eq_ok accepted.position
    rw [there] at digest
    exact requireDigest_of_hash (digest (by simpa using present))
  · exact child_eq_ok fun value found => requireDigest_of_hash (execution_members (accepted.execution value found)).1
  · exact child_eq_ok fun value found => requireDigest_of_hash (evidence_members (accepted.evidence value found)).1
  · exact child_eq_ok fun value found => requireDigest_of_hash (signal_members (accepted.signal value found)).1
  · rw [Envelope.whenPresent_eq_ok]
    intro value found
    obtain ⟨reference, standing⟩ := trigger_members (accepted.trigger value found)
    simp only [forEach_eq_ok, List.forall_mem_cons, List.not_mem_nil, false_implies, implies_true, and_true,
      Envelope.whenPresent_eq_ok]
    constructor
    · intro item inside
      rw [index_of_get inside] at reference
      exact requireDigest_of_hash reference
    · intro item inside
      rw [index_of_get inside] at standing
      exact requireDigest_of_hash standing
  · rw [Envelope.whenPresent_eq_ok]
    intro value found
    obtain ⟨_, _, samples, known⟩ := accepted.aggregated (Or.inl rfl) found
    have isArray := known.isArray
    rw [found] at isArray
    cases isArray
    simp only [bind_eq_ok, okOr_eq_ok, forEach_eq_ok]
    exact ⟨samples, rfl, fun sample held => requireDigest_of_hash (known.digests sample held)⟩

theorem Accepted.validTimestamps (accepted : Accepted ext map kind required optional) :
    Envelope.validateTimestamps map = .ok () := by
  have window : ∀ value, map.get "window" = some value →
      timestamp ext (value.index "from") "window.from" = .ok () ∧
        timestamp ext (value.index "to") "window.to" = .ok () := by
    intro value found
    obtain ⟨_, _, _, known⟩ := accepted.aggregated (Or.inr rfl) found
    have start := known.start
    have stop := known.stop
    rw [found] at start stop
    exact ⟨start, stop⟩
  unfold Envelope.validateTimestamps
  simp only [bind_eq_ok, forEach_eq_ok, List.forall_mem_cons, List.not_mem_nil, false_implies, implies_true, and_true]
  refine ⟨(), requireTimestamp_of_timestamp accepted.emittedAt, ?_, ?_, ?_, ?_, ?_, ?_, ?_⟩
  · exact child_eq_ok fun value found =>
      requireTimestamp_of_timestamp (execution_members (accepted.execution value found)).2.1
  · exact child_eq_ok fun value found =>
      requireTimestamp_of_timestamp (execution_members (accepted.execution value found)).2.2
  · exact child_eq_ok fun value found =>
      requireTimestamp_of_timestamp (evidence_members (accepted.evidence value found)).2
  · exact child_eq_ok fun value found => requireTimestamp_of_timestamp (window value found).1
  · exact child_eq_ok fun value found => requireTimestamp_of_timestamp (window value found).2
  · exact child_eq_ok fun value found =>
      requireTimestamp_of_timestamp (signal_members (accepted.signal value found)).2.1
  · rw [Envelope.whenPresent_eq_ok]
    intro item found
    obtain ⟨value, there, inside⟩ := Option.bind_eq_some_iff.mp found
    exact requireTimestamp_of_timestamp ((signal_members (accepted.signal value there)).2.2 item inside)

end Stages

/-- An object the gateway lets through is one the kernel lets through exactly when every number in it is a safe
integer and it is not classified as null. -/
theorem validated_iff {map : Members} (distinct : map.keys.Nodup) (accepted : validate ext (.object map) = .ok ()) :
    Envelope.validate ext (.object map) = .ok () ↔
      (∀ n ∈ (Value.object map).numbers, n.isSafe) ∧ map.get "classification" ≠ some .null := by
  obtain ⟨kind, required, optional, known⟩ := validate_eq_ok accepted
  obtain ⟨spec, hasSpec, hasRequired, hasOptional, forbids⟩ := kindSpec_of_kinds known.hasKinds
  constructor
  · intro valid
    obtain ⟨_, _, _, all⟩ := Envelope.validate_eq_ok valid
    have same := all.object
    cases same
    refine ⟨(checkNumbers_iff _ _).mp all.numbers, ?_⟩
    intro null
    have refused := Envelope.whenPresent_eq_ok.mp all.classification .null null
    cases refused
  · intro condition
    have classification : ∀ value, map.get "classification" = some value →
        Envelope.validateClassification value = .ok () := by
      intro value found
      apply classification_accepted (known.classification value found)
      rintro rfl
      exact condition.2 found
    unfold Envelope.validate
    simp only [bind_eq_ok, okOr_eq_ok, require_eq_ok, forEach_eq_ok]
    exact ⟨map, rfl, _, known.version, _, rfl, (), rfl, _, known.hasKind, kind, rfl, spec, hasSpec,
      (), known.validMembers hasRequired hasOptional forbids, (), known.subObjects distinct,
      (), (checkNumbers_iff _ _).mpr condition.1, (), known.validDigests, (), known.validTimestamps,
      (), known.validPosition, (), known.validIdentity, (), Envelope.whenPresent_eq_ok.mpr classification,
      (), Envelope.whenPresent_eq_ok.mpr fun value found => execution_accepted (known.execution value found),
      (), known.validCounts,
      Envelope.whenPresent_eq_ok.mpr fun value found => correlation_accepted (known.correlation value found)⟩

end Stozher.Gateway.Structure

namespace Stozher.Deployment

open Library

def noteMembers : Members :=
  firstNote.document.asObject.getD []

/-- The note, with a reference to a memory numbered beyond the safe integers. -/
def farMembers : Members :=
  noteMembers.insert "memory-ref" (.nat (2 ^ 53))

structure NoteSeen : Prop where
  distinct : noteMembers.keys.Nodup
  accepted : isOk (Gateway.Structure.validate ext (.object noteMembers)) = true
  checked : isOk (Envelope.checkNumbers ext (.object noteMembers) "") = true
  unclassified : noteMembers.get "classification" = none
  farDistinct : farMembers.keys.Nodup
  farAccepted : isOk (Gateway.Structure.validate ext (.object farMembers)) = true
  farRefused : isOk (Envelope.validate ext (.object farMembers)) = false

theorem note_seen : NoteSeen := by
  constructor <;> decide +kernel

theorem validated_of_isOk {checked : Result Unit} (passed : isOk checked = true) : checked = .ok () := by
  obtain ⟨_, known⟩ := isOk_iff.mp passed
  exact known

theorem firstNote_validated : Envelope.validate ext (.object noteMembers) = .ok () := by
  apply (Gateway.Structure.validated_iff note_seen.distinct (validated_of_isOk note_seen.accepted)).mpr
  constructor
  · exact (Gateway.Structure.checkNumbers_iff _ "").mp (validated_of_isOk note_seen.checked)
  · rw [note_seen.unclassified]
    intro null
    cases null

/-- What the gateway lets through, the kernel may refuse. -/
theorem far_refused : ¬ ∀ map : Members, map.keys.Nodup →
    Gateway.Structure.validate ext (.object map) = .ok () → Envelope.validate ext (.object map) = .ok () := by
  intro agree
  have passed := agree farMembers note_seen.farDistinct (validated_of_isOk note_seen.farAccepted)
  have refused := note_seen.farRefused
  rw [passed] at refused
  cases refused

end Stozher.Deployment
