import Stozher.CanonicalText
import Stozher.Deployment
import Stozher.Gateway.Canonical

namespace Stozher.Gateway.Canonical

open Library Library.Text Jcs.Text

mutual

/-- The frames a call that writes a value goes down. -/
def framesFor : Value → Nat
  | .string _ => 2
  | .number n => if n.asF64.isZero then 2 else 3
  | .array items => framesForItems items + 1
  | .object members => framesForMembers members + 1
  | _ => 1

def framesForItems : List Value → Nat
  | [] => 0
  | item :: rest => max (framesFor item) (framesForItems rest)

def framesForMembers : List (String × Value) → Nat
  | [] => 0
  | (_, value) :: rest => max (framesFor value) (framesForMembers rest)

end

theorem framesFor_pos (value : Value) : 1 ≤ framesFor value := by
  cases value with
  | null => exact Nat.le_refl 1
  | bool b => exact Nat.le_refl 1
  | number n =>
      unfold framesFor
      split <;> decide
  | string s =>
      unfold framesFor
      decide
  | array items => exact Nat.le_add_left 1 _
  | object members => exact Nat.le_add_left 1 _

theorem framesForItems_le {items : List Value} {frames : Nat} :
    framesForItems items ≤ frames ↔ ∀ item ∈ items, framesFor item ≤ frames := by
  induction items with
  | nil => exact iff_of_true (Nat.zero_le _) fun item none => absurd none List.not_mem_nil
  | cons first rest ih =>
      unfold framesForItems
      rw [max_le_iff, ih, List.forall_mem_cons]

theorem framesForMembers_le {members : Members} {frames : Nat} :
    framesForMembers members ≤ frames ↔ ∀ member ∈ members, framesFor member.2 ≤ frames := by
  induction members with
  | nil => exact iff_of_true (Nat.zero_le _) fun item none => absurd none List.not_mem_nil
  | cons first rest ih =>
      unfold framesForMembers
      rw [max_le_iff, ih, List.forall_mem_cons]

theorem rejectCharacter_ok (c : Char) : rejectCharacter c = .ok () := by
  have range := char_range c
  have none : isSurrogate c = false := by
    unfold isSurrogate
    rw [Bool.and_eq_false_iff, decide_eq_false_iff_not, decide_eq_false_iff_not]
    omega
  unfold rejectCharacter
  rw [none]
  rfl

theorem rejectText_ok (text : String) : forEach rejectCharacter text.toList = .ok () :=
  forEach_eq_ok.mpr fun c _ => rejectCharacter_ok c

/-- No text here has a lone surrogate; only the frames may run out. -/
theorem call_rejectLoneSurrogates (value : Value) (frames : Nat) :
    (call frames fun frames => rejectLoneSurrogates frames value) = .ok () ∨
      frames < framesFor value ∧ (call frames fun frames => rejectLoneSurrogates frames value) = .error .recursionError := by
  induction value using Value.induct generalizing frames with
  | scalar value notArray notObject =>
      cases frames with
      | zero => exact .inr ⟨framesFor_pos value, rfl⟩
      | succ frames =>
          left
          cases value with
          | null => rfl
          | bool b => rfl
          | number n => rfl
          | string s => exact rejectText_ok s
          | array items => cases notArray
          | object members => cases notObject
  | array items ih =>
      cases frames with
      | zero => exact .inr ⟨framesFor_pos _, rfl⟩
      | succ frames =>
          unfold call framesFor rejectLoneSurrogates
          dsimp only
          rw [Nat.add_lt_add_iff_right]
          induction items with
          | nil => exact .inl rfl
          | cons first rest more =>
              unfold rejectItems framesForItems
              rw [lt_max_iff]
              rcases ih first List.mem_cons_self frames with passed | ⟨deep, failed⟩
              · rw [passed, ok_bind]
                exact (more fun item member => ih item (List.mem_cons_of_mem _ member)).imp_right (And.imp_left .inr)
              · rw [failed, error_bind]
                exact .inr ⟨.inl deep, rfl⟩
  | object members ih =>
      cases frames with
      | zero => exact .inr ⟨framesFor_pos _, rfl⟩
      | succ frames =>
          unfold call framesFor rejectLoneSurrogates
          dsimp only
          rw [Nat.add_lt_add_iff_right]
          induction members with
          | nil => exact .inl rfl
          | cons first rest more =>
              unfold rejectMembers framesForMembers
              rw [lt_max_iff]
              cases frames with
              | zero => exact .inr ⟨.inl (framesFor_pos _), rfl⟩
              | succ frames =>
                  have name : (call (frames + 1) fun _ => forEach rejectCharacter first.1.toList) = .ok () :=
                    rejectText_ok first.1
                  rw [name, ok_bind]
                  rcases ih first List.mem_cons_self (frames + 1) with passed | ⟨deep, failed⟩
                  · rw [passed, ok_bind]
                    exact (more fun item member => ih item (List.mem_cons_of_mem _ member)).imp_right (And.imp_left .inr)
                  · rw [failed, error_bind]
                    exact .inr ⟨.inl deep, rfl⟩

theorem writeChar_eq (c : Char) :
    writeChar c = (escapes c).getD (if c.toNat < 0x20 then "\\u".toList ++ hexChars 4 c.toNat else [c]) := by
  unfold writeChar escapes
  generalize c.toNat = code
  split
  all_goals simp only [Option.getD_some, Option.getD_none]

/-- The two tables of escapes are one. -/
theorem stringCharacter_eq (c : Char) : stringCharacter c = writeChar c := by
  rw [writeChar_eq]
  unfold stringCharacter
  cases escapes c <;> rfl

theorem string_eq (text : String) : string_ text = writeString text := by
  unfold string_ writeString
  rw [funext stringCharacter_eq]

/-- What the writer of the gateway relies on: the text of a whole float. -/
def PlainRepr (repr : Binary64 → String) : Prop :=
  ∀ bits magnitude, bits.isNegative = false → bits.wholeMagnitude = some magnitude → 0 < magnitude →
    magnitude < 2 ^ 53 → repr bits = toString magnitude ++ ".0"

section

variable {n : Nat}

theorem isDigit_toDigits : ∀ c ∈ Nat.toDigits 10 n, c.isDigit = true :=
  fun _ member => Nat.isDigit_of_mem_toDigits (by decide) (by decide) member

theorem toDigits_head (positive : 0 < n) : (Nat.toDigits 10 n).head? ≠ some '0' := by
  induction n using Nat.strong_induction_on with
  | _ n ih =>
      by_cases small : n < 10
      · rw [Nat.toDigits_of_lt_base small]
        have digits : ∀ n < 10, 0 < n → [Nat.digitChar n].head? ≠ some '0' := by decide
        exact digits n small positive
      · have fewer := ih (n / 10) (by omega) (by omega)
        rw [Nat.toDigits_eq_if (by decide), if_neg small, List.head?_append_of_ne_nil _ Nat.toDigits_ne_nil]
        exact fewer

theorem matchRepr_whole : matchRepr (Nat.toDigits 10 n ++ ['.', '0']) = some (Nat.toDigits 10 n, ['0'], 0) := by
  unfold matchRepr
  rw [List.takeWhile_append_of_pos isDigit_toDigits, List.dropWhile_append_of_pos isDigit_toDigits]
  have stop : ['.', '0'].takeWhile Char.isDigit = [] := by decide
  have rest : ['.', '0'].dropWhile Char.isDigit = ['.', '0'] := by decide
  rw [stop, rest, List.append_nil]
  dsimp only
  rw [if_neg Nat.toDigits_ne_nil]
  rfl

/-- Stripped digits with as many zeros as were stripped are the digits. -/
theorem stripRight_append (digits : List Char) :
    stripRight digits ++ List.replicate (digits.length - (stripRight digits).length) '0' = digits := by
  have zeros : digits.reverse.takeWhile (· == '0') =
      List.replicate (digits.reverse.takeWhile (· == '0')).length '0' := by
    apply List.eq_replicate_of_mem
    intro c member
    exact beq_iff_eq.mp (List.all_eq_true.mp List.all_takeWhile c member)
  have split := List.takeWhile_append_dropWhile (p := (· == '0')) (l := digits.reverse)
  have lengths := congrArg List.length split
  rw [List.length_append, List.length_reverse] at lengths
  unfold stripRight
  rw [List.length_reverse, show digits.length - (digits.reverse.dropWhile (· == '0')).length =
    (digits.reverse.takeWhile (· == '0')).length by omega]
  apply List.reverse_injective
  rw [List.reverse_append, List.reverse_reverse, List.reverse_replicate, ← zeros, split]

theorem stripLeft_whole (positive : 0 < n) : stripLeft (Nat.toDigits 10 n ++ ['0']) = Nat.toDigits 10 n ++ ['0'] := by
  have head := toDigits_head positive
  unfold stripLeft
  cases digits : Nat.toDigits 10 n with
  | nil => exact absurd digits Nat.toDigits_ne_nil
  | cons first rest =>
      rw [digits, List.head?_cons] at head
      rw [List.cons_append, List.dropWhile_cons_of_neg]
      intro zero
      exact head (congrArg some (beq_iff_eq.mp zero))

theorem stripRight_zero (digits : List Char) : stripRight (digits ++ ['0']) = stripRight digits := by
  unfold stripRight
  rw [List.reverse_append, List.reverse_singleton, List.singleton_append, List.dropWhile_cons_of_pos (by decide)]

theorem stripRight_ne_nil (positive : 0 < n) : stripRight (Nat.toDigits 10 n) ≠ [] := by
  intro none
  have whole := stripRight_append (Nat.toDigits 10 n)
  rw [none, List.nil_append] at whole
  have head := toDigits_head positive
  have nonempty : (Nat.toDigits 10 n).length ≠ 0 := fun empty => Nat.toDigits_ne_nil (List.length_eq_zero_iff.mp empty)
  obtain ⟨fewer, more⟩ := Nat.exists_eq_succ_of_ne_zero nonempty
  rw [← whole, List.length_nil, Nat.sub_zero, more, List.replicate_succ, List.head?_cons] at head
  exact head rfl

/-- The digits and the power of ten of a whole number, laid out again, are its decimal text. -/
theorem shortest_whole {repr : Binary64 → String} (plain : PlainRepr repr) {bits : Binary64}
    (sign : bits.isNegative = false) (whole : bits.wholeMagnitude = some n) (positive : 0 < n) (small : n < 2 ^ 53) :
    ∃ digits exponent, shortest repr bits = .ok (digits, exponent) ∧ layout digits exponent = Nat.toDigits 10 n := by
  have text : (repr bits).toList = Nat.toDigits 10 n ++ ['.', '0'] := by
    rw [plain bits n sign whole positive small, String.toList_append]
    have digits : (toString n).toList = Nat.toDigits 10 n := Nat.toList_repr
    rw [digits]
    rfl
  have short : (Nat.toDigits 10 n).length ≤ 16 :=
    (Nat.length_toDigits_le_iff (by decide) (by decide)).mpr (Nat.lt_trans small (by decide))
  have stripped := stripRight_append (Nat.toDigits 10 n)
  have fewer := congrArg List.length stripped
  rw [List.length_append, List.length_replicate] at fewer
  have nonempty : Nat.toDigits 10 n ++ ['0'] ≠ [] := List.append_ne_nil_of_right_ne_nil _ (by decide)
  refine ⟨stripRight (Nat.toDigits 10 n),
    ((Nat.toDigits 10 n).length - (stripRight (Nat.toDigits 10 n)).length : Nat), ?_, ?_⟩
  · unfold shortest
    rw [text, matchRepr_whole]
    dsimp only
    unfold orZero
    rw [stripLeft_whole positive, if_neg nonempty, stripRight_zero, if_neg (stripRight_ne_nil positive),
      List.length_append, List.length_singleton]
    congr 2
    omega
  · unfold layout
    dsimp only
    rw [if_pos (by omega), show ((((Nat.toDigits 10 n).length - (stripRight (Nat.toDigits 10 n)).length : Nat) : Int) +
      (stripRight (Nat.toDigits 10 n)).length - (stripRight (Nat.toDigits 10 n)).length).toNat =
        (Nat.toDigits 10 n).length - (stripRight (Nat.toDigits 10 n)).length by omega]
    exact stripped

end

section

variable {repr : Binary64 → String}

/-- The word of a number without its sign has the number's magnitude. -/
theorem negated_spec {bits : Binary64} {n : Nat} (whole : bits.wholeMagnitude = some n) :
    (negated bits).isNegative = false ∧ (negated bits).wholeMagnitude = some n := by
  have word : (negated bits).toNat = bits.toNat % 2 ^ 63 := by
    unfold negated
    rw [BitVec.toNat_ofNat]
    omega
  have exponent : Binary64.exponentBits (negated bits) = Binary64.exponentBits bits := by
    unfold Binary64.exponentBits
    rw [word]
    omega
  have fraction : Binary64.fractionBits (negated bits) = Binary64.fractionBits bits := by
    unfold Binary64.fractionBits
    rw [word]
    omega
  have zero : Binary64.isZero (negated bits) = Binary64.isZero bits := by
    unfold Binary64.isZero
    rw [word, Nat.mod_mod]
  constructor
  · unfold Binary64.isNegative
    rw [word, decide_eq_false_iff_not]
    omega
  · unfold Binary64.wholeMagnitude at whole ⊢
    rw [exponent, fraction, zero]
    exact whole

theorem call_writeNumber (plain : PlainRepr repr) {n : Number} (integral : n.Integral) (frames : Nat) :
    (call frames fun frames => writeNumber repr frames n.asF64) =
      if (if n.asF64.isZero then 1 else 2) ≤ frames then .ok n.decimalText else .error .recursionError := by
  obtain ⟨magnitude, small, whole⟩ := integral
  have finite := Binary64.isFinite_of_wholeMagnitude whole small
  have zero := Binary64.isZero_of_wholeMagnitude whole
  cases frames with
  | zero =>
      rw [if_neg (by split <;> omega)]
      rfl
  | succ frames =>
      unfold call writeNumber Number.decimalText
      dsimp only
      rw [if_neg (by rw [finite]; decide), whole, Option.getD_some]
      by_cases none : magnitude = 0
      · rw [if_pos (zero.mpr none), if_pos (by rw [if_pos (zero.mpr none)]; omega), if_neg (fun both => both.2 none), none]
        rfl
      · have nonzero : ¬ n.asF64.isZero = true := fun isZero => none (zero.mp isZero)
        rw [if_neg nonzero, if_neg nonzero]
        cases frames with
        | zero => rfl
        | succ frames =>
            rw [if_pos (show 2 ≤ frames + 1 + 1 by omega)]
            by_cases negative : n.asF64.isNegative = true
            · obtain ⟨positive, same⟩ := negated_spec whole
              obtain ⟨digits, exponent, short, laid⟩ := shortest_whole plain positive same (by omega) small
              rw [if_pos negative, if_pos negative, if_pos ⟨negative, none⟩]
              unfold call
              rw [short, ← laid]
              rfl
            · obtain ⟨digits, exponent, short, laid⟩ :=
                shortest_whole plain (Bool.eq_false_of_not_eq_true negative) whole (by omega) small
              rw [if_neg negative, if_neg negative, if_neg (fun both => negative both.1)]
              unfold call
              rw [short, ← laid]
              rfl

theorem writeItems_eq (frames : Nat) (items : List Value) :
    writeItems repr frames items = items.map fun item => call frames fun frames => write repr frames item := by
  induction items with
  | nil => rfl
  | cons first rest ih =>
      unfold writeItems
      rw [ih, List.map_cons]

theorem writeMembers_eq (frames : Nat) (members : Members) : writeMembers repr frames members =
    members.map fun member => (member.1, call frames fun frames => write repr frames member.2) := by
  induction members with
  | nil => rfl
  | cons first rest ih =>
      unfold writeMembers
      rw [ih, List.map_cons]

/-- The two orders of members are one. -/
theorem sorted_eq {α : Type} (members : List (String × α)) :
    sortBy (fun member => encodeUtf16be member.1) members = sortBy (fun member => encodeUtf16 member.1) members := by
  apply sortBy_congr
  intro a b
  rw [← not_lt, ← not_lt]
  exact not_congr (bigEndian_lt_iff (encodeUtf16_lt a.1))

/-- Where each item is written or the frames for it run out. -/
theorem mapChecked_limited {α β : Type} {f : α → Except Raised β} {g : α → β} {need : α → Nat} {limit : Nat}
    {items : List α}
    (each : ∀ item ∈ items, f item = if need item ≤ limit then .ok (g item) else .error .recursionError) :
    ((∀ item ∈ items, need item ≤ limit) → mapChecked f items = .ok (items.map g)) ∧
      (¬ (∀ item ∈ items, need item ≤ limit) → mapChecked f items = .error .recursionError) := by
  constructor
  · intro fits
    apply mapChecked_ok
    intro item member
    rw [each item member, if_pos (fits item member)]
  · intro short
    push Not at short
    obtain ⟨deep, inside, more⟩ := short
    apply mapChecked_error
    · intro item member
      rw [each item member]
      split
      · exact .inr ⟨_, rfl⟩
      · exact .inl rfl
    · exact ⟨deep, inside, (each deep inside).trans (if_neg (Nat.not_le.mpr more))⟩

/-- A value is written as its canonical text, where the frames suffice. -/
def WritesText (repr : Binary64 → String) (value : Value) : Prop :=
  ∀ frames, (call frames fun frames => write repr frames value) =
    if framesFor value ≤ frames then .ok (render value) else .error .recursionError

theorem writesText_scalar (plain : PlainRepr repr) {value : Value} (integers : value.Integers)
    (notArray : value.asArray = none) (notObject : value.asObject = none) : WritesText repr value := by
  intro frames
  have first := framesFor_pos value
  cases frames with
  | zero =>
      rw [if_neg (show ¬ framesFor value ≤ 0 by omega)]
      rfl
  | succ frames =>
      cases value with
      | null =>
          rw [if_pos (show framesFor .null ≤ frames + 1 from Nat.le_add_left 1 frames)]
          rfl
      | bool b =>
          rw [if_pos (show framesFor (.bool b) ≤ frames + 1 from Nat.le_add_left 1 frames)]
          cases b <;> rfl
      | number n =>
          have integral : n.Integral := integers n List.mem_cons_self
          unfold call write framesFor render
          dsimp only
          rw [call_writeNumber plain integral]
          by_cases zero : n.asF64.isZero = true
          · rw [if_pos zero, if_pos zero]
            exact if_congr (show 1 ≤ frames ↔ 2 ≤ frames + 1 by omega) rfl rfl
          · rw [if_neg zero, if_neg zero]
            exact if_congr (show 2 ≤ frames ↔ 3 ≤ frames + 1 by omega) rfl rfl
      | string s =>
          unfold call write framesFor render
          dsimp only
          rw [string_eq]
          cases frames with
          | zero => rfl
          | succ frames =>
              rw [if_pos (show 2 ≤ frames + 1 + 1 by omega)]
              rfl
      | array items => cases notArray
      | object members => cases notObject

theorem writesText_array {items : List Value} (writes : ∀ item ∈ items, WritesText repr item) :
    WritesText repr (.array items) := by
  intro frames
  cases frames with
  | zero => rfl
  | succ frames =>
      have each : ∀ item ∈ items, id (call frames fun frames => write repr frames item) =
          if framesFor item ≤ frames then .ok (render item) else .error .recursionError :=
        fun item member => writes item member frames
      obtain ⟨enough, short⟩ := mapChecked_limited each
      unfold call
      dsimp only
      rw [write, render, framesFor, writeItems_eq, renderItems_eq, mapChecked_map]
      by_cases fits : framesForItems items ≤ frames
      · rw [if_pos (Nat.succ_le_succ fits), enough (framesForItems_le.mp fits)]
        rfl
      · rw [if_neg (fun more => fits (Nat.le_of_succ_le_succ more)), short fun all => fits (framesForItems_le.mpr all)]
        rfl

theorem writeMember_eq {member : String × Value} (frames : Nat) (writes : WritesText repr member.2) :
    writeMember frames (member.1, call frames fun frames => write repr frames member.2) =
      if framesFor member.2 ≤ frames then .ok (Jcs.Text.writeString member.1 ++ ':' :: render member.2)
      else .error .recursionError := by
  have first := framesFor_pos member.2
  unfold writeMember
  rw [writes frames, string_eq]
  cases frames with
  | zero =>
      rw [if_neg (show ¬ framesFor member.2 ≤ 0 by omega), if_neg (show ¬ framesFor member.2 ≤ 0 by omega)]
      rfl
  | succ frames =>
      by_cases fits : framesFor member.2 ≤ frames + 1
      · rw [if_pos fits, if_pos fits]
        rfl
      · rw [if_neg fits, if_neg fits]
        rfl

theorem writesText_object {members : Members} (writes : ∀ member ∈ members, WritesText repr member.2) :
    WritesText repr (.object members) := by
  intro frames
  cases frames with
  | zero => rfl
  | succ frames =>
      have each := fun (member : String × Value) (within : member ∈ sortBy (fun member => encodeUtf16 member.1) members) =>
        writeMember_eq frames (writes member ((sortBy_perm _ members).mem_iff.mp within))
      obtain ⟨enough, short⟩ := mapChecked_limited each
      have all : (∀ member ∈ sortBy (fun member => encodeUtf16 member.1) members, framesFor member.2 ≤ frames) ↔
          framesForMembers members ≤ frames := by
        rw [framesForMembers_le]
        exact forall_congr' fun member => imp_congr_left (sortBy_perm _ members).mem_iff
      have sorted : sortBy (fun member => encodeUtf16be member.1)
          (members.map fun member => (member.1, call frames fun frames => write repr frames member.2)) =
            (sortBy (fun member => encodeUtf16 member.1) members).map
              fun member => (member.1, call frames fun frames => write repr frames member.2) := by
        rw [sorted_eq, ← map_sortBy _ fun member => rfl]
      unfold call
      dsimp only
      rw [write, render_object, framesFor]
      dsimp only
      rw [writeMembers_eq, sorted, mapChecked_map]
      by_cases fits : framesForMembers members ≤ frames
      · have keyed : forEach (fun _ => call frames fun _ => .ok ()) members = .ok () := by
          rw [forEach_eq_ok]
          intro member inside
          have first := framesFor_pos member.2
          have most := framesForMembers_le.mp fits member inside
          cases frames with
          | zero => omega
          | succ frames => rfl
        rw [if_pos (Nat.succ_le_succ fits), keyed, ok_bind, enough (all.mpr fits)]
        rfl
      · rw [if_neg (fun more => fits (Nat.le_of_succ_le_succ more)), short fun known => fits (all.mp known)]
        cases frames with
        | zero =>
            cases members with
            | nil => exact absurd (Nat.zero_le 0) fits
            | cons first rest => rfl
        | succ frames =>
            have keyed : forEach (fun _ => call (frames + 1) fun _ => .ok ()) members = .ok () :=
              forEach_eq_ok.mpr fun _ _ => rfl
            rw [keyed]
            rfl

/-- The gateway writes the canonical text of every value whose numbers are integers, where its frames suffice. -/
theorem call_write (plain : PlainRepr repr) {value : Value} (integers : value.Integers) (frames : Nat) :
    (call frames fun frames => write repr frames value) =
      if framesFor value ≤ frames then .ok (render value) else .error .recursionError := by
  revert frames
  induction value using Value.induct with
  | scalar value notArray notObject => exact writesText_scalar plain integers notArray notObject
  | array items ih => exact writesText_array fun item member => ih item member (integers.item member)
  | object members ih => exact writesText_object fun member inside => ih member inside (integers.member inside)

theorem canonicalizeBytes_eq (plain : PlainRepr repr) {value : Value} (integers : value.Integers) (frames : Nat) :
    canonicalizeBytes repr frames value =
      if framesFor value ≤ frames then .ok (octets (String.ofList (render value))) else .error tooDeep := by
  have written := call_write plain integers frames
  unfold canonicalizeBytes canonicalize
  rcases call_rejectLoneSurrogates value frames with passed | ⟨deep, failed⟩
  · rw [passed, ok_bind, written]
    by_cases fits : framesFor value ≤ frames
    · rw [if_pos fits, if_pos fits]
      rfl
    · rw [if_neg fits, if_neg fits]
      rfl
  · rw [failed, if_neg (Nat.not_le.mpr deep)]
    rfl

end

end Stozher.Gateway.Canonical

namespace Stozher

open Library Library.Text

namespace Value.Reorders

variable {value other : Value}

theorem integers (same : Reorders value other) : value.Integers ↔ other.Integers := by
  induction same with
  | refl value => exact Iff.rfl
  | trans _ _ first second => exact first.trans second
  | @members first second _ perm =>
      unfold Integers numbers
      rw [memberNumbers_eq, memberNumbers_eq]
      exact forall_congr' fun n => imp_congr_left (perm.flatMap_right _).mem_iff
  | @item before after first second _ ih =>
      unfold Integers at ih ⊢
      unfold numbers
      simp only [itemNumbers_eq, List.flatMap_append, List.flatMap_cons, List.mem_append, or_imp, forall_and, ih]
  | @member before after name first second _ ih =>
      unfold Integers at ih ⊢
      unfold numbers
      simp only [memberNumbers_eq, List.flatMap_append, List.flatMap_cons, List.mem_append, or_imp, forall_and, ih]

/-- The canonical text does not depend on the order members are kept in. -/
theorem render (same : Reorders value other) : Jcs.Text.render value = Jcs.Text.render other := by
  induction same with
  | refl value => rfl
  | trans _ _ first second => exact first.trans second
  | @members first second distinct perm =>
      have sorted : sortBy (fun member : String × Value => encodeUtf16 member.1) first =
          sortBy (fun member => encodeUtf16 member.1) second := by
        apply sortBy_eq_of_perm perm
        intro a inFirst b inSecond equal
        exact List.inj_on_of_nodup_map distinct inFirst inSecond (encodeUtf16_injective equal)
      rw [Jcs.Text.render_object, Jcs.Text.render_object, sorted]
  | @item before after first second _ ih =>
      rw [Jcs.Text.render, Jcs.Text.render, Jcs.Text.renderItems_eq, Jcs.Text.renderItems_eq, List.map_append,
        List.map_append, List.map_cons, List.map_cons, ih]
  | @member before after name first second _ ih =>
      rw [Jcs.Text.render, Jcs.Text.render, Jcs.Text.renderMembers_eq, Jcs.Text.renderMembers_eq, List.map_append,
        List.map_append, List.map_cons, List.map_cons, ih]

end Value.Reorders

open Gateway.Canonical

/-- The kernel and the gateway write the same octets for a value whose numbers are integers, however each keeps its
members, wherever the gateway's interpreter can follow the nesting; where it cannot, the gateway writes nothing. -/
theorem canonicalizers_agree (ext : External) {formatFinite repr : Binary64 → String}
    (plain : Jcs.Text.PlainIntegers formatFinite) (plainRepr : PlainRepr repr) {value other : Value}
    (same : value.Reorders other) (integers : value.Integers) (frames : Nat) :
    ∃ text, Jcs.Text.canonicalize ext formatFinite value = .ok text ∧
      canonicalizeBytes repr frames other =
        if framesFor other ≤ frames then .ok (octets text) else .error tooDeep := by
  refine ⟨String.ofList (Jcs.Text.render value), ?_, ?_⟩
  · unfold Jcs.Text.canonicalize
    rw [Jcs.Text.writeValue_eq plain integers]
    rfl
  · rw [canonicalizeBytes_eq plainRepr (same.integers.mp integers), same.render]

namespace Deployment

/-- An integer as both libraries write it. -/
def integerText (bits : Binary64) : String :=
  (if bits.isNegative = true then "-" else "") ++ toString (bits.wholeMagnitude.getD 0)

/-- A float of a whole number as Python writes it. -/
def floatRepr (bits : Binary64) : String :=
  toString (bits.wholeMagnitude.getD 0) ++ ".0"

theorem integerText_plain : Jcs.Text.PlainIntegers integerText := by
  intro bits magnitude whole _ _
  unfold integerText
  rw [whole, Option.getD_some]

theorem floatRepr_plain : PlainRepr floatRepr := by
  intro bits magnitude _ whole _ _
  unfold floatRepr
  rw [whole, Option.getD_some]

/-- Two members, as they were written and as a sorted map keeps them. -/
theorem canonicalizers_agree_on_members :
    ∃ text, Jcs.Text.canonicalize ext integerText (.object [("a", .nat 5), ("b", .array [.string "x"])]) = .ok text ∧
      canonicalizeBytes floatRepr 10 (.object [("b", .array [.string "x"]), ("a", .nat 5)]) =
        if framesFor (.object [("b", .array [.string "x"]), ("a", .nat 5)]) ≤ 10 then .ok (octets text)
        else .error tooDeep := by
  apply canonicalizers_agree ext integerText_plain floatRepr_plain
  · exact .members (by decide) (List.Perm.swap _ _ _)
  · intro n member
    have five : n = .posInt 5 (by decide) := List.mem_singleton.mp member
    rw [five]
    exact Number.integral_of_safe (show 5 < 2 ^ 53 by decide)

/-- Empty arrays, each within the next. -/
def nested : Nat → Value
  | 0 => .array []
  | depth + 1 => .array [nested depth]

theorem nested_spec (depth : Nat) : (nested depth).Integers ∧ framesFor (nested depth) = depth + 1 := by
  induction depth with
  | zero => exact ⟨fun n none => absurd none List.not_mem_nil, rfl⟩
  | succ depth ih =>
      constructor
      · intro n member
        apply ih.1
        have within : n ∈ (nested depth).numbers ++ [] := member
        rwa [List.append_nil] at within
      · have inner : framesFor (nested (depth + 1)) = max (framesFor (nested depth)) 0 + 1 := rfl
        rw [inner, ih.2]
        omega

/-- A value nested as deep as an interpreter lets calls be has a canonical text the gateway does not write. -/
theorem deep_value_refused : ¬ ∀ value : Value, value.Integers →
    ∃ text, Jcs.Text.canonicalize ext integerText value = .ok text ∧
      canonicalizeBytes floatRepr 1000 value = .ok (octets text) := by
  intro claim
  obtain ⟨integers, frames⟩ := nested_spec 1000
  obtain ⟨text, _, written⟩ := claim (nested 1000) integers
  rw [canonicalizeBytes_eq floatRepr_plain integers, frames, if_neg (show ¬ 1000 + 1 ≤ 1000 by decide)] at written
  cases written

end Deployment

end Stozher
