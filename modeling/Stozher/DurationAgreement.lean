import Stozher.DurationSpelling

namespace Stozher.Durations

open Library Gateway.Durations

section

open Clock

variable {decimal : Char → Option Nat} {text rest : List Char} {unit : Char} {units : List Char} {group : Option (List Char)}
  {components : List Component}

/-- The component of a group that matched. -/
def piece (unit : Char) (group : Option (List Char)) : List Component :=
  (group.map (·, unit)).toList

/-- Digits before a unit, in every component, and units that are no digits. -/
def Proper (decimal : Char → Option Nat) (components : List Component) : Prop :=
  ∀ component ∈ components, component.1 ≠ [] ∧ (∀ c ∈ component.1, isDecimal decimal c = true) ∧
    isDecimal decimal component.2 = false

theorem proper_append {others : List Component} :
    Proper decimal (components ++ others) ↔ Proper decimal components ∧ Proper decimal others :=
  List.forall_mem_append

/-- What one optional group takes from a text. -/
theorem optionalUnit_takes (notDigit : isDecimal decimal unit = false) (taken : optionalUnit decimal unit text = (group, rest)) :
    text = flat (piece unit group) ++ rest ∧ Proper decimal (piece unit group) := by
  unfold optionalUnit at taken
  dsimp only at taken
  split at taken
  · rename_i matched
    obtain ⟨rfl, rfl⟩ := Prod.mk.inj taken
    have split := List.takeWhile_append_dropWhile (p := isDecimal decimal) (l := text)
    constructor
    · cases behind : text.dropWhile (isDecimal decimal) with
      | nil =>
          rw [behind] at matched
          exact absurd matched.2 (by simp)
      | cons c more =>
          rw [behind, List.head?_cons, Option.some.injEq] at matched
          rw [behind, matched.2] at split
          show text = flat [(text.takeWhile (isDecimal decimal), unit)] ++ more
          rw [flat_cons, List.append_assoc]
          exact split.symm
    · intro component member
      rw [List.mem_singleton.mp member]
      exact ⟨matched.1, fun c within => List.all_eq_true.mp List.all_takeWhile c within, notDigit⟩
  · obtain ⟨rfl, rfl⟩ := Prod.mk.inj taken
    exact ⟨rfl, fun component none => absurd none List.not_mem_nil⟩

/-- One optional group takes its own component, and no other's. -/
theorem optionalUnit_piece (proper : Proper decimal (piece unit group ++ components))
    (others : unit ∉ components.map Prod.snd) (stops : ∀ c, rest.head? = some c → isDecimal decimal c = false) :
    optionalUnit decimal unit (flat (piece unit group) ++ (flat components ++ rest)) =
      (group, flat components ++ rest) := by
  obtain ⟨own, proper⟩ := proper_append.mp proper
  have first : ∀ (digits more : List Char) (u : Char), (∀ c ∈ digits, isDecimal decimal c = true) →
      isDecimal decimal u = false → (digits ++ u :: more).takeWhile (isDecimal decimal) = digits ∧
        (digits ++ u :: more).dropWhile (isDecimal decimal) = u :: more := by
    intro digits more u all stop
    rw [List.takeWhile_append_of_pos all, List.dropWhile_append_of_pos all,
      List.takeWhile_cons_of_neg (by rw [stop]; decide), List.dropWhile_cons_of_neg (by rw [stop]; decide), List.append_nil]
    exact ⟨rfl, rfl⟩
  cases group with
  | some digits =>
      obtain ⟨some_, all, stop⟩ := own (digits, unit) List.mem_cons_self
      obtain ⟨run, behind⟩ := first digits (flat components ++ rest) unit all stop
      have text : flat (piece unit (some digits)) ++ (flat components ++ rest) =
          digits ++ unit :: (flat components ++ rest) := by
        show flat [(digits, unit)] ++ _ = _
        rw [flat_cons, List.append_assoc]
        rfl
      rw [text]
      unfold optionalUnit
      dsimp only
      rw [run, behind, if_pos ⟨some_, rfl⟩]
      rfl
  | none =>
      have text : flat (piece unit none) ++ (flat components ++ rest) = flat components ++ rest := rfl
      rw [text]
      unfold optionalUnit
      dsimp only
      apply if_neg
      rintro ⟨some_, head⟩
      cases components with
      | nil =>
          cases rest with
          | nil => exact some_ rfl
          | cons c more =>
              apply some_
              exact List.takeWhile_cons_of_neg (by rw [stops c rfl]; decide)
      | cons component components =>
          obtain ⟨_, all, stop⟩ := proper component List.mem_cons_self
          rw [flat_cons, List.append_assoc, List.cons_append] at head
          rw [(first component.1 (flat components ++ rest) component.2 all stop).2] at head
          exact others (List.mem_map.mpr ⟨component, List.mem_cons_self, Option.some.inj head⟩)

theorem optionalUnit_first (proper : Proper decimal (piece unit group ++ components))
    (others : unit ∉ components.map Prod.snd) :
    optionalUnit decimal unit (flat (piece unit group ++ components)) = (group, flat components) := by
  have taken := @optionalUnit_piece decimal [] unit group components proper others (fun c none => by cases none)
  have whole : flat (piece unit group ++ components) = flat (piece unit group) ++ flat components := by
    unfold flat
    rw [List.flatMap_append]
  rwa [List.append_nil, ← whole] at taken

/-- Components in the order of units begin with the first unit's, where there is one. -/
theorem ordered_pieces (ordered : (components.map Prod.snd).Sublist (unit :: units)) :
    ∃ group others, components = piece unit group ++ others ∧ (others.map Prod.snd).Sublist units := by
  rcases List.sublist_cons_iff.mp ordered with rest | ⟨more, same, rest⟩
  · exact ⟨none, components, rfl, rest⟩
  · cases components with
    | nil => cases same
    | cons component others =>
        obtain ⟨digits, u⟩ := component
        obtain ⟨rfl, tails⟩ := List.cons.inj same
        exact ⟨some digits, others, rfl, by rw [tails]; exact rest⟩

theorem pieces_ordered (groups : List (Option (List Char) × Char)) :
    ((groups.flatMap fun group => piece group.2 group.1).map Prod.snd).Sublist (groups.map Prod.snd) := by
  induction groups with
  | nil => exact List.Sublist.slnil
  | cons group rest ih =>
      obtain ⟨taken, u⟩ := group
      rw [List.flatMap_cons, List.map_append, List.map_cons]
      cases taken with
      | none => exact ih.cons u
      | some digits => exact ih.cons_cons u

theorem legal_of_proper (days hours minutes seconds : Option (List Char)) (part : Option (List Component))
    (isTime : part.getD [] = piece 'H' hours ++ (piece 'M' minutes ++ piece 'S' seconds))
    (proper : Proper decimal (piece 'D' days)) (proper' : Proper decimal (part.getD [])) :
    Spelling.Legal decimal ⟨piece 'D' days, part⟩ ∧ Spelling.Ordered ⟨piece 'D' days, part⟩ := by
  have date := pieces_ordered [(days, 'D')]
  have time := pieces_ordered [(hours, 'H'), (minutes, 'M'), (seconds, 'S')]
  simp only [List.flatMap_cons, List.flatMap_nil, List.append_nil, List.map_cons, List.map_nil] at date time
  rw [← isTime] at time
  refine ⟨⟨?_, ?_, ?_⟩, date, time⟩
  · intro component member
    rcases List.mem_append.mp member with inDate | inTime
    · exact ⟨(proper component inDate).1, (proper component inDate).2.1⟩
    · exact ⟨(proper' component inTime).1, (proper' component inTime).2.1⟩
  · exact fun component member => List.mem_singleton.mp (date.subset (List.mem_map_of_mem member))
  · exact fun component member => time.subset (List.mem_map_of_mem member)

theorem matchDuration_takes (ascii : AsciiDigits decimal) {groups : Groups} (matched : matchDuration decimal text = some groups) :
    ∃ spelling : Spelling, spelling.Legal decimal ∧ spelling.Ordered ∧ spelling.text = text ∧
      spelling.date = piece 'D' groups.days ∧
        spelling.time.getD [] = piece 'H' groups.hours ++ (piece 'M' groups.minutes ++ piece 'S' groups.seconds) := by
  unfold matchDuration at matched
  by_cases starts : text.head? ≠ some 'P'
  · rw [if_pos starts] at matched
    cases matched
  · rw [if_neg starts] at matched
    obtain ⟨tail, rfl⟩ : ∃ tail, text = 'P' :: tail := by
      cases text with
      | nil => exact absurd (by simp) starts
      | cons c tail => exact ⟨tail, by rw [Option.some.inj (not_not.mp starts)]⟩
    rw [List.drop_succ_cons, List.drop_zero] at matched
    obtain ⟨days, rest, taken⟩ : ∃ days rest, optionalUnit decimal 'D' tail = (days, rest) := ⟨_, _, rfl⟩
    obtain ⟨isTail, proper⟩ := optionalUnit_takes (unit_not_decimal ascii 'D' (by decide)) taken
    rw [taken] at matched
    dsimp only at matched
    by_cases ends : rest = []
    · rw [if_pos ends] at matched
      obtain rfl := Option.some.inj matched
      subst ends
      obtain ⟨legal, ordered⟩ := legal_of_proper days none none none none rfl proper (fun component none => absurd none List.not_mem_nil)
      exact ⟨⟨piece 'D' days, none⟩, legal, ordered, congrArg ('P' :: ·) isTail.symm, rfl, rfl⟩
    · rw [if_neg ends] at matched
      by_cases timed : rest.head? ≠ some 'T'
      · rw [if_pos timed] at matched
        cases matched
      · rw [if_neg timed] at matched
        obtain ⟨time, rfl⟩ : ∃ time, rest = 'T' :: time := by
          cases rest with
          | nil => contradiction
          | cons c time => exact ⟨time, by rw [Option.some.inj (not_not.mp timed)]⟩
        rw [List.drop_succ_cons, List.drop_zero] at matched
        obtain ⟨hours, behind, taken⟩ : ∃ hours behind, optionalUnit decimal 'H' time = (hours, behind) := ⟨_, _, rfl⟩
        obtain ⟨isTime, properHours⟩ := optionalUnit_takes (unit_not_decimal ascii 'H' (by decide)) taken
        rw [taken] at matched
        dsimp only at matched
        obtain ⟨minutes, more, taken⟩ : ∃ minutes more, optionalUnit decimal 'M' behind = (minutes, more) := ⟨_, _, rfl⟩
        obtain ⟨isBehind, properMinutes⟩ := optionalUnit_takes (unit_not_decimal ascii 'M' (by decide)) taken
        rw [taken] at matched
        dsimp only at matched
        obtain ⟨seconds, last, taken⟩ : ∃ seconds last, optionalUnit decimal 'S' more = (seconds, last) := ⟨_, _, rfl⟩
        obtain ⟨isMore, properSeconds⟩ := optionalUnit_takes (unit_not_decimal ascii 'S' (by decide)) taken
        rw [taken] at matched
        dsimp only at matched
        by_cases whole : last = []
        · rw [if_pos whole] at matched
          obtain rfl := Option.some.inj matched
          subst whole
          have proper' := proper_append.mpr ⟨properHours, proper_append.mpr ⟨properMinutes, properSeconds⟩⟩
          obtain ⟨legal, ordered⟩ := legal_of_proper days hours minutes seconds (some _) rfl proper proper'
          refine ⟨⟨piece 'D' days, some _⟩, legal, ordered, ?_, rfl, rfl⟩
          show 'P' :: (flat (piece 'D' days) ++ 'T' :: flat (piece 'H' hours ++ (piece 'M' minutes ++ piece 'S' seconds))) = _
          rw [isTail, isTime, isBehind, isMore]
          unfold flat
          rw [List.flatMap_append, List.flatMap_append, List.append_nil]
        · rw [if_neg whole] at matched
          cases matched

theorem matchDuration_text (ascii : AsciiDigits decimal) {spelling : Spelling} (legal : spelling.Legal decimal)
    (ordered : spelling.Ordered) : ∃ groups, matchDuration decimal spelling.text = some groups ∧
      spelling.date = piece 'D' groups.days ∧
        spelling.time.getD [] = piece 'H' groups.hours ++ (piece 'M' groups.minutes ++ piece 'S' groups.seconds) := by
  have properDate : Proper decimal spelling.date := legal.date_component ascii
  have properTime : Proper decimal (spelling.time.getD []) := legal.time_component ascii
  obtain ⟨date, part⟩ := spelling
  obtain ⟨days, none_, isDate, nothing⟩ := ordered_pieces ordered.1
  obtain rfl := List.map_eq_nil_iff.mp (List.sublist_nil.mp nothing)
  rw [List.append_nil] at isDate
  have dateIs : date = piece 'D' days := isDate
  subst dateIs
  have noDecimal : ∀ c, ((part.map fun time => 'T' :: flat time).getD []).head? = some c → isDecimal decimal c = false := by
    intro c first
    cases part with
    | none => cases first
    | some time =>
        rw [← Option.some.inj first]
        exact unit_not_decimal ascii 'T' (by decide)
  have day : optionalUnit decimal 'D' (flat (piece 'D' days) ++ (part.map fun time => 'T' :: flat time).getD []) =
      (days, (part.map fun time => 'T' :: flat time).getD []) := by
    exact @optionalUnit_piece decimal _ 'D' days [] (by rw [List.append_nil]; exact properDate) (by simp) noDecimal
  unfold matchDuration Spelling.text
  rw [if_neg (fun other => other rfl), List.drop_succ_cons, List.drop_zero]
  dsimp only
  rw [day]
  dsimp only
  cases part with
  | none => exact ⟨_, if_pos rfl, rfl, rfl⟩
  | some time =>
      obtain ⟨hours, others, isTime, rest⟩ := ordered_pieces ordered.2
      obtain ⟨minutes, others', isOthers, rest'⟩ := ordered_pieces rest
      obtain ⟨seconds, none_, isLast, nothing⟩ := ordered_pieces rest'
      obtain rfl := List.map_eq_nil_iff.mp (List.sublist_nil.mp nothing)
      rw [List.append_nil] at isLast
      have timeIs : time = piece 'H' hours ++ (piece 'M' minutes ++ piece 'S' seconds) := by
        rw [← isLast, ← isOthers]
        exact isTime
      subst timeIs
      have proper : Proper decimal (piece 'H' hours ++ (piece 'M' minutes ++ piece 'S' seconds)) := properTime
      have later := (proper_append.mp proper).2
      have last := (proper_append.mp later).2
      have noHour : 'H' ∉ (piece 'M' minutes ++ piece 'S' seconds).map Prod.snd := by
        rw [← isLast, ← isOthers]
        exact fun member => absurd (rest.subset member) (by decide)
      have noMinute : 'M' ∉ (piece 'S' seconds).map Prod.snd := by
        rw [← isLast]
        exact fun member => absurd (rest'.subset member) (by decide)
      have hour := optionalUnit_first proper noHour
      have minute := optionalUnit_first later noMinute
      have second : optionalUnit decimal 'S' (flat (piece 'S' seconds)) = (seconds, []) := by
        have taken := @optionalUnit_first decimal 'S' seconds [] (by rw [List.append_nil]; exact last) (by simp)
        rwa [List.append_nil] at taken
      refine ⟨⟨days, hours, minutes, seconds⟩, ?_, rfl, rfl⟩
      rw [if_neg (fun none => nomatch none), if_neg (fun other => other rfl)]
      have behind : ((Option.map (fun time => 'T' :: flat time)
          (some (piece 'H' hours ++ (piece 'M' minutes ++ piece 'S' seconds)))).getD []).drop 1 =
            flat (piece 'H' hours ++ (piece 'M' minutes ++ piece 'S' seconds)) := rfl
      rw [behind, hour]
      dsimp only
      rw [minute]
      dsimp only
      rw [second]
      exact if_pos rfl

theorem int_eq_ok {number : Nat} : int decimal group = .ok number ↔
    (∀ digits, group = some digits → digits.length ≤ maxStrDigits) ∧ number = value decimal (group.getD []) := by
  unfold int
  cases group with
  | none => exact ⟨fun same => ⟨fun _ some_ => (nomatch some_), (Except.ok.inj same).symm⟩, fun both => both.2 ▸ rfl⟩
  | some digits =>
      dsimp only
      by_cases long : maxStrDigits < digits.length
      · rw [if_pos long]
        exact iff_of_false (fun same => nomatch same) fun both => absurd (both.1 digits rfl) (Nat.not_le.mpr long)
      · rw [if_neg long, Except.ok.injEq]
        exact ⟨fun same => ⟨fun _ same => Option.some.inj same ▸ Nat.not_lt.mp long, same.symm⟩, fun both => both.2.symm⟩

theorem componentsTotal_piece (unit : Char) (group : Option (List Char)) :
    componentsTotal decimal (piece unit group) = value decimal (group.getD []) * unitScale unit := by
  cases group with
  | none => exact (Nat.zero_mul _).symm
  | some digits => exact Nat.add_zero _

theorem short_piece : (∀ component ∈ piece unit group, component.1.length ≤ maxStrDigits) ↔
    ∀ digits, group = some digits → digits.length ≤ maxStrDigits := by
  cases group with
  | none => exact iff_of_true (fun component none => absurd none List.not_mem_nil) fun _ some_ => nomatch some_
  | some digits =>
      constructor
      · exact fun short more same => Option.some.inj same ▸ short (digits, unit) List.mem_cons_self
      · intro short component member
        rw [List.mem_singleton.mp member]
        exact short digits rfl

theorem componentsTotal_append (first second : List Component) :
    componentsTotal decimal (first ++ second) = componentsTotal decimal first + componentsTotal decimal second := by
  unfold componentsTotal
  rw [List.map_append, List.sum_append]

/-- What the gateway accepts: components in order, of numbers Python reads. -/
theorem parseDuration_iff (ascii : AsciiDigits decimal) {text : String} {total : Nat} :
    parseDuration decimal text = .ok total ↔ ∃ spelling : Spelling, spelling.Legal decimal ∧ spelling.Ordered ∧
      spelling.Short ∧ spelling.text = text.toList ∧ spelling.total decimal = total := by
  have short : ∀ {spelling : Spelling} {groups : Groups}, spelling.date = piece 'D' groups.days →
      spelling.time.getD [] = piece 'H' groups.hours ++ (piece 'M' groups.minutes ++ piece 'S' groups.seconds) →
        (spelling.Short ↔ (∀ digits, groups.days = some digits → digits.length ≤ maxStrDigits) ∧
          (∀ digits, groups.hours = some digits → digits.length ≤ maxStrDigits) ∧
          (∀ digits, groups.minutes = some digits → digits.length ≤ maxStrDigits) ∧
            ∀ digits, groups.seconds = some digits → digits.length ≤ maxStrDigits) ∧
        spelling.total decimal = value decimal (groups.days.getD []) * 86400 + value decimal (groups.hours.getD []) * 3600 +
          value decimal (groups.minutes.getD []) * 60 + value decimal (groups.seconds.getD []) := by
    intro spelling groups date time
    constructor
    · unfold Spelling.Short Spelling.all
      rw [date, time, List.forall_mem_append, List.forall_mem_append, List.forall_mem_append, short_piece, short_piece,
        short_piece, short_piece]
    · rw [total_eq, date, time, componentsTotal_append, componentsTotal_append, componentsTotal_piece,
        componentsTotal_piece, componentsTotal_piece, componentsTotal_piece]
      have scales : unitScale 'D' = 86400 ∧ unitScale 'H' = 3600 ∧ unitScale 'M' = 60 ∧ unitScale 'S' = 1 := by decide
      rw [scales.1, scales.2.1, scales.2.2.1, scales.2.2.2]
      omega
  unfold parseDuration
  simp only [bind_eq_ok, okOr_eq_ok, pure_eq_ok, int_eq_ok]
  constructor
  · rintro ⟨groups, matched, _, ⟨days, rfl⟩, _, ⟨hours, rfl⟩, _, ⟨minutes, rfl⟩, _, ⟨seconds, rfl⟩, rfl⟩
    obtain ⟨spelling, legal, ordered, isText, date, time⟩ := matchDuration_takes ascii matched
    obtain ⟨shorts, total⟩ := short date time
    exact ⟨spelling, legal, ordered, shorts.mpr ⟨days, hours, minutes, seconds⟩, isText, total⟩
  · rintro ⟨spelling, legal, ordered, shortAll, isText, rfl⟩
    obtain ⟨groups, matched, date, time⟩ := matchDuration_text ascii legal ordered
    obtain ⟨shorts, total⟩ := short date time
    obtain ⟨days, hours, minutes, seconds⟩ := shorts.mp shortAll
    rw [isText] at matched
    exact ⟨groups, matched, _, ⟨days, rfl⟩, _, ⟨hours, rfl⟩, _, ⟨minutes, rfl⟩, _, ⟨seconds, rfl⟩, total.symm⟩

end

/-- Where a text is spelled with components whose total fits, it is all right, or wrong for both readers: its
components are filled exactly where they are in order and short. -/
def Agrees (decimal : Char → Option Nat) (text : String) : Prop :=
  ∀ spelling : Spelling, spelling.Legal decimal → spelling.text = text.toList → spelling.total decimal < 2 ^ 63 →
    (spelling.Filled ↔ spelling.Ordered ∧ spelling.Short)

/-- A duration means one thing to the kernel, the gateway and the grammar exactly where its components do. -/
theorem means_one_thing_iff {decimal : Char → Option Nat} (ascii : AsciiDigits decimal) (text : String) :
    MeansOneThing decimal text ↔ Agrees decimal text := by
  have kernel : ∀ {spelling : Spelling}, spelling.Legal decimal → spelling.text = text.toList →
      ∀ total : Nat, Clock.parseDurationSeconds text = .ok (total : Int) ↔
        spelling.Filled ∧ spelling.total decimal < 2 ^ 63 ∧ spelling.total decimal = total := by
    intro spelling legal isText total
    rw [parseDurationSeconds_iff ascii]
    constructor
    · rintro ⟨other, legal', filled, isText', fits, same⟩
      obtain rfl := Spelling.unique ascii legal legal' (isText.trans isText'.symm)
      exact ⟨filled, fits, (Int.ofNat_inj.mp same).symm⟩
    · rintro ⟨filled, fits, same⟩
      exact ⟨spelling, legal, filled, isText, fits, by rw [same]⟩
  have gateway : ∀ {spelling : Spelling}, spelling.Legal decimal → spelling.text = text.toList →
      ∀ total : Nat, parseDuration decimal text = .ok total ↔
        (spelling.Ordered ∧ spelling.Short) ∧ spelling.total decimal = total := by
    intro spelling legal isText total
    rw [parseDuration_iff ascii]
    constructor
    · rintro ⟨other, legal', ordered, short, isText', same⟩
      obtain rfl := Spelling.unique ascii legal legal' (isText.trans isText'.symm)
      exact ⟨⟨ordered, short⟩, same⟩
    · rintro ⟨⟨ordered, short⟩, same⟩
      exact ⟨spelling, legal, ordered, short, isText, same⟩
  constructor
  · rintro ⟨grammar, both⟩ spelling legal isText fits
    have read := kernel legal isText (spelling.total decimal)
    have taken := gateway legal isText (spelling.total decimal)
    have same := both (spelling.total decimal) fits
    rw [read, taken] at same
    exact ⟨fun filled => (same.mpr ⟨filled, fits, rfl⟩).1, fun right => (same.mp ⟨right, rfl⟩).1⟩
  · intro agrees
    constructor
    · intro read
      constructor
      · intro accepted
        obtain ⟨spelling, legal, filled, isText, fits, rfl⟩ := (parseDurationSeconds_iff ascii).mp accepted
        have right := (agrees spelling legal isText fits).mp filled
        exact ⟨_, rfl, fits, spelling, legal, right.1, filled, isText, rfl⟩
      · rintro ⟨total, rfl, fits, spelling, legal, _, filled, isText, rfl⟩
        exact (kernel legal isText _).mpr ⟨filled, fits, rfl⟩
    · intro total fits
      constructor
      · intro accepted
        obtain ⟨spelling, legal, ordered, short, isText, rfl⟩ := (parseDuration_iff ascii).mp accepted
        exact (kernel legal isText _).mpr ⟨(agrees spelling legal isText fits).mpr ⟨ordered, short⟩, fits, rfl⟩
      · intro accepted
        obtain ⟨spelling, legal, filled, isText, inRange, same⟩ := (parseDurationSeconds_iff ascii).mp accepted
        exact (gateway legal isText _).mpr ⟨(agrees spelling legal isText inRange).mp filled, (Int.ofNat_inj.mp same).symm⟩

/-- The zeros of the decimal digits of Unicode 14, each followed by its nine others. -/
def decimalZeros : List Nat :=
  [0x30, 0x660, 0x6f0, 0x7c0, 0x966, 0x9e6, 0xa66, 0xae6, 0xb66, 0xbe6, 0xc66, 0xce6, 0xd66, 0xde6, 0xe50,
    0xed0, 0xf20, 0x1040, 0x1090, 0x17e0, 0x1810, 0x1946, 0x19d0, 0x1a80, 0x1a90, 0x1b50, 0x1bb0, 0x1c40,
    0x1c50, 0xa620, 0xa8d0, 0xa900, 0xa9d0, 0xa9f0, 0xaa50, 0xabf0, 0xff10, 0x104a0, 0x10d30, 0x11066,
    0x110f0, 0x11136, 0x111d0, 0x112f0, 0x11450, 0x114d0, 0x11650, 0x116c0, 0x11730, 0x118e0, 0x11950,
    0x11c50, 0x11d50, 0x11da0, 0x16a60, 0x16ac0, 0x16b50, 0x1d7ce, 0x1d7d8, 0x1d7e2, 0x1d7ec, 0x1d7f6,
    0x1e140, 0x1e2f0, 0x1e950, 0x1fbf0]

def decimalDigit (c : Char) : Option Nat :=
  (decimalZeros.find? fun first => first ≤ c.toNat && c.toNat < first + 10).map (c.toNat - ·)

theorem decimalDigit_ascii : AsciiDigits decimalDigit where
  digit := by
    rintro c ⟨first, last⟩
    have low : 48 ≤ c.toNat := first
    have high : c.toNat ≤ 57 := last
    unfold decimalDigit decimalZeros
    rw [List.find?_cons_of_pos]
    · rfl
    · rw [Bool.and_eq_true, decide_eq_true_iff, decide_eq_true_iff]
      exact ⟨low, by omega⟩
  other := by
    intro c small notDigit
    have zeros : ∀ first ∈ decimalZeros, first = 48 ∨ 128 ≤ first := by decide
    unfold decimalDigit
    rw [Option.map_eq_none_iff, List.find?_eq_none]
    intro first member within
    rw [Bool.and_eq_true, decide_eq_true_iff, decide_eq_true_iff] at within
    rcases zeros first member with rfl | large
    · have high : c.toNat ≤ 57 := by omega
      exact notDigit ⟨within.1, high⟩
    · omega

/-- Seconds before hours: the kernel reads them, the gateway does not. -/
theorem misordered_duration_read : ¬MeansOneThing decimalDigit "PT1S1H" := by
  intro claim
  have read : Clock.parseDurationSeconds "PT1S1H" = .ok ((3601 : Nat) : Int) := by decide +kernel
  have taken := (claim.2 3601 (by decide)).mpr read
  exact absurd taken (by decide +kernel)

/-- A day and two hours, in order and in ASCII digits. -/
theorem ordered_duration_means_one_thing : MeansOneThing decimalDigit "P1DT2H" := by
  have legal : Spelling.Legal decimalDigit ⟨[(['1'], 'D')], some [(['2'], 'H')]⟩ :=
    { digits := List.forall_mem_cons.mpr ⟨⟨by decide, List.forall_mem_singleton.mpr (by decide)⟩,
        List.forall_mem_singleton.mpr ⟨by decide, List.forall_mem_singleton.mpr (by decide)⟩⟩
      date := List.forall_mem_singleton.mpr rfl
      time := List.forall_mem_singleton.mpr (by decide) }
  apply (means_one_thing_iff decimalDigit_ascii "P1DT2H").mpr
  intro spelling legal' isText _
  obtain rfl := Spelling.unique decimalDigit_ascii legal' legal (isText.trans (by decide))
  have ascii : ∀ component ∈ [(['1'], 'D'), (['2'], 'H')], ∀ c ∈ component.1, '0' ≤ c ∧ c ≤ '9' :=
    List.forall_mem_cons.mpr ⟨List.forall_mem_singleton.mpr (by decide),
      List.forall_mem_singleton.mpr (List.forall_mem_singleton.mpr (by decide))⟩
  have short : ∀ component ∈ [(['1'], 'D'), (['2'], 'H')], component.1.length ≤ maxStrDigits :=
    List.forall_mem_cons.mpr ⟨by decide, List.forall_mem_singleton.mpr (by decide)⟩
  exact iff_of_true ⟨by decide, by decide, ascii⟩ ⟨⟨by decide, by decide⟩, short⟩

end Stozher.Durations
