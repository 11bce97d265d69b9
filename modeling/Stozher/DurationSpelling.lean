import Stozher.Clock
import Stozher.Gateway.Durations
import Mathlib.Data.List.Sublists
import Mathlib.Data.List.TakeWhile
import Mathlib.Tactic.Ring

namespace Stozher.Durations

open Library Gateway.Durations

/-- What the gateway takes from Python: which ASCII characters are decimal digits. -/
structure AsciiDigits (decimal : Char → Option Nat) : Prop where
  digit : ∀ c : Char, '0' ≤ c ∧ c ≤ '9' → decimal c = some (c.toNat - 48)
  other : ∀ c : Char, c.toNat < 128 → ¬('0' ≤ c ∧ c ≤ '9') → decimal c = none

/-- Digits and the unit behind them. -/
abbrev Component := List Char × Char

def flat (components : List Component) : List Char :=
  components.flatMap fun component => component.1 ++ [component.2]

/-- The components of a duration's text: those before a `T`, and those behind one. -/
structure Spelling where
  date : List Component
  time : Option (List Component)

namespace Spelling

variable (decimal : Char → Option Nat)

def all (spelling : Spelling) : List Component :=
  spelling.date ++ spelling.time.getD []

def text (spelling : Spelling) : List Char :=
  'P' :: (flat spelling.date ++ (spelling.time.map fun time => 'T' :: flat time).getD [])

def total (spelling : Spelling) : Nat :=
  (spelling.all.map fun component => value decimal component.1 * Clock.unitScale component.2).sum

/-- The units of the place of each component, whatever digits stand before them. -/
structure Legal (spelling : Spelling) : Prop where
  digits : ∀ component ∈ spelling.all, component.1 ≠ [] ∧ ∀ c ∈ component.1, isDecimal decimal c = true
  date : ∀ component ∈ spelling.date, component.2 = 'D'
  time : ∀ component ∈ spelling.time.getD [], component.2 ∈ ['H', 'M', 'S']

/-- Each unit at most once, and in their order. -/
def Ordered (spelling : Spelling) : Prop :=
  (spelling.date.map Prod.snd).Sublist ['D'] ∧ ((spelling.time.getD []).map Prod.snd).Sublist ['H', 'M', 'S']

/-- A component at all, one behind a `T`, and ASCII digits only. -/
def Filled (spelling : Spelling) : Prop :=
  spelling.all ≠ [] ∧ spelling.time ≠ some [] ∧ ∀ component ∈ spelling.all, ∀ c ∈ component.1, '0' ≤ c ∧ c ≤ '9'

/-- No number longer than Python reads. -/
def Short (spelling : Spelling) : Prop :=
  ∀ component ∈ spelling.all, component.1.length ≤ maxStrDigits

end Spelling

/-- `P[nD][T[nH][nM][nS]]` with at least one component, and at least one behind a `T`. -/
def Denotes (decimal : Char → Option Nat) (text : String) (total : Nat) : Prop :=
  ∃ spelling : Spelling, spelling.Legal decimal ∧ spelling.Ordered ∧ spelling.Filled ∧
    spelling.text = text.toList ∧ spelling.total decimal = total

/-- The kernel reads exactly the durations that fit, and the gateway reads them alike. -/
def MeansOneThing (decimal : Char → Option Nat) (text : String) : Prop :=
  (∀ read : Int, Clock.parseDurationSeconds text = .ok read ↔
    ∃ total : Nat, read = total ∧ total < 2 ^ 63 ∧ Denotes decimal text total) ∧
      ∀ total : Nat, total < 2 ^ 63 →
        (parseDuration decimal text = .ok total ↔ Clock.parseDurationSeconds text = .ok (total : Int))

section

variable {decimal : Char → Option Nat}

theorem flat_cons (component : Component) (rest : List Component) :
    flat (component :: rest) = component.1 ++ component.2 :: flat rest := by
  unfold flat
  rw [List.flatMap_cons, List.append_assoc, List.singleton_append]

/-- A run of digits up to a character that is none is told by what follows it. -/
theorem run_unique {p : Char → Bool} {first second rest others : List Char} {u v : Char}
    (all : ∀ c ∈ first, p c = true) (all' : ∀ c ∈ second, p c = true) (stop : p u = false) (stop' : p v = false)
    (same : first ++ u :: rest = second ++ v :: others) : first = second ∧ u = v ∧ rest = others := by
  have run : (first ++ u :: rest).takeWhile p = first := by
    rw [List.takeWhile_append_of_pos all, List.takeWhile_cons_of_neg (by rw [stop]; decide), List.append_nil]
  have run' : (second ++ v :: others).takeWhile p = second := by
    rw [List.takeWhile_append_of_pos all', List.takeWhile_cons_of_neg (by rw [stop']; decide), List.append_nil]
  have digits : first = second := by rw [← run, same, run']
  rw [digits] at same
  have tails := List.append_cancel_left same
  exact ⟨digits, (List.cons.inj tails).1, (List.cons.inj tails).2⟩

theorem unit_not_decimal (ascii : AsciiDigits decimal) : ∀ u ∈ ['D', 'H', 'M', 'S', 'T', 'P'], isDecimal decimal u = false := by
  intro u member
  have plain : u.toNat < 128 ∧ ¬('0' ≤ u ∧ u ≤ '9') := by
    simp only [List.mem_cons, List.not_mem_nil, or_false] at member
    rcases member with rfl | rfl | rfl | rfl | rfl | rfl <;> decide
  unfold isDecimal
  rw [ascii.other u plain.1 plain.2]
  rfl

/-- Components are told apart in their text, up to where it ends or a `T` stands. -/
theorem flat_unique {first second : List Component} {rest others : List Char}
    (legal : ∀ component ∈ first, component.1 ≠ [] ∧ (∀ c ∈ component.1, isDecimal decimal c = true) ∧
      isDecimal decimal component.2 = false)
    (legal' : ∀ component ∈ second, component.1 ≠ [] ∧ (∀ c ∈ component.1, isDecimal decimal c = true) ∧
      isDecimal decimal component.2 = false)
    (stops : ∀ c, rest.head? = some c → isDecimal decimal c = false)
    (stops' : ∀ c, others.head? = some c → isDecimal decimal c = false)
    (same : flat first ++ rest = flat second ++ others) : first = second ∧ rest = others := by
  have digitFirst : ∀ (component : Component) (more text : List Char),
      component.1 ≠ [] → (∀ c ∈ component.1, isDecimal decimal c = true) →
        ¬(component.1 ++ more = text ∧ ∀ c, text.head? = some c → isDecimal decimal c = false) := by
    rintro ⟨digits, unit⟩ more text some_ all ⟨rfl, none⟩
    cases digits with
    | nil => exact some_ rfl
    | cons c digits =>
        have stop := none c rfl
        rw [all c List.mem_cons_self] at stop
        cases stop
  induction first generalizing second with
  | nil =>
      cases second with
      | nil => exact ⟨rfl, same⟩
      | cons component second =>
          obtain ⟨some_, all, _⟩ := legal' component List.mem_cons_self
          rw [flat_cons, List.append_assoc] at same
          exact absurd ⟨same.symm, stops⟩ (digitFirst component _ rest some_ all)
  | cons component first ih =>
      obtain ⟨some_, all, stop⟩ := legal component List.mem_cons_self
      cases second with
      | nil =>
          rw [flat_cons, List.append_assoc] at same
          exact absurd ⟨same, stops'⟩ (digitFirst component _ others some_ all)
      | cons component' second =>
          obtain ⟨_, all', stop'⟩ := legal' component' List.mem_cons_self
          rw [flat_cons, flat_cons, List.append_assoc, List.append_assoc, List.cons_append, List.cons_append] at same
          obtain ⟨digits, unit, tails⟩ := run_unique all all' stop stop' same
          obtain ⟨more, ends⟩ := ih (fun component member => legal component (List.mem_cons_of_mem _ member))
            (fun component member => legal' component (List.mem_cons_of_mem _ member)) tails
          exact ⟨by rw [more, Prod.ext digits unit], ends⟩

namespace Spelling

variable {spelling other : Spelling}

theorem Legal.date_component (ascii : AsciiDigits decimal) (legal : spelling.Legal decimal) :
    ∀ component ∈ spelling.date, component.1 ≠ [] ∧ (∀ c ∈ component.1, isDecimal decimal c = true) ∧
      isDecimal decimal component.2 = false := by
  intro component member
  obtain ⟨some_, all⟩ := legal.digits component (List.mem_append_left _ member)
  refine ⟨some_, all, unit_not_decimal ascii _ ?_⟩
  rw [legal.date component member]
  decide

theorem Legal.time_component (ascii : AsciiDigits decimal) (legal : spelling.Legal decimal) :
    ∀ component ∈ spelling.time.getD [], component.1 ≠ [] ∧ (∀ c ∈ component.1, isDecimal decimal c = true) ∧
      isDecimal decimal component.2 = false := by
  intro component member
  obtain ⟨some_, all⟩ := legal.digits component (List.mem_append_right _ member)
  refine ⟨some_, all, unit_not_decimal ascii _ ?_⟩
  have units : ['H', 'M', 'S'].Sublist ['D', 'H', 'M', 'S', 'T', 'P'] := by decide
  exact units.subset (legal.time component member)

/-- A text has one spelling. -/
theorem unique (ascii : AsciiDigits decimal) (legal : spelling.Legal decimal) (legal' : other.Legal decimal)
    (same : spelling.text = other.text) : spelling = other := by
  have tailStops : ∀ (time : Option (List Component)) (c : Char),
      ((time.map fun time => 'T' :: flat time).getD []).head? = some c → isDecimal decimal c = false := by
    intro time c first
    cases time with
    | none => cases first
    | some time =>
        rw [← Option.some.inj first]
        exact unit_not_decimal ascii 'T' (by decide)
  obtain ⟨dates, times⟩ := flat_unique (legal.date_component ascii) (legal'.date_component ascii)
    (tailStops spelling.time) (tailStops other.time) (List.cons.inj same).2
  have timed := legal.time_component ascii
  have timed' := legal'.time_component ascii
  obtain ⟨date, time⟩ := spelling
  obtain ⟨date', time'⟩ := other
  have sameDate : date = date' := dates
  subst sameDate
  congr 1
  cases time with
  | none =>
      cases time' with
      | none => rfl
      | some time' => cases times
  | some time =>
      cases time' with
      | none => cases times
      | some time' =>
          have flats : flat time ++ [] = flat time' ++ [] := by
            rw [List.append_nil, List.append_nil]
            exact (List.cons.inj times).2
          have one := flat_unique timed timed' (fun c none => by cases none) (fun c none => by cases none) flats
          exact congrArg some one.1

end Spelling

theorem decimal_ascii (ascii : AsciiDigits decimal) {c : Char} (digit : '0' ≤ c ∧ c ≤ '9') :
    isDecimal decimal c = true ∧ (decimal c).getD 0 = c.toNat - 48 := by
  unfold isDecimal
  rw [ascii.digit c digit]
  exact ⟨rfl, rfl⟩

theorem value_concat (ascii : AsciiDigits decimal) (digits : List Char) {c : Char} (digit : '0' ≤ c ∧ c ≤ '9') :
    value decimal (digits ++ [c]) = value decimal digits * 10 + (c.toNat - 48) := by
  unfold value
  rw [List.foldl_append, List.foldl_cons, List.foldl_nil, (decimal_ascii ascii digit).2]

end

section

open Clock

variable {decimal : Char → Option Nat} {text : String} {units : List Char} {scan next : DurationScan} {c : Char}

theorem scanDuration_digit (digit : '0' ≤ c ∧ c ≤ '9') : scanDuration text units scan c = .ok next ↔
    scan.digits * 10 + (c.toNat - 48) < 2 ^ 63 ∧
      next = { scan with digits := scan.digits * 10 + (c.toNat - 48), haveDigits := true } := by
  unfold scanDuration
  dsimp only
  rw [if_pos digit, require_bind_eq_ok, pure_eq_ok]
  exact and_congr_right fun _ => eq_comm

theorem scanDuration_unit (notDigit : ¬('0' ≤ c ∧ c ≤ '9')) (listed : c ∈ units) :
    scanDuration text units scan c = .ok next ↔ scan.haveDigits = true ∧
      scan.total + scan.digits * unitScale c < 2 ^ 63 ∧
        next = { total := scan.total + scan.digits * unitScale c, digits := 0, haveDigits := false, sawComponent := true } := by
  unfold scanDuration
  dsimp only
  rw [if_neg notDigit, if_pos listed, require_bind_eq_ok, require_bind_eq_ok, pure_eq_ok]
  exact and_congr_right fun _ => and_congr_right fun _ => eq_comm

theorem scanDuration_other (notDigit : ¬('0' ≤ c ∧ c ≤ '9')) (unlisted : c ∉ units) :
    scanDuration text units scan c ≠ .ok next := by
  unfold scanDuration
  dsimp only
  rw [if_neg notDigit, if_neg unlisted]
  exact fun same => nomatch same

theorem value_le (ascii : AsciiDigits decimal) (digits : List Char) {more : List Char}
    (all : ∀ c ∈ more, '0' ≤ c ∧ c ≤ '9') : value decimal digits ≤ value decimal (digits ++ more) := by
  induction more generalizing digits with
  | nil => rw [List.append_nil]
  | cons c more ih =>
      have one := value_concat ascii digits (all c List.mem_cons_self)
      have rest := ih (digits ++ [c]) fun c member => all c (List.mem_cons_of_mem _ member)
      rw [List.append_assoc, List.singleton_append] at rest
      omega

/-- The scanner over the digits of a number that fits. -/
theorem scan_digits (ascii : AsciiDigits decimal) {digits more : List Char} (all : ∀ c ∈ more, '0' ≤ c ∧ c ≤ '9')
    (held : scan.digits = value decimal digits) (fits : value decimal (digits ++ more) < 2 ^ 63) (some_ : more ≠ []) :
    foldChecked (scanDuration text units) scan more =
      .ok { scan with digits := value decimal (digits ++ more), haveDigits := true } := by
  induction more generalizing digits scan with
  | nil => exact absurd rfl some_
  | cons c more ih =>
      have digit := all c List.mem_cons_self
      have rest : ∀ c ∈ more, '0' ≤ c ∧ c ≤ '9' := fun c member => all c (List.mem_cons_of_mem _ member)
      have one := value_concat ascii digits digit
      have split : digits ++ c :: more = digits ++ [c] ++ more := by rw [List.append_assoc, List.singleton_append]
      have below := value_le ascii (digits ++ [c]) rest
      rw [split] at fits ⊢
      have step : scanDuration text units scan c =
          .ok { scan with digits := value decimal (digits ++ [c]), haveDigits := true } := by
        rw [scanDuration_digit digit, held, ← one]
        exact ⟨by omega, rfl⟩
      rw [foldChecked_cons, step, ok_bind]
      cases more with
      | nil =>
          rw [foldChecked_nil, List.append_nil]
      | cons d more =>
          rw [ih rest rfl fits (by simp)]

def componentsTotal (decimal : Char → Option Nat) (components : List Component) : Nat :=
  (components.map fun component => value decimal component.1 * unitScale component.2).sum

theorem unitScale_pos (unit : Char) : 0 < unitScale unit := by
  unfold unitScale
  split
  · decide
  · split
    · decide
    · split <;> decide

/-- The scanner over components whose total fits. -/
theorem scan_components (ascii : AsciiDigits decimal) {components : List Component}
    (legal : ∀ component ∈ components, component.1 ≠ [] ∧ (∀ c ∈ component.1, '0' ≤ c ∧ c ≤ '9') ∧
      component.2 ∈ units ∧ ¬('0' ≤ component.2 ∧ component.2 ≤ '9'))
    (fits : scan.total + componentsTotal decimal components < 2 ^ 63) (idle : scan.digits = 0 ∧ scan.haveDigits = false) :
    foldChecked (scanDuration text units) scan (flat components) =
      .ok { total := scan.total + componentsTotal decimal components, digits := 0, haveDigits := false,
            sawComponent := scan.sawComponent || !components.isEmpty } := by
  induction components generalizing scan with
  | nil =>
      obtain ⟨total, digits, haveDigits, saw⟩ := scan
      obtain ⟨rfl, rfl⟩ := idle
      have seen : saw = (saw || !([] : List Component).isEmpty) := (Bool.or_false saw).symm
      exact congrArg (fun saw => Except.ok (DurationScan.mk total 0 false saw)) seen
  | cons component rest ih =>
      obtain ⟨some_, all, listed, notDigit⟩ := legal component List.mem_cons_self
      have sum : componentsTotal decimal (component :: rest) =
          value decimal component.1 * unitScale component.2 + componentsTotal decimal rest := by
        unfold componentsTotal
        rw [List.map_cons, List.sum_cons]
      have scaled := Nat.le_mul_of_pos_right (value decimal component.1) (unitScale_pos component.2)
      have run := @scan_digits _ text units scan ascii [] component.1 all idle.1
        (by rw [List.nil_append]; omega) some_
      rw [List.nil_append] at run
      have closed : scanDuration text units
          { scan with digits := value decimal component.1, haveDigits := true } component.2 =
            .ok { total := scan.total + value decimal component.1 * unitScale component.2, digits := 0,
                  haveDigits := false, sawComponent := true } := by
        rw [scanDuration_unit notDigit listed]
        exact ⟨rfl, by show scan.total + value decimal component.1 * unitScale component.2 < 2 ^ 63; omega, rfl⟩
      rw [flat_cons, foldChecked_append, run, ok_bind, foldChecked_cons, closed, ok_bind]
      rw [ih (fun component member => legal component (List.mem_cons_of_mem _ member)) (by show scan.total + _ + _ < _; omega)
        ⟨rfl, rfl⟩]
      congr 1
      rw [sum, ← Nat.add_assoc]
      simp

/-- What the scanner accepts is components. -/
theorem components_of_scan (ascii : AsciiDigits decimal) {chars digits : List Char} {final : DurationScan}
    (scanned : foldChecked (scanDuration text units) scan chars = .ok final) (done : final.haveDigits = false)
    (held : scan.digits = value decimal digits) (all : ∀ c ∈ digits, '0' ≤ c ∧ c ≤ '9')
    (pending : scan.haveDigits = true ↔ digits ≠ []) (fits : scan.total < 2 ^ 63) :
    ∃ components, digits ++ chars = flat components ∧
      (∀ component ∈ components, component.1 ≠ [] ∧ (∀ c ∈ component.1, '0' ≤ c ∧ c ≤ '9') ∧ component.2 ∈ units) ∧
      final.total = scan.total + componentsTotal decimal components ∧ final.total < 2 ^ 63 ∧ final.digits = 0 ∧
        final.sawComponent = (scan.sawComponent || !components.isEmpty) := by
  induction chars generalizing scan digits with
  | nil =>
      rw [foldChecked_nil] at scanned
      have same := Except.ok.inj scanned
      subst same
      have none : digits = [] := by
        by_contra some_
        rw [pending.mpr some_] at done
        cases done
      subst none
      exact ⟨[], rfl, fun component none => absurd none List.not_mem_nil, rfl, fits, held, by simp⟩
  | cons c rest ih =>
      rw [foldChecked_cons] at scanned
      obtain ⟨next, stepped, scanned⟩ := bind_eq_ok.mp scanned
      by_cases digit : '0' ≤ c ∧ c ≤ '9'
      · obtain ⟨_, rfl⟩ := (scanDuration_digit digit).mp stepped
        have longer : ∀ d ∈ digits ++ [c], '0' ≤ d ∧ d ≤ '9' := by
          intro d member
          rcases List.mem_append.mp member with before | one
          · exact all d before
          · rw [List.mem_singleton.mp one]
            exact digit
        have more := @ih _ (digits ++ [c]) scanned
          (by rw [value_concat ascii digits digit, ← held]) longer (by simp) fits
        rwa [List.append_assoc, List.singleton_append] at more
      · by_cases listed : c ∈ units
        · obtain ⟨have_, room, rfl⟩ := (scanDuration_unit digit listed).mp stepped
          obtain ⟨components, text, legal, total, bound, zero, saw⟩ := @ih _ [] scanned rfl
            (fun c none => absurd none List.not_mem_nil) (by simp) room
          refine ⟨(digits, c) :: components, ?_, ?_, ?_, bound, zero, ?_⟩
          · rw [flat_cons, ← text, List.nil_append]
          · intro component member
            rcases List.mem_cons.mp member with rfl | later
            · exact ⟨pending.mp have_, all, listed⟩
            · exact legal component later
          · have sum : componentsTotal decimal ((digits, c) :: components) =
                value decimal digits * unitScale c + componentsTotal decimal components := by
              unfold componentsTotal
              rw [List.map_cons, List.sum_cons]
            rw [total, sum, ← held, ← Nat.add_assoc]
          · rw [saw]
            simp
        · exact absurd stepped (scanDuration_other digit listed)

theorem total_eq (spelling : Spelling) : spelling.total decimal =
    componentsTotal decimal spelling.date + componentsTotal decimal (spelling.time.getD []) := by
  unfold Spelling.total Spelling.all componentsTotal
  rw [List.map_append, List.sum_append]

theorem flat_eq_nil {components : List Component} : flat components = [] ↔ components = [] := by
  cases components with
  | nil => exact iff_of_true rfl rfl
  | cons component rest =>
      rw [flat_cons]
      refine iff_of_false ?_ (by simp)
      rw [List.append_eq_nil_iff]
      exact fun both => nomatch both.2

/-- The start of a scan. -/
def idle : DurationScan :=
  { total := 0, digits := 0, haveDigits := false, sawComponent := false }

theorem parseDurationSeconds_eq_ok {read : Int} : parseDurationSeconds text = .ok read ↔
    ∃ rest first last, text.toList = 'P' :: rest ∧ rest ≠ [] ∧
      (rest.contains 'T' = true → (rest.dropWhile (· != 'T')).drop 1 ≠ []) ∧
      foldChecked (scanDuration text ['D']) idle (rest.takeWhile (· != 'T')) = .ok first ∧ first.haveDigits = false ∧
      foldChecked (scanDuration text ['H', 'M', 'S']) first ((rest.dropWhile (· != 'T')).drop 1) = .ok last ∧
      last.haveDigits = false ∧ last.sawComponent = true ∧ read = last.total := by
  have folded : ∀ rest, text.toList = 'P' :: rest → parseDurationSeconds text = (do
      let bad := err "encoding-bad-duration" (debug text)
      require (rest ≠ []) bad
      require (rest.contains 'T' = true → (rest.dropWhile (· != 'T')).drop 1 ≠ []) bad
      let scan ← foldChecked (scanDuration text ['D']) idle (rest.takeWhile (· != 'T'))
      require (scan.haveDigits = false) bad
      let scan ← foldChecked (scanDuration text ['H', 'M', 'S']) scan ((rest.dropWhile (· != 'T')).drop 1)
      require (scan.haveDigits = false) bad
      require (scan.sawComponent = true) bad
      return (scan.total : Int)) := by
    intro rest isText
    unfold parseDurationSeconds
    rw [isText]
    rfl
  constructor
  · intro accepted
    have starts : ∃ rest, text.toList = 'P' :: rest := by
      unfold parseDurationSeconds at accepted
      dsimp only at accepted
      split at accepted
      · rename_i rest isText
        exact ⟨rest, isText⟩
      · cases accepted
    obtain ⟨rest, isText⟩ := starts
    rw [folded rest isText] at accepted
    simp only [bind_eq_ok, require_eq_ok, pure_eq_ok] at accepted
    obtain ⟨_, some_, _, timed, first, scanned, _, done, last, scanned', _, done', _, saw, total⟩ := accepted
    exact ⟨rest, first, last, isText, some_, timed, scanned, done, scanned', done', saw, total.symm⟩
  · rintro ⟨rest, first, last, isText, some_, timed, scanned, done, scanned', done', saw, rfl⟩
    rw [folded rest isText]
    simp only [bind_eq_ok, require_eq_ok, pure_eq_ok]
    exact ⟨(), some_, (), timed, first, scanned, (), done, last, scanned', (), done', (), saw, rfl⟩

theorem unlisted_digit : ∀ u ∈ ['D', 'H', 'M', 'S', 'T'], ¬('0' ≤ u ∧ u ≤ '9') := by
  intro u member
  simp only [List.mem_cons, List.not_mem_nil, or_false] at member
  rcases member with rfl | rfl | rfl | rfl | rfl <;> decide

/-- The parts around the first `T` of a filled spelling's text. -/
theorem parts_of_text {spelling : Spelling} (legal : spelling.Legal decimal) (filled : spelling.Filled) {rest : List Char}
    (isText : spelling.text = 'P' :: rest) :
    rest.takeWhile (· != 'T') = flat spelling.date ∧
      (rest.dropWhile (· != 'T')).drop 1 = flat (spelling.time.getD []) ∧
      (rest.contains 'T' = true → spelling.time.isSome = true) := by
  have plain : ∀ c ∈ flat spelling.date, (c != 'T') = true := by
    intro c member
    obtain ⟨component, inside, within⟩ := List.mem_flatMap.mp member
    rw [bne_iff_ne]
    rintro rfl
    rcases List.mem_append.mp within with digit | unit
    · exact unlisted_digit 'T' (by decide) (filled.2.2 component (List.mem_append_left _ inside) 'T' digit)
    · rw [legal.date component inside] at unit
      exact absurd unit (by decide)
  have isRest : rest = flat spelling.date ++ (spelling.time.map fun time => 'T' :: flat time).getD [] :=
    (List.cons.inj isText).2.symm
  rw [isRest]
  cases timed : spelling.time with
  | none =>
      have whole : flat spelling.date ++ (Option.map (fun time => 'T' :: flat time) none).getD [] = flat spelling.date :=
        List.append_nil _
      rw [whole, List.takeWhile_eq_self_iff.mpr plain, List.dropWhile_eq_nil_iff.mpr plain]
      refine ⟨rfl, rfl, fun contains => ?_⟩
      rw [List.contains_iff_mem] at contains
      exact absurd (plain 'T' contains) (by decide)
  | some time =>
      show (flat spelling.date ++ 'T' :: flat time).takeWhile (· != 'T') = _ ∧
        ((flat spelling.date ++ 'T' :: flat time).dropWhile (· != 'T')).drop 1 = flat time ∧ _
      rw [List.takeWhile_append_of_pos plain, List.dropWhile_append_of_pos plain]
      refine ⟨?_, rfl, fun _ => rfl⟩
      rw [List.takeWhile_cons_of_neg (by decide), List.append_nil]

/-- The components before and after the `T` of a text spell it, with a time part where a `T` stands. -/
theorem parts_spelled {rest : List Char} {date time : List Component}
    (isDate : rest.takeWhile (· != 'T') = flat date) (isTime : (rest.dropWhile (· != 'T')).drop 1 = flat time)
    (timed : rest.contains 'T' = true → (rest.dropWhile (· != 'T')).drop 1 ≠ []) :
    ∃ part : Option (List Component), part.getD [] = time ∧ part ≠ some [] ∧
      rest = flat date ++ (part.map fun time => 'T' :: flat time).getD [] := by
  by_cases contains : rest.contains 'T' = true
  · refine ⟨some time, rfl, ?_, ?_⟩
    · intro none
      rw [Option.some.inj none] at isTime
      exact timed contains isTime
    · have split := List.takeWhile_append_dropWhile (p := (· != 'T')) (l := rest)
      cases behind : rest.dropWhile (· != 'T') with
      | nil =>
          have plain := List.dropWhile_eq_nil_iff.mp behind 'T' (List.contains_iff_mem.mp contains)
          exact absurd plain (by decide)
      | cons c more =>
          have stop := List.head_dropWhile_not (· != 'T') (l := rest) (by rw [behind]; simp)
          simp only [behind, List.head_cons, bne_eq_false_iff_eq] at stop
          rw [behind, stop, isDate] at split
          rw [behind] at isTime
          rw [← split]
          exact congrArg (fun text => flat date ++ 'T' :: text) isTime
  · have untimed : rest.dropWhile (· != 'T') = [] := by
      rw [List.dropWhile_eq_nil_iff]
      intro c member
      rw [bne_iff_ne]
      rintro rfl
      exact contains (List.contains_iff_mem.mpr member)
    have split := List.takeWhile_append_dropWhile (p := (· != 'T')) (l := rest)
    rw [untimed] at isTime
    rw [untimed, isDate] at split
    exact ⟨none, (flat_eq_nil.mp isTime.symm).symm, (nomatch ·), split.symm⟩

/-- What the kernel reads is spelled by filled components of the place's units. -/
theorem spelling_of_parse (ascii : AsciiDigits decimal) {read : Int} (accepted : parseDurationSeconds text = .ok read) :
    ∃ spelling : Spelling, spelling.Legal decimal ∧ spelling.Filled ∧ spelling.text = text.toList ∧
      spelling.total decimal < 2 ^ 63 ∧ read = spelling.total decimal := by
  obtain ⟨rest, first, last, isText, some_, timed, scanned, done, scanned', done', saw, rfl⟩ :=
    parseDurationSeconds_eq_ok.mp accepted
  obtain ⟨date, isDate, legalDate, total, bound, zero, seen⟩ := @components_of_scan _ _ _ _ ascii _ [] _ scanned done rfl
    (fun c none => absurd none List.not_mem_nil) (by decide) (by decide)
  obtain ⟨time, isTime, legalTime, total', bound', _, seen'⟩ := @components_of_scan _ _ _ _ ascii _ [] _ scanned' done' zero
    (fun c none => absurd none List.not_mem_nil) (by rw [done]; decide) bound
  rw [List.nil_append] at isDate isTime
  obtain ⟨part, rfl, timeSome, whole⟩ := parts_spelled isDate isTime timed
  have legal : ∀ component ∈ date ++ part.getD [], component.1 ≠ [] ∧ ∀ c ∈ component.1, '0' ≤ c ∧ c ≤ '9' := by
    intro component member
    rcases List.mem_append.mp member with inDate | inTime
    · exact ⟨(legalDate component inDate).1, (legalDate component inDate).2.1⟩
    · exact ⟨(legalTime component inTime).1, (legalTime component inTime).2.1⟩
  refine ⟨⟨date, part⟩, ⟨?_, ?_, ?_⟩, ⟨?_, timeSome, fun component member => (legal component member).2⟩, ?_, ?_, ?_⟩
  · exact fun component member => ⟨(legal component member).1,
      fun c within => (decimal_ascii ascii ((legal component member).2 c within)).1⟩
  · exact fun component member => List.mem_singleton.mp (legalDate component member).2.2
  · exact fun component member => (legalTime component member).2.2
  · intro none
    obtain ⟨noDate, noTime⟩ := List.append_eq_nil_iff.mp none
    rw [seen', seen, show date = [] from noDate, show part.getD [] = [] from noTime] at saw
    exact absurd saw (by decide)
  · rw [isText]
    exact congrArg ('P' :: ·) whole.symm
  · rw [total_eq]
    show componentsTotal decimal date + componentsTotal decimal (part.getD []) < 2 ^ 63
    have start : first.total = 0 + componentsTotal decimal date := total
    omega
  · rw [total_eq]
    show (last.total : Int) = (componentsTotal decimal date + componentsTotal decimal (part.getD []) : Nat)
    have start : first.total = 0 + componentsTotal decimal date := total
    rw [total', start, Nat.zero_add]

/-- The kernel reads what filled components of the place's units spell, where the total fits. -/
theorem parse_of_spelling (ascii : AsciiDigits decimal) {spelling : Spelling} (legal : spelling.Legal decimal)
    (filled : spelling.Filled) (isText : spelling.text = text.toList) (fits : spelling.total decimal < 2 ^ 63) :
    parseDurationSeconds text = .ok (spelling.total decimal : Int) := by
  rw [parseDurationSeconds_eq_ok]
  obtain ⟨rest, starts⟩ : ∃ rest, spelling.text = 'P' :: rest := ⟨_, rfl⟩
  obtain ⟨date, time, timed⟩ := parts_of_text legal filled starts
  have digits : ∀ component ∈ spelling.all, component.1 ≠ [] ∧ ∀ c ∈ component.1, '0' ≤ c ∧ c ≤ '9' :=
    fun component member => ⟨(legal.digits component member).1, filled.2.2 component member⟩
  rw [total_eq] at fits
  have first : foldChecked (scanDuration text ['D']) idle (flat spelling.date) =
      .ok { total := 0 + componentsTotal decimal spelling.date, digits := 0, haveDigits := false,
            sawComponent := false || !spelling.date.isEmpty } := by
    apply scan_components ascii
    · intro component member
      obtain ⟨some_, all⟩ := digits component (List.mem_append_left _ member)
      rw [legal.date component member]
      exact ⟨some_, all, by decide, by decide⟩
    · show 0 + componentsTotal decimal spelling.date < 2 ^ 63
      omega
    · exact ⟨rfl, rfl⟩
  have second : foldChecked (scanDuration text ['H', 'M', 'S'])
      { total := 0 + componentsTotal decimal spelling.date, digits := 0, haveDigits := false,
        sawComponent := false || !spelling.date.isEmpty } (flat (spelling.time.getD [])) =
      .ok { total := 0 + componentsTotal decimal spelling.date + componentsTotal decimal (spelling.time.getD []),
            digits := 0, haveDigits := false,
            sawComponent := (false || !spelling.date.isEmpty) || !(spelling.time.getD []).isEmpty } := by
    apply scan_components ascii
    · intro component member
      obtain ⟨some_, all⟩ := digits component (List.mem_append_right _ member)
      have listed := legal.time component member
      have units : ['H', 'M', 'S'].Sublist ['D', 'H', 'M', 'S', 'T'] := by decide
      exact ⟨some_, all, listed, unlisted_digit _ (units.subset listed)⟩
    · show 0 + componentsTotal decimal spelling.date + componentsTotal decimal (spelling.time.getD []) < 2 ^ 63
      omega
    · exact ⟨rfl, rfl⟩
  have some_ : rest ≠ [] ∧ (!spelling.date.isEmpty || !(spelling.time.getD []).isEmpty) = true := by
    have whole : flat spelling.date ++ (spelling.time.map fun time => 'T' :: flat time).getD [] = rest :=
      (List.cons.inj starts).2
    have component := filled.1
    unfold Spelling.all at component
    constructor
    · rintro rfl
      obtain ⟨noDate, noTime⟩ := List.append_eq_nil_iff.mp whole
      apply component
      rw [flat_eq_nil.mp noDate, List.nil_append]
      cases part : spelling.time with
      | none => rfl
      | some time =>
          rw [part] at noTime
          cases noTime
    · rw [Bool.or_eq_true, Bool.not_eq_true', Bool.not_eq_true', List.isEmpty_eq_false_iff, List.isEmpty_eq_false_iff]
      by_contra none
      rw [not_or, not_not, not_not] at none
      rw [none.1, none.2] at component
      exact component rfl
  rw [← date] at first
  rw [← time] at second
  refine ⟨rest, _, _, isText.symm.trans starts, some_.1, ?_, first, rfl, second, rfl, ?_, ?_⟩
  · intro contains
    rw [time]
    intro none
    obtain ⟨behind, isBehind⟩ := Option.isSome_iff_exists.mp (timed contains)
    apply filled.2.1
    rw [isBehind] at none ⊢
    exact congrArg some (flat_eq_nil.mp none)
  · rw [Bool.false_or]
    exact some_.2
  · rw [total_eq, Nat.zero_add]

/-- What the kernel accepts: filled components of the place's units whose total fits. -/
theorem parseDurationSeconds_iff (ascii : AsciiDigits decimal) {read : Int} : parseDurationSeconds text = .ok read ↔
    ∃ spelling : Spelling, spelling.Legal decimal ∧ spelling.Filled ∧ spelling.text = text.toList ∧
      spelling.total decimal < 2 ^ 63 ∧ read = spelling.total decimal := by
  constructor
  · exact spelling_of_parse ascii
  · rintro ⟨spelling, legal, filled, isText, fits, rfl⟩
    exact parse_of_spelling ascii legal filled isText fits

end

end Stozher.Durations
