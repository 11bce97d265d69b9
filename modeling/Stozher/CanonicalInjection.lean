import Stozher.CanonicalReading
import Mathlib.Data.ENat.Basic

namespace Stozher

open Library Library.Text

namespace Value

variable {value other : Value}

theorem Reorders.symm (same : Reorders value other) : Reorders other value := by
  induction same with
  | refl value => exact .refl value
  | trans _ _ first second => exact second.trans first
  | members distinct perm => exact .members ((perm.map Prod.fst).nodup_iff.mp distinct) perm.symm
  | item _ ih => exact .item ih
  | member _ ih => exact .member ih

theorem Reorders.items {items others : List Value} (each : List.Forall₂ Reorders items others) :
    Reorders (.array items) (.array others) := by
  have after : ∀ before : List Value, Reorders (.array (before ++ items)) (.array (before ++ others)) := by
    induction each with
    | nil => exact fun before => .refl _
    | @cons first second items others one _ ih =>
        intro before
        have rest := ih (before ++ [second])
        rw [List.append_assoc, List.append_assoc] at rest
        exact (Reorders.item one).trans rest
  exact after []

/-- One name, and values equal up to the order of members. -/
def MemberReorders (first second : String × Value) : Prop :=
  first.1 = second.1 ∧ Reorders first.2 second.2

theorem Reorders.each {members others : Members} (each : List.Forall₂ MemberReorders members others) :
    Reorders (.object members) (.object others) := by
  have after : ∀ before : Members, Reorders (.object (before ++ members)) (.object (before ++ others)) := by
    induction each with
    | nil => exact fun before => .refl _
    | @cons first second members others one _ ih =>
        intro before
        obtain ⟨name, value⟩ := first
        obtain ⟨other, read⟩ := second
        obtain ⟨rfl, same⟩ := one
        have rest := ih (before ++ [(name, read)])
        rw [List.append_assoc, List.append_assoc] at rest
        exact (Reorders.member same).trans rest
  exact after []

theorem names_eq {members others : Members} (each : List.Forall₂ MemberReorders members others) :
    members.map Prod.fst = others.map Prod.fst := by
  induction each with
  | nil => rfl
  | cons one _ ih => rw [List.map_cons, List.map_cons, one.1, ih]

/-- The canonical order is an order of the members. -/
theorem plain_arranged (maps : value.Maps) : Reorders value.plain value.arranged := by
  induction value using Value.induct with
  | scalar value notArray notObject =>
      cases value with
      | array items => cases notArray
      | object members => cases notObject
      | null => exact .refl _
      | bool b => exact .refl _
      | number n => exact .refl _
      | string s => exact .refl _
  | array items ih =>
      cases maps with
      | scalar notArray _ => cases notArray
      | array each =>
          rw [plain_array, arranged_array]
          apply Reorders.items
          rw [List.forall₂_map_left_iff, List.forall₂_map_right_iff, List.forall₂_same]
          exact fun item member => ih item member (each item member)
  | object members ih =>
      cases maps with
      | scalar _ notObject => cases notObject
      | object distinct each =>
          rw [plain_object, arranged_object]
          have arranged : Reorders (.object (members.map fun member => (member.1, plain member.2)))
              (.object (members.map fun member => (member.1, member.2.arranged))) := by
            apply Reorders.each
            rw [List.forall₂_map_left_iff, List.forall₂_map_right_iff, List.forall₂_same]
            exact fun member inside => ⟨rfl, ih member inside (each member inside)⟩
          refine arranged.trans (.members ?_ ((sortBy_perm _ members).symm.map _))
          rwa [List.map_map]

theorem arranged_integers (integers : value.Integers) : value.arranged.Integers := by
  induction value using Value.induct with
  | scalar value notArray notObject =>
      cases value with
      | number n =>
          intro m member
          have one : m = Number.ofCanonical n.asF64 := List.mem_singleton.mp member
          rw [one]
          exact Number.integral_of_safe (Number.ofCanonical_safe (integers n List.mem_cons_self))
      | array items => cases notArray
      | object members => cases notObject
      | null => exact integers
      | bool b => exact integers
      | string s => exact integers
  | array items ih =>
      intro n member
      rw [arranged_array] at member
      unfold numbers at member
      rw [itemNumbers_eq, List.mem_flatMap] at member
      obtain ⟨_, inside, within⟩ := member
      obtain ⟨item, kept, rfl⟩ := List.mem_map.mp inside
      exact ih item kept (integers.item kept) n within
  | object members ih =>
      intro n member
      rw [arranged_object] at member
      unfold numbers at member
      rw [memberNumbers_eq, List.mem_flatMap] at member
      obtain ⟨_, inside, within⟩ := member
      obtain ⟨member, sorted, rfl⟩ := List.mem_map.mp inside
      have kept := (sortBy_perm _ members).mem_iff.mp sorted
      exact ih member kept (integers.member kept) n within

theorem nestingItems_le {items : List Value} {depth : Nat} :
    nestingItems items ≤ depth ↔ ∀ item ∈ items, nesting item ≤ depth := by
  induction items with
  | nil => exact iff_of_true (Nat.zero_le _) fun item none => absurd none List.not_mem_nil
  | cons first rest ih =>
      unfold nestingItems
      rw [max_le_iff, ih, List.forall_mem_cons]

theorem nestingMembers_le {members : Members} {depth : Nat} :
    nestingMembers members ≤ depth ↔ ∀ member ∈ members, nesting member.2 ≤ depth := by
  induction members with
  | nil => exact iff_of_true (Nat.zero_le _) fun item none => absurd none List.not_mem_nil
  | cons first rest ih =>
      unfold nestingMembers
      rw [max_le_iff, ih, List.forall_mem_cons]

/-- Arranging a value nests it no deeper. -/
theorem arranged_nesting (value : Value) : value.arranged.nesting ≤ value.nesting := by
  induction value using Value.induct with
  | scalar value notArray notObject =>
      cases value with
      | array items => cases notArray
      | object members => cases notObject
      | null => exact Nat.le_refl _
      | bool b => exact Nat.le_refl _
      | number n => exact Nat.le_refl _
      | string s => exact Nat.le_refl _
  | array items ih =>
      rw [arranged_array]
      unfold nesting
      apply Nat.succ_le_succ
      rw [nestingItems_le]
      intro item inside
      obtain ⟨item, kept, rfl⟩ := List.mem_map.mp inside
      exact Nat.le_trans (ih item kept) (nestingItems_le.mp (Nat.le_refl _) item kept)
  | object members ih =>
      rw [arranged_object]
      unfold nesting
      apply Nat.succ_le_succ
      rw [nestingMembers_le]
      intro member inside
      obtain ⟨member, sorted, rfl⟩ := List.mem_map.mp inside
      have kept := (sortBy_perm _ members).mem_iff.mp sorted
      exact Nat.le_trans (ih member kept) (nestingMembers_le.mp (Nat.le_refl _) member kept)

/-- A value whose integers are kept as integers is plain. -/
theorem plain_of_safe (safe : ∀ n ∈ value.numbers, n.isSafe) : value.plain = value := by
  induction value using Value.induct with
  | scalar value notArray notObject =>
      cases value with
      | number n => exact congrArg Value.number (Number.ofCanonical_of_safe (safe n List.mem_cons_self))
      | array items => cases notArray
      | object members => cases notObject
      | null => rfl
      | bool b => rfl
      | string s => rfl
  | array items ih =>
      have each : ∀ item ∈ items, plain item = item := by
        intro item member
        apply ih item member
        intro n within
        apply safe
        unfold numbers
        rw [itemNumbers_eq]
        exact List.mem_flatMap.mpr ⟨item, member, within⟩
      rw [plain_array, List.map_congr_left each, List.map_id']
  | object members ih =>
      have each : ∀ member ∈ members, (member.1, plain member.2) = member := by
        intro member inside
        rw [ih member inside]
        intro n within
        apply safe
        unfold numbers
        rw [memberNumbers_eq]
        exact List.mem_flatMap.mpr ⟨member, inside, within⟩
      rw [plain_object, List.map_congr_left each, List.map_id']

end Value

theorem Members.insert_perm {members : Members} {name : String} (absent : name ∉ members.map Prod.fst) (value : Value) :
    (members.insert name value).Perm ((name, value) :: members) := by
  have others : members.filter (fun member => member.1 != name) = members := by
    rw [List.filter_eq_self]
    intro member inside
    rw [bne_iff_ne]
    rintro rfl
    exact absent (List.mem_map_of_mem inside)
  unfold insert
  rw [others]
  have joined : ((members.takeWhile fun member => decide (member.1 < name)) ++
      (name, value) :: members.dropWhile fun member => decide (member.1 < name)).Perm
        ((name, value) :: ((members.takeWhile fun member => decide (member.1 < name)) ++
          members.dropWhile fun member => decide (member.1 < name))) := List.perm_middle
  rwa [List.takeWhile_append_dropWhile] at joined

namespace Jcs.Text

open Value

/-- What the visitor makes of a value it is given arranged. -/
def Visits (value : Value) : Prop :=
  ∃ read, strict value.arranged = .ok read ∧ Reorders value.plain read

theorem strictItems_arranged {items : List Value} (each : ∀ item ∈ items, Visits item) :
    ∃ reads, strictItems (items.map arranged) = .ok reads ∧ List.Forall₂ Reorders (items.map plain) reads := by
  induction items with
  | nil => exact ⟨[], rfl, .nil⟩
  | cons item rest ih =>
      obtain ⟨read, visited, same⟩ := each item List.mem_cons_self
      obtain ⟨reads, others, rest⟩ := ih fun item member => each item (List.mem_cons_of_mem _ member)
      refine ⟨read :: reads, ?_, .cons same rest⟩
      rw [List.map_cons]
      unfold strictItems
      rw [visited, ok_bind, others]
      rfl

theorem containsKey_of_absent {map : Members} {name : String} (absent : name ∉ map.map Prod.fst) :
    map.containsKey name = false := by
  unfold Members.containsKey Members.get
  rw [Option.isSome_map, ← Bool.not_eq_true, Option.isSome_iff_exists]
  rintro ⟨member, found⟩
  have named := List.find?_some found
  rw [beq_iff_eq] at named
  exact absent (named ▸ List.mem_map_of_mem (List.mem_of_find?_eq_some found))

/-- The visitor's map holds what it held, and the members it is given. -/
theorem strictMembers_arranged {members : Members} (each : ∀ member ∈ members, Visits member.2) {map : Members}
    (distinct : (map.map Prod.fst ++ members.map Prod.fst).Nodup) :
    ∃ reads result, strictMembers map (members.map fun member => (member.1, member.2.arranged)) = .ok result ∧
      List.Forall₂ MemberReorders (members.map fun member => (member.1, plain member.2)) reads ∧
        result.Perm (map ++ reads) := by
  induction members generalizing map with
  | nil => exact ⟨[], map, rfl, .nil, by rw [List.append_nil]⟩
  | cons member rest ih =>
      obtain ⟨name, value⟩ := member
      obtain ⟨read, visited, same⟩ := each (name, value) List.mem_cons_self
      rw [List.map_cons, List.perm_middle.nodup_iff, List.nodup_cons] at distinct
      have absent : name ∉ map.map Prod.fst := fun inside => distinct.1 (List.mem_append_left _ inside)
      have inserted := Members.insert_perm absent read
      have later : ((map.insert name read).map Prod.fst ++ rest.map Prod.fst).Nodup := by
        rw [((inserted.map Prod.fst).append_right _).nodup_iff, List.map_cons, List.cons_append, List.nodup_cons]
        exact distinct
      obtain ⟨reads, result, others, rest, perm⟩ :=
        ih (fun member inside => each member (List.mem_cons_of_mem _ inside)) later
      refine ⟨(name, read) :: reads, result, ?_, .cons ⟨rfl, same⟩ rest, ?_⟩
      · rw [List.map_cons]
        unfold strictMembers
        rw [visited, ok_bind, require_bind_eq_ok]
        exact ⟨containsKey_of_absent absent, others⟩
      · exact perm.trans ((inserted.append_right reads).trans List.perm_middle.symm)

/-- No member of a map is repeated, so the visitor refuses nothing of its text. -/
theorem visits {value : Value} (maps : value.Maps) (integers : value.Integers) : Visits value := by
  induction value using Value.induct with
  | scalar value notArray notObject =>
      cases value with
      | number n =>
          have safe := Number.ofCanonical_safe (integers n List.mem_cons_self)
          refine ⟨.number (Number.ofCanonical n.asF64), ?_, .refl _⟩
          unfold arranged
          cases spelled : Number.ofCanonical n.asF64 with
          | posInt n fits => rfl
          | negInt i fits => rfl
          | float bits =>
              rw [spelled] at safe
              cases safe
      | array items => cases notArray
      | object members => cases notObject
      | null => exact ⟨_, rfl, .refl _⟩
      | bool b => exact ⟨_, rfl, .refl _⟩
      | string s => exact ⟨_, rfl, .refl _⟩
  | array items ih =>
      cases maps with
      | scalar notArray _ => cases notArray
      | array each =>
          obtain ⟨reads, visited, same⟩ :=
            strictItems_arranged fun item member => ih item member (each item member) (integers.item member)
          refine ⟨.array reads, ?_, ?_⟩
          · rw [arranged_array, strict, visited]
            rfl
          · rw [plain_array]
            exact .items same
  | object members ih =>
      cases maps with
      | scalar _ notObject => cases notObject
      | object distinct each =>
          have sorted := sortBy_perm (fun member : String × Value => encodeUtf16 member.1) members
          have visited : ∀ member ∈ sortBy (fun member : String × Value => encodeUtf16 member.1) members,
              Visits member.2 := by
            intro member inside
            have kept := sorted.mem_iff.mp inside
            exact ih member kept (each member kept) (integers.member kept)
          have names : (([] : Members).map Prod.fst ++
              (sortBy (fun member : String × Value => encodeUtf16 member.1) members).map Prod.fst).Nodup :=
            (sorted.map Prod.fst).nodup_iff.mpr distinct
          obtain ⟨reads, result, read, same, perm⟩ := strictMembers_arranged visited names
          have readNames : (reads.map Prod.fst).Nodup := by
            rw [← names_eq same, List.map_map]
            exact names
          refine ⟨.object result, ?_, ?_⟩
          · rw [arranged_object, strict, read]
            rfl
          · rw [plain_object]
            have first : Reorders (.object (members.map fun member => (member.1, plain member.2)))
                (.object ((sortBy (fun member : String × Value => encodeUtf16 member.1) members).map fun member =>
                  (member.1, plain member.2))) := by
              refine .members ?_ (sorted.symm.map _)
              rwa [List.map_map]
            exact first.trans ((Reorders.each same).trans (.members readNames perm.symm))

/-- What the parser relies on: the library reads every JSON text whose numbers fit a float and whose nesting its
recursion limit admits. -/
structure ReadsRfc8259 (reader : Reader) (nearest : List Char → Binary64) (limit : ℕ∞) : Prop where
  reads : ∀ text value, JsonText.read nearest text = some value → (∀ n ∈ value.numbers, n.asF64.isFinite = true) →
    (value.nesting : ℕ∞) ≤ limit → reader.fromStr text = .ok value

end Jcs.Text

namespace Signed.Text

variable (ext : External) (formatFinite : Binary64 → String)

def signingInput (object : Value) : Result String := do
  let members ← okOr object.asObject (err "schema-type-mismatch" "a signed object must be a JSON object")
  Jcs.Text.canonicalize ext formatFinite (.object (members.filter fun member => member.1 != "sig"))

def objectId (object : Value) : Result String := do
  return ext.sha256Hex (.other (octets (← Jcs.Text.canonicalize ext formatFinite object)))

end Signed.Text

open Jcs.Text Signed.Text

variable {ext : External} {formatFinite : Binary64 → String}

theorem canonicalize_render (plain : PlainIntegers formatFinite) {value : Value} (integers : value.Integers) :
    canonicalize ext formatFinite value = .ok (String.ofList (render value)) := by
  unfold canonicalize
  rw [writeValue_eq plain integers]
  rfl

/-- Values of one text are arranged as one tree. -/
theorem reorders_of_render {a b : Value} (mapsA : a.Maps) (mapsB : b.Maps) (integersA : a.Integers)
    (integersB : b.Integers) (same : String.ofList (render a) = String.ofList (render b)) : a.plain.Reorders b.plain := by
  have readA := @JsonText.read_render (fun _ => 0) a integersA
  have readB := @JsonText.read_render (fun _ => 0) b integersB
  rw [same, readB] at readA
  have arranged : b.arranged = a.arranged := Option.some.inj readA
  have first := Value.plain_arranged mapsA
  rw [← arranged] at first
  exact first.trans (Value.plain_arranged mapsB).symm

theorem parse_render {reader : Reader} {nearest : List Char → Binary64} {limit : ℕ∞}
    (rfc : ReadsRfc8259 reader nearest limit) {value : Value} (maps : value.Maps) (integers : value.Integers)
    (shallow : (value.nesting : ℕ∞) ≤ limit) :
    ∃ read, parse reader (String.ofList (render value)) = .ok read ∧ value.plain.Reorders read := by
  obtain ⟨read, visited, same⟩ := visits maps integers
  have finite : ∀ n ∈ value.arranged.numbers, n.asF64.isFinite = true := by
    intro n member
    obtain ⟨magnitude, small, whole⟩ := Value.arranged_integers integers n member
    exact Binary64.isFinite_of_wholeMagnitude whole small
  have nested : (value.arranged.nesting : ℕ∞) ≤ limit :=
    (Nat.cast_le.mpr (Value.arranged_nesting value)).trans shallow
  have tree := rfc.reads _ _ (JsonText.read_render integers) finite nested
  refine ⟨read, ?_, same⟩
  unfold parse
  have both : ((reader.fromStr (String.ofList (render value))).bind fun tree =>
      (strict tree).mapError (reader.located (String.ofList (render value)))) = .ok read := by
    rw [tree]
    show (strict value.arranged).mapError _ = _
    rw [visited]
    rfl
  rw [both]

/-- What is left of a signed object without its signature. -/
def withoutSig (object : Value) : Value :=
  .object ((object.asObject.getD []).filter fun member => member.1 != "sig")

theorem Value.Maps.without {members : Members} (maps : Maps (.object members)) (name : String) :
    Maps (.object (members.filter fun member => member.1 != name)) := by
  cases maps with
  | scalar _ notObject => cases notObject
  | object distinct each =>
      apply Maps.object
      · exact distinct.sublist (List.filter_sublist.map Prod.fst)
      · exact fun member inside => each member (List.mem_filter.mp inside).1

theorem Value.Integers.without {members : Members} (integers : Integers (.object members)) (name : String) :
    Integers (.object (members.filter fun member => member.1 != name)) := by
  intro n member
  unfold numbers at member
  rw [memberNumbers_eq, List.mem_flatMap] at member
  obtain ⟨member, inside, within⟩ := member
  exact integers.member (List.mem_filter.mp inside).1 n within

theorem signingInput_eq (plain : PlainIntegers formatFinite) {object : Value} {input : String}
    (integers : object.Integers) (signed : signingInput ext formatFinite object = .ok input) :
    input = String.ofList (render (withoutSig object)) ∧ (withoutSig object).Integers ∧
      (object.Maps → (withoutSig object).Maps) := by
  unfold signingInput at signed
  obtain ⟨members, isObject, written⟩ := okOr_bind_eq_ok.mp signed
  have same := Envelope.asObject_eq_some isObject
  subst same
  have rest := integers.without "sig"
  rw [canonicalize_render plain rest] at written
  exact ⟨(Except.ok.inj written).symm, rest, fun maps => maps.without "sig"⟩

/-- Values whose numbers are integers and whose objects are maps have one canonical text only where they are equal up
to the order of members; the text is read back as such an equal; what two signed objects sign is one text only where
they are equal up to that order and their signatures, and one object identifier is theirs only where they are equal up
to that order, unless two texts of one digest are in hand. Integers kept as integers are plain. -/
theorem canonical_form_read_back (plain : PlainIntegers formatFinite) {reader : Reader}
    {nearest : List Char → Binary64} {limit : ℕ∞} (rfc : ReadsRfc8259 reader nearest limit) {a b : Value}
    (mapsA : a.Maps) (mapsB : b.Maps) (integersA : a.Integers) (integersB : b.Integers) :
    (canonicalize ext formatFinite a = canonicalize ext formatFinite b → a.plain.Reorders b.plain) ∧
      ((a.nesting : ℕ∞) ≤ limit → ∃ text read, canonicalize ext formatFinite a = .ok text ∧
        parse reader text = .ok read ∧ a.plain.Reorders read) ∧
      (∀ input, signingInput ext formatFinite a = .ok input → signingInput ext formatFinite b = .ok input →
        (withoutSig a).plain.Reorders (withoutSig b).plain) ∧
      (objectId ext formatFinite a = objectId ext formatFinite b → a.plain.Reorders b.plain ∨
        ∃ first second, first ≠ second ∧ canonicalize ext formatFinite a = .ok first ∧
          canonicalize ext formatFinite b = .ok second ∧
            ext.sha256Hex (.other (octets first)) = ext.sha256Hex (.other (octets second))) ∧
      ((∀ n ∈ a.numbers, n.isSafe) → a.plain = a) := by
  have textA := @canonicalize_render ext _ plain a integersA
  have textB := @canonicalize_render ext _ plain b integersB
  refine ⟨?_, ?_, ?_, ?_, Value.plain_of_safe⟩
  · intro same
    rw [textA, textB] at same
    exact reorders_of_render mapsA mapsB integersA integersB (Except.ok.inj same)
  · intro shallow
    obtain ⟨read, parsed, same⟩ := parse_render rfc mapsA integersA shallow
    exact ⟨_, read, textA, parsed, same⟩
  · intro input signedA signedB
    obtain ⟨inputA, restA, mapsRestA⟩ := signingInput_eq plain integersA signedA
    obtain ⟨inputB, restB, mapsRestB⟩ := signingInput_eq plain integersB signedB
    exact reorders_of_render (mapsRestA mapsA) (mapsRestB mapsB) restA restB (inputA.symm.trans inputB)
  · intro same
    unfold objectId at same
    rw [textA, textB, ok_bind, ok_bind] at same
    by_cases texts : String.ofList (render a) = String.ofList (render b)
    · exact .inl (reorders_of_render mapsA mapsB integersA integersB texts)
    · exact .inr ⟨_, _, texts, textA, textB, Except.ok.inj same⟩

end Stozher

namespace Stozher.Deployment

open Jcs.Text Signed.Text

/-- The library's parser: 127 arrays and objects within each other, and finite numbers. -/
def limitedReader : Reader where
  fromStr text :=
    match JsonText.read (fun _ => 0) text with
    | some value =>
        if value.nesting ≤ 127 ∧ value.numbers.all (fun n => n.asF64.isFinite) = true then .ok value
        else .error "recursion limit exceeded"
    | none => .error "expected value"
  located _ message := message

theorem limitedReader_reads : ReadsRfc8259 limitedReader (fun _ => 0) (127 : Nat) where
  reads := by
    intro text value read finite shallow
    unfold limitedReader
    dsimp only
    rw [read]
    exact if_pos ⟨Nat.cast_le.mp shallow, List.all_eq_true.mpr finite⟩

/-- Two members, in either order. -/
def pair : Value := .object [("a", .nat 5), ("b", .array [.string "x"])]

def swapped : Value := .object [("b", .array [.string "x"]), ("a", .nat 5)]

theorem pair_maps : pair.Maps ∧ swapped.Maps ∧ pair.Integers ∧ swapped.Integers := by
  have five : (.number (.posInt 5 (by decide)) : Value).Maps := .scalar rfl rfl
  have listed : (.array [.string "x"] : Value).Maps := .array fun item member => by
    rw [List.mem_singleton.mp member]
    exact .scalar rfl rfl
  have integral : ∀ n, n = Number.posInt 5 (by decide) → n.Integral := by
    rintro n rfl
    exact Number.integral_of_safe (show 5 < 2 ^ 53 by decide)
  refine ⟨.object (by decide) ?_, .object (by decide) ?_, ?_, ?_⟩
  · simp only [List.forall_mem_cons, List.not_mem_nil, false_implies, implies_true, and_true]
    exact ⟨five, listed⟩
  · simp only [List.forall_mem_cons, List.not_mem_nil, false_implies, implies_true, and_true]
    exact ⟨listed, five⟩
  · exact fun n member => integral n (List.mem_singleton.mp member)
  · exact fun n member => integral n (List.mem_singleton.mp member)

theorem pair_read_back : pair.plain.Reorders swapped.plain ∧
    ∃ text read, canonicalize ext integerText pair = .ok text ∧ parse limitedReader text = .ok read ∧
      pair.plain.Reorders read := by
  obtain ⟨mapsPair, mapsSwapped, integersPair, integersSwapped⟩ := pair_maps
  have both := @canonical_form_read_back ext _ integerText_plain _ _ _ limitedReader_reads _ _ mapsPair mapsSwapped
    integersPair integersSwapped
  have reordered : pair.Reorders swapped := .members (by decide) (List.Perm.swap _ _ _)
  refine ⟨both.1 ?_, both.2.1 (Nat.cast_le.mpr (by decide))⟩
  rw [canonicalize_render integerText_plain integersPair, canonicalize_render integerText_plain integersSwapped,
    reordered.render]

end Stozher.Deployment
