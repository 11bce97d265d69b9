import Stozher.AuditPaging
import Stozher.CanonicalInjection
import Stozher.Console.Export
import Stozher.Library.Lines
import Stozher.Library.Pages

namespace Stozher

open Library Library.Text Ingest Jcs.Text

variable {ext : External} {formatFinite : Binary64 → String} {config : Config}

namespace Jcs.Text

theorem newline_writeChar (c : Char) : '\n' ∉ writeChar c := by
  have controls : ∀ code < 0x20, '\n' ∉ writeChar (Char.ofNat code) := by decide
  by_cases control : c.toNat < 0x20
  · have absent := controls c.toNat control
    rwa [Char.ofNat_toNat] at absent
  by_cases quote : c = '"'
  · subst quote
    decide
  by_cases backslash : c = '\\'
  · subst backslash
    decide
  have visible := Nat.not_lt.mp control
  rw [JsonText.writeChar_plain quote backslash visible, List.mem_singleton]
  rintro rfl
  exact control (by decide)

theorem newline_writeString (s : String) : '\n' ∉ writeString s := by
  unfold writeString
  simp only [List.mem_append, List.mem_flatMap, not_or, not_exists, not_and]
  exact ⟨⟨by decide, fun c _ => newline_writeChar c⟩, by decide⟩

theorem newline_decimalText (n : Number) : '\n' ∉ n.decimalText := by
  unfold Number.decimalText
  intro member
  rcases List.mem_append.mp member with sign | digits
  · split at sign
    · exact absurd sign (by decide)
    · cases sign
  · have digit : '\n'.isDigit = true := by
      apply isDigit_of_mem_toString
      show '\n' ∈ (Nat.repr _).toList
      unfold Nat.repr
      rw [String.toList_ofList]
      exact digits
    exact absurd digit (by decide)

theorem newline_separated {parts : List (List Char)} (plain : ∀ part ∈ parts, '\n' ∉ part) :
    '\n' ∉ separated parts := by
  induction parts with
  | nil => exact List.not_mem_nil
  | cons first rest ih =>
      have others := ih fun part member => plain part (List.mem_cons_of_mem _ member)
      cases rest with
      | nil =>
          unfold separated
          rw [List.intercalate_singleton]
          exact plain first List.mem_cons_self
      | cons second rest =>
          rw [JsonText.separated_cons]
          simp only [List.mem_append, List.mem_cons, not_or]
          exact ⟨plain first List.mem_cons_self, by decide, others⟩

/-- A canonical text is one line. -/
theorem newline_render (value : Value) : '\n' ∉ render value := by
  induction value using Value.induct with
  | scalar value notArray notObject =>
      cases value with
      | null => decide
      | bool b => cases b <;> decide
      | number n => exact newline_decimalText n
      | string s => exact newline_writeString s
      | array items => cases notArray
      | object members => cases notObject
  | array items each =>
      have inner : '\n' ∉ separated (items.map render) := by
        apply newline_separated
        intro part member
        obtain ⟨item, inside, rfl⟩ := List.mem_map.mp member
        exact each item inside
      rw [render, renderItems_eq]
      simp only [List.cons_append, List.mem_cons, List.mem_append, List.not_mem_nil, or_false, not_or]
      exact ⟨by decide, inner, by decide⟩
  | object members each =>
      have inner : '\n' ∉ separated ((sortBy (fun member => encodeUtf16 member.1) members).map
          fun member => writeString member.1 ++ ':' :: render member.2) := by
        apply newline_separated
        intro part member
        obtain ⟨named, inside, rfl⟩ := List.mem_map.mp member
        have held := (sortBy_perm _ members).subset inside
        simp only [List.mem_append, List.mem_cons, not_or]
        exact ⟨newline_writeString named.1, by decide, each named held⟩
      rw [render_object]
      simp only [List.cons_append, List.mem_cons, List.mem_append, List.not_mem_nil, or_false, not_or]
      exact ⟨by decide, inner, by decide⟩

end Jcs.Text

namespace Envelope

/-- The numbers a check admits are integers. -/
theorem integers_of_checked (value : Value) :
    ∀ path, checkNumbers ext value path = .ok () → value.Integers := by
  induction value using Value.induct with
  | scalar value notArray notObject =>
      intro path checked
      cases value with
      | number n =>
          intro other member
          rw [List.mem_singleton.mp member]
          exact Number.integral_of_safe (isSafe_of_checked ext checked)
      | array items => cases notArray
      | object members => cases notObject
      | null => exact fun n none => absurd none List.not_mem_nil
      | bool b => exact fun n none => absurd none List.not_mem_nil
      | string s => exact fun n none => absurd none List.not_mem_nil
  | array items each =>
      intro path checked n member
      rw [checkNumbers] at checked
      unfold Value.numbers at member
      rw [Value.itemNumbers_eq, List.mem_flatMap] at member
      obtain ⟨item, inside, within⟩ := member
      have checkedItem : ∀ (items : List Value) (i : Nat), checkItems ext items path i = .ok () →
          ∀ item ∈ items, ∃ path, checkNumbers ext item path = .ok () := by
        intro items
        induction items with
        | nil => exact fun _ _ item none => absurd none List.not_mem_nil
        | cons first rest ih =>
            intro i checked item member
            rw [checkItems, bind_eq_ok] at checked
            obtain ⟨_, one, others⟩ := checked
            rcases List.mem_cons.mp member with rfl | later
            · exact ⟨_, one⟩
            · exact ih _ others item later
      obtain ⟨path, checked⟩ := checkedItem items 0 checked item inside
      exact each item inside path checked n within
  | object members each =>
      intro path checked n member
      rw [checkNumbers] at checked
      unfold Value.numbers at member
      rw [Value.memberNumbers_eq, List.mem_flatMap] at member
      obtain ⟨member, inside, within⟩ := member
      have checkedMember : ∀ members : Members, checkMembers ext members path = .ok () →
          ∀ member ∈ members, ∃ path, checkNumbers ext member.2 path = .ok () := by
        intro members
        induction members with
        | nil => exact fun _ item none => absurd none List.not_mem_nil
        | cons first rest ih =>
            intro checked member held
            rw [checkMembers, bind_eq_ok] at checked
            obtain ⟨_, one, others⟩ := checked
            rcases List.mem_cons.mp held with rfl | later
            · exact ⟨_, one⟩
            · exact ih others member later
      obtain ⟨path, checked⟩ := checkedMember members checked member inside
      exact each member inside path checked n within

end Envelope

namespace World

variable {world : World}

/-- What a query answers with has a canonical text. -/
theorem record_integers (reached : (kernel ext config).Reachable world) {row : EnvelopeRow}
    (member : row ∈ world.store.envelopes) : row.record.Integers := by
  obtain ⟨taken, _, built, before, after, taking⟩ := row_built (traced reached) member
  obtain ⟨subjectKey, payloads, admitted⟩ := taking.origin.admitted
  obtain ⟨map, kind, spec, valid⟩ := Envelope.validate_eq_ok admitted.valid
  have of := Store.envelopeRow_eq_ok built
  have tree : row.canonicalJson.tree = taken.plan.envelope := by
    rw [of.canonicalJson, admitted.canonical]
  have integers : row.canonicalJson.tree.Integers := tree ▸ Envelope.integers_of_checked _ _ valid.numbers
  have plain : ∀ text : Option String, (Value.ofOption text).numbers = [] := by
    rintro (_ | _) <;> rfl
  intro n inside
  unfold EnvelopeRow.record Value.numbers at inside
  simp only [Value.memberNumbers, plain, Value.numbers, List.nil_append, List.append_nil] at inside
  exact integers n inside

end World

namespace Console

/-- The filters an export applies, a whole page at a time. -/
def exportQuery (params : Params) : EnvelopeQuery :=
  { (Filters.fromParams params).queryFrom none with limit := exportPageRows }

/-- What an export cannot be asked for. -/
def Unknown (params : Params) : Prop :=
  unknownFilters params ≠ [] ∨ formatOf params ∉ exportFormats

/-- The rows of an export: each one that matched when it began, once and in order, and none that does not match. -/
structure Whole (params : Params) (opened world : World) (rows : List EnvelopeRow) : Prop where
  ordered : rows.Pairwise EnvelopeRow.Before
  complete : ∀ row ∈ opened.store.envelopes, opened.store.predicate (exportQuery params) row = true → row ∈ rows
  sound : ∀ row ∈ rows, row ∈ world.store.envelopes ∧ world.store.predicate (exportQuery params) row = true

/-- The text an export writes of a row. -/
def lineOf (row : EnvelopeRow) : List Char :=
  render row.record

/-- What an export under way has written of the rows it has come to. -/
structure Written (ext : External) (params : Params) (opened : World) (work : Export) (world : World)
    (rows : List EnvelopeRow) : Prop where
  filters : work.filters = Filters.fromParams params
  format : work.format = formatOf params
  paged : Paged EnvelopeRow.auditKey (AuditWalk.matching (exportQuery params) opened) rows
    (AuditWalk.matching (exportQuery params) world)
  resume : work.resume = rows.getLast?.map EnvelopeRow.cursor
  body : work.body.toList = lines '\n' (rows.map lineOf)
  shown : work.rows = if work.format = "html" then rows.map fun held => row ext held.record else []
  exported : work.exported = rows.length

/-- What an export is answered with that came to its end. -/
structure Delivered (ext : External) (params : Params) (answer : ExportAnswer) (rows : List EnvelopeRow) : Prop where
  html : formatOf params = "html" → ∃ title query, answer =
    .document title query rows.length payloadRoute (rows.map fun held => row ext held.record)
  file : formatOf params ≠ "html" → ∃ body, answer = .file body rows.length payloadRoute ∧
    body.toList = lines '\n' (rows.map lineOf)

/-- How an export stands. -/
inductive Stands (ext : External) (run : ExportRun) (world : World) : Prop where
  | underWay (work : Export) (stage : run.stage = .underWay work) (known : ¬Unknown run.params)
      (rows : List EnvelopeRow) (written : Written ext run.params run.opened work world rows)
  | refused (title detail : String) (stage : run.stage = .answered (.notice title detail))
      (unknown : Unknown run.params)
  | delivered (answer : ExportAnswer) (stage : run.stage = .answered answer) (known : ¬Unknown run.params)
      (rows : List EnvelopeRow) (whole : Whole run.params run.opened world rows)
      (delivered : Delivered ext run.params answer rows)

section

variable {params : Params} {opened world : World} {work : Export} {rows : List EnvelopeRow}

theorem body_append (start : String) (texts : List (List Char)) :
    ((texts.map String.ofList).foldl (fun body line => body ++ line ++ "\n") start).toList =
      start.toList ++ lines '\n' texts := by
  induction texts generalizing start with
  | nil => simp [lines]
  | cons first rest ih =>
      rw [List.map_cons, List.foldl_cons, ih]
      unfold lines
      simp [String.toList_append]

/-- A page can be written, whatever it holds. -/
theorem page_written (plain : PlainIntegers formatFinite) (reached : (kernel ext config).Reachable world)
    (held : ∀ row ∈ rows, row ∈ world.store.envelopes) :
    mapChecked (canonicalize ext formatFinite) (rows.map EnvelopeRow.record) =
      .ok ((rows.map lineOf).map String.ofList) := by
  rw [mapChecked_map, List.map_map]
  exact mapChecked_ok fun row member =>
    canonicalize_render plain (World.record_integers reached (held row member))

theorem Written.grow (written : Written ext params opened work world rows) (action : Action) :
    Written ext params opened work (World.step ext config world action) rows :=
  { written with paged := written.paged.grow (AuditWalk.matching_grows [action]) }

theorem Whole.grow (whole : Whole params opened world rows) (action : Action) :
    Whole params opened (World.step ext config world action) rows :=
  { whole with
    sound := fun row member => List.mem_filter.mp (AuditWalk.matching_grows [action] row
      (List.mem_filter.mpr (whole.sound row member))) }

theorem Written.whole (written : Written ext params opened work world rows)
    (all : ∀ row ∈ AuditWalk.matching (exportQuery params) opened, row ∈ rows) : Whole params opened world rows where
  ordered := written.paged.increasing.imp EnvelopeRow.before_of_auditKey
  complete := fun row held matches_ => all row (List.mem_filter.mpr ⟨held, matches_⟩)
  sound := fun row member => List.mem_filter.mp (written.paged.held row member)

theorem Written.delivered (written : Written ext params opened work world rows) :
    Delivered ext params work.finish rows := by
  unfold Export.finish
  constructor
  · intro html
    have here := written.format.trans html
    rw [if_pos here, written.shown, if_pos here, written.exported]
    exact ⟨_, _, rfl⟩
  · intro other
    rw [if_neg (written.format ▸ other), written.exported]
    exact ⟨_, rfl, written.body⟩

/-- A turn writes the next page, or ends the export when there is none or it is not full. -/
theorem Written.turn (plain : PlainIntegers formatFinite) (reached : (kernel ext config).Reachable world)
    (written : Written ext params opened work world rows) :
    (∃ next taken, work.turn ext formatFinite world.store = .underWay next ∧
      Written ext params opened next world (rows ++ taken)) ∨
    ∃ answer taken, work.turn ext formatFinite world.store = .answered answer ∧
      Whole params opened world (rows ++ taken) ∧ Delivered ext params answer (rows ++ taken) := by
  obtain ⟨taken, isTaken⟩ : ∃ taken, taken = world.store.queryRows { exportQuery params with after := work.resume } :=
    ⟨_, rfl⟩
  have distinct := @AuditWalk.matching_distinct ext config (exportQuery params) world reached
  have isPage : taken = page EnvelopeRow.auditKey 10000 (rows.getLast?.map EnvelopeRow.auditKey)
      (AuditWalk.matching (exportQuery params) world) := by
    rw [isTaken, AuditWalk.queryRows_page, written.resume, Option.map_map]
    rfl
  have held : ∀ row ∈ taken, row ∈ world.store.envelopes := by
    rw [isTaken]
    exact AuditWalk.queryRows_held
  have records : world.store.query { work.filters.queryFrom work.resume with limit := exportPageRows } =
      taken.map EnvelopeRow.record := by
    rw [written.filters, isTaken]
    rfl
  have paged := @Paged.next _ _ _ _ _ _ _ 10000 written.paged distinct
  have ended := @Paged.ended _ _ _ _ _ _ _ 10000 written.paged
  rw [← isPage] at paged ended
  unfold Export.turn
  dsimp only
  rw [records, page_written plain reached held]
  dsimp only
  rcases List.eq_nil_or_concat taken with rfl | ⟨before, last, split⟩
  · rw [List.append_nil] at ended
    refine .inr ⟨work.finish, [], rfl, ?_, ?_⟩
    · rw [List.append_nil]
      exact written.whole (ended (by decide))
    · rw [List.append_nil]
      exact written.delivered
  · rw [List.concat_eq_append] at split
    have some_ : (taken.map EnvelopeRow.record).isEmpty = false := by
      rw [split]
      simp
    have next : Written ext params opened { work with
        resume := cursorAfter (taken.map EnvelopeRow.record)
        body := ((taken.map lineOf).map String.ofList).foldl (fun body line => body ++ line ++ "\n") work.body
        rows := if work.format = "html" then work.rows ++ (taken.map EnvelopeRow.record).map (row ext) else work.rows
        exported := work.exported + (taken.map EnvelopeRow.record).length } world (rows ++ taken) := by
      refine ⟨written.filters, written.format, paged, ?_, ?_, ?_, ?_⟩
      · rw [World.cursorAfter_records reached held, split, ← List.append_assoc, List.getLast?_concat,
          List.getLast?_concat]
      · rw [body_append, written.body, List.map_append]
        unfold lines
        rw [List.flatMap_append]
      · dsimp only
        rw [written.shown]
        split
        · rw [List.map_append, List.map_map]
          rfl
        · rfl
      · dsimp only
        rw [written.exported, List.length_map, List.length_append]
    rw [some_]
    by_cases short : ((taken.map EnvelopeRow.record).length : Int) < exportPageRows
    · refine .inr ⟨_, taken, by rw [if_neg Bool.false_ne_true, if_pos short], ?_, next.delivered⟩
      rw [List.length_map] at short
      unfold exportPageRows at short
      exact next.whole (ended (by omega))
    · exact .inl ⟨_, taken, by rw [if_neg Bool.false_ne_true, if_neg short], next⟩

/-- A turn that finds less than a page ends the export. -/
theorem turn_answers (plain : PlainIntegers formatFinite) (reached : (kernel ext config).Reachable world)
    (few : world.store.envelopes.length < 10000) (work : Export) :
    ∃ answer, work.turn ext formatFinite world.store = .answered answer := by
  obtain ⟨query, isQuery⟩ : ∃ query : EnvelopeQuery, query =
      { work.filters.queryFrom work.resume with limit := exportPageRows } := ⟨_, rfl⟩
  have held : ∀ row ∈ world.store.queryRows query, row ∈ world.store.envelopes :=
    @AuditWalk.queryRows_held query world query.after
  have size : (world.store.queryRows query).length ≤ world.store.envelopes.length := by
    unfold Store.queryRows
    rw [List.length_take, List.length_insertionSort]
    exact (Nat.min_le_right _ _).trans ((List.length_filter_le _ _).trans (List.length_filter_le _ _))
  unfold Export.turn
  dsimp only
  rw [← isQuery]
  unfold Store.query
  rw [page_written plain reached held]
  split
  · exact ⟨_, rfl⟩
  · dsimp only
    rw [if_pos]
    · exact ⟨_, rfl⟩
    · rw [List.length_map]
      unfold exportPageRows
      omega

end

/-- An export that can be asked for begins with nothing written. -/
theorem startExport_stands (params : Params) (world : World) :
    Stands ext { params, opened := world, stage := startExport params } world := by
  by_cases unknown : unknownFilters params = []
  · by_cases known : formatOf params ∈ exportFormats
    · have started : startExport params = .underWay {
          filters := Filters.fromParams params, format := formatOf params, resume := none, body := "", rows := []
          exported := 0 } := by
        unfold startExport
        dsimp only
        rw [if_neg (not_not.mpr unknown), if_neg (not_not.mpr known)]
      refine .underWay _ started ?_ [] ⟨rfl, rfl, .start _, rfl, rfl, ?_, rfl⟩
      · rintro (bad | bad)
        · exact bad unknown
        · exact bad known
      · simp
    · have stopped : ∃ title detail, startExport params = .answered (.notice title detail) := by
        unfold startExport
        dsimp only
        rw [if_neg (not_not.mpr unknown), if_pos known]
        exact ⟨_, _, rfl⟩
      obtain ⟨title, detail, stopped⟩ := stopped
      exact .refused title detail stopped (.inr known)
  · have stopped : ∃ title detail, startExport params = .answered (.notice title detail) := by
      unfold startExport
      dsimp only
      rw [if_pos unknown]
      exact ⟨_, _, rfl⟩
    obtain ⟨title, detail, stopped⟩ := stopped
    exact .refused title detail stopped (.inl unknown)

theorem Stands.grow {run : ExportRun} {world : World} (stands : Stands ext run world) (action : Action) :
    Stands ext run (World.step ext config world action) := by
  cases stands with
  | underWay work stage known rows written => exact .underWay work stage known rows (written.grow action)
  | refused title detail stage unknown => exact .refused title detail stage unknown
  | delivered answer stage known rows whole delivered =>
      exact .delivered answer stage known rows (whole.grow action) delivered

/-- What is known of the console and the kernel it reads. -/
structure Reading (ext : External) (config : Config) (state : Regulated) : Prop where
  reached : (kernel ext config).Reachable state.world
  stands : ∀ run ∈ state.exports, Stands ext run state.world

variable {state : Regulated}

theorem Reading.step (plain : PlainIntegers formatFinite) (known : Reading ext config state) (move : ExportMove) :
    Reading ext config ((exporting ext formatFinite config).step state move) := by
  cases move with
  | kernel action =>
      exact ⟨known.reached.step action, fun run member => (known.stands run member).grow action⟩
  | ask params =>
      refine ⟨known.reached, ?_⟩
      intro run member
      rcases List.mem_append.mp member with earlier | new
      · exact known.stands run earlier
      · rw [List.mem_singleton.mp new]
        exact startExport_stands params state.world
  | turn index =>
      show Reading ext config (state.turn ext formatFinite index)
      unfold Regulated.turn
      cases found : state.exports[index]? with
      | none => exact known
      | some run =>
          have stands := known.stands run (List.mem_of_getElem? found)
          cases stage : run.stage with
          | answered answer =>
              dsimp only
              rw [stage]
              exact known
          | underWay work =>
              dsimp only
              rw [stage]
              refine ⟨known.reached, ?_⟩
              intro other member
              rcases List.mem_or_eq_of_mem_set member with earlier | new
              · exact known.stands other earlier
              · cases stands with
                | refused title detail answered unknown => cases stage.symm.trans answered
                | delivered answer answered => cases stage.symm.trans answered
                | underWay same isWork sound rows written =>
                    cases stage.symm.trans isWork
                    rw [new]
                    rcases written.turn plain known.reached with
                      ⟨next, taken, turned, after⟩ | ⟨answer, taken, turned, whole, delivered⟩
                    · exact .underWay next turned sound _ after
                    · exact .delivered answer turned sound _ whole delivered

theorem reading (plain : PlainIntegers formatFinite) (reached : (exporting ext formatFinite config).Reachable state) :
    Reading ext config state := by
  refine reached.invariant (Reading ext config) ?_ fun _ move _ known => known.step plain move
  intro state start
  have first : state = { world := .initial, exports := [] } := start
  subst first
  exact ⟨⟨.initial, [], rfl, rfl⟩, fun run none => absurd none List.not_mem_nil⟩

/-- An export is refused just when it names a filter or a format there is none of. Any other that comes to its end holds
every envelope that matched when it was asked for, each once and in the audit ordering, and none that does not match,
whatever is appended meanwhile and whatever position or row cap it was asked with; and its file, split into lines, is
the canonical text of each. -/
theorem exported_whole (plain : PlainIntegers formatFinite) (reached : (exporting ext formatFinite config).Reachable state)
    {run : ExportRun} (member : run ∈ state.exports) {answer : ExportAnswer} (answered : run.stage = .answered answer) :
    (Unknown run.params ∧ ∃ title detail, answer = .notice title detail) ∨
    ¬Unknown run.params ∧ ∃ rows, Whole run.params run.opened state.world rows ∧ Delivered ext run.params answer rows ∧
      ∀ body records route, answer = .file body records route →
        body.toList.splitOn '\n' = rows.map lineOf ++ [[]] := by
  cases (reading plain reached).stands run member with
  | underWay work stage => cases answered.symm.trans stage
  | refused title detail stage unknown =>
      cases answered.symm.trans stage
      exact .inl ⟨unknown, title, detail, rfl⟩
  | delivered same stage known rows whole delivered =>
      cases answered.symm.trans stage
      refine .inr ⟨known, rows, whole, delivered, ?_⟩
      rintro body records route rfl
      have other : formatOf run.params ≠ "html" := by
        intro html
        obtain ⟨title, query, isDocument⟩ := delivered.html html
        cases isDocument
      obtain ⟨written, isFile, isBody⟩ := delivered.file other
      cases isFile
      rw [isBody]
      apply splitOn_lines
      intro line inside
      obtain ⟨row, _, rfl⟩ := List.mem_map.mp inside
      exact newline_render row.record

end Console

namespace World

theorem envelopes_length_le (world : World) (actions : List Action) :
    ((kernel ext config).run world actions).store.envelopes.length ≤
      world.store.envelopes.length + actions.length := by
  induction actions generalizing world with
  | nil => exact le_refl _
  | cons action rest ih =>
      have one : (World.step ext config world action).store.envelopes.length ≤ world.store.envelopes.length + 1 := by
        cases step_cases ext config world action with
        | quiet store accepted tasks =>
            rw [store.envelopes.1]
            omega
        | appends request snapshot validated waiting fresh store accepted tasks =>
            obtain ⟨row, _, _, _, envelopes⟩ := store.envelopes
            rw [envelopes, List.length_append, List.length_singleton]
      have others := ih (World.step ext config world action)
      rw [List.length_cons]
      exact others.trans (by omega)

end World

end Stozher

namespace Stozher.Deployment

open Library Console

/-- The founding of a deployment, and an export of all of it. -/
def foundingExported : List ExportMove :=
  founding.map .kernel ++ [.ask [], .turn 0]

theorem run_kernel_moves (world : World) (exports : List ExportRun) (actions : List Action) :
    (exporting ext integerText config).run { world, exports } (actions.map .kernel) =
      { world := (kernel ext config).run world actions, exports } := by
  induction actions generalizing world with
  | nil => rfl
  | cons action rest ih => exact ih (World.step ext config world action)

theorem founding_exported : ∃ answer rows, Whole [] (after founding) (after founding) rows ∧
    Delivered ext [] answer rows := by
  have few : (after founding).store.envelopes.length < 10000 := by
    have bounded := @World.envelopes_length_le ext config World.initial founding
    rw [run_initial] at bounded
    exact bounded.trans_lt (by decide)
  have begun : startExport [] = .underWay {
      filters := Filters.fromParams [], format := "ndjson", resume := none, body := "", rows := [], exported := 0 } := rfl
  obtain ⟨answer, answered⟩ := turn_answers integerText_plain (reachable founding) few {
      filters := Filters.fromParams [], format := "ndjson", resume := none, body := "", rows := [], exported := 0 }
  have arrives : (exporting ext integerText config).run { world := .initial, exports := [] } foundingExported =
      { world := after founding, exports := [{ params := [], opened := after founding, stage := .answered answer }] } := by
    unfold foundingExported
    rw [System.run_append, run_kernel_moves, run_initial, ← answered]
    rfl
  have reached : (exporting ext integerText config).Reachable
      { world := after founding, exports := [{ params := [], opened := after founding, stage := .answered answer }] } :=
    ⟨_, foundingExported, rfl, arrives⟩
  have known : ¬Unknown [] := by
    rintro (bad | bad)
    · exact bad rfl
    · exact bad (by decide)
  rcases exported_whole integerText_plain reached List.mem_cons_self rfl with refused | ⟨_, rows, whole, delivered, _⟩
  · exact absurd refused.1 known
  · exact ⟨answer, rows, whole, delivered⟩

end Stozher.Deployment
