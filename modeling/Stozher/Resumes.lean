import Stozher.Acceptance
import Stozher.Deployment

namespace Stozher

open Library Ingest

variable {ext : External} {config : Config}

namespace Store

variable {store next : Store} {plan : AppendPlan} {stream : String} {position : Nat}

/-- The first resume of a position is the one a lookup finds, whatever is added later. -/
theorem streamResume_grows (grows : store.streamResumes <+: next.streamResumes) {hash : String}
    (resumed : store.streamResume stream position = some hash) :
    next.streamResume stream position = some hash := by
  obtain ⟨rows, later⟩ := grows
  unfold streamResume at resumed ⊢
  rw [Option.map_eq_some_iff] at resumed
  obtain ⟨row, found, bridge⟩ := resumed
  rw [← later, List.find?_append, found, Option.some_or, Option.map_some, bridge]

/-- An append that carries a resume leaves a bridge for its position: the one that was there, or its
own. -/
theorem ResumesBy.bridge {rows : List ResumeRow} (by_ : ResumesBy plan store rows)
    (resumes : next.streamResumes = store.streamResumes ++ rows) {resume : StreamResume}
    (projected : plan.projections.streamResume = some resume) :
    next.streamResume resume.stream resume.resumeSeq =
      some ((store.streamResume resume.stream resume.resumeSeq).getD resume.bridgeHash) := by
  cases held : store.streamResume resume.stream resume.resumeSeq with
  | some hash => exact streamResume_grows ⟨rows, resumes.symm⟩ held
  | none =>
      cases rows with
      | nil => exact absurd rfl (by_.first resume projected held)
      | cons row rest =>
          obtain ⟨other, written⟩ := by_.new row List.mem_cons_self
          have same := written.projected
          rw [projected] at same
          cases same
          unfold streamResume at held ⊢
          rw [Option.map_eq_none_iff] at held
          rw [resumes, List.find?_append, held, Option.none_or, List.find?_cons_of_pos]
          · rw [Option.map_some, written.bridgeHash, Option.getD_none]
          · simp [written.stream, written.resumeSeq]

theorem bridgeableAt_eq_of_rows (same : next.envelopes = store.envelopes) :
    next.bridgeableAt stream = store.bridgeableAt stream := by
  unfold bridgeableAt streamHead ofStream
  rw [same]

end Store

namespace World

variable {world : World} {stream : String} {position : Nat}

/-- Some accepted envelope carried a resume for the position. -/
def ResumeAccepted (world : World) (stream : String) (position : Nat) : Prop :=
  ∃ taken ∈ world.accepted, ∃ resume, taken.plan.projections.streamResume = some resume ∧
    resume.stream = stream ∧ resume.resumeSeq = position

theorem ResumeAccepted.bridge (reached : (kernel ext config).Reachable world)
    (accepted : world.ResumeAccepted stream position) :
    ∃ hash, world.store.streamResume stream position = some hash := by
  obtain ⟨taken, member, resume, projected, rfl, rfl⟩ := accepted
  obtain ⟨before, after, at_⟩ := (traced reached).accepted taken member
  obtain ⟨rows, resumes, by_⟩ := at_.appends.streamResumes
  exact ⟨_, Store.streamResume_grows at_.kept.streamResumes (by_.bridge resumes projected)⟩

/-- Past resumed positions an envelope that names the last bridge is taken exactly when the resumed
position is the only one. -/
theorem resumed_positions_crossed_iff (reached : (kernel ext config).Reachable world)
    {headSeq : Nat} {headId : String} (head : world.store.streamHead stream = some (headSeq, headId))
    {k : Nat} (positive : 1 ≤ k)
    (resumed : ∀ i, 1 ≤ i → i ≤ k → world.ResumeAccepted stream (headSeq + i))
    {request : Submission} {snapshot : Store} {validated : Validated}
    (waiting : Task.append request snapshot validated ∈ world.tasks)
    (fresh : world.store.envelopeById validated.plan.id = none)
    (within : validated.plan.stream = stream) (seq : validated.plan.seq = headSeq + k + 1)
    (names : validated.plan.prevHash = world.store.streamResume stream (headSeq + k)) :
    isOk (world.store.append validated.plan) = true ↔
      k = 1 ∧ Store.Writable world.store validated.plan := by
  have placed := ((traced reached).tasks _ _ _ waiting).placed
  obtain ⟨hash, bridge⟩ := (resumed k positive (le_refl k)).bridge reached
  have bridgeable : world.store.bridgeableAt stream = headSeq + 2 := by
    unfold Store.bridgeableAt
    rw [head]
  subst within
  rw [Store.append_isOk_iff fresh (by have := placed.small; omega)]
  refine and_congr_left fun _ => ?_
  constructor
  · intro position
    have reach := Store.position_within position
    omega
  · rintro rfl
    rw [Store.position_at_bridge (by omega), seq, names]
    exact ⟨hash, bridge, bridge⟩

/-- The step that takes an envelope performs the append of a submission that was waiting. -/
theorem performed_of_taken {action : Action} {taken : Accepted}
    (grown : (step ext config world action).accepted = world.accepted ++ [taken]) :
    ∃ index validated, action = .perform index ∧
      world.tasks[index]? = some (.append taken.request taken.snapshot validated) ∧
      validated.plan = taken.plan ∧ world.store.envelopeById taken.plan.id = none ∧
      isOk (world.store.append taken.plan) = true := by
  cases step_cases ext config world action with
  | quiet store accepted =>
      have longer := congrArg List.length (accepted.symm.trans grown)
      simp at longer
  | appends request snapshot validated waiting fresh store accepted tasks performs =>
      rw [accepted, List.append_cancel_left_eq, List.cons.injEq] at grown
      obtain ⟨rfl, _⟩ := grown
      obtain ⟨index, performs, found, done⟩ := performs
      exact ⟨index, validated, performs, found, rfl, fresh, done⟩

/-- The resume accepted last for a position. -/
def latestResume (accepted : List Accepted) (stream : String) (position : Nat) : Option StreamResume :=
  ((accepted.filterMap fun taken => taken.plan.projections.streamResume).filter fun resume =>
    resume.stream == stream && resume.resumeSeq == position).getLast?

/-- A step that offers the store an envelope for a resumed position, chained onto the head of its
stream and with nothing else against it. -/
def Refills (world : World) (action : Action) (stream : String) (position : Nat) : Prop :=
  ∃ index request snapshot validated, action = .perform index ∧
    world.tasks[index]? = some (.append request snapshot validated) ∧
    validated.plan.stream = stream ∧ validated.plan.seq = position ∧
    validated.plan.prevHash = (world.store.streamHead stream).map Prod.snd ∧
    world.store.envelopeById validated.plan.id = none ∧
    Store.Writable world.store validated.plan

/-- A step that leaves a resumed position alone: it offers no envelope chained into it, and has no
resume of it accepted that names other bytes. -/
structure Respects (ext : External) (config : Config) (resume : StreamResume) (world : World)
    (action : Action) : Prop where
  refills : ¬ Refills world action resume.stream resume.resumeSeq
  renames : ∀ taken other, (step ext config world action).accepted = world.accepted ++ [taken] →
    taken.plan.projections.streamResume = some other → other.stream = resume.stream →
    other.resumeSeq = resume.resumeSeq → other.bridgeHash = resume.bridgeHash

/-- A resumed position that holds nothing and leads on by the hash its last resume named. -/
structure Honoured (world : World) (stream : String) (position : Nat) : Prop where
  empty : ∀ row ∈ world.store.ofStream stream, row.seq ≠ position
  across : ∀ latest request snapshot validated,
    latestResume world.accepted stream position = some latest →
    Task.append request snapshot validated ∈ world.tasks →
    world.store.envelopeById validated.plan.id = none → validated.plan.stream = stream →
    validated.plan.seq = position + 1 → (∀ row ∈ world.store.ofStream stream, row.seq ≤ position) →
    Store.Writable world.store validated.plan →
    (isOk (world.store.append validated.plan) = true ↔
      validated.plan.prevHash = some latest.bridgeHash)

/-- What a run that respects a resume keeps. -/
structure Holding (ext : External) (config : Config) (resume : StreamResume) (world : World) : Prop where
  reachable : (kernel ext config).Reachable world
  bridge : world.store.streamResume resume.stream resume.resumeSeq = some resume.bridgeHash
  latest : ∃ last, latestResume world.accepted resume.stream resume.resumeSeq = some last ∧
    last.bridgeHash = resume.bridgeHash
  empty : ∀ row ∈ world.store.ofStream resume.stream, row.seq ≠ resume.resumeSeq
  place : world.store.bridgeableAt resume.stream = resume.resumeSeq + 1 ∨
    ∃ row ∈ world.store.ofStream resume.stream, resume.resumeSeq < row.seq

theorem latestResume_concat {accepted : List Accepted} {taken : Accepted} :
    latestResume (accepted ++ [taken]) stream position =
      match taken.plan.projections.streamResume with
      | some resume => if resume.stream = stream ∧ resume.resumeSeq = position then some resume
          else latestResume accepted stream position
      | none => latestResume accepted stream position := by
  unfold latestResume
  rw [List.filterMap_append, List.filter_append]
  cases carried : taken.plan.projections.streamResume with
  | none => simp [carried]
  | some resume =>
      by_cases same : resume.stream = stream ∧ resume.resumeSeq = position
      · simp [carried, same]
      · have other : (resume.stream == stream && resume.resumeSeq == position) = false := by
          simpa using same
        simp [carried, same, other]

theorem Holding.honoured {resume : StreamResume} (holding : Holding ext config resume world) :
    Honoured world resume.stream resume.resumeSeq where
  empty := holding.empty
  across := by
    intro latest request snapshot validated last waiting fresh within seq below writable
    obtain ⟨other, found, named⟩ := holding.latest
    rw [last] at found
    cases found
    have placed := ((traced holding.reachable).tasks _ _ _ waiting).placed
    have here : world.store.bridgeableAt resume.stream = resume.resumeSeq + 1 := by
      rcases holding.place with here | ⟨row, member, past⟩
      · exact here
      · have := below row member
        omega
    rw [Store.append_isOk_iff fresh (by have := placed.small; omega),
      Store.position_at_bridge (by rw [within, here, seq]), within, seq, Nat.add_sub_cancel,
      holding.bridge, named]
    simp [writable]

/-- What an envelope taken into the stream of a respected resume does to the position. -/
theorem Holding.taken {resume : StreamResume} {action : Action}
    (holding : Holding ext config resume world) (respects : Respects ext config resume world action)
    {taken : Accepted}
    (grown : (step ext config world action).accepted = world.accepted ++ [taken])
    (within : taken.plan.stream = resume.stream) (small : taken.plan.seq < 2 ^ 53) :
    taken.plan.seq ≠ resume.resumeSeq ∧
      ((∃ row ∈ world.store.ofStream resume.stream, resume.resumeSeq < row.seq) ∨
        resume.resumeSeq < taken.plan.seq) := by
  obtain ⟨index, validated, rfl, waiting, same, fresh, done⟩ := performed_of_taken grown
  obtain ⟨position, writable⟩ := (Store.append_isOk_iff fresh (by omega)).mp done
  have refused : taken.plan.seq = resume.resumeSeq →
      taken.plan.prevHash ≠ (world.store.streamHead resume.stream).map Prod.snd := by
    intro seq prevHash
    rw [← same] at fresh seq prevHash writable within
    exact respects.refills ⟨index, _, _, validated, rfl, waiting, within, seq, prevHash, fresh, writable⟩
  rw [← within] at refused
  have place := holding.place
  have bridgeable : world.store.bridgeableAt resume.stream = resume.resumeSeq + 1 →
      taken.plan.seq ≠ resume.resumeSeq ∧ resume.resumeSeq < taken.plan.seq := by
    intro here
    rw [← within] at here
    unfold Store.bridgeableAt at here
    cases position with
    | first empty seq prevHash =>
        rw [empty] at here refused
        dsimp only at here
        exact absurd prevHash (refused (by omega))
    | firstBridged _ empty seq _ _ =>
        rw [empty] at here
        dsimp only at here
        omega
    | next _ _ head seq prevHash =>
        rw [head] at here refused
        dsimp only at here
        exact absurd prevHash (refused (by omega))
    | nextBridged _ _ _ head seq _ _ =>
        rw [head] at here
        dsimp only at here
        omega
  rcases place with here | ⟨row, member, past⟩
  · exact ⟨(bridgeable here).1, Or.inr (bridgeable here).2⟩
  · refine ⟨?_, Or.inl ⟨row, member, past⟩⟩
    rw [← within] at member
    cases position with
    | first empty _ _ =>
        rw [Store.ofStream_empty empty] at member
        cases member
    | firstBridged _ empty _ _ _ =>
        rw [Store.ofStream_empty empty] at member
        cases member
    | next _ _ head seq _ =>
        have := (Store.head_mem head).2 row member
        omega
    | nextBridged _ _ _ head seq _ _ =>
        have := (Store.head_mem head).2 row member
        omega

/-- One step that respects a resume keeps what holds of its position. -/
theorem Holding.step {resume : StreamResume} {action : Action}
    (holding : Holding ext config resume world) (respects : Respects ext config resume world action) :
    Holding ext config resume (World.step ext config world action) := by
  have known := traced holding.reachable
  have cases_ := step_cases ext config world action
  have bridge := Store.streamResume_grows cases_.grows.streamResumes holding.bridge
  have reachable := holding.reachable.step action
  cases cases_ with
  | quiet store accepted tasks =>
      have rows : (World.step ext config world action).store.ofStream resume.stream =
          world.store.ofStream resume.stream := by
        unfold Store.ofStream
        rw [store.envelopes.1]
      refine ⟨reachable, bridge, ?_, ?_, ?_⟩
      · rw [accepted]
        exact holding.latest
      · rw [rows]
        exact holding.empty
      · rw [rows, Store.bridgeableAt_eq_of_rows store.envelopes.1]
        exact holding.place
  | appends request snapshot validated waiting fresh store accepted tasks =>
      obtain ⟨row, built, _, _, envelopes⟩ := store.envelopes
      have of := Store.envelopeRow_eq_ok built
      have small := (known.tasks _ _ _ waiting).placed.small
      have seq : row.seq = validated.plan.seq := by rw [of.seq, saturate_of_lt (by omega)]
      have rows := Store.ofStream_append resume.stream envelopes
      refine ⟨reachable, bridge, ?_, ?_, ?_⟩
      · rw [accepted, latestResume_concat]
        dsimp only
        cases carried : validated.plan.projections.streamResume with
        | none => exact holding.latest
        | some other =>
            dsimp only
            split
            · rename_i same
              exact ⟨other, rfl, respects.renames _ other accepted carried same.1 same.2⟩
            · exact holding.latest
      · rw [rows]
        intro other member
        rcases List.mem_append.mp member with earlier | new
        · exact holding.empty other earlier
        · split at new
          · rename_i within
            rw [List.mem_singleton] at new
            subst new
            rw [seq]
            exact (holding.taken respects accepted (of.stream.symm.trans within) small).1
          · cases new
      · by_cases within : row.stream = resume.stream
        · rw [rows, if_pos within]
          refine Or.inr ?_
          rcases (holding.taken respects accepted (of.stream.symm.trans within) small).2 with
            ⟨other, member, past⟩ | past
          · exact ⟨other, List.mem_append_left _ member, past⟩
          · refine ⟨row, List.mem_append_right _ List.mem_cons_self, ?_⟩
            rw [seq]
            exact past
        · rw [if_neg within, List.append_nil] at rows
          rw [rows]
          unfold Store.bridgeableAt Store.streamHead
          rw [rows]
          exact holding.place

/-- The step that has a resume accepted right past the head of its stream. -/
theorem Holding.start (reached : (kernel ext config).Reachable world) {action : Action}
    {taken : Accepted} {resume : StreamResume}
    (grown : (World.step ext config world action).accepted = world.accepted ++ [taken])
    (carries : taken.plan.projections.streamResume = some resume)
    (agrees : ∀ hash, world.store.streamResume resume.stream resume.resumeSeq = some hash →
      hash = resume.bridgeHash)
    (below : (World.step ext config world action).store.bridgeableAt resume.stream =
      resume.resumeSeq + 1) :
    Holding ext config resume (World.step ext config world action) := by
  cases step_cases ext config world action with
  | quiet store accepted tasks =>
      rw [accepted] at grown
      have := congrArg List.length grown
      simp at this
  | appends request snapshot validated waiting fresh store accepted tasks =>
      rw [accepted, List.append_cancel_left_eq, List.cons.injEq] at grown
      obtain ⟨rfl, _⟩ := grown
      obtain ⟨rows, resumes, by_⟩ := store.streamResumes
      have bridge := by_.bridge resumes carries
      refine ⟨reached.step action, ?_, ?_, ?_, Or.inl below⟩
      · rw [bridge]
        cases held : world.store.streamResume resume.stream resume.resumeSeq with
        | none => rfl
        | some hash => rw [Option.getD_some, agrees hash held]
      · refine ⟨resume, ?_, rfl⟩
        rw [accepted, latestResume_concat]
        dsimp only
        rw [carries]
        simp
      · intro row member seq
        unfold Store.bridgeableAt at below
        cases head : (World.step ext config world action).store.streamHead resume.stream with
        | none =>
            rw [Store.ofStream_empty head] at member
            cases member
        | some pair =>
            rw [head] at below
            dsimp only at below
            have := (Store.head_mem head).2 row member
            omega

/-- A resume accepted right past the head of its stream is honoured in every state of every run that
respects it. -/
theorem resume_honoured (reached : (kernel ext config).Reachable world) {action : Action}
    {taken : Accepted} {resume : StreamResume}
    (grown : (World.step ext config world action).accepted = world.accepted ++ [taken])
    (carries : taken.plan.projections.streamResume = some resume)
    (agrees : ∀ hash, world.store.streamResume resume.stream resume.resumeSeq = some hash →
      hash = resume.bridgeHash)
    (below : (World.step ext config world action).store.bridgeableAt resume.stream =
      resume.resumeSeq + 1)
    (actions : List Action)
    (each : ∀ before later after, actions = before ++ later :: after → Respects ext config resume
      ((kernel ext config).run (World.step ext config world action) before) later) :
    Honoured ((kernel ext config).run (World.step ext config world action) actions) resume.stream
      resume.resumeSeq := by
  have start := Holding.start reached grown carries agrees below
  have final := (kernel ext config).run_invariant_of (Holding ext config resume)
    (fun _ _ respects holding => Holding.step holding respects) start actions each
  exact final.honoured

end World

end Stozher

namespace Stozher.Deployment

open Library Ingest World

/-- A resume that was seen. -/
theorem resumeAccepted {world : World} (resume : StreamResume) (seen : resume ∈ (streamSeen world).resumes) :
    world.ResumeAccepted resume.stream resume.resumeSeq := by
  obtain ⟨taken, member, projected⟩ := List.mem_filterMap.mp seen
  exact ⟨taken, member, resume, projected, rfl, rfl⟩

/-- An append that was seen waiting. -/
theorem waiting_of_offered {world : World} {index : Nat} {seen : Offered}
    (found : offered world index = some seen) :
    ∃ request snapshot validated, Task.append request snapshot validated ∈ world.tasks ∧
      validated.plan.stream = seen.stream ∧ validated.plan.seq = seen.seq ∧
      validated.plan.prevHash = seen.prevHash ∧ validated.plan.envelope = seen.envelope ∧
      (seen.known = false → world.store.envelopeById validated.plan.id = none) ∧
      refusal (world.store.append validated.plan) = seen.refusal := by
  obtain ⟨plan, planned, rfl⟩ := Option.map_eq_some_iff.mp found
  obtain ⟨request, snapshot, validated, task, rfl⟩ := planAt_eq_some planned
  refine ⟨request, snapshot, validated, List.mem_of_getElem? task, rfl, rfl, rfl, rfl, ?_, rfl⟩
  intro unknown
  cases held : world.store.envelopeById validated.plan.id with
  | none => rfl
  | some row =>
      dsimp only at unknown
      rw [held] at unknown
      cases unknown

theorem bridging_seen : streamSeen (after resumed) = {
    bridgeable := 2, head := some (0, firstNote.digest), refused := refusals
    resumes := [resumeOf 1 refusedNoteBody], bridges := [some refusedNoteBody.digest, none] } := by
  have seen := congrArg Observed.bridging observed_eq
  dsimp only [observed] at seen
  exact seen

/-- Past a single refused position the bridged note is taken. -/
theorem one_position_crossed :
    ∃ request snapshot validated, Task.append request snapshot validated ∈ (after resumed).tasks ∧
      validated.plan.envelope = bridgedNote.document ∧
      (isOk ((after resumed).store.append validated.plan) = true ↔
        1 = 1 ∧ Store.Writable (after resumed).store validated.plan) := by
  have bridged := congrArg Observed.bridged observed_eq
  dsimp only [observed] at bridged
  obtain ⟨request, snapshot, validated, waiting, stream, seq, prevHash, envelope, fresh, _⟩ :=
    waiting_of_offered bridged
  have head := congrArg StreamSeen.head bridging_seen
  have bridges := congrArg StreamSeen.bridges bridging_seen
  have resumes := congrArg StreamSeen.resumes bridging_seen
  dsimp only [streamSeen] at head bridges
  rw [List.cons.injEq] at bridges
  refine ⟨request, snapshot, validated, waiting, envelope,
    resumed_positions_crossed_iff (reachable resumed) head (le_refl 1) ?_ waiting (fresh rfl) stream seq ?_⟩
  · intro i positive below
    have only : i = 1 := by omega
    subst only
    refine resumeAccepted (resumeOf 1 refusedNoteBody) ?_
    rw [resumes]
    exact List.mem_cons_self
  · rw [prevHash]
    exact bridges.1.symm

/-- Two adjacent positions are refused and resumed, and what names the last bridge is refused. -/
theorem two_positions_not_crossed :
    (kernel ext config).Reachable (after resumedTwice) ∧
      (after resumedTwice).store.streamHead "ops:notes" = some (0, firstNote.digest) ∧
      (∀ position ∈ [1, 2], (after resumedTwice).ResumeAccepted "ops:notes" position ∧
        ∃ hash, (after resumedTwice).store.streamResume "ops:notes" position = some hash ∧
          ∃ row ∈ (after resumedTwice).store.rejections, row.claimedStream = some "ops:notes" ∧
            row.claimedSeq = some position ∧ row.objectHash = hash) ∧
      ∃ request snapshot validated, Task.append request snapshot validated ∈ (after resumedTwice).tasks ∧
        validated.plan.stream = "ops:notes" ∧ validated.plan.seq = 0 + 2 + 1 ∧
        validated.plan.prevHash = (after resumedTwice).store.streamResume "ops:notes" 2 ∧
        isOk ((after resumedTwice).store.append validated.plan) = false := by
  have seen := congrArg Observed.bothResumed observed_eq
  have bridgedPast := congrArg Observed.bridgedPast observed_eq
  dsimp only [observed] at seen bridgedPast
  have head := congrArg StreamSeen.head seen
  have refused := congrArg StreamSeen.refused seen
  have resumes := congrArg StreamSeen.resumes seen
  have bridges := congrArg StreamSeen.bridges seen
  dsimp only [streamSeen] at head refused bridges
  rw [List.cons.injEq, List.cons.injEq] at bridges
  have recorded : ∀ position hash, (some "ops:notes", some position, hash) ∈ refusals →
      ∃ row ∈ (after resumedTwice).store.rejections, row.claimedStream = some "ops:notes" ∧
        row.claimedSeq = some position ∧ row.objectHash = hash := by
    intro position hash member
    rw [← refused] at member
    obtain ⟨row, held, same⟩ := List.mem_map.mp member
    rw [Prod.mk.injEq, Prod.mk.injEq] at same
    exact ⟨row, held, same⟩
  obtain ⟨request, snapshot, validated, waiting, stream, seq, prevHash, _, _, refused⟩ :=
    waiting_of_offered bridgedPast
  refine ⟨reachable _, head, ?_, request, snapshot, validated, waiting, stream, seq, ?_, ?_⟩
  · intro position member
    rcases List.mem_cons.mp member with first | rest
    · subst first
      refine ⟨resumeAccepted (resumeOf 1 refusedNoteBody) ?_, _, bridges.1,
        recorded 1 _ List.mem_cons_self⟩
      rw [resumes]
      exact List.mem_cons_self
    · rw [List.mem_singleton] at rest
      subst rest
      refine ⟨resumeAccepted (resumeOf 2 nextNoteBody) ?_, _, bridges.2.1,
        recorded 2 _ (List.mem_cons_of_mem _ List.mem_cons_self)⟩
      rw [resumes]
      exact List.mem_cons_of_mem _ List.mem_cons_self
  · rw [prevHash]
    exact bridges.2.1.symm
  · obtain ⟨error, outcome, _⟩ := refusal_eq_some refused
    rw [outcome]
    rfl

theorem refused_seen : streamSeen (after resuming) = {
    bridgeable := 2, head := some (0, firstNote.digest), refused := refusals, resumes := []
    bridges := [none, none] } := by
  have seen := congrArg Observed.refused observed_eq
  dsimp only [observed] at seen
  exact seen

/-- The first resume is honoured, and still is when the next note is offered again. -/
theorem first_resume_honoured :
    Honoured ((kernel ext config).run (World.step ext config (after resuming) (.perform 0))
      [.submit (submitted nextNoteBody.document nine)]) "ops:notes" 1 := by
  have opened := congrArg Observed.opened observed_eq
  dsimp only [observed] at opened
  have resumes := congrArg StreamSeen.resumes opened
  have none_ := congrArg StreamSeen.resumes refused_seen
  have bridges := congrArg StreamSeen.bridges refused_seen
  have bridgeable := congrArg StreamSeen.bridgeable opened
  rw [← step_after] at resumes bridgeable
  dsimp only [streamSeen] at resumes none_ bridges bridgeable
  rw [List.cons.injEq] at bridges
  have grown : ∃ taken, (World.step ext config (after resuming) (.perform 0)).accepted =
      (after resuming).accepted ++ [taken] ∧
      taken.plan.projections.streamResume = some (resumeOf 1 refusedNoteBody) := by
    cases step_cases ext config (after resuming) (.perform 0) with
    | quiet store accepted =>
        rw [accepted, none_] at resumes
        cases resumes
    | appends request snapshot validated waiting fresh store accepted =>
        rw [accepted, List.filterMap_append, none_, List.nil_append] at resumes
        have seen : resumeOf 1 refusedNoteBody ∈ [resumeOf 1 refusedNoteBody] := List.mem_cons_self
        rw [← resumes] at seen
        obtain ⟨taken, member, projected⟩ := List.mem_filterMap.mp seen
        rw [List.mem_singleton] at member
        exact ⟨taken, member ▸ accepted, projected⟩
  obtain ⟨taken, accepted, carries⟩ := grown
  refine resume_honoured (reachable resuming) accepted carries ?_ bridgeable _ ?_
  · intro hash found
    rw [show (after resuming).store.streamResume (resumeOf 1 refusedNoteBody).stream
      (resumeOf 1 refusedNoteBody).resumeSeq = none from bridges.1] at found
    cases found
  · intro before action later split
    cases only_action split
    constructor
    · intro refills
      obtain ⟨index, request, snapshot, validated, performed, _⟩ := refills
      cases performed
    · intro other resume grown
      cases step_cases ext config ((kernel ext config).run (World.step ext config (after resuming) (.perform 0)) before)
          (.submit (submitted nextNoteBody.document nine)) with
      | quiet store same =>
          have longer := congrArg List.length (same.symm.trans grown)
          simp at longer
      | appends request snapshot validated waiting fresh store accepted tasks performs =>
          obtain ⟨index, performed, _⟩ := performs
          cases performed

/-- A resumed position is taken by an envelope that chains into it. -/
theorem resumed_position_refilled :
    (kernel ext config).Reachable (after resumed) ∧ (after resumed).ResumeAccepted "ops:notes" 1 ∧
      ∃ taken, ((kernel ext config).run (after resumed) [.perform 2]).accepted =
          (after resumed).accepted ++ [taken] ∧ taken.plan.stream = "ops:notes" ∧ taken.plan.seq = 1 := by
  have resumes := congrArg StreamSeen.resumes bridging_seen
  have before := congrArg Observed.filled observed_eq
  have refilled := congrArg Observed.refilled observed_eq
  dsimp only [observed] at before refilled
  have length := congrArg List.length before
  rw [List.length_map] at length
  obtain ⟨taken, grown, place⟩ := last_taken [
    ("kernel:core", 0), ("kernel:core", 1), ("ops:notes", 0), ("kernel:core", 2)] refilled length
  rw [Prod.mk.injEq] at place
  refine ⟨reachable _, resumeAccepted (resumeOf 1 refusedNoteBody) ?_, taken, ?_, place⟩
  · rw [resumes]
    exact List.mem_cons_self
  · rw [run_after]
    exact grown

end Stozher.Deployment
