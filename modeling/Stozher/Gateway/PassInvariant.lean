import Stozher.Gateway.Passes

namespace Stozher.Gateway

open Library

variable {ext : External} {checkShape : Value → Result Unit}

/-- What a pass has still to handle, from the envelope it is at. -/
def Offering.ahead (pass : Offering) : List Queued :=
  pass.stage.row.toList ++ pass.rows

/-- The same outcome, with the envelope marked. -/
def Stage.marked : Stage → Stage
  | .accepting row _ => .accepting row true
  | .refused row reason detail _ => .refused row reason detail true
  | stage => stage

@[simp] theorem Stage.marked_row (stage : Stage) : stage.marked.row = stage.row := by
  cases stage <;> rfl

@[simp] theorem Stage.marked_busyWith (stage : Stage) : stage.marked.busyWith = stage.busyWith := by
  cases stage <;> rfl

/-- Copies of one envelope are at one place. -/
theorem same_place {first second : Queued} (same : first.toLocalEnvelope = second.toLocalEnvelope) :
    first.stream = second.stream ∧ first.seq = second.seq :=
  ⟨congrArg LocalEnvelope.stream same, congrArg LocalEnvelope.seq same⟩

namespace Outbox

variable {outbox before after : Outbox} {row : Queued}

def Holds (outbox : Outbox) (row : Queued) : Prop :=
  ∃ held ∈ outbox.rows, held.toLocalEnvelope = row.toLocalEnvelope

def Pushed (outbox : Outbox) (row : Queued) : Prop :=
  ∃ held ∈ outbox.rows, held.toLocalEnvelope = row.toLocalEnvelope ∧ held.pushedAt.isSome = true

/-- Everything before a row in its stream is pushed. -/
def Settled (outbox : Outbox) (row : Queued) : Prop :=
  ∀ other ∈ outbox.rows, other.stream = row.stream → other.seq < row.seq → other.pushedAt.isSome = true

/-- Everything before a row of a list is pushed or ahead of it in the list, unless its stream is known to be
refused. -/
def Progress (outbox : Outbox) (wedged : List String) (rows : List Queued) : Prop :=
  ∀ front row back, rows = front ++ row :: back → row.stream ∈ wedged ∨
    ∀ other ∈ outbox.rows, other.stream = row.stream → other.seq < row.seq →
      other.pushedAt.isSome = true ∨ ∃ ahead ∈ front, ahead.stream = other.stream ∧ ahead.seq = other.seq

/-- A state of the local store some writes later: nothing is lost, nothing pushed is unpushed, and what is new
comes last in its stream. -/
structure Later (before after : Outbox) : Prop where
  kept : ∀ row ∈ before.rows, ∃ held ∈ after.rows, held.toLocalEnvelope = row.toLocalEnvelope ∧
    (row.pushedAt.isSome = true → held.pushedAt.isSome = true)
  origin : ∀ held ∈ after.rows, (∃ row ∈ before.rows, held.toLocalEnvelope = row.toLocalEnvelope ∧
      (row.pushedAt.isSome = true → held.pushedAt.isSome = true)) ∨
    held.pushedAt = none ∧ ∀ row ∈ before.rows, row.stream = held.stream → row.seq < held.seq

theorem Later.of_rows (same : after.rows = before.rows) : Later before after := by
  constructor
  · intro row member
    exact ⟨row, same ▸ member, rfl, id⟩
  · intro held member
    exact .inl ⟨held, same ▸ member, rfl, id⟩

theorem Later.holds (later : Later before after) (holds : before.Holds row) : after.Holds row := by
  obtain ⟨held, member, same⟩ := holds
  obtain ⟨other, member', same', _⟩ := later.kept held member
  exact ⟨other, member', same'.trans same⟩

theorem Later.pushed (later : Later before after) (pushed : before.Pushed row) : after.Pushed row := by
  obtain ⟨held, member, same, isPushed⟩ := pushed
  obtain ⟨other, member', same', still⟩ := later.kept held member
  exact ⟨other, member', same'.trans same, still isPushed⟩

theorem Later.progress (later : Later before after) {wedged : List String} {rows : List Queued}
    (holds : ∀ row ∈ rows, before.Holds row) (progress : before.Progress wedged rows) :
    after.Progress wedged rows := by
  intro front row back split
  refine (progress front row back split).imp_right fun known => ?_
  intro other member stream less
  rcases later.origin other member with ⟨origin, listed, same, pushed⟩ | ⟨_, last⟩
  · have place := same_place same
    rcases known origin listed (place.1.symm.trans stream) (place.2 ▸ less) with before_ | ⟨ahead, inFront, isStream, isSeq⟩
    · exact .inl (pushed before_)
    · exact .inr ⟨ahead, inFront, isStream.trans place.1.symm, isSeq.trans place.2.symm⟩
  · obtain ⟨held, listed, same⟩ := holds row (split ▸ List.mem_append_right _ List.mem_cons_self)
    have place := same_place same
    have after_ := last held listed (place.1.trans stream.symm)
    omega

theorem Keyed.named_of_holds (keyed : outbox.Keyed) (holds : outbox.Holds row) : streamOf row = row.stream := by
  obtain ⟨held, member, same⟩ := holds
  have named := keyed.named held member
  unfold streamOf at named ⊢
  rw [← same]
  exact named

theorem Keyed.one (keyed : outbox.Keyed) {other : Queued} (inside : row ∈ outbox.rows)
    (inside' : other ∈ outbox.rows) (stream : row.stream = other.stream) (seq : row.seq = other.seq) :
    row = other := by
  have places : (outbox.rows.map Queued.place).Nodup := by
    rw [List.Nodup, List.pairwise_map]
    exact keyed.distinct
  apply List.inj_on_of_nodup_map places inside inside'
  unfold Queued.place
  rw [stream, seq]

theorem one_id {other : Queued} (ids : outbox.rows.Pairwise fun a b => a.id ≠ b.id) (inside : row ∈ outbox.rows)
    (inside' : other ∈ outbox.rows) (same : row.id = other.id) : row = other := by
  have distinct : (outbox.rows.map fun row => row.id).Nodup := by
    rw [List.Nodup, List.pairwise_map]
    exact ids
  exact List.inj_on_of_nodup_map distinct inside inside' same

/-- What is past the first of a batch of which nothing is left to do stays covered. -/
theorem Progress.tail {wedged seen : List String} {rows : List Queued}
    (progress : outbox.Progress wedged (row :: rows)) (more : ∀ stream ∈ wedged, stream ∈ seen)
    (passed : row.stream ∈ seen ∨ ∀ other ∈ outbox.rows, other.stream = row.stream → other.seq = row.seq →
      other.pushedAt.isSome = true) : outbox.Progress seen rows := by
  intro front next back split
  by_cases isSeen : next.stream ∈ seen
  · exact .inl isSeen
  · right
    have known := progress (row :: front) next back (congrArg (row :: ·) split)
    intro other member stream less
    rcases known with held | before_
    · exact absurd (more _ held) isSeen
    · rcases before_ other member stream less with pushed | ⟨ahead, inside, isStream, isSeq⟩
      · exact .inl pushed
      · rcases List.mem_cons.mp inside with rfl | inFront
        · rcases passed with held | pushed
          · rw [isStream, stream] at held
            exact absurd held isSeen
          · exact .inl (pushed other member isStream.symm isSeq.symm)
        · exact .inr ⟨ahead, inFront, isStream, isSeq⟩

/-- A batch is read from the front of each stream. -/
theorem Keyed.progress (keyed : outbox.Keyed) (limit : Int) (wedged : List String) :
    outbox.Progress wedged (outbox.unpushed limit) := by
  have prefix_ : ∃ rest, sortedAfter Queued.place none outbox.pending = outbox.unpushed limit ++ rest := by
    unfold unpushed page
    split
    · exact ⟨[], (List.append_nil _).symm⟩
    · exact ⟨_, (List.take_append_drop _ _).symm⟩
  obtain ⟨rest, whole⟩ := prefix_
  have increasing := @sortedAfter_increasing _ _ _ Queued.place none _ keyed.pending
  intro front next back split
  right
  intro other member stream less
  by_cases pushed : other.pushedAt.isSome = true
  · exact .inl pushed
  · have pending : other ∈ outbox.pending := by
      refine List.mem_filter.mpr ⟨member, ?_⟩
      rw [Option.isNone_iff_eq_none, ← Option.not_isSome_iff_eq_none]
      exact pushed
    have listed : other ∈ sortedAfter Queued.place none outbox.pending :=
      mem_sortedAfter.mpr ⟨pending, isAfter_none⟩
    rw [whole, split, List.append_assoc, List.cons_append] at listed increasing
    exact .inr ⟨other, mem_front_of_lt increasing listed (place_lt.mpr (.inr ⟨stream, less⟩)), rfl, rfl⟩

theorem mem_update {id : String} {change : Queued → Queued} {held : Queued} :
    held ∈ (outbox.update id change).rows ↔
      ∃ row ∈ outbox.rows, (if row.id = id then change row else row) = held := by
  unfold update
  exact List.mem_map

theorem later_update {id : String} {change : Queued → Queued}
    (keeps : ∀ row, (change row).toLocalEnvelope = row.toLocalEnvelope)
    (pushes : ∀ row, row.pushedAt.isSome = true → (change row).pushedAt.isSome = true) :
    Later outbox (outbox.update id change) := by
  have each : ∀ row : Queued, (if row.id = id then change row else row).toLocalEnvelope = row.toLocalEnvelope ∧
      (row.pushedAt.isSome = true → (if row.id = id then change row else row).pushedAt.isSome = true) := by
    intro row
    split
    · exact ⟨keeps row, pushes row⟩
    · exact ⟨rfl, fun pushed => pushed⟩
  constructor
  · intro row member
    exact ⟨_, mem_update.mpr ⟨row, member, rfl⟩, each row⟩
  · intro held member
    obtain ⟨row, listed, rfl⟩ := mem_update.mp member
    exact .inl ⟨row, listed, each row⟩

theorem Keyed.update (keyed : outbox.Keyed) {id : String} {change : Queued → Queued}
    (keeps : ∀ row, (change row).toLocalEnvelope = row.toLocalEnvelope) : (outbox.update id change).Keyed := by
  have each : ∀ row : Queued, (if row.id = id then change row else row).toLocalEnvelope = row.toLocalEnvelope := by
    intro row
    split
    · exact keeps row
    · rfl
  constructor
  · intro held member
    obtain ⟨row, listed, rfl⟩ := mem_update.mp member
    have named := keyed.named row listed
    unfold streamOf at named ⊢
    rw [each]
    exact named
  · unfold Outbox.update DistinctKeys
    rw [List.pairwise_map]
    refine keyed.distinct.imp fun {a b} different same => different ?_
    unfold Queued.place at same ⊢
    rw [each, each] at same
    exact same

theorem ids_update (ids : outbox.rows.Pairwise fun a b => a.id ≠ b.id) {id : String} {change : Queued → Queued}
    (keeps : ∀ row, (change row).toLocalEnvelope = row.toLocalEnvelope) :
    (outbox.update id change).rows.Pairwise fun a b => a.id ≠ b.id := by
  have each : ∀ row : Queued, (if row.id = id then change row else row).id = row.id := by
    intro row
    split
    · exact congrArg LocalEnvelope.id (keeps row)
    · rfl
  unfold update
  rw [List.pairwise_map]
  refine ids.imp fun {a b} different => ?_
  rw [each, each]
  exact different

theorem later_markPushed {id instant : String} {error : Option String} :
    Later outbox (outbox.markPushed id instant error) :=
  later_update (fun _ => rfl) fun _ _ => rfl

theorem later_markPushError {id detail : String} : Later outbox (outbox.markPushError id detail) :=
  later_update (fun _ => rfl) fun _ pushed => pushed

end Outbox

/-- The wedges say the same, but for how often their grace was used. -/
def Wedge.Same (first second : Wedge) : Prop :=
  { first with graceServed := second.graceServed } = second

/-- What chaining an envelope adds: an unpushed row past the others of its stream. -/
structure Outbox.Adds (outbox : Outbox) (row : Queued) : Prop where
  unpushed : row.pushedAt = none
  named : streamOf row = row.stream
  past : ∀ other ∈ outbox.rows, other.stream = row.stream → other.seq < row.seq
  fresh : ∀ other ∈ outbox.rows, other.id ≠ row.id

theorem turn_chain_adds {κ : Type} {outbox : Outbox} {emission : Emission} {next : GatewayStore} {id : String}
    (done : append ext checkShape outbox.chain emission = .ok (next, id)) :
    ∃ row, turn ext checkShape outbox (.chain emission : Turn κ) = { outbox with rows := outbox.rows ++ [row] } ∧
      outbox.Adds row := by
  obtain ⟨row, head, rows, within, topped, seq, chained⟩ := append_eq_ok done
  obtain ⟨other, rows', fresh⟩ := append_fresh done
  have same : row = other := List.singleton_inj.mp (List.append_cancel_left (rows.symm.trans rows'))
  subst same
  have length : outbox.rows.length = outbox.chain.envelopes.length := (List.length_map _).symm
  refine ⟨Outbox.keep row, ?_, rfl, ?_, ?_, ?_⟩
  · unfold turn
    dsimp only
    rw [done]
    dsimp only
    rw [length, rows, List.drop_left]
    rfl
  · unfold streamOf
    show (row.envelope.getStr "stream").getD "" = row.stream
    rw [chained.stream]
    rfl
  · intro held member isStream
    show held.seq < row.seq
    rw [seq, ← topped]
    have inside : held.toLocalEnvelope ∈ outbox.chain.envelopes := List.mem_map_of_mem member
    have isEmitted : held.stream = emission.stream := isStream.trans within
    exact below_nextSeq (List.mem_filter.mpr ⟨inside, beq_iff_eq.mpr isEmitted⟩)
  · exact fun held member => fresh held.toLocalEnvelope (List.mem_map_of_mem member)

namespace Pushers

variable {state next : Pushers}

/-- A pass of a state is at this. -/
def At (state : Pushers) (index : Nat) (stage : Stage) : Prop :=
  ∃ pass, state.passes[index]? = some pass ∧ pass.stage = stage

/-- What an outcome that is not written down yet says of its stream. -/
def StageOk (ext : External) (state : Pushers) : Stage → Prop
  | .accepting row marked => refusal ext state.answers row.stream = none ∧
      (marked = true → state.outbox.Pushed row)
  | .refused row _ _ marked => refusal ext state.answers row.stream = some row ∧
      state.outbox.wedge row.stream = none ∧ (marked = true → state.outbox.Pushed row)
  | _ => True

/-- What holds of a refusal that is in force: nothing past it is pushed, and its wedge is on record or about
to be. -/
structure InForce (state : Pushers) (stream : String) (first : Queued) : Prop where
  names : first.stream = stream
  holds : state.outbox.Holds first
  beyond : ∀ row ∈ state.outbox.rows, row.stream = stream → first.seq < row.seq → row.pushedAt = none
  recorded : (∃ wedge, state.outbox.wedge stream = some wedge ∧ wedge.envelopeId = first.id ∧
      state.outbox.Pushed first) ∨
    ∃ index reason detail marked, state.At index (.refused first reason detail marked)

structure Inv (ext : External) (state : Pushers) : Prop where
  keyed : state.outbox.Keyed
  ids : state.outbox.rows.Pairwise fun a b => a.id ≠ b.id
  settled : ∀ row ∈ state.outbox.rows, row.pushedAt.isSome = true → state.outbox.Settled row
  copies : ∀ (index : Nat) (pass : Offering), state.passes[index]? = some pass → ∀ row ∈ pass.ahead, state.outbox.Holds row
  progress : ∀ (index : Nat) (pass : Offering), state.passes[index]? = some pass → state.outbox.Progress pass.wedged pass.ahead
  unseen : ∀ (index : Nat) (pass : Offering), state.passes[index]? = some pass → ∀ row, pass.stage.row = some row →
    row.stream ∉ pass.wedged
  apart : ∀ index other stage stage' stream, state.At index stage → state.At other stage' →
    stage.busyWith = some stream → stage'.busyWith = some stream → index = other
  stages : ∀ index stage, state.At index stage → StageOk ext state stage
  refusals : ∀ stream first, refusal ext state.answers stream = some first → state.InForce stream first
  wedges : ∀ stream wedge, state.outbox.wedge stream = some wedge →
    (∃ first, refusal ext state.answers stream = some first ∧ wedge.envelopeId = first.id) ∨
      ∃ index row marked, state.At index (.accepting row marked) ∧ row.stream = stream

section

variable {next : Pushers} {index other : Nat} {after : Offering} {stage : Stage}

theorem at_set_self {held : Offering} (passes : next.passes = state.passes.set index after)
    (found : state.passes[index]? = some held) (isStage : after.stage = stage) : next.At index stage := by
  refine ⟨after, ?_, isStage⟩
  rw [passes]
  exact List.getElem?_set_self (List.getElem?_eq_some_iff.mp found).1

theorem at_set_ne (passes : next.passes = state.passes.set index after) (isAt : state.At other stage)
    (different : other ≠ index) : next.At other stage := by
  obtain ⟨held, found, rfl⟩ := isAt
  refine ⟨held, ?_, rfl⟩
  rw [passes, List.getElem?_set_ne different.symm]
  exact found

theorem pass_of_set {held : Offering} (passes : next.passes = state.passes.set index after)
    (found : next.passes[other]? = some held) :
    held = after ∧ other = index ∨ other ≠ index ∧ state.passes[other]? = some held := by
  rw [passes, List.getElem?_set] at found
  by_cases same : index = other
  · rw [if_pos same] at found
    split at found
    · cases found
      exact .inl ⟨rfl, same.symm⟩
    · cases found
  · rw [if_neg same] at found
    exact .inr ⟨fun is => same is.symm, found⟩

theorem at_of_set (passes : next.passes = state.passes.set index after) (isAt : next.At other stage) :
    other = index ∧ stage = after.stage ∨ other ≠ index ∧ state.At other stage := by
  obtain ⟨held, has, isStage⟩ := isAt
  rcases pass_of_set passes has with ⟨rfl, is⟩ | ⟨different, was⟩
  · exact .inl ⟨is, isStage.symm⟩
  · exact .inr ⟨different, held, was, isStage⟩

end

/-- What a step leaves as it was that no answer is heard in and no wedge written. -/
structure Quiet (ext : External) (state next : Pushers) : Prop where
  keyed : next.outbox.Keyed
  ids : next.outbox.rows.Pairwise fun a b => a.id ≠ b.id
  answers : ∀ stream, refusal ext next.answers stream = refusal ext state.answers stream
  later : state.outbox.Later next.outbox
  pushes : ∀ held ∈ next.outbox.rows, held.pushedAt.isSome = true →
    (∃ row ∈ state.outbox.rows, held.toLocalEnvelope = row.toLocalEnvelope ∧ row.pushedAt.isSome = true) ∨
      next.outbox.Settled held ∧ ∀ first, refusal ext state.answers held.stream = some first → held.seq ≤ first.seq
  wedges : ∀ stream, (next.outbox.wedge stream).map Wedge.envelopeId =
    (state.outbox.wedge stream).map Wedge.envelopeId
  passes : ∀ (index : Nat) (pass : Offering), next.passes[index]? = some pass →
    (∃ before, state.passes[index]? = some before ∧ (pass = before ∨
      pass = { before with stage := before.stage.marked } ∧
        ∀ row, before.stage.row = some row → next.outbox.Pushed row)) ∨
    pass.stage.busyWith = none ∧ (∀ row ∈ pass.ahead, next.outbox.Holds row) ∧
      next.outbox.Progress pass.wedged pass.ahead ∧ ∀ row, pass.stage.row = some row → row.stream ∉ pass.wedged
  busy : ∀ index stage, state.At index stage → stage.busyWith ≠ none →
    next.At index stage ∨ next.At index stage.marked

theorem Quiet.at_ {index : Nat} {stage : Stage} (quiet : Quiet ext state next) (isAt : next.At index stage) :
    (∃ before, state.At index before ∧ (stage = before ∨
      stage = before.marked ∧ ∀ row, before.row = some row → next.outbox.Pushed row)) ∨ stage.busyWith = none := by
  obtain ⟨pass, found, rfl⟩ := isAt
  rcases quiet.passes index pass found with ⟨before, same, is⟩ | ⟨idle, _⟩
  · refine .inl ⟨before.stage, ⟨before, same, rfl⟩, ?_⟩
    rcases is with rfl | ⟨rfl, pushed⟩
    · exact .inl rfl
    · exact .inr ⟨rfl, pushed⟩
  · exact .inr idle

theorem Quiet.wedge_eq_some {stream : String} {wedge : Wedge} (quiet : Quiet ext state next)
    (stands : next.outbox.wedge stream = some wedge) :
    ∃ other, state.outbox.wedge stream = some other ∧ other.envelopeId = wedge.envelopeId := by
  have same := quiet.wedges stream
  rw [stands, Option.map_some] at same
  exact Option.map_eq_some_iff.mp same.symm

theorem Quiet.settled (quiet : Quiet ext state next) (inv : Inv ext state) {row : Queued}
    (member : row ∈ next.outbox.rows) (pushed : row.pushedAt.isSome = true) : next.outbox.Settled row := by
  rcases quiet.pushes row member pushed with ⟨origin, listed, same, isPushed⟩ | ⟨settled, _⟩
  · intro other member' stream less
    have place := same_place same
    rcases quiet.later.origin other member' with ⟨origin', listed', same', keeps⟩ | ⟨_, last⟩
    · have place' := same_place same'
      apply keeps
      refine inv.settled origin listed isPushed origin' listed' ((place'.1.symm.trans stream).trans place.1) ?_
      rw [← place.2, ← place'.2]
      exact less
    · have after_ := last origin listed (place.1.symm.trans stream.symm)
      omega
  · exact settled

/-- A pass is at the same envelope as before. -/
theorem Quiet.pass (quiet : Quiet ext state next) {index : Nat} {pass : Offering}
    (found : next.passes[index]? = some pass) :
    (∃ before, state.passes[index]? = some before ∧ pass.ahead = before.ahead ∧ pass.wedged = before.wedged ∧
      pass.stage.row = before.stage.row) ∨
    (∀ row ∈ pass.ahead, next.outbox.Holds row) ∧ next.outbox.Progress pass.wedged pass.ahead ∧
      ∀ row, pass.stage.row = some row → row.stream ∉ pass.wedged := by
  rcases quiet.passes index pass found with ⟨before, same, rfl | ⟨rfl, _⟩⟩ | ⟨_, known⟩
  · exact .inl ⟨pass, same, rfl, rfl, rfl⟩
  · refine .inl ⟨before, same, ?_, rfl, Stage.marked_row _⟩
    unfold Offering.ahead
    rw [Stage.marked_row]
  · exact .inr known

theorem Quiet.stageOk (quiet : Quiet ext state next) {stage : Stage} (ok : StageOk ext state stage) :
    StageOk ext next stage := by
  have later := quiet.later
  cases stage with
  | ready => exact True.intro
  | offering row standing => exact True.intro
  | failing row detail => exact True.intro
  | accepting row marked =>
      refine ⟨?_, fun isMarked => later.pushed (ok.2 isMarked)⟩
      rw [quiet.answers]
      exact ok.1
  | refused row reason detail marked =>
      refine ⟨?_, ?_, fun isMarked => later.pushed (ok.2.2 isMarked)⟩
      · rw [quiet.answers]
        exact ok.1
      · have same := quiet.wedges row.stream
        rw [ok.2.1, Option.map_none, Option.map_eq_none_iff] at same
        exact same

theorem StageOk.marked {stage : Stage} (ok : StageOk ext state stage)
    (pushed : ∀ row, stage.row = some row → state.outbox.Pushed row) : StageOk ext state stage.marked := by
  cases stage with
  | ready => exact True.intro
  | offering row standing => exact True.intro
  | failing row detail => exact True.intro
  | accepting row marked => exact ⟨ok.1, fun _ => pushed row rfl⟩
  | refused row reason detail marked => exact ⟨ok.1, ok.2.1, fun _ => pushed row rfl⟩

theorem StageOk.of_idle {stage : Stage} (idle : stage.busyWith = none) : StageOk ext state stage := by
  cases stage with
  | ready => exact True.intro
  | offering row standing => exact True.intro
  | failing row detail => exact True.intro
  | accepting row marked => cases idle
  | refused row reason detail marked => cases idle

theorem Quiet.busyWith (quiet : Quiet ext state next) {index : Nat} {stage : Stage} {stream : String}
    (isAt : next.At index stage) (busy : stage.busyWith = some stream) :
    ∃ before, state.At index before ∧ before.busyWith = some stream := by
  rcases quiet.at_ isAt with ⟨before, isBefore, rfl | ⟨rfl, _⟩⟩ | idle
  · exact ⟨stage, isBefore, busy⟩
  · rw [Stage.marked_busyWith] at busy
    exact ⟨before, isBefore, busy⟩
  · rw [idle] at busy
    cases busy

theorem Quiet.inForce (quiet : Quiet ext state next) {stream : String} {first : Queued}
    (refused : refusal ext state.answers stream = some first) (inForce : state.InForce stream first) :
    next.InForce stream first := by
  have later := quiet.later
  refine ⟨inForce.names, later.holds inForce.holds, ?_, ?_⟩
  · intro row member isStream past
    by_contra pushed
    rcases quiet.pushes row member (Option.isSome_iff_ne_none.mpr pushed) with
      ⟨origin, listed, same, isPushed⟩ | ⟨_, below⟩
    · have place := same_place same
      have unpushed := inForce.beyond origin listed (place.1.symm.trans isStream) (place.2 ▸ past)
      rw [unpushed] at isPushed
      cases isPushed
    · rw [isStream] at below
      have atMost := below first refused
      omega
  · rcases inForce.recorded with ⟨wedge, stands, named, pushed⟩ | ⟨index, reason, detail, marked, isAt⟩
    · have same := quiet.wedges stream
      rw [stands, Option.map_some] at same
      obtain ⟨other, stands', named'⟩ := Option.map_eq_some_iff.mp same
      exact .inl ⟨other, stands', named'.trans named, later.pushed pushed⟩
    · right
      rcases quiet.busy index _ isAt (Option.some_ne_none _) with still | now
      · exact ⟨index, reason, detail, marked, still⟩
      · exact ⟨index, reason, detail, true, now⟩

theorem Inv.quiet (inv : Inv ext state) (quiet : Quiet ext state next) : Inv ext next := by
  have later := quiet.later
  constructor
  · exact quiet.keyed
  · exact quiet.ids
  · exact fun row member pushed => quiet.settled inv member pushed
  · intro index pass found row inside
    rcases quiet.pass found with ⟨before, same, ahead, _⟩ | ⟨copies, _⟩
    · exact later.holds (inv.copies index before same row (ahead ▸ inside))
    · exact copies row inside
  · intro index pass found
    rcases quiet.pass found with ⟨before, same, ahead, wedged, _⟩ | ⟨_, progress, _⟩
    · rw [ahead, wedged]
      exact later.progress (inv.copies index before same) (inv.progress index before same)
    · exact progress
  · intro index pass found row isRow
    rcases quiet.pass found with ⟨before, same, _, wedged, stage⟩ | ⟨_, _, unseen⟩
    · rw [wedged]
      exact inv.unseen index before same row (stage ▸ isRow)
    · exact unseen row isRow
  · intro index other stage stage' stream isAt isAt' isBusy isBusy'
    obtain ⟨before, wasAt, wasBusy⟩ := quiet.busyWith isAt isBusy
    obtain ⟨before', wasAt', wasBusy'⟩ := quiet.busyWith isAt' isBusy'
    exact inv.apart index other before before' stream wasAt wasAt' wasBusy wasBusy'
  · intro index stage isAt
    rcases quiet.at_ isAt with ⟨before, wasAt, rfl | ⟨rfl, pushed⟩⟩ | idle
    · exact quiet.stageOk (inv.stages index stage wasAt)
    · exact (quiet.stageOk (inv.stages index before wasAt)).marked pushed
    · exact .of_idle idle
  · intro stream first refused
    rw [quiet.answers] at refused
    exact quiet.inForce refused (inv.refusals stream first refused)
  · intro stream wedge stands
    obtain ⟨other, stands', named⟩ := quiet.wedge_eq_some stands
    rcases inv.wedges stream other stands' with ⟨first, refused, isFirst⟩ | ⟨index, row, marked, isAt, isStream⟩
    · refine .inl ⟨first, ?_, named.symm.trans isFirst⟩
      rw [quiet.answers]
      exact refused
    · right
      rcases quiet.busy index _ isAt (Option.some_ne_none _) with still | now
      · exact ⟨index, row, marked, still, isStream⟩
      · exact ⟨index, row, true, now, isStream⟩

theorem refusal_append {answers : List (Queued × Answer)} {entry : Queued × Answer} {stream : String} :
    refusal ext (answers ++ [entry]) stream = judge ext stream (refusal ext answers stream) entry := by
  unfold refusal
  rw [List.foldl_append]
  rfl

theorem judge_other {stream : String} {refused : Option Queued} {entry : Queued × Answer}
    (other : entry.1.stream ≠ stream) : judge ext stream refused entry = refused := by
  unfold judge
  exact if_neg other

/-- Nobody else is at an envelope that is offered: it is unpushed, no pass has an answer about its stream that is
not written down, and the wedge is as it was read. -/
structure Clear (state : Pushers) (row : Queued) (standing : Option Wedge) : Prop where
  unpushed : ∀ held ∈ state.outbox.rows, held.id = row.id → held.pushedAt = none
  apart : ∀ index stage, state.At index stage → stage.busyWith ≠ some (streamOf row)
  standing : (state.outbox.wedge (streamOf row)).isSome = standing.isSome

variable {index : Nat} {pass : Offering} {row : Queued}

theorem ahead_of_row (isRow : pass.stage.row = some row) : pass.ahead = row :: pass.rows := by
  unfold Offering.ahead
  rw [isRow]
  rfl

namespace Inv

theorem progress_from (inv : Inv ext state) (found : state.passes[index]? = some pass)
    (isRow : pass.stage.row = some row) : state.outbox.Progress pass.wedged (row :: pass.rows) := by
  rw [← ahead_of_row isRow]
  exact inv.progress index pass found

theorem holds (inv : Inv ext state) (found : state.passes[index]? = some pass)
    (isRow : pass.stage.row = some row) : state.outbox.Holds row := by
  apply inv.copies index pass found
  rw [ahead_of_row isRow]
  exact List.mem_cons_self

theorem named (inv : Inv ext state) (found : state.passes[index]? = some pass)
    (isRow : pass.stage.row = some row) : streamOf row = row.stream :=
  inv.keyed.named_of_holds (inv.holds found isRow)

/-- All that comes before the envelope a pass is at is pushed. -/
theorem settled_row (inv : Inv ext state) (found : state.passes[index]? = some pass)
    (isRow : pass.stage.row = some row) : state.outbox.Settled row := by
  have progress := inv.progress index pass found [] row pass.rows (ahead_of_row isRow)
  rcases progress with seen | before
  · exact absurd seen (inv.unseen index pass found row isRow)
  · intro other member stream less
    rcases before other member stream less with pushed | ⟨ahead, inside, _⟩
    · exact pushed
    · cases inside

/-- A refusal that is in force has its wedge on record once nobody has an answer about the stream to write down. -/
theorem stands (inv : Inv ext state) {stream : String} {first : Queued}
    (apart : ∀ index stage, state.At index stage → stage.busyWith ≠ some stream)
    (refused : refusal ext state.answers stream = some first) :
    ∃ wedge, state.outbox.wedge stream = some wedge ∧ wedge.envelopeId = first.id ∧ state.outbox.Pushed first := by
  have inForce := inv.refusals stream first refused
  rcases inForce.recorded with stands | ⟨index, reason, detail, marked, isAt⟩
  · exact stands
  · have busy := apart index _ isAt
    have isStream := (inv.keyed.named_of_holds inForce.holds).trans inForce.names
    exact absurd (congrArg some isStream) busy

theorem stands_iff (inv : Inv ext state) {stream : String}
    (apart : ∀ index stage, state.At index stage → stage.busyWith ≠ some stream) :
    (state.outbox.wedge stream).isSome = (refusal ext state.answers stream).isSome := by
  rw [Bool.eq_iff_iff, Option.isSome_iff_exists, Option.isSome_iff_exists]
  constructor
  · intro known
    obtain ⟨wedge, stands⟩ := known
    rcases inv.wedges stream wedge stands with ⟨first, refused, _⟩ | ⟨index, row, marked, isAt, isStream⟩
    · exact ⟨first, refused⟩
    · obtain ⟨pass, found, isStage⟩ := isAt
      have isRow : pass.stage.row = some row := by
        rw [isStage]
        rfl
      have named := (inv.named found isRow).trans isStream
      exact absurd (congrArg some named) (apart index _ ⟨pass, found, isStage⟩)
  · intro known
    obtain ⟨first, refused⟩ := known
    obtain ⟨wedge, stands, _⟩ := inv.stands apart refused
    exact ⟨wedge, stands⟩

theorem unpushed_place (inv : Inv ext state) {standing : Option Wedge} (clear : Clear state row standing)
    (holds : state.outbox.Holds row) {other : Queued} (member : other ∈ state.outbox.rows)
    (stream : other.stream = row.stream) (seq : other.seq = row.seq) : other.pushedAt = none := by
  obtain ⟨held, inside, same⟩ := holds
  have place := same_place same
  have one := inv.keyed.one member inside (stream.trans place.1.symm) (seq.trans place.2.symm)
  rw [one]
  exact clear.unpushed held inside (congrArg LocalEnvelope.id same)

/-- An envelope that is offered while its stream is refused comes after the refused one. -/
theorem past (inv : Inv ext state) {standing : Option Wedge} {first : Queued} (clear : Clear state row standing)
    (found : state.passes[index]? = some pass) (isRow : pass.stage.row = some row)
    (refused : refusal ext state.answers row.stream = some first) : first.seq < row.seq := by
  have holds := inv.holds found isRow
  have apart := clear.apart
  rw [inv.named found isRow] at apart
  obtain ⟨_, _, _, held, member, same, pushed⟩ := inv.stands apart refused
  have names := (inv.refusals _ _ refused).names
  have place := same_place same
  have stream := place.1.trans names
  rcases Nat.lt_trichotomy first.seq row.seq with less | equal | more
  · exact less
  · have unpushed := inv.unpushed_place clear holds member stream (place.2.trans equal)
    rw [unpushed] at pushed
    cases pushed
  · obtain ⟨own, inside, same'⟩ := holds
    have place' := same_place same'
    have settled := inv.settled held member pushed own inside (place'.1.trans stream.symm) (by omega)
    rw [clear.unpushed own inside (congrArg LocalEnvelope.id same')] at settled
    cases settled

/-- What is not about the stream of a stage is as it was. -/
theorem stageOk_of_other (inv : Inv ext state) {stage : Stage} {other : Nat} {stream : String}
    (isAt : state.At other stage) (elsewhere : stage.busyWith ≠ some stream)
    (rows : next.outbox.rows = state.outbox.rows)
    (answers : ∀ other, other ≠ stream → refusal ext next.answers other = refusal ext state.answers other)
    (wedges : ∀ other, other ≠ stream → next.outbox.wedge other = state.outbox.wedge other) :
    StageOk ext next stage := by
  have ok := inv.stages other stage isAt
  have later := Outbox.Later.of_rows rows
  obtain ⟨pass, found, isStage⟩ := isAt
  have apart : ∀ row, stage.row = some row → stage.busyWith = some (streamOf row) → row.stream ≠ stream := by
    intro row isRow busy same
    apply elsewhere
    rw [busy, inv.named found (isStage ▸ isRow), same]
  cases stage with
  | ready => exact True.intro
  | offering row standing => exact True.intro
  | failing row detail => exact True.intro
  | accepting row marked =>
      have different := apart row rfl rfl
      refine ⟨?_, fun isMarked => later.pushed (ok.2 isMarked)⟩
      rw [answers _ different]
      exact ok.1
  | refused row reason detail marked =>
      have different := apart row rfl rfl
      refine ⟨?_, ?_, fun isMarked => later.pushed (ok.2.2 isMarked)⟩
      · rw [answers _ different]
        exact ok.1
      · rw [wedges _ different]
        exact ok.2.1

/-- What happens to one stream while a pass is at an envelope of it leaves what is known of the rest. -/
theorem turned (inv : Inv ext state) {after : Offering} (found : state.passes[index]? = some pass)
    (isRow : pass.stage.row = some row)
    (passes : next.passes = state.passes.set index after)
    (rows : next.outbox.rows = state.outbox.rows)
    (answers : ∀ other, other ≠ row.stream → refusal ext next.answers other = refusal ext state.answers other)
    (wedges : ∀ other, other ≠ row.stream → next.outbox.wedge other = state.outbox.wedge other)
    (apart : ∀ other stage, state.At other stage → other ≠ index → stage.busyWith ≠ some row.stream)
    (busy : after.stage.busyWith = none ∨ after.stage.busyWith = some row.stream)
    (copies : ∀ other ∈ after.ahead, other ∈ pass.ahead)
    (progress : state.outbox.Progress after.wedged after.ahead)
    (unseen : ∀ other, after.stage.row = some other → other.stream ∉ after.wedged)
    (stage : StageOk ext next after.stage)
    (refusals : ∀ first, refusal ext next.answers row.stream = some first → next.InForce row.stream first)
    (wedge : ∀ wedge, next.outbox.wedge row.stream = some wedge →
      (∃ first, refusal ext next.answers row.stream = some first ∧ wedge.envelopeId = first.id) ∨
        ∃ marked, after.stage = .accepting row marked) : Inv ext next := by
  have later : state.outbox.Later next.outbox := .of_rows rows
  have isAfter : next.At index after.stage := at_set_self passes found rfl
  have own : ∀ {stage}, state.At index stage → stage.row = some row := by
    intro stage isAt
    obtain ⟨held, has, rfl⟩ := isAt
    rw [found] at has
    cases has
    exact isRow
  constructor
  · exact ⟨fun row member => inv.keyed.named row (rows ▸ member), rows ▸ inv.keyed.distinct⟩
  · rw [rows]
    exact inv.ids
  · intro held member pushed other member'
    rw [rows] at member member'
    exact inv.settled held member pushed other member'
  · intro other held has listed inside
    apply later.holds
    rcases pass_of_set passes has with ⟨rfl, rfl⟩ | ⟨_, was⟩
    · exact inv.copies _ pass found listed (copies listed inside)
    · exact inv.copies other held was listed inside
  · intro other held has
    rcases pass_of_set passes has with ⟨rfl, rfl⟩ | ⟨_, was⟩
    · exact later.progress (fun listed inside => inv.copies _ pass found listed (copies listed inside)) progress
    · exact later.progress (inv.copies other held was) (inv.progress other held was)
  · intro other held has listed isListed
    rcases pass_of_set passes has with ⟨rfl, rfl⟩ | ⟨_, was⟩
    · exact unseen listed isListed
    · exact inv.unseen other held was listed isListed
  · intro first second stage stage' stream isAt isAt' isBusy isBusy'
    have ofAfter : after.stage.busyWith = some stream → stream = row.stream := by
      intro is
      rcases busy with idle | same
      · rw [idle] at is
        cases is
      · exact Option.some.inj (is.symm.trans same)
    rcases at_of_set passes isAt with ⟨rfl, rfl⟩ | ⟨different, was⟩
    · rcases at_of_set passes isAt' with ⟨rfl, _⟩ | ⟨different', was'⟩
      · rfl
      · exact absurd (ofAfter isBusy ▸ isBusy') (apart second stage' was' different')
    · rcases at_of_set passes isAt' with ⟨rfl, rfl⟩ | ⟨_, was'⟩
      · exact absurd (ofAfter isBusy' ▸ isBusy) (apart first stage was different)
      · exact inv.apart first second stage stage' stream was was' isBusy isBusy'
  · intro other stage' isAt
    rcases at_of_set passes isAt with ⟨rfl, rfl⟩ | ⟨different, was⟩
    · exact stage
    · exact stageOk_of_other inv was (apart other stage' was different) rows answers wedges
  · intro stream first refused
    by_cases same : stream = row.stream
    · subst same
      exact refusals first refused
    · rw [answers stream same] at refused
      have inForce := inv.refusals stream first refused
      refine ⟨inForce.names, later.holds inForce.holds, ?_, ?_⟩
      · rw [rows]
        exact inForce.beyond
      · rcases inForce.recorded with ⟨wedge, stands, isFirst, pushed⟩ | ⟨other, reason, detail, marked, isAt⟩
        · refine .inl ⟨wedge, ?_, isFirst, later.pushed pushed⟩
          rw [wedges stream same]
          exact stands
        · refine .inr ⟨other, reason, detail, marked, at_set_ne passes isAt ?_⟩
          intro is
          rw [is] at isAt
          cases own isAt
          exact same inForce.names.symm
  · intro stream held stands
    by_cases same : stream = row.stream
    · subst same
      rcases wedge held stands with refused | ⟨marked, isStage⟩
      · exact .inl refused
      · exact .inr ⟨index, row, marked, isStage ▸ isAfter, rfl⟩
    · rw [wedges stream same] at stands
      rcases inv.wedges stream held stands with ⟨first, refused, isFirst⟩ | ⟨other, first, marked, isAt, isStream⟩
      · refine .inl ⟨first, ?_, isFirst⟩
        rw [answers stream same]
        exact refused
      · refine .inr ⟨other, first, marked, at_set_ne passes isAt ?_, isStream⟩
        intro is
        rw [is] at isAt
        cases own isAt
        exact same isStream.symm

/-- A write to the local store that pushes only what may be pushed. -/
theorem stored (inv : Inv ext state) {outbox : Outbox} (keyed : outbox.Keyed)
    (ids : outbox.rows.Pairwise fun a b => a.id ≠ b.id) (later : state.outbox.Later outbox)
    (pushes : ∀ held ∈ outbox.rows, held.pushedAt.isSome = true →
      (∃ row ∈ state.outbox.rows, held.toLocalEnvelope = row.toLocalEnvelope ∧ row.pushedAt.isSome = true) ∨
        outbox.Settled held ∧
          ∀ first, refusal ext state.answers held.stream = some first → held.seq ≤ first.seq)
    (wedges : ∀ stream, (outbox.wedge stream).map Wedge.envelopeId =
      (state.outbox.wedge stream).map Wedge.envelopeId) : Inv ext { state with outbox } := by
  apply inv.quiet
  constructor
  · exact keyed
  · exact ids
  · exact fun _ => rfl
  · exact later
  · exact pushes
  · exact wedges
  · exact fun index pass found => .inl ⟨pass, found, .inl rfl⟩
  · exact fun index stage isAt _ => .inl isAt

theorem markPushError (inv : Inv ext state) {id detail : String} :
    Inv ext { state with outbox := state.outbox.markPushError id detail } := by
  apply inv.stored
  · exact inv.keyed.update fun _ => rfl
  · exact Outbox.ids_update inv.ids fun _ => rfl
  · exact Outbox.later_markPushError
  · intro held member pushed
    obtain ⟨row, listed, rfl⟩ := Outbox.mem_update.mp member
    refine .inl ⟨row, listed, ?_⟩
    split at pushed
    · rename_i same
      rw [if_pos same]
      exact ⟨rfl, pushed⟩
    · rename_i other
      rw [if_neg other]
      exact ⟨rfl, pushed⟩
  · exact fun _ => rfl

/-- The envelope a pass has an answer for is marked: all before it is pushed, and it is not past a refusal. -/
theorem markPushed (inv : Inv ext state) {instant : String} {error : Option String}
    (found : state.passes[index]? = some pass) (isRow : pass.stage.row = some row)
    (busy : pass.stage.busyWith ≠ none) :
    Inv ext { state with outbox := state.outbox.markPushed row.id instant error } := by
  have settled := inv.settled_row found isRow
  obtain ⟨own, inside, same⟩ := inv.holds found isRow
  have place := same_place same
  have notPast : ∀ first, refusal ext state.answers row.stream = some first → row.seq ≤ first.seq := by
    intro first refused
    have ok := inv.stages index pass.stage ⟨pass, found, rfl⟩
    cases isStage : pass.stage with
    | ready => exact absurd (isStage ▸ rfl) busy
    | offering _ _ => exact absurd (isStage ▸ rfl) busy
    | failing _ _ => exact absurd (isStage ▸ rfl) busy
    | accepting held marked =>
        rw [isStage] at ok isRow
        cases isRow
        rw [ok.1] at refused
        cases refused
    | refused held reason detail marked =>
        rw [isStage] at ok isRow
        cases isRow
        rw [ok.1] at refused
        cases refused
        exact Nat.le_refl _
  have later : state.outbox.Later (state.outbox.markPushed row.id instant error) := Outbox.later_markPushed
  apply inv.stored
  · exact inv.keyed.update fun _ => rfl
  · exact Outbox.ids_update inv.ids fun _ => rfl
  · exact later
  · intro held member pushed
    obtain ⟨origin, listed, rfl⟩ := Outbox.mem_update.mp member
    by_cases isOwn : origin.id = row.id
    · have one := Outbox.one_id inv.ids listed inside (isOwn.trans (congrArg LocalEnvelope.id same).symm)
      subst one
      rw [if_pos isOwn]
      right
      constructor
      · intro other member' stream less
        obtain ⟨before, listed', same', keeps⟩ | ⟨_, last⟩ := later.origin other member'
        · have place' := same_place same'
          apply keeps
          apply settled before listed' ((place'.1.symm.trans stream).trans place.1)
          rw [← place.2, ← place'.2]
          exact less
        · have after_ := last origin listed stream.symm
          exact absurd less (Nat.lt_asymm after_)
      · intro first refused
        have isStream : origin.stream = row.stream := place.1
        show origin.seq ≤ first.seq
        rw [place.2]
        exact notPast first (isStream ▸ refused)
    · rw [if_neg isOwn] at pushed ⊢
      exact .inl ⟨origin, listed, rfl, pushed⟩
  · exact fun _ => rfl

/-- A step of passes that leaves the local store as it was. -/
theorem passing (inv : Inv ext state) {passes : List Offering}
    (held : ∀ (index : Nat) (pass : Offering), passes[index]? = some pass →
      (∃ before, state.passes[index]? = some before ∧ (pass = before ∨
        pass = { before with stage := before.stage.marked } ∧
          ∀ row, before.stage.row = some row → state.outbox.Pushed row)) ∨
      pass.stage.busyWith = none ∧ (∀ row ∈ pass.ahead, state.outbox.Holds row) ∧
        state.outbox.Progress pass.wedged pass.ahead ∧ ∀ row, pass.stage.row = some row → row.stream ∉ pass.wedged)
    (busy : ∀ index stage, state.At index stage → stage.busyWith ≠ none →
      ({ state with passes } : Pushers).At index stage ∨ ({ state with passes } : Pushers).At index stage.marked) :
    Inv ext { state with passes } := by
  apply inv.quiet
  constructor
  · exact inv.keyed
  · exact inv.ids
  · exact fun _ => rfl
  · exact .of_rows rfl
  · exact fun held member pushed => .inl ⟨held, member, rfl, pushed⟩
  · exact fun _ => rfl
  · exact held
  · exact busy

/-- A pass moves on with nothing to write down, or after it has marked its envelope. -/
theorem moved (inv : Inv ext state) {after : Offering} (found : state.passes[index]? = some pass)
    (next : (after = { pass with stage := pass.stage.marked } ∧
        ∀ row, pass.stage.row = some row → state.outbox.Pushed row) ∨
      pass.stage.busyWith = none ∧ after.stage.busyWith = none ∧ (∀ other ∈ after.ahead, other ∈ pass.ahead) ∧
        state.outbox.Progress after.wedged after.ahead ∧
          ∀ other, after.stage.row = some other → other.stream ∉ after.wedged) :
    Inv ext (state.setPass index after) := by
  apply inv.passing
  · intro other held has
    have isSet : (state.setPass index after).passes[other]? = some held := has
    rcases pass_of_set rfl isSet with ⟨rfl, rfl⟩ | ⟨_, was⟩
    · rcases next with marked | ⟨_, idle, copies, known⟩
      · exact .inl ⟨pass, found, .inr marked⟩
      · exact .inr ⟨idle, fun listed inside => inv.copies _ pass found listed (copies listed inside), known⟩
    · exact .inl ⟨held, was, .inl rfl⟩
  · intro other stage isAt busy
    by_cases same : other = index
    · subst same
      obtain ⟨held, has, rfl⟩ := isAt
      rw [found] at has
      cases has
      rcases next with ⟨rfl, _⟩ | ⟨idle, _⟩
      · exact .inr (at_set_self rfl found rfl)
      · exact absurd idle busy
    · exact .inl (at_set_ne rfl isAt same)

theorem started (inv : Inv ext state) (limit : Int) :
    Inv ext { state with
      passes := state.passes ++ [{ rows := state.outbox.unpushed limit, wedged := [], stage := .ready }] } := by
  apply inv.passing
  · intro index held has
    have which : (state.passes ++ [_])[index]? = some held := has
    rw [List.getElem?_append] at which
    split at which
    · exact .inl ⟨held, which, .inl rfl⟩
    · have last := List.mem_of_getElem? which
      rw [List.mem_singleton] at last
      subst last
      refine .inr ⟨rfl, ?_, inv.keyed.progress limit [], fun _ isRow => nomatch isRow⟩
      intro row inside
      have pending := Outbox.Keyed.unpushed_sub (List.mem_append.mp inside |>.resolve_left List.not_mem_nil)
      exact ⟨row, List.mem_of_mem_filter pending, rfl⟩
  · intro index stage isAt _
    obtain ⟨held, has, rfl⟩ := isAt
    refine .inl ⟨held, ?_, rfl⟩
    show (state.passes ++ [_])[index]? = some held
    rw [List.getElem?_append_left (List.getElem?_eq_some_iff.mp has).1]
    exact has

theorem wedge_noteGraceUse {outbox : Outbox} {used stream : String} :
    (outbox.noteGraceUse used).wedge stream = (outbox.wedge stream).map fun wedge =>
      if wedge.stream = used then { wedge with graceServed := wedge.graceServed + 1 } else wedge := by
  unfold Outbox.noteGraceUse Outbox.wedge
  dsimp only
  rw [List.find?_map]
  congr 1
  apply congrArg (List.find? · outbox.wedges)
  funext wedge
  rw [Function.comp_apply]
  split
  · rfl
  · rfl

theorem noteGraceUse (inv : Inv ext state) (stream : String) :
    Inv ext { state with outbox := state.outbox.noteGraceUse stream } := by
  apply inv.stored
  · exact ⟨inv.keyed.named, inv.keyed.distinct⟩
  · exact inv.ids
  · exact .of_rows rfl
  · exact fun held member pushed => .inl ⟨held, member, rfl, pushed⟩
  · intro other
    rw [wedge_noteGraceUse, Option.map_map]
    congr 1
    funext wedge
    show ((if wedge.stream = stream then _ else _) : Wedge).envelopeId = wedge.envelopeId
    split
    · rfl
    · rfl

theorem chained (inv : Inv ext state) (emission : Emission) :
    Inv ext { state with outbox := turn ext checkShape state.outbox (.chain emission : Turn Unit) } := by
  cases done : append ext checkShape state.outbox.chain emission with
  | error refusal =>
      rw [turn_refused done]
      exact inv
  | ok pair =>
      obtain ⟨row, turned, adds⟩ := @turn_chain_adds _ _ Unit _ _ _ _ done
      rw [turned]
      have which : ∀ {held}, held ∈ state.outbox.rows ++ [row] → held ∈ state.outbox.rows ∨ held = row :=
        fun member => (List.mem_append.mp member).imp_right List.mem_singleton.mp
      apply inv.stored
      · constructor
        · intro held member
          rcases which member with listed | rfl
          · exact inv.keyed.named held listed
          · exact adds.named
        · refine List.pairwise_append.mpr ⟨inv.keyed.distinct, List.pairwise_singleton _ _, ?_⟩
          intro held listed new isNew same
          rw [List.mem_singleton.mp isNew] at same
          unfold Queued.place at same
          have both : held.stream = row.stream ∧ held.seq = row.seq := Prod.mk.injEq _ _ _ _ ▸ toLex_inj.mp same
          have less := adds.past held listed both.1
          omega
      · refine List.pairwise_append.mpr ⟨inv.ids, List.pairwise_singleton _ _, ?_⟩
        intro held listed new isNew
        rw [List.mem_singleton.mp isNew]
        exact adds.fresh held listed
      · constructor
        · exact fun held member => ⟨held, List.mem_append_left _ member, rfl, id⟩
        · intro held member
          rcases which member with listed | rfl
          · exact .inl ⟨held, listed, rfl, id⟩
          · exact .inr ⟨adds.unpushed, adds.past⟩
      · intro held member pushed
        rcases which member with listed | rfl
        · exact .inl ⟨held, listed, rfl, pushed⟩
        · rw [adds.unpushed] at pushed
          cases pushed
      · exact fun _ => rfl

/-- An answer that changes no refusal. -/
theorem unheard (inv : Inv ext state) {answers : List (Queued × Answer)}
    (same : ∀ stream, refusal ext answers stream = refusal ext state.answers stream) :
    Inv ext { state with answers } := by
  apply inv.quiet
  constructor
  · exact inv.keyed
  · exact inv.ids
  · exact same
  · exact .of_rows rfl
  · exact fun held member pushed => .inl ⟨held, member, rfl, pushed⟩
  · exact fun _ => rfl
  · exact fun index pass found => .inl ⟨pass, found, .inl rfl⟩
  · exact fun index stage isAt _ => .inl isAt

variable {standing : Option Wedge} {response : KernelResponse}

theorem refusal_other {answer : Answer} {stream : String} (other : stream ≠ row.stream) :
    refusal ext (state.answers ++ [(row, answer)]) stream = refusal ext state.answers stream := by
  rw [refusal_append]
  exact judge_other other.symm

theorem refusal_unjudged {answer : Answer} (unjudged : ¬ Judges ext answer) (stream : String) :
    refusal ext (state.answers ++ [(row, answer)]) stream = refusal ext state.answers stream := by
  rw [refusal_append]
  unfold judge
  dsimp only
  split
  · cases answer with
    | error _ => rfl
    | ok response =>
        dsimp only
        by_cases accepted : response.accepted = true
        · exact absurd ⟨response, rfl, .inl accepted⟩ unjudged
        · rw [if_neg accepted]
          exact if_neg fun refuses => unjudged ⟨response, rfl, .inr refuses⟩
  · rfl

theorem refusal_accepted (accepted : response.accepted = true) :
    refusal ext (state.answers ++ [(row, .ok response)]) row.stream =
      (refusal ext state.answers row.stream).filter fun first => decide (row.seq ≤ first.seq) := by
  rw [refusal_append]
  unfold judge
  dsimp only
  rw [if_pos rfl, if_pos accepted]

theorem refusal_refused (accepted : ¬ response.accepted = true) (refuses : response.refusesTheObject ext = true) :
    refusal ext (state.answers ++ [(row, .ok response)]) row.stream =
      (refusal ext state.answers row.stream).or (some row) := by
  rw [refusal_append]
  unfold judge
  dsimp only
  rw [if_pos rfl, if_neg accepted, if_pos refuses]

/-- A pass that hears a verdict stays at its envelope. -/
theorem judged (inv : Inv ext state) {stage : Stage} (found : state.passes[index]? = some pass)
    (isRow : pass.stage.row = some row) (clear : Clear state row standing) (isAfter : stage.row = some row)
    (busy : stage.busyWith = some row.stream)
    (ok : StageOk ext { state with answers := state.answers ++ [(row, .ok response)] } stage)
    (refusals : ∀ first, refusal ext (state.answers ++ [(row, .ok response)]) row.stream = some first →
      (({ state with answers := state.answers ++ [(row, .ok response)] } : Pushers).setPass index
        { pass with stage }).InForce row.stream first)
    (wedge : ∀ wedge, state.outbox.wedge row.stream = some wedge →
      (∃ first, refusal ext (state.answers ++ [(row, .ok response)]) row.stream = some first ∧
        wedge.envelopeId = first.id) ∨ ∃ marked, stage = .accepting row marked) :
    Inv ext (({ state with answers := state.answers ++ [(row, .ok response)] } : Pushers).setPass index
      { pass with stage }) := by
  have apart := clear.apart
  rw [inv.named found isRow] at apart
  refine inv.turned found isRow rfl rfl (fun _ other => refusal_other other) (fun _ _ => rfl)
    (fun other stage isAt _ => apart other stage isAt) (.inr busy) ?_ ?_ ?_ ok refusals wedge
  · rw [ahead_of_row isRow, ahead_of_row isAfter]
    exact fun _ inside => inside
  · have progress := inv.progress_from found isRow
    rw [ahead_of_row isAfter]
    exact progress
  · intro other isOther
    exact inv.unseen index pass found other (isRow.trans (isAfter.symm.trans isOther))

/-- An accepted envelope that nobody else is at is past what its stream was refused for. -/
theorem heardAccepted (inv : Inv ext state) (found : state.passes[index]? = some pass)
    (isStage : pass.stage = .offering row standing) (clear : Clear state row standing)
    (accepted : response.accepted = true) :
    Inv ext (({ state with answers := state.answers ++ [(row, .ok response)] } : Pushers).setPass index
      { pass with stage := .accepting row false }) := by
  have isRow : pass.stage.row = some row := by
    rw [isStage]
    rfl
  have named := inv.named found isRow
  have ended : refusal ext (state.answers ++ [(row, .ok response)]) row.stream = none := by
    rw [refusal_accepted accepted, Option.filter_eq_none_iff]
    intro first refused
    have past := inv.past clear found isRow refused
    rw [decide_eq_true_iff]
    omega
  refine inv.judged found isRow clear rfl (congrArg some named) ?_ ?_ ?_
  · exact ⟨ended, fun marked => nomatch marked⟩
  · intro first refused
    have none_ : none = some first := ended.symm.trans refused
    cases none_
  · exact fun _ _ => .inr ⟨false, rfl⟩

/-- The first refusal of a stream is heard by a pass that finds nothing past it pushed. -/
theorem heardRefused (inv : Inv ext state) {reason detail : String} (found : state.passes[index]? = some pass)
    (isStage : pass.stage = .offering row none) (clear : Clear state row none)
    (accepted : ¬ response.accepted = true) (refuses : response.refusesTheObject ext = true) :
    Inv ext (({ state with answers := state.answers ++ [(row, .ok response)] } : Pushers).setPass index
      { pass with stage := .refused row reason detail false }) := by
  have isRow : pass.stage.row = some row := by
    rw [isStage]
    rfl
  have named := inv.named found isRow
  have holds := inv.holds found isRow
  have apart := clear.apart
  have wedge := clear.standing
  rw [named] at apart wedge
  have unwedged : state.outbox.wedge row.stream = none := Option.isNone_iff_eq_none.mp (by
    rw [← Option.not_isSome, wedge]
    rfl)
  have unrefused : refusal ext state.answers row.stream = none := by
    have same := inv.stands_iff apart
    rw [unwedged] at same
    exact Option.isNone_iff_eq_none.mp (by
      rw [← Option.not_isSome, ← same]
      rfl)
  have now : refusal ext (state.answers ++ [(row, .ok response)]) row.stream = some row := by
    rw [refusal_refused accepted refuses, unrefused]
    rfl
  refine inv.judged found isRow clear rfl (congrArg some named) ?_ ?_ ?_
  · exact ⟨now, unwedged, fun marked => nomatch marked⟩
  · intro first refused
    have first_ : some row = some first := now.symm.trans refused
    cases first_
    refine ⟨rfl, holds, ?_, .inr ⟨index, reason, detail, false, at_set_self rfl found rfl⟩⟩
    intro other member stream past
    by_contra pushed
    obtain ⟨own, inside, same⟩ := holds
    have place := same_place same
    have settled := inv.settled other member (Option.isSome_iff_ne_none.mpr pushed) own inside
      (place.1.trans stream.symm) (by omega)
    rw [clear.unpushed own inside (congrArg LocalEnvelope.id same)] at settled
    cases settled
  · intro wedge stands
    have none_ : state.outbox.wedge row.stream = some wedge := stands
    rw [unwedged] at none_
    cases none_

theorem heard (inv : Inv ext state) (found : state.passes[index]? = some pass)
    (isStage : pass.stage = .offering row standing) (clear : Clear state row standing) (answer : Answer) :
    Inv ext (({ state with answers := state.answers ++ [(row, answer)] } : Pushers).setPass index
      (Pushers.heard ext pass row standing answer)) := by
  have isRow : pass.stage.row = some row := by
    rw [isStage]
    rfl
  have progress := inv.progress_from found isRow
  have idle : pass.stage.busyWith = none := by
    rw [isStage]
    rfl
  have failing : ∀ detail, ¬ Judges ext answer →
      Inv ext (({ state with answers := state.answers ++ [(row, answer)] } : Pushers).setPass index
        { pass with stage := .failing row detail }) := by
    intro detail unjudged
    refine (inv.unheard (refusal_unjudged unjudged)).moved found (.inr ⟨idle, rfl, ?_, progress, ?_⟩)
    · rw [ahead_of_row isRow]
      exact fun _ inside => inside
    · exact fun other isOther => inv.unseen index pass found other (isRow.trans isOther)
  unfold Pushers.heard
  cases answer with
  | error unreachable =>
      refine failing unreachable fun judges => ?_
      obtain ⟨response, isOk, _⟩ := judges
      cases isOk
  | ok response =>
      dsimp only
      by_cases accepted : response.accepted = true
      · rw [if_pos accepted]
        exact inv.heardAccepted found isStage clear accepted
      · rw [if_neg accepted]
        by_cases refuses : response.refusesTheObject ext = false
        · rw [if_pos refuses]
          refine failing _ fun judges => ?_
          obtain ⟨other, same, yes | no⟩ := judges
          · cases same
            exact accepted yes
          · cases same
            rw [refuses] at no
            cases no
        · rw [if_neg refuses]
          have refused := Bool.eq_true_of_not_eq_false refuses
          cases isStanding : standing with
          | none =>
              rw [isStanding] at isStage clear
              exact inv.heardRefused found isStage clear accepted refused
          | some wedge =>
              -- The stream has a refusal in force already, and the first one stands.
              have named := inv.named found isRow
              have apart := clear.apart
              have stands := clear.standing
              rw [named] at apart stands
              have same : ∀ stream, refusal ext (state.answers ++ [(row, .ok response)]) stream =
                  refusal ext state.answers stream := by
                intro stream
                by_cases other : stream = row.stream
                · have inForce := inv.stands_iff apart
                  rw [stands, isStanding, Option.isSome_some] at inForce
                  obtain ⟨first, isFirst⟩ := Option.isSome_iff_exists.mp inForce.symm
                  rw [other, refusal_refused accepted refused, isFirst]
                  rfl
                · exact refusal_other other
              refine (inv.unheard same).moved found (.inr ⟨idle, rfl, ?_, ?_, fun _ isOther => nomatch isOther⟩)
              · rw [ahead_of_row isRow]
                exact fun _ inside => List.mem_cons_of_mem _ inside
              · refine progress.tail (fun _ seen => List.mem_cons_of_mem _ seen) (.inl ?_)
                rw [← named]
                exact List.mem_cons_self

theorem pushed_place (inv : Inv ext state) (pushed : state.outbox.Pushed row) {other : Queued}
    (member : other ∈ state.outbox.rows) (stream : other.stream = row.stream) (seq : other.seq = row.seq) :
    other.pushedAt.isSome = true := by
  obtain ⟨held, inside, same, isPushed⟩ := pushed
  have place := same_place same
  rw [inv.keyed.one member inside (stream.trans place.1.symm) (seq.trans place.2.symm)]
  exact isPushed

theorem wedge_clearWedge {outbox : Outbox} {cleared stream : String} :
    (outbox.clearWedge cleared).wedge stream = if stream = cleared then none else outbox.wedge stream := by
  unfold Outbox.clearWedge Outbox.wedge
  dsimp only
  rw [List.find?_filter]
  split
  · rename_i same
    subst same
    rw [List.find?_eq_none]
    intro wedge _
    simp
  · rename_i other
    apply congrArg (List.find? · outbox.wedges)
    funext wedge
    by_cases is : wedge.stream = stream
    · simp [is, other]
    · simp [is]

theorem wedge_recordWedge {outbox : Outbox} {wedge : Wedge} (unwedged : outbox.wedge wedge.stream = none)
    {stream : String} :
    (outbox.recordWedge wedge).wedge stream = if stream = wedge.stream then some wedge else outbox.wedge stream := by
  have fresh : ¬ (outbox.wedges.any fun other => other.stream == wedge.stream) = true := by
    intro held
    obtain ⟨other, member, same⟩ := List.any_eq_true.mp held
    have unlike := List.find?_eq_none.mp unwedged other member
    exact unlike same
  unfold Outbox.recordWedge
  rw [if_neg fresh]
  unfold Outbox.wedge at unwedged ⊢
  dsimp only
  rw [List.find?_append]
  split
  · rename_i same
    rw [same, unwedged, List.find?_singleton, if_pos (beq_self_eq_true _)]
    rfl
  · rename_i other
    rw [List.find?_singleton, if_neg, Option.or_none]
    rw [beq_iff_eq]
    exact fun same => other same.symm

theorem recordWedge_rows {outbox : Outbox} {wedge : Wedge} : (outbox.recordWedge wedge).rows = outbox.rows := by
  unfold Outbox.recordWedge
  split
  · rfl
  · rfl

/-- A pass that has marked an accepted envelope ends the wedge of its stream. -/
theorem cleared (inv : Inv ext state) (found : state.passes[index]? = some pass)
    (isStage : pass.stage = .accepting row true) :
    Inv ext (({ state with outbox := state.outbox.clearWedge (streamOf row) } : Pushers).setPass index
      { pass with stage := .ready }) := by
  have isRow : pass.stage.row = some row := by
    rw [isStage]
    rfl
  have named := inv.named found isRow
  have ok := inv.stages index _ ⟨pass, found, isStage⟩
  have progress := inv.progress_from found isRow
  rw [named]
  refine inv.turned found isRow rfl rfl (fun _ _ => rfl) ?_ ?_ (.inl rfl) ?_ ?_ (fun _ isOther => nomatch isOther)
    True.intro ?_ ?_
  · intro other different
    exact wedge_clearWedge.trans (if_neg different)
  · intro other stage isAt different busy
    refine different (inv.apart other index stage _ row.stream isAt ⟨pass, found, isStage⟩ busy ?_)
    exact congrArg some named
  · rw [ahead_of_row isRow]
    exact fun _ inside => List.mem_cons_of_mem _ inside
  · exact progress.tail (fun _ seen => seen) (.inr fun other member stream seq =>
      inv.pushed_place (ok.2 rfl) member stream seq)
  · intro first refused
    have none_ : none = some first := ok.1.symm.trans refused
    cases none_
  · intro wedge stands
    have none_ : none = some wedge := (wedge_clearWedge.trans (if_pos rfl)).symm.trans stands
    cases none_

/-- A pass that has marked a refused envelope puts its wedge on record. -/
theorem wedged (inv : Inv ext state) {reason detail now : String} (found : state.passes[index]? = some pass)
    (isStage : pass.stage = .refused row reason detail true) :
    Inv ext (({ state with outbox := state.outbox.recordWedge (wedgeOf row reason detail now) } : Pushers).setPass
      index { pass with stage := .ready, wedged := streamOf row :: pass.wedged }) := by
  have isRow : pass.stage.row = some row := by
    rw [isStage]
    rfl
  have named := inv.named found isRow
  have ok := inv.stages index _ ⟨pass, found, isStage⟩
  have progress := inv.progress_from found isRow
  have recorded : ∀ stream, (state.outbox.recordWedge (wedgeOf row reason detail now)).wedge stream =
      if stream = row.stream then some (wedgeOf row reason detail now) else state.outbox.wedge stream := by
    intro stream
    have unwedged : state.outbox.wedge (wedgeOf row reason detail now).stream = none := by
      show state.outbox.wedge (streamOf row) = none
      rw [named]
      exact ok.2.1
    rw [wedge_recordWedge unwedged]
    show (if stream = streamOf row then _ else _) = _
    rw [named]
  refine inv.turned found isRow rfl ?_ (fun _ _ => rfl) ?_ ?_ (.inl rfl) ?_ ?_ (fun _ isOther => nomatch isOther)
    True.intro ?_ ?_
  · exact recordWedge_rows
  · intro other different
    exact (recorded other).trans (if_neg different)
  · intro other stage isAt different busy
    refine different (inv.apart other index stage _ row.stream isAt ⟨pass, found, isStage⟩ busy ?_)
    exact congrArg some named
  · rw [ahead_of_row isRow]
    exact fun _ inside => List.mem_cons_of_mem _ inside
  · refine progress.tail (fun _ seen => List.mem_cons_of_mem _ seen) (.inl ?_)
    show row.stream ∈ streamOf row :: pass.wedged
    rw [named]
    exact List.mem_cons_self
  · intro first refused
    have inForce := inv.refusals row.stream first refused
    have same : some row = some first := ok.1.symm.trans refused
    cases same
    refine ⟨rfl, ?_, ?_, .inl ⟨_, (recorded row.stream).trans (if_pos rfl), rfl, ?_⟩⟩
    · exact (Outbox.Later.of_rows recordWedge_rows).holds inForce.holds
    · show ∀ other ∈ (state.outbox.recordWedge _).rows, _
      rw [recordWedge_rows]
      exact inForce.beyond
    · exact (Outbox.Later.of_rows recordWedge_rows).pushed (ok.2.2 rfl)
  · intro wedge stands
    have same : some (wedgeOf row reason detail now) = some wedge :=
      ((recorded row.stream).trans (if_pos rfl)).symm.trans stands
    cases same
    exact .inl ⟨row, ok.1, rfl⟩

theorem idled (inv : Inv ext state) (found : state.passes[index]? = some pass) (idle : pass.stage.busyWith = none) :
    Inv ext (state.setPass index .idle) := by
  refine inv.moved found (.inr ⟨idle, rfl, ?_, ?_, ?_⟩)
  · intro other inside
    cases inside
  · intro front row back split
    have empty : [] = front ++ row :: back := split
    exact absurd empty.symm (by simp)
  · intro other isOther
    cases isOther

theorem next_ (inv : Inv ext state) (found : state.passes[index]? = some pass) (isStage : pass.stage = .ready) :
    Inv ext (state.setPass index (Pushers.next state.outbox pass)) := by
  have idle : pass.stage.busyWith = none := by
    rw [isStage]
    rfl
  have ahead : pass.ahead = pass.rows := by
    unfold Offering.ahead
    rw [isStage]
    rfl
  have progress := inv.progress index pass found
  rw [ahead] at progress
  unfold Pushers.next
  cases rows : pass.rows with
  | nil =>
      exact inv.idled found idle
  | cons row rest =>
      rw [rows] at ahead progress
      dsimp only
      have named : streamOf row = row.stream := by
        apply inv.keyed.named_of_holds
        apply inv.copies index pass found
        rw [ahead]
        exact List.mem_cons_self
      by_cases seen : streamOf row ∈ pass.wedged
      · rw [if_pos seen]
        have same : ({ pass with rows := rest } : Offering).ahead = rest := by
          unfold Offering.ahead
          dsimp only
          rw [isStage]
          rfl
        refine inv.moved found (.inr ⟨idle, idle, ?_, ?_, ?_⟩)
        · rw [same, ahead]
          exact fun _ inside => List.mem_cons_of_mem _ inside
        · rw [same]
          exact progress.tail (fun _ held => held) (.inl (named ▸ seen))
        · intro other isOther
          rw [isStage] at isOther
          cases isOther
      · rw [if_neg seen]
        refine inv.moved found (.inr ⟨idle, rfl, ?_, progress, ?_⟩)
        · rw [ahead]
          exact fun _ inside => inside
        · intro other isOther
          cases isOther
          rw [← named]
          exact seen

theorem performed (inv : Inv ext state) {answer : Answer} {now : String}
    (clear : ∀ pass row standing, state.passes[index]? = some pass → pass.stage = .offering row standing →
      Clear state row standing) : Inv ext (perform ext state index answer now) := by
  unfold perform
  cases found : state.passes[index]? with
  | none => exact inv
  | some pass =>
      dsimp only
      have marks : ∀ {row error}, pass.stage.row = some row → pass.stage.busyWith ≠ none →
          Inv ext (({ state with outbox := state.outbox.markPushed row.id now error } : Pushers).setPass index
            { pass with stage := pass.stage.marked }) := by
        intro row error isRow busy
        refine (inv.markPushed found isRow busy).moved found (.inl ⟨rfl, fun other isOther => ?_⟩)
        rw [isRow] at isOther
        cases isOther
        obtain ⟨own, inside, same⟩ := inv.holds found isRow
        refine ⟨_, Outbox.mem_update.mpr ⟨own, inside, rfl⟩, ?_⟩
        rw [if_pos (congrArg LocalEnvelope.id same)]
        exact ⟨same, rfl⟩
      cases isStage : pass.stage with
      | ready => exact inv.next_ found isStage
      | offering row standing => exact inv.heard found isStage (clear pass row standing found isStage) answer
      | accepting row marked =>
          rw [isStage] at marks
          cases marked with
          | false => exact marks rfl (Option.some_ne_none _)
          | true => exact inv.cleared found isStage
      | refused row reason detail marked =>
          rw [isStage] at marks
          cases marked with
          | false => exact marks rfl (Option.some_ne_none _)
          | true => exact inv.wedged found isStage
      | failing row detail =>
          have idle : pass.stage.busyWith = none := by
            rw [isStage]
            rfl
          exact inv.markPushError.idled found idle

end Inv

/-- Whether nobody else is at the envelope a pass is to offer: it is still unpushed, no pass has an answer about its
stream that is not written down, and the wedge is as the pass read it. -/
def free (state : Pushers) : Stage → Bool
  | .offering row standing =>
      state.outbox.rows.all (fun held => held.id != row.id || held.pushedAt.isNone) &&
        state.passes.all (fun other => other.stage.busyWith != some (streamOf row)) &&
        (state.outbox.wedge (streamOf row)).isSome == standing.isSome
  | _ => true

/-- Whether a pass offers nothing another is at, and stops only with no answer to write down. -/
def undisturbed (state : Pushers) : PassMove → Bool
  | .perform index _ _ => (state.passes[index]?).all fun pass => state.free pass.stage
  | .abandon index => (state.passes[index]?).all fun pass => pass.stage.busyWith.isNone
  | _ => true

theorem clear_of_free {standing : Option Wedge} (free : state.free (.offering row standing) = true) :
    Clear state row standing := by
  unfold Pushers.free at free
  rw [Bool.and_eq_true, Bool.and_eq_true, List.all_eq_true, List.all_eq_true] at free
  obtain ⟨⟨unpushed, apart⟩, same⟩ := free
  constructor
  · intro held member isId
    have either := unpushed held member
    rw [Bool.or_eq_true, bne_iff_ne, Option.isNone_iff_eq_none] at either
    exact either.resolve_left fun other => other isId
  · intro index stage isAt
    obtain ⟨pass, found, rfl⟩ := isAt
    have apart_ := apart pass (List.mem_of_getElem? found)
    rwa [bne_iff_ne] at apart_
  · exact beq_iff_eq.mp same

theorem Inv.step (inv : Inv ext state) {move : PassMove} (alone : undisturbed state move = true) :
    Inv ext (Pushers.step ext checkShape state move) := by
  cases move with
  | chain emission => exact inv.chained emission
  | grace stream => exact inv.noteGraceUse stream
  | start limit => exact inv.started limit
  | perform index answer now =>
      apply inv.performed
      intro pass row standing found isStage
      unfold undisturbed at alone
      dsimp only at alone
      rw [found, Option.all_some, isStage] at alone
      exact clear_of_free alone
  | abandon index =>
      unfold undisturbed at alone
      dsimp only at alone
      cases found : state.passes[index]? with
      | none =>
          have same : Pushers.step ext checkShape state (.abandon index) = state := by
            show state.setPass index .idle = state
            unfold setPass
            rw [List.set_eq_of_length_le (List.getElem?_eq_none_iff.mp found)]
          rw [same]
          exact inv
      | some pass =>
          rw [found, Option.all_some, Option.isNone_iff_eq_none] at alone
          exact inv.idled found alone

theorem Inv.start {state : Pushers} (new : (pushers ext checkShape).start state) : Inv ext state := by
  obtain ⟨rows, wedges, passes, answers⟩ := new
  have unwedged : ∀ stream, state.outbox.wedge stream = none := by
    intro stream
    unfold Outbox.wedge
    rw [wedges]
    rfl
  have unrefused : ∀ stream, refusal ext state.answers stream = none := by
    intro stream
    rw [answers]
    rfl
  have noPass : ∀ {index : Nat} {pass : Offering}, state.passes[index]? ≠ some pass := by
    intro index pass found
    rw [passes] at found
    cases found
  constructor
  · exact ⟨fun row member => absurd (rows ▸ member) List.not_mem_nil, rows ▸ .nil⟩
  · rw [rows]
    exact .nil
  · exact fun row member => absurd (rows ▸ member) List.not_mem_nil
  · exact fun index pass found => absurd found noPass
  · exact fun index pass found => absurd found noPass
  · exact fun index pass found => absurd found noPass
  · intro index other stage stage' stream isAt
    obtain ⟨pass, found, _⟩ := isAt
    exact absurd found noPass
  · intro index stage isAt
    obtain ⟨pass, found, _⟩ := isAt
    exact absurd found noPass
  · intro stream first refused
    rw [unrefused] at refused
    cases refused
  · intro stream wedge stands
    rw [unwedged] at stands
    cases stands

end Pushers

end Stozher.Gateway
