import Stozher.Gateway.PassInvariant

namespace Stozher.Gateway

open Library

namespace Pushers

variable {ext : External} {checkShape : Value → Result Unit} {state : Pushers}

/-- What a refusal keeps in every state until there is progress: nothing past it is pushed, and its wedge is on
record, or about to be put there by the pass that heard it. -/
structure Held (state : Pushers) (stream : String) (first : Queued) : Prop where
  beyond : ∀ row ∈ state.outbox.rows, row.stream = stream → first.seq < row.seq → row.pushedAt = none
  wedge : ∀ wedge, state.outbox.wedge stream = some wedge → wedge.envelopeId = first.id
  recorded : (state.outbox.wedge stream).isSome = true ∨
    ∃ index reason detail marked, state.At index (.refused first reason detail marked)

def RefusalsHeld (ext : External) (state : Pushers) : Prop :=
  ∀ stream first, refusal ext state.answers stream = some first → Held state stream first

/-- What a step keeps of a refusal that is in force before and after it: its wedge stays, and an envelope of its
stream is offered as a probe only, the first that is unpushed and the only one of the pass. -/
structure Steady (ext : External) (checkShape : Value → Result Unit) (state : Pushers) (move : PassMove) : Prop where
  same : ∀ stream first wedge, refusal ext state.answers stream = some first →
    refusal ext (step ext checkShape state move).answers stream = some first →
    state.outbox.wedge stream = some wedge →
    ∃ other, (step ext checkShape state move).outbox.wedge stream = some other ∧ wedge.Same other
  probe : ∀ index answer now pass row standing, move = .perform index answer now →
    state.passes[index]? = some pass → pass.stage = .offering row standing →
    (refusal ext state.answers row.stream).isSome = true →
    standing.isSome = true ∧ state.outbox.Settled row ∧ row.stream ∉ pass.wedged

theorem Inv.held (inv : Inv ext state) : RefusalsHeld ext state := by
  intro stream first refused
  have inForce := inv.refusals stream first refused
  refine ⟨inForce.beyond, ?_, ?_⟩
  · intro wedge stands
    rcases inv.wedges stream wedge stands with ⟨other, refused', named⟩ | ⟨index, row, marked, isAt, isStream⟩
    · rw [refused] at refused'
      cases refused'
      exact named
    · have ok := (inv.stages index _ isAt).1
      rw [isStream, refused] at ok
      cases ok
  · rcases inForce.recorded with ⟨wedge, stands, _⟩ | about
    · exact .inl (Option.isSome_iff_exists.mpr ⟨wedge, stands⟩)
    · exact .inr about

theorem wedge_recordWedge_of_some {outbox : Outbox} {recorded wedge : Wedge} {stream : String}
    (stands : outbox.wedge stream = some wedge) : (outbox.recordWedge recorded).wedge stream = some wedge := by
  unfold Outbox.recordWedge
  split
  · exact stands
  · unfold Outbox.wedge at stands ⊢
    dsimp only
    rw [List.find?_append, stands]
    rfl

/-- A standing wedge stays as it is, unless a pass that has marked an accepted envelope of its stream ends it. -/
theorem step_wedge {stream : String} {wedge : Wedge} (move : PassMove) (stands : state.outbox.wedge stream = some wedge) :
    (∃ other, (step ext checkShape state move).outbox.wedge stream = some other ∧ wedge.Same other) ∨
      ∃ (index : Nat) (pass : Offering) (row : Queued), state.passes[index]? = some pass ∧
        pass.stage = .accepting row true ∧ streamOf row = stream := by
  have kept : ∀ {outbox : Outbox}, outbox.wedge stream = some wedge →
      ∃ other, outbox.wedge stream = some other ∧ wedge.Same other := fun is => ⟨wedge, is, rfl⟩
  cases move with
  | chain emission =>
      left
      apply kept
      show (turn ext checkShape state.outbox (.chain emission : Turn Unit)).wedge stream = some wedge
      cases done : append ext checkShape state.outbox.chain emission with
      | error refused =>
          rw [turn_refused done]
          exact stands
      | ok pair =>
          obtain ⟨row, turned, _⟩ := @turn_chain_adds _ _ Unit _ _ _ _ done
          rw [turned]
          exact stands
  | grace used =>
      left
      have after := @Inv.wedge_noteGraceUse state.outbox used stream
      rw [stands, Option.map_some] at after
      refine ⟨_, after, ?_⟩
      unfold Wedge.Same
      split
      · rfl
      · rfl
  | start limit => exact .inl (kept stands)
  | abandon index => exact .inl (kept stands)
  | perform index answer now =>
      show (∃ other, (perform ext state index answer now).outbox.wedge stream = some other ∧ wedge.Same other) ∨ _
      unfold perform
      cases found : state.passes[index]? with
      | none => exact .inl (kept stands)
      | some pass =>
          dsimp only
          cases isStage : pass.stage with
          | ready => exact .inl (kept stands)
          | offering row standing => exact .inl (kept stands)
          | failing row detail => exact .inl (kept stands)
          | refused row reason detail marked =>
              left
              cases marked with
              | false => exact kept stands
              | true => exact kept (wedge_recordWedge_of_some stands)
          | accepting row marked =>
              cases marked with
              | false => exact .inl (kept stands)
              | true =>
                  by_cases same : stream = streamOf row
                  · exact .inr ⟨index, pass, row, found, isStage, same.symm⟩
                  · left
                    apply kept
                    exact (Inv.wedge_clearWedge.trans (if_neg same)).trans stands

theorem Inv.steady (inv : Inv ext state) {move : PassMove} (alone : undisturbed state move = true) :
    Steady ext checkShape state move := by
  constructor
  · intro stream first wedge refused _ stands
    rcases step_wedge move stands with kept | ⟨index, pass, row, found, isStage, isStream⟩
    · exact kept
    · have ok := (inv.stages index _ ⟨pass, found, isStage⟩).1
      have isRow : pass.stage.row = some row := by
        rw [isStage]
        rfl
      have named := inv.named found isRow
      rw [← named, isStream, refused] at ok
      cases ok
  · intro index answer now pass row standing isMove found isStage refused
    subst isMove
    have isRow : pass.stage.row = some row := by
      rw [isStage]
      rfl
    unfold undisturbed at alone
    dsimp only at alone
    rw [found, Option.all_some, isStage] at alone
    have clear := clear_of_free alone
    have apart := clear.apart
    have standing_ := clear.standing
    rw [inv.named found isRow] at apart standing_
    refine ⟨?_, inv.settled_row found isRow, inv.unseen index pass found row isRow⟩
    rw [← standing_, inv.stands_iff apart]
    exact refused

/-- While no pass offers an envelope another is at, only progress ends a wedge: until the kernel accepts an envelope
past the one it refused, the wedge stays as it was recorded and nothing past it is pushed. -/
theorem only_progress_ends_wedge (new : (pushers ext checkShape).start state) (moves : List PassMove)
    (alone : (pushers ext checkShape).EachStep state moves fun state move => undisturbed state move = true) :
    (pushers ext checkShape).EachState state moves (RefusalsHeld ext) ∧
      (pushers ext checkShape).EachStep state moves (Steady ext checkShape) := by
  have invariant : (pushers ext checkShape).EachState state moves (Inv ext) :=
    alone.states (Inv.start new) fun _ _ allowed inv => inv.step allowed
  constructor
  · exact fun before after split => (invariant before after split).held
  · intro before move after split
    exact (invariant before (move :: after) split).steady (alone before move after split)

/-- A pass that ends a wedge while its refusal is in force breaks it. -/
theorem not_steady_of_clearing {index : Nat} {answer : Answer} {now : String} {pass : Offering} {row first : Queued}
    {wedge : Wedge} (found : state.passes[index]? = some pass) (isStage : pass.stage = .accepting row true)
    (refused : refusal ext state.answers (streamOf row) = some first)
    (stands : state.outbox.wedge (streamOf row) = some wedge) :
    ¬ Steady ext checkShape state (.perform index answer now) := by
  intro steady
  have turned : step ext checkShape state (.perform index answer now) =
      ({ state with outbox := state.outbox.clearWedge (streamOf row) } : Pushers).setPass index
        { pass with stage := .ready } := by
    show perform ext state index answer now = _
    unfold perform
    rw [found]
    dsimp only
    rw [isStage]
  have kept := steady.same (streamOf row) first wedge refused
  rw [turned] at kept
  obtain ⟨other, stays, _⟩ := kept refused stands
  have none_ : none = some other := (Inv.wedge_clearWedge.trans (if_pos rfl)).symm.trans stays
  cases none_

end Pushers

end Stozher.Gateway

namespace Stozher.Deployment

open Library Gateway

/-- Two processes over one local store, before either has done anything. -/
def unused : Pushers where
  outbox := empty
  passes := []
  answers := []

def accepts : Gateway.Answer :=
  .ok { status := 201, body := .object [("result", .string "accepted")] }

def refuses : Gateway.Answer :=
  .ok { status := 422, body := .object [("reason-code", .string "mandate-revoked")] }

/-- One envelope of a batch from the reading of its wedge to the writing down of what became of it. -/
def through (index : Nat) (answer : Gateway.Answer) : List PassMove :=
  List.replicate 4 (.perform index answer ten)

/-- A stream is refused at its first envelope, a later pass is turned away at its second, and the next is not. -/
def probing : List PassMove :=
  [.chain (noteEmission nine), .chain (noteEmission ten), .start 64] ++ through 0 refuses ++
    [.start 64, .perform 1 refuses ten, .perform 1 refuses ten, .start 64] ++ through 2 accepts

/-- Two passes read one batch. The second has its first envelope accepted and its second refused, and then the
first offers the first envelope again. -/
def overlapping : List PassMove :=
  [.chain (noteEmission nine), .chain (noteEmission ten), .start 64, .start 64] ++ through 1 accepts ++
    through 1 refuses ++ List.replicate 3 (.perform 0 accepts ten)

def overlapped : Pushers :=
  (pushers ext fun _ => .ok ()).run unused overlapping

/-- The stream whose wedge a stage is about to end. -/
def clearing : Stage → Option String
  | .accepting row true => some (streamOf row)
  | _ => none

structure PassesSeen : Prop where
  alone : (pushers ext fun _ => .ok ()).allSteps Pushers.undisturbed unused probing = true
  clearing : (overlapped.passes[0]?.bind fun pass => clearing pass.stage) = some "ops:notes"
  refused : (Gateway.refusal ext overlapped.answers "ops:notes").map (fun row => row.seq) = some 1
  wedged : (overlapped.outbox.wedge "ops:notes").map Wedge.seq = some 1

theorem passes_seen : PassesSeen := by
  constructor <;> decide +kernel

theorem probing_holds : (pushers ext fun _ => .ok ()).EachState unused probing (Pushers.RefusalsHeld ext) ∧
    (pushers ext fun _ => .ok ()).EachStep unused probing (Pushers.Steady ext fun _ => .ok ()) :=
  Pushers.only_progress_ends_wedge ⟨rfl, rfl, rfl, rfl⟩ probing (System.eachStep_of_allSteps passes_seen.alone)

/-- The wedge of the refused stream ends though nothing past it was accepted. -/
theorem overlapping_ends_wedge : ¬ ∀ moves : List PassMove,
    (pushers ext fun _ => .ok ()).EachState unused moves (Pushers.RefusalsHeld ext) ∧
      (pushers ext fun _ => .ok ()).EachStep unused moves (Pushers.Steady ext fun _ => .ok ()) := by
  intro claim
  have steady := (claim (overlapping ++ [.perform 0 accepts ten])).2 overlapping _ [] rfl
  have seen := passes_seen
  obtain ⟨pass, found, isClearing⟩ := Option.bind_eq_some_iff.mp seen.clearing
  obtain ⟨first, refused, _⟩ := Option.map_eq_some_iff.mp seen.refused
  obtain ⟨wedge, stands, _⟩ := Option.map_eq_some_iff.mp seen.wedged
  unfold clearing at isClearing
  split at isClearing
  · rename_i row isStage
    have isStream := Option.some.inj isClearing
    rw [← isStream] at refused stands
    exact Pushers.not_steady_of_clearing found isStage refused stands steady
  · cases isClearing

end Stozher.Deployment
