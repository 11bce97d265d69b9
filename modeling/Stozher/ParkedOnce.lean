import Stozher.ChainedApprovals
import Stozher.Gateway.Parking

namespace Stozher.Gateway

open Library

variable {ext : External}

/-- A request that is unanswered and unused. -/
def Parked.Open (row : Parked) : Prop :=
  row.decision = none ∧ row.consumedAt = none

/-- A request of a call that can still be answered at an instant. -/
structure Parked.Outstanding (fields : List (String × String)) (at_ : String) (row : Parked) : Prop where
  isOpen : row.Open
  answerable : ∃ notAfter, row.request.getStr "not-after" = some notAfter ∧ at_ ≤ notAfter
  describes : Local.describes fields row.request = true

namespace ParkCall

variable {call other : ParkCall} {row : Parked}

/-- What a call mints: its own request, with an hour from its reading of the clock to answer it. -/
structure Mints (ext : External) (call : ParkCall) (row : Parked) : Prop where
  inForm : Clock.InForm call.now
  hour : Clock.InForm (call.now + 3600 * 1000)
  request : row.request =
    actionRequest call.ask call.reading call.fresh (Clock.formatMillis (call.now + 3600 * 1000))
  requestHash : Jcs.objectHash ext row.request = .ok row.requestHash
  createdAt : row.createdAt = call.reading

theorem mint_eq_ok (inForm : Clock.InForm call.now) (mints : call.mint ext = .ok row) :
    Mints ext call row ∧ row.Open := by
  unfold mint at mints
  simp only [bind_eq_ok, pure_eq_ok] at mints
  obtain ⟨notAfter, shifts, requestHash, hashed, rfl⟩ := mints
  obtain ⟨hour, isShifted⟩ := (Clock.shift_eq_ok inForm.parse).mp shifts
  subst isShifted
  exact ⟨⟨inForm, hour, rfl, hashed, rfl⟩, rfl, rfl⟩

theorem actionRequest_notAfter (ask : ActionRequest) (requestedAt nonce notAfter : String) :
    (actionRequest ask requestedAt nonce notAfter).getStr "not-after" = some notAfter := rfl

theorem actionRequest_field (ask : ActionRequest) (requestedAt nonce notAfter : String) {field : String × String}
    (listed : field ∈ ask.fields) : (actionRequest ask requestedAt nonce notAfter).getStr field.1 = some field.2 := by
  unfold ActionRequest.fields at listed
  simp only [List.mem_cons, List.not_mem_nil, or_false] at listed
  rcases listed with rfl | rfl | rfl | rfl | rfl | rfl | rfl | rfl | rfl <;> rfl

/-- A request describes the calls with the same nine members. -/
theorem describes_iff (ask : ActionRequest) (mints : Mints ext call row) :
    Local.describes ask.fields row.request = true ↔ call.ask = ask := by
  rw [mints.request]
  constructor
  · intro said
    unfold Local.describes ActionRequest.fields at said
    simp only [List.all_cons, List.all_nil, Bool.and_true, Bool.and_eq_true, beq_iff_eq] at said
    obtain ⟨subject, key, component, mandateRef, policyVersion, classification, action, target, argsHash⟩ := said
    generalize call.ask = asked at *
    cases ask
    cases asked
    cases subject
    cases key
    cases component
    cases mandateRef
    cases policyVersion
    cases classification
    cases action
    cases target
    cases argsHash
    rfl
  · intro same
    subst same
    unfold Local.describes
    rw [List.all_eq_true]
    intro field listed
    rw [beq_iff_eq]
    exact actionRequest_field _ _ _ _ listed

/-- Of two requests, the one minted later can be answered for longer. -/
theorem Mints.notAfter_le {later : Parked} (first : Mints ext call row) (second : Mints ext other later)
    (earlier : row.createdAt ≤ later.createdAt) :
    Clock.formatMillis (call.now + 3600 * 1000) ≤ Clock.formatMillis (other.now + 3600 * 1000) := by
  rw [first.createdAt, second.createdAt] at earlier
  have le := (Clock.le_iff_of_parse first.inForm.parse second.inForm.parse).mp earlier
  exact (Clock.le_iff_of_parse first.hour.parse second.hour.parse).mpr (by omega)

theorem Mints.outstanding_iff {fields : List (String × String)} {at_ : String} (mints : Mints ext call row) :
    row.Outstanding fields at_ ↔ row.Open ∧ at_ ≤ Clock.formatMillis (call.now + 3600 * 1000) ∧
      Local.describes fields row.request = true := by
  have notAfter : row.request.getStr "not-after" = some (Clock.formatMillis (call.now + 3600 * 1000)) := by
    rw [mints.request]
    exact actionRequest_notAfter _ _ _ _
  constructor
  · intro outstanding
    obtain ⟨text, isText, answerable⟩ := outstanding.answerable
    rw [notAfter, Option.some.injEq] at isText
    subst isText
    exact ⟨outstanding.isOpen, answerable, outstanding.describes⟩
  · intro known
    exact ⟨known.1, ⟨_, notAfter, known.2.1⟩, known.2.2⟩

end ParkCall

namespace Local

/-- What a lookup takes for outstanding. -/
theorem outstanding_iff {row : Parked} {fields : List (String × String)} {now : String} :
    row.Outstanding fields now ↔ (row.decision.isNone && row.consumedAt.isNone) = true ∧
      ((match row.request.getStr "not-after" with
        | some notAfter => decide (now ≤ notAfter)
        | none => false) && describes fields row.request) = true := by
  rw [Bool.and_eq_true, Bool.and_eq_true, Option.isNone_iff_eq_none, Option.isNone_iff_eq_none]
  constructor
  · intro outstanding
    obtain ⟨notAfter, isText, answerable⟩ := outstanding.answerable
    rw [isText]
    exact ⟨outstanding.isOpen, decide_eq_true answerable, outstanding.describes⟩
  · intro known
    obtain ⟨isOpen, answerable, said⟩ := known
    split at answerable
    · rename_i notAfter isText
      exact ⟨isOpen, ⟨notAfter, isText, of_decide_eq_true answerable⟩, said⟩
    · cases answerable

theorem mem_byCreation {rows : List Parked} {row : Parked} :
    row ∈ byCreation (rows.filter fun row => row.decision.isNone && row.consumedAt.isNone) ↔
      row ∈ rows ∧ (row.decision.isNone && row.consumedAt.isNone) = true := by
  unfold byCreation
  rw [List.mem_mergeSort, List.mem_filter]

theorem byCreation_sorted (rows : List Parked) :
    (byCreation rows).Pairwise fun first second => first.createdAt ≤ second.createdAt := by
  have sorted := @List.pairwise_mergeSort Parked (fun first second => first.createdAt ≤ second.createdAt)
    (fun _ _ _ first second => decide_eq_true (le_trans (of_decide_eq_true first) (of_decide_eq_true second)))
    (fun first second => by simpa using le_total first.createdAt second.createdAt) rows
  exact sorted.imp fun before => of_decide_eq_true before

/-- A lookup finds the oldest outstanding request of a call. -/
theorem outstandingFor_eq_some {store : Local} {fields : List (String × String)} {now : String} {held : Parked}
    (found : store.outstandingFor fields now = some held) :
    held ∈ store.parked ∧ held.Outstanding fields now ∧
      ∀ other ∈ store.parked, other.Outstanding fields now → held.createdAt ≤ other.createdAt := by
  unfold outstandingFor at found
  obtain ⟨answerable, before, after, split, passed⟩ := List.find?_eq_some_iff_append.mp found
  obtain ⟨inside, isOpen⟩ := mem_byCreation.mp (split ▸ List.mem_append_right before List.mem_cons_self)
  refine ⟨inside, outstanding_iff.mpr ⟨isOpen, answerable⟩, ?_⟩
  intro other listed outstanding
  obtain ⟨open_, answers⟩ := outstanding_iff.mp outstanding
  have sorted := byCreation_sorted (store.parked.filter fun row => row.decision.isNone && row.consumedAt.isNone)
  have place := mem_byCreation.mpr ⟨listed, open_⟩
  rw [split] at sorted place
  rcases List.mem_append.mp place with earlier | later
  · have no := (Bool.not_eq_true' _).mp (passed other earlier)
    exact absurd (answers.symm.trans no) (by decide)
  · rcases List.mem_cons.mp later with rfl | further
    · exact le_refl _
    · exact (List.pairwise_cons.mp (List.pairwise_append.mp sorted).2.1).1 other further

theorem outstandingFor_eq_none {store : Local} {fields : List (String × String)} {now : String} :
    store.outstandingFor fields now = none ↔ ∀ row ∈ store.parked, ¬ row.Outstanding fields now := by
  unfold outstandingFor
  rw [List.find?_eq_none]
  constructor
  · intro none_ row listed outstanding
    obtain ⟨open_, answers⟩ := outstanding_iff.mp outstanding
    exact none_ row (mem_byCreation.mpr ⟨listed, open_⟩) answers
  · intro nowhere row listed answers
    obtain ⟨inside, open_⟩ := mem_byCreation.mp listed
    exact nowhere row inside (outstanding_iff.mpr ⟨open_, answers⟩)

end Local

/-- The requests parked up to an instant: each one minted by a call, each under a hash of its own, and of two
requests of one call, only the one minted first can be answered before the other is minted. -/
structure ParkedApart (ext : External) (instant : Int) (store : Local) : Prop where
  minted : ∀ row ∈ store.parked, ∃ call, ParkCall.Mints ext call row ∧ call.now ≤ instant
  keyed : (store.parked.map Parked.requestHash).Nodup
  apart : ∀ first ∈ store.parked, ∀ second ∈ store.parked, ∀ (ask : ActionRequest) at_,
    first ≠ second → first.Outstanding ask.fields at_ → second.Outstanding ask.fields at_ →
      at_ < first.createdAt ∨ at_ < second.createdAt

namespace ParkedApart

variable {instant : Int} {store : Local}

theorem mono {later : Int} (parked : ParkedApart ext instant store) (le : instant ≤ later) :
    ParkedApart ext later store := by
  refine ⟨fun row listed => ?_, parked.keyed, parked.apart⟩
  obtain ⟨call, mints, read⟩ := parked.minted row listed
  exact ⟨call, mints, le_trans read le⟩

/-- A minted request goes in where no other one of its call is outstanding. -/
theorem concat {call : ParkCall} {minted : Parked} (parked : ParkedApart ext instant store)
    (mints : ParkCall.Mints ext call minted) (read : call.now ≤ instant)
    (unasked : store.outstandingFor call.ask.fields call.reading = none) :
    ParkedApart ext instant { store with
      parked := store.parked.filter (fun other => other.requestHash != minted.requestHash) ++ [minted] } := by
  have later : ∀ row ∈ store.parked, ∀ (ask : ActionRequest) at_, row.Outstanding ask.fields at_ →
      minted.Outstanding ask.fields at_ → at_ < minted.createdAt := by
    intro row listed ask at_ outstanding also
    by_contra reached
    rw [not_lt, mints.createdAt] at reached
    have same := (ParkCall.describes_iff ask mints).mp also.describes
    subst same
    apply Local.outstandingFor_eq_none.mp unasked row listed
    obtain ⟨notAfter, isText, answerable⟩ := outstanding.answerable
    exact ⟨outstanding.isOpen, ⟨notAfter, isText, le_trans reached answerable⟩, outstanding.describes⟩
  constructor
  · intro row listed
    rcases List.mem_append.mp listed with held | new
    · exact parked.minted row (List.mem_filter.mp held).1
    · rw [List.mem_singleton] at new
      subst new
      exact ⟨call, mints, read⟩
  · rw [List.map_append, List.nodup_append]
    refine ⟨parked.keyed.sublist (List.filter_sublist.map _), List.nodup_singleton _, ?_⟩
    intro hash listed other new same
    obtain ⟨row, held, isHash⟩ := List.mem_map.mp listed
    have different := (List.mem_filter.mp held).2
    rw [List.map_singleton, List.mem_singleton] at new
    rw [isHash, same, new, bne_self_eq_false] at different
    cases different
  · intro first isFirst second isSecond ask at_ different outstanding also
    rcases List.mem_append.mp isFirst with held | new
    · have listed := (List.mem_filter.mp held).1
      rcases List.mem_append.mp isSecond with held' | new'
      · exact parked.apart first listed second (List.mem_filter.mp held').1 ask at_ different outstanding also
      · rw [List.mem_singleton] at new'
        subst new'
        exact .inr (later first listed ask at_ outstanding also)
    · rw [List.mem_singleton] at new
      subst new
      rcases List.mem_append.mp isSecond with held' | new'
      · exact .inl (later second (List.mem_filter.mp held').1 ask at_ also outstanding)
      · rw [List.mem_singleton] at new'
        exact absurd new'.symm different

end ParkedApart

/-- An update of a parked request leaves what was asked, and opens nothing. -/
structure Closing (update : Parked → Parked) : Prop where
  requestHash : ∀ row, (update row).requestHash = row.requestHash
  request : ∀ row, (update row).request = row.request
  createdAt : ∀ row, (update row).createdAt = row.createdAt
  isOpen : ∀ row, (update row).Open → row.Open

namespace Closing

variable {update : Parked → Parked}

theorem outstanding (closing : Closing update) {row : Parked} {fields : List (String × String)} {at_ : String}
    (outstanding : (update row).Outstanding fields at_) : row.Outstanding fields at_ := by
  obtain ⟨isOpen, answerable, said⟩ := outstanding
  rw [closing.request] at answerable said
  exact ⟨closing.isOpen row isOpen, answerable, said⟩

theorem mints (closing : Closing update) {call : ParkCall} {row : Parked} (mints : ParkCall.Mints ext call row) :
    ParkCall.Mints ext call (update row) := by
  refine ⟨mints.inForm, mints.hour, ?_, ?_, ?_⟩
  · rw [closing.request, mints.request]
  · rw [closing.request, closing.requestHash, mints.requestHash]
  · rw [closing.createdAt, mints.createdAt]

theorem ifHash (closing : Closing update) (requestHash : String) :
    Closing fun row => if row.requestHash = requestHash then update row else row := by
  constructor
  · intro row
    split
    · exact closing.requestHash row
    · rfl
  · intro row
    split
    · exact closing.request row
    · rfl
  · intro row
    split
    · exact closing.createdAt row
    · rfl
  · intro row
    split
    · exact closing.isOpen row
    · exact id

end Closing

theorem ParkedApart.update {instant : Int} {store : Local} {change : Parked → Parked}
    (parked : ParkedApart ext instant store) (closing : Closing change) (requestHash : String) :
    ParkedApart ext instant (store.updateParked requestHash change) := by
  have each := closing.ifHash requestHash
  constructor
  · intro row listed
    obtain ⟨before, held, rfl⟩ := List.mem_map.mp listed
    obtain ⟨call, mints, read⟩ := parked.minted before held
    exact ⟨call, each.mints mints, read⟩
  · have same : (store.updateParked requestHash change).parked.map Parked.requestHash =
        store.parked.map Parked.requestHash := by
      show List.map _ (List.map _ _) = _
      rw [List.map_map]
      exact List.map_congr_left fun row _ => each.requestHash row
    rw [same]
    exact parked.keyed
  · intro first isFirst second isSecond ask at_ different outstanding also
    obtain ⟨before, held, rfl⟩ := List.mem_map.mp isFirst
    obtain ⟨before', held', rfl⟩ := List.mem_map.mp isSecond
    have apart : before ≠ before' := fun same => different (by rw [same])
    rw [each.createdAt, each.createdAt]
    exact parked.apart before held before' held' ask at_ apart (each.outstanding outstanding) (each.outstanding also)

/-- What a transaction over the parked requests has done by a point of it. -/
def Filed (ext : External) (store : Local) (paperwork : Paperwork) (copy : Local) : Parking → Prop
  | .locked other => copy = store ∧ other = paperwork
  | .looked call minted held => copy = store ∧ paperwork = .park call ∧ call.mint ext = .ok minted ∧
      held = store.outstandingFor call.ask.fields call.reading
  | .parked call told => paperwork = .park call ∧ ∃ minted held, call.mint ext = .ok minted ∧
      store.parkUnique minted call.ask.fields call.reading = (copy, held) ∧
      told = (held.getD minted).requestHash
  | .updated => ∃ requestHash update, Closing update ∧ copy = store.updateParked requestHash update

theorem filed_next {store copy later : Local} {paperwork : Paperwork} {point further : Parking}
    (filed : Filed ext store paperwork copy point) (moves : parkingNext ext copy point = some (later, further)) :
    Filed ext store paperwork later further := by
  cases point with
  | locked other =>
      obtain ⟨rfl, rfl⟩ := filed
      cases other with
      | park call =>
          dsimp only [parkingNext] at moves
          rw [Option.map_eq_some_iff] at moves
          obtain ⟨minted, mints, pair⟩ := moves
          cases pair
          exact ⟨rfl, rfl, toOption_eq_some.mp mints, rfl⟩
      | parkSeed requestHash seedRequest catalogClass =>
          cases moves
          refine ⟨requestHash, _, ?_, rfl⟩
          exact ⟨fun _ => rfl, fun _ => rfl, fun _ => rfl, fun _ => id⟩
      | attachSeedDecision requestHash decision =>
          cases moves
          refine ⟨requestHash, _, ?_, rfl⟩
          exact ⟨fun _ => rfl, fun _ => rfl, fun _ => rfl, fun _ => id⟩
      | recordGateDecision requestHash decision =>
          cases moves
          refine ⟨requestHash, _, ?_, rfl⟩
          exact ⟨fun _ => rfl, fun _ => rfl, fun _ => rfl, fun _ opens => absurd opens.1 (Option.some_ne_none _)⟩
      | recordDecision requestHash decision catalogClass seed =>
          cases moves
          refine ⟨requestHash, _, ?_, rfl⟩
          exact ⟨fun _ => rfl, fun _ => rfl, fun _ => rfl, fun _ opens => absurd opens.1 (Option.some_ne_none _)⟩
      | consume requestHash at_ =>
          cases moves
          refine ⟨requestHash, _, ?_, rfl⟩
          exact ⟨fun _ => rfl, fun _ => rfl, fun _ => rfl, fun _ opens => absurd opens.2 (Option.some_ne_none _)⟩
  | looked call minted held =>
      obtain ⟨rfl, rfl, mints, found⟩ := filed
      cases held with
      | none =>
          cases moves
          refine ⟨rfl, minted, none, mints, ?_, rfl⟩
          unfold Local.parkUnique
          rw [← found]
      | some held =>
          cases moves
          refine ⟨rfl, minted, some held, mints, ?_, rfl⟩
          unfold Local.parkUnique
          rw [← found]
  | parked call told => cases moves
  | updated => cases moves

theorem filed_of_gets {store copy : Local} {paperwork : Paperwork} {point : Parking}
    (gets : (parking ext).Gets (store, .locked paperwork) (copy, point)) : Filed ext store paperwork copy point :=
  @Transactions.Gets.invariant _ _ _ _ (Filed ext store paperwork)
    (fun _ _ _ _ known moves => filed_next known moves) _ _ _ _ gets ⟨rfl, rfl⟩

theorem may_park {instant : Int} {call : ParkCall} (inForm : Clock.InForm instant)
    (may : mayStart instant (.park call) = true) : Clock.InForm call.now ∧ call.now ≤ instant := by
  unfold mayStart at may
  rw [Bool.and_eq_true, decide_eq_true_eq, decide_eq_true_eq] at may
  exact ⟨⟨may.1, le_trans may.2 inForm.last⟩, may.2⟩

/-- A whole transaction keeps the parked requests apart. -/
theorem ParkedApart.filed {instant : Int} {store copy : Local} {paperwork : Paperwork} {point : Parking}
    (parked : ParkedApart ext instant store) (inForm : Clock.InForm instant)
    (may : mayStart instant paperwork = true) (filed : Filed ext store paperwork copy point)
    (ends : (parking ext).final point = true) : ParkedApart ext instant copy := by
  cases point with
  | locked other => cases ends
  | looked call minted held => cases ends
  | updated =>
      obtain ⟨requestHash, update, closing, rfl⟩ := filed
      exact parked.update closing requestHash
  | parked call told =>
      obtain ⟨rfl, minted, held, mints, parks, _⟩ := filed
      obtain ⟨inForm', read⟩ := may_park inForm may
      unfold Local.parkUnique at parks
      split at parks
      · cases parks
        exact parked
      · rename_i unasked
        cases parks
        exact parked.concat (ParkCall.mint_eq_ok inForm' mints).1 read unasked

/-- What holds of a local database in a run. -/
structure DeskOk {ω : Type} (ext : External) (desk : Desk ω) : Prop where
  inForm : Clock.InForm desk.instant
  apart : ParkedApart ext desk.instant desk.shared.stored
  sound : (parking ext).Sound (fun paperwork => mayStart desk.instant paperwork = true) desk.shared

variable {ω : Type} {desk : Desk ω}

/-- Two parked requests under one hash are one. -/
theorem ParkedApart.one {instant : Int} {store : Local} {first second : Parked}
    (parked : ParkedApart ext instant store) (isFirst : first ∈ store.parked) (isSecond : second ∈ store.parked)
    (same : first.requestHash = second.requestHash) : first = second :=
  List.inj_on_of_nodup_map parked.keyed isFirst isSecond same

/-- Of the requests of one call at most one is outstanding. -/
theorem DeskOk.outstanding_unique (ok : DeskOk ext desk) {ask : ActionRequest} {first second : Parked}
    (isFirst : first ∈ desk.shared.stored.parked) (isSecond : second ∈ desk.shared.stored.parked)
    (outstanding : first.Outstanding ask.fields desk.now) (also : second.Outstanding ask.fields desk.now) :
    first = second := by
  have read : ∀ row ∈ desk.shared.stored.parked, row.createdAt ≤ desk.now := by
    intro row listed
    obtain ⟨call, mints, le⟩ := ok.apart.minted row listed
    rw [mints.createdAt]
    exact (Clock.le_iff_of_parse mints.inForm.parse ok.inForm.parse).mpr le
  by_contra different
  rcases ok.apart.apart first isFirst second isSecond ask desk.now different outstanding also with early | early
  · exact absurd early (not_lt_of_ge (read first isFirst))
  · exact absurd early (not_lt_of_ge (read second isSecond))

/-- A call commits in time: what could be answered when it read the clock still can be, or, where nothing could,
what it minted itself. -/
structure Desk.InTime (desk : Desk ω) (call : ParkCall) : Prop where
  held : ∀ row ∈ desk.shared.stored.parked, row.Outstanding call.ask.fields call.reading →
    row.Outstanding call.ask.fields desk.now
  minted : (∀ row ∈ desk.shared.stored.parked, ¬ row.Outstanding call.ask.fields call.reading) →
    ∃ notAfter, Clock.shift call.reading 3600 = .ok notAfter ∧ desk.now ≤ notAfter

/-- A call that parks is told of the one outstanding request exactly when it commits in time. -/
theorem DeskOk.told_iff (ok : DeskOk ext desk) {writer : ω} {call : ParkCall} {told : String} {copy : Local}
    (writing : desk.shared.writing = some (writer, copy, .parked call told)) :
    (∃ row ∈ copy.parked, row.requestHash = told ∧ row.Outstanding call.ask.fields desk.now) ↔
      desk.InTime call := by
  obtain ⟨paperwork, may, gets⟩ := ok.sound writer copy _ writing
  have kept : ParkedApart ext desk.instant copy := ok.apart.filed ok.inForm may (filed_of_gets gets) rfl
  obtain ⟨rfl, minted, held, mints, parks, rfl⟩ := filed_of_gets gets
  obtain ⟨inForm, _⟩ := may_park ok.inForm may
  obtain ⟨own, opens⟩ := ParkCall.mint_eq_ok inForm mints
  unfold Local.parkUnique at parks
  split at parks
  · rename_i oldest found
    cases parks
    obtain ⟨listed, answerable, first⟩ := Local.outstandingFor_eq_some found
    constructor
    · intro knows
      obtain ⟨row, isRow, same, outstanding⟩ := knows
      have isOldest : row = oldest := kept.one isRow listed same
      subst isOldest
      obtain ⟨call', mints', _⟩ := ok.apart.minted row listed
      refine ⟨fun other isOther waits => ?_, fun nothing => absurd answerable (nothing row listed)⟩
      obtain ⟨call'', mints'', _⟩ := ok.apart.minted other isOther
      have longer := mints'.notAfter_le mints'' (first other isOther waits)
      have standing := (mints'.outstanding_iff.mp outstanding).2.1
      exact mints''.outstanding_iff.mpr ⟨waits.isOpen, le_trans standing longer, waits.describes⟩
    · intro inTime
      exact ⟨oldest, listed, rfl, inTime.held oldest listed answerable⟩
  · rename_i unasked
    have nothing := Local.outstandingFor_eq_none.mp unasked
    cases parks
    have isMinted := List.mem_append_right
      (desk.shared.stored.parked.filter fun other => other.requestHash != minted.requestHash)
      (List.mem_singleton_self minted)
    have lasts : Clock.shift call.reading 3600 = .ok (Clock.formatMillis (call.now + 3600 * 1000)) :=
      (Clock.shift_eq_ok own.inForm.parse).mpr ⟨own.hour, rfl⟩
    constructor
    · intro knows
      obtain ⟨row, isRow, same, outstanding⟩ := knows
      have isOwn : row = minted := kept.one isRow isMinted same
      subst isOwn
      refine ⟨fun other isOther waits => absurd waits (nothing other isOther), fun _ => ⟨_, lasts, ?_⟩⟩
      exact (own.outstanding_iff.mp outstanding).2.1
    · intro inTime
      obtain ⟨notAfter, isShifted, answerable⟩ := inTime.minted nothing
      rw [lasts, Except.ok.injEq] at isShifted
      subst isShifted
      refine ⟨minted, isMinted, rfl, own.outstanding_iff.mpr ⟨opens, answerable, ?_⟩⟩
      exact (ParkCall.describes_iff call.ask own).mpr rfl

variable [DecidableEq ω]

theorem DeskOk.turn (ok : DeskOk ext desk) (turn : Turn ω Paperwork)
    (may : ∀ writer paperwork, turn = .start writer paperwork → mayStart desk.instant paperwork = true) :
    DeskOk ext { desk with shared := (parking ext).step desk.shared turn } := by
  refine ⟨ok.inForm, ?_, ok.sound.step turn may⟩
  show ParkedApart ext desk.instant ((parking ext).step desk.shared turn).stored
  rcases ok.sound.step_stored turn with same | ⟨paperwork, point, allowed, ends, gets⟩
  · rw [same]
    exact ok.apart
  · exact ok.apart.filed ok.inForm allowed (filed_of_gets gets) ends

theorem mayStart_mono {instant later : Int} (le : instant ≤ later) (paperwork : Paperwork)
    (may : mayStart instant paperwork = true) : mayStart later paperwork = true := by
  cases paperwork with
  | park call =>
      unfold mayStart at may ⊢
      rw [Bool.and_eq_true, decide_eq_true_eq, decide_eq_true_eq] at may ⊢
      exact ⟨may.1, le_trans may.2 le⟩
  | _ => rfl

theorem DeskOk.move (ok : DeskOk ext desk) (move : DeskMove ω) : DeskOk ext (desk.move ext move) := by
  unfold Desk.move
  split
  · rename_i writer paperwork
    split
    · rename_i may
      refine ok.turn _ ?_
      intro other request same
      cases same
      exact may
    · exact ok
  · rename_i turn other
    refine ok.turn turn ?_
    intro writer paperwork same
    exact absurd same (other writer paperwork)
  · rename_i millis
    split
    · rename_i fits
      have le : desk.instant ≤ desk.instant + millis := by omega
      exact ⟨⟨le_trans ok.inForm.first le, fits⟩, ok.apart.mono le, ok.sound.mono (mayStart_mono le)⟩
    · exact ok

theorem deskOk (reached : (parkingDesk ext ω).Reachable desk) : DeskOk ext desk := by
  refine reached.invariant (DeskOk ext) ?_ ?_
  · intro state start
    obtain ⟨empty, free, inForm⟩ := start
    refine ⟨inForm, ⟨by simp [empty], by simp [empty], by simp [empty]⟩, .of_free free⟩
  · intro state move _ ok
    exact ok.move move

/-- In every run, whatever the order in which threads and processes take their turns: of the requests parked for one
call at most one is unanswered, unused and still to be answered, and a call that parks is told of that one exactly
when it commits in time. -/
theorem parks_once (reached : (parkingDesk ext ω).Reachable desk) :
    (desk.shared.stored.parked.map Parked.requestHash).Nodup ∧
    (∀ (ask : ActionRequest), ∀ first ∈ desk.shared.stored.parked, ∀ second ∈ desk.shared.stored.parked,
      first.Outstanding ask.fields desk.now → second.Outstanding ask.fields desk.now → first = second) ∧
    ∀ writer call told copy, desk.shared.writing = some (writer, copy, .parked call told) →
      (desk.move ext (.turn (.commit writer))).shared.stored = copy ∧
      ((∃ row ∈ copy.parked, row.requestHash = told ∧ row.Outstanding call.ask.fields desk.now) ↔
        desk.InTime call) := by
  have ok := deskOk reached
  refine ⟨ok.apart.keyed, fun ask first isFirst second isSecond => ok.outstanding_unique isFirst isSecond, ?_⟩
  intro writer call told copy writing
  refine ⟨?_, ok.told_iff writing⟩
  show ((parking ext).step desk.shared (.commit writer)).stored = copy
  rw [Transactions.step_commit writing rfl]

/-- A call whose turn it is at a free database gets to the end of its transaction, which is `park_unique`. -/
theorem run_park (writer : ω) {call : ParkCall} {minted : Parked} (free : desk.shared.writing = none)
    (may : mayStart desk.instant (.park call) = true) (mints : call.mint ext = .ok minted) :
    (parkingDesk ext ω).run desk [.turn (.start writer (.park call)), .turn (.advance writer), .turn (.advance writer)] =
      { desk with shared := { stored := desk.shared.stored, writing := some (writer,
        (desk.shared.stored.parkUnique minted call.ask.fields call.reading).1,
        .parked call (((desk.shared.stored.parkUnique minted call.ask.fields call.reading).2.getD minted).requestHash)) } } := by
  have started : desk.move ext (.turn (.start writer (.park call))) = { desk with shared := {
      desk.shared with writing := some (writer, desk.shared.stored, .locked (.park call)) } } := by
    show (if mayStart desk.instant (.park call) = true then _ else _) = _
    rw [if_pos may, Transactions.step_start free]
    rfl
  have looked : (parking ext).next desk.shared.stored (.locked (.park call)) = some (desk.shared.stored,
      .looked call minted (desk.shared.stored.outstandingFor call.ask.fields call.reading)) := by
    dsimp only [parking, parkingNext]
    rw [mints]
    rfl
  have parks : (parking ext).next desk.shared.stored
      (.looked call minted (desk.shared.stored.outstandingFor call.ask.fields call.reading)) =
        some ((desk.shared.stored.parkUnique minted call.ask.fields call.reading).1, .parked call
          (((desk.shared.stored.parkUnique minted call.ask.fields call.reading).2.getD minted).requestHash)) := by
    unfold Local.parkUnique
    dsimp only [parking]
    cases desk.shared.stored.outstandingFor call.ask.fields call.reading with
    | none => rfl
    | some held => rfl
  have first : (parking ext).step
      { desk.shared with writing := some (writer, desk.shared.stored, .locked (.park call)) } (.advance writer) =
        { desk.shared with writing := some (writer, desk.shared.stored,
          .looked call minted (desk.shared.stored.outstandingFor call.ask.fields call.reading)) } :=
    Transactions.step_advance rfl looked
  have second := @Transactions.step_advance ω Local Parking Paperwork (parking ext) _
    { desk.shared with writing := some (writer, desk.shared.stored,
      .looked call minted (desk.shared.stored.outstandingFor call.ask.fields call.reading)) } writer _ _ _ _ rfl parks
  have advanced : ∀ shared : Shared ω Local Parking,
      (parkingDesk ext ω).step { shared, instant := desk.instant } (.turn (.advance writer)) =
        { shared := (parking ext).step shared (.advance writer), instant := desk.instant } := fun _ => rfl
  rw [System.run_cons, System.run_cons, System.run_cons, System.run_nil]
  rw [show (parkingDesk ext ω).step desk (.turn (.start writer (.park call))) = _ from started]
  rw [advanced, first, advanced, second]

end Stozher.Gateway

namespace Stozher.Deployment

open Library Library.Text Gateway Recorded

def hourLater : Recorded where
  form := fun _ => actionRequest (mergeWork.ask gatewayConfig) "2026-01-01T10:00:00.001Z"
    (String.ofList (List.replicate 32 'a')) "2026-01-01T11:00:00.001Z"
  sealed := none
  digest := hex 64 0xe1937bcec815bcd9083a1fff8864b92a2fe88ec1f4ea19ae08eb126b72311606

def justBefore : Recorded where
  form := fun _ => actionRequest (mergeWork.ask gatewayConfig) "2026-01-01T09:59:59.999Z"
    (String.ofList (List.replicate 32 'b')) "2026-01-01T10:59:59.999Z"
  sealed := none
  digest := hex 64 0x28ed069de3ea4c7ff3d2ba15d46e0ae48065ad1dac77dbf62253378950fd1f6d

def deskExt : External :=
  external (records ++ [hourLater, justBefore])

/-- A merge asked for at an instant. -/
def asksAt (now : Int) (digit : Char) : ParkCall where
  ask := mergeWork.ask gatewayConfig
  now := now
  fresh := String.ofList (List.replicate 32 digit)
  server := "github"
  tool := "merge"
  firstCall := false

def parkedAs (request : Recorded) (createdAt : String) : Parked :=
  { mergeParked with requestHash := request.digest, request := request.document, createdAt }

deriving instance DecidableEq for Seed, Parked

def hourLaterParked : Parked :=
  parkedAs hourLater "2026-01-01T10:00:00.001Z"

structure DeskSeen : Prop where
  first : ((asksAt 1767258000000 '9').mint deskExt).toOption = some mergeParked
  again : ((asksAt 1767261600001 'a').mint deskExt).toOption = some hourLaterParked
  stale : ((asksAt 1767261599999 'b').mint deskExt).toOption = some (parkedAs justBefore "2026-01-01T09:59:59.999Z")
  gone : (mergeParked.request.getStr "not-after").all (fun notAfter =>
    decide ((asksAt 1767261600001 'a').reading ≤ notAfter)) = false
  stays : (hourLaterParked.request.getStr "not-after").any (fun notAfter =>
    decide ((asksAt 1767261600001 'a').reading ≤ notAfter)) = true
  answerable : (mergeParked.request.getStr "not-after").any (fun notAfter =>
    decide ((asksAt 1767261599999 'b').reading ≤ notAfter)) = true
  describes : Local.describes (mergeWork.ask gatewayConfig).fields mergeParked.request = true ∧
    Local.describes (mergeWork.ask gatewayConfig).fields hourLaterParked.request = true
  order : mergeParked.createdAt ≤ hourLaterParked.createdAt
  apart : hourLaterParked.requestHash ≠ mergeParked.requestHash

theorem desk_seen : DeskSeen := by
  constructor <;> decide +kernel

/-- A desk with requests parked and nobody at it. -/
def deskWith (parked : List Parked) (instant : Int) : Gateway.Desk String where
  shared := { stored := { Local.empty with parked }, writing := none }
  instant := instant

/-- What a writer does to park a call. -/
def parks (writer : String) (call : ParkCall) : List (DeskMove String) :=
  [.turn (.start writer (.park call)), .turn (.advance writer), .turn (.advance writer)]

theorem run_parks {parked : List Parked} {instant : Int} {call : ParkCall} {minted : Parked} (writer : String)
    (may : mayStart instant (.park call) = true) (mints : call.mint deskExt = .ok minted)
    (unasked : (deskWith parked instant).shared.stored.outstandingFor call.ask.fields call.reading = none)
    (apart : ∀ row ∈ parked, row.requestHash ≠ minted.requestHash) :
    (parkingDesk deskExt String).run (deskWith parked instant) (parks writer call ++ [.turn (.commit writer)]) =
      deskWith (parked ++ [minted]) instant := by
  have kept : parked.filter (fun other => other.requestHash != minted.requestHash) = parked := by
    rw [List.filter_eq_self]
    intro row listed
    exact bne_iff_ne.mpr (apart row listed)
  rw [System.run_append]
  unfold parks
  rw [run_park writer rfl may mints]
  unfold Local.parkUnique
  rw [unasked]
  show Gateway.Desk.mk ((parking deskExt).step _ (.commit writer)) instant = _
  rw [Transactions.step_commit rfl rfl]
  show Gateway.Desk.mk { stored := { Local.empty with parked := parked.filter _ ++ [minted] }, writing := none } instant = _
  rw [kept]
  rfl

/-- A merge is asked for, and again when an hour is over; a second process, which had read the clock just before, comes
to its turn after that. -/
def overlappingParks : List (DeskMove String) :=
  (parks "desktop" (asksAt 1767258000000 '9') ++ [.turn (.commit "desktop")]) ++ ([.wait 3600001] ++
    ((parks "desktop" (asksAt 1767261600001 'a') ++ [.turn (.commit "desktop")]) ++
      parks "laptop" (asksAt 1767261599999 'b')))

/-- The second process at the end of its transaction. -/
def staleDesk : Gateway.Desk String where
  shared := {
    stored := { Local.empty with parked := [mergeParked, hourLaterParked] }
    writing := some ("laptop", { Local.empty with parked := [mergeParked, hourLaterParked] },
      .parked (asksAt 1767261599999 'b') mergeParked.requestHash) }
  instant := 1767261600001

/-- The first request, to a process that read the clock just before its hour was over. -/
theorem merge_outstanding :
    mergeParked.Outstanding (mergeWork.ask gatewayConfig).fields (asksAt 1767261599999 'b').reading := by
  obtain ⟨notAfter, isText, answerable⟩ := (Option.any_eq_true _ _).mp desk_seen.answerable
  exact ⟨⟨rfl, rfl⟩, ⟨notAfter, isText, of_decide_eq_true answerable⟩, desk_seen.describes.1⟩

/-- The first request once its hour is over. -/
theorem merge_gone :
    ¬ mergeParked.Outstanding (mergeWork.ask gatewayConfig).fields (asksAt 1767261600001 'a').reading := by
  intro outstanding
  obtain ⟨notAfter, isText, answerable⟩ := outstanding.answerable
  have gone := desk_seen.gone
  rw [isText, Option.all_some, decide_eq_false_iff_not] at gone
  exact gone answerable

theorem hourLater_outstanding :
    hourLaterParked.Outstanding (mergeWork.ask gatewayConfig).fields (asksAt 1767261600001 'a').reading := by
  obtain ⟨notAfter, isText, answerable⟩ := (Option.any_eq_true _ _).mp desk_seen.stays
  exact ⟨⟨rfl, rfl⟩, ⟨notAfter, isText, of_decide_eq_true answerable⟩, desk_seen.describes.2⟩

theorem stale_found : (deskWith [mergeParked, hourLaterParked] 1767261600001).shared.stored.outstandingFor
    (mergeWork.ask gatewayConfig).fields (asksAt 1767261599999 'b').reading = some mergeParked := by
  have opens : [mergeParked, hourLaterParked].filter (fun row => row.decision.isNone && row.consumedAt.isNone) =
      [mergeParked, hourLaterParked] := rfl
  have sorted : [mergeParked, hourLaterParked].Pairwise
      fun first second => decide (first.createdAt ≤ second.createdAt) = true := by
    rw [List.pairwise_pair]
    exact decide_eq_true desk_seen.order
  unfold Local.outstandingFor Local.byCreation deskWith
  dsimp only
  rw [opens, List.mergeSort_of_pairwise sorted]
  apply List.find?_cons_of_pos
  exact (Local.outstanding_iff.mp merge_outstanding).2

theorem stale_reached : (parkingDesk deskExt String).Reachable staleDesk := by
  refine ⟨deskWith [] 1767258000000, overlappingParks, ⟨rfl, rfl, ⟨by decide, by decide⟩⟩, ?_⟩
  have first := @run_parks [] 1767258000000 _ _ "desktop" rfl (toOption_eq_some.mp desk_seen.first)
    (Local.outstandingFor_eq_none.mpr (by simp [deskWith])) (by simp)
  have waits : (parkingDesk deskExt String).run (deskWith [mergeParked] 1767258000000) [.wait 3600001] =
      deskWith [mergeParked] 1767261600001 := rfl
  have second := @run_parks [mergeParked] 1767261600001 _ _ "desktop" rfl (toOption_eq_some.mp desk_seen.again)
    (Local.outstandingFor_eq_none.mpr (by
      intro row listed
      rw [show row = mergeParked from List.mem_singleton.mp listed]
      exact merge_gone)) (by
      intro row listed
      rw [List.mem_singleton.mp listed]
      exact desk_seen.apart.symm)
  have third := @run_park deskExt String (deskWith [mergeParked, hourLaterParked] 1767261600001) _ "laptop"
    (asksAt 1767261599999 'b') _ rfl rfl (toOption_eq_some.mp desk_seen.stale)
  unfold overlappingParks
  rw [System.run_append, first, List.nil_append, System.run_append, waits, System.run_append, second]
  unfold parks
  rw [List.cons_append, List.nil_append, third]
  unfold Local.parkUnique
  rw [show (asksAt 1767261599999 'b').ask = mergeWork.ask gatewayConfig from rfl, stale_found]
  rfl

/-- The second process is told of a request nobody can answer any more, and another one is outstanding. -/
theorem stale_park_told : (parkingDesk deskExt String).Reachable staleDesk ∧
    ∃ writer call told copy, staleDesk.shared.writing = some (writer, copy, .parked call told) ∧
      (∃ row ∈ copy.parked, row.requestHash ≠ told ∧ row.Outstanding call.ask.fields staleDesk.now) ∧
      ¬ ∃ row ∈ copy.parked, row.requestHash = told ∧ row.Outstanding call.ask.fields staleDesk.now := by
  refine ⟨stale_reached, "laptop", _, _, _, rfl, ⟨hourLaterParked, by simp, desk_seen.apart, hourLater_outstanding⟩, ?_⟩
  intro told
  obtain ⟨row, listed, same, outstanding⟩ := told
  rcases List.mem_cons.mp listed with rfl | rest
  · exact merge_gone outstanding
  · rw [List.mem_singleton.mp rest] at same
    exact desk_seen.apart same

/-- The second process does not commit in time. -/
theorem staleDesk_late : ¬ staleDesk.InTime (asksAt 1767261599999 'b') := by
  intro inTime
  obtain ⟨_, _, tells⟩ := parks_once stale_reached
  obtain ⟨row, listed, same, outstanding⟩ := (tells "laptop" _ _ _ rfl).2.mpr inTime
  rcases List.mem_cons.mp listed with rfl | rest
  · exact merge_gone outstanding
  · rw [List.mem_singleton.mp rest] at same
    exact desk_seen.apart same

end Stozher.Deployment
