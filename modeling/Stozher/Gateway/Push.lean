import Mathlib.Data.Prod.Lex
import Mathlib.Data.String.Basic
import Stozher.Display
import Stozher.Gateway
import Stozher.Library.Paging

namespace Stozher.Gateway

open Library

/-- A locally chained envelope, with what became of offering it. -/
structure Queued extends LocalEnvelope where
  pushedAt : Option String
  pushError : Option String

/-- A stream the kernel is refusing. -/
structure Wedge where
  stream : String
  envelopeId : String
  seq : Int
  reasonCode : String
  detail : String
  firstRefusedAt : String
  graceServed : Nat

/-- One kernel answer. -/
structure KernelResponse where
  status : Nat
  body : Value

namespace KernelResponse

variable (ext : External) (response : KernelResponse)

/-- A member of the body, where it is not null. -/
def member (name : String) : Option Value :=
  (response.body.get name).filter fun value => !value.isNull

def accepted : Bool :=
  decide (response.status = 200 ∨ response.status = 201) &&
    match response.member "result" with
    | none => true
    | some result => result.asStr == some "ok" || result.asStr == some "accepted"

def str (value : Value) : String :=
  match value with
  | .string s => s
  | other => other.display ext

def reasonCode : Option String :=
  (response.member "reason-code").map (str ext)

/-- Whether the answer is a refusal of the bytes submitted. -/
def refusesTheObject : Bool :=
  if response.accepted then false
  else if 500 ≤ response.status ∨ response.status = 401 ∨ response.status = 403 then false
  else
    match response.reasonCode ext with
    | none => false
    | some code => !Text.startsWith code "x-"

/-- Whether a value counts as true. -/
def truthy (value : Value) : Bool :=
  match value with
  | .null => false
  | .bool b => b
  | .number (.posInt n _) => n != 0
  | .number (.negInt _ _) => true
  | .number (.float bits) => !bits.isZero
  | .string s => !s.isEmpty
  | .array items => !items.isEmpty
  | .object members => !members.isEmpty

/-- The reason, or the whole body where none is given. -/
def detail : String :=
  match (response.body.get "reason").filter truthy with
  | some reason => str ext reason
  | none => response.body.display ext

end KernelResponse

/-- The chained envelopes and the wedges of the streams. -/
structure Outbox where
  rows : List Queued
  wedges : List Wedge

/-- The order in which envelopes are read to be offered. -/
def Queued.place (row : Queued) : String ×ₗ Nat :=
  toLex (row.stream, row.seq)

namespace Outbox

variable (outbox : Outbox)

def pending : List Queued :=
  outbox.rows.filter fun row => row.pushedAt.isNone

/-- A negative limit is none. -/
def unpushed (limit : Int) : List Queued :=
  if limit < 0 then sortedAfter Queued.place none outbox.pending
  else page Queued.place limit.toNat none outbox.pending

def update (id : String) (change : Queued → Queued) : Outbox :=
  { outbox with rows := outbox.rows.map fun row => if row.id = id then change row else row }

def markPushed (id at_ : String) (error : Option String) : Outbox :=
  outbox.update id fun row => { row with pushedAt := some at_, pushError := error }

def markPushError (id detail : String) : Outbox :=
  outbox.update id fun row => { row with pushError := some detail }

/-- The first refusal of a stream stands. -/
def recordWedge (wedge : Wedge) : Outbox :=
  if outbox.wedges.any fun other => other.stream == wedge.stream then outbox
  else { outbox with wedges := outbox.wedges ++ [wedge] }

def wedge (stream : String) : Option Wedge :=
  outbox.wedges.find? fun wedge => wedge.stream == stream

def clearWedge (stream : String) : Outbox :=
  { outbox with wedges := outbox.wedges.filter fun wedge => wedge.stream != stream }

end Outbox

/-- How a submission is answered: the kernel's response, or why it could not be reached. -/
abbrev Answer := Except String KernelResponse

/-- A pass under way: the store and the kernel as they are by now, and what was offered. -/
structure Pass (κ : Type) where
  outbox : Outbox
  kernel : κ
  accepted : Nat
  wedged : List String
  offered : List (Queued × Answer)
  stopped : Bool

variable {κ : Type} (ext : External) (ask : κ → Queued → Answer × κ) (now : String)

/-- One turn of the loop. -/
def offer (pass : Pass κ) (row : Queued) : Pass κ :=
  let stream := (row.envelope.getStr "stream").getD ""
  let seq := ((row.envelope.get "seq").bind Value.asI64).getD (-1)
  if pass.stopped = true ∨ stream ∈ pass.wedged then pass
  else
    let standing := pass.outbox.wedge stream
    let asked := ask pass.kernel row
    let pass := { pass with kernel := asked.2, offered := pass.offered ++ [(row, asked.1)] }
    match asked.1 with
    | .error unreachable =>
        { pass with outbox := pass.outbox.markPushError row.id unreachable, stopped := true }
    | .ok response =>
        if response.accepted then
          { pass with
            outbox := (pass.outbox.markPushed row.id now none).clearWedge stream
            accepted := pass.accepted + 1 }
        else if response.refusesTheObject ext = false then
          { pass with
            outbox := pass.outbox.markPushError row.id
              (((response.reasonCode ext).getD (toString response.status)) ++ ": " ++ response.detail ext)
            stopped := true }
        else
          let reason := (response.reasonCode ext).getD "x-kernel-refused"
          if standing.isSome then { pass with wedged := stream :: pass.wedged }
          else
            { pass with
              outbox := (pass.outbox.markPushed row.id now (some (reason ++ ": " ++ response.detail ext))).recordWedge {
                stream
                envelopeId := row.id
                seq
                reasonCode := reason
                detail := response.detail ext
                firstRefusedAt := now
                graceServed := 0 }
              wedged := stream :: pass.wedged }

/-- Offers locally chained envelopes to the kernel, in order. -/
def pushPending (kernel : κ) (outbox : Outbox) (limit : Int) : Pass κ :=
  (outbox.unpushed limit).foldl (offer ext ask now)
    { outbox, kernel, accepted := 0, wedged := [], offered := [], stopped := false }

/-- An answer that judges the bytes submitted. -/
def Judges (answer : Answer) : Prop :=
  ∃ response, answer = .ok response ∧ (response.accepted = true ∨ response.refusesTheObject ext = true)

/-- The stream the envelope of a row names. -/
def streamOf (row : Queued) : String :=
  (row.envelope.getStr "stream").getD ""

variable {ext ask now}

theorem offer_held {pass : Pass κ} {row : Queued} (held : streamOf row ∈ pass.wedged) :
    offer ext ask now pass row = pass := by
  unfold offer
  exact if_pos (.inr held)

theorem offer_stopped {pass : Pass κ} {row : Queued} (stopped : pass.stopped = true) :
    offer ext ask now pass row = pass := by
  unfold offer
  exact if_pos (.inl stopped)

/-- An envelope that is offered is answered, and no stream but its own is held for the answer. -/
theorem offer_asked {pass : Pass κ} {row : Queued} (running : pass.stopped = false)
    (free : streamOf row ∉ pass.wedged) :
    (offer ext ask now pass row).offered = pass.offered ++ [(row, (ask pass.kernel row).1)] ∧
      (∀ stream ∈ (offer ext ask now pass row).wedged, stream ∈ pass.wedged ∨ stream = streamOf row) ∧
      (Judges ext (ask pass.kernel row).1 → (offer ext ask now pass row).stopped = false) := by
  have asks : ¬ (pass.stopped = true ∨ (row.envelope.getStr "stream").getD "" ∈ pass.wedged) := by
    rintro (stopped | held)
    · rw [running] at stopped
      cases stopped
    · exact free held
  unfold offer
  dsimp only
  rw [if_neg asks]
  cases answer : (ask pass.kernel row).1 with
  | error unreachable =>
      refine ⟨rfl, fun _ held => .inl held, ?_⟩
      rintro ⟨response, isOk, _⟩
      cases isOk
  | ok response =>
      dsimp only
      have judged : Judges ext (.ok response) → response.accepted = true ∨ response.refusesTheObject ext = true := by
        rintro ⟨other, same, judges⟩
        cases same
        exact judges
      by_cases accepted : response.accepted = true
      · rw [if_pos accepted]
        exact ⟨rfl, fun _ held => .inl held, fun _ => running⟩
      · rw [if_neg accepted]
        by_cases refuses : response.refusesTheObject ext = false
        · rw [if_pos refuses]
          refine ⟨rfl, fun _ held => .inl held, fun judges => ?_⟩
          rcases judged judges with yes | no
          · exact absurd yes accepted
          · rw [refuses] at no
            cases no
        · rw [if_neg refuses]
          split
          · exact ⟨rfl, fun _ held => (List.mem_cons.mp held).symm, fun _ => running⟩
          · exact ⟨rfl, fun _ held => (List.mem_cons.mp held).symm, fun _ => running⟩

theorem offer_keeps {pass : Pass κ} {row : Queued} {entry : Queued × Answer} (held : entry ∈ pass.offered) :
    entry ∈ (offer ext ask now pass row).offered := by
  by_cases running : pass.stopped = true
  · rw [offer_stopped running]
    exact held
  · by_cases free : streamOf row ∈ pass.wedged
    · rw [offer_held free]
      exact held
    · rw [(offer_asked (Bool.eq_false_iff.mpr running) free).1]
      exact List.mem_append_left _ held

theorem offer_only {pass : Pass κ} {row : Queued} {entry : Queued × Answer}
    (held : entry ∈ (offer ext ask now pass row).offered) : entry ∈ pass.offered ∨ entry.1 = row := by
  by_cases running : pass.stopped = true
  · rw [offer_stopped running] at held
    exact .inl held
  · by_cases free : streamOf row ∈ pass.wedged
    · rw [offer_held free] at held
      exact .inl held
    · rw [(offer_asked (Bool.eq_false_iff.mpr running) free).1, List.mem_append, List.mem_singleton] at held
      exact held.imp id fun same => congrArg Prod.fst same

/-- A kernel that answers every submission. -/
def Answers (ext : External) (ask : κ → Queued → Answer × κ) : Prop :=
  ∀ kernel row, Judges ext (ask kernel row).1

theorem offer_running (answers : Answers ext ask) {pass : Pass κ} {row : Queued} (running : pass.stopped = false) :
    (offer ext ask now pass row).stopped = false := by
  by_cases free : streamOf row ∈ pass.wedged
  · rw [offer_held free]
    exact running
  · exact (offer_asked running free).2.2 (answers pass.kernel row)

theorem foldl_keeps {rows : List Queued} {pass : Pass κ} {entry : Queued × Answer} (held : entry ∈ pass.offered) :
    entry ∈ (rows.foldl (offer ext ask now) pass).offered := by
  induction rows generalizing pass with
  | nil => exact held
  | cons row rest ih => exact ih (offer_keeps held)

theorem foldl_only {rows : List Queued} {pass : Pass κ} {entry : Queued × Answer}
    (held : entry ∈ (rows.foldl (offer ext ask now) pass).offered) : entry ∈ pass.offered ∨ entry.1 ∈ rows := by
  induction rows generalizing pass with
  | nil => exact .inl held
  | cons row rest ih =>
      rcases ih held with earlier | later
      · rcases offer_only earlier with before | here
        · exact .inl before
        · exact .inr (here ▸ List.mem_cons_self)
      · exact .inr (List.mem_cons_of_mem _ later)

/-- The first row of a stream in what is offered is offered, whatever the kernel makes of the rest. -/
theorem foldl_offers (answers : Answers ext ask) {front back : List Queued} {row : Queued} {pass : Pass κ}
    (running : pass.stopped = false) (free : streamOf row ∉ pass.wedged)
    (first : ∀ other ∈ front, streamOf other ≠ streamOf row) :
    ∃ answer, (row, answer) ∈ ((front ++ row :: back).foldl (offer ext ask now) pass).offered := by
  induction front generalizing pass with
  | nil =>
      have here : (row, (ask pass.kernel row).1) ∈ (offer ext ask now pass row).offered := by
        rw [(offer_asked running free).1]
        exact List.mem_append_right _ List.mem_cons_self
      have kept : (row, (ask pass.kernel row).1) ∈
          (back.foldl (offer ext ask now) (offer ext ask now pass row)).offered := foldl_keeps here
      exact ⟨_, kept⟩
  | cons other front ih =>
      refine ih (offer_running answers running) ?_ fun next inside => first next (List.mem_cons_of_mem _ inside)
      by_cases held : streamOf other ∈ pass.wedged
      · rw [offer_held held]
        exact free
      · intro now_
        rcases (offer_asked running held).2.1 _ now_ with before | same
        · exact free before
        · exact first other List.mem_cons_self same.symm

namespace Outbox

/-- How many unpushed envelopes are in streams that come before one. -/
def before (outbox : Outbox) (stream : String) : Nat :=
  (outbox.pending.filter fun row => decide (row.stream < stream)).length

/-- Whether a position is within a limit. -/
def Fits (limit : Int) (position : Nat) : Prop :=
  limit < 0 ∨ (position : Int) < limit

/-- The first unpushed envelope of its stream. -/
def IsFirst (outbox : Outbox) (row : Queued) : Prop :=
  row ∈ outbox.pending ∧ ∀ other ∈ outbox.pending, other.stream = row.stream → row.seq ≤ other.seq

/-- Each row is of the stream its envelope names, and at a position of its own. -/
structure Keyed (outbox : Outbox) : Prop where
  named : ∀ row ∈ outbox.rows, streamOf row = row.stream
  distinct : DistinctKeys Queued.place outbox.rows

theorem place_lt {first second : Queued} :
    first.place < second.place ↔
      first.stream < second.stream ∨ first.stream = second.stream ∧ first.seq < second.seq := by
  unfold Queued.place
  rw [Prod.Lex.toLex_lt_toLex]

variable {outbox : Outbox}

theorem IsFirst.place_lt_iff {row other : Queued} (first : outbox.IsFirst row) (held : other ∈ outbox.pending) :
    other.place < row.place ↔ other.stream < row.stream := by
  rw [place_lt]
  refine or_iff_left ?_
  rintro ⟨same, less⟩
  exact absurd less (Nat.not_lt.mpr (first.2 other held same))

theorem exists_first {stream : String} {row : Queued} (held : row ∈ outbox.pending) (named : row.stream = stream) :
    ∃ first, outbox.IsFirst first ∧ first.stream = stream := by
  induction size : row.seq using Nat.strong_induction_on generalizing row with
  | _ size ih =>
      by_cases least : ∀ other ∈ outbox.pending, other.stream = row.stream → row.seq ≤ other.seq
      · exact ⟨row, ⟨held, least⟩, named⟩
      · push Not at least
        obtain ⟨other, inside, same, less⟩ := least
        exact ih other.seq (size ▸ less) inside (same.trans named) rfl

namespace Keyed

theorem pending (keyed : outbox.Keyed) : DistinctKeys Queued.place outbox.pending :=
  keyed.distinct.filter _

theorem mem_unpushed {row : Queued} (keyed : outbox.Keyed) (first : outbox.IsFirst row) {limit : Int} :
    row ∈ outbox.unpushed limit ↔ Fits limit (outbox.before row.stream) := by
  have whole := first.1
  unfold unpushed Fits
  by_cases unlimited : limit < 0
  · rw [if_pos unlimited, mem_sortedAfter]
    exact ⟨fun _ => .inl unlimited, fun _ => ⟨whole, isAfter_none⟩⟩
  · have counted : (outbox.pending.filter fun other =>
        isAfter Queued.place none other && decide (other.place < row.place)) =
        outbox.pending.filter fun other => decide (other.stream < row.stream) := by
      refine List.filter_congr fun other held => ?_
      rw [isAfter_none, Bool.true_and, decide_eq_decide]
      exact first.place_lt_iff held
    rw [if_neg unlimited, mem_page_iff keyed.pending whole isAfter_none, counted, or_iff_right unlimited]
    unfold before
    omega

/-- What is offered is offered in order, a row of a stream after those before it. -/
theorem unpushed_increasing (keyed : outbox.Keyed) (limit : Int) :
    (outbox.unpushed limit).Pairwise fun a b => a.place < b.place := by
  unfold unpushed
  split
  · exact sortedAfter_increasing keyed.pending
  · exact page_increasing keyed.pending

theorem unpushed_sub {row : Queued} {limit : Int} (member : row ∈ outbox.unpushed limit) : row ∈ outbox.pending := by
  unfold unpushed at member
  split at member
  · exact (mem_sortedAfter.mp member).1
  · exact (mem_of_page member).1

/-- A pass that is answered offers the first unpushed envelope of a stream just when it is within the limit. -/
theorem offers_iff (keyed : outbox.Keyed) (answers : Answers ext ask) {row : Queued} (first : outbox.IsFirst row)
    (kernel : κ) (limit : Int) :
    (∃ answer, (row, answer) ∈ (pushPending ext ask now kernel outbox limit).offered) ↔
      Fits limit (outbox.before row.stream) := by
  rw [← keyed.mem_unpushed first]
  unfold pushPending
  constructor
  · rintro ⟨answer, offered⟩
    rcases foldl_only offered with none | inside
    · cases none
    · exact inside
  · intro inside
    obtain ⟨front, back, split⟩ := List.append_of_mem inside
    have increasing := keyed.unpushed_increasing limit
    have sub := fun other (member : other ∈ outbox.unpushed limit) => unpushed_sub member
    rw [split] at increasing sub
    rw [split]
    refine foldl_offers answers rfl List.not_mem_nil fun other earlier same => ?_
    have held := sub other (List.mem_append_left _ earlier)
    have less := (List.pairwise_append.mp increasing).2.2 other earlier row List.mem_cons_self
    rw [keyed.named _ (List.mem_of_mem_filter held), keyed.named _ (List.mem_of_mem_filter first.1)] at same
    rw [first.place_lt_iff held, same] at less
    exact lt_irrefl _ less

end Keyed

end Outbox

end Stozher.Gateway
