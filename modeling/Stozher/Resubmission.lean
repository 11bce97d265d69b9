import Stozher.QueueBounds
import Stozher.Gateway.Approval

namespace Stozher

open Library Ingest

variable {ext : External} {formatFinite : Binary64 → String} {config : Config} {limit : RateLimit}

/-- Whether a submission is told to come back later. -/
def Reply.isLimited : Reply → Bool
  | .limited _ _ => true
  | _ => false

namespace Desk

variable {desk : Desk}

/-- What a step answers. -/
def answered (ext : External) (formatFinite : Binary64 → String) (config : Config) (limit : RateLimit) (desk : Desk)
    (action : DeskAction) : List Answered :=
  (desk.step ext formatFinite config limit action).answers.drop desk.answers.length

/-- How many requests of its subject a submission would find in the window that ends with it. -/
def parkedBy (desk : Desk) (asked : Asked) : Nat :=
  desk.world.store.gateRequestsSince asked.request.subject asked.since

/-- A step that tells no submission of a queued request to come back later, where the request's subject is not
above its cap. -/
def NeverLimits (ext : External) (formatFinite : Binary64 → String) (config : Config) (limit : RateLimit)
    (desk : Desk) (action : DeskAction) : Prop :=
  ∀ answered ∈ desk.answered ext formatFinite config limit action, ∀ asked, answered.asked = some asked →
    desk.queued asked.request.requestHash = true → desk.parkedBy asked ≤ limit.perSubject →
      answered.reply.isLimited = false

end Desk

/-- What a submission finds when it counts: a subject that is not at its cap, where it did not find its request
and the request has been queued since; and few enough mismatches. -/
def Pending.Clear (limit : RateLimit) (desk : Desk) : Pending → Prop
  | .count asked _ => desk.queued asked.request.requestHash = true → desk.parkedBy asked ≠ limit.perSubject
  | .queue asked _ (some _) =>
      desk.queued asked.request.requestHash = true → desk.parkedBy asked ≠ limit.perSubject
  | .mismatch asked _ =>
      desk.queued asked.request.requestHash = true → desk.parkedBy asked ≤ limit.perSubject →
        desk.world.store.argumentMismatchesSince asked.post.submittedBy asked.since < limit.perSubject
  | _ => True

namespace Desk

variable {desk : Desk} {asked : Asked} {shown : Option Jcs.Canonical}

/-- A step that finishes no count of a submission that is not clear. -/
def Clear (limit : RateLimit) (desk : Desk) (action : DeskAction) : Prop :=
  ∀ index pending, action = .perform index → desk.pending[index]? = some pending → pending.Clear limit desk

theorem answered_eq {action : DeskAction} {more : List Answered}
    (answers : (desk.step ext formatFinite config limit action).answers = desk.answers ++ more) :
    desk.answered ext formatFinite config limit action = more := by
  unfold answered
  rw [answers, List.drop_left]

theorem neverLimits_nil {action : DeskAction}
    (answers : (desk.step ext formatFinite config limit action).answers = desk.answers) :
    NeverLimits ext formatFinite config limit desk action := by
  intro answered member
  rw [answered_eq (answers.trans (List.append_nil _).symm)] at member
  exact absurd member List.not_mem_nil

theorem neverLimits_singleton {action : DeskAction} {post : Post} {reply : Reply}
    (answers : (desk.step ext formatFinite config limit action).answers = desk.answers ++ [⟨post, some asked, reply⟩]) :
    NeverLimits ext formatFinite config limit desk action ↔
      (desk.queued asked.request.requestHash = true → desk.parkedBy asked ≤ limit.perSubject →
        reply.isLimited = false) := by
  unfold NeverLimits
  rw [answered_eq answers]
  constructor
  · intro never queued under
    exact never _ List.mem_cons_self asked rfl queued under
  · intro known answered member other isAsked
    rw [List.mem_singleton.mp member] at isAsked ⊢
    cases isAsked
    exact known

theorem read_refuses_limited (post : Post) : Refuses (fun reply => reply.isLimited = false) (read ext limit post) := by
  unfold read
  refine refuses_bind (refuses_mapError fun _ => rfl) fun _ => ?_
  refine refuses_bind (refuses_mapError fun _ => rfl) fun _ => ?_
  exact refuses_bind (refuses_mapError fun _ => rfl) fun _ => refuses_pure _

theorem post_neverLimits (post : Post) : NeverLimits ext formatFinite config limit desk (.post post) := by
  cases isRead : read ext limit post with
  | error reply =>
      have answers : (desk.step ext formatFinite config limit (.post post)).answers =
          desk.answers ++ [⟨post, none, reply⟩] := by
        show (desk.postGateRequest ext formatFinite limit post).answers = _
        unfold postGateRequest
        rw [isRead]
        rfl
      intro answered member asked isAsked
      rw [answered_eq answers, List.mem_singleton] at member
      rw [member] at isAsked
      cases isAsked
  | ok asked =>
      cases checked : Desk.shown ext formatFinite asked with
      | ok arguments =>
          apply neverLimits_nil
          show (desk.postGateRequest ext formatFinite limit post).answers = _
          unfold postGateRequest
          rw [isRead]
          dsimp only
          rw [checked]
          rfl
      | error e =>
          by_cases mismatch : e.code = GateQueue.argumentsHashMismatch
          · apply neverLimits_nil
            show (desk.postGateRequest ext formatFinite limit post).answers = _
            unfold postGateRequest
            rw [isRead]
            dsimp only
            rw [checked]
            dsimp only
            rw [if_pos mismatch]
            rfl
          · refine (@neverLimits_singleton ext formatFinite config limit desk asked _ post (refusal e) ?_).mpr
              fun _ _ => rfl
            show (desk.postGateRequest ext formatFinite limit post).answers = _
            unfold postGateRequest
            rw [isRead]
            dsimp only
            rw [checked]
            dsimp only
            rw [if_neg mismatch]
            rfl

section

variable {index : Nat}

theorem look_neverLimits (found : desk.pending[index]? = some (.look asked shown)) :
    NeverLimits ext formatFinite config limit desk (.perform index) := by
  apply neverLimits_nil
  show (desk.perform ext formatFinite config limit index).answers = _
  unfold perform
  rw [found]
  dsimp only
  unfold performLook
  split
  · rfl
  · rfl

theorem record_neverLimits {error : Error} (found : desk.pending[index]? = some (.record asked error)) :
    NeverLimits ext formatFinite config limit desk (.perform index) := by
  have answers : ∃ reply : Reply, reply.isLimited = false ∧
      (desk.step ext formatFinite config limit (.perform index)).answers =
        desk.answers ++ [⟨asked.post, some asked, reply⟩] := by
    show ∃ reply : Reply, _ ∧ (desk.perform ext formatFinite config limit index).answers = _
    unfold perform
    rw [found]
    dsimp only
    unfold performRecord
    dsimp only
    split
    · exact ⟨refusal error, rfl, rfl⟩
    · rename_i e _
      exact ⟨.unavailable e.detail, rfl, rfl⟩
  obtain ⟨reply, other, answers⟩ := answers
  exact (neverLimits_singleton answers).mpr fun _ _ => other

/-- A count that is answered when it is full, and goes on when it is not. -/
theorem neverLimits_iff_of_count {action : DeskAction} {full : Prop}
    (answers : full → ∃ reply : Reply, reply.isLimited = true ∧
      (desk.step ext formatFinite config limit action).answers = desk.answers ++ [⟨asked.post, some asked, reply⟩])
    (goesOn : ¬ full → (desk.step ext formatFinite config limit action).answers = desk.answers) :
    NeverLimits ext formatFinite config limit desk action ↔
      (desk.queued asked.request.requestHash = true → desk.parkedBy asked ≤ limit.perSubject → ¬ full) := by
  by_cases isFull : full
  · obtain ⟨reply, limited, answers⟩ := answers isFull
    rw [neverLimits_singleton answers, limited]
    constructor
    · intro never queued under
      cases never queued under
    · intro clear queued under
      exact absurd isFull (clear queued under)
  · exact iff_of_true (neverLimits_nil (goesOn isFull)) fun _ _ => isFull

theorem count_neverLimits_iff (found : desk.pending[index]? = some (.count asked shown)) :
    NeverLimits ext formatFinite config limit desk (.perform index) ↔ (Pending.count asked shown).Clear limit desk := by
  have counts : NeverLimits ext formatFinite config limit desk (.perform index) ↔
      (desk.queued asked.request.requestHash = true → desk.parkedBy asked ≤ limit.perSubject →
        ¬ limit.perSubject ≤ desk.parkedBy asked) := by
    apply neverLimits_iff_of_count
    · intro full
      show ∃ reply : Reply, _ ∧ (desk.perform ext formatFinite config limit index).answers = _
      unfold perform
      rw [found]
      dsimp only
      unfold performCount
      unfold parkedBy at full
      dsimp only
      rw [if_pos full]
      exact ⟨_, rfl, rfl⟩
    · intro room
      show (desk.perform ext formatFinite config limit index).answers = _
      unfold perform
      rw [found]
      dsimp only
      unfold performCount
      unfold parkedBy at room
      dsimp only
      rw [if_neg room]
      rfl
  rw [counts]
  constructor
  · intro never queued atCap
    exact never queued (Nat.le_of_eq atCap) (Nat.le_of_eq atCap.symm)
  · intro clear queued under full
    exact clear queued (Nat.le_antisymm under full)

theorem mismatch_neverLimits_iff {error : Error} (found : desk.pending[index]? = some (.mismatch asked error)) :
    NeverLimits ext formatFinite config limit desk (.perform index) ↔
      (Pending.mismatch asked error).Clear limit desk := by
  have counts : NeverLimits ext formatFinite config limit desk (.perform index) ↔
      (desk.queued asked.request.requestHash = true → desk.parkedBy asked ≤ limit.perSubject →
        ¬ limit.perSubject ≤ desk.world.store.argumentMismatchesSince asked.post.submittedBy asked.since) := by
    apply neverLimits_iff_of_count
    · intro full
      show ∃ reply : Reply, _ ∧ (desk.perform ext formatFinite config limit index).answers = _
      unfold perform
      rw [found]
      dsimp only
      unfold performMismatch
      dsimp only
      rw [if_pos full]
      exact ⟨_, rfl, rfl⟩
    · intro room
      show (desk.perform ext formatFinite config limit index).answers = _
      unfold perform
      rw [found]
      dsimp only
      unfold performMismatch
      dsimp only
      rw [if_neg room]
      rfl
  rw [counts]
  unfold Pending.Clear
  simp only [Nat.not_le]

/-- Where the count leaves room, the transaction fails for another reason, if it does. -/
theorem queueGateRequest_refuses {cap : Option (Nat × String)}
    (room : desk.world.store.checkParked asked.request.subject cap = .ok ()) :
    Refuses (fun e => e.code ≠ "gate-rate-limited") (desk.queueGateRequest asked shown cap) := by
  have write : Refuses (fun e => e.code ≠ "gate-rate-limited") (Jcs.canonicalize asked.request.request) := by
    unfold Jcs.canonicalize
    exact refuses_bind (Jcs.writeValue_refuses (by decide) _) fun _ => refuses_pure _
  unfold queueGateRequest Store.queueGateRequest
  rw [room, ok_bind]
  apply refuses_bind
  · apply refuses_bind write
    intro canonical
    exact refuses_ite (refuses_pure _) (refuses_pure _)
  · intro result
    obtain ⟨store, fresh⟩ := result
    cases fresh with
    | false => exact refuses_pure _
    | true =>
        cases shown with
        | none => exact refuses_pure _
        | some arguments => exact refuses_bind (refuses_require (by decide)) fun _ => refuses_pure _

theorem checkParked_some {store : Store} {subject since : String} {perSubject : Nat} :
    (store.checkParked subject (some (perSubject, since)) = .ok () ↔
        store.gateRequestsSince subject since < perSubject) ∧
      Refuses (fun e => e.code = "gate-rate-limited") (store.checkParked subject (some (perSubject, since))) := by
  unfold Store.checkParked Store.gateRequestsSince
  dsimp only
  exact ⟨require_eq_ok, refuses_require rfl⟩

theorem queue_answers {cap : Option (Nat × String)} (found : desk.pending[index]? = some (.queue asked shown cap)) :
    ∃ reply : Reply, (desk.step ext formatFinite config limit (.perform index)).answers =
        desk.answers ++ [⟨asked.post, some asked, reply⟩] ∧
      (reply.isLimited = false ↔ desk.world.store.checkParked asked.request.subject cap = .ok ()) := by
  show ∃ reply : Reply, (desk.perform ext formatFinite config limit index).answers = _ ∧ _
  unfold perform
  rw [found]
  dsimp only
  unfold performQueue
  cases parked : desk.world.store.checkParked asked.request.subject cap with
  | error e =>
      have code : e.code = "gate-rate-limited" := by
        cases cap with
        | none => cases parked
        | some cap => exact checkParked_some.2 e parked
      have fails : Desk.queueGateRequest { desk with pending := desk.pending.eraseIdx index } asked shown cap =
          .error e := by
        unfold queueGateRequest Store.queueGateRequest
        rw [parked]
        rfl
      rw [fails]
      dsimp only
      rw [if_pos code]
      exact ⟨_, rfl, iff_of_false Bool.noConfusion fun absurdity => by cases absurdity⟩
  | ok checked =>
      cases done : Desk.queueGateRequest { desk with pending := desk.pending.eraseIdx index } asked shown cap with
      | ok result =>
          obtain ⟨next, fresh⟩ := result
          have same : next.answers = desk.answers := by
            obtain ⟨_, rfl⟩ | ⟨_, _, _, _, _, rfl⟩ := queueGateRequest_cases done
            · rfl
            · rfl
          refine ⟨.queued asked.request.requestHash asked.request.notAfter !fresh, ?_, iff_of_true rfl rfl⟩
          show next.answers ++ _ = _
          rw [same]
      | error e =>
          have other : e.code ≠ "gate-rate-limited" :=
            @queueGateRequest_refuses { desk with pending := desk.pending.eraseIdx index } asked shown cap parked e done
          dsimp only
          rw [if_neg other]
          exact ⟨_, rfl, iff_of_true rfl rfl⟩

theorem queue_neverLimits_iff {cap : Option (Nat × String)}
    (found : desk.pending[index]? = some (.queue asked shown cap))
    (known : (Pending.queue asked shown cap).Known ext limit desk) :
    NeverLimits ext formatFinite config limit desk (.perform index) ↔
      (Pending.queue asked shown cap).Clear limit desk := by
  obtain ⟨reply, answers, room⟩ := @queue_answers ext formatFinite config limit desk asked shown index cap found
  rw [neverLimits_singleton answers, room]
  cases cap with
  | none => exact iff_of_true (fun _ _ => rfl) True.intro
  | some cap =>
      obtain ⟨_, rfl⟩ := known
      rw [checkParked_some.1]
      unfold Pending.Clear
      dsimp only
      unfold parkedBy
      constructor
      · intro never queued atCap
        exact absurd (never queued (Nat.le_of_eq atCap)) (Nat.not_lt.mpr (Nat.le_of_eq atCap.symm))
      · intro clear queued under
        exact Nat.lt_of_le_of_ne under (clear queued)

end

/-- A step tells a submission of a queued request to come back just when it is one that counts too late. -/
theorem neverLimits_iff (ok : Ok ext limit desk) (action : DeskAction) :
    NeverLimits ext formatFinite config limit desk action ↔ Clear limit desk action := by
  have still : (∀ index, action ≠ .perform index) → Clear limit desk action := by
    intro other index pending performs
    exact absurd performs (other index)
  cases action with
  | post post => exact iff_of_true (post_neverLimits post) (still fun _ => DeskAction.noConfusion)
  | abandon index => exact iff_of_true (neverLimits_nil rfl) (still fun _ => DeskAction.noConfusion)
  | kernel action elsewhere => exact iff_of_true (neverLimits_nil rfl) (still fun _ => DeskAction.noConfusion)
  | erase now => exact iff_of_true (neverLimits_nil rfl) (still fun _ => DeskAction.noConfusion)
  | perform index =>
      cases found : desk.pending[index]? with
      | none =>
          refine iff_of_true (neverLimits_nil ?_) ?_
          · show (desk.perform ext formatFinite config limit index).answers = _
            unfold perform
            rw [found]
          · intro other pending same isPending
            cases same
            rw [found] at isPending
            cases isPending
      | some pending =>
          have clear_iff : Clear limit desk (.perform index) ↔ pending.Clear limit desk := by
            constructor
            · intro clear
              exact clear index pending rfl found
            · intro clear other pending' same isPending
              cases same
              rw [found] at isPending
              cases isPending
              exact clear
          rw [clear_iff]
          cases pending with
          | look asked shown => exact iff_of_true (look_neverLimits found) True.intro
          | count asked shown => exact count_neverLimits_iff found
          | queue asked shown cap => exact queue_neverLimits_iff found (ok.pending _ (List.mem_of_getElem? found))
          | mismatch asked error => exact mismatch_neverLimits_iff found
          | record asked error => exact iff_of_true (record_neverLimits found) True.intro

/-- No submission of a queued request is told to come back, in a run of the gate route, exactly when none counts
too late. -/
theorem never_limited_iff (actions : List DeskAction) :
    (gateRoute ext formatFinite config limit).EachStep initial actions (NeverLimits ext formatFinite config limit) ↔
      (gateRoute ext formatFinite config limit).EachStep initial actions (Clear limit) := by
  have ok : ∀ before, Ok ext limit ((gateRoute ext formatFinite config limit).run initial before) := by
    intro before
    exact ok_of_reachable ((System.Reachable.of_start rfl).run before)
  constructor
  · intro never before action after split
    exact (neverLimits_iff (ok before) action).mp (never before action after split)
  · intro clear before action after split
    exact (neverLimits_iff (ok before) action).mpr (clear before action after split)

end Desk

end Stozher

namespace Stozher.Deployment

open Library Library.Text Recorded

/-- The submission twice, each looked for before either is queued. -/
def parkingTwice : List DeskAction :=
  [.post mergePost, .post mergePost, .perform 0, .perform 0, .perform 0, .perform 1]

/-- What a submission that has yet to count finds. -/
def found (desk : Desk) : Pending → Option (String × Bool × Nat)
  | .count asked _ => some (asked.request.requestHash, desk.queued asked.request.requestHash, desk.parkedBy asked)
  | _ => none

/-- What the second of the two finds. -/
theorem waiting_seen : (desk parkingTwice).pending.map (found (desk parkingTwice)) =
    [some (gatewayRequest.digest, true, 1)] := by
  decide +kernel

/-- A submission that was looked for before its twin was queued is told to come back later. -/
theorem twin_limited :
    ¬ ∀ actions, (gateRoute ext integerText config oneAtATime).EachStep .initial actions
      (Desk.NeverLimits ext integerText config oneAtATime) := by
  intro claim
  have never := claim (parkingTwice ++ [.perform 0]) parkingTwice (.perform 0) [] rfl
  have seen := waiting_seen
  rw [List.map_eq_singleton_iff] at seen
  obtain ⟨pending, isOnly, isFound⟩ := seen
  have first : (desk parkingTwice).pending[0]? = some pending := by
    rw [isOnly]
    rfl
  cases pending with
  | count asked shown =>
      unfold found at isFound
      simp only [Option.some.injEq, Prod.mk.injEq] at isFound
      obtain ⟨_, queued, parked⟩ := isFound
      exact (Desk.count_neverLimits_iff first).mp never queued parked
  | look asked shown => cases isFound
  | queue asked shown cap => cases isFound
  | mismatch asked error => cases isFound
  | record asked error => cases isFound

end Stozher.Deployment
