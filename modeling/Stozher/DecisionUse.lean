import Stozher.Gateway.Moves
import Stozher.Library.Outputs

namespace Stozher.Gateway

open Library

variable {ext : External} {checkShape : Value → Result Unit} {config : GatewayConfig} {classifier : Classifier}

namespace Enforcer

/-- The decision a step acts on: it forwards the call the decision is about, or chains the envelope of the
seed. -/
def spending (enforcer : Enforcer) (action : Action) : Option Value :=
  match action with
  | .perform index _ => enforcer.tasks[index]?.bind Task.spends
  | _ => none

/-- The claims the tasks under way go on the strength of. -/
def claims (enforcer : Enforcer) : List String :=
  enforcer.tasks.filterMap Task.claimed

variable {enforcer : Enforcer}

theorem perm_eraseIdx {index : Nat} {task : Task} (found : enforcer.tasks[index]? = some task) :
    enforcer.tasks.Perm (task :: enforcer.tasks.eraseIdx index) := by
  obtain ⟨inside, rfl⟩ := List.getElem?_eq_some_iff.mp found
  exact (List.getElem_cons_eraseIdx_perm inside).symm

theorem count_claims {index : Nat} {task : Task} (found : enforcer.tasks[index]? = some task) (hash : String) :
    enforcer.claims.count hash = task.claimed.toList.count hash +
      ((enforcer.tasks.eraseIdx index).filterMap Task.claimed).count hash := by
  unfold claims
  rw [((perm_eraseIdx found).filterMap Task.claimed).count_eq hash, ← List.count_append]
  congr 1
  cases named : task.claimed with
  | none => exact List.filterMap_cons_none named
  | some hash => exact List.filterMap_cons_some named

/-- A call that comes in waits with nothing claimed and nothing written. -/
theorem call_pushes {session : Session} {call : Call} {policy : Policy} {required : Bool} :
    enforcer.call ext config classifier session call policy required = enforcer ∨
      ∃ task, enforcer.call ext config classifier session call policy required = enforcer.push task ∧
        task.claimed = none ∧ task.Named ∧ task.holds = [] := by
  unfold Enforcer.call
  dsimp only
  split
  · split
    · exact .inl rfl
    · exact .inr ⟨_, rfl, rfl, trivial, rfl⟩
  · split
    · exact .inr ⟨_, rfl, rfl, trivial, rfl⟩
    · split
      · exact .inr ⟨_, rfl, rfl, trivial, rfl⟩
      · split
        · split
          · exact .inr ⟨_, rfl, rfl, trivial, rfl⟩
          · exact .inr ⟨_, rfl, rfl, trivial, rfl⟩
        · exact .inr ⟨_, rfl, rfl, trivial, rfl⟩

/-- What was acted on and what is claimed are different requests, each of them recorded as claimed. -/
structure Claims (earlier : List Value) (enforcer : Enforcer) : Prop where
  named : ∀ task ∈ enforcer.tasks, task.Named
  once : ∀ hash, (earlier.map decisionHash).count hash + enforcer.claims.count hash ≤ 1
  seen : ∀ hash, 0 < (earlier.map decisionHash).count hash + enforcer.claims.count hash →
    hash ∈ enforcer.store.gateSeen

variable {earlier : List Value}

namespace Claims

theorem initial : Claims [] Enforcer.initial := by
  refine ⟨fun _ none => absurd none List.not_mem_nil, fun hash => Nat.zero_le _, fun hash positive => ?_⟩
  exact absurd positive (Nat.lt_irrefl 0)

/-- A task that claims nothing may be left to do. -/
theorem push (claims : Claims earlier enforcer) {task : Task} (unclaimed : task.claimed = none)
    (named : task.Named) : Claims earlier (enforcer.push task) := by
  have same : (enforcer.push task).claims = enforcer.claims := by
    unfold Enforcer.claims Enforcer.push
    rw [List.filterMap_append, List.filterMap_cons_none unclaimed, List.filterMap_nil, List.append_nil]
  refine ⟨?_, ?_, ?_⟩
  · intro other member
    rcases List.mem_append.mp member with held | new
    · exact claims.named other held
    · rw [List.mem_singleton.mp new]
      exact named
  · rw [same]
    exact claims.once
  · rw [same]
    exact claims.seen

theorem store (claims : Claims earlier enforcer) {store : Local} (same : store.gateSeen = enforcer.store.gateSeen) :
    Claims earlier { enforcer with store } := by
  refine ⟨claims.named, claims.once, fun hash positive => ?_⟩
  show hash ∈ store.gateSeen
  rw [same]
  exact claims.seen hash positive

/-- What is not done is not acted on. -/
theorem abandon (claims : Claims earlier enforcer) (index : Nat) :
    Claims earlier { enforcer with tasks := enforcer.tasks.eraseIdx index } := by
  have fewer : ∀ hash, ((enforcer.tasks.eraseIdx index).filterMap Task.claimed).count hash ≤
      enforcer.claims.count hash := by
    intro hash
    exact ((List.eraseIdx_sublist _ _).filterMap Task.claimed).count_le hash
  refine ⟨fun task held => claims.named task (List.mem_of_mem_eraseIdx held), ?_, ?_⟩
  · intro hash
    exact (Nat.add_le_add_left (fewer hash) _).trans (claims.once hash)
  · intro hash positive
    exact claims.seen hash (positive.trans_le (Nat.add_le_add_left (fewer hash) _))

/-- What a task claims was claimed by none, and what it acts on it had claimed. -/
theorem perform (claims : Claims earlier enforcer) {index : Nat} {task : Task} {reading : Reading}
    (found : enforcer.tasks[index]? = some task) :
    Claims (earlier ++ task.spends.toList) (Enforcer.performTask ext checkShape config classifier
      { enforcer with tasks := enforcer.tasks.eraseIdx index } task reading) := by
  have named := claims.named task (List.mem_of_getElem? found)
  obtain ⟨pushed, won, written, move⟩ := @performTask_moves ext checkShape config classifier
    { enforcer with tasks := enforcer.tasks.eraseIdx index } task reading named
  generalize Enforcer.performTask ext checkShape config classifier
    { enforcer with tasks := enforcer.tasks.eraseIdx index } task reading = after at move ⊢
  have counted : ∀ hash, ((earlier ++ task.spends.toList).map decisionHash).count hash + after.claims.count hash ≤
      (earlier.map decisionHash).count hash + enforcer.claims.count hash + won.count hash := by
    intro hash
    have spent : (task.spends.toList.map decisionHash).count hash =
        (task.spends.map decisionHash).toList.count hash := by
      cases task.spends with
      | none => rfl
      | some decision => rfl
    have left : after.claims.count hash = ((enforcer.tasks.eraseIdx index).filterMap Task.claimed).count hash +
        (pushed.filterMap Task.claimed).count hash := by
      unfold Enforcer.claims
      rw [move.tasks, List.filterMap_append, List.count_append]
    have balance := move.claims hash
    rw [List.map_append, List.count_append, spent, left, count_claims found]
    omega
  refine ⟨?_, ?_, ?_⟩
  · intro next member
    rw [move.tasks] at member
    rcases List.mem_append.mp member with held | new
    · exact claims.named next (List.mem_of_mem_eraseIdx held)
    · exact move.named next new
  · intro hash
    by_cases free : hash ∈ won
    · have unseen : ¬ 0 < (earlier.map decisionHash).count hash + enforcer.claims.count hash :=
        fun positive => move.free hash free (claims.seen hash positive)
      have once : won.count hash ≤ won.length := List.count_le_length
      have few := move.few
      have counts := counted hash
      omega
    · have none := List.count_eq_zero.mpr free
      have once := claims.once hash
      have counts := counted hash
      omega
  · intro hash positive
    rw [move.gateSeen]
    by_cases free : hash ∈ won
    · exact List.mem_append_right _ free
    · have none := List.count_eq_zero.mpr free
      have counts := counted hash
      exact List.mem_append_left _ (claims.seen hash (by omega))

theorem step (claims : Claims earlier enforcer) (action : Action) :
    Claims (earlier ++ (enforcer.spending action).toList) (enforcer.step ext checkShape config classifier action) := by
  have still : ∀ {after}, Claims earlier after → Claims (earlier ++ ([] : List Value)) after := by
    intro after kept
    rw [List.append_nil]
    exact kept
  cases action with
  | perform index reading =>
      unfold spending Enforcer.step
      dsimp only
      cases found : enforcer.tasks[index]? with
      | none => exact still claims
      | some task => exact claims.perform found
  | call session call policy required =>
      refine still ?_
      show Claims earlier (enforcer.call ext config classifier session call policy required)
      rcases @call_pushes ext config classifier enforcer session call policy required with
        same | ⟨task, same, unclaimed, named, _⟩
      · rw [same]
        exact claims
      · rw [same]
        exact claims.push unclaimed named
  | abandon index => exact still (claims.abandon index)
  | decide => exact still (claims.store rfl)
  | decideSeed => exact still (claims.store rfl)
  | record => exact still (claims.store rfl)
  | applySeeds => exact still (claims.push rfl trivial)
  | recoverIntents => exact still (claims.push rfl trivial)

end Claims

end Enforcer

/-- Over any run, no two decisions that are acted on are about the same request. -/
theorem one_decision_one_use (actions : List Action) :
    (((enforcement ext checkShape config classifier).outputs Enforcer.spending .initial actions).map
      decisionHash).Nodup := by
  have claims := (enforcement ext checkShape config classifier).outputs_invariant
    (fun earlier enforcer => enforcer.Claims earlier) (fun _ _ action claims => claims.step action)
    Enforcer.Claims.initial actions
  rw [List.nodup_iff_count_le_one]
  intro hash
  exact (Nat.le_add_right _ _).trans (claims.once hash)

end Stozher.Gateway
