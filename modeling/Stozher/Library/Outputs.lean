import Mathlib.Data.List.Induction
import Mathlib.Data.List.Nodup
import Stozher.Library.Runs

namespace Stozher.Library.System

variable {σ α ω : Type}

/-- What the steps of a run put out, in order. -/
def outputs (system : System σ α) (out : σ → α → Option ω) (state : σ) (actions : List α) : List ω :=
  match actions with
  | [] => []
  | action :: rest => (out state action).toList ++ system.outputs out (system.step state action) rest

variable {system : System σ α} {out : σ → α → Option ω}

theorem outputs_append (state : σ) (first second : List α) :
    system.outputs out state (first ++ second) =
      system.outputs out state first ++ system.outputs out (system.run state first) second := by
  induction first generalizing state with
  | nil => rfl
  | cons action rest ih =>
      rw [List.cons_append, outputs, outputs, run_cons, ih, List.append_assoc]

theorem outputs_singleton (state : σ) (action : α) :
    system.outputs out state [action] = (out state action).toList :=
  List.append_nil _

theorem outputs_concat (state : σ) (actions : List α) (action : α) :
    system.outputs out state (actions ++ [action]) =
      system.outputs out state actions ++ (out (system.run state actions) action).toList := by
  rw [outputs_append, outputs_singleton]

/-- What every step keeps of a state and of what was put out before it, a run keeps. -/
theorem outputs_invariant (holds : List ω → σ → Prop)
    (keeps : ∀ earlier state action, holds earlier state →
      holds (earlier ++ (out state action).toList) (system.step state action))
    {state : σ} (now : holds [] state) (actions : List α) :
    holds (system.outputs out state actions) (system.run state actions) := by
  have general : ∀ actions earlier state, holds earlier state →
      holds (earlier ++ system.outputs out state actions) (system.run state actions) := by
    intro actions
    induction actions with
    | nil =>
        intro earlier state now
        rw [outputs, List.append_nil]
        exact now
    | cons action rest ih =>
        intro earlier state now
        rw [outputs, run_cons, ← List.append_assoc]
        exact ih _ _ (keeps earlier state action now)
  exact general actions [] state now

/-- A run puts nothing out twice just when each of its steps puts out something new. -/
theorem outputs_nodup_iff {state : σ} {actions : List α} :
    (system.outputs out state actions).Nodup ↔
      ∀ before action after, actions = before ++ action :: after →
        ∀ output, out (system.run state before) action = some output →
          output ∉ system.outputs out state before := by
  constructor
  · intro distinct before action after split output isOutput earlier
    rw [split, List.append_cons, outputs_append, outputs_concat, isOutput] at distinct
    have first := (List.nodup_append.mp distinct).1
    exact (List.nodup_append.mp first).2.2 output earlier output (List.mem_singleton_self output) rfl
  · intro new
    induction actions using List.reverseRecOn with
    | nil => exact List.nodup_nil
    | append_singleton actions action ih =>
        have before := ih fun front other back split => new front other (back ++ [action]) (by
          rw [split, List.append_assoc, List.cons_append])
        rw [outputs_concat]
        cases isOutput : out (system.run state actions) action with
        | none =>
            rw [Option.toList_none, List.append_nil]
            exact before
        | some output =>
            refine List.nodup_append.mpr ⟨before, List.nodup_singleton output, ?_⟩
            rintro earlier inside other same rfl
            rw [List.mem_singleton.mp same] at inside
            exact new actions action [] rfl output isOutput inside

end Stozher.Library.System
