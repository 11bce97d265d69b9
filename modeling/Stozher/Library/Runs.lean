import Mathlib.Data.List.Basic

namespace Stozher.Library

/-- A system that takes one action after another. -/
structure System (σ α : Type) where
  start : σ → Prop
  step : σ → α → σ

namespace System

variable {σ α : Type} (system : System σ α)

def run (state : σ) (actions : List α) : σ :=
  actions.foldl system.step state

def Reachable (state : σ) : Prop :=
  ∃ first actions, system.start first ∧ system.run first actions = state

@[simp] theorem run_nil (state : σ) : system.run state [] = state := rfl

@[simp] theorem run_cons (state : σ) (action : α) (rest : List α) :
    system.run state (action :: rest) = system.run (system.step state action) rest := rfl

theorem run_append (state : σ) (first second : List α) :
    system.run state (first ++ second) = system.run (system.run state first) second :=
  List.foldl_append

variable {system}

theorem Reachable.of_start {state : σ} (first : system.start state) : system.Reachable state :=
  ⟨state, [], first, rfl⟩

theorem Reachable.run {state : σ} (reached : system.Reachable state) (actions : List α) :
    system.Reachable (system.run state actions) := by
  obtain ⟨first, before, start, rfl⟩ := reached
  exact ⟨first, before ++ actions, start, system.run_append first before actions⟩

theorem Reachable.step {state : σ} (reached : system.Reachable state) (action : α) :
    system.Reachable (system.step state action) :=
  reached.run [action]

/-- What every step keeps, a run keeps. -/
theorem run_invariant (system : System σ α) (holds : σ → Prop)
    (keeps : ∀ state action, holds state → holds (system.step state action))
    {state : σ} (now : holds state) (actions : List α) : holds (system.run state actions) := by
  induction actions generalizing state with
  | nil => exact now
  | cons action rest ih => exact ih (keeps state action now)

/-- What holds at the start and is kept by every step from a reachable state holds wherever the
system gets. -/
theorem Reachable.invariant (holds : σ → Prop) (starts : ∀ state, system.start state → holds state)
    (keeps : ∀ state action, system.Reachable state → holds state → holds (system.step state action))
    {state : σ} (reached : system.Reachable state) : holds state := by
  obtain ⟨first, actions, start, rfl⟩ := reached
  have both : system.Reachable (system.run first actions) ∧ holds (system.run first actions) :=
    system.run_invariant (fun s => system.Reachable s ∧ holds s)
      (fun s action known => ⟨known.1.step action, keeps s action known.1 known.2⟩)
      ⟨.of_start start, starts first start⟩ actions
  exact both.2

/-- A relation every step keeps growing relates the ends of a run. -/
theorem run_grows (before : σ → σ → Prop) (same : ∀ state, before state state)
    (further : ∀ a b c, before a b → before b c → before a c)
    (grows : ∀ state action, before state (system.step state action))
    (state : σ) (actions : List α) : before state (system.run state actions) := by
  induction actions generalizing state with
  | nil => exact same state
  | cons action rest ih => exact further _ _ _ (grows state action) (ih _)

/-- What a step makes of its own state and action holds after any run that contains the step. -/
theorem run_invariant_of (system : System σ α) (holds : σ → Prop) {allowed : σ → α → Prop}
    (keeps : ∀ state action, allowed state action → holds state → holds (system.step state action))
    {state : σ} (now : holds state) (actions : List α)
    (each : ∀ before action after, actions = before ++ action :: after →
      allowed (system.run state before) action) : holds (system.run state actions) := by
  induction actions generalizing state with
  | nil => exact now
  | cons action rest ih =>
      refine ih (keeps state action (each [] action rest rfl) now) ?_
      intro before other after split
      exact each (action :: before) other after (by rw [split]; rfl)

/-- What holds of each state of a run. -/
def EachState (system : System σ α) (state : σ) (actions : List α) (holds : σ → Prop) : Prop :=
  ∀ before after, actions = before ++ after → holds (system.run state before)

/-- What each step of a run makes of the state it is taken in. -/
def EachStep (system : System σ α) (state : σ) (actions : List α) (allowed : σ → α → Prop) : Prop :=
  ∀ before action after, actions = before ++ action :: after → allowed (system.run state before) action

theorem EachStep.states {holds : σ → Prop} {allowed : σ → α → Prop} {state : σ} {actions : List α}
    (each : system.EachStep state actions allowed) (now : holds state)
    (keeps : ∀ state action, allowed state action → holds state → holds (system.step state action)) :
    system.EachState state actions holds := by
  intro before after split
  refine system.run_invariant_of holds keeps now before ?_
  intro first action rest same
  refine each first action (rest ++ after) ?_
  rw [split, same, List.append_assoc, List.cons_append]

/-- A condition that is exact for each step is exact for a run. -/
theorem eachStep_iff {holds : σ → Prop} {allowed harmless : σ → α → Prop}
    (exact_ : ∀ state action, system.Reachable state → holds state →
      (allowed state action ↔ holds (system.step state action) ∧ harmless state action))
    {state : σ} (reached : system.Reachable state) (now : holds state) (actions : List α) :
    system.EachStep state actions allowed ↔
      system.EachState state actions holds ∧ system.EachStep state actions harmless := by
  constructor
  · intro each
    have both : system.EachState state actions fun s => system.Reachable s ∧ holds s :=
      each.states ⟨reached, now⟩ fun s action allows known =>
        ⟨known.1.step action, ((exact_ s action known.1 known.2).mp allows).1⟩
    refine ⟨fun before after split => (both before after split).2, ?_⟩
    intro before action after split
    obtain ⟨reaches, holds⟩ := both before (action :: after) split
    exact ((exact_ _ action reaches holds).mp (each before action after split)).2
  · intro known before action after split
    refine (exact_ _ action (reached.run before) (known.1 before (action :: after) split)).mpr ⟨?_, ?_⟩
    · have next := known.1 (before ++ [action]) after (by rw [split, List.append_assoc]; rfl)
      rw [run_append] at next
      exact next
    · exact known.2 before action after split

theorem eachStep_iff_states {holds : σ → Prop} {allowed : σ → α → Prop}
    (exact_ : ∀ state action, system.Reachable state → holds state →
      (allowed state action ↔ holds (system.step state action)))
    {state : σ} (reached : system.Reachable state) (now : holds state) (actions : List α) :
    system.EachStep state actions allowed ↔ system.EachState state actions holds := by
  have both := @eachStep_iff _ _ system holds allowed (fun _ _ => True)
    (fun s action reaches known => (exact_ s action reaches known).trans (and_true _).symm.to_iff) state reached now actions
  rw [both]
  exact and_iff_left fun _ _ _ _ => True.intro

variable {allowed : σ → α → Prop} {state : σ}

theorem eachStep_nil : system.EachStep state [] allowed := by
  intro before action after split
  cases before <;> cases split

theorem eachStep_cons {action : α} {rest : List α} : system.EachStep state (action :: rest) allowed ↔
    allowed state action ∧ system.EachStep (system.step state action) rest allowed := by
  constructor
  · intro each
    refine ⟨each [] action rest rfl, ?_⟩
    intro before next after split
    exact each (action :: before) next after (by rw [split]; rfl)
  · intro both before next after split
    cases before with
    | nil =>
        cases split
        exact both.1
    | cons first others =>
        rw [List.cons_append, List.cons.injEq] at split
        obtain ⟨rfl, split⟩ := split
        exact both.2 others next after split

/-- Whether each step of a run passes a check. -/
def allSteps (system : System σ α) (check : σ → α → Bool) (state : σ) : List α → Bool
  | [] => true
  | action :: rest => check state action && allSteps system check (system.step state action) rest

theorem eachStep_of_allSteps {check : σ → α → Bool} {actions : List α}
    (all : system.allSteps check state actions = true) :
    system.EachStep state actions fun state action => check state action = true := by
  induction actions generalizing state with
  | nil => exact eachStep_nil
  | cons action rest ih =>
      unfold allSteps at all
      rw [Bool.and_eq_true] at all
      exact eachStep_cons.mpr ⟨all.1, ih all.2⟩

end System

end Stozher.Library
