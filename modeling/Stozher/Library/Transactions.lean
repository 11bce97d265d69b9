import Mathlib.Logic.Relation
import Stozher.Library.Runs

namespace Stozher.Library

/-- What is committed, and the transaction that holds the lock: its writer, its own copy, and how far it has got. -/
structure Shared (ω σ κ : Type) where
  stored : σ
  writing : Option (ω × σ × κ)

/-- What can happen to a database with one writer's lock. -/
inductive Turn (ω α : Type) where
  | start (writer : ω) (request : α)
  | advance (writer : ω)
  | commit (writer : ω)
  | stop (lost : ω → Bool)

/-- The transactions of a database: where the one of a request starts, what its next statement does or that it is
refused, and where it may commit. -/
structure Transactions (σ κ α : Type) where
  first : α → κ
  next : σ → κ → Option (σ × κ)
  final : κ → Bool

namespace Transactions

variable {ω σ κ α : Type} (transactions : Transactions σ κ α)

/-- The statements of a transaction, one after another. -/
def Gets : σ × κ → σ × κ → Prop :=
  Relation.ReflTransGen fun before after => transactions.next before.1 before.2 = some after

/-- Whatever transaction is under way is that of an allowed request, over what is committed. -/
def Sound (allowed : α → Prop) (shared : Shared ω σ κ) : Prop :=
  ∀ writer copy point, shared.writing = some (writer, copy, point) →
    ∃ request, allowed request ∧ transactions.Gets (shared.stored, transactions.first request) (copy, point)

variable {transactions} in
theorem Sound.mono {allowed wider : α → Prop} {shared : Shared ω σ κ} (sound : transactions.Sound allowed shared)
    (widens : ∀ request, allowed request → wider request) : transactions.Sound wider shared := by
  intro writer copy point writing
  obtain ⟨request, may, gets⟩ := sound writer copy point writing
  exact ⟨request, widens request may, gets⟩

variable {transactions} in
theorem Sound.of_free {allowed : α → Prop} {shared : Shared ω σ κ} (free : shared.writing = none) :
    transactions.Sound allowed shared := by
  intro writer copy point writing
  rw [free] at writing
  cases writing

variable {transactions} in
/-- What every statement keeps, a transaction keeps. -/
theorem Gets.invariant {holds : σ → κ → Prop}
    (keeps : ∀ copy point later further, holds copy point → transactions.next copy point = some (later, further) →
      holds later further)
    {copy later : σ} {point further : κ} (gets : transactions.Gets (copy, point) (later, further))
    (now : holds copy point) : holds later further := by
  have each : ∀ reached, transactions.Gets (copy, point) reached → holds reached.1 reached.2 := by
    intro reached before
    induction before with
    | refl => exact now
    | tail _ moves ih => exact keeps _ _ _ _ ih moves
  exact each (later, further) gets

variable [DecidableEq ω]

def advance (writer : ω) (copy : σ) (point : κ) : Option (ω × σ × κ) :=
  (transactions.next copy point).map fun (copy, point) => (writer, copy, point)

/-- A transaction that is refused or lost leaves what was committed. -/
def step (shared : Shared ω σ κ) (turn : Turn ω α) : Shared ω σ κ :=
  match turn, shared.writing with
  | .start writer request, none =>
      { shared with writing := some (writer, shared.stored, transactions.first request) }
  | .advance writer, some (holder, copy, point) =>
      if holder = writer then { shared with writing := transactions.advance writer copy point } else shared
  | .commit writer, some (holder, copy, point) =>
      if holder = writer ∧ transactions.final point then { stored := copy, writing := none } else shared
  | .stop lost, some (holder, _) =>
      if lost holder then { shared with writing := none } else shared
  | _, _ => shared

/-- Any number of writers over one database. -/
def writers (ω : Type) [DecidableEq ω] (starts : σ → Prop) : System (Shared ω σ κ) (Turn ω α) where
  start shared := starts shared.stored ∧ shared.writing = none
  step := transactions.step

variable {transactions}

theorem step_start {shared : Shared ω σ κ} (free : shared.writing = none) (writer : ω) (request : α) :
    transactions.step shared (.start writer request) =
      { shared with writing := some (writer, shared.stored, transactions.first request) } := by
  unfold step
  rw [free]

theorem step_advance {shared : Shared ω σ κ} {writer : ω} {copy later : σ} {point further : κ}
    (writing : shared.writing = some (writer, copy, point)) (moves : transactions.next copy point = some (later, further)) :
    transactions.step shared (.advance writer) = { shared with writing := some (writer, later, further) } := by
  unfold step
  rw [writing]
  dsimp only
  rw [if_pos rfl]
  unfold advance
  rw [moves]
  rfl

theorem step_commit {shared : Shared ω σ κ} {writer : ω} {copy : σ} {point : κ}
    (writing : shared.writing = some (writer, copy, point)) (ends : transactions.final point = true) :
    transactions.step shared (.commit writer) = { stored := copy, writing := none } := by
  unfold step
  rw [writing]
  dsimp only
  rw [if_pos ⟨rfl, ends⟩]

/-- A turn commits nothing, or a transaction gone through from its start. -/
theorem Sound.step_stored {allowed : α → Prop} {shared : Shared ω σ κ} (sound : transactions.Sound allowed shared)
    (turn : Turn ω α) : (transactions.step shared turn).stored = shared.stored ∨
      ∃ request point, allowed request ∧ transactions.final point = true ∧ transactions.Gets
        (shared.stored, transactions.first request) ((transactions.step shared turn).stored, point) := by
  unfold step
  split
  · exact .inl rfl
  · split <;> exact .inl rfl
  · rename_i writer holder copy point writing
    split
    · rename_i ends
      obtain ⟨request, may, gets⟩ := sound holder copy point writing
      exact .inr ⟨request, point, may, ends.2, gets⟩
    · exact .inl rfl
  · split <;> exact .inl rfl
  · exact .inl rfl

/-- A turn that starts only what is allowed leaves the transaction under way sound. -/
theorem Sound.step {allowed : α → Prop} {shared : Shared ω σ κ} (sound : transactions.Sound allowed shared)
    (turn : Turn ω α) (may : ∀ writer request, turn = .start writer request → allowed request) :
    transactions.Sound allowed (transactions.step shared turn) := by
  unfold Transactions.step
  split
  · rename_i writer request free
    intro other copy point writing
    cases writing
    exact ⟨request, may writer request rfl, .refl⟩
  · rename_i writer holder copy point writing
    split
    · rename_i same
      intro other later further found
      have found : transactions.advance writer copy point = some (other, later, further) := found
      unfold advance at found
      rw [Option.map_eq_some_iff] at found
      obtain ⟨reached, moves, pair⟩ := found
      cases pair
      obtain ⟨request, allows, gets⟩ := sound holder copy point writing
      exact ⟨request, allows, gets.tail moves⟩
    · exact sound
  · split
    · exact .of_free rfl
    · exact sound
  · split
    · exact .of_free rfl
    · exact sound
  · exact sound

theorem sound_of_reachable {starts : σ → Prop} {shared : Shared ω σ κ}
    (reached : (transactions.writers ω starts).Reachable shared) : transactions.Sound (fun _ => True) shared := by
  refine reached.invariant (transactions.Sound fun _ => True) ?_ ?_
  · intro state start
    exact .of_free start.2
  · intro state turn _ sound
    exact sound.step turn fun _ _ _ => trivial

/-- What every whole transaction keeps holds of what is committed, whatever the order of the writers' statements and
wherever they stop. -/
theorem stored_invariant {starts holds : σ → Prop} (initial : ∀ store, starts store → holds store)
    (keeps : ∀ store request copy point, holds store → transactions.final point = true →
      transactions.Gets (store, transactions.first request) (copy, point) → holds copy)
    {shared : Shared ω σ κ} (reached : (transactions.writers ω starts).Reachable shared) : holds shared.stored := by
  refine reached.invariant (fun shared => holds shared.stored) ?_ ?_
  · intro state start
    exact initial _ start.1
  · intro state turn before now
    show holds (transactions.step state turn).stored
    rcases (sound_of_reachable before).step_stored turn with same | ⟨request, point, _, ends, gets⟩
    · rw [same]
      exact now
    · exact keeps _ request _ point now ends gets

end Transactions

end Stozher.Library
