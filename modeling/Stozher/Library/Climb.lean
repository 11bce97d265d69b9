import Stozher.Library.Ascent
import Mathlib.Data.List.Nodup
import Mathlib.Data.List.Range
import Mathlib.Data.Nat.Find
import Mathlib.Data.List.Perm.Subperm

namespace Stozher.Library

variable {α : Type} {parent : α → Option α}

/-- A number of parent pointers, followed. -/
def climb (parent : α → Option α) : Nat → α → Option α
  | 0, start => some start
  | steps + 1, start => (parent start).bind (climb parent steps)

theorem climb_succ_of_parent {steps : Nat} {start next : α} (up : parent start = some next) :
    climb parent (steps + 1) start = climb parent steps next := by
  rw [climb, up, Option.bind_some]

theorem climb_add (first second : Nat) (start : α) :
    climb parent (first + second) start = (climb parent first start).bind (climb parent second) := by
  induction first generalizing start with
  | zero => rw [Nat.zero_add, climb, Option.bind_some]
  | succ first ih =>
      rw [Nat.add_right_comm, climb, climb]
      cases parent start with
      | none => rfl
      | some next => rw [Option.bind_some, Option.bind_some, ih]

/-- What stands above an element is reached from it in some number of steps. -/
theorem above_iff_climb {start ancestor : α} :
    Relation.ReflTransGen (Above parent) start ancestor ↔ ∃ steps, climb parent steps start = some ancestor := by
  constructor
  · intro above
    induction above using Relation.ReflTransGen.head_induction_on with
    | refl => exact ⟨0, rfl⟩
    | head up _ ih =>
        obtain ⟨steps, reached⟩ := ih
        exact ⟨steps + 1, (climb_succ_of_parent up).trans reached⟩
  · rintro ⟨steps, reached⟩
    induction steps generalizing start with
    | zero =>
        cases reached
        exact .refl
    | succ steps ih =>
        rw [climb, Option.bind_eq_some_iff] at reached
        obtain ⟨next, up, further⟩ := reached
        exact .head up (ih further)

/-- The way up depends on the parents of what is met on it. -/
theorem climb_congr {other : α → Option α} {steps : Nat} {start : α}
    (same : ∀ fewer < steps, ∀ element, climb parent fewer start = some element → other element = parent element) :
    climb other steps start = climb parent steps start := by
  induction steps generalizing start with
  | zero => rfl
  | succ steps ih =>
      rw [climb, climb, same 0 (Nat.succ_pos steps) start rfl]
      cases up : parent start with
      | none => rfl
      | some next =>
          rw [Option.bind_some, Option.bind_some]
          apply ih
          intro fewer less element met
          exact same (fewer + 1) (Nat.succ_lt_succ less) element ((climb_succ_of_parent up).trans met)

theorem climb_isSome_of_le {steps fewer : Nat} {start ancestor : α}
    (reached : climb parent steps start = some ancestor) (less : fewer ≤ steps) :
    ∃ between, climb parent fewer start = some between ∧ climb parent (steps - fewer) between = some ancestor := by
  rw [show steps = fewer + (steps - fewer) by omega, climb_add, Option.bind_eq_some_iff] at reached
  exact reached

/-- No element is met twice on the shortest way up. -/
theorem climb_injective {steps : Nat} {start ancestor : α} (reached : climb parent steps start = some ancestor)
    (shortest : ∀ fewer < steps, climb parent fewer start ≠ some ancestor) {early late : Nat} (order : early < late)
    (inside : late ≤ steps) : climb parent early start ≠ climb parent late start := by
  intro same
  obtain ⟨between, atLate, further⟩ := climb_isSome_of_le reached inside
  apply shortest (early + (steps - late)) (by omega)
  rw [climb_add, same, atLate, Option.bind_some]
  exact further

/-- Where only the elements of a list have parents, its length is enough steps to get anywhere. -/
theorem climb_within {known : List α} (listed : ∀ child next, parent child = some next → child ∈ known)
    {start ancestor : α} (above : Relation.ReflTransGen (Above parent) start ancestor) :
    ∃ steps ≤ known.length, climb parent steps start = some ancestor := by
  classical
  have some_ := above_iff_climb.mp above
  let steps := Nat.find some_
  have reached : climb parent steps start = some ancestor := Nat.find_spec some_
  have shortest : ∀ fewer < steps, climb parent fewer start ≠ some ancestor := fun _ less => Nat.find_min some_ less
  refine ⟨steps, ?_, reached⟩
  have met : ∀ early ∈ List.range steps, ∃ element ∈ known, climb parent early start = some element := by
    intro early inside
    rw [List.mem_range] at inside
    obtain ⟨element, isElement, further⟩ := climb_isSome_of_le reached (Nat.le_of_lt inside)
    obtain ⟨more, isMore⟩ : ∃ more, steps - early = more + 1 := ⟨steps - early - 1, by omega⟩
    rw [isMore, climb, Option.bind_eq_some_iff] at further
    obtain ⟨next, up, _⟩ := further
    exact ⟨element, listed element next up, isElement⟩
  have distinct : ((List.range steps).map fun early => climb parent early start).Nodup := by
    refine List.Nodup.map_on ?_ List.nodup_range
    intro early isEarly late isLate same
    rw [List.mem_range] at isEarly isLate
    rcases Nat.lt_trichotomy early late with less | equal | more
    · exact absurd same (climb_injective reached shortest less (Nat.le_of_lt isLate))
    · exact equal
    · exact absurd same.symm (climb_injective reached shortest more (Nat.le_of_lt isEarly))
  have within_ : ((List.range steps).map fun early => climb parent early start) ⊆ known.map some := by
    intro element member
    obtain ⟨early, inside, rfl⟩ := List.mem_map.mp member
    obtain ⟨found, isKnown, isFound⟩ := met early inside
    rw [isFound]
    exact List.mem_map_of_mem isKnown
  have bounded := (List.subperm_of_subset distinct within_).length_le
  rwa [List.length_map, List.length_map, List.length_range] at bounded

end Stozher.Library
