import Mathlib.Data.List.Nodup
import Mathlib.Logic.Relation

namespace Stozher.Library

variable {α : Type} (parent : α → Option α)

/-- A path that follows parents and ends where there is none. -/
def Ascends : List α → Prop
  | [] => False
  | [top] => parent top = none
  | child :: next :: rest => parent child = some next ∧ Ascends (next :: rest)

/-- One parent pointer, followed. -/
def Above (child ancestor : α) : Prop :=
  parent child = some ancestor

namespace Ascends

variable {parent}

theorem of_cons {child next : α} {rest : List α} (path : Ascends parent (child :: next :: rest)) :
    parent child = some next ∧ Ascends parent (next :: rest) := path

/-- A path is determined by where it starts. -/
theorem unique {start : α} {first second : List α} (one : Ascends parent (start :: first))
    (other : Ascends parent (start :: second)) : first = second := by
  induction first generalizing start second with
  | nil =>
      cases second with
      | nil => rfl
      | cons next rest =>
          have ends : parent start = none := one
          rw [other.1] at ends
          cases ends
  | cons next rest ih =>
      cases second with
      | nil =>
          have ends : parent start = none := other
          rw [one.1] at ends
          cases ends
      | cons otherNext otherRest =>
          have same : next = otherNext := Option.some.inj (one.1.symm.trans other.1)
          subst same
          rw [ih one.2 other.2]

theorem suffix {path tail : List α} {start : α} (ascends : Ascends parent path)
    (within : start :: tail <:+ path) : Ascends parent (start :: tail) := by
  induction path with
  | nil => cases ascends
  | cons first rest ih =>
      rcases List.suffix_cons_iff.mp within with same | later
      · exact same ▸ ascends
      · cases rest with
        | nil => simp at later
        | cons next others => exact ih ascends.2 later

/-- No path meets an element twice. -/
theorem nodup {path : List α} (ascends : Ascends parent path) : path.Nodup := by
  induction path with
  | nil => exact List.nodup_nil
  | cons first rest ih =>
      cases rest with
      | nil => exact List.nodup_singleton first
      | cons next others =>
          refine List.nodup_cons.mpr ⟨?_, ih ascends.2⟩
          intro again
          obtain ⟨before, after, split⟩ := List.append_of_mem again
          have shorter : Ascends parent (first :: after) :=
            ascends.2.suffix ⟨before, split.symm⟩
          have same := congrArg List.length (unique shorter ascends)
          have lengths := congrArg List.length split
          simp only [List.length_append, List.length_cons] at same lengths
          omega

/-- A path stays one where the parents of its elements stay the same. -/
theorem congr {other : α → Option α} {path : List α} (ascends : Ascends parent path)
    (same : ∀ element ∈ path, other element = parent element) : Ascends other path := by
  induction path with
  | nil => exact ascends
  | cons first rest ih =>
      cases rest with
      | nil => exact (same first List.mem_cons_self).trans ascends
      | cons next others =>
          refine ⟨(same first List.mem_cons_self).trans ascends.1, ih ascends.2 ?_⟩
          exact fun element member => same element (List.mem_cons_of_mem _ member)

/-- Every ancestor of the start is on the path. -/
theorem mem_of_above {start ancestor : α} {rest : List α} (ascends : Ascends parent (start :: rest))
    (above : Relation.ReflTransGen (Above parent) start ancestor) : ancestor ∈ start :: rest := by
  induction above using Relation.ReflTransGen.head_induction_on generalizing rest with
  | refl => exact List.mem_cons_self
  | head step _ ih =>
      cases rest with
      | nil =>
          have ends : parent _ = none := ascends
          have next : parent _ = some _ := step
          rw [next] at ends
          cases ends
      | cons next others =>
          have same : next = _ := Option.some.inj (ascends.1.symm.trans step)
          subst same
          exact List.mem_cons_of_mem _ (ih ascends.2)

/-- Whatever is on a path is an ancestor of its start. -/
theorem above_of_mem {start ancestor : α} {rest : List α} (ascends : Ascends parent (start :: rest))
    (member : ancestor ∈ start :: rest) : Relation.ReflTransGen (Above parent) start ancestor := by
  induction rest generalizing start with
  | nil =>
      rw [List.mem_singleton] at member
      exact member ▸ .refl
  | cons next others ih =>
      rcases List.mem_cons.mp member with same | later
      · exact same ▸ .refl
      · exact .head ascends.1 (ih ascends.2 later)

end Ascends

end Stozher.Library
