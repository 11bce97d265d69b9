import Mathlib.Data.List.Nodup
import Mathlib.Data.List.Perm.Subperm
import Mathlib.Logic.Relation

namespace Stozher.Library

variable {α : Type} {children : α → List α}

/-- What following some children adds. -/
structure Discovered (kids : List α) (before after : List α × List α) : Prop where
  kept : ∀ x ∈ before.1, x ∈ after.1
  covers : ∀ x ∈ kids, x ∈ after.1
  from_ : ∀ x ∈ after.1, x ∈ before.1 ∨ x ∈ kids
  waits : ∀ x ∈ after.1, x ∈ before.1 ∨ x ∈ after.2
  frontier : ∀ x ∈ after.2, x ∈ before.2 ∨ x ∈ after.1
  grows : ∀ x ∈ before.2, x ∈ after.2
  nodup : before.1.Nodup → after.1.Nodup
  length : after.1.length + before.2.length = before.1.length + after.2.length

theorem Discovered.trans {first rest : List α} {before middle after : List α × List α}
    (one : Discovered first before middle) (other : Discovered rest middle after) :
    Discovered (first ++ rest) before after := by
  constructor
  · intro x member
    exact other.kept x (one.kept x member)
  · intro x member
    rcases List.mem_append.mp member with early | late
    · exact other.kept x (one.covers x early)
    · exact other.covers x late
  · intro x member
    rcases other.from_ x member with held | late
    · rcases one.from_ x held with old | early
      · exact .inl old
      · exact .inr (List.mem_append_left _ early)
    · exact .inr (List.mem_append_right _ late)
  · intro x member
    rcases other.waits x member with held | waiting
    · rcases one.waits x held with old | waiting
      · exact .inl old
      · exact .inr (other.grows x waiting)
    · exact .inr waiting
  · intro x member
    rcases other.frontier x member with held | found
    · rcases one.frontier x held with old | found
      · exact .inl old
      · exact .inr (other.kept x found)
    · exact .inr found
  · intro x member
    exact other.grows x (one.grows x member)
  · intro nodup
    exact other.nodup (one.nodup nodup)
  · have := one.length
    have := other.length
    omega

/-- What holds between two steps of an exploration that began at a root. -/
structure Exploring (children : α → List α) (root : α) (progress : List α × List α) : Prop where
  start : root ∈ progress.1
  nodup : progress.1.Nodup
  reached : ∀ x ∈ progress.1, Relation.ReflTransGen (fun parent child => child ∈ children parent) root x
  frontier : ∀ x ∈ progress.2, x ∈ progress.1
  followed : ∀ x ∈ progress.1, x ∈ progress.2 ∨ ∀ child ∈ children x, child ∈ progress.1

theorem Exploring.initial (root : α) : Exploring children root ([root], [root]) := by
  constructor
  · exact List.mem_cons_self
  · exact List.nodup_singleton root
  · intro x member
    rw [List.mem_singleton.mp member]
  · intro x member
    exact member
  · intro x member
    exact .inl member

/-- Once nothing waits, exactly what can be reached was found. -/
theorem Exploring.finished {root x : α} {progress : List α × List α}
    (exploring : Exploring children root progress) (none : progress.2 = []) :
    x ∈ progress.1 ↔ Relation.ReflTransGen (fun parent child => child ∈ children parent) root x := by
  constructor
  · exact exploring.reached x
  · intro path
    induction path with
    | refl => exact exploring.start
    | tail _ child ih =>
        rcases exploring.followed _ ih with waiting | closed
        · rw [none] at waiting
          cases waiting
        · exact closed _ child

variable [DecidableEq α]

/-- Puts what was not found before on the frontier. -/
def discover (progress : List α × List α) (child : α) : List α × List α :=
  if child ∈ progress.1 then progress else (progress.1 ++ [child], child :: progress.2)

/-- What is found from a frontier, where what was discovered last is followed first. -/
def explore (children : α → List α) : Nat → List α × List α → List α
  | 0, progress => progress.1
  | _ + 1, (found, []) => found
  | fuel + 1, (found, next :: frontier) =>
      explore children fuel ((children next).foldl discover (found, frontier))

theorem Discovered.discover (progress : List α × List α) (child : α) :
    Discovered [child] progress (Library.discover progress child) := by
  unfold Library.discover
  by_cases known : child ∈ progress.1
  · rw [if_pos known]
    constructor <;> simp_all
  · rw [if_neg known]
    constructor
    · intro x member
      exact List.mem_append_left _ member
    · intro x member
      exact List.mem_append_right _ member
    · intro x member
      exact List.mem_append.mp member
    · intro x member
      rcases List.mem_append.mp member with old | new
      · exact .inl old
      · exact .inr (List.mem_cons.mpr (.inl (List.mem_singleton.mp new)))
    · intro x member
      rcases List.mem_cons.mp member with rfl | old
      · exact .inr (List.mem_append_right _ List.mem_cons_self)
      · exact .inl old
    · intro x member
      exact List.mem_cons_of_mem _ member
    · intro nodup
      refine List.nodup_append.mpr ⟨nodup, List.nodup_singleton child, ?_⟩
      intro x member y isChild same
      rw [List.mem_singleton.mp isChild] at same
      rw [same] at member
      exact known member
    · simp only [List.length_append, List.length_cons, List.length_nil]
      omega

theorem discovered (kids : List α) (progress : List α × List α) :
    Discovered kids progress (kids.foldl discover progress) := by
  induction kids generalizing progress with
  | nil => constructor <;> simp_all
  | cons child rest ih =>
      rw [List.foldl_cons]
      exact (Discovered.discover progress child).trans (ih _)

theorem Exploring.step {root next : α} {found frontier : List α}
    (exploring : Exploring children root (found, next :: frontier)) :
    Exploring children root ((children next).foldl discover (found, frontier)) := by
  have new := discovered (children next) (found, frontier)
  have nextFound := exploring.frontier next List.mem_cons_self
  constructor
  · exact new.kept root exploring.start
  · exact new.nodup exploring.nodup
  · intro x member
    rcases new.from_ x member with old | child
    · exact exploring.reached x old
    · exact (exploring.reached next nextFound).tail child
  · intro x member
    rcases new.frontier x member with old | found
    · exact new.kept x (exploring.frontier x (List.mem_cons_of_mem _ old))
    · exact found
  · intro x member
    rcases new.waits x member with old | waiting
    · rcases exploring.followed x old with onFrontier | closed
      · rcases List.mem_cons.mp onFrontier with rfl | later
        · exact .inr new.covers
        · exact .inl (new.grows x later)
      · exact .inr fun child isChild => new.kept child (closed child isChild)
    · exact .inl waiting

/-- With fuel for everything there is, an exploration finds exactly what can be reached. -/
theorem Exploring.mem_explore {root x : α} {all : List α} (covered : ∀ parent, children parent ⊆ all)
    {fuel : Nat} {progress : List α × List α} (exploring : Exploring children root progress)
    (inside : progress.1 ⊆ all) (enough : all.length + progress.2.length ≤ fuel + progress.1.length) :
    x ∈ explore children fuel progress ↔
      Relation.ReflTransGen (fun parent child => child ∈ children parent) root x := by
  induction fuel generalizing progress with
  | zero =>
      have fits := (List.subperm_of_subset exploring.nodup inside).length_le
      have none : progress.2 = [] := by
        apply List.length_eq_zero_iff.mp
        omega
      exact exploring.finished none
  | succ fuel ih =>
      obtain ⟨found, frontier⟩ := progress
      cases frontier with
      | nil => exact exploring.finished rfl
      | cons next frontier =>
          have new := discovered (children next) (found, frontier)
          refine ih exploring.step ?_ ?_
          · intro y member
            rcases new.from_ y member with old | child
            · exact inside old
            · exact covered next child
          · have := new.length
            dsimp only [List.length_cons] at enough this ⊢
            omega

end Stozher.Library
