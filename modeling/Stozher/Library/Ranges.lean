import Mathlib.Logic.ExistsUnique
import Mathlib.Tactic.Tauto

namespace Stozher.Library

/-- Ranges, bounds included, that begin at a number and follow one another without a gap. -/
def Follow : Nat → List (Nat × Nat) → Prop
  | _, [] => True
  | start, range :: rest => range.1 = start ∧ range.1 ≤ range.2 ∧ Follow (range.2 + 1) rest

/-- The number after ranges that begin at a number. -/
def pastEnd : Nat → List (Nat × Nat) → Nat
  | start, [] => start
  | _, range :: rest => pastEnd (range.2 + 1) rest

namespace Follow

variable {start : Nat} {ranges : List (Nat × Nat)}

theorem pastEnd_eq (start : Nat) (ranges : List (Nat × Nat)) :
    pastEnd start ranges = (ranges.getLast?.map fun range => range.2 + 1).getD start := by
  induction ranges generalizing start with
  | nil => rfl
  | cons range rest ih =>
      unfold pastEnd
      rw [ih]
      cases rest with
      | nil => rfl
      | cons next others =>
          rw [List.getLast?_cons_cons]
          cases last : (next :: others).getLast? with
          | none => exact absurd (List.getLast?_eq_none_iff.mp last) (List.cons_ne_nil _ _)
          | some last => rfl

theorem concat {range : Nat × Nat} : Follow start (ranges ++ [range]) ↔
    Follow start ranges ∧ range.1 = pastEnd start ranges ∧ range.1 ≤ range.2 := by
  induction ranges generalizing start with
  | nil =>
      unfold Follow pastEnd
      exact ⟨fun follows => ⟨trivial, follows.1, follows.2.1⟩, fun follows => ⟨follows.2.1, follows.2.2, trivial⟩⟩
  | cons first rest ih =>
      rw [List.cons_append]
      unfold Follow pastEnd
      rw [ih]
      tauto

/-- Each range is within the bounds of them all. -/
theorem bounds (follows : Follow start ranges) {range : Nat × Nat} (member : range ∈ ranges) :
    start ≤ range.1 ∧ range.1 ≤ range.2 ∧ range.2 < pastEnd start ranges := by
  induction ranges generalizing start with
  | nil => cases member
  | cons first rest ih =>
      obtain ⟨begins, upright, follows⟩ := follows
      have low : ∀ (number : Nat) (others : List (Nat × Nat)), Follow number others → number ≤ pastEnd number others := by
        intro number others
        induction others generalizing number with
        | nil => exact fun _ => Nat.le_refl _
        | cons next others step =>
            intro ⟨begins, upright, follows⟩
            have later := step _ follows
            unfold pastEnd
            omega
      unfold pastEnd
      rcases List.mem_cons.mp member with rfl | member
      · have later := low _ rest follows
        omega
      · have inside := ih follows member
        omega

theorem increasing (follows : Follow start ranges) : ranges.Pairwise fun a b => a.2 < b.1 := by
  induction ranges generalizing start with
  | nil => exact .nil
  | cons first rest ih =>
      obtain ⟨_, _, follows⟩ := follows
      refine List.pairwise_cons.mpr ⟨?_, ih follows⟩
      intro range member
      have inside := bounds follows member
      omega

/-- A number from where the ranges begin to where they end is in exactly one of them. -/
theorem covers (follows : Follow start ranges) {n : Nat} (low : start ≤ n) (high : n < pastEnd start ranges) :
    ∃! range, range ∈ ranges ∧ range.1 ≤ n ∧ n ≤ range.2 := by
  induction ranges generalizing start with
  | nil =>
      unfold pastEnd at high
      omega
  | cons first rest ih =>
      obtain ⟨begins, upright, follows⟩ := follows
      unfold pastEnd at high
      by_cases here : n ≤ first.2
      · refine ⟨first, ⟨List.mem_cons_self, by omega, here⟩, ?_⟩
        intro range holds
        obtain ⟨member, above, _⟩ := holds
        rcases List.mem_cons.mp member with same | later
        · exact same
        · have inside := bounds follows later
          omega
      · obtain ⟨range, ⟨member, holds⟩, only⟩ := ih follows (by omega) high
        refine ⟨range, ⟨List.mem_cons_of_mem _ member, holds⟩, ?_⟩
        intro other isOther
        obtain ⟨otherMember, otherHolds⟩ := isOther
        rcases List.mem_cons.mp otherMember with same | later
        · subst same
          omega
        · exact only other ⟨later, otherHolds⟩

end Follow

end Stozher.Library
