import Mathlib.Data.List.Chain
import Mathlib.Data.List.Forall2
import Mathlib.Data.List.Induction

namespace Stozher.Library

variable {α ι : Type} {name previous : α → ι} {same : α → α → Prop}

/-- Each item names the one before it. -/
def Linked (name previous : α → ι) (items : List α) : Prop :=
  items.IsChain fun earlier later => previous later = name earlier

theorem Linked.front {items : List α} {last : α} (linked : Linked name previous (items ++ [last])) :
    Linked name previous items ∧ ∀ item, items.getLast? = some item → previous last = name item := by
  unfold Linked at linked
  rw [List.isChain_append] at linked
  obtain ⟨front, _, joined⟩ := linked
  exact ⟨front, fun item isLast => joined item isLast last rfl⟩

/-- Two linked lists that end in the same name agree item by item, where a name is not shared by items that
differ. -/
theorem Linked.agree {first second : List α}
    (committed : ∀ a ∈ first, ∀ b ∈ second, name a = name b → same a b)
    (carries : ∀ a ∈ first, ∀ b ∈ second, same a b → previous a = previous b)
    (one : Linked name previous first) (other : Linked name previous second)
    (length : first.length = second.length)
    (ends : first.getLast?.map name = second.getLast?.map name) : List.Forall₂ same first second := by
  induction first using List.reverseRecOn generalizing second with
  | nil =>
      have empty : second = [] := List.length_eq_zero_iff.mp length.symm
      rw [empty]
      exact .nil
  | append_singleton front last ih =>
      rcases List.eq_nil_or_concat second with empty | ⟨otherFront, otherLast, split⟩
      · rw [empty] at length
        simp at length
      · rw [List.concat_eq_append] at split
        subst split
        rw [List.getLast?_concat, List.getLast?_concat, Option.map_some, Option.map_some,
          Option.some.injEq] at ends
        have here : last ∈ front ++ [last] := List.mem_append_right _ List.mem_cons_self
        have there : otherLast ∈ otherFront ++ [otherLast] := List.mem_append_right _ List.mem_cons_self
        have lasts : same last otherLast := committed last here otherLast there ends
        have back : previous last = previous otherLast := carries last here otherLast there lasts
        obtain ⟨frontLinked, frontEnd⟩ := one.front
        obtain ⟨otherLinked, otherEnd⟩ := other.front
        have shorter : front.length = otherFront.length := by simpa using length
        refine List.rel_append (ih ?_ ?_ frontLinked otherLinked shorter ?_) (.cons lasts .nil)
        · intro a isFirst b isSecond
          exact committed a (List.mem_append_left _ isFirst) b (List.mem_append_left _ isSecond)
        · intro a isFirst b isSecond
          exact carries a (List.mem_append_left _ isFirst) b (List.mem_append_left _ isSecond)
        · cases found : front.getLast? with
          | none =>
              have none_ : front = [] := List.getLast?_eq_none_iff.mp found
              rw [none_] at shorter
              have alsoNone : otherFront = [] := List.length_eq_zero_iff.mp shorter.symm
              rw [alsoNone]
              rfl
          | some item =>
              cases otherFound : otherFront.getLast? with
              | none =>
                  have alsoNone : otherFront = [] := List.getLast?_eq_none_iff.mp otherFound
                  rw [alsoNone] at shorter
                  have none_ : front = [] := List.length_eq_zero_iff.mp shorter
                  rw [none_] at found
                  cases found
              | some otherItem =>
                  have here := frontEnd item found
                  have there := otherEnd otherItem otherFound
                  rw [Option.map_some, Option.map_some, ← here, ← there, back]

end Stozher.Library
