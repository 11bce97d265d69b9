import Mathlib.Data.List.Induction

namespace Stozher.Library.Best

variable {α β : Type} {value : α → Option (Nat × β)} {items : List α} {item : α} {found : Nat × β}

/-- Keeps the first of the items that score highest, with what each stands for. -/
def better (value : α → Option (Nat × β)) (best : Option (Nat × β)) (item : α) : Option (Nat × β) :=
  match value item, best with
  | none, best => best
  | some found, none => some found
  | some found, some (current, kept) =>
      if current < found.1 then some found else some (current, kept)

/-- An item with everything before it scoring less and nothing after it scoring more. -/
structure Chosen (value : α → Option (Nat × β)) (items : List α) (item : α) (found : Nat × β) : Prop where
  scores : value item = some found
  first : ∃ before after, items = before ++ item :: after ∧
    (∀ other ∈ before, ∀ score, value other = some score → score.1 < found.1) ∧
    ∀ other ∈ after, ∀ score, value other = some score → score.1 ≤ found.1

theorem better_of_none (best : Option (Nat × β)) (unscored : value item = none) :
    better value best item = best := by
  unfold better
  rw [unscored]

theorem better_first (scored : value item = some found) : better value none item = some found := by
  unfold better
  rw [scored]

theorem better_some (current : Nat × β) (scored : value item = some found) :
    better value (some current) item = if current.1 < found.1 then some found else some current := by
  unfold better
  rw [scored]

theorem foldl_better_none :
    items.foldl (better value) none = none ↔ ∀ item ∈ items, value item = none := by
  induction items using List.reverseRecOn with
  | nil => simp
  | append_singleton items last ih =>
      rw [List.foldl_append, List.foldl_cons, List.foldl_nil, List.forall_mem_append, ← ih]
      cases scored : value last with
      | none => simp [better_of_none _ scored, scored]
      | some found =>
          cases items.foldl (better value) none with
          | none => simp [better_first scored, scored]
          | some current =>
              rw [better_some current scored]
              split <;> simp

theorem Chosen.append_singleton {last : α} (chosen : Chosen value items item found)
    (below : ∀ score, value last = some score → score.1 ≤ found.1) :
    Chosen value (items ++ [last]) item found := by
  obtain ⟨before, after, rfl, less, most⟩ := chosen.first
  refine ⟨chosen.scores, before, after ++ [last], by simp, less, ?_⟩
  intro other member score scored
  rcases List.mem_append.mp member with earlier | isLast
  · exact most other earlier score scored
  · rw [List.mem_singleton] at isLast
    subst isLast
    exact below score scored

/-- An item that outscores a chosen one comes to be chosen in its place. -/
theorem Chosen.outscored {last : α} {next : Nat × β} (chosen : Chosen value items item found)
    (scored : value last = some next) (more : found.1 < next.1) :
    Chosen value (items ++ [last]) last next := by
  obtain ⟨before, after, rfl, less, most⟩ := chosen.first
  refine ⟨scored, _, [], rfl, ?_, by simp⟩
  intro other member score holds
  rcases List.mem_append.mp member with earlier | later
  · exact Nat.lt_trans (less other earlier score holds) more
  · rcases List.mem_cons.mp later with rfl | later
    · rw [chosen.scores, Option.some.injEq] at holds
      subst holds
      exact more
    · exact Nat.lt_of_le_of_lt (most other later score holds) more

/-- What the fold ends with is the value of the item that is chosen. -/
theorem foldl_better_some (kept : items.foldl (better value) none = some found) :
    ∃ item, Chosen value items item found := by
  induction items using List.reverseRecOn generalizing found with
  | nil => cases kept
  | append_singleton items last ih =>
      rw [List.foldl_append, List.foldl_cons, List.foldl_nil] at kept
      cases scored : value last with
      | none =>
          rw [better_of_none _ scored] at kept
          obtain ⟨item, chosen⟩ := ih kept
          exact ⟨item, chosen.append_singleton fun score holds => by simp [scored] at holds⟩
      | some other =>
          cases earlier : items.foldl (better value) none with
          | none =>
              rw [earlier, better_first scored, Option.some.injEq] at kept
              subst kept
              refine ⟨last, scored, items, [], rfl, ?_, by simp⟩
              intro item member score holds
              rw [foldl_better_none.mp earlier item member] at holds
              cases holds
          | some current =>
              obtain ⟨item, chosen⟩ := ih earlier
              rw [earlier, better_some current scored] at kept
              by_cases more : current.1 < other.1
              · rw [if_pos more, Option.some.injEq] at kept
                subst kept
                exact ⟨last, chosen.outscored scored more⟩
              · rw [if_neg more, Option.some.injEq] at kept
                subst kept
                refine ⟨item, chosen.append_singleton ?_⟩
                intro score isLast
                rw [scored, Option.some.injEq] at isLast
                subst isLast
                exact Nat.le_of_not_lt more

theorem Chosen.foldl_better (chosen : Chosen value items item found) :
    items.foldl (better value) none = some found := by
  obtain ⟨before, after, rfl, less, most⟩ := chosen.first
  have scored := chosen.scores
  clear chosen
  rw [List.foldl_append, List.foldl_cons]
  have reached : better value (before.foldl (better value) none) item = some found := by
    cases earlier : before.foldl (better value) none with
    | none => exact better_first scored
    | some current =>
        obtain ⟨other, held⟩ := foldl_better_some earlier
        obtain ⟨front, back, place, _, _⟩ := held.first
        have inside : other ∈ before := by simp [place]
        rw [better_some current scored, if_pos (less other inside current held.scores)]
  rw [reached]
  induction after with
  | nil => rfl
  | cons next rest ih =>
      have same : better value (some found) next = some found := by
        cases later : value next with
        | none => exact better_of_none _ later
        | some other =>
            rw [better_some found later, if_neg]
            exact Nat.not_lt.mpr (most next List.mem_cons_self other later)
      rw [List.foldl_cons, same]
      exact ih fun other member => most other (List.mem_cons_of_mem _ member)

/-- Items that score nothing can as well be left out. -/
theorem foldl_better_filter (keep : α → Bool) (best : Option (Nat × β)) :
    (items.filter keep).foldl (better value) best =
      items.foldl (better fun item => if keep item = true then value item else none) best := by
  induction items generalizing best with
  | nil => rfl
  | cons first rest ih =>
      by_cases kept : keep first = true
      · have same : better (fun item => if keep item = true then value item else none) best first =
            better value best first := by
          unfold better
          dsimp only
          rw [if_pos kept]
        rw [List.filter_cons_of_pos kept, List.foldl_cons, List.foldl_cons, same]
        exact ih _
      · have skipped : better (fun item => if keep item = true then value item else none) best first = best :=
          better_of_none best (if_neg kept)
        rw [List.filter_cons_of_neg kept, List.foldl_cons, skipped]
        exact ih best

/-- Another way to score that agrees on the chosen item, and scores nothing more, chooses the same. -/
theorem Chosen.of_fewer {fewer : α → Option (Nat × β)} (chosen : Chosen value items item found)
    (agrees : fewer item = value item)
    (within : ∀ other score, fewer other = some score → value other = some score) :
    Chosen fewer items item found := by
  obtain ⟨before, after, split, less, most⟩ := chosen.first
  refine ⟨agrees.trans chosen.scores, before, after, split, ?_, ?_⟩
  · intro other member score scored
    exact less other member score (within other score scored)
  · intro other member score scored
    exact most other member score (within other score scored)

end Stozher.Library.Best
