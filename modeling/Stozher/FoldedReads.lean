import Stozher.Deployment
import Stozher.Gateway.Folding

namespace Stozher.Gateway

open Library

variable {ext : External} {checkShape : Value → Result Unit} {config : FoldConfig}

/-- A window counts these calls: they were made under its key, and its counts are of their actions. -/
structure Counts (calls : List FoldedRead) (folded : Folded) : Prop where
  some_ : folded.calls ≠ []
  reads : ∃ reads : List FoldedRead, folded.calls.map (calls[·]?) = reads.map some ∧
    (∀ read ∈ reads, read.key = folded.window.key) ∧
    folded.window.counts = (reads.map FoldedRead.action).foldl Window.count []

/-- An aggregate of the local chain seals a window. -/
def Seals (config : FoldConfig) (chain : GatewayStore) (folded : Folded) (id : String) : Prop :=
  ∃ row ∈ chain.envelopes, row.id = id ∧ row.stream = folded.window.stream ∧
    ∃ subject now, Carries row.envelope (windowBody config.gateway subject folded.window now)

/-- Every window counts the calls it is kept with, and each that is sealed is in an aggregate of its own. -/
structure Truthful (config : FoldConfig) (state : Folds) : Prop where
  counts : ∀ folded ∈ state.holders, Counts state.calls folded
  sealed : ∀ entry ∈ state.sealed, Seals config state.chain entry.1 entry.2
  apart : (state.sealed.map Prod.snd).Nodup

/-- Every call is counted once. -/
def Accounted (state : Folds) : Prop :=
  (state.holders.flatMap Folded.calls).Perm (List.range state.calls.length)

theorem Counts.later {calls : List FoldedRead} {folded : Folded} (counts : Counts calls folded) (read : FoldedRead) :
    Counts (calls ++ [read]) folded := by
  obtain ⟨reads, found, keys, counted⟩ := counts.reads
  refine ⟨counts.some_, reads, ?_, keys, counted⟩
  rw [← found]
  apply List.map_congr_left
  intro call member
  have held : calls[call]? ∈ folded.calls.map (calls[·]?) := List.mem_map_of_mem member
  rw [found] at held
  obtain ⟨other, _, is⟩ := List.mem_map.mp held
  exact List.getElem?_append_left (List.getElem?_eq_some_iff.mp is.symm).1

theorem Counts.add {calls : List FoldedRead} {folded : Folded} {read : FoldedRead} {readAt : String}
    (counts : folded.calls = [] ∧ folded.window.counts = [] ∨ Counts calls folded)
    (key : folded.window.key = read.key) :
    Counts (calls ++ [read]) {
      window := folded.window.add (read.action, read.argsHash, readAt)
      calls := folded.calls ++ [calls.length] } := by
  have before : ∃ reads : List FoldedRead, folded.calls.map ((calls ++ [read])[·]?) = reads.map some ∧
      (∀ other ∈ reads, other.key = folded.window.key) ∧
      folded.window.counts = (reads.map FoldedRead.action).foldl Window.count [] := by
    rcases counts with ⟨none_, empty⟩ | counts
    · refine ⟨[], ?_, fun other inside => absurd inside List.not_mem_nil, empty⟩
      rw [none_]
      rfl
    · exact (counts.later read).reads
  obtain ⟨reads, found, keys, counted⟩ := before
  refine ⟨List.append_ne_nil_of_right_ne_nil _ (List.cons_ne_nil _ _), reads ++ [read], ?_, ?_, ?_⟩
  · show (folded.calls ++ [calls.length]).map _ = _
    rw [List.map_append, List.map_append, found, List.map_singleton, List.map_singleton]
    congr 2
    exact List.getElem?_concat_length
  · intro other member
    rcases List.mem_append.mp member with held | new
    · exact keys other held
    · rw [List.mem_singleton.mp new]
      exact key.symm
  · show Window.count folded.window.counts read.action = _
    rw [List.map_append, List.foldl_append, ← counted]
    rfl

theorem append_carries {store next : GatewayStore} {emission : Emission} {id : String}
    (done : append ext checkShape store emission = .ok (next, id)) :
    ∃ row, next.envelopes = store.envelopes ++ [row] ∧ row.id = id ∧ row.stream = emission.stream ∧
      Carries row.envelope emission.body ∧ ∀ other ∈ store.envelopes, other.id ≠ id := by
  obtain ⟨_, _, _, built, fresh, rows⟩ := append_built done
  exact ⟨_, rows, rfl, rfl, build_carries built, fresh⟩

theorem Seals.later {chain next : GatewayStore} {folded : Folded} {id : String}
    (seals : Seals config chain folded id) (grows : chain.envelopes ⊆ next.envelopes) :
    Seals config next folded id := by
  obtain ⟨row, member, known⟩ := seals
  exact ⟨row, grows member, known⟩

theorem step_grows {store : GatewayStore} {emission : Emission} :
    store.envelopes ⊆ (Gateway.step ext checkShape store emission).envelopes := by
  unfold Gateway.step
  split
  · rename_i done
    obtain ⟨row, rows, _⟩ := append_carries done
    rw [rows]
    exact List.subset_append_left _ _
  · exact List.Subset.refl _

namespace Folds

variable {state : Folds} {windows : List Folded} {fresh : Folded} {change : Folded → Folded}

theorem enter_cons_ne {folded : Folded} (other : folded.window.key ≠ fresh.window.key) :
    enter (folded :: windows) fresh change = folded :: enter windows fresh change := by
  unfold enter
  rw [List.any_cons, beq_eq_false_iff_ne.mpr other, Bool.false_or]
  split
  · rw [List.map_cons, if_neg other]
  · rfl

theorem enter_cons_eq {folded : Folded} (same : folded.window.key = fresh.window.key)
    (apart : ∀ other ∈ windows, other.window.key ≠ fresh.window.key) :
    enter (folded :: windows) fresh change = change folded :: windows := by
  unfold enter
  rw [List.any_cons, beq_iff_eq.mpr same, Bool.true_or, if_pos rfl, List.map_cons, if_pos same]
  congr 1
  have unchanged : windows.map (fun other => if other.window.key = fresh.window.key then change other else other) =
      windows.map id := by
    apply List.map_congr_left
    intro other member
    exact if_neg (apart other member)
  rw [unchanged, List.map_id]

theorem enter_calls {call : Nat} (distinct : (windows.map fun folded => folded.window.key).Nodup)
    (empty : fresh.calls = []) (adds : ∀ folded, (change folded).calls = folded.calls ++ [call]) :
    ((enter windows fresh change).flatMap Folded.calls).Perm (windows.flatMap Folded.calls ++ [call]) := by
  induction windows with
  | nil =>
      show (List.flatMap Folded.calls [change fresh]).Perm _
      rw [List.flatMap_singleton, adds, empty]
      exact .refl _
  | cons folded rest ih =>
      obtain ⟨apart, distinct⟩ := List.nodup_cons.mp distinct
      by_cases same : folded.window.key = fresh.window.key
      · rw [enter_cons_eq same, List.flatMap_cons, List.flatMap_cons, adds, List.append_assoc, List.append_assoc]
        · exact List.perm_append_comm.append_left _
        · intro other member is
          exact apart (List.mem_map.mpr ⟨other, member, is.trans same.symm⟩)
      · rw [enter_cons_ne same, List.flatMap_cons, List.flatMap_cons, List.append_assoc]
        exact (ih distinct).append_left _

theorem enter_keys (keeps : ∀ folded, (change folded).window.key = folded.window.key) :
    (enter windows fresh change).map (fun folded => folded.window.key) =
      windows.map (fun folded => folded.window.key) ∨
    fresh.window.key ∉ windows.map (fun folded => folded.window.key) ∧
      (enter windows fresh change).map (fun folded => folded.window.key) =
        windows.map (fun folded => folded.window.key) ++ [fresh.window.key] := by
  unfold enter
  by_cases held : (windows.any fun folded => folded.window.key == fresh.window.key) = true
  · left
    rw [if_pos held, List.map_map]
    apply List.map_congr_left
    intro folded _
    show (if folded.window.key = fresh.window.key then change folded else folded).window.key = folded.window.key
    split
    · exact keeps folded
    · rfl
  · right
    rw [if_neg held, List.map_append, List.map_singleton, keeps]
    refine ⟨fun inside => held ?_, rfl⟩
    obtain ⟨folded, member, same⟩ := List.mem_map.mp inside
    exact List.any_eq_true.mpr ⟨folded, member, beq_iff_eq.mpr same⟩

theorem mem_enter {folded : Folded} (inside : folded ∈ enter windows fresh change) :
    folded ∈ windows ∨ ∃ before, folded = change before ∧
      (before = fresh ∧ (∀ other ∈ windows, other.window.key ≠ fresh.window.key) ∨
        before ∈ windows ∧ before.window.key = fresh.window.key) := by
  unfold enter at inside
  split at inside
  · obtain ⟨before, member, is⟩ := List.mem_map.mp inside
    split at is
    · rename_i same
      exact .inr ⟨before, is.symm, .inr ⟨member, same⟩⟩
    · exact .inl (is ▸ member)
  · rename_i apart
    rcases List.mem_append.mp inside with held | new
    · exact .inl held
    · refine .inr ⟨fresh, List.mem_singleton.mp new, .inl ⟨rfl, ?_⟩⟩
      intro other member same
      exact apart (List.any_eq_true.mpr ⟨other, member, beq_iff_eq.mpr same⟩)

theorem holders_takeOut (taken : Folded → Bool) : (state.takeOut taken).holders.Perm state.holders := by
  unfold takeOut holders
  dsimp only
  rw [List.flatten_append, List.flatten_singleton]
  apply List.Perm.append_right
  have parts : (state.windows.filter (fun folded => !taken folded) ++ state.windows.filter taken).Perm
      state.windows := List.perm_append_comm.trans (List.filter_append_perm taken state.windows)
  have swapped : (state.closing.flatten ++ state.windows.filter taken).Perm
      (state.windows.filter taken ++ state.closing.flatten) := List.perm_append_comm
  have apart := swapped.append_left (state.windows.filter fun folded => !taken folded)
  refine apart.trans ?_
  rw [← List.append_assoc]
  exact parts.append_right _

theorem flatten_set {closing : List (List Folded)} {index : Nat} {taken : List Folded}
    (found : closing[index]? = some taken) (rest : List Folded) :
    (closing.set index rest).flatten.Perm (rest ++ (closing.set index []).flatten) := by
  induction closing generalizing index with
  | nil => cases found
  | cons first others ih =>
      cases index with
      | zero => exact .refl _
      | succ index =>
          rw [List.set_cons_succ, List.set_cons_succ, List.flatten_cons, List.flatten_cons]
          have later := (ih found).append_left first
          rw [← List.append_assoc] at later
          refine later.trans ?_
          rw [← List.append_assoc]
          exact List.perm_append_comm.append_right _

theorem flatten_closing {closing : List (List Folded)} {index : Nat} {taken : List Folded}
    (found : closing[index]? = some taken) : closing.flatten.Perm (taken ++ (closing.set index []).flatten) := by
  have same : closing.set index taken = closing := by
    obtain ⟨inside, is⟩ := List.getElem?_eq_some_iff.mp found
    rw [← is]
    exact List.set_getElem_self inside
  have split := flatten_set found taken
  rw [same] at split
  exact split

/-- What becomes of the window a caller is to seal. -/
inductive Sealing (ext : External) (checkShape : Value → Result Unit) (config : FoldConfig) (state : Folds)
    (index : Nat) (folded : Folded) (rest : List Folded) (now createdAt : String) (next : Folds) : Bool → Prop where
  | lost (left : List Folded) (among : left ⊆ rest)
      (same : next = { state with closing := state.closing.set index left }) :
      Sealing ext checkShape config state index folded rest now createdAt next true
  | chained (emission : Emission) (chain : GatewayStore) (id : String)
      (built : Folds.emission config state.keys folded.window now createdAt = some emission)
      (done : append ext checkShape state.chain emission = .ok (chain, id))
      (same : next = { state with
        chain
        closing := state.closing.set index rest
        sealed := state.sealed ++ [(folded, id)] }) :
      Sealing ext checkShape config state index folded rest now createdAt next false

theorem step_close {index : Nat} {folded : Folded} {rest : List Folded} {now createdAt : String} {interrupted : Bool}
    (found : state.closing[index]? = some (folded :: rest)) :
    Sealing ext checkShape config state index folded rest now createdAt
      (step ext checkShape config state (.close index now createdAt interrupted))
      (loses ext checkShape config state (.close index now createdAt interrupted)) := by
  have losing : loses ext checkShape config state (.close index now createdAt interrupted) =
      (interrupted || ((emission config state.keys folded.window now createdAt).all fun emission =>
        !(append ext checkShape state.chain emission).isOk)) := by
    unfold loses
    dsimp only
    rw [found]
    rfl
  have stepped : step ext checkShape config state (.close index now createdAt interrupted) =
      sealNext ext checkShape config state index folded rest now createdAt interrupted := by
    unfold step
    dsimp only
    rw [found]
  rw [losing, stepped]
  unfold sealNext
  cases built : emission config state.keys folded.window now createdAt with
  | none =>
      rw [Option.all_none, Bool.or_true]
      exact .lost rest (List.Subset.refl _) rfl
  | some emission =>
      dsimp only
      cases interrupted with
      | true => exact .lost [] (List.nil_subset _) rfl
      | false =>
          rw [Bool.false_or, Option.all_some]
          cases done : append ext checkShape state.chain emission with
          | ok pair => exact .chained emission pair.1 pair.2 built done rfl
          | error refusal =>
              refine .lost _ ?_ rfl
              split
              · exact List.Subset.refl _
              · exact List.nil_subset _

/-- A caller is to seal a window, or has none left. -/
theorem step_close_cases (index : Nat) (now createdAt : String) (interrupted : Bool) :
    (∃ folded rest, state.closing[index]? = some (folded :: rest)) ∨
      step ext checkShape config state (.close index now createdAt interrupted) = state ∧
        loses ext checkShape config state (.close index now createdAt interrupted) = false := by
  cases found : state.closing[index]? with
  | none =>
      right
      unfold step loses
      dsimp only
      rw [found]
      exact ⟨rfl, rfl⟩
  | some taken =>
      cases taken with
      | nil =>
          right
          unfold step loses
          dsimp only
          rw [found]
          exact ⟨rfl, rfl⟩
      | cons folded rest => exact .inl ⟨folded, rest, rfl⟩

/-- A window that is held after one is to be sealed was held before. -/
theorem Sealing.holders {index : Nat} {folded : Folded} {rest : List Folded} {now createdAt : String} {next : Folds}
    {lost : Bool} (found : state.closing[index]? = some (folded :: rest))
    (sealing : Sealing ext checkShape config state index folded rest now createdAt next lost) :
    ∀ other ∈ next.holders, other ∈ state.holders := by
  have all := flatten_closing found
  have fewer : ∀ (left : List Folded), left ⊆ rest → ∀ other ∈ (state.closing.set index left).flatten,
      other ∈ state.closing.flatten := by
    intro left among other inside
    rw [all.mem_iff]
    rcases List.mem_append.mp ((flatten_set found left).mem_iff.mp inside) with kept | elsewhere
    · exact List.mem_append_left _ (List.mem_cons_of_mem _ (among kept))
    · exact List.mem_append_right _ elsewhere
  have own : folded ∈ state.closing.flatten := by
    rw [all.mem_iff]
    exact List.mem_append_left _ List.mem_cons_self
  intro other inside
  cases sealing with
  | lost left among same =>
      subst same
      rcases List.mem_append.mp inside with front | isSealed
      · apply List.mem_append_left
        rcases List.mem_append.mp front with isOpen | inClosing
        · exact List.mem_append_left _ isOpen
        · exact List.mem_append_right _ (fewer left among other inClosing)
      · exact List.mem_append_right _ isSealed
  | chained emission chain id built done same =>
      subst same
      rcases List.mem_append.mp inside with front | isSealed
      · apply List.mem_append_left
        rcases List.mem_append.mp front with isOpen | inClosing
        · exact List.mem_append_left _ isOpen
        · exact List.mem_append_right _ (fewer rest (List.Subset.refl _) other inClosing)
      · rw [List.map_append, List.map_singleton] at isSealed
        rcases List.mem_append.mp isSealed with before | last
        · exact List.mem_append_right _ before
        · rw [List.mem_singleton.mp last]
          exact List.mem_append_left _ (List.mem_append_right _ own)

structure Inv (config : FoldConfig) (state : Folds) : Prop where
  truthful : Truthful config state
  distinct : (state.windows.map fun folded => folded.window.key).Nodup

namespace Inv

theorem takeOut (inv : Inv config state) (taken : Folded → Bool) : Inv config (state.takeOut taken) := by
  constructor
  · constructor
    · intro folded inside
      exact inv.truthful.counts folded ((holders_takeOut taken).mem_iff.mp inside)
    · exact inv.truthful.sealed
    · exact inv.truthful.apart
  · exact inv.distinct.sublist (List.filter_sublist.map _)

theorem foldRead (inv : Inv config state) {key : Signed.SigningKey} {subject openedAt readAt : String}
    {read : FoldedRead} : Inv config (Folds.foldRead config state key subject read openedAt readAt) := by
  unfold Folds.foldRead
  dsimp only
  apply takeOut
  have held := inv.truthful.counts
  unfold holders at held
  constructor
  · constructor
    · intro folded inside
      show Counts (state.calls ++ [read]) folded
      unfold holders at inside
      dsimp only at inside
      rw [List.append_assoc] at inside held
      rcases List.mem_append.mp inside with entered | other
      · rcases mem_enter entered with before | ⟨before, rfl, which⟩
        · exact (held folded (List.mem_append_left _ before)).later read
        · rcases which with ⟨rfl, _⟩ | ⟨member, same⟩
          · exact Counts.add (.inl ⟨rfl, rfl⟩) rfl
          · exact Counts.add (.inr (held before (List.mem_append_left _ member))) same
      · exact (held folded (List.mem_append_right _ other)).later read
    · exact inv.truthful.sealed
    · exact inv.truthful.apart
  · have keys := @enter_keys state.windows { window := .start read.key openedAt config.maxSamples, calls := [] }
      (fun folded => {
        window := folded.window.add (read.action, read.argsHash, readAt)
        calls := folded.calls ++ [state.calls.length] }) fun _ => rfl
    rcases keys with same | ⟨fresh, appended⟩
    · dsimp only
      rw [same]
      exact inv.distinct
    · dsimp only
      rw [appended]
      exact List.nodup_append.mpr ⟨inv.distinct, List.nodup_singleton _, fun held inside last isLast => by
        rw [List.mem_singleton.mp isLast]
        intro same
        exact fresh (same ▸ inside)⟩

theorem close (inv : Inv config state) {index : Nat} {folded : Folded} {rest : List Folded} {now createdAt : String}
    {next : Folds} {lost : Bool} (found : state.closing[index]? = some (folded :: rest))
    (sealing : Sealing ext checkShape config state index folded rest now createdAt next lost) : Inv config next := by
  have fewer := sealing.holders found
  cases sealing with
  | lost left among same =>
      subst same
      refine ⟨⟨?_, inv.truthful.sealed, inv.truthful.apart⟩, inv.distinct⟩
      exact fun other inside => inv.truthful.counts other (fewer other inside)
  | chained emission chain id built done same =>
      subst same
      obtain ⟨row, rows, isId, stream, carries, fresh⟩ := append_carries done
      have grows : state.chain.envelopes ⊆ chain.envelopes := by
        rw [rows]
        exact List.subset_append_left _ _
      refine ⟨⟨?_, ?_, ?_⟩, inv.distinct⟩
      · exact fun other inside => inv.truthful.counts other (fewer other inside)
      · intro entry inside
        rcases List.mem_append.mp inside with before | last
        · exact (inv.truthful.sealed entry before).later grows
        · rw [List.mem_singleton.mp last]
          obtain ⟨signer, _, rfl⟩ := Option.map_eq_some_iff.mp built
          refine ⟨row, ?_, isId, stream, signer.2, now, carries⟩
          rw [rows]
          exact List.mem_append_right _ List.mem_cons_self
      · rw [List.map_append, List.map_singleton]
        refine List.nodup_append.mpr ⟨inv.truthful.apart, List.nodup_singleton _, ?_⟩
        intro other inside last isLast
        rw [List.mem_singleton.mp isLast]
        obtain ⟨entry, member, rfl⟩ := List.mem_map.mp inside
        obtain ⟨held, listed, isHeld, _⟩ := inv.truthful.sealed entry member
        rw [← isHeld]
        exact fresh held listed

theorem step (inv : Inv config state) (event : FoldEvent) : Inv config (Folds.step ext checkShape config state event) := by
  cases event with
  | fold key subject read openedAt readAt => exact inv.foldRead
  | expire deadline => exact inv.takeOut _
  | flush => exact inv.takeOut _
  | emit emission =>
      exact ⟨⟨inv.truthful.counts, fun entry member => (inv.truthful.sealed entry member).later step_grows,
        inv.truthful.apart⟩, inv.distinct⟩
  | close index now createdAt interrupted =>
      rcases @step_close_cases ext checkShape config state index now createdAt interrupted with
        ⟨folded, rest, found⟩ | ⟨same, _⟩
      · exact inv.close found (step_close found)
      · rw [same]
        exact inv

end Inv

theorem Inv.of_reachable (reached : (folding ext checkShape config).Reachable state) : Inv config state := by
  refine reached.invariant (Inv config) ?_ fun _ event _ inv => inv.step event
  intro first start
  obtain ⟨chain, rfl⟩ := start
  refine ⟨⟨?_, ?_, List.nodup_nil⟩, List.nodup_nil⟩
  · exact fun folded inside => absurd inside List.not_mem_nil
  · exact fun entry inside => absurd inside List.not_mem_nil

theorem accounted_takeOut (taken : Folded → Bool) : Accounted (state.takeOut taken) ↔ Accounted state := by
  have same := (@holders_takeOut state taken).flatMap_right Folded.calls
  exact ⟨fun known => same.symm.trans known, fun known => same.trans known⟩

/-- A call is counted as it is folded. -/
theorem accounted_foldRead (inv : Inv config state) (accounted : Accounted state) {key : Signed.SigningKey}
    {subject openedAt readAt : String} {read : FoldedRead} :
    Accounted (Folds.foldRead config state key subject read openedAt readAt) := by
  unfold Folds.foldRead
  apply (accounted_takeOut _).mpr
  unfold Accounted holders at accounted ⊢
  dsimp only
  rw [List.append_assoc, List.flatMap_append] at accounted ⊢
  rw [List.length_append, List.length_singleton, List.range_succ]
  have entered := @enter_calls state.windows { window := .start read.key openedAt config.maxSamples, calls := [] }
    (fun folded => {
      window := folded.window.add (read.action, read.argsHash, readAt)
      calls := folded.calls ++ [state.calls.length] }) state.calls.length inv.distinct rfl fun _ => rfl
  refine (entered.append_right _).trans ?_
  rw [List.append_assoc]
  have moved := (@List.perm_append_comm _ [state.calls.length]
    ((state.closing.flatten ++ state.sealed.map Prod.fst).flatMap Folded.calls)).append_left
      (state.windows.flatMap Folded.calls)
  refine moved.trans ?_
  rw [← List.append_assoc]
  exact accounted.append_right _

/-- A window that is sealed keeps its calls counted, and one that is lost does not. -/
theorem accounted_close (inv : Inv config state) (accounted : Accounted state) {index : Nat} {folded : Folded}
    {rest : List Folded} {now createdAt : String} {next : Folds} {lost : Bool}
    (found : state.closing[index]? = some (folded :: rest))
    (sealing : Sealing ext checkShape config state index folded rest now createdAt next lost) :
    lost = false ↔ Accounted next := by
  have all := flatten_closing found
  cases sealing with
  | chained emission chain id built done same =>
      subst same
      refine iff_of_true rfl (List.Perm.trans ?_ accounted)
      unfold holders
      dsimp only
      apply List.Perm.flatMap_right
      rw [List.append_assoc, List.append_assoc, List.map_append, List.map_singleton]
      apply List.Perm.append_left
      have kept := flatten_set found rest
      calc
        ((state.closing.set index rest).flatten ++ (state.sealed.map Prod.fst ++ [folded])).Perm
            (folded :: ((state.closing.set index rest).flatten ++ state.sealed.map Prod.fst)) := by
          rw [← List.append_assoc]
          exact List.perm_append_singleton _ _
        List.Perm _ (folded :: (rest ++ (state.closing.set index []).flatten ++ state.sealed.map Prod.fst)) :=
          (kept.append_right _).cons _
        List.Perm _ (state.closing.flatten ++ state.sealed.map Prod.fst) := (all.append_right _).symm
  | lost left among same =>
      subst same
      refine iff_of_false (by decide) fun still => ?_
      have parts : state.holders.Perm
          (folded :: (state.windows ++ (rest ++ (state.closing.set index []).flatten ++ state.sealed.map Prod.fst))) := by
        unfold holders
        rw [List.append_assoc]
        exact ((all.append_right _).append_left _).trans List.perm_middle
      have own : folded ∈ state.holders := parts.mem_iff.mpr List.mem_cons_self
      obtain ⟨call, isCall⟩ := List.exists_mem_of_ne_nil _ (inv.truthful.counts folded own).some_
      have once : (state.holders.flatMap Folded.calls).Nodup := accounted.nodup_iff.mpr List.nodup_range
      have apart := (parts.flatMap_right Folded.calls).nodup_iff.mp once
      rw [List.flatMap_cons] at apart
      have elsewhere := (List.nodup_append.mp apart).2.2 call isCall
      have made : call ∈ List.range state.calls.length :=
        accounted.mem_iff.mp (List.mem_flatMap.mpr ⟨folded, own, isCall⟩)
      obtain ⟨other, inside, counted⟩ := List.mem_flatMap.mp (still.mem_iff.mpr made)
      refine elsewhere call (List.mem_flatMap.mpr ⟨other, ?_, counted⟩) rfl
      rcases List.mem_append.mp inside with front | isSealed
      · rcases List.mem_append.mp front with isOpen | inClosing
        · exact List.mem_append_left _ isOpen
        · apply List.mem_append_right
          apply List.mem_append_left
          rcases List.mem_append.mp ((flatten_set found left).mem_iff.mp inClosing) with kept | other_
          · exact List.mem_append_left _ (among kept)
          · exact List.mem_append_right _ other_
      · exact List.mem_append_right _ (List.mem_append_right _ isSealed)

theorem accounted_step (reached : (folding ext checkShape config).Reachable state) (event : FoldEvent)
    (accounted : Accounted state) :
    state.loses ext checkShape config event = false ↔ Accounted (step ext checkShape config state event) := by
  have inv := Inv.of_reachable reached
  cases event with
  | fold key subject read openedAt readAt => exact iff_of_true rfl (accounted_foldRead inv accounted)
  | expire deadline => exact iff_of_true rfl ((accounted_takeOut _).mpr accounted)
  | flush => exact iff_of_true rfl ((accounted_takeOut _).mpr accounted)
  | emit emission => exact iff_of_true rfl accounted
  | close index now createdAt interrupted =>
      rcases @step_close_cases ext checkShape config state index now createdAt interrupted with
        ⟨folded, rest, found⟩ | ⟨same, kept⟩
      · exact accounted_close inv accounted found (step_close found)
      · rw [same]
        exact iff_of_true kept accounted

end Folds

/-- Every call of a read is counted once, in a window that is open or being sealed or in one aggregate of the local
chain, just when no window that is taken out of the table fails to be chained. -/
theorem folded_once_iff (chain : GatewayStore) (events : List FoldEvent) :
    ((folding ext checkShape config).EachStep (.onto chain) events
        (fun state event => state.loses ext checkShape config event = false) ↔
      (folding ext checkShape config).EachState (.onto chain) events Accounted) ∧
    (folding ext checkShape config).EachState (.onto chain) events (Truthful config) := by
  have reached : (folding ext checkShape config).Reachable (.onto chain) := .of_start ⟨chain, rfl⟩
  constructor
  · exact System.eachStep_iff_states (fun _ event reaches accounted => Folds.accounted_step reaches event accounted)
      reached (.refl _) events
  · intro before after _
    exact (Folds.Inv.of_reachable (reached.run before)).truthful

end Stozher.Gateway

namespace Stozher.Deployment

open Library Gateway

def foldConfig : FoldConfig where
  gateway := gatewayConfig
  maxEvents := 500
  maxSamples := 8

/-- Reads of two sessions are flushed, and the database fails the first of the two writes. -/
def flushed : List FoldEvent :=
  ["ops:reads", "ops:notes"].map (fun stream =>
    .fold (Recorded.signingKey records opsId) "agent:ops" {
      key := { stream, subjectKey := opsKey, mandateRef := opsMandate.digest, policyVersion := "1" }
      action := "github.read_secret"
      argsHash := noArguments.digest } nine nine) ++
    [.flush, .close 2 ten ten true]

/-- Neither session's read is counted in a window or in an aggregate. -/
theorem flushed_lost : ¬ ∀ (chain : GatewayStore) (events : List FoldEvent),
    (folding ext (fun _ => .ok ()) foldConfig).EachState (.onto chain) events Accounted := by
  intro claim
  have last := claim { envelopes := [] } flushed flushed [] (List.append_nil _).symm
  exact absurd last.length_eq (by decide +kernel)

end Stozher.Deployment
