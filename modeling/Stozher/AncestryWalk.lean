import Stozher.ApproverSet
import Stozher.Mandate.Agreement
import Stozher.Deployment

namespace Stozher

open Library Ingest

variable {ext : External} {config : Config}

namespace Store

/-- Every stored mandate, by its id. -/
def mandateTable (store : Store) : Members :=
  store.mandates.foldr (fun row table => table.insert row.mandateId row.documentJson.tree) []

/-- Every stored revocation. -/
def revocationTable (store : Store) : List Value :=
  store.revocations.map fun row => row.documentJson.tree

/-- The columns of a stored mandate and of a stored revocation are those of their documents. -/
structure Consistent (store : Store) : Prop where
  parents : ∀ row ∈ store.mandates, row.parent = row.documentJson.tree.getStr "parent"
  targets : ∀ row ∈ store.revocations, row.documentJson.tree.getStr "revokes" = some row.revokes

variable {store : Store}

theorem mandateTable_distinct (store : Store) : store.mandateTable.Distinct := by
  unfold mandateTable
  induction store.mandates with
  | nil => exact .nil
  | cons row rest ih => exact ih.insert _ _

theorem mandateTable_get (store : Store) (id : String) : store.mandateTable.get id = store.mandate id := by
  unfold mandateTable mandate mandateRow
  induction store.mandates with
  | nil => rfl
  | cons row rest ih =>
      rw [List.foldr_cons, Members.get_insert]
      by_cases same : row.mandateId = id
      · rw [if_pos same, List.find?_cons_of_pos (by simpa using same)]
        rfl
      · rw [if_neg same, List.find?_cons_of_neg (by simpa using same)]
        exact ih

theorem mandateTable_parentOf (store : Store) : Mandate.parentOf store.mandateTable = store.parentOf := by
  funext id
  unfold Mandate.parentOf parentOf
  rw [mandateTable_get]

theorem ancestryFrom_distinct {hops : Nat} {chain : Members} {start : String}
    (distinct : chain.Distinct) : (store.ancestryFrom hops chain start).Distinct := by
  induction hops generalizing chain start with
  | zero => exact distinct
  | succ hops ih =>
      unfold ancestryFrom
      split
      · exact distinct
      · split
        · exact distinct
        · have grown := distinct.insert start
          dsimp only
          split
          · exact ih (grown _)
          · exact grown _

/-- What an ancestry collected it keeps. -/
theorem ancestryFrom_keeps {hops : Nat} {chain : Members} {start id : String} {value : Value}
    (held : chain.get id = some value) : (store.ancestryFrom hops chain start).get id = some value := by
  induction hops generalizing chain start with
  | zero => exact held
  | succ hops ih =>
      unfold ancestryFrom
      split
      · exact held
      · rename_i absent
        have other : start ≠ id := by
          intro same
          subst same
          simp [Members.containsKey, held] at absent
        split
        · exact held
        · have kept : ∀ tree, (chain.insert start tree).get id = some value := by
            intro tree
            rw [Members.get_insert_of_ne other]
            exact held
          dsimp only
          split
          · exact ih (kept _)
          · exact kept _

theorem parentOf_of_row (consistent : store.Consistent) {id : String} {row : MandateRow}
    (found : store.mandateRow id = some row) : store.parentOf id = row.parent := by
  unfold parentOf
  rw [mandate_of_row found, Option.bind_some, consistent.parents row (List.mem_of_find?_eq_some found)]

/-- An ancestry of enough hops holds the whole path of stored parents. -/
theorem ancestryFrom_covers (consistent : store.Consistent) {rest : List String} {start : String}
    {hops : Nat} {chain : Members} (ascends : Ascends store.parentOf (start :: rest))
    (stored : ∀ link ∈ start :: rest, ∃ value, store.mandate link = some value)
    (enough : rest.length < hops) (apart : ∀ link ∈ start :: rest, chain.get link = none) :
    ∀ link ∈ start :: rest, (store.ancestryFrom hops chain start).get link = store.mandate link := by
  induction rest generalizing start hops chain with
  | nil =>
      obtain ⟨steps, rfl⟩ := Nat.exists_eq_succ_of_ne_zero (Nat.ne_of_gt enough)
      obtain ⟨value, found⟩ := stored start List.mem_cons_self
      obtain ⟨row, held, tree⟩ := Option.map_eq_some_iff.mp found
      have absent := apart start List.mem_cons_self
      have parent : row.parent = none := (parentOf_of_row consistent held).symm.trans ascends
      intro link member
      rw [List.mem_singleton] at member
      subst member
      unfold ancestryFrom
      rw [if_neg (by simp [Members.containsKey, absent]), held]
      dsimp only
      rw [parent]
      dsimp only
      rw [Members.get_insert_self, found, tree]
  | cons next others ih =>
      obtain ⟨steps, rfl⟩ := Nat.exists_eq_succ_of_ne_zero (Nat.ne_of_gt (Nat.zero_lt_of_lt enough))
      obtain ⟨value, found⟩ := stored start List.mem_cons_self
      obtain ⟨row, held, tree⟩ := Option.map_eq_some_iff.mp found
      have absent := apart start List.mem_cons_self
      have parent : row.parent = some next := (parentOf_of_row consistent held).symm.trans ascends.1
      have different : start ∉ next :: others := (List.nodup_cons.mp ascends.nodup).1
      have later : ∀ link ∈ next :: others, (chain.insert start row.documentJson.tree).get link = none := by
        intro link member
        have other : start ≠ link := fun same => different (same ▸ member)
        rw [Members.get_insert_of_ne other]
        exact apart link (List.mem_cons_of_mem _ member)
      have further := ih ascends.2 (fun link member => stored link (List.mem_cons_of_mem _ member))
        (Nat.lt_of_succ_lt_succ enough) later
      unfold ancestryFrom
      rw [if_neg (by simp [Members.containsKey, absent]), held]
      dsimp only
      rw [parent]
      dsimp only
      intro link member
      rcases List.mem_cons.mp member with rfl | above
      · rw [found]
        exact ancestryFrom_keeps (by rw [Members.get_insert_self, tree])
      · exact further link above

theorem mem_revocationsTargeting {ids : List String} {value : Value} :
    value ∈ store.revocationsTargeting ids ↔
      ∃ row ∈ store.revocations, row.revokes ∈ ids ∧ row.documentJson.tree = value := by
  unfold revocationsTargeting
  simp only [List.mem_flatMap, List.mem_map, List.mem_filter, beq_iff_eq]
  constructor
  · intro found
    rcases found with ⟨id, listed, row, ⟨member, same⟩, tree⟩
    exact ⟨row, member, same ▸ listed, tree⟩
  · intro found
    rcases found with ⟨row, member, listed, tree⟩
    exact ⟨row.revokes, listed, row, ⟨member, rfl⟩, tree⟩

/-- A walk over the ancestry an envelope's mandate is fetched with ends as a walk over the whole
tables does. -/
theorem walk_ancestry_iff (consistent : store.Consistent) {leafRef at_ : String} {roots : List KeyId}
    {subjectKey : KeyId} {depth : Nat} (fits : depth < 2 ^ 32) {request : Mandate.Scoped}
    {result : Mandate.MandateChainOk} :
    Mandate.walk ext (walkParams store leafRef roots subjectKey at_ depth).1 leafRef request
        (walkParams store leafRef roots subjectKey at_ depth).2 = .ok result ↔
      Mandate.walk ext store.mandateTable leafRef request {
        roots, revocations := store.revocationTable, at_, subjectKey, maxDelegationDepth := depth } =
        .ok result := by
  have fetched : (store.mandateAncestry leafRef depth).Distinct := ancestryFrom_distinct .nil
  constructor
  · intro walked
    refine Mandate.walk_transfer store.mandateTable_distinct ?_ ?_ walked
    · intro rest within link member
      obtain ⟨value, found⟩ := within.stored link member
      rw [mandateTable_get]
      exact (mandateAncestry_get found).trans found.symm
    · intro rest within link member revocation listed targets
      obtain ⟨row, held, rfl⟩ := List.mem_map.mp listed
      obtain ⟨value, found⟩ := within.stored link member
      have named : row.revokes = link :=
        Option.some.inj ((consistent.targets row held).symm.trans targets)
      exact mem_revocationsTargeting.mpr ⟨row, held, named ▸ Mandate.mem_keys_of_get found, rfl⟩
  · intro walked
    refine Mandate.walk_transfer fetched ?_ ?_ walked
    · intro rest within link member
      have ascends : Ascends store.parentOf (leafRef :: rest) :=
        store.mandateTable_parentOf ▸ within.ascends
      rw [mandateTable_get]
      refine ancestryFrom_covers consistent ascends ?_ ?_ (fun _ _ => rfl) link member
      · intro other inside
        obtain ⟨value, found⟩ := within.stored other inside
        exact ⟨value, (store.mandateTable_get other).symm.trans found⟩
      · have bounded : rest.length ≤ depth := within.bounded
        omega
    · intro rest within link member revocation listed targets
      obtain ⟨row, held, _, tree⟩ := mem_revocationsTargeting.mp listed
      exact List.mem_map.mpr ⟨row, held, tree⟩

end Store

namespace World

variable {world : World}

theorem consistent (reached : (kernel ext config).Reachable world) : world.store.Consistent := by
  refine ⟨?_, ?_⟩
  · intro row member
    obtain ⟨taken, inside, mandate, written⟩ := mandateRow_taken reached row member
    obtain ⟨before, after, at_⟩ := (traced reached).accepted taken inside
    obtain ⟨subjectKey, payloads, admitted⟩ := at_.origin.admitted
    have form := written.document
    rw [(admitted.grants written.projected).1] at form
    rw [← Except.ok.inj form]
    exact written.parent
  · intro row member
    exact (revocationRow_document reached member).1

/-- A walk over the fetched ancestry of a mandate, with the revocations of what was fetched, accepts
what a walk over every stored mandate and revocation accepts, with the same result. -/
theorem ancestry_walk_is_full_walk (reached : (kernel ext config).Reachable world) (leafRef : String)
    (request : Mandate.MandateRequest) (at_ : String) (roots : List KeyId) (subjectKey : KeyId)
    (depth : UInt32) (result : Mandate.MandateChainOk) :
    Mandate.verifyMandateChain ext (world.store.mandateAncestry leafRef depth.toNat) leafRef request {
        roots
        revocations := world.store.revocationsTargeting
          (world.store.mandateAncestry leafRef depth.toNat).keys
        at_, subjectKey, maxDelegationDepth := depth.toNat } = .ok result ↔
      Mandate.verifyMandateChain ext world.store.mandateTable leafRef request {
        roots, revocations := world.store.revocationTable
        at_, subjectKey, maxDelegationDepth := depth.toNat } = .ok result :=
  Store.walk_ancestry_iff (consistent reached) depth.toNat_lt

end World

end Stozher

namespace Stozher.Deployment

open Library

theorem founding_ancestry_walk :
    let store := (after founding).store
    let request : Mandate.MandateRequest := {
      action := "github.merge", component := "gateway", classification := "consequential", resource := "mcp:github" }
    ∀ result, Mandate.verifyMandateChain ext (store.mandateAncestry opsMandate.digest 3) opsMandate.digest
        request {
          roots := [anaId]
          revocations := store.revocationsTargeting (store.mandateAncestry opsMandate.digest 3).keys
          at_ := nine, subjectKey := opsId, maxDelegationDepth := 3 } = .ok result ↔
      Mandate.verifyMandateChain ext store.mandateTable opsMandate.digest request {
        roots := [anaId], revocations := store.revocationTable
        at_ := nine, subjectKey := opsId, maxDelegationDepth := 3 } = .ok result :=
  fun result => World.ancestry_walk_is_full_walk (reachable founding) opsMandate.digest _ nine [anaId] opsId 3
    result

end Stozher.Deployment
