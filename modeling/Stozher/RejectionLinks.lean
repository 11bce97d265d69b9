import Stozher.ChainVerification

namespace Stozher

open Library Ingest

variable {ext : External} {config : Config}

/-- A refusal and the one recorded after it. -/
structure RejectionRow.Precedes (earlier later : RejectionRow) : Prop where
  seq : later.seq = earlier.seq + 1
  prevHash : later.prevHash = some earlier.id

/-- Refusals without a gap, each naming the object before it. -/
structure RejectionsLinked (ext : External) (rows : List RejectionRow) : Prop where
  starts : ∀ first, rows.head? = some first → first.seq = 0 ∧ first.prevHash = none
  linked : rows.IsChain RejectionRow.Precedes
  identified : ∀ row ∈ rows, Signed.objectId ext row.recordJson.tree = .ok row.id

/-- What a database file holds: SQLite keeps at most `2^48` octets, and a row takes one at least. -/
def Store.FitsDatabase (store : Store) : Prop :=
  store.rejections.length ≤ 2 ^ 48

namespace Store

theorem linked_snoc {rows : List RejectionRow} {row : RejectionRow} (chain : RejectionsOk ext config rows)
    (linked : RejectionsLinked ext rows) (next : NextRejection ext config rows row) :
    RejectionsLinked ext (rows ++ [row]) := by
  have seq := next.seq
  have prevHash := next.prevHash
  constructor
  · intro first head
    cases rows with
    | nil =>
        cases head
        exact ⟨seq, prevHash⟩
    | cons other rest =>
        apply linked.starts first
        rw [List.cons_append, List.head?_cons] at head
        exact head
  · rw [List.isChain_append]
    refine ⟨linked.linked, List.isChain_singleton row, ?_⟩
    intro last isLast other isRow
    cases isRow
    rw [Option.mem_def] at isLast
    have follows := chain.seqAfter_head
    rw [isLast] at follows prevHash
    exact ⟨seq.trans follows.symm, prevHash⟩
  · intro other member
    rcases List.mem_append.mp member with earlier | new
    · exact linked.identified other earlier
    · rw [List.mem_singleton.mp new]
      exact next.identified

end Store

namespace World

theorem rejections_linked {world : World} (signs : config.kernelKey.Signs ext)
    (reached : (kernel ext config).Reachable world) :
    world.store.rejections.length ≤ 2 ^ 53 + 1 →
      Store.RejectionsOk ext config world.store.rejections ∧ RejectionsLinked ext world.store.rejections := by
  apply World.invariant ext config (fun world => world.store.rejections.length ≤ 2 ^ 53 + 1 →
    Store.RejectionsOk ext config world.store.rejections ∧ RejectionsLinked ext world.store.rejections) ?_ ?_ reached
  · intro _
    refine ⟨⟨rfl, fun _ none => absurd none List.not_mem_nil, rfl⟩, ?_, List.isChain_nil, ?_⟩
    · intro first none
      cases none
    · intro row none
      cases none
  · intro world _ next _ holds step counted
    rcases step.rejections with same | ⟨input, recorded, done, longer⟩
    · rw [same] at counted ⊢
      exact holds counted
    · obtain ⟨chain, linked⟩ := holds (by omega)
      obtain ⟨row, after, written⟩ := Store.recordRejection_next chain (by omega) done
      rw [after]
      exact ⟨chain.snoc signs written, Store.linked_snoc chain linked written⟩

/-- The kernel's chain of refusals has no gap, links each refusal to the one before it, and verifies. -/
theorem rejection_chain_verifies {world : World} (signs : config.kernelKey.Signs ext)
    (reached : (kernel ext config).Reachable world) (fits : world.store.FitsDatabase) :
    RejectionsLinked ext world.store.rejections ∧
      Store.verifyRejectionChain ext config.rejectionStream 0 none world.store.rejectionChain =
        .ok (world.store.rejections.getLast?.map RejectionRow.id) := by
  unfold Store.FitsDatabase at fits
  obtain ⟨chain, linked⟩ := rejections_linked signs reached (by omega)
  have sorted : world.store.rejections.insertionSort (fun a b => a.seq ≤ b.seq) = world.store.rejections :=
    List.Pairwise.insertionSort_eq (chain.increasing.imp fun less => le_of_lt less)
  refine ⟨linked, ?_⟩
  unfold Store.rejectionChain
  rw [sorted]
  exact chain.verified

end World

end Stozher

namespace Stozher.Deployment

theorem refusals_verify : RejectionsLinked ext (after resumed).store.rejections ∧
    Store.verifyRejectionChain ext config.rejectionStream 0 none (after resumed).store.rejectionChain =
      .ok ((after resumed).store.rejections.getLast?.map RejectionRow.id) := by
  have refused := congrArg Observed.bridging observed_eq
  dsimp only [observed] at refused
  have rows := congrArg StreamSeen.refused refused
  dsimp only [streamSeen] at rows
  have counted := congrArg List.length rows
  rw [List.length_map] at counted
  apply World.rejection_chain_verifies kernel_signs (reachable resumed)
  unfold Store.FitsDatabase
  rw [counted]
  decide

end Stozher.Deployment
