import Stozher.ChainShape

namespace Stozher

open Library Ingest

variable {ext : External} {config : Config}

namespace Store

variable {store : Store} {plan : AppendPlan} {stream : String}

/-- Everything an append does for an envelope besides finding its position. -/
def writeElsewhere (store : Store) (plan : AppendPlan) : Result Store := do
  checkStreamKind store plan
  let gated ← consumeGate store plan
  let row ← envelopeRow plan
  writeProjections plan
    (insertPayloads { gated with envelopes := gated.envelopes ++ [row] } plan)

/-- Nothing besides its position keeps an envelope out of the store. -/
def Writable (store : Store) (plan : AppendPlan) : Prop :=
  isOk (writeElsewhere store plan) = true

instance : Decidable (Writable store plan) :=
  inferInstanceAs (Decidable (_ = true))

theorem ofStream_empty (empty : store.streamHead stream = none) : store.ofStream stream = [] := by
  unfold streamHead at empty
  rwa [Option.map_eq_none_iff, Table.topBy_eq_none] at empty

theorem head_mem {headSeq : Nat} {headId : String}
    (head : store.streamHead stream = some (headSeq, headId)) :
    (∃ row ∈ store.ofStream stream, row.seq = headSeq ∧ row.id = headId) ∧
      ∀ row ∈ store.ofStream stream, row.seq ≤ headSeq := by
  unfold streamHead at head
  rw [Option.map_eq_some_iff] at head
  obtain ⟨top, found, same⟩ := head
  cases same
  exact ⟨⟨top, Table.topBy_mem found, rfl, rfl⟩, fun row member => Table.topBy_le found member⟩

/-- The triggers on the table admit whatever the position check admits. -/
theorem triggers_of_position {row : EnvelopeRow} (position : Position store plan) (of : row.Of plan)
    (small : plan.seq < 2 ^ 63) : store.chainTriggersAdmit row = true := by
  have seq : row.seq = plan.seq := by rw [of.seq, saturate_of_lt small]
  unfold chainTriggersAdmit
  rw [seq, of.stream, of.prevHash]
  cases position with
  | first empty zero prevHash =>
      have none : ∀ other ∈ store.envelopes, other.stream ≠ plan.stream := by
        intro other member same
        have inside := mem_ofStream.mpr ⟨member, same⟩
        rw [ofStream_empty empty] at inside
        cases inside
      rw [if_neg (by omega), prevHash]
      simpa using none
  | firstBridged hash empty one resumed prevHash =>
      obtain ⟨resume, member, stream, position, bridge⟩ := streamResume_bridges (by decide) resumed
      rw [if_pos (by omega), Bool.or_eq_true]
      refine Or.inr (List.any_eq_true.mpr ⟨resume, member, ?_⟩)
      simp [stream, position, bridge, one, prevHash]
  | next headSeq headId head after prevHash =>
      obtain ⟨⟨top, member, topSeq, topId⟩, _⟩ := head_mem head
      obtain ⟨held, stream⟩ := mem_ofStream.mp member
      rw [if_pos (by omega), Bool.or_eq_true]
      refine Or.inl (List.any_eq_true.mpr ⟨top, held, ?_⟩)
      simp [stream, topSeq, topId, after, prevHash]
  | nextBridged headSeq headId hash head after resumed prevHash =>
      obtain ⟨resume, member, stream, position, bridge⟩ := streamResume_bridges (by omega) resumed
      rw [if_pos (by omega), Bool.or_eq_true]
      refine Or.inr (List.any_eq_true.mpr ⟨resume, member, ?_⟩)
      simp [stream, position, bridge, after, prevHash]

/-- No stored envelope stands where the position check lets one go. -/
theorem seq_free_of_position (position : Position store plan) {other : EnvelopeRow}
    (member : other ∈ store.envelopes) (same : other.stream = plan.stream) : other.seq ≠ plan.seq := by
  have inside := mem_ofStream.mpr ⟨member, same⟩
  cases position with
  | first empty _ _ =>
      rw [ofStream_empty empty] at inside
      cases inside
  | firstBridged _ empty _ _ _ =>
      rw [ofStream_empty empty] at inside
      cases inside
  | next headSeq _ head after _ =>
      have := (head_mem head).2 other inside
      omega
  | nextBridged headSeq _ _ head after _ _ =>
      have := (head_mem head).2 other inside
      omega

/-- An envelope the store does not hold is appended exactly when its position and everything else
allow it. -/
theorem append_isOk_iff (fresh : store.envelopeById plan.id = none) (small : plan.seq < 2 ^ 63) :
    isOk (store.append plan) = true ↔ Position store plan ∧ Writable store plan := by
  unfold append Writable writeElsewhere
  rw [fresh]
  unfold appendFresh insertEnvelope
  simp only [isOk_iff, bind_eq_ok, pure_eq_ok, require_eq_ok]
  constructor
  · rintro ⟨_, next, ⟨_, kind, _, position, gated, gate, inserted, ⟨row, built, _, _, _, _, rfl⟩, written,
      projected, _⟩, _⟩
    exact ⟨checkPosition_eq_ok.mp position, written, (), kind, gated, gate, row, built, projected⟩
  · rintro ⟨position, written, _, kind, gated, gate, row, built, projected⟩
    have of := envelopeRow_eq_ok built
    obtain ⟨rows, rfl⟩ := consumeGate_eq_ok gate
    have admitted := triggers_of_position position of small
    refine ⟨_, _, ⟨(), kind, (), checkPosition_eq_ok.mpr position, _, gate, _, ⟨row, built, (), admitted,
      (), ?_, rfl⟩, written, projected, rfl⟩, rfl⟩
    rw [List.all_eq_true]
    intro other member
    have other_id : other.id ≠ plan.id := by
      unfold envelopeById at fresh
      simpa using List.find?_eq_none.mp fresh other member
    have other_seq : other.stream = row.stream → other.seq ≠ row.seq := by
      intro same
      rw [of.seq, saturate_of_lt small]
      exact seq_free_of_position position member (same.trans of.stream)
    rw [of.id]
    by_cases same : other.stream = row.stream
    · simp [same, other_seq same, other_id]
    · simp [same, other_id]

/-- Right after the position a resume bridges, only the bridge hash leads on. -/
theorem position_at_bridge (here : plan.seq = store.bridgeableAt plan.stream) :
    Position store plan ↔ ∃ hash, store.streamResume plan.stream (plan.seq - 1) = some hash ∧
      plan.prevHash = some hash := by
  have across : Position store plan ↔ store.bridged plan = true := by
    rw [← checkPosition_eq_ok]
    unfold checkPosition
    dsimp only
    unfold bridgeableAt at here
    cases head : store.streamHead plan.stream with
    | none =>
        rw [head] at here
        dsimp only at here ⊢
        rw [require_bind_eq_ok, require_eq_ok]
        constructor
        · rintro ⟨zero | bridged, _⟩
          · omega
          · exact bridged
        · intro bridged
          exact ⟨Or.inr bridged, fun zero => by omega⟩
    | some pair =>
        obtain ⟨headSeq, headId⟩ := pair
        rw [head] at here
        dsimp only at here ⊢
        rw [if_neg (by omega), if_pos (by omega), require_eq_ok]
  rw [across, bridged_iff, here]
  simp

/-- Nothing goes further from the head than one bridge reaches. -/
theorem position_within (position : Position store plan) :
    plan.seq ≤ store.bridgeableAt plan.stream := by
  unfold bridgeableAt
  cases position with
  | first empty seq _ =>
      rw [empty]
      dsimp only
      omega
  | firstBridged _ empty seq _ _ =>
      rw [empty]
      dsimp only
      omega
  | next _ _ head seq _ =>
      rw [head]
      dsimp only
      omega
  | nextBridged _ _ _ head seq _ _ =>
      rw [head]
      dsimp only
      omega

end Store

end Stozher
