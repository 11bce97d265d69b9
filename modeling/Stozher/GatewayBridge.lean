import Stozher.Gateway
import Stozher.Resumes
import Stozher.Deployment

namespace Stozher

open Library Ingest

variable {ext : External} {config : Config}

namespace World

/-- What the kernel refused of a gateway at one position: every record that claims it is of the same
locally chained envelope. -/
def RefusedOnly (ext : External) (world : World) (refused : Gateway.LocalEnvelope) : Prop :=
  ∀ rejection ∈ world.store.rejections, rejection.claimedStream = some refused.stream →
    rejection.claimedSeq = some refused.seq →
    Gateway.refusedHash ext refused = .ok rejection.objectHash

/-- Past a refused and resumed position the gateway's own next envelope is taken exactly when the
hash the kernel keeps of the refused request is the id of the envelope in it. -/
theorem gateway_continues_iff (reached : (kernel ext config).Reachable world)
    {checkShape : Value → Result Unit} {chain : Gateway.GatewayStore}
    (emitted : (Gateway.emitter ext checkShape).Reachable chain)
    {refused next : Gateway.LocalEnvelope} (first : refused ∈ chain.envelopes)
    (second : next ∈ chain.envelopes) (same : refused.stream = next.stream)
    (after : next.seq = refused.seq + 1) (only : RefusedOnly ext world refused)
    (resumed : world.ResumeAccepted refused.stream refused.seq)
    (below : world.store.bridgeableAt refused.stream = refused.seq + 1)
    {request : Submission} {snapshot : Store} {validated : Validated}
    (waiting : Task.append request snapshot validated ∈ world.tasks)
    (offered : validated.plan.envelope = next.envelope)
    (fresh : world.store.envelopeById validated.plan.id = none) :
    isOk (world.store.append validated.plan) = true ↔
      Signed.objectId ext refused.envelope = Gateway.refusedHash ext refused ∧
        Store.Writable world.store validated.plan := by
  have placed := ((traced reached).tasks _ _ _ waiting).placed
  obtain ⟨previous, chained, links⟩ := (Gateway.chainOk emitted).chained next second
  have previousIs := links refused first same after
  subst previousIs
  obtain ⟨_, own, _⟩ := (Gateway.chainOk emitted).chained refused first
  have within : validated.plan.stream = refused.stream := by
    have named := placed.hasStream
    rw [offered, chained.stream, Option.some.injEq] at named
    exact named.symm.trans same.symm
  have seq : validated.plan.seq = refused.seq + 1 := by
    have named := placed.hasSeq
    rw [offered] at named
    unfold Value.getU64 at named
    rw [chained.seq, Option.bind_some] at named
    unfold Value.ofNat at named
    split at named
    · have equal : next.seq = validated.plan.seq := Option.some.inj named
      exact equal.symm.trans after
    · cases named
  have prevHash : validated.plan.prevHash = some refused.id := by
    unfold AppendPlan.prevHash
    rw [offered, chained.prevHash]
  obtain ⟨hash, bridge⟩ := resumed.bridge reached
  have small := placed.small
  obtain ⟨row, _, _, _, _, _, rejection, recorded, stream, position, named⟩ :=
    approvedBridge reached (Store.streamResume_bridges (by omega) bridge)
  have kept := only rejection recorded stream position
  rw [named] at kept
  rw [Store.append_isOk_iff fresh (by omega), Store.position_at_bridge (by rw [within, below, seq]),
    within, seq, Nat.add_sub_cancel, bridge, prevHash, own.id, kept]
  refine and_congr_left fun _ => ?_
  constructor
  · rintro ⟨_, held, isHash⟩
    cases held
    cases isHash
    rfl
  · intro equal
    cases equal
    exact ⟨_, rfl, rfl⟩

end World

end Stozher

namespace Stozher.Deployment

open Library Ingest World

deriving instance DecidableEq for Gateway.LocalEnvelope

def noteEmission (emittedAt : String) : Gateway.Emission where
  key := Recorded.signingKey records opsId
  stream := "ops:notes"
  body := [("cost", .object [("requests", .ofNat 1)]), ("emitted-at", .string emittedAt),
    ("identity", opsIdentity), ("kind", .string "cognition"), ("mandate-ref", .string opsMandate.digest),
    ("resource", .object [("kind", .string "model"), ("name", .string "notes")]), ("v", .string "stozher/0.1")]
  payloads := []
  createdAt := nine

def locally (seq : Nat) (note : Recorded) : Gateway.LocalEnvelope where
  stream := "ops:notes"
  seq := seq
  id := note.digest
  envelope := note.document
  payloads := []
  createdAt := nine

/-- The local chain of the gateway the notes come from. -/
def noteChain : Gateway.GatewayStore where
  envelopes := [locally 0 firstNote, locally 1 refusedNote, locally 2 nextNote]

theorem noteChain_emitted : (Gateway.emitter ext fun _ => .ok ()).Reachable noteChain := by
  refine ⟨{ envelopes := [] }, [noteEmission nine, noteEmission ten, noteEmission nine], rfl, ?_⟩
  have rows : ((Gateway.emitter ext fun _ => .ok ()).run { envelopes := [] }
      [noteEmission nine, noteEmission ten, noteEmission nine]).envelopes = noteChain.envelopes := by
    decide +kernel
  generalize (Gateway.emitter ext fun _ => .ok ()).run _ _ = chain at rows ⊢
  cases chain
  exact congrArg Gateway.GatewayStore.mk rows

theorem refused_only : RefusedOnly ext (after resumed) (locally 1 refusedNote) := by
  have refused := congrArg StreamSeen.refused bridging_seen
  dsimp only [streamSeen] at refused
  have hash : Gateway.refusedHash ext (locally 1 refusedNote) = .ok refusedNoteBody.digest := by decide +kernel
  intro rejection held stream position
  have seen := List.mem_map_of_mem (f := fun row : RejectionRow =>
    (row.claimedStream, row.claimedSeq, row.objectHash)) held
  rw [refused, stream, position] at seen
  rw [hash]
  rcases List.mem_cons.mp seen with first | rest
  · rw [Prod.mk.injEq, Prod.mk.injEq] at first
    rw [first.2.2]
  · rw [List.mem_singleton, Prod.mk.injEq, Prod.mk.injEq] at rest
    exact absurd rest.2.1 (by decide)

/-- What is known of the gateway's next note where it waits. -/
theorem next_note_waits :
    ∃ request snapshot validated, Task.append request snapshot validated ∈ (after resumed).tasks ∧
      validated.plan.envelope = nextNote.document ∧
      (after resumed).store.envelopeById validated.plan.id = none ∧
      isOk ((after resumed).store.append validated.plan) = false := by
  have chained := congrArg Observed.chained observed_eq
  dsimp only [observed] at chained
  obtain ⟨request, snapshot, validated, waiting, _, _, _, envelope, fresh, refused⟩ :=
    waiting_of_offered chained
  obtain ⟨error, outcome, _⟩ := refusal_eq_some refused
  exact ⟨request, snapshot, validated, waiting, envelope, fresh rfl, by rw [outcome]; rfl⟩

theorem first_position_resumed : (after resumed).ResumeAccepted "ops:notes" 1 := by
  have resumes := congrArg StreamSeen.resumes bridging_seen
  refine resumeAccepted (resumeOf 1 refusedNoteBody) ?_
  rw [resumes]
  exact List.mem_cons_self

theorem next_note_taken_iff :
    ∃ request snapshot validated, Task.append request snapshot validated ∈ (after resumed).tasks ∧
      validated.plan.envelope = nextNote.document ∧
      (isOk ((after resumed).store.append validated.plan) = true ↔
        Signed.objectId ext refusedNote.document = Gateway.refusedHash ext (locally 1 refusedNote) ∧
          Store.Writable (after resumed).store validated.plan) := by
  obtain ⟨request, snapshot, validated, waiting, envelope, fresh, _⟩ := next_note_waits
  have bridgeable := congrArg StreamSeen.bridgeable bridging_seen
  dsimp only [streamSeen] at bridgeable
  exact ⟨request, snapshot, validated, waiting, envelope, gateway_continues_iff (reachable resumed)
    noteChain_emitted (List.mem_cons_of_mem _ List.mem_cons_self : locally 1 refusedNote ∈ noteChain.envelopes)
    (List.mem_cons_of_mem _ (List.mem_cons_of_mem _ List.mem_cons_self) :
      locally 2 nextNote ∈ noteChain.envelopes) rfl rfl refused_only
    first_position_resumed bridgeable waiting envelope fresh⟩

/-- After the resume the gateway's own next note is refused, as the hash on record is of the request that
carried the refused note. -/
theorem next_note_refused :
    (kernel ext config).Reachable (after resumed) ∧
      (Gateway.emitter ext fun _ => .ok ()).Reachable noteChain ∧
      locally 1 refusedNote ∈ noteChain.envelopes ∧ locally 2 nextNote ∈ noteChain.envelopes ∧
      RefusedOnly ext (after resumed) (locally 1 refusedNote) ∧
      (after resumed).ResumeAccepted "ops:notes" 1 ∧
      ∃ request snapshot validated, Task.append request snapshot validated ∈ (after resumed).tasks ∧
        validated.plan.envelope = (locally 2 nextNote).envelope ∧
        isOk ((after resumed).store.append validated.plan) = false := by
  obtain ⟨request, snapshot, validated, waiting, envelope, _, refused⟩ := next_note_waits
  exact ⟨reachable _, noteChain_emitted, List.mem_cons_of_mem _ List.mem_cons_self,
    List.mem_cons_of_mem _ (List.mem_cons_of_mem _ List.mem_cons_self), refused_only, first_position_resumed,
    request, snapshot, validated, waiting, envelope, refused⟩

end Stozher.Deployment
