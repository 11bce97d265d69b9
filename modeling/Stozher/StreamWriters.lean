import Stozher.ChainVerification

namespace Stozher

open Library Ingest

variable {ext : External} {config : Config}

/-- The streams the kernel owns by convention. -/
def KernelOwned (config : Config) (checkpointStream stream : String) : Prop :=
  stream = config.kernelCoreStream ∨ stream = checkpointStream

/-- The key whose signature a stored envelope carries. -/
def EnvelopeRow.SignedBy (ext : External) (row : EnvelopeRow) (key : KeyId) : Prop :=
  Signed.verifySignedObject ext row.canonicalJson.tree = .ok key

namespace Store

variable {store next : Store}

/-- Each stream that is not the kernel's own is written with one key. -/
def OneWriter (ext : External) (config : Config) (checkpointStream : String) (store : Store) : Prop :=
  ∀ stream, ¬ KernelOwned config checkpointStream stream →
    ∃ key, ∀ row ∈ store.ofStream stream, row.SignedBy ext key

/-- The envelope at the head of a stream. -/
def headRow (store : Store) (stream : String) : Option EnvelopeRow :=
  Table.topBy EnvelopeRow.seq (store.ofStream stream)

theorem mem_ofStream_append {row other : EnvelopeRow} (appended : next.envelopes = store.envelopes ++ [row])
    {stream : String} : other ∈ next.ofStream stream ↔
      other ∈ store.ofStream stream ∨ (other = row ∧ row.stream = stream) := by
  rw [mem_ofStream, mem_ofStream, appended, List.mem_append, List.mem_singleton]
  constructor
  · intro both
    obtain ⟨member | rfl, within⟩ := both
    · exact .inl ⟨member, within⟩
    · exact .inr ⟨rfl, within⟩
  · intro either
    rcases either with ⟨member, within⟩ | ⟨rfl, within⟩
    · exact ⟨.inl member, within⟩
    · exact ⟨.inr rfl, within⟩

/-- One more envelope keeps one writer exactly when the key at the head of its stream has signed it. -/
theorem oneWriter_append {checkpointStream : String} {row : EnvelopeRow}
    (one : store.OneWriter ext config checkpointStream) (signed : ∃ key, row.SignedBy ext key)
    (appended : next.envelopes = store.envelopes ++ [row]) :
    next.OneWriter ext config checkpointStream ↔ (¬ KernelOwned config checkpointStream row.stream →
      ∀ head, store.headRow row.stream = some head → ∀ key, head.SignedBy ext key → row.SignedBy ext key) := by
  constructor
  · intro later foreign head found key signs
    obtain ⟨writer, all⟩ := later row.stream foreign
    have headSigns : head.SignedBy ext writer :=
      all head ((mem_ofStream_append appended).mpr (.inl (Table.topBy_mem found)))
    have same : key = writer := Except.ok.inj (signs.symm.trans headSigns)
    rw [same]
    exact all row ((mem_ofStream_append appended).mpr (.inr ⟨rfl, rfl⟩))
  · intro follows stream foreign
    obtain ⟨writer, all⟩ := one stream foreign
    by_cases within : row.stream = stream
    · subst within
      cases found : store.headRow row.stream with
      | none =>
          have empty := Table.topBy_eq_none.mp found
          obtain ⟨key, signs⟩ := signed
          refine ⟨key, ?_⟩
          intro other member
          rcases (mem_ofStream_append appended).mp member with earlier | ⟨rfl, _⟩
          · rw [empty] at earlier
            cases earlier
          · exact signs
      | some head =>
          have headSigns := all head (Table.topBy_mem found)
          refine ⟨writer, ?_⟩
          intro other member
          rcases (mem_ofStream_append appended).mp member with earlier | ⟨rfl, _⟩
          · exact all other earlier
          · exact follows foreign head found writer headSigns
    · refine ⟨writer, ?_⟩
      intro other member
      rcases (mem_ofStream_append appended).mp member with earlier | ⟨_, same⟩
      · exact all other earlier
      · exact absurd same within

end Store

namespace World

/-- What the append of a step would put on a stream of another's is signed by the key at the stream's head. -/
def KeepsWriter (ext : External) (config : Config) (checkpointStream : String) (world : World) (action : Action) :
    Prop :=
  ∀ index request snapshot validated, action = .perform index →
    world.tasks[index]? = some (.append request snapshot validated) →
    world.store.envelopeById validated.plan.id = none → isOk (world.store.append validated.plan) = true →
    ¬ KernelOwned config checkpointStream validated.plan.stream →
    ∀ head, world.store.headRow validated.plan.stream = some head → ∀ key, head.SignedBy ext key →
      Signed.verifySignedObject ext validated.plan.envelope = .ok key

theorem row_of_plan {world : World} {request : Submission} {snapshot : Store} {plan : AppendPlan} {row : EnvelopeRow}
    (origin : Origin ext config world request snapshot plan) (built : Store.envelopeRow plan = .ok row) :
    row.stream = plan.stream ∧ row.canonicalJson.tree = plan.envelope ∧ ∃ key, row.SignedBy ext key := by
  obtain ⟨subjectKey, payloads, admitted⟩ := origin.admitted
  have of := Store.envelopeRow_eq_ok built
  have tree : row.canonicalJson.tree = plan.envelope := by rw [of.canonicalJson, admitted.canonical]
  refine ⟨of.stream, tree, subjectKey, ?_⟩
  unfold EnvelopeRow.SignedBy
  rw [tree]
  exact admitted.signed

theorem keepsWriter_iff {checkpointStream : String} {world : World} {action : Action}
    (reached : (kernel ext config).Reachable world) (one : world.store.OneWriter ext config checkpointStream) :
    world.KeepsWriter ext config checkpointStream action ↔
      (step ext config world action).store.OneWriter ext config checkpointStream := by
  apply @appended_iff ext config world action (fun store => store.OneWriter ext config checkpointStream)
    (fun plan => ¬ KernelOwned config checkpointStream plan.stream →
      ∀ head, world.store.headRow plan.stream = some head → ∀ key, head.SignedBy ext key →
        Signed.verifySignedObject ext plan.envelope = .ok key) (traced reached)
  · intro quiet
    unfold Store.OneWriter Store.ofStream
    rw [quiet.envelopes.1]
    exact one
  · intro request snapshot plan origin appends
    obtain ⟨row, built, _, _, appended⟩ := appends.envelopes
    obtain ⟨within, tree, signed⟩ := row_of_plan origin built
    rw [Store.oneWriter_append one signed appended, within, ← tree]
    rfl

end World

/-- Every state of a run has one writer for each stream exactly when no step appends under another key. -/
theorem one_writer_iff (checkpointStream : String) (actions : List Action) :
    (kernel ext config).EachStep World.initial actions (World.KeepsWriter ext config checkpointStream) ↔
      (kernel ext config).EachState World.initial actions fun world =>
        world.store.OneWriter ext config checkpointStream :=
  System.eachStep_iff_states (fun _ _ reached one => World.keepsWriter_iff reached one) (.of_start rfl)
    (by
      intro stream _
      exact ⟨config.kernelKey.id, by intro row member; cases member⟩) actions

end Stozher

namespace Stozher.Deployment

open Library Ingest

/-- Ops has a note on its stream, and ana's mandate lets her append the next one there. -/
def intruding : List Action :=
  founding ++ enter anaGrantBody nine ++ enter firstNoteBody nine ++ enter intrudingNoteBody nine

def signers (rows : List EnvelopeRow) : List (Option KeyId) :=
  rows.map fun row => (Signed.verifySignedObject ext row.canonicalJson.tree).toOption

structure IntrusionSeen : Prop where
  signers : signers ((after intruding).store.ofStream "ops:notes") = [some opsId, some anaId]

theorem intrusion_seen : IntrusionSeen where
  signers := by decide +kernel

theorem intruded_stream_has_two_writers :
    (kernel ext config).Reachable (after intruding) ∧
      ¬ (after intruding).store.OneWriter ext config "kernel:checkpoints" := by
  refine ⟨reachable intruding, ?_⟩
  intro one
  have foreign : ¬ KernelOwned config "kernel:checkpoints" "ops:notes" := by
    unfold KernelOwned config
    decide
  obtain ⟨key, all⟩ := one "ops:notes" foreign
  have each : ∀ signer ∈ signers ((after intruding).store.ofStream "ops:notes"), signer = some key := by
    intro signer member
    obtain ⟨row, inside, rfl⟩ := List.mem_map.mp member
    have signed : Signed.verifySignedObject ext row.canonicalJson.tree = .ok key := all row inside
    rw [signed]
    rfl
  rw [intrusion_seen.signers] at each
  have first := Option.some.inj (each (some opsId) List.mem_cons_self)
  have second := Option.some.inj (each (some anaId) (List.mem_cons_of_mem _ List.mem_cons_self))
  exact absurd (first.trans second.symm) (by decide)

end Stozher.Deployment
