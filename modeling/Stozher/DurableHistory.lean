import Stozher.ChainShape
import Stozher.Deployment

namespace Stozher

open Library Ingest

variable {ext : External} {config : Config}

/-- Whether what a stored envelope records was carried out. -/
def EnvelopeRow.performed (row : EnvelopeRow) : Bool :=
  row.outcome == some "applied" || row.outcome == some "failed"

namespace Store

variable (store : Store)

/-- The transitions of a durable object that were carried out. -/
def performedTransitions (objectType objectId : String) : List (String × String) :=
  durableTransitions { store with envelopes := store.envelopes.filter EnvelopeRow.performed } objectType objectId

/-- The transitions a durable object is folded from are those carried out. -/
def HistoriesPerformed : Prop :=
  ∀ objectType objectId, store.durableTransitions objectType objectId = store.performedTransitions objectType objectId

/-- The state a durable object is folded to is that of the transitions carried out. -/
def FoldsPerformed : Prop :=
  ∀ manifest objectType objectId, foldedState manifest objectType (store.durableTransitions objectType objectId) =
    foldedState manifest objectType (store.performedTransitions objectType objectId)

variable {store}

theorem HistoriesPerformed.folds (histories : store.HistoriesPerformed) : store.FoldsPerformed := by
  intro manifest objectType objectId
  rw [histories objectType objectId]

/-- Histories are of what was carried out exactly when every transition on record was. -/
theorem historiesPerformed_iff : store.HistoriesPerformed ↔
    ∀ row ∈ store.envelopes, row.commitmentType.isSome = true → row.commitmentId.isSome = true →
      row.performed = true := by
  constructor
  · intro histories row member hasType hasId
    obtain ⟨objectType, isType⟩ := Option.isSome_iff_exists.mp hasType
    obtain ⟨objectId, isId⟩ := Option.isSome_iff_exists.mp hasId
    have sizes := congrArg List.length (histories objectType objectId)
    unfold performedTransitions durableTransitions at sizes
    rw [List.length_map, List.length_map, List.length_insertionSort, List.length_insertionSort,
      List.filter_comm] at sizes
    have all := List.length_filter_eq_length_iff.mp sizes.symm
    refine all row (List.mem_filter.mpr ⟨member, ?_⟩)
    rw [isType, isId, beq_self_eq_true, beq_self_eq_true]
    rfl
  · intro each objectType objectId
    unfold performedTransitions durableTransitions
    have same : (store.envelopes.filter EnvelopeRow.performed).filter
        (fun row => row.commitmentType == some objectType && row.commitmentId == some objectId) =
        store.envelopes.filter fun row => row.commitmentType == some objectType && row.commitmentId == some objectId := by
      rw [List.filter_filter]
      refine List.filter_congr ?_
      intro row member
      by_cases moves : (row.commitmentType == some objectType && row.commitmentId == some objectId) = true
      · have both := moves
        rw [Bool.and_eq_true, beq_iff_eq, beq_iff_eq] at both
        rw [moves, Bool.true_and]
        exact each row member (by rw [both.1]; rfl) (by rw [both.2]; rfl)
      · rw [Bool.eq_false_iff.mpr moves, Bool.false_and]
    dsimp only
    rw [same]

end Store

/-- Whether an envelope that names a durable object says that its transition was carried out. -/
def MovesOnlyPerformed (env : Value) : Prop :=
  ∀ commitment objectType objectId, env.get "commitment-ref" = some commitment →
    commitment.getStr "object-type" = some objectType → commitment.getStr "object-id" = some objectId →
    (env.index "execution").getStr "outcome" = some "applied" ∨ (env.index "execution").getStr "outcome" = some "failed"

theorem index_getStr (env : Value) (name inner : String) :
    (env.index name).getStr inner = (env.get name).bind (·.getStr inner) := by
  unfold Value.index
  cases env.get name <;> rfl

/-- A row is as its envelope says. -/
theorem EnvelopeRow.Columns.moves_iff {row : EnvelopeRow} {plan : AppendPlan} (columns : row.Columns plan) :
    (row.commitmentType.isSome = true → row.commitmentId.isSome = true → row.performed = true) ↔
      MovesOnlyPerformed plan.envelope := by
  unfold EnvelopeRow.performed MovesOnlyPerformed
  rw [columns.commitmentType, columns.commitmentId, columns.outcome, index_getStr, Bool.or_eq_true, beq_iff_eq, beq_iff_eq]
  cases plan.envelope.get "commitment-ref" with
  | none =>
      constructor
      · intro _ commitment objectType objectId found
        cases found
      · intro _ hasType
        cases hasType
  | some commitment =>
      rw [Option.bind_some, Option.bind_some]
      constructor
      · intro performed other objectType objectId found isType isId
        cases found
        exact performed (by rw [isType]; rfl) (by rw [isId]; rfl)
      · intro performed hasType hasId
        obtain ⟨objectType, isType⟩ := Option.isSome_iff_exists.mp hasType
        obtain ⟨objectId, isId⟩ := Option.isSome_iff_exists.mp hasId
        exact performed commitment objectType objectId rfl isType isId

namespace World

variable {world : World}

/-- An envelope that is stored and names a durable object says that its transition was carried out. -/
def StoresPerformed (world : World) (action : Action) : Prop :=
  ∀ index request snapshot validated, action = .perform index →
    world.tasks[index]? = some (.append request snapshot validated) →
    world.store.envelopeById validated.plan.id = none → isOk (world.store.append validated.plan) = true →
    MovesOnlyPerformed validated.plan.envelope

theorem histories_step_iff {action : Action} (reached : (kernel ext config).Reachable world)
    (histories : world.store.HistoriesPerformed) :
    StoresPerformed world action ↔ (step ext config world action).store.HistoriesPerformed := by
  apply @appended_iff ext config world action (fun store => store.HistoriesPerformed)
    (fun plan => MovesOnlyPerformed plan.envelope) (traced reached)
  · intro quiet
    rw [Store.historiesPerformed_iff] at histories ⊢
    intro row member
    exact histories row (quiet.envelopes.1 ▸ member)
  · intro request snapshot plan origin appends
    obtain ⟨row, built, _, _, envelopes⟩ := appends.envelopes
    have moves := (Store.envelopeRow_columns built).moves_iff
    rw [Store.historiesPerformed_iff] at histories ⊢
    constructor
    · intro performed other member
      rw [envelopes] at member
      rcases List.mem_append.mp member with earlier | last
      · exact histories other earlier
      · rw [List.mem_singleton.mp last]
        exact moves.mpr performed
    · intro next
      apply moves.mp
      apply next row
      rw [envelopes]
      exact List.mem_append_right _ List.mem_cons_self

/-- Durable objects are folded from what was carried out, in every state of a run, exactly when each stored envelope
that names one says that its transition was; and then the state they are folded to is that of what was carried out. -/
theorem performed_histories_iff (ext : External) (config : Config) (actions : List Action) :
    ((kernel ext config).EachStep World.initial actions StoresPerformed ↔
      (kernel ext config).EachState World.initial actions fun world => world.store.HistoriesPerformed) ∧
    ((kernel ext config).EachStep World.initial actions StoresPerformed →
      (kernel ext config).EachState World.initial actions fun world => world.store.FoldsPerformed) := by
  have both : (kernel ext config).EachStep World.initial actions StoresPerformed ↔
      (kernel ext config).EachState World.initial actions fun world => world.store.HistoriesPerformed :=
    System.eachStep_iff_states (fun _ _ reached histories => histories_step_iff reached histories)
      (.of_start rfl) (fun _ _ => rfl) actions
  refine ⟨both, ?_⟩
  intro each before after split
  exact (both.mp each before after split).folds

end World

end Stozher

namespace Stozher.Deployment

open Library Library.Text Recorded Ingest

/-- A manifest that declares tickets, which an agent may open and anyone close. -/
def ticketForm (sig : Members) : Value :=
  .object ([("actions", .array [.object [("action", .string "kernel.note"), ("class", .string "benign"),
      ("evidence-schema", .string "kernel.note.v1"), ("idempotent", .bool true), ("target-kind", .string "note")]]),
    ("budget-dimensions", texts ["requests"]),
    ("conformance", .object [("self-test", .string "kernel-selftest"), ("vectors-version", .string "1")]),
    ("durable-objects", .array [.object [("id-kind", .string "number"), ("object-type", .string "ticket"),
      ("transitions", .array [
        .object [("from", .array []), ("signers", texts ["agent"]), ("to", .string "opened"),
          ("transition", .string "open")],
        .object [("from", texts ["opened"]), ("signers", texts ["agent", "human"]), ("to", .string "closed"),
          ("transition", .string "close")]])]]),
    ("evidence-schemas", .object [("kernel.note.v1", .object [("additionalProperties", .bool false)])]),
    ("kind", .string "manifest"), ("name", .string "kernel")] ++ sig ++
    [("subject-class", .string "kernel"), ("v", .string "stozher/0.1"), ("version", .string "1.0.0")])

/-- A merge that was denied, said to have opened a ticket. -/
def openingForm (argsHash : String) (sig : Members) : Value :=
  .object ([("classification", .string "consequential"),
    ("commitment-ref", .object [("object-id", .string "7"), ("object-type", .string "ticket"),
      ("transition", .string "open")]),
    ("emitted-at", .string nine),
    ("execution", .object [("action", .string "github.merge"), ("args-hash", .string argsHash),
      ("finished-at", .string nine), ("outcome", .string "denied"), ("started-at", .string nine),
      ("target", .string "mcp:github")]),
    ("identity", opsIdentity), ("kind", .string "effect"), ("mandate-ref", .string opsMandate.digest),
    ("policy-version", .string "1"), ("prev-hash", .null), ("seq", .ofNat 0)] ++ sig ++
    [("stream", .string "ops:work"), ("v", .string "stozher/0.1")])

def ticketManifest : Recorded where
  form := ticketForm
  sealed := some (githubKey, signatureText
    0x91ceb757df8b19887734f058e6534b78c6523ba918b9d335f8a8ac19b85fbdea
    0x1f619e8f9bffdbde15a6a3584ae5ff3e9c50fde7fbb2d20afe39ade764bcc903)
  digest := hex 64 0x26cc0bebb1ac159d852c656c11fe4854a3987d3127b0de48521d7a555c700f0b

def conformanceRequest : Recorded where
  form := request "agent:ops" opsKey opsMandate.digest "kernel.conformance_run" ("manifest:" ++ ticketManifest.digest)
    ticketManifest.digest 'c'
  sealed := none
  digest := hex 64 0xc75257a1e65e262a52a1ab11b13a7ae6fe421fe09300ee9157a80296c6a5adc0

def conformanceApproval : Recorded where
  form := decision conformanceRequest.digest "approve" none evening
  sealed := some (anaKey, signatureText
    0x47058361671d601cd51c4d874c87edd74e276746f362445d4d89ff7e52a32844
    0x1a79c98888d5652ff7cef201cd2c1e474a4939047a9d294652ab599ac2abe909)
  digest := hex 64 0x897afecea78a217a5f72d62068b30e8d755753dbbb24e27c90c2283daf5aaec2

def conformanceEffect : Recorded where
  form := effect "effect" opsIdentity "kernel:core" 2 (some policyChange.digest) opsMandate.digest conformanceRequest.document
    conformanceApproval.document nine
  sealed := some (opsKey, signatureText
    0x68a830b457d772953e188cfb4301f206a8cf29a26b0840c44d30d30e65eeeda8
    0x4db8eea1e14b99f6d7f3756eb42f5e122369fad49480caa1d0bd8bc757b73803)
  digest := hex 64 0x979c725a7971256a673bc93cfdfed5c652aa22293c1f1f71d6fae0620283a119

def registrationRequest : Recorded where
  form := request "agent:ops" opsKey opsMandate.digest "kernel.register_component" "component:kernel"
    ticketManifest.digest 'd'
  sealed := none
  digest := hex 64 0x845f451bb521890d253bf98d6d28c899844effc702e8dace5dfaa52543338f8e

def registrationApproval : Recorded where
  form := decision registrationRequest.digest "approve" none evening
  sealed := some (anaKey, signatureText
    0xe7a34fe3c29513717ee1da6bccce7c743cd7b38064970b7060d56305406a61fa
    0x4bb1d1edae151ccf5449a3d6a3bb1f4a5615f827a2e514677670da45e61d160a)
  digest := hex 64 0x77db3e605b637f5fccc0d15b6f58f3d93d4e618f5e6428dac14fdf48bfedba88

def registrationEffect : Recorded where
  form := effect "effect" opsIdentity "kernel:core" 3 (some conformanceEffect.digest) opsMandate.digest registrationRequest.document
    registrationApproval.document nine
  sealed := some (opsKey, signatureText
    0xec2766ab53c75db5ff00feca34b7bd1f75e518206d1b0641d474255988833649
    0xa34c4ecdbf791be6f1eba773bb7f9dfedad8d1d1287eccdf789b883bdf81d608)
  digest := hex 64 0x96545dd6d54192957b4a0e8873862aeffad7d85bb72f11722ee66469afd068d3

def deniedOpening : Recorded where
  form := openingForm noArguments.digest
  sealed := some (opsKey, signatureText
    0x82c969163afad36f8419335b48d32364f0f7808becfea386a21731b24b016fde
    0x23c09b53d4604bd8bc7eba26950ef6090009da2fda83f00dba80c9aec6dee702)
  digest := hex 64 0x2541fff53c9efabb0f2cb32d03cd41eb8896e61494a67f9761a02d83e382ae21

def ticketExt : External :=
  external (records ++ [ticketManifest, conformanceRequest, conformanceApproval, conformanceEffect,
    registrationRequest, registrationApproval, registrationEffect, deniedOpening])

def opening : List Action :=
  founding ++ enter (submission conformanceEffect.document [ticketManifest]) nine ++
    enter (submission registrationEffect.document [ticketManifest]) nine ++
    enter (submission deniedOpening.document []) nine

@[irreducible] def openedWorld : World :=
  (kernel ticketExt config).run .initial opening

theorem openedWorld_reachable : (kernel ticketExt config).Reachable openedWorld := by
  unfold openedWorld
  exact ⟨.initial, opening, rfl, rfl⟩

/-- The state a ticket is folded to, by the manifest on record. -/
def ticketState (history : List (String × String)) : Option (Option String) := do
  let document ← openedWorld.store.latestManifest "kernel"
  let manifest ← (Manifest.parse ticketExt document).toOption
  (foldedState manifest "ticket" history).toOption

structure TicketsSeen : Prop where
  states : (ticketState (openedWorld.store.durableTransitions "ticket" "7"),
    ticketState (openedWorld.store.performedTransitions "ticket" "7")) = (some (some "opened"), some none)

theorem tickets_seen : TicketsSeen where
  states := by decide +kernel

/-- A ticket is opened by the record of a merge that was denied. -/
theorem denied_merge_opens_ticket : ¬∀ (ext : External) config world, (kernel ext config).Reachable world →
    world.store.FoldsPerformed := by
  intro performed
  have folds := performed _ _ _ openedWorld_reachable
  have same : ticketState (openedWorld.store.durableTransitions "ticket" "7") =
      ticketState (openedWorld.store.performedTransitions "ticket" "7") := by
    unfold ticketState
    simp only [folds _ "ticket" "7"]
  have seen := tickets_seen.states
  rw [same, Prod.mk.injEq] at seen
  have apart := seen.1.symm.trans seen.2
  cases apart

end Stozher.Deployment
