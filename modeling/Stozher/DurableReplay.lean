import Stozher.DurableHistory
import Stozher.PayloadCover
import Stozher.ScopeInclusion

namespace Stozher

open Library Ingest

variable {ext : External} {config : Config}

/-- The role in which a subject signs a transition. -/
def signerRole (subject : String) : String :=
  if Text.startsWith subject "human:" then "human" else "agent"

theorem orderedInsert_concat {α : Type} {r : α → α → Prop} [DecidableRel r] {item last : α} (before : r item last)
    (items : List α) : (items ++ [last]).orderedInsert r item = items.orderedInsert r item ++ [last] := by
  induction items with
  | nil =>
      rw [List.nil_append, List.orderedInsert_cons, if_pos before]
      rfl
  | cons first rest ih =>
      rw [List.cons_append, List.orderedInsert_cons, List.orderedInsert_cons]
      by_cases here : r item first
      · rw [if_pos here, if_pos here]
        rfl
      · rw [if_neg here, if_neg here, ih]
        rfl

/-- An item that comes after all others is sorted to the end. -/
theorem insertionSort_concat {α : Type} {r : α → α → Prop} [DecidableRel r] {items : List α} {last : α}
    (after : ∀ item ∈ items, r item last) :
    (items ++ [last]).insertionSort r = items.insertionSort r ++ [last] := by
  induction items with
  | nil => rfl
  | cons first rest ih =>
      rw [List.cons_append, List.insertionSort_cons, List.insertionSort_cons,
        ih fun item member => after item (List.mem_cons_of_mem _ member),
        orderedInsert_concat (after first List.mem_cons_self)]

namespace Manifest

variable {manifest : Manifest} {objectType transition : String}

/-- Whether a manifest lets an agent sign a transition. -/
def agentMaySign (manifest : Manifest) (objectType transition : String) : Bool :=
  let declared := (manifest.document.index "durable-objects").asArray.bind
    (·.find? fun entry => entry.getStr "object-type" == some objectType)
  let entry := declared.bind fun declared => (declared.index "transitions").asArray.bind
    (·.find? fun t => t.getStr "transition" == some transition)
  let signers := entry.bind fun entry => (entry.index "signers").asArray
  (signers.getD []).any fun s => s.asStr == some "agent"

/-- A transition an agent may sign leads where it leads for any signer. -/
theorem checkTransition_agent (may : manifest.agentMaySign objectType transition = true) {role next : String}
    {state : Option String} (passed : manifest.checkTransition objectType transition role state = .ok next) :
    manifest.checkTransition objectType transition "agent" state = .ok next := by
  unfold checkTransition at passed ⊢
  simp only [bind_eq_ok, okOr_eq_ok, require_eq_ok] at passed ⊢
  obtain ⟨declared, isDeclared, entry, isEntry, signers, areSigners, _, _, rest⟩ := passed
  refine ⟨declared, isDeclared, entry, isEntry, signers, areSigners, (), ?_, rest⟩
  unfold agentMaySign at may
  dsimp only at may
  rw [isDeclared, Option.bind_some, isEntry, Option.bind_some, areSigners] at may
  exact may

end Manifest

/-- The state a durable object is in once transitions were applied to it, each in its signer's role. -/
def reachedState (manifest : Manifest) (objectType : String) (history : List (String × String)) :
    Result (Option String) :=
  foldChecked (fun state (transition, subject) => do
    return some (← manifest.checkTransition objectType transition (signerRole subject) state)) none history

/-- A stored envelope that is a transition of a durable object. -/
def EnvelopeRow.moves (row : EnvelopeRow) (objectType objectId : String) : Bool :=
  row.commitmentType == some objectType && row.commitmentId == some objectId

namespace Store

variable {store : Store} {manifest : Manifest} {objectType objectId : String}

/-- The transitions of a durable object, in the order they were accepted in. -/
def acceptedTransitions (store : Store) (objectType objectId : String) : List (String × String) :=
  (store.envelopes.filter fun row => row.moves objectType objectId).map
    fun row => (row.commitmentTransition.getD "", row.subject)

/-- A durable object's history folds to the state its transitions reached in the order they were accepted in, and the
next one is accepted exactly when the manifest permits it there. -/
def Replays (store : Store) (manifest : Manifest) (objectType objectId : String) : Prop :=
  ∃ state, foldedState manifest objectType (store.durableTransitions objectType objectId) = .ok state ∧
    reachedState manifest objectType (store.acceptedTransitions objectType objectId) = .ok state ∧
    ∀ env commitment transition subject, env.get "commitment-ref" = some commitment →
      commitment.getStr "object-type" = some objectType → commitment.getStr "object-id" = some objectId →
      commitment.getStr "transition" = some transition →
        (validateCommitment store env (some manifest) subject = .ok () ↔
          ∃ next, manifest.checkTransition objectType transition (signerRole subject) state = .ok next)

theorem validateCommitment_iff {state : Option String}
    (folds : foldedState manifest objectType (store.durableTransitions objectType objectId) = .ok state)
    {env commitment : Value} {transition subject : String} (found : env.get "commitment-ref" = some commitment)
    (isType : commitment.getStr "object-type" = some objectType) (isId : commitment.getStr "object-id" = some objectId)
    (isTransition : commitment.getStr "transition" = some transition) :
    validateCommitment store env (some manifest) subject = .ok () ↔
      ∃ next, manifest.checkTransition objectType transition (signerRole subject) state = .ok next := by
  unfold validateCommitment
  rw [found]
  dsimp only
  rw [okOr_eq_ok.mpr isType, ok_bind, okOr_eq_ok.mpr isId, ok_bind, okOr_eq_ok.mpr isTransition, ok_bind]
  unfold okOr
  rw [ok_bind, folds, ok_bind]
  unfold signerRole
  rw [bind_eq_ok]
  constructor
  · rintro ⟨next, passed, _⟩
    exact ⟨next, passed⟩
  · rintro ⟨next, passed⟩
    exact ⟨next, passed, rfl⟩

/-- The order durable transitions are folded in. -/
def inChainOrder (a b : EnvelopeRow) : Prop :=
  a.stream < b.stream ∨ (a.stream = b.stream ∧ a.seq ≤ b.seq)

instance : DecidableRel inChainOrder :=
  fun _ _ => inferInstanceAs (Decidable (_ ∨ _))

theorem durableTransitions_eq (store : Store) (objectType objectId : String) :
    store.durableTransitions objectType objectId =
      ((store.envelopes.filter fun row => row.moves objectType objectId).insertionSort inChainOrder).map
        fun row => (row.commitmentTransition.getD "", row.subject) := rfl

theorem transition_of_commitment {env commitment : Value} {manifest : Option Manifest} {subject : String}
    (passed : validateCommitment store env manifest subject = .ok ())
    (found : env.get "commitment-ref" = some commitment) :
    ∃ transition, commitment.getStr "transition" = some transition := by
  unfold validateCommitment at passed
  rw [found] at passed
  simp only [bind_eq_ok, okOr_eq_ok] at passed
  obtain ⟨_, _, _, _, transition, isTransition, _⟩ := passed
  exact ⟨transition, isTransition⟩

theorem Replays.of_states {state : Option String}
    (folds : foldedState manifest objectType (store.durableTransitions objectType objectId) = .ok state)
    (reaches : reachedState manifest objectType (store.acceptedTransitions objectType objectId) = .ok state) :
    store.Replays manifest objectType objectId :=
  ⟨state, folds, reaches, fun _ _ _ _ found isType isId isTransition =>
    validateCommitment_iff folds found isType isId isTransition⟩

/-- A store that has one more transition of the object, after all others, and led on by the manifest, replays. -/
theorem Replays.concat {next : Store} {row : EnvelopeRow} {transition : String} (replays : store.Replays manifest objectType objectId)
    (grown : next.envelopes = store.envelopes ++ [row]) (moves : row.moves objectType objectId = true)
    (isTransition : row.commitmentTransition = some transition)
    (last : ∀ other ∈ store.envelopes, other.moves objectType objectId = true → inChainOrder other row)
    (may : manifest.agentMaySign objectType transition = true)
    (leads : ∀ state, foldedState manifest objectType (store.durableTransitions objectType objectId) = .ok state →
      ∃ to_, manifest.checkTransition objectType transition (signerRole row.subject) state = .ok to_) :
    next.Replays manifest objectType objectId := by
  obtain ⟨state, folds, reaches, _⟩ := replays
  obtain ⟨to_, led⟩ := leads state folds
  have rows : (next.envelopes.filter fun other => other.moves objectType objectId) =
      (store.envelopes.filter fun other => other.moves objectType objectId) ++ [row] := by
    rw [grown, List.filter_append, List.filter_singleton, moves]
    rfl
  have foldsOn : foldedState manifest objectType (next.durableTransitions objectType objectId) = .ok (some to_) := by
    rw [durableTransitions_eq, rows, insertionSort_concat, List.map_append, List.map_singleton, isTransition,
      Option.getD_some, ← durableTransitions_eq]
    · unfold foldedState at folds ⊢
      rw [foldChecked_append, folds, ok_bind, foldChecked_cons]
      dsimp only
      rw [Manifest.checkTransition_agent may led]
      rfl
    · intro other member
      obtain ⟨held, same⟩ := List.mem_filter.mp member
      exact last other held same
  have reachesOn : reachedState manifest objectType (next.acceptedTransitions objectType objectId) = .ok (some to_) := by
    unfold acceptedTransitions at reaches ⊢
    rw [rows, List.map_append, List.map_singleton, isTransition, Option.getD_some]
    unfold reachedState at reaches ⊢
    rw [foldChecked_append, reaches, ok_bind, foldChecked_cons]
    dsimp only
    rw [led]
    rfl
  exact .of_states foldsOn reachesOn

theorem Replays.other {next : Store} {rows : List EnvelopeRow} (replays : store.Replays manifest objectType objectId)
    (grown : next.envelopes = store.envelopes ++ rows) (still : ∀ row ∈ rows, row.moves objectType objectId ≠ true) :
    next.Replays manifest objectType objectId := by
  obtain ⟨state, folds, reaches, _⟩ := replays
  have same : (next.envelopes.filter fun other => other.moves objectType objectId) =
      store.envelopes.filter fun other => other.moves objectType objectId := by
    rw [grown, List.filter_append, List.filter_eq_nil_iff.mpr still, List.append_nil]
  have foldsOn : foldedState manifest objectType (next.durableTransitions objectType objectId) = .ok state := by
    rw [durableTransitions_eq, same, ← durableTransitions_eq]
    exact folds
  have reachesOn : reachedState manifest objectType (next.acceptedTransitions objectType objectId) = .ok state := by
    unfold acceptedTransitions at reaches ⊢
    rw [same]
    exact reaches
  exact .of_states foldsOn reachesOn

end Store

namespace Ingest

variable {store : Store} {env : Value} {plan next : AppendPlan} {payloads : List Value} {policy : Policy}
  {roots : List KeyId} {subjectKey : KeyId}

/-- What the manifest of its component makes of the transition an effect names. -/
theorem validateEffectKind_commitment
    (valid : validateEffectKind ext config store env policy roots subjectKey plan payloads = .ok next) :
    ∃ manifest, latestManifest ext store (((env.index "identity").getStr "component").getD "") = .ok manifest ∧
      validateCommitment store env manifest (((env.index "identity").getStr "subject").getD "") = .ok () := by
  unfold validateEffectKind at valid
  simp only [bind_eq_ok] at valid
  obtain ⟨requests, _, ⟨manifest, effective⟩, classified, humanRoot, _, _, _, _, _, projected, _, _, committed, _⟩ := valid
  unfold classifyEnvelope at classified
  simp only [bind_eq_ok, pure_eq_ok, Prod.mk.injEq] at classified
  obtain ⟨found, latest, _, _, rfl, _⟩ := classified
  exact ⟨found, latest, committed⟩

theorem kindSpec_of_commitment {kind : String} {spec : Envelope.KindSpec} (hasSpec : Envelope.kindSpec kind = some spec)
    (admits : "commitment-ref" ∈ spec.required ∨ "commitment-ref" ∈ spec.optional) : kind = "effect" := by
  unfold Envelope.kindSpec at hasSpec
  split at hasSpec <;> cases hasSpec <;> simp_all

/-- Only an effect names a transition. -/
theorem effect_of_commitment (valid : Envelope.validate ext env = .ok ()) {value : Value}
    (found : env.get "commitment-ref" = some value) : env.getStr "kind" = some "effect" := by
  obtain ⟨kind, spec, isKind, hasSpec, common | required | optional | common⟩ := Envelope.admits_of_get valid found
  · exact absurd common (by decide)
  · rw [isKind, kindSpec_of_commitment hasSpec (.inl required)]
  · rw [isKind, kindSpec_of_commitment hasSpec (.inr optional)]
  · exact absurd common (by decide)

/-- What the manifest of its component makes of the transition an admitted envelope names. -/
theorem Admitted.commitment {raw : Octets} {receivedAt : String}
    (admitted : Admitted ext config store raw receivedAt plan subjectKey payloads) {commitment : Value}
    (found : plan.envelope.get "commitment-ref" = some commitment) :
    ∃ manifest,
      latestManifest ext store (((plan.envelope.index "identity").getStr "component").getD "") = .ok manifest ∧
      validateCommitment store plan.envelope manifest (((plan.envelope.index "identity").getStr "subject").getD "") =
        .ok () := by
  have isEffect := effect_of_commitment admitted.valid found
  have other : ∀ {kind : String}, plan.envelope.getStr "kind" = some kind → kind ≠ "effect" → False := by
    intro kind isKind apart
    exact apart (Option.some.inj (isKind.symm.trans isEffect))
  cases admitted.rule with
  | genesis unpublished passed =>
      rcases validateGenesis_cases passed with ⟨_, ⟨kind, _, _⟩ | ⟨kind, _, _⟩⟩
      · exact (other kind (by decide)).elim
      · exact (other kind (by decide)).elim
  | inForce policy published admits unauthorized =>
      cases admits with
      | effect kind passed => exact validateEffectKind_commitment passed
      | cognition kind passed => exact (other kind (by decide)).elim
      | signal kind passed => exact (other kind (by decide)).elim
      | mandate kind passed => exact (other kind (by decide)).elim
      | revocation kind passed => exact (other kind (by decide)).elim
      | gateDecision kind passed => exact (other kind (by decide)).elim
      | checkpoint kind passed => exact (other kind (by decide)).elim

end Ingest

namespace World

variable {world : World} {manifest : Manifest} {objectType objectId : String}

/-- A transition of a durable object that is taken in turn: judged by the object's manifest on the history it extends,
one that an agent may sign, and not before a stored one in the order of the streams. -/
structure MovesInTurn (ext : External) (manifest : Manifest) (objectType objectId : String) (store snapshot : Store)
    (plan : AppendPlan) (commitment : Value) : Prop where
  judged : latestManifest ext snapshot (((plan.envelope.index "identity").getStr "component").getD "") =
    .ok (some manifest)
  history : snapshot.durableTransitions objectType objectId = store.durableTransitions objectType objectId
  signed : ∀ transition, commitment.getStr "transition" = some transition →
    manifest.agentMaySign objectType transition = true
  last : ∀ row ∈ store.envelopes, row.moves objectType objectId = true →
    row.stream < plan.stream ∨ row.stream = plan.stream

/-- A step that stores a transition of a durable object stores one taken in turn. -/
def TransitionsInTurn (ext : External) (manifest : Manifest) (objectType objectId : String) (world : World)
    (action : Action) : Prop :=
  ∀ index request snapshot validated commitment, action = .perform index →
    world.tasks[index]? = some (.append request snapshot validated) →
    world.store.envelopeById validated.plan.id = none → isOk (world.store.append validated.plan) = true →
    validated.plan.envelope.get "commitment-ref" = some commitment →
    commitment.getStr "object-type" = some objectType → commitment.getStr "object-id" = some objectId →
    MovesInTurn ext manifest objectType objectId world.store snapshot validated.plan commitment

/-- A stored envelope stands after those that were in its stream before it. -/
theorem inChainOrder_last {next : World} (reached : (kernel ext config).Reachable next) {row other : EnvelopeRow}
    {store : Store} (grown : next.store.envelopes = store.envelopes ++ [row]) (member : other ∈ store.envelopes)
    (place : other.stream < row.stream ∨ other.stream = row.stream) : Store.inChainOrder other row := by
  rcases place with before | same
  · exact .inl before
  · have increasing := (chains reached row.stream).increasing
    rw [Store.ofStream_append row.stream grown, if_pos rfl] at increasing
    have below := (List.pairwise_append.mp increasing).2.2 other (Store.mem_ofStream.mpr ⟨member, same⟩) row
      List.mem_cons_self
    exact .inr ⟨same, below.le⟩

theorem replays_step {action : Action} (reached : (kernel ext config).Reachable world)
    (replays : world.store.Replays manifest objectType objectId)
    (inTurn : TransitionsInTurn ext manifest objectType objectId world action) :
    ((kernel ext config).step world action).store.Replays manifest objectType objectId := by
  have nextReached := reached.step action
  have known := traced reached
  revert nextReached
  cases step_cases ext config world action with
  | quiet store accepted tasks =>
      intro _
      have same : ((kernel ext config).step world action).store.envelopes = world.store.envelopes ++ [] :=
        store.envelopes.1.trans (List.append_nil _).symm
      apply replays.other same
      intro row member
      cases member
  | appends request snapshot validated waiting fresh store accepted tasks performs =>
      intro nextReached
      obtain ⟨index, performed, found, ok⟩ := performs
      obtain ⟨row, built, _, _, envelopes⟩ := store.envelopes
      have columns := Store.envelopeRow_columns built
      have of := Store.envelopeRow_eq_ok built
      by_cases moves : row.moves objectType objectId = true
      · have both := moves
        unfold EnvelopeRow.moves at both
        rw [Bool.and_eq_true, beq_iff_eq, beq_iff_eq, columns.commitmentType, columns.commitmentId] at both
        obtain ⟨isType, isId⟩ := both
        obtain ⟨commitment, cites, isType⟩ := Option.bind_eq_some_iff.mp isType
        rw [cites, Option.bind_some] at isId
        have turn := inTurn index request snapshot validated commitment performed found fresh ok cites isType isId
        obtain ⟨subjectKey, payloads, admitted⟩ := (known.tasks _ _ _ waiting).admitted
        obtain ⟨judge, latest, passed⟩ := admitted.commitment cites
        have judged : judge = some manifest := by
          have same := latest.symm.trans turn.judged
          cases same
          rfl
        subst judged
        obtain ⟨transition, isTransition⟩ := Store.transition_of_commitment passed cites
        rw [columns.subject, Option.getD_some] at passed
        apply replays.concat envelopes moves
        · rw [columns.commitmentTransition, cites, Option.bind_some]
          exact isTransition
        · intro other member same
          apply inChainOrder_last nextReached envelopes member
          rw [of.stream]
          exact turn.last other member same
        · exact turn.signed transition isTransition
        · intro state folds
          rw [← turn.history] at folds
          exact (Store.validateCommitment_iff folds cites isType isId isTransition).mp passed
      · apply replays.other envelopes
        intro other member
        rw [List.mem_singleton.mp member]
        exact moves

/-- In a run that takes each transition of a durable object in turn, the object's history replays in every state. -/
theorem histories_replay {actions : List Action}
    (each : (kernel ext config).EachStep World.initial actions
      (TransitionsInTurn ext manifest objectType objectId)) :
    (kernel ext config).EachState World.initial actions fun world =>
      world.store.Replays manifest objectType objectId := by
  have known : (kernel ext config).EachState World.initial actions fun world =>
      (kernel ext config).Reachable world ∧ world.store.Replays manifest objectType objectId := by
    refine each.states ?_ ?_
    · exact ⟨.of_start rfl, Store.Replays.of_states rfl rfl⟩
    · intro world action inTurn both
      exact ⟨both.1.step action, replays_step both.1 both.2 inTurn⟩
  intro before after split
  exact (known before after split).2

end World

end Stozher

namespace Stozher.Deployment

open Library Library.Text Recorded Ingest

/-- A note said to have moved ticket 7. -/
def movedForm (stream transition : String) (sig : Members) : Value :=
  .object ([("classification", .string "benign"),
    ("commitment-ref", .object [("object-id", .string "7"), ("object-type", .string "ticket"),
      ("transition", .string transition)]),
    ("emitted-at", .string nine),
    ("execution", .object [("action", .string "kernel.note"), ("args-hash", .string noArguments.digest),
      ("finished-at", .string nine), ("outcome", .string "applied"), ("started-at", .string nine),
      ("target", .string "ticket:7")]),
    ("identity", opsIdentity), ("kind", .string "effect"), ("mandate-ref", .string opsMandate.digest),
    ("policy-version", .string "1"), ("prev-hash", .null), ("seq", .ofNat 0)] ++ sig ++
    [("stream", .string stream), ("v", .string "stozher/0.1")])

def openedNote : Recorded where
  form := movedForm "ops:work" "open"
  sealed := some (opsKey, signatureText
    0x24c21e65a49141d55801c3bbcf6d128be1be213af7c552d97536363914ebd9e6
    0x62495499b5c1bb4a34ed8c945a2865a216f21ac632d3144b3587e221b724770a)
  digest := hex 64 0xac0b0b8db43e527bb910203997834a924ba786e1aab52bf15efd84783da9d485

def closedNote : Recorded where
  form := movedForm "ops:actions" "close"
  sealed := some (opsKey, signatureText
    0x21c9ef05f3a7ddb40d233ac770b0e1cad2d7ae0bf6f2299f242c15b576691aa5
    0xcf3c2027a72a1747d2537147339fc4bb8604be7548143c7a34c39f26c2ba8c05)
  digest := hex 64 0x652630eff95aa4738ac1799cff2ebfbea7f6e3bbd0f07948215beeb0553dcd9d

def movedExt : External :=
  external (records ++ [ticketManifest, conformanceRequest, conformanceApproval, conformanceEffect,
    registrationRequest, registrationApproval, registrationEffect, openedNote, closedNote])

/-- A ticket that is opened. -/
def movedOnce : List Action :=
  founding ++ enter (submission conformanceEffect.document [ticketManifest]) nine ++
    enter (submission registrationEffect.document [ticketManifest]) nine ++
    enter (submission openedNote.document []) nine

/-- A ticket that is opened in one stream and closed in another one. -/
def movedTwice : List Action :=
  movedOnce ++ enter (submission closedNote.document []) nine

@[irreducible] def movedWorld : World :=
  (kernel movedExt config).run .initial movedTwice

theorem movedWorld_reachable : (kernel movedExt config).Reachable movedWorld := by
  unfold movedWorld
  exact ⟨.initial, movedTwice, rfl, rfl⟩

/-- The manifest on record, as it is read. -/
def ticketing : Manifest where
  document := ticketManifest.document
  name := "kernel"
  version := "1.0.0"
  hash := ticketManifest.digest
  componentKey := githubId

def movesInTurn (world : World) (action : Action) : Bool :=
  match action with
  | .perform index =>
      match world.tasks[index]? with
      | some (.append _ snapshot validated) =>
          match validated.plan.envelope.get "commitment-ref" with
          | some commitment =>
              decide (snapshot.latestManifest (((validated.plan.envelope.index "identity").getStr "component").getD "") =
                some ticketManifest.document) &&
              decide (snapshot.durableTransitions "ticket" "7" = world.store.durableTransitions "ticket" "7") &&
              (commitment.getStr "transition").all (ticketing.agentMaySign "ticket") &&
              world.store.envelopes.all fun row => !row.moves "ticket" "7" ||
                (decide (row.stream < validated.plan.stream) || row.stream == validated.plan.stream)
          | none => true
      | _ => true
  | _ => true

structure MovesSeen : Prop where
  parsed : ((Manifest.parse movedExt ticketManifest.document).toOption.map fun manifest =>
    (manifest.document, manifest.name, manifest.version, manifest.hash, manifest.componentKey)) =
      some (ticketing.document, ticketing.name, ticketing.version, ticketing.hash, ticketing.componentKey)
  inTurn : (kernel movedExt config).allSteps movesInTurn .initial movedOnce = true
  twice : (movedWorld.store.latestManifest "kernel",
    (foldedState ticketing "ticket" (movedWorld.store.durableTransitions "ticket" "7")).toOption) =
      (some ticketManifest.document, none)

theorem moves_seen : MovesSeen := by
  constructor <;> decide +kernel

theorem ticketing_parsed : Manifest.parse movedExt ticketManifest.document = .ok ticketing := by
  have seen := moves_seen.parsed
  rw [Option.map_eq_some_iff] at seen
  obtain ⟨manifest, parsed, same⟩ := seen
  obtain ⟨document, name, version, hash, componentKey⟩ := manifest
  simp only [Prod.mk.injEq] at same
  obtain ⟨rfl, rfl, rfl, rfl, rfl⟩ := same
  cases read : Manifest.parse movedExt ticketManifest.document with
  | error refusal =>
      rw [read] at parsed
      cases parsed
  | ok manifest =>
      rw [read] at parsed
      cases parsed
      rfl

theorem latestManifest_of_document {store : Store} {component : String}
    (latest : store.latestManifest component = some ticketManifest.document) :
    latestManifest movedExt store component = .ok (some ticketing) := by
  unfold latestManifest
  rw [latest]
  dsimp only
  rw [ticketing_parsed]
  rfl

theorem transitionsInTurn_of_movesInTurn {world : World} {action : Action}
    (inTurn : movesInTurn world action = true) :
    World.TransitionsInTurn movedExt ticketing "ticket" "7" world action := by
  intro index request snapshot validated commitment performs waiting _ _ cites _ _
  subst performs
  unfold movesInTurn at inTurn
  dsimp only at inTurn
  rw [waiting] at inTurn
  dsimp only at inTurn
  rw [cites] at inTurn
  dsimp only at inTurn
  rw [Bool.and_eq_true, Bool.and_eq_true, Bool.and_eq_true] at inTurn
  obtain ⟨⟨⟨latest, history⟩, signed⟩, last⟩ := inTurn
  refine ⟨latestManifest_of_document (of_decide_eq_true latest), of_decide_eq_true history, ?_, ?_⟩
  · intro transition isTransition
    rw [isTransition] at signed
    exact signed
  · intro row member moves
    have place := List.all_eq_true.mp last row member
    rw [moves, Bool.not_true, Bool.false_or, Bool.or_eq_true, decide_eq_true_iff, beq_iff_eq] at place
    exact place

theorem opened_ticket_replays : (kernel movedExt config).EachState World.initial movedOnce fun world =>
    world.store.Replays ticketing "ticket" "7" := by
  apply World.histories_replay
  intro before action after split
  exact transitionsInTurn_of_movesInTurn (System.eachStep_of_allSteps moves_seen.inTurn before action after split)

/-- A ticket that was opened and closed is folded from its closing. -/
theorem closed_ticket_not_replayed : ¬∀ (ext : External) config world component manifest objectType objectId,
    (kernel ext config).Reachable world → latestManifest ext world.store component = .ok (some manifest) →
    world.store.Replays manifest objectType objectId := by
  intro replayed
  have seen := moves_seen.twice
  rw [Prod.mk.injEq] at seen
  obtain ⟨state, folds, _⟩ := replayed _ _ _ "kernel" _ "ticket" "7" movedWorld_reachable
    (latestManifest_of_document seen.1)
  have none := seen.2
  rw [folds] at none
  cases none

end Stozher.Deployment
