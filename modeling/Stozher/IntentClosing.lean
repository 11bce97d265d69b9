import Stozher.DecisionUse
import Stozher.Deployment

namespace Stozher.Gateway

open Library

variable {ext : External} {checkShape : Value → Result Unit} {config : GatewayConfig} {classifier : Classifier}

namespace Local

/-- Whether the record of a name is still open. -/
def isOpen (store : Local) (id : String) : Bool :=
  store.intents.any fun intent => intent.intentId == id && intent.resolvedAt.isNone

end Local

theorem openIntents_sub {store : Local} {stream subjectKey : String} {intent : Intent}
    (listed : intent ∈ store.openIntents stream subjectKey) : intent ∈ store.intents := by
  unfold Local.openIntents at listed
  exact List.mem_of_mem_filter (List.mem_mergeSort.mp listed)

namespace Enforcer

variable (ext checkShape config classifier) in
/-- The record a step closes by the envelope it chains. -/
def closing (enforcer : Enforcer) (action : Action) : Option String :=
  match action with
  | .perform index _ =>
      if (enforcer.step ext checkShape config classifier action).store.chain.envelopes.length =
          enforcer.store.chain.envelopes.length then none
      else enforcer.tasks[index]?.bind Task.closes
  | _ => none

variable (ext checkShape config classifier) in
/-- A step that chains the envelope of a record finds the record open. -/
def ClosesOpen (enforcer : Enforcer) (action : Action) : Prop :=
  ∀ id, enforcer.closing ext checkShape config classifier action = some id → enforcer.store.isOpen id = true

variable {enforcer : Enforcer} {earlier : List String}

/-- The records under their names: those that are closed are those an envelope was chained for, and whatever
a task has to close is on record. -/
structure Records (earlier : List String) (enforcer : Enforcer) : Prop where
  distinct : (enforcer.store.intents.map Intent.intentId).Nodup
  held : ∀ task ∈ enforcer.tasks, ∀ id ∈ task.holds, id ∈ enforcer.store.intents.map Intent.intentId
  known : ∀ id ∈ earlier, id ∈ enforcer.store.intents.map Intent.intentId
  closed : ∀ intent ∈ enforcer.store.intents, intent.intentId ∈ earlier ↔ intent.resolvedAt.isSome = true

theorem closes_mem_holds {task : Task} {id : String} (closes : task.closes = some id) : id ∈ task.holds := by
  cases task with
  | chain work outcome authorization startedAt intent =>
      have named : intent = some id := closes
      rw [named]
      exact List.mem_singleton_self id
  | recover session now rest =>
      cases rest with
      | nil => cases closes
      | cons intent rest =>
          rw [← Option.some.inj closes]
          exact List.mem_cons_self
  | _ => cases closes

theorem resolve_id (closes : Option String) (instant : String) (intent : Intent) :
    (resolve closes instant intent).intentId = intent.intentId := by
  unfold resolve
  split
  · rfl
  · rfl

theorem resolve_ids (closes : Option String) (instant : String) (intents : List Intent) :
    (intents.map (resolve closes instant)).map Intent.intentId = intents.map Intent.intentId := by
  rw [List.map_map]
  exact List.map_congr_left fun intent _ => resolve_id closes instant intent

namespace Records

theorem initial : Records [] Enforcer.initial :=
  ⟨List.nodup_nil, fun _ none => absurd none List.not_mem_nil, fun _ none => absurd none List.not_mem_nil,
    fun _ none => absurd none List.not_mem_nil⟩

/-- A task may be left to do whose records are on record. -/
theorem push (records : Records earlier enforcer) {task : Task}
    (held : ∀ id ∈ task.holds, id ∈ enforcer.store.intents.map Intent.intentId) :
    Records earlier (enforcer.push task) := by
  refine ⟨records.distinct, ?_, records.known, records.closed⟩
  intro other member
  rcases List.mem_append.mp member with before | new
  · exact records.held other before
  · rw [List.mem_singleton.mp new]
    exact held

theorem store (records : Records earlier enforcer) {store : Local} (same : store.intents = enforcer.store.intents) :
    Records earlier { enforcer with store } := by
  obtain ⟨distinct, held, known, closed⟩ := records
  rw [← same] at distinct held known closed
  exact ⟨distinct, held, known, closed⟩

theorem abandon (records : Records earlier enforcer) (index : Nat) :
    Records earlier { enforcer with tasks := enforcer.tasks.eraseIdx index } :=
  ⟨records.distinct, fun task member => records.held task (List.mem_of_mem_eraseIdx member), records.known,
    records.closed⟩

/-- A record on file is open as long as no envelope was chained for it. -/
theorem isOpen_iff (records : Records earlier enforcer) {id : String}
    (onFile : id ∈ enforcer.store.intents.map Intent.intentId) :
    enforcer.store.isOpen id = true ↔ id ∉ earlier := by
  obtain ⟨intent, member, rfl⟩ := List.mem_map.mp onFile
  unfold Local.isOpen
  rw [List.any_eq_true, records.closed intent member]
  constructor
  · rintro ⟨other, inside, isOpen⟩
    rw [Bool.and_eq_true, beq_iff_eq] at isOpen
    rw [← List.inj_on_of_nodup_map records.distinct inside member isOpen.1, Bool.not_eq_true,
      Option.isSome_eq_false_iff]
    exact isOpen.2
  · intro open_
    refine ⟨intent, member, ?_⟩
    rw [Bool.not_eq_true, Option.isSome_eq_false_iff] at open_
    rw [beq_self_eq_true, Bool.true_and]
    exact open_

theorem written (records : Records earlier enforcer) {task : Task} {after : Enforcer} {pushed : List Task}
    {won : List String} {new : List Intent} (move : Move task enforcer after pushed won new)
    (intents : after.store.intents = enforcer.store.intents ++ new) (tasks : ∀ id ∈ task.holds,
      id ∈ enforcer.store.intents.map Intent.intentId) : Records earlier after := by
  have ids : after.store.intents.map Intent.intentId =
      enforcer.store.intents.map Intent.intentId ++ new.map Intent.intentId := by
    rw [intents, List.map_append]
  have fresh : ∀ intent ∈ new, intent.intentId ∉ enforcer.store.intents.map Intent.intentId := by
    intro intent member inside
    obtain ⟨other, held, same⟩ := List.mem_map.mp inside
    exact (move.fresh intent member).2 other held same
  refine ⟨?_, ?_, ?_, ?_⟩
  · rw [ids]
    refine List.nodup_append.mpr ⟨records.distinct, ?_, ?_⟩
    · have few : (new.map Intent.intentId).length ≤ 1 := by
        rw [List.length_map]
        exact move.single
      exact List.nodup_iff_count_le_one.mpr fun id => List.count_le_length.trans few
    · rintro id held other named rfl
      obtain ⟨intent, member, rfl⟩ := List.mem_map.mp named
      exact fresh intent member held
  · intro next member id held
    rw [ids]
    rw [move.tasks] at member
    rcases List.mem_append.mp member with before | left
    · exact List.mem_append_left _ (records.held next before id held)
    · rcases move.holds next left id held with old | isNew
      · exact List.mem_append_left _ (tasks id old)
      · exact List.mem_append_right _ isNew
  · intro id closed
    rw [ids]
    exact List.mem_append_left _ (records.known id closed)
  · intro intent member
    rw [intents] at member
    rcases List.mem_append.mp member with before | isNew
    · exact records.closed intent before
    · rw [(move.fresh intent isNew).1]
      constructor
      · exact fun closed => absurd (records.known _ closed) (fresh intent isNew)
      · exact fun none => by cases none

theorem resolved (records : Records earlier enforcer) {task : Task} {after : Enforcer} {pushed : List Task}
    {won : List String} (move : Move task enforcer after pushed won []) {instant : String}
    (intents : after.store.intents = enforcer.store.intents.map (resolve task.closes instant))
    (tasks : ∀ id ∈ task.holds, id ∈ enforcer.store.intents.map Intent.intentId) :
    Records (earlier ++ task.closes.toList) after := by
  have ids : after.store.intents.map Intent.intentId = enforcer.store.intents.map Intent.intentId := by
    rw [intents]
    exact resolve_ids _ _ _
  refine ⟨?_, ?_, ?_, ?_⟩
  · rw [ids]
    exact records.distinct
  · intro next member id held
    rw [ids]
    rw [move.tasks] at member
    rcases List.mem_append.mp member with before | left
    · exact records.held next before id held
    · rcases move.holds next left id held with old | isNew
      · exact tasks id old
      · exact absurd isNew List.not_mem_nil
  · intro id closed
    rw [ids]
    rcases List.mem_append.mp closed with before | now
    · exact records.known id before
    · exact tasks id (closes_mem_holds (Option.mem_toList.mp now))
  · intro intent member
    rw [intents] at member
    obtain ⟨old, held, rfl⟩ := List.mem_map.mp member
    rw [resolve_id, List.mem_append, Option.mem_toList, records.closed old held]
    unfold resolve
    by_cases same : task.closes = some old.intentId
    · rw [if_pos same.symm]
      exact ⟨fun _ => rfl, fun _ => .inr same⟩
    · rw [if_neg (fun other => same other.symm)]
      exact or_iff_left same

/-- What a step chains for a record is recorded with it. -/
theorem perform (records : Records earlier enforcer) {index : Nat} {task : Task} {reading : Reading}
    (found : enforcer.tasks[index]? = some task) (named : task.Named) :
    Records (earlier ++ (enforcer.closing ext checkShape config classifier (.perform index reading)).toList)
      (Enforcer.performTask ext checkShape config classifier
        { enforcer with tasks := enforcer.tasks.eraseIdx index } task reading) := by
  obtain ⟨pushed, won, written, move⟩ := @performTask_moves ext checkShape config classifier
    { enforcer with tasks := enforcer.tasks.eraseIdx index } task reading named
  have stepped : enforcer.step ext checkShape config classifier (.perform index reading) =
      Enforcer.performTask ext checkShape config classifier
        { enforcer with tasks := enforcer.tasks.eraseIdx index } task reading := by
    unfold Enforcer.step
    dsimp only
    rw [found]
  have tasks := records.held task (List.mem_of_getElem? found)
  unfold closing
  dsimp only
  rw [stepped, found, Option.bind_some]
  generalize Enforcer.performTask ext checkShape config classifier
    { enforcer with tasks := enforcer.tasks.eraseIdx index } task reading = after at move ⊢
  have rest : Records earlier { enforcer with tasks := enforcer.tasks.eraseIdx index } := records.abandon index
  rcases move.records with ⟨intents, chain⟩ | ⟨⟨row, rows⟩, rfl, instant, intents⟩
  · rw [if_pos (by rw [chain]), Option.toList_none, List.append_nil]
    exact rest.written move intents tasks
  · have grown : after.store.chain.envelopes.length ≠ enforcer.store.chain.envelopes.length := by
      rw [rows, List.length_append]
      exact Nat.succ_ne_self _
    rw [if_neg grown]
    exact rest.resolved move intents tasks

theorem step (records : Records earlier enforcer) (named : ∀ task ∈ enforcer.tasks, task.Named) (action : Action) :
    Records (earlier ++ (enforcer.closing ext checkShape config classifier action).toList)
      (enforcer.step ext checkShape config classifier action) := by
  have still : ∀ {after}, Records earlier after → Records (earlier ++ ([] : List String)) after := by
    intro after kept
    rw [List.append_nil]
    exact kept
  have nothing : ∀ id ∈ ([] : List String), id ∈ enforcer.store.intents.map Intent.intentId :=
    fun _ none => absurd none List.not_mem_nil
  cases action with
  | perform index reading =>
      cases found : enforcer.tasks[index]? with
      | none =>
          have same : enforcer.step ext checkShape config classifier (.perform index reading) = enforcer := by
            unfold Enforcer.step
            dsimp only
            rw [found]
          unfold closing
          dsimp only
          rw [same, if_pos rfl]
          exact still records
      | some task =>
          have performed := @perform ext checkShape config classifier _ _ records index task reading found
            (named task (List.mem_of_getElem? found))
          have stepped : enforcer.step ext checkShape config classifier (.perform index reading) =
              Enforcer.performTask ext checkShape config classifier
                { enforcer with tasks := enforcer.tasks.eraseIdx index } task reading := by
            unfold Enforcer.step
            dsimp only
            rw [found]
          rw [stepped]
          exact performed
  | call session call policy required =>
      refine still ?_
      show Records earlier (enforcer.call ext config classifier session call policy required)
      rcases @call_pushes ext config classifier enforcer session call policy required with
        same | ⟨task, same, _, _, holds⟩
      · rw [same]
        exact records
      · rw [same]
        exact records.push (holds ▸ nothing)
  | abandon index => exact still (records.abandon index)
  | decide => exact still (records.store rfl)
  | decideSeed => exact still (records.store rfl)
  | record => exact still (records.store rfl)
  | applySeeds => exact still (records.push nothing)
  | recoverIntents session now =>
      refine still (records.push ?_)
      intro id held
      obtain ⟨intent, listed, rfl⟩ := List.mem_map.mp held
      exact List.mem_map_of_mem (openIntents_sub listed)

/-- What a step closes is on file. -/
theorem closing_mem (records : Records earlier enforcer) {action : Action} {id : String}
    (closes : enforcer.closing ext checkShape config classifier action = some id) :
    id ∈ enforcer.store.intents.map Intent.intentId := by
  cases action with
  | perform index reading =>
      unfold closing at closes
      dsimp only at closes
      split at closes
      · cases closes
      · obtain ⟨task, found, named⟩ := Option.bind_eq_some_iff.mp closes
        exact records.held task (List.mem_of_getElem? found) id (closes_mem_holds named)
  | _ => cases closes

end Records

end Enforcer

variable (ext checkShape config classifier) in
/-- The records closed over a run, one for each envelope that was chained for one. -/
def closings (actions : List Action) : List String :=
  (enforcement ext checkShape config classifier).outputs
    (Enforcer.closing ext checkShape config classifier) .initial actions

/-- Where a run comes, the closed records are those an envelope was chained for. -/
theorem run_records (actions : List Action) :
    Enforcer.Records (closings ext checkShape config classifier actions)
      ((enforcement ext checkShape config classifier).run .initial actions) := by
  induction actions using List.reverseRecOn with
  | nil => exact Enforcer.Records.initial
  | append_singleton actions action ih =>
      have named := ((enforcement ext checkShape config classifier).outputs_invariant
        (fun earlier enforcer => enforcer.Claims earlier) (fun _ _ action claims => claims.step action)
        Enforcer.Claims.initial actions).named
      unfold closings
      rw [System.outputs_concat, System.run_append]
      exact ih.step named action

/-- No record is closed by two envelopes just when each that is closed by one was open. -/
theorem one_envelope_iff (actions : List Action) :
    (closings ext checkShape config classifier actions).Nodup ↔
      (enforcement ext checkShape config classifier).EachStep .initial actions
        (Enforcer.ClosesOpen ext checkShape config classifier) := by
  have exact_ : ∀ before action id, Enforcer.closing ext checkShape config classifier
      ((enforcement ext checkShape config classifier).run .initial before) action = some id →
      (((enforcement ext checkShape config classifier).run .initial before).store.isOpen id = true ↔
        id ∉ closings ext checkShape config classifier before) :=
    fun before action id closes => (run_records before).isOpen_iff ((run_records before).closing_mem closes)
  unfold closings
  rw [System.outputs_nodup_iff]
  constructor
  · intro new before action after split id closes
    exact (exact_ before action id closes).mpr (new before action after split id closes)
  · intro opens before action after split id closes
    exact (exact_ before action id closes).mp (opens before action after split id closes)

end Stozher.Gateway

namespace Stozher.Deployment

open Library Library.Text Recorded Gateway

def starCaller : Members :=
  [("identity", .object [("component", .string "gateway"), ("key", .string opsKey), ("subject", .string "agent:ops")]),
    ("mandate-ref", .string opsMandate.digest), ("policy-version", .string "1"), ("classification", .string "benign")]

def starEvidence : Members :=
  [("evidence", .object [("media-type", .string "application/json"), ("payload-hash", .string starPayload.digest),
    ("retain-until", .string "2026-01-31T09:00:00.000Z"), ("schema", .string "github.star.v1")])]

def recoveredEnvelope (sig : Members) : Value :=
  .object ([("emitted-at", .string nine),
    ("execution", .object [("action", .string "github.star"), ("finished-at", .string nine),
      ("target", .string "mcp:github"), ("args-hash", .string noArguments.digest), ("outcome", .string "attempted"),
      ("started-at", .string nine)]),
    ("prev-hash", .null), ("seq", .ofNat 0)] ++ sig ++ [("stream", .string "gateway:ops"),
    ("v", .string "stozher/0.1"), ("kind", .string "effect")] ++ starCaller ++ starEvidence)

def appliedEnvelope (prevHash : String) (sig : Members) : Value :=
  .object ([("prev-hash", .string prevHash), ("seq", .ofNat 1)] ++ sig ++ [("stream", .string "gateway:ops"),
    ("v", .string "stozher/0.1"), ("kind", .string "effect"), ("emitted-at", .string nine)] ++ starCaller ++
    [("execution", .object [("action", .string "github.star"), ("target", .string "mcp:github"),
      ("args-hash", .string noArguments.digest), ("outcome", .string "applied"), ("started-at", .string nine),
      ("finished-at", .string nine)])] ++ starEvidence)

def recoveredStar : Recorded where
  form := recoveredEnvelope
  sealed := some (opsKey, signatureText
    0x00aa819984a03856d85abedbc397465369bb6a5490be8d45be33b060e2e4a882
    0xebf7ffb11901cbb756a11f98cf056350581fb807a99ae3a615c83c5587561d0a)
  digest := hex 64 0xe8b4cba16070caac608ac9d133bfa8613f98b5061087a1ef0ef830f40a012772

def appliedStar : Recorded where
  form := appliedEnvelope recoveredStar.digest
  sealed := some (opsKey, signatureText
    0xb3fa5bde6d5d87f2ec410c850d556d3bf1f955d78f19f5abff589e2ecd375194
    0x50229c9f9288bbc1899a630f670b970642a6ba5ca8d4ba39eb89288ae8e54600)
  digest := hex 64 0x0950b2fffff0ecb6cc8274546f5e89d5b351d49f716ce60aebfeab5be673dc11

def starRecords : List Recorded :=
  [noArguments, starPayload, recoveredStar, appliedStar]

def starExt : External :=
  external starRecords

def starSession : Session :=
  { opsSession with key := signingKey starRecords opsId }

/-- A star is let through and its record written ahead. -/
def starring : List Gateway.Action :=
  [.call starSession (toolCall "star") inForce true, .perform 0 (readAt nine)]

def starUnderWay : Enforcer :=
  (enforcement starExt shapeless gatewayConfig (tiers [])).run .initial starring

def openStars : List Intent :=
  starUnderWay.store.intents.filter fun intent => intent.resolvedAt.isNone &&
    intent.stream == starSession.stream && intent.subjectKey == starSession.key.id.text

/-- Another process has listed the record of the star. -/
def starListed : Enforcer :=
  starUnderWay.push (.recover starSession nine openStars)

/-- It chains what it listed, and then the call comes back and is chained. -/
def overtaking : List Gateway.Action :=
  [.perform 1 (readAt nine), .perform 0 (readAt nine), .perform 1 (readAt nine)]

structure StarSeen : Prop where
  single : openStars.length ≤ 1
  before : closings starExt shapeless gatewayConfig (tiers [])
    (starring ++ [.recoverIntents starSession nine]) = []
  twice : (enforcement starExt shapeless gatewayConfig (tiers [])).outputs
    (Enforcer.closing starExt shapeless gatewayConfig (tiers [])) starListed overtaking =
      [(readAt nine).fresh, (readAt nine).fresh]

theorem star_seen : StarSeen := by
  constructor <;> decide +kernel

theorem run_listed : (enforcement starExt shapeless gatewayConfig (tiers [])).run .initial
    (starring ++ [.recoverIntents starSession nine]) = starListed := by
  have listed : starUnderWay.store.openIntents starSession.stream starSession.key.id.text = openStars := by
    have single := star_seen.single
    show openStars.mergeSort _ = openStars
    rcases few : openStars with _ | ⟨intent, _ | ⟨second, rest⟩⟩
    · exact List.mergeSort_nil
    · exact List.mergeSort_singleton intent
    · rw [few] at single
      exact absurd single (by simp)
  rw [System.run_append, System.run_cons, System.run_nil]
  show starUnderWay.push (.recover starSession nine
    (starUnderWay.store.openIntents starSession.stream starSession.key.id.text)) = starListed
  rw [listed]
  rfl

/-- The call and the recovery both chain an envelope for the one record of the call. -/
theorem star_closed_twice : ¬ (closings starExt shapeless gatewayConfig (tiers [])
    (starring ++ [.recoverIntents starSession nine] ++ overtaking)).Nodup := by
  have before := star_seen.before
  unfold closings at before ⊢
  rw [System.outputs_append, before, run_listed, star_seen.twice]
  decide

end Stozher.Deployment
