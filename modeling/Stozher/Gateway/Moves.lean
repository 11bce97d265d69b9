import Stozher.Gateway.Approval
import Stozher.Gateway.Enforcement

namespace Stozher.Gateway

open Library

variable {ext : External} {checkShape : Value → Result Unit} {config : GatewayConfig} {classifier : Classifier}

/-- The hash of the request a decision is about, as it is claimed. -/
def decisionHash (decision : Value) : String :=
  str (decision.index "request-hash")

/-- Closes the record of a name. -/
def resolve (resolveIntent : Option String) (instant : String) (intent : Intent) : Intent :=
  if some intent.intentId = resolveIntent then { intent with resolvedAt := some instant } else intent

namespace Task

/-- The decision a task acts on: it forwards the call, or chains the seed's envelope. -/
def spends : Task → Option Value
  | .forward _ (some authorization) => some (authorization.index "decision")
  | .chainSeed _ _ _ _ decision _ _ => some decision
  | _ => none

/-- The claim a task goes on the strength of. -/
def claimed : Task → Option String
  | .settle _ _ authorization => some (decisionHash (authorization.index "decision"))
  | .forward _ (some authorization) => some (decisionHash (authorization.index "decision"))
  | .chainSeed _ _ _ _ decision _ _ => some (decisionHash decision)
  | _ => none

/-- The record a task closes by the envelope it chains. -/
def closes : Task → Option String
  | .chain _ _ _ _ intent => intent
  | .recover _ _ (intent :: _) => some intent.intentId
  | _ => none

/-- The records a task has still to close. -/
def holds : Task → List String
  | .forwarding _ _ _ intent => [intent]
  | .chain _ _ _ _ intent => intent.toList
  | .recover _ _ rest => rest.map Intent.intentId
  | _ => []

end Task

/-- A call that is about to claim a decision claims the request the decision is about. -/
def After.Named : After → Prop
  | .claim _ _ authorization requestHash => requestHash = decisionHash (authorization.index "decision")
  | .seeds _ _ _ => True

namespace Task

def Named : Task → Prop
  | .verifySeed _ _ _ _ after => after.Named
  | .claimSeed _ _ _ _ _ after => after.Named
  | .chainSeed _ _ _ _ _ _ after => after.Named
  | .recordSeed _ after => after.Named
  | .claim _ _ authorization requestHash => requestHash = decisionHash (authorization.index "decision")
  | _ => True

end Task

/-- What a task makes of the gateway: the tasks it leaves to do, the claims it wins and the records it
writes ahead. -/
structure Move (task : Task) (before after : Enforcer) (pushed : List Task) (won : List String)
    (written : List Intent) : Prop where
  tasks : after.tasks = before.tasks ++ pushed
  gateSeen : after.store.gateSeen = before.store.gateSeen ++ won
  free : ∀ hash ∈ won, hash ∉ before.store.gateSeen
  few : won.length ≤ 1
  claims : ∀ hash, (task.spends.map decisionHash).toList.count hash + (pushed.filterMap Task.claimed).count hash ≤
    task.claimed.toList.count hash + won.count hash
  named : ∀ next ∈ pushed, next.Named
  records : after.store.intents = before.store.intents ++ written ∧ after.store.chain = before.store.chain ∨
    (∃ row, after.store.chain.envelopes = before.store.chain.envelopes ++ [row]) ∧ written = [] ∧
      ∃ instant, after.store.intents = before.store.intents.map (resolve task.closes instant)
  fresh : ∀ intent ∈ written, intent.resolvedAt = none ∧ ∀ held ∈ before.store.intents,
    held.intentId ≠ intent.intentId
  single : written.length ≤ 1
  holds : ∀ next ∈ pushed, ∀ id ∈ next.holds, id ∈ task.holds ∨ id ∈ written.map Intent.intentId

namespace Move

variable {task : Task} {before : Enforcer}

theorem spends_claimed (task : Task) :
    (task.spends.map decisionHash) = task.claimed ∨ task.spends = none := by
  cases task with
  | chainSeed => exact .inl rfl
  | forward work authorization =>
      cases authorization with
      | none => exact .inr rfl
      | some given => exact .inl rfl
  | _ => exact .inr rfl

theorem spends_le (task : Task) (hash : String) :
    (task.spends.map decisionHash).toList.count hash ≤ task.claimed.toList.count hash := by
  rcases spends_claimed task with same | none
  · rw [same]
  · rw [none]
    exact Nat.zero_le _

theorem unclaimed_count {pushed : List Task} (unclaimed : ∀ next ∈ pushed, next.claimed = none) (hash : String) :
    (pushed.filterMap Task.claimed).count hash = 0 := by
  rw [List.filterMap_eq_nil_iff.mpr unclaimed]
  rfl

/-- A task that claims nothing and writes no record. -/
theorem still {store : Local} {pushed : List Task} (gateSeen : store.gateSeen = before.store.gateSeen)
    (intents : store.intents = before.store.intents) (chain : store.chain = before.store.chain)
    (unclaimed : ∀ next ∈ pushed, next.claimed = none) (named : ∀ next ∈ pushed, next.Named)
    (holds : ∀ next ∈ pushed, ∀ id ∈ next.holds, id ∈ task.holds) :
    Move task before { store, tasks := before.tasks ++ pushed } pushed [] [] := by
  constructor
  · rfl
  · rw [List.append_nil]
    exact gateSeen
  · exact fun _ none => absurd none List.not_mem_nil
  · exact Nat.zero_le _
  · intro hash
    rw [unclaimed_count unclaimed]
    exact spends_le task hash
  · exact named
  · refine .inl ⟨?_, chain⟩
    rw [List.append_nil]
    exact intents
  · exact fun _ none => absurd none List.not_mem_nil
  · exact Nat.zero_le _
  · exact fun next member id held => .inl (holds next member id held)

theorem stops {store : Local} (gateSeen : store.gateSeen = before.store.gateSeen)
    (intents : store.intents = before.store.intents) (chain : store.chain = before.store.chain) :
    Move task before { before with store } [] [] [] := by
  have still : Move task before { store, tasks := before.tasks ++ [] } [] [] [] :=
    still gateSeen intents chain (fun _ none => absurd none List.not_mem_nil)
      (fun _ none => absurd none List.not_mem_nil) fun _ none => absurd none List.not_mem_nil
  rw [List.append_nil] at still
  exact still

theorem goesOn {store : Local} {next : Task} (gateSeen : store.gateSeen = before.store.gateSeen)
    (intents : store.intents = before.store.intents) (chain : store.chain = before.store.chain)
    (unclaimed : next.claimed = none) (named : next.Named) (holds : ∀ id ∈ next.holds, id ∈ task.holds) :
    Move task before (Enforcer.push { before with store } next) [next] [] [] := by
  refine still gateSeen intents chain ?_ ?_ ?_
  · intro other same
    rw [List.mem_singleton.mp same]
    exact unclaimed
  · intro other same
    rw [List.mem_singleton.mp same]
    exact named
  · intro other same
    rw [List.mem_singleton.mp same]
    exact holds

end Move

namespace After

variable {after : After}

theorem unclaimed (after : After) : after.task.claimed = none := by
  cases after with
  | claim => rfl
  | seeds => rfl

theorem holds_nil (after : After) : after.task.holds = [] := by
  cases after with
  | claim => rfl
  | seeds => rfl

theorem Named.task (named : after.Named) : after.task.Named := by
  cases after with
  | claim => exact named
  | seeds => trivial

end After

variable {enforcer : Enforcer}

/-- What an emission leaves: one row more, and the record it was for closed. -/
theorem emit_moves {session : Session} {written : Result (Members × List Value)} {resolves : Option String}
    {reading : Reading} {next : Enforcer} {id : String}
    (done : enforcer.emit ext checkShape session written resolves reading = .ok (next, id)) :
    next.tasks = enforcer.tasks ∧ next.store.gateSeen = enforcer.store.gateSeen ∧
      (∃ row, next.store.chain.envelopes = enforcer.store.chain.envelopes ++ [row]) ∧
      ∃ instant, next.store.intents = enforcer.store.intents.map (resolve resolves instant) := by
  unfold Enforcer.emit Local.append at done
  simp only [bind_eq_ok, pure_eq_ok, Prod.mk.injEq] at done
  obtain ⟨_, _, ⟨_, _⟩, ⟨⟨chain, _⟩, appended, rfl, rfl⟩, rfl, rfl⟩ := done
  obtain ⟨row, _, rows, _⟩ := append_eq_ok appended
  exact ⟨rfl, rfl, ⟨row, rows⟩, reading.createdAt, rfl⟩

theorem parkUnique_quiet {store next : Local} {row : Parked} {fields : List (String × String)} {now : String}
    {held : Option Parked} (parked : store.parkUnique row fields now = (next, held)) :
    next.gateSeen = store.gateSeen ∧ next.intents = store.intents ∧ next.chain = store.chain := by
  unfold Local.parkUnique at parked
  split at parked
  · cases parked
    exact ⟨rfl, rfl, rfl⟩
  · cases parked
    exact ⟨rfl, rfl, rfl⟩

/-- A claim is won by whoever comes first. -/
theorem claimGateUse_eq {store next : Local} {hash : String} {won : Bool}
    (claimed : store.claimGateUse hash = (next, won)) :
    won = false ∧ next = store ∨
      won = true ∧ hash ∉ store.gateSeen ∧ next = { store with gateSeen := store.gateSeen ++ [hash] } := by
  unfold Local.claimGateUse at claimed
  split at claimed
  · cases claimed
    exact .inl ⟨rfl, rfl⟩
  · rename_i free
    cases claimed
    exact .inr ⟨rfl, free, rfl⟩

/-- What performing a task may come to. -/
def Moves (task : Task) (before after : Enforcer) : Prop :=
  ∃ pushed won written, Move task before after pushed won written

theorem Moves.stops {task : Task} {store : Local} (gateSeen : store.gateSeen = enforcer.store.gateSeen)
    (intents : store.intents = enforcer.store.intents) (chain : store.chain = enforcer.store.chain) :
    Moves task enforcer { enforcer with store } :=
  ⟨[], [], [], .stops gateSeen intents chain⟩

theorem Moves.rests (task : Task) (enforcer : Enforcer) : Moves task enforcer enforcer :=
  .stops rfl rfl rfl

theorem Moves.goesOn {task next : Task} {store : Local} (gateSeen : store.gateSeen = enforcer.store.gateSeen)
    (intents : store.intents = enforcer.store.intents) (chain : store.chain = enforcer.store.chain)
    (unclaimed : next.claimed = none) (named : next.Named) (holds : ∀ id ∈ next.holds, id ∈ task.holds) :
    Moves task enforcer (Enforcer.push { enforcer with store } next) :=
  ⟨[next], [], [], .goesOn gateSeen intents chain unclaimed named holds⟩

theorem Moves.turnsTo {task next : Task} (unclaimed : next.claimed = none) (named : next.Named)
    (holds : ∀ id ∈ next.holds, id ∈ task.holds) : Moves task enforcer (enforcer.push next) :=
  .goesOn rfl rfl rfl unclaimed named holds

theorem Moves.follows {task : Task} {after : After} {store : Local}
    (gateSeen : store.gateSeen = enforcer.store.gateSeen) (intents : store.intents = enforcer.store.intents)
    (chain : store.chain = enforcer.store.chain) (named : after.Named) :
    Moves task enforcer (Enforcer.push { enforcer with store } after.task) := by
  refine .goesOn gateSeen intents chain after.unclaimed named.task ?_
  rw [after.holds_nil]
  exact fun _ none => absurd none List.not_mem_nil

/-- A claim that is won is the next task's to act on. -/
theorem Moves.wins {task next : Task} {hash : String} (free : hash ∉ enforcer.store.gateSeen)
    (unspent : task.spends = none) (claimed : next.claimed = some hash) (named : next.Named)
    (holds : next.holds = []) :
    Moves task enforcer (Enforcer.push { enforcer with
      store := { enforcer.store with gateSeen := enforcer.store.gateSeen ++ [hash] } } next) := by
  refine ⟨[next], [hash], [], rfl, rfl, ?_, Nat.le_refl _, ?_, ?_, .inl ⟨(List.append_nil _).symm, rfl⟩, ?_, Nat.zero_le _, ?_⟩
  · intro other same
    rw [List.mem_singleton.mp same]
    exact free
  · intro other
    have one : [next].filterMap Task.claimed = [hash] := by
      rw [List.filterMap_cons_some claimed, List.filterMap_nil]
    rw [unspent, one, Option.map_none, Option.toList_none, List.count_nil, Nat.zero_add]
    exact Nat.le_add_left _ _
  · intro other same
    rw [List.mem_singleton.mp same]
    exact named
  · exact fun _ none => absurd none List.not_mem_nil
  · intro other same id held
    rw [List.mem_singleton.mp same, holds] at held
    exact absurd held List.not_mem_nil

theorem holds_none {task : Task} : ∀ id ∈ ([] : List String), id ∈ task.holds :=
  fun _ none => absurd none List.not_mem_nil

theorem gate_moves {work : Work} {approvers : List Gate.Approver} {firstCall : Bool} {reading : Reading} :
    Moves (.gate work approvers firstCall) enforcer
      (enforcer.gate ext config work approvers firstCall reading) := by
  unfold Enforcer.gate
  dsimp only
  split
  · exact .turnsTo rfl trivial holds_none
  · split
    · exact .rests _ _
    · split
      · exact .rests _ _
      · split
        · rename_i held
          obtain ⟨gateSeen, intents, chain⟩ := parkUnique_quiet held
          exact .stops gateSeen intents chain
        · rename_i held
          obtain ⟨gateSeen, intents, chain⟩ := parkUnique_quiet held
          split
          · exact .goesOn gateSeen intents chain rfl trivial holds_none
          · exact .stops gateSeen intents chain

theorem parkSeed_moves {work : Work} {requestHash : String} {reading : Reading} :
    Moves (.parkSeed work requestHash) enforcer (enforcer.parkSeed ext config work requestHash reading) := by
  unfold Enforcer.parkSeed
  dsimp only
  split
  · exact .stops rfl rfl rfl
  · exact .rests _ _

/-- What verifies is about the request it is claimed for. -/
theorem claims_decision {request decision envelope : Value} {instant : String} {approvers : List Gate.Approver}
    {seen : List String} {ok : Gate.AuthorizationOk}
    (built : probe request (authorizationOf request decision) instant = .ok envelope)
    (passed : verifyAuthorization ext envelope true approvers seen (some instant) = .ok (some ok)) :
    ok.requestHash = decisionHash decision := by
  have carried : envelope.index "authorization" = authorizationOf request decision := by
    unfold probe at built
    simp only [bind_eq_ok, okOr_eq_ok, pure_eq_ok] at built
    obtain ⟨_, _, _, _, _, _, _, _, _, _, _, _, _, _, _, _, _, _, rfl⟩ := built
    rfl
  have isRequest : (envelope.index "authorization").index "request" = request := by
    rw [carried]
    rfl
  have isDecision : (envelope.index "authorization").index "decision" = decision := by
    rw [carried]
    rfl
  obtain ⟨endorsed, _⟩ := (verifyAuthorization_some isRequest isDecision).mp passed
  unfold decisionHash str
  rw [Value.index_asStr, endorsed.covers, Option.getD_some]

theorem consume_moves {work : Work} {approvers : List Gate.Approver} {parked : Parked} {reading : Reading} :
    Moves (.consume work approvers parked) enforcer (enforcer.consume ext work approvers parked reading) := by
  unfold Enforcer.consume
  dsimp only
  split
  · exact .rests _ _
  · rename_i built
    split
    · exact .rests _ _
    · rename_i passed
      have claims := claims_decision built passed
      split
      · exact .turnsTo rfl claims holds_none
      · exact .turnsTo rfl claims holds_none
    · split
      · exact .goesOn rfl rfl rfl rfl trivial holds_none
      · exact .stops rfl rfl rfl

theorem verifySeed_moves {session : Session} {policy : Policy} {approvers : List Gate.Approver}
    {parked : Parked} {after : After} {reading : Reading} (named : after.Named) :
    Moves (.verifySeed session policy approvers parked after) enforcer
      (enforcer.verifySeed ext session policy approvers parked after reading) := by
  have follows : Moves (.verifySeed session policy approvers parked after) enforcer (enforcer.push after.task) :=
    .follows rfl rfl rfl named
  unfold Enforcer.verifySeed
  split
  · split
    · exact follows
    · split
      · split
        · exact .turnsTo rfl named holds_none
        · exact follows
      · exact .rests _ _
  · exact follows

theorem claimSeed_moves {session : Session} {policy : Policy} {parked : Parked} {seed : Seed} {decision : Value}
    {after : After} {reading : Reading} (named : after.Named) :
    Moves (.claimSeed session policy parked seed decision after) enforcer
      (enforcer.claimSeed session policy parked seed decision after reading) := by
  unfold Enforcer.claimSeed
  split
  · rename_i claimed
    rcases claimGateUse_eq claimed with ⟨lost, _⟩ | ⟨_, free, rfl⟩
    · cases lost
    · exact .wins free rfl rfl named rfl
  · exact .follows rfl rfl rfl named

theorem claim_moves {work : Work} {parked : Parked} {authorization : Value} {requestHash : String}
    {reading : Reading} (named : requestHash = decisionHash (authorization.index "decision")) :
    Moves (.claim work parked authorization requestHash) enforcer
      (enforcer.claim work parked authorization requestHash reading) := by
  subst named
  unfold Enforcer.claim
  split
  · rename_i claimed
    rcases claimGateUse_eq claimed with ⟨lost, _⟩ | ⟨_, free, rfl⟩
    · cases lost
    · exact .wins free rfl rfl trivial rfl
  · exact .stops rfl rfl rfl

/-- An emission that is chained closes the record it was for. -/
theorem Moves.emits {task : Task} {session : Session} {body : Result (Members × List Value)} {reading : Reading}
    {after : Enforcer} {id : String} {pushed : List Task}
    (done : enforcer.emit ext checkShape session body task.closes reading = .ok (after, id))
    (unclaimed : ∀ next ∈ pushed, next.claimed = none) (named : ∀ next ∈ pushed, next.Named)
    (holds : ∀ next ∈ pushed, ∀ id ∈ next.holds, id ∈ task.holds) :
    Moves task enforcer { after with tasks := after.tasks ++ pushed } := by
  obtain ⟨tasks, gateSeen, chained, closed⟩ := emit_moves done
  refine ⟨pushed, [], [], ?_, ?_, fun _ none => absurd none List.not_mem_nil, Nat.zero_le _, ?_, named,
    .inr ⟨chained, rfl, closed⟩, fun _ none => absurd none List.not_mem_nil, Nat.zero_le _,
    fun next member id held => .inl (holds next member id held)⟩
  · show after.tasks ++ pushed = enforcer.tasks ++ pushed
    rw [tasks]
  · rw [List.append_nil]
    exact gateSeen
  · intro hash
    rw [Move.unclaimed_count unclaimed]
    exact Move.spends_le task hash

theorem chainSeed_moves {session : Session} {policy : Policy} {parked : Parked} {seed : Seed} {decision : Value}
    {now : String} {after : After} {reading : Reading} (named : after.Named) :
    Moves (.chainSeed session policy parked seed decision now after) enforcer
      (enforcer.chainSeed ext checkShape config classifier session policy parked seed decision now after reading) := by
  unfold Enforcer.chainSeed
  split
  · exact .rests _ _
  · rename_i done
    refine .emits done ?_ ?_ ?_
    · intro next same
      rw [List.mem_singleton.mp same]
      rfl
    · intro next same
      rw [List.mem_singleton.mp same]
      exact named
    · intro next same
      rw [List.mem_singleton.mp same]
      exact holds_none

theorem settle_moves {work : Work} {parked : Parked} {authorization : Value} {reading : Reading} :
    Moves (.settle work parked authorization) enforcer (Enforcer.push
      { enforcer with store := enforcer.store.consume parked.requestHash reading.now }
      (.forward work (some authorization))) := by
  refine ⟨[_], [], [], rfl, (List.append_nil _).symm, fun _ none => absurd none List.not_mem_nil, Nat.zero_le _, ?_, ?_,
    .inl ⟨(List.append_nil _).symm, rfl⟩, fun _ none => absurd none List.not_mem_nil, Nat.zero_le _, ?_⟩
  · intro hash
    exact (Nat.zero_add _).le
  · intro next same
    rw [List.mem_singleton.mp same]
    trivial
  · intro next same id held
    rw [List.mem_singleton.mp same] at held
    exact absurd held List.not_mem_nil

theorem forward_moves {work : Work} {authorization : Option Value} {reading : Reading} :
    Moves (.forward work authorization) enforcer (enforcer.forward ext config work authorization reading) := by
  unfold Enforcer.forward
  split
  · exact .turnsTo rfl trivial holds_none
  · split
    · exact .rests _ _
    · split
      · exact .rests _ _
      · rename_i store recorded
        unfold Local.recordIntent at recorded
        simp only [require_bind_eq_ok, pure_eq_ok, List.all_eq_true, bne_iff_ne] at recorded
        obtain ⟨fresh, rfl⟩ := recorded
        refine ⟨[_], [], [_], rfl, (List.append_nil _).symm, fun _ none => absurd none List.not_mem_nil,
          Nat.zero_le _, ?_, ?_,
          .inl ⟨rfl, rfl⟩, ?_, Nat.le_refl _, ?_⟩
        · exact Move.spends_le (.forward work authorization)
        · intro next same
          rw [List.mem_singleton.mp same]
          trivial
        · intro intent same
          rw [List.mem_singleton.mp same]
          exact ⟨rfl, fresh⟩
        · intro next same id held
          rw [List.mem_singleton.mp same] at held
          exact .inr held

theorem returned_moves {task : Task} {work : Work} {authorization : Option Value} {startedAt : String}
    {intent : Option String} {reading : Reading} (holds : task.holds = intent.toList) :
    Moves task enforcer (enforcer.returned work authorization startedAt intent reading) := by
  have chains : ∀ outcome, Moves task enforcer
      (enforcer.push (.chain work outcome authorization (some startedAt) intent)) := by
    intro outcome
    refine .turnsTo rfl trivial ?_
    rw [holds]
    exact fun _ held => held
  unfold Enforcer.returned
  split
  · exact .rests _ _
  · exact chains "failed"
  · split
    · exact .rests _ _
    · exact chains "applied"

theorem chain_moves {work : Work} {outcome : String} {authorization : Option Value}
    {startedAt intent : Option String} {reading : Reading} :
    Moves (.chain work outcome authorization startedAt intent) enforcer
      (enforcer.chain ext checkShape config work outcome authorization startedAt intent reading) := by
  unfold Enforcer.chain
  split
  · exact .rests _ _
  · rename_i after id done
    have emits : Moves (.chain work outcome authorization startedAt intent) enforcer
        { after with tasks := after.tasks ++ [] } := by
      refine .emits done ?_ ?_ ?_
      · exact fun _ none => absurd none List.not_mem_nil
      · exact fun _ none => absurd none List.not_mem_nil
      · exact fun _ none => absurd none List.not_mem_nil
    rw [List.append_nil] at emits
    exact emits

theorem recover_moves {session : Session} {now : String} {rest : List Intent} {reading : Reading} :
    Moves (.recover session now rest) enforcer (enforcer.recover ext checkShape session now rest reading) := by
  cases rest with
  | nil => exact .rests _ _
  | cons intent rest =>
      have others : ∀ id ∈ (Task.recover session now rest).holds,
          id ∈ (Task.recover session now (intent :: rest)).holds := fun _ held => List.mem_cons_of_mem _ held
      unfold Enforcer.recover
      dsimp only
      split
      · exact .turnsTo rfl trivial others
      · rename_i done
        refine .emits done ?_ ?_ ?_
        · intro next same
          rw [List.mem_singleton.mp same]
          rfl
        · intro next same
          rw [List.mem_singleton.mp same]
          trivial
        · intro next same
          rw [List.mem_singleton.mp same]
          exact others

theorem seeds_moves {session : Session} {policy : Policy} {rest : List Parked} :
    Moves (.seeds session policy rest) enforcer (enforcer.seeds config session policy rest) := by
  cases rest with
  | nil => exact .rests _ _
  | cons parked rest =>
      unfold Enforcer.seeds
      dsimp only
      split
      · exact .turnsTo rfl trivial holds_none
      · exact .turnsTo rfl trivial holds_none

theorem performTask_moves {task : Task} {reading : Reading} (named : task.Named) :
    Moves task enforcer (enforcer.performTask ext checkShape config classifier task reading) := by
  unfold Enforcer.performTask
  cases task with
  | gate => exact gate_moves
  | parkSeed => exact parkSeed_moves
  | consume => exact consume_moves
  | verifySeed => exact verifySeed_moves named
  | claimSeed => exact claimSeed_moves named
  | chainSeed => exact chainSeed_moves named
  | recordSeed => exact .follows rfl rfl rfl named
  | seeds => exact seeds_moves
  | claim => exact claim_moves named
  | settle => exact settle_moves
  | forward => exact forward_moves
  | forwarding => exact returned_moves rfl
  | folding => exact returned_moves rfl
  | chain => exact chain_moves
  | recover => exact recover_moves

end Stozher.Gateway
