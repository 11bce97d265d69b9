import Stozher.Gateway.Push
import Stozher.GatewayBridge

namespace Stozher.Gateway

open Library

variable {κ : Type}

namespace Outbox

/-- The local chain whose envelopes the rows are. -/
def chain (outbox : Outbox) : GatewayStore where
  envelopes := outbox.rows.map Queued.toLocalEnvelope

def keep (row : LocalEnvelope) : Queued where
  toLocalEnvelope := row
  pushedAt := none
  pushError := none

/-- The store without the rows of one stream. -/
def without (outbox : Outbox) (stream : String) : Outbox :=
  { outbox with rows := outbox.rows.filter fun row => row.stream != stream }

end Outbox

/-- What the gateway does with its local chain: it chains an envelope, or offers what is unpushed. -/
inductive Turn (κ : Type) where
  | chain (emission : Emission)
  | push (ask : κ → Queued → Answer × κ) (kernel : κ) (now : String) (limit : Int)

def turn (ext : External) (checkShape : Value → Result Unit) (outbox : Outbox) : Turn κ → Outbox
  | .chain emission =>
      match append ext checkShape outbox.chain emission with
      | .ok (next, _) =>
          { outbox with
            rows := outbox.rows ++ (next.envelopes.drop outbox.rows.length).map Outbox.keep }
      | .error _ => outbox
  | .push ask kernel now limit => (pushPending ext ask now kernel outbox limit).outbox

/-- A gateway over a new local store. -/
def pusher (ext : External) (checkShape : Value → Result Unit) : System Outbox (Turn κ) where
  start outbox := outbox.rows = [] ∧ outbox.wedges = []
  step := turn ext checkShape

variable {ext : External} {checkShape : Value → Result Unit} {ask : κ → Queued → Answer × κ} {now : String}

namespace Outbox

variable {outbox : Outbox}

theorem update_chain {id : String} {change : Queued → Queued}
    (keeps : ∀ row, (change row).toLocalEnvelope = row.toLocalEnvelope) :
    (outbox.update id change).chain = outbox.chain := by
  unfold chain update
  rw [List.map_map]
  congr 1
  apply List.map_congr_left
  intro row _
  show (if row.id = id then change row else row).toLocalEnvelope = row.toLocalEnvelope
  split
  · exact keeps row
  · rfl

theorem markPushed_chain {id instant : String} {error : Option String} :
    (outbox.markPushed id instant error).chain = outbox.chain :=
  update_chain fun _ => rfl

theorem markPushError_chain {id detail : String} : (outbox.markPushError id detail).chain = outbox.chain :=
  update_chain fun _ => rfl

theorem recordWedge_chain {wedge : Wedge} : (outbox.recordWedge wedge).chain = outbox.chain := by
  unfold recordWedge
  split
  · rfl
  · rfl

theorem clearWedge_chain {stream : String} : (outbox.clearWedge stream).chain = outbox.chain := rfl

end Outbox

/-- Offering an envelope writes nothing of what is chained. -/
theorem offer_chain {pass : Pass κ} {row : Queued} : (offer ext ask now pass row).outbox.chain = pass.outbox.chain := by
  unfold offer
  dsimp only
  split
  · rfl
  · split
    · exact Outbox.markPushError_chain
    · split
      · exact Outbox.clearWedge_chain.trans Outbox.markPushed_chain
      · split
        · exact Outbox.markPushError_chain
        · split
          · rfl
          · exact Outbox.recordWedge_chain.trans Outbox.markPushed_chain

theorem pushPending_chain {kernel : κ} {outbox : Outbox} {limit : Int} :
    (pushPending ext ask now kernel outbox limit).outbox.chain = outbox.chain := by
  have keeps : ∀ (rows : List Queued) (pass : Pass κ),
      (rows.foldl (offer ext ask now) pass).outbox.chain = pass.outbox.chain := by
    intro rows
    induction rows with
    | nil => exact fun _ => rfl
    | cons row rest ih => exact fun pass => (ih _).trans offer_chain
  exact keeps _ _

theorem turn_refused {outbox : Outbox} {emission : Emission} {refusal : Error}
    (done : append ext checkShape outbox.chain emission = .error refusal) :
    turn ext checkShape outbox (.chain emission : Turn κ) = outbox := by
  unfold turn
  dsimp only
  rw [done]

theorem turn_chain {outbox : Outbox} {emission : Emission} {next : GatewayStore} {id : String}
    (done : append ext checkShape outbox.chain emission = .ok (next, id)) :
    (turn ext checkShape outbox (.chain emission : Turn κ)).chain = next := by
  obtain ⟨row, _, rows, _⟩ := append_eq_ok done
  have length : outbox.rows.length = outbox.chain.envelopes.length := (List.length_map _).symm
  have chained : next = { envelopes := outbox.chain.envelopes ++ [row] } := by
    rw [← rows]
  unfold turn
  dsimp only
  rw [done]
  dsimp only
  rw [length, rows, List.drop_left, chained]
  unfold Outbox.chain
  rw [List.map_append]
  rfl

/-- What the gateway has chained is a local chain. -/
theorem pusher_chain {outbox : Outbox} (reached : (@pusher κ ext checkShape).Reachable outbox) :
    (emitter ext checkShape).Reachable outbox.chain := by
  refine reached.invariant (fun state => (emitter ext checkShape).Reachable state.chain) ?_ ?_
  · intro state start
    apply System.Reachable.of_start
    show state.rows.map Queued.toLocalEnvelope = []
    rw [start.1]
    rfl
  · intro state action _ emitted
    show (emitter ext checkShape).Reachable (turn ext checkShape state action).chain
    cases action with
    | push ask kernel now limit =>
        have same : (turn ext checkShape state (.push ask kernel now limit)).chain = state.chain := pushPending_chain
        rw [same]
        exact emitted
    | chain emission =>
        have stepped : (emitter ext checkShape).Reachable (step ext checkShape state.chain emission) :=
          emitted.step emission
        cases done : append ext checkShape state.chain emission with
        | error refusal =>
            rw [turn_refused done]
            exact emitted
        | ok pair =>
            unfold step at stepped
            rw [done] at stepped
            rw [turn_chain done]
            exact stepped

/-- The rows of a local chain are keyed by their places. -/
theorem keyed_of_chain {outbox : Outbox} (chain : ChainOk ext outbox.chain) : outbox.Keyed := by
  constructor
  · intro row held
    obtain ⟨_, places, _⟩ := chain.chained row.toLocalEnvelope (List.mem_map_of_mem held)
    unfold streamOf
    rw [places.stream]
    rfl
  · apply List.pairwise_iff_forall_sublist.mpr
    intro a b sub same
    have both : a.stream = b.stream ∧ a.seq = b.seq := by
      unfold Queued.place at same
      exact Prod.mk.injEq _ _ _ _ ▸ toLex_inj.mp same
    have within : [a.toLocalEnvelope, b.toLocalEnvelope].Sublist
        (outbox.chain.envelopes.filter fun row => row.stream == b.stream) := by
      have filtered := (sub.map Queued.toLocalEnvelope).filter fun row => row.stream == b.stream
      have all : [a.toLocalEnvelope, b.toLocalEnvelope].filter (fun row => row.stream == b.stream) =
          [a.toLocalEnvelope, b.toLocalEnvelope] := by
        rw [List.filter_eq_self]
        intro row member
        rcases List.mem_cons.mp member with rfl | last
        · exact beq_iff_eq.mpr both.1
        · rw [List.mem_singleton.mp last]
          exact beq_self_eq_true _
      rw [← all]
      exact filtered
    have less := List.pairwise_iff_forall_sublist.mp (chain.increasing b.stream) within
    exact absurd both.2 (Nat.ne_of_lt less)

namespace Outbox

variable {outbox : Outbox} {stream : String}

theorem Keyed.without (keyed : outbox.Keyed) : (outbox.without stream).Keyed :=
  ⟨fun row held => keyed.named row (List.mem_of_mem_filter held), keyed.distinct.filter _⟩

theorem without_pending : (outbox.without stream).pending = outbox.pending.filter fun row => row.stream != stream := by
  unfold pending without
  rw [List.filter_filter, List.filter_filter]
  exact List.filter_congr fun _ _ => Bool.and_comm _ _

theorem without_isFirst {row : Queued} (other : row.stream ≠ stream) :
    (outbox.without stream).IsFirst row ↔ outbox.IsFirst row := by
  unfold IsFirst
  rw [without_pending]
  constructor
  · rintro ⟨member, least⟩
    refine ⟨List.mem_of_mem_filter member, fun next held same => least next (List.mem_filter.mpr ⟨held, ?_⟩) same⟩
    rw [bne_iff_ne, same]
    exact other
  · rintro ⟨member, least⟩
    exact ⟨List.mem_filter.mpr ⟨member, bne_iff_ne.mpr other⟩,
      fun next held => least next (List.mem_of_mem_filter held)⟩

end Outbox

def Pass.Offers (pass : Pass κ) (row : Queued) : Prop :=
  ∃ answer, (row, answer) ∈ pass.offered

/-- A pass offers the first unpushed envelope of every stream that is not wedged, and of no stream does it
leave out the first for the envelopes of another that is. -/
structure Progresses (ext : External) (ask : κ → Queued → Answer × κ) (now : String) (kernel : κ)
    (outbox : Outbox) (limit : Int) : Prop where
  healthy : ∀ row, outbox.IsFirst row → outbox.wedge row.stream = none →
    (pushPending ext ask now kernel outbox limit).Offers row
  unstarved : ∀ stream, (outbox.wedge stream).isSome = true → ∀ row, outbox.IsFirst row → row.stream ≠ stream →
    (pushPending ext ask now kernel (outbox.without stream) limit).Offers row →
    (pushPending ext ask now kernel outbox limit).Offers row

/-- Fewer unpushed envelopes than the limit are in streams that come before one that is not wedged, and the
envelopes of a wedged stream put no other past the limit. -/
structure WithinLimit (outbox : Outbox) (limit : Int) : Prop where
  healthy : ∀ row ∈ outbox.pending, outbox.wedge row.stream = none → Outbox.Fits limit (outbox.before row.stream)
  apart : ∀ stream, (outbox.wedge stream).isSome = true → ∀ row ∈ outbox.pending, row.stream ≠ stream →
    Outbox.Fits limit ((outbox.without stream).before row.stream) → Outbox.Fits limit (outbox.before row.stream)

theorem Outbox.Keyed.progresses_iff {outbox : Outbox} (keyed : outbox.Keyed) (answers : Answers ext ask)
    (kernel : κ) (limit : Int) : Progresses ext ask now kernel outbox limit ↔ WithinLimit outbox limit := by
  have offers : ∀ row, outbox.IsFirst row →
      ((pushPending ext ask now kernel outbox limit).Offers row ↔ Outbox.Fits limit (outbox.before row.stream)) :=
    fun row first => keyed.offers_iff answers first kernel limit
  have apart : ∀ stream row, row.stream ≠ stream → outbox.IsFirst row →
      ((pushPending ext ask now kernel (outbox.without stream) limit).Offers row ↔
        Outbox.Fits limit ((outbox.without stream).before row.stream)) :=
    fun stream row other first =>
      keyed.without.offers_iff answers ((Outbox.without_isFirst other).mpr first) kernel limit
  constructor
  · intro progresses
    constructor
    · intro row held healthy
      obtain ⟨first, isFirst, same⟩ := Outbox.exists_first held rfl
      rw [← same] at healthy ⊢
      exact (offers first isFirst).mp (progresses.healthy first isFirst healthy)
    · intro stream wedged row held other fits
      obtain ⟨first, isFirst, same⟩ := Outbox.exists_first held rfl
      rw [← same] at other fits ⊢
      have offered := (apart stream first other isFirst).mpr fits
      exact (offers first isFirst).mp (progresses.unstarved stream wedged first isFirst other offered)
  · intro within
    constructor
    · intro row first healthy
      exact (offers row first).mpr (within.healthy row first.1 healthy)
    · intro stream wedged row first other offered
      have fits := (apart stream row other first).mp offered
      exact (offers row first).mpr (within.apart stream wedged row first.1 other fits)

theorem pusher_keyed {outbox : Outbox} (reached : (@pusher κ ext checkShape).Reachable outbox) : outbox.Keyed :=
  keyed_of_chain (chainOk (pusher_chain reached))

/-- A pass that is answered progresses on every stream just when the streams before it leave it within the
limit. -/
theorem push_progresses_iff {outbox : Outbox} (reached : (@pusher κ ext checkShape).Reachable outbox)
    (answers : Answers ext ask) (kernel : κ) (limit : Int) :
    Progresses ext ask now kernel outbox limit ↔ WithinLimit outbox limit :=
  (pusher_keyed reached).progresses_iff answers kernel limit

end Stozher.Gateway

namespace Stozher.Deployment

open Library Gateway

def readsEmission : Emission where
  key := Recorded.signingKey records opsId
  stream := "ops:reads"
  body := [("classification", .string "read"),
    ("counts", .object [("by-action", .object [("github.read_secret", .ofNat 1)]), ("total", .ofNat 1)]),
    ("emitted-at", .string nine), ("identity", opsIdentity), ("kind", .string "aggregate"),
    ("mandate-ref", .string opsMandate.digest), ("policy-version", .string "1"),
    ("sample-hashes", texts [noArguments.digest]), ("v", .string "stozher/0.1"),
    ("window", .object [("from", .string nine), ("to", .string nine)])]
  payloads := []
  createdAt := nine

def empty : Outbox where
  rows := []
  wedges := []

/-- A kernel that answers that whatever it is offered leaves a gap. -/
def gapped (_ : Unit) (_ : Queued) : Gateway.Answer × Unit :=
  (.ok { status := 422, body := .object [("reason-code", .string "chain-seq-gap")] }, ())

theorem gapped_answers : Answers ext gapped := by
  intro kernel row
  exact ⟨_, rfl, .inr (by decide +kernel)⟩

/-- A stream is refused before it and a later one get an envelope more. -/
def stranding : List (Turn Unit) :=
  [.chain (noteEmission nine), .push gapped () nine 64, .chain (noteEmission ten), .chain readsEmission]

def stranded : Outbox :=
  (pusher ext fun _ => .ok ()).run empty stranding

structure StrandedSeen : Prop where
  pending : stranded.pending.map (fun row => (row.stream, row.seq)) = [("ops:notes", 1), ("ops:reads", 0)]
  wedges : stranded.wedges.map Wedge.stream = ["ops:notes"]

theorem stranded_seen : StrandedSeen := by
  constructor <;> decide +kernel

theorem stranded_reached : (@pusher Unit ext fun _ => .ok ()).Reachable stranded :=
  ⟨empty, stranding, ⟨rfl, rfl⟩, rfl⟩

theorem stranded_wedges {stream : String} (other : stream ≠ "ops:notes") : stranded.wedge stream = none := by
  have seen := stranded_seen.wedges
  unfold Outbox.wedge
  rw [List.find?_eq_none]
  intro wedge held same
  have named := List.mem_map_of_mem (f := Wedge.stream) held
  rw [seen, List.mem_singleton] at named
  exact other ((beq_iff_eq.mp same).symm.trans named)

/-- A pass over both streams that takes up to sixty-four envelopes progresses on both. -/
theorem stranded_progresses : Progresses ext gapped nine () stranded 64 := by
  refine (push_progresses_iff stranded_reached gapped_answers () 64).mpr ?_
  have few : ∀ stream, Outbox.Fits 64 (stranded.before stream) := by
    intro stream
    have length := congrArg List.length stranded_seen.pending
    rw [List.length_map] at length
    have below : stranded.before stream ≤ stranded.pending.length := List.length_filter_le _ _
    rw [length] at below
    exact .inr (by simp at below; omega)
  exact ⟨fun row _ _ => few row.stream, fun _ _ row _ _ _ => few row.stream⟩

/-- A pass of one envelope offers that of the wedged stream, and not the other stream's. -/
theorem stranded_starves : (@pusher Unit ext fun _ => .ok ()).Reachable stranded ∧ Answers ext gapped ∧
    ¬ Progresses ext gapped nine () stranded 1 := by
  refine ⟨stranded_reached, gapped_answers, fun progresses => ?_⟩
  have within := ((pusher_keyed stranded_reached).progresses_iff gapped_answers () 1).mp progresses
  have last : ("ops:reads", 0) ∈ stranded.pending.map fun row => (row.stream, row.seq) := by
    rw [stranded_seen.pending]
    decide
  obtain ⟨row, held, place⟩ := List.mem_map.mp last
  rw [Prod.mk.injEq] at place
  have fits := within.healthy row held (stranded_wedges (by rw [place.1]; decide))
  have counted : stranded.before row.stream = 1 := by
    have places := congrArg
      (fun places => (places.filter fun place : String × Nat => decide (place.1 < "ops:reads")).length)
      stranded_seen.pending
    rw [List.filter_map, List.length_map] at places
    rw [place.1]
    exact places.trans (by decide +kernel)
  rw [counted] at fits
  rcases fits with negative | less
  · exact absurd negative (by decide)
  · exact absurd less (by decide)

end Stozher.Deployment
