import Stozher.Library.Runs
import Stozher.Library.Table
import Stozher.Ingest.Documents

namespace Stozher.Gateway

open Library

variable (ext : External) (checkShape : Value → Result Unit)

/-- A locally chained envelope, with the payloads that go with it. -/
structure LocalEnvelope where
  stream : String
  seq : Nat
  id : String
  envelope : Value
  payloads : List Value
  createdAt : String

/-- The local chain of the gateway, in insertion order. -/
structure GatewayStore where
  envelopes : List LocalEnvelope

def chainWriteFailed : Error :=
  err "chain-write-failed" "UNIQUE constraint failed: envelopes"

def nextSeq (head : Option LocalEnvelope) : Nat :=
  match head with
  | some row => row.seq + 1
  | none => 0

/-- Takes the stream's next position, builds the envelope for it and stores it. -/
def appendNext (store : GatewayStore) (stream : String)
    (build : Nat → Option String → Result (String × Value)) (payloads : List Value)
    (createdAt : String) : Result (GatewayStore × String) := do
  let head := Table.topBy LocalEnvelope.seq
    (store.envelopes.filter fun row => row.stream == stream)
  let seq := nextSeq head
  let (id, envelope) ← build seq (head.map LocalEnvelope.id)
  require (store.envelopes.all fun row =>
    !(row.stream == stream && row.seq == seq) && row.id != id) chainWriteFailed
  return ({ envelopes := store.envelopes ++ [{ stream, seq, id, envelope, payloads, createdAt }] }, id)

/-- The envelope at a position of a stream, signed and checked against the local shape rules. -/
def build (key : Signed.SigningKey) (stream : String) (body : Members) (seq : Nat)
    (prev : Option String) : Result (String × Value) := do
  let envelope := ((body.insert "stream" (.string stream)).insert "seq" (.ofNat seq)).insert
    "prev-hash" (.ofOption prev)
  let signed ← Signed.signObject key (.object envelope)
  (checkShape signed).mapError (·.atSeq seq)
  return (← Signed.objectId ext signed, signed)

structure Emission where
  key : Signed.SigningKey
  stream : String
  body : Members
  payloads : List Value
  createdAt : String

/-- `Emitter.append`: chain, sign, validate and durably store one envelope. -/
def append (store : GatewayStore) (emission : Emission) : Result (GatewayStore × String) :=
  appendNext store emission.stream (build ext checkShape emission.key emission.stream emission.body)
    emission.payloads emission.createdAt

def step (store : GatewayStore) (emission : Emission) : GatewayStore :=
  match append ext checkShape store emission with
  | .ok (next, _) => next
  | .error _ => store

/-- The gateway's emitter over a new local store. -/
def emitter : System GatewayStore Emission where
  start store := store.envelopes = []
  step := step ext checkShape

/-- The request the gateway posts to offer an envelope to the kernel. -/
def ingest (row : LocalEnvelope) : Result Octets := do
  return .canonical (← Jcs.canonicalize (.object [("envelope", row.envelope),
    ("payloads", .array row.payloads)]))

/-- The hash the kernel keeps of that request when it refuses it. -/
def refusedHash (row : LocalEnvelope) : Result String := do
  return Ingest.rejectedBytesHash ext (← ingest row)

variable {ext checkShape}

/-- What a locally chained envelope carries of its place. -/
structure Chained (ext : External) (row : LocalEnvelope) (previous : Option String) : Prop where
  stream : row.envelope.getStr "stream" = some row.stream
  seq : row.envelope.get "seq" = some (.ofNat row.seq)
  prevHash : row.envelope.getStr "prev-hash" = previous
  id : Signed.objectId ext row.envelope = .ok row.id

theorem signObject_get {key : Signed.SigningKey} {members : Members} {signed : Value} {name : String}
    (done : Signed.signObject key (.object members) = .ok signed) (other : name ≠ "sig") :
    signed.get name = members.get name := by
  unfold Signed.signObject at done
  simp only [Value.asObject, okOr, ok_bind, bind_eq_ok, pure_eq_ok] at done
  obtain ⟨message, _, rfl⟩ := done
  show Members.get _ name = _
  rw [Members.get_insert_of_ne other.symm, Members.get_filter_of_ne other.symm]

/-- A built envelope is the body at its place, signed, and of the shape that is checked. -/
theorem build_eq_ok {key : Signed.SigningKey} {stream id : String} {body : Members} {seq : Nat}
    {prev : Option String} {envelope : Value}
    (built : build ext checkShape key stream body seq prev = .ok (id, envelope)) :
    Signed.signObject key (.object (((body.insert "stream" (.string stream)).insert "seq" (.ofNat seq)).insert
        "prev-hash" (.ofOption prev))) = .ok envelope ∧ checkShape envelope = .ok () ∧
      Signed.objectId ext envelope = .ok id := by
  unfold build at built
  simp only [bind_eq_ok, mapError_eq_ok, pure_eq_ok, Prod.mk.injEq] at built
  obtain ⟨signed, done, _, shaped, other, hashed, rfl, rfl⟩ := built
  exact ⟨done, shaped, hashed⟩

theorem build_chained {key : Signed.SigningKey} {stream id createdAt : String} {body : Members}
    {seq : Nat} {prev : Option String} {envelope : Value} {payloads : List Value}
    (built : build ext checkShape key stream body seq prev = .ok (id, envelope)) :
    Chained ext { stream, seq, id, envelope, payloads, createdAt } prev := by
  obtain ⟨done, _, hashed⟩ := build_eq_ok built
  have get := fun name (different : name ≠ "sig") => signObject_get done different
  constructor
  · show envelope.getStr "stream" = some stream
    unfold Value.getStr
    rw [get "stream" (by decide), Members.get_insert_of_ne (by decide),
      Members.get_insert_of_ne (by decide), Members.get_insert_self]
    rfl
  · show envelope.get "seq" = some (.ofNat seq)
    rw [get "seq" (by decide), Members.get_insert_of_ne (by decide), Members.get_insert_self]
  · show envelope.getStr "prev-hash" = prev
    unfold Value.getStr
    rw [get "prev-hash" (by decide), Members.get_insert_self]
    cases prev <;> rfl
  · exact hashed

/-- The local chain: within a stream positions count up, and each envelope names the one before. -/
structure ChainOk (ext : External) (store : GatewayStore) : Prop where
  increasing : ∀ stream, (store.envelopes.filter fun row => row.stream == stream).Pairwise
    fun a b => a.seq < b.seq
  chained : ∀ row ∈ store.envelopes, ∃ previous, Chained ext row previous ∧
    ∀ earlier ∈ store.envelopes, earlier.stream = row.stream → row.seq = earlier.seq + 1 →
      previous = some earlier.id

/-- One emission adds the envelope built onto the head of its stream, under an id that is new. -/
theorem append_built {store next : GatewayStore} {emission : Emission} {id : String}
    (done : append ext checkShape store emission = .ok (next, id)) :
    ∃ head envelope, Table.topBy LocalEnvelope.seq
        (store.envelopes.filter fun other => other.stream == emission.stream) = head ∧
      build ext checkShape emission.key emission.stream emission.body (nextSeq head)
        (head.map LocalEnvelope.id) = .ok (id, envelope) ∧
      (∀ other ∈ store.envelopes, other.id ≠ id) ∧
      next.envelopes = store.envelopes ++ [{
        stream := emission.stream, seq := nextSeq head, id, envelope, payloads := emission.payloads,
        createdAt := emission.createdAt }] := by
  unfold append appendNext at done
  simp only [bind_eq_ok, require_eq_ok, pure_eq_ok, Prod.mk.injEq] at done
  obtain ⟨⟨_, envelope⟩, built, _, fresh, rfl, rfl⟩ := done
  refine ⟨_, envelope, rfl, built, ?_, rfl⟩
  intro other member
  have apart := List.all_eq_true.mp fresh other member
  rw [Bool.and_eq_true, bne_iff_ne] at apart
  exact apart.2

/-- One emission adds a row at the next position of its stream, chained onto the head. -/
theorem append_eq_ok {store next : GatewayStore} {emission : Emission} {id : String}
    (done : append ext checkShape store emission = .ok (next, id)) :
    ∃ row head, next.envelopes = store.envelopes ++ [row] ∧ row.stream = emission.stream ∧
      Table.topBy LocalEnvelope.seq
        (store.envelopes.filter fun other => other.stream == emission.stream) = head ∧
      row.seq = nextSeq head ∧ Chained ext row (head.map LocalEnvelope.id) := by
  obtain ⟨head, envelope, top, built, _, rows⟩ := append_built done
  exact ⟨_, head, rows, rfl, top, rfl, build_chained built⟩

theorem append_fresh {store next : GatewayStore} {emission : Emission} {id : String}
    (done : append ext checkShape store emission = .ok (next, id)) :
    ∃ row, next.envelopes = store.envelopes ++ [row] ∧ ∀ other ∈ store.envelopes, other.id ≠ row.id := by
  obtain ⟨_, _, _, _, fresh, rows⟩ := append_built done
  exact ⟨_, rows, fresh⟩

theorem below_nextSeq {rows : List LocalEnvelope} {row : LocalEnvelope} (member : row ∈ rows) :
    row.seq < nextSeq (Table.topBy LocalEnvelope.seq rows) := by
  cases found : Table.topBy LocalEnvelope.seq rows with
  | none =>
      rw [Table.topBy_eq_none] at found
      rw [found] at member
      cases member
  | some top =>
      exact Nat.lt_succ_of_le (Table.topBy_le found member)

theorem ChainOk.append {store next : GatewayStore} (chain : ChainOk ext store) {emission : Emission}
    {id : String} (done : Gateway.append ext checkShape store emission = .ok (next, id)) :
    ChainOk ext next := by
  obtain ⟨row, head, rows, within, topped, seq, chained⟩ := append_eq_ok done
  have above : ∀ other ∈ store.envelopes, other.stream = row.stream → other.seq < row.seq := by
    intro other member same
    rw [seq, ← topped]
    exact below_nextSeq (List.mem_filter.mpr ⟨member, by simp [same, within]⟩)
  constructor
  · intro stream
    rw [rows, List.filter_append, List.pairwise_append]
    refine ⟨chain.increasing stream, ?_, ?_⟩
    · exact (List.pairwise_singleton _ _).filter _
    · intro other member new isNew
      obtain ⟨inside, named⟩ := List.mem_filter.mp isNew
      rw [List.mem_singleton] at inside
      subst inside
      obtain ⟨held, same⟩ := List.mem_filter.mp member
      rw [beq_iff_eq] at same named
      exact above other held (same.trans named.symm)
  · intro later member
    rw [rows] at member
    rcases List.mem_append.mp member with held | new
    · obtain ⟨previous, places, links⟩ := chain.chained later held
      refine ⟨previous, places, ?_⟩
      intro earlier other same after
      rw [rows] at other
      rcases List.mem_append.mp other with before | last
      · exact links earlier before same after
      · rw [List.mem_singleton] at last
        subst last
        have := above later held same.symm
        omega
    · rw [List.mem_singleton] at new
      subst new
      refine ⟨_, chained, ?_⟩
      intro earlier other same after
      rw [rows] at other
      rcases List.mem_append.mp other with before | last
      · have inside : earlier ∈ store.envelopes.filter fun other => other.stream == emission.stream :=
          List.mem_filter.mpr ⟨before, by simp [same, within]⟩
        cases head with
        | none =>
            rw [Table.topBy_eq_none] at topped
            rw [topped] at inside
            cases inside
        | some top =>
            have distinct : ((store.envelopes.filter fun other =>
                other.stream == emission.stream).map LocalEnvelope.seq).Nodup := by
              rw [List.Nodup, List.pairwise_map]
              exact (chain.increasing emission.stream).imp fun less => Nat.ne_of_lt less
            have equal : top.seq = earlier.seq := by
              have next : later.seq = top.seq + 1 := seq
              omega
            have one := List.inj_on_of_nodup_map distinct (Table.topBy_mem topped) inside equal
            rw [Option.map_some, one]
      · rw [List.mem_singleton] at last
        subst last
        omega

/-- Whatever the gateway emits, its local chain stays one. -/
theorem chainOk {store : GatewayStore} (emitted : (emitter ext checkShape).Reachable store) :
    ChainOk ext store := by
  refine emitted.invariant (ChainOk ext) ?_ ?_
  · intro state start
    have empty : state.envelopes = [] := start
    exact ⟨by simp [empty], by simp [empty]⟩
  · intro state emission _ chain
    show ChainOk ext (step ext checkShape state emission)
    unfold step
    split
    · rename_i done
      exact chain.append done
    · exact chain

end Stozher.Gateway
