import Stozher.GatewayBridge
import Stozher.Library.Transactions

namespace Stozher.Gateway

open Library

variable {ext : External} {checkShape : Value → Result Unit}

def GatewayStore.ofStream (store : GatewayStore) (stream : String) : List LocalEnvelope :=
  store.envelopes.filter fun row => row.stream == stream

/-- How far an append is: the lock is taken, the head is read, the envelope is built, its row is inserted. -/
inductive Appending where
  | locked (emission : Emission)
  | placed (emission : Emission) (head : Option LocalEnvelope)
  | built (emission : Emission) (seq : Nat) (id : String) (envelope : Value)
  | inserted (id : String)

/-- The row an emission is stored as. -/
def Emission.stored (emission : Emission) (seq : Nat) (id : String) (envelope : Value) : LocalEnvelope where
  stream := emission.stream
  seq := seq
  id := id
  envelope := envelope
  payloads := emission.payloads
  createdAt := emission.createdAt

/-- The next statement of an append. -/
def appendingNext (ext : External) (checkShape : Value → Result Unit) (store : GatewayStore) :
    Appending → Option (GatewayStore × Appending)
  | .locked emission =>
      some (store, .placed emission (Table.topBy LocalEnvelope.seq (store.ofStream emission.stream)))
  | .placed emission head =>
      (build ext checkShape emission.key emission.stream emission.body (nextSeq head)
        (head.map LocalEnvelope.id)).toOption.map fun (id, envelope) =>
          (store, .built emission (nextSeq head) id envelope)
  | .built emission seq id envelope =>
      if store.envelopes.all fun row => !(row.stream == emission.stream && row.seq == seq) && row.id != id then
        some ({ envelopes := store.envelopes ++ [emission.stored seq id envelope] }, .inserted id)
      else none
  | .inserted _ => none

/-- `append_next` as the transaction it is. -/
def appending (ext : External) (checkShape : Value → Result Unit) :
    Transactions GatewayStore Appending Emission where
  first := .locked
  next := appendingNext ext checkShape
  final
    | .inserted _ => true
    | _ => false

/-- The threads of any number of processes over one local database. -/
def localWriters (ext : External) (checkShape : Value → Result Unit) (ω : Type) [DecidableEq ω] :
    System (Shared ω GatewayStore Appending) (Turn ω Emission) :=
  (appending ext checkShape).writers ω fun store => store.envelopes = []

/-- What an append has done by a point of it. -/
def Midway (ext : External) (checkShape : Value → Result Unit) (store : GatewayStore) (emission : Emission)
    (copy : GatewayStore) : Appending → Prop
  | .locked other => copy = store ∧ other = emission
  | .placed other head => copy = store ∧ other = emission ∧
      head = Table.topBy LocalEnvelope.seq (store.ofStream emission.stream)
  | .built other seq id envelope => copy = store ∧ other = emission ∧
      seq = nextSeq (Table.topBy LocalEnvelope.seq (store.ofStream emission.stream)) ∧
      build ext checkShape emission.key emission.stream emission.body seq
        ((Table.topBy LocalEnvelope.seq (store.ofStream emission.stream)).map LocalEnvelope.id) = .ok (id, envelope)
  | .inserted id => append ext checkShape store emission = .ok (copy, id)

/-- One statement of an append goes on with it. -/
theorem midway_next {store copy later : GatewayStore} {emission : Emission} {point further : Appending}
    (midway : Midway ext checkShape store emission copy point)
    (moves : appendingNext ext checkShape copy point = some (later, further)) :
    Midway ext checkShape store emission later further := by
  cases point with
  | locked other =>
      obtain ⟨rfl, rfl⟩ := midway
      cases moves
      exact ⟨rfl, rfl, rfl⟩
  | placed other head =>
      obtain ⟨rfl, rfl, rfl⟩ := midway
      unfold appendingNext at moves
      rw [Option.map_eq_some_iff] at moves
      obtain ⟨⟨id, envelope⟩, builds, pair⟩ := moves
      cases pair
      exact ⟨rfl, rfl, rfl, toOption_eq_some.mp builds⟩
  | built other seq id envelope =>
      obtain ⟨rfl, rfl, rfl, builds⟩ := midway
      dsimp only [appendingNext] at moves
      rw [Option.ite_none_right_eq_some] at moves
      obtain ⟨fresh, result⟩ := moves
      cases result
      show append ext checkShape copy other = _
      unfold append appendNext
      simp only [bind_eq_ok, require_eq_ok, pure_eq_ok]
      exact ⟨_, builds, (), fresh, rfl⟩
  | inserted id => cases moves

/-- A committed append is `append` over what was committed before it. -/
theorem append_of_gets {store copy : GatewayStore} {emission : Emission} {point : Appending}
    (gets : (appending ext checkShape).Gets (store, .locked emission) (copy, point))
    (ends : (appending ext checkShape).final point = true) :
    ∃ id, append ext checkShape store emission = .ok (copy, id) := by
  have midway : Midway ext checkShape store emission copy point :=
    @Transactions.Gets.invariant _ _ _ _ (Midway ext checkShape store emission)
      (fun _ _ _ _ known moves => midway_next known moves) _ _ _ _ gets ⟨rfl, rfl⟩
  cases point with
  | inserted id => exact ⟨id, midway⟩
  | _ => cases ends

/-- A stream of the local chain: positions from zero on with no gap and no repeat, the first envelope linked to nothing
and each other one to the envelope before it. -/
structure Contiguous (ext : External) (rows : List LocalEnvelope) : Prop where
  places : ∀ (i : Nat) row, rows[i]? = some row → row.seq = i ∧ row.envelope.get "seq" = some (.ofNat i)
  first : ∀ row, rows[0]? = some row → row.envelope.get "prev-hash" = some .null
  links : ∀ (i : Nat) before row, rows[i]? = some before → rows[i + 1]? = some row →
    ∃ id, Signed.objectId ext before.envelope = .ok id ∧ row.envelope.get "prev-hash" = some (.string id)

theorem Contiguous.nil : Contiguous ext [] := ⟨by simp, by simp, by simp⟩

/-- Where a built envelope is placed, and what it is linked to. -/
theorem build_places {key : Signed.SigningKey} {stream id : String} {body : Members} {seq : Nat}
    {prev : Option String} {envelope : Value}
    (built : build ext checkShape key stream body seq prev = .ok (id, envelope)) :
    envelope.get "seq" = some (.ofNat seq) ∧ envelope.get "prev-hash" = some (.ofOption prev) ∧
      Signed.objectId ext envelope = .ok id := by
  have chained := @build_chained ext checkShape key stream id "" body seq prev envelope [] built
  refine ⟨chained.seq, ?_, chained.id⟩
  rw [signObject_get (build_eq_ok built).1 (by decide), Members.get_insert_self]

/-- The positions of a contiguous stream increase, so that its head is its last envelope. -/
theorem Contiguous.head {rows : List LocalEnvelope} (contiguous : Contiguous ext rows) :
    Table.topBy LocalEnvelope.seq rows = rows.getLast? := by
  apply Table.topBy_of_increasing
  rw [List.pairwise_iff_getElem]
  intro i j low high less
  have at_i := (contiguous.places i _ (List.getElem?_eq_getElem low)).1
  have at_j := (contiguous.places j _ (List.getElem?_eq_getElem high)).1
  omega

theorem Contiguous.nextSeq {rows : List LocalEnvelope} (contiguous : Contiguous ext rows) :
    nextSeq rows.getLast? = rows.length := by
  rcases List.eq_nil_or_concat rows with rfl | ⟨before, last, rfl⟩
  · rfl
  · rw [List.concat_eq_append] at contiguous ⊢
    rw [List.getLast?_concat]
    have place := (contiguous.places before.length last (by simp)).1
    show last.seq + 1 = _
    rw [place, List.length_append]
    rfl

/-- An envelope placed after the last one and linked to it keeps a stream contiguous. -/
theorem Contiguous.concat {rows : List LocalEnvelope} {row : LocalEnvelope} (contiguous : Contiguous ext rows)
    (identified : ∀ held ∈ rows, Signed.objectId ext held.envelope = .ok held.id)
    (seq : row.seq = rows.length) (place : row.envelope.get "seq" = some (.ofNat row.seq))
    (link : row.envelope.get "prev-hash" = some (.ofOption (rows.getLast?.map LocalEnvelope.id))) :
    Contiguous ext (rows ++ [row]) := by
  have inside : ∀ (i : Nat) held, (rows ++ [row])[i]? = some held →
      (i < rows.length ∧ rows[i]? = some held) ∨ (i = rows.length ∧ held = row) := by
    intro i held found
    by_cases low : i < rows.length
    · rw [List.getElem?_append_left low] at found
      exact .inl ⟨low, found⟩
    · rw [List.getElem?_append_right (by omega)] at found
      have zero : i - rows.length = 0 := by
        by_contra later
        rw [List.getElem?_eq_none (by simp; omega)] at found
        cases found
      rw [zero] at found
      cases found
      exact .inr ⟨by omega, rfl⟩
  constructor
  · intro i held found
    rcases inside i held found with ⟨_, before⟩ | ⟨rfl, rfl⟩
    · exact contiguous.places i held before
    · exact ⟨seq, seq ▸ place⟩
  · intro held found
    rcases inside 0 held found with ⟨_, before⟩ | ⟨none_, rfl⟩
    · exact contiguous.first held before
    · rw [link, List.length_eq_zero_iff.mp none_.symm]
      rfl
  · intro i before held atFirst atNext
    rcases inside (i + 1) held atNext with ⟨low, later⟩ | ⟨last, rfl⟩
    · rcases inside i before atFirst with ⟨_, earlier⟩ | ⟨same, _⟩
      · exact contiguous.links i before held earlier later
      · omega
    · rcases inside i before atFirst with ⟨_, earlier⟩ | ⟨same, _⟩
      · have ending : rows.getLast? = some before := by
          rw [List.getLast?_eq_getElem?, ← last, Nat.add_sub_cancel]
          exact earlier
        refine ⟨before.id, identified before (List.mem_of_getElem? earlier), ?_⟩
        rw [link, ending]
        rfl
      · omega

/-- The local chain of every stream: contiguous, each envelope kept with its own id. -/
structure LocalChain (ext : External) (store : GatewayStore) : Prop where
  contiguous : ∀ stream, Contiguous ext (store.ofStream stream)
  identified : ∀ row ∈ store.envelopes, Signed.objectId ext row.envelope = .ok row.id

/-- One append chains its envelope onto the stream it is for, and leaves every other one. -/
theorem LocalChain.append {store next : GatewayStore} {emission : Emission} {id : String}
    (chain : LocalChain ext store) (done : append ext checkShape store emission = .ok (next, id)) :
    LocalChain ext next := by
  unfold Gateway.append appendNext at done
  simp only [bind_eq_ok, require_eq_ok, pure_eq_ok, Prod.mk.injEq] at done
  obtain ⟨⟨_, envelope⟩, built, _, _, rfl, rfl⟩ := done
  have head := (chain.contiguous emission.stream).head
  obtain ⟨place, link, identified⟩ := build_places built
  constructor
  · intro stream
    unfold GatewayStore.ofStream
    rw [List.filter_append]
    by_cases within : emission.stream = stream
    · subst within
      rw [List.filter_cons_of_pos (by simp), List.filter_nil]
      refine (chain.contiguous emission.stream).concat ?_ ?_ place ?_
      · intro held member
        exact chain.identified held (List.mem_filter.mp member).1
      · show Gateway.nextSeq (Table.topBy LocalEnvelope.seq (store.ofStream emission.stream)) = _
        rw [head, (chain.contiguous emission.stream).nextSeq]
      · rw [link]
        show some (Value.ofOption ((Table.topBy LocalEnvelope.seq (store.ofStream emission.stream)).map _)) = _
        rw [head]
    · rw [List.filter_cons_of_neg (by simpa using within), List.filter_nil, List.append_nil]
      exact chain.contiguous stream
  · intro row member
    rcases List.mem_append.mp member with held | new
    · exact chain.identified row held
    · rw [List.mem_singleton] at new
      subst new
      exact identified

/-- However the threads of any processes take turns over one local database, and wherever they fail or crash, the
local chain of each stream is contiguous. -/
theorem local_chain_contiguous {ω : Type} [DecidableEq ω] {shared : Shared ω GatewayStore Appending}
    (reached : (localWriters ext checkShape ω).Reachable shared) (stream : String) :
    Contiguous ext (shared.stored.ofStream stream) := by
  have chain : LocalChain ext shared.stored := by
    refine Transactions.stored_invariant ?_ ?_ reached
    · intro store start
      have empty : store.envelopes = [] := start
      refine ⟨fun stream => ?_, by simp [empty]⟩
      unfold GatewayStore.ofStream
      rw [empty]
      exact .nil
    · intro store emission copy point chain ends gets
      obtain ⟨id, done⟩ := append_of_gets gets ends
      exact chain.append done
  exact chain.contiguous stream

end Stozher.Gateway

namespace Stozher.Deployment

open Library Gateway

def laptop : String × Nat := ("laptop", 0)

def desktop : String × Nat := ("desktop", 0)

/-- A process dies with its envelope built; another appends in its place, and the first one follows it. -/
def sharing : List (Turn (String × Nat) Emission) :=
  [.start laptop (noteEmission nine), .advance laptop, .advance laptop, .start desktop (noteEmission nine),
    .stop fun writer => writer.1 == "laptop", .start desktop (noteEmission nine), .advance desktop, .advance desktop,
    .advance desktop, .start laptop (noteEmission ten), .commit desktop, .start laptop (noteEmission ten),
    .advance laptop, .advance laptop, .advance laptop, .commit laptop]

def sharedNotes : Shared (String × Nat) GatewayStore Appending :=
  (localWriters ext (fun _ => .ok ()) (String × Nat)).run { stored := { envelopes := [] }, writing := none } sharing

theorem shared_notes : sharedNotes.stored.envelopes = [locally 0 firstNote, locally 1 refusedNote] := by
  decide +kernel

/-- Two processes that share a stream leave it contiguous, one of them having crashed. -/
theorem sharedNotes_contiguous : Gateway.Contiguous ext (sharedNotes.stored.ofStream "ops:notes") ∧
    (sharedNotes.stored.ofStream "ops:notes").map LocalEnvelope.seq = [0, 1] := by
  refine ⟨local_chain_contiguous ⟨_, sharing, ⟨rfl, rfl⟩, rfl⟩ "ops:notes", ?_⟩
  unfold GatewayStore.ofStream
  rw [shared_notes]
  rfl

end Stozher.Deployment
