import Stozher.Contention

namespace Stozher

open Library Ingest

namespace KernelAppend

def attempts : Nat :=
  8

/-- Where an append of the kernel's own is: before it looks at the head of the core stream, before it submits what
goes after that head, waiting for the answer as the answers stood when it submitted, or at its end. -/
inductive Stage where
  | look (attempt : Nat) (last : Option (String × String))
  | offer (attempt : Nat) (last : Option (String × String)) (head : Option (Nat × String))
  | waiting (attempt : Nat) (request : Submission) (asked : Nat)
  | ended (result : Except (String × String) String)

/-- What was submitted, and for which position. -/
structure Offer where
  seq : Nat
  request : Submission

end KernelAppend

/-- An object that was signed elsewhere, on its way into an envelope of the kernel's, with everything that was
offered for it so far. -/
structure KernelAppend where
  kind : String
  members : Members
  what : String
  stage : KernelAppend.Stage
  offers : List KernelAppend.Offer

namespace KernelAppend

def start (kind : String) (members : Members) (what : String) : KernelAppend where
  kind
  members
  what
  stage := .look 0 none
  offers := []

/-- The position after a head. -/
def positionAfter (head : Option (Nat × String)) : Nat :=
  (head.map fun top => top.1 + 1).getD 0

variable (config : Ingest.Config)

def body (append : KernelAppend) (emittedAt : String) (head : Option (Nat × String)) : Members :=
  append.members.foldl (fun held member => Members.insert held member.1 member.2) [
    ("emitted-at", .string emittedAt),
    ("identity", .object [("component", .string "kernel"), ("key", .string config.kernelKey.id.text),
      ("subject", .string "agent:kernel")]),
    ("kind", .string append.kind),
    ("prev-hash", .ofOption (head.map Prod.snd)),
    ("seq", .ofNat (positionAfter head)),
    ("stream", .string config.kernelCoreStream),
    ("v", .string Envelope.version)]

/-- The request an attempt submits. -/
def request (append : KernelAppend) (emittedAt : String) (head : Option (Nat × String)) : Result Octets := do
  let envelope ← Signed.signObject config.kernelKey (.object (append.body config emittedAt head))
  let raw ← Jcs.canonicalize (.object [("envelope", envelope), ("payloads", .array [])])
  return .canonical raw

def contended (what : String) (last : Option (String × String)) : String :=
  match last with
  | none => s!"the kernel's core stream is too contended to record {what}"
  | some (code, detail) => s!"the kernel's core stream is too contended to record {what}: " ++
      s!"{attempts} attempts, last {code} ({detail})"

/-- The next attempt, while there is one left. -/
def again (append : KernelAppend) (attempt : Nat) (last : Option (String × String)) : Stage :=
  if attempt < attempts then .look attempt last
  else .ended (.error (storeUnavailable, contended append.what last))

def answered (append : KernelAppend) (attempt : Nat) (outcome : Outcome) : Stage :=
  match outcome with
  | .accepted appended => .ended (.ok appended.id)
  | .rejected reason detail =>
      if reason ∈ lostRefusals then append.again (attempt + 1) (some (reason, detail))
      else .ended (.error (reason, detail))
  | .unavailable detail => .ended (.error (storeUnavailable, detail))

/-- What is submitted in a step, if anything. -/
def submission (append : KernelAppend) (emittedAt receivedAt : String) : Option Submission :=
  match append.stage with
  | .offer _ _ head =>
      match append.request config emittedAt head with
      | .ok raw => some { raw, submittedBy := some "agent:kernel", receivedAt }
      | .error _ => none
  | _ => none

/-- Where the append is next, and what it has offered by then. -/
def next (append : KernelAppend) (world : World) (emittedAt receivedAt : String) : KernelAppend :=
  match append.stage with
  | .look attempt last =>
      { append with stage := .offer attempt last (world.store.streamHead config.kernelCoreStream) }
  | .offer attempt _ head =>
      match append.request config emittedAt head with
      | .ok raw =>
          let request : Submission := { raw, submittedBy := some "agent:kernel", receivedAt }
          { append with
            stage := .waiting attempt request world.answers.length
            offers := append.offers ++ [{ seq := positionAfter head, request }] }
      | .error e => { append with stage := .ended (.error (e.code, e.detail)) }
  | .waiting attempt request asked =>
      match (world.answers.drop asked).find? fun answer => decide (answer.request = request) with
      | some answer => { append with stage := append.answered attempt answer.outcome }
      | none => append
  | .ended _ => append

end KernelAppend

/-- How the revocation route answers. -/
structure RouteAnswer where
  status : Nat
  body : Value

namespace RouteAnswer

def refusal (status : Nat) (code reason : String) : RouteAnswer where
  status
  body := .object [
    ("failed-at-seq", .null),
    ("reason", .string reason),
    ("reason-code", .string code),
    ("result", .string "rejected"),
    ("retry-after-seconds", .null),
    ("retryable", .bool (decide (status = 503 ∨ status = 429))),
    ("stozher", .string Envelope.version)]

end RouteAnswer

namespace Revoking

variable (ext : External)

/-- The members the kernel's envelope projects from a revocation object. -/
def membersOf (object : Value) (revokes revokedAt : String) : Members :=
  let members := (Members.insert [] "revokes" (.string revokes)).insert "revoked-at" (.string revokedAt)
  let members := match object.get "reason" with
    | some reason => members.insert "reason" reason
    | none => members
  members.insert "revocation" object

/-- The object a body holds, with what it revokes and from when. -/
def read (body : Octets) : Except RouteAnswer (Value × String × String) := do
  let object ← okOr (ext.parseLenientOctets body)
    (RouteAnswer.refusal 400 "jcs-malformed-json" "the body is not a JSON revocation object")
  let missing := RouteAnswer.refusal 400 "schema-missing-member" "a revocation object carries revokes and revoked-at"
  let revokes ← okOr (object.getStr "revokes") missing
  let revokedAt ← okOr (object.getStr "revoked-at") missing
  return (object, revokes, revokedAt)

/-- `post_revocation`, up to the append it waits for. -/
def postRevocation (body : Octets) : Except RouteAnswer KernelAppend := do
  let (object, revokes, revokedAt) ← read ext body
  return .start "revocation" (membersOf object revokes revokedAt) "the revocation"

/-- What the route answers once the append is at its end. -/
def answer (object : Value) (revokes : String) : Except (String × String) String → RouteAnswer
  | .ok envelopeId => {
      status := 201
      body := .object [
        ("envelope-id", .string envelopeId),
        ("result", .string "recorded"),
        ("revoked-by", .string (((object.get "sig").bind (·.getStr "key")).getD "")),
        ("revokes", .string revokes),
        ("stozher", .string Envelope.version)] }
  | .error (code, detail) =>
      if code = storeUnavailable then .refusal 503 storeUnavailable detail
      else .refusal 422 code detail

end Revoking

/-- `submit_decision`, up to the append it waits for. -/
def submitDecision (requestHash : String) (decision : Value) : KernelAppend :=
  .start "gate-decision" ((Members.insert [] "decision-of" (.string requestHash)).insert "decision" decision)
    "the decision"

/-- The kernel with every append of its own that was started. -/
structure Recorder where
  world : World
  appends : List KernelAppend

variable (ext : External) (config : Ingest.Config)

namespace Recorder

/-- Anything that can happen to the kernel, a revocation or a decision that comes in, or the next step of an
append. -/
inductive Turn where
  | serve (action : Action)
  | revoke (body : Octets)
  | decide (requestHash : String) (decision : Value)
  | advance (index : Nat) (emittedAt receivedAt : String)

def step (state : Recorder) (turn : Turn) : Recorder :=
  match turn with
  | .serve action => { state with world := state.world.step ext config action }
  | .revoke body =>
      match Revoking.postRevocation ext body with
      | .ok append => { state with appends := state.appends ++ [append] }
      | .error _ => state
  | .decide requestHash decision =>
      { state with appends := state.appends ++ [submitDecision requestHash decision] }
  | .advance index emittedAt receivedAt =>
      match state.appends[index]? with
      | some append => {
          world := ((append.submission config emittedAt receivedAt).map fun request =>
            state.world.step ext config (.submit request)).getD state.world
          appends := state.appends.set index (append.next config state.world emittedAt receivedAt) }
      | none => state

end Recorder

/-- The kernel with the appends of its own, over a new database: every interleaving of them with what it serves. -/
def recording : System Recorder Recorder.Turn where
  start state := state = { world := World.initial, appends := [] }
  step := Recorder.step ext config

namespace Members

variable {base members : Members} {name : String} {value : Value}

theorem get_extend_of_not_mem (absent : ∀ member ∈ members, member.1 ≠ name) :
    Members.get (members.foldl (fun held member => Members.insert held member.1 member.2) base) name =
      Members.get base name := by
  induction members generalizing base with
  | nil => rfl
  | cons first rest ih =>
      rw [List.foldl_cons, ih fun member later => absent member (List.mem_cons_of_mem _ later)]
      exact get_insert_of_ne (absent first List.mem_cons_self) _ _

/-- What a map is extended by is in it. -/
theorem get_extend_of_mem (distinct : (members.map Prod.fst).Nodup) (member : (name, value) ∈ members) :
    Members.get (members.foldl (fun held member => Members.insert held member.1 member.2) base) name =
      some value := by
  induction members generalizing base with
  | nil => cases member
  | cons first rest ih =>
      rw [List.map_cons, List.nodup_cons] at distinct
      rw [List.foldl_cons]
      rcases List.mem_cons.mp member with same | later
      · subst same
        rw [get_extend_of_not_mem]
        · exact get_insert_self _ _ _
        · intro other later same
          exact distinct.1 (List.mem_map.mpr ⟨other, later, same⟩)
      · exact ih distinct.2 later

end Members

namespace KernelAppend

variable {ext : External} {config : Config} {append : KernelAppend} {emittedAt : String}
  {head : Option (Nat × String)} {raw : Octets} {received : Received}

/-- The members only the kernel writes. -/
def ownMembers : List String :=
  ["emitted-at", "identity", "kind", "prev-hash", "seq", "stream", "v", "sig"]

/-- What an append was given leaves the kernel's own members alone. -/
structure Fit (append : KernelAppend) : Prop where
  distinct : (append.members.map Prod.fst).Nodup
  apart : ∀ member ∈ append.members, member.1 ∉ ownMembers

/-- Whatever an attempt signs is in the envelope it submits. -/
theorem carried_of_request (asked : append.request config emittedAt head = .ok raw)
    (opened : receive ext raw = .ok received) {name : String} {value : Value} (apart : "sig" ≠ name)
    (found : Members.get (append.body config emittedAt head) name = some value) :
    ∃ form, Jcs.writeValue value = .ok form ∧ received.env.get name = some form := by
  unfold request at asked
  rw [bind_eq_ok] at asked
  obtain ⟨envelope, signed, asked⟩ := asked
  rw [bind_eq_ok] at asked
  obtain ⟨form, canonical, same⟩ := asked
  cases same
  unfold Jcs.canonicalize at canonical
  rw [bind_eq_ok] at canonical
  obtain ⟨tree, writes, same⟩ := canonical
  cases same
  obtain ⟨env, writesEnv, hasEnv⟩ := Sweep.Head.get_of_writeValue "envelope" writes rfl
  obtain ⟨request, parsed, read, _⟩ := receive_eq_ok opened
  cases parsed
  have carried := Sweep.Head.envelope_of_read read
  rw [hasEnv] at carried
  cases carried
  apply Sweep.Head.get_of_writeValue name writesEnv
  unfold Signed.signObject at signed
  rw [Value.asObject, okOr, ok_bind, bind_eq_ok] at signed
  obtain ⟨message, _, same⟩ := signed
  cases same
  show Members.get _ name = some value
  rw [Members.get_insert_of_ne apart, Members.get_filter_of_ne apart]
  exact found

theorem own_of_request (fit : append.Fit) (asked : append.request config emittedAt head = .ok raw)
    (opened : receive ext raw = .ok received) :
    received.env.getStr "kind" = some append.kind ∧ received.env.getStr "stream" = some config.kernelCoreStream ∧
      (positionAfter head ≤ 2 ^ 53 → received.env.getU64 "seq" = some (positionAfter head)) ∧
      ∀ top, head = some top → received.env.getStr "prev-hash" = some top.2 := by
  have own : ∀ {name value}, name ∈ ownMembers → "sig" ≠ name → Members.get [
      ("emitted-at", .string emittedAt),
      ("identity", .object [("component", .string "kernel"), ("key", .string config.kernelKey.id.text),
        ("subject", .string "agent:kernel")]),
      ("kind", .string append.kind),
      ("prev-hash", .ofOption (head.map Prod.snd)),
      ("seq", .ofNat (positionAfter head)),
      ("stream", .string config.kernelCoreStream),
      ("v", .string Envelope.version)] name = some value →
      ∃ form, Jcs.writeValue value = .ok form ∧ received.env.get name = some form := by
    intro name value isOwn apart found
    apply carried_of_request asked opened apart
    unfold body
    rw [Members.get_extend_of_not_mem]
    · exact found
    · intro member inside same
      exact fit.apart member inside (same ▸ isOwn)
  have text : ∀ {name text}, (∃ form, Jcs.writeValue (.string text) = .ok form ∧ received.env.get name = some form) →
      received.env.getStr name = some text := by
    rintro name text ⟨form, writes, found⟩
    rw [Jcs.writeValue] at writes
    cases writes
    unfold Value.getStr
    rw [found]
    rfl
  refine ⟨text (own (by decide) (by decide) rfl), text (own (by decide) (by decide) rfl), ?_, ?_⟩
  · intro small
    obtain ⟨form, writes, found⟩ := @own "seq" (.ofNat (positionAfter head)) (by decide) (by decide) rfl
    rw [Sweep.Head.writeValue_ofNat small] at writes
    cases writes
    unfold Value.getU64
    rw [found]
    exact World.asU64_ofNat (by omega)
  · rintro top rfl
    exact text (own (by decide) (by decide) rfl)

variable {world next : World} {offer : Offer}

/-- A head that was read is still on its stream. -/
def HeadStands (config : Config) (world : World) (head : Option (Nat × String)) : Prop :=
  ∀ top, head = some top → ∃ row ∈ world.store.ofStream config.kernelCoreStream, row.seq = top.1 ∧ row.id = top.2

/-- An offer follows a head that was read. -/
structure Offered (config : Config) (world : World) (append : KernelAppend) (offer : Offer) : Prop where
  follows : ∃ emittedAt head, append.request config emittedAt head = .ok offer.request.raw ∧
    offer.seq = positionAfter head ∧ HeadStands config world head

/-- Whether the position of an offer is one that canonical JSON tells from its neighbours. -/
def Exact (append : KernelAppend) : Prop :=
  ∀ offer ∈ append.offers, offer.seq ≤ 2 ^ 53

/-- How many envelopes of the core stream stand from a position on, before another. -/
def standing (config : Config) (world : World) (first bound : Nat) : Nat :=
  (world.store.ofStream config.kernelCoreStream).countP fun row => decide (first ≤ row.seq ∧ row.seq < bound)

theorem HeadStands.grows (stands : HeadStands config world head)
    (grown : world.store.envelopes <+: next.store.envelopes) : HeadStands config next head := by
  intro top isTop
  obtain ⟨row, member, at_⟩ := stands top isTop
  obtain ⟨stored, isStream⟩ := Store.mem_ofStream.mp member
  exact ⟨row, Store.mem_ofStream.mpr ⟨grown.subset stored, isStream⟩, at_⟩

theorem headStands_of_read (world : World) :
    HeadStands config world (world.store.streamHead config.kernelCoreStream) := by
  rintro ⟨headSeq, headId⟩ isHead
  exact (Store.head_mem isHead).1

theorem Offered.grows (offered : Offered config world append offer)
    (grown : world.store.envelopes <+: next.store.envelopes) : Offered config next append offer := by
  obtain ⟨emittedAt, head, asked, seq, stands⟩ := offered.follows
  exact ⟨emittedAt, head, asked, seq, stands.grows grown⟩

theorem standing_grows (grown : world.store.envelopes <+: next.store.envelopes) (first bound : Nat) :
    standing config world first bound ≤ standing config next first bound := by
  obtain ⟨rest, same⟩ := grown
  unfold standing Store.ofStream
  rw [← same, List.filter_append, List.countP_append]
  exact Nat.le_add_right _ _

/-- One more stands where the bound goes past another. -/
theorem standing_succ {first bound later : Nat} {row : EnvelopeRow}
    (member : row ∈ world.store.ofStream config.kernelCoreStream) (from_ : first ≤ bound) (past : bound ≤ row.seq)
    (before : row.seq < later) : standing config world first bound + 1 ≤ standing config world first later := by
  unfold standing
  obtain ⟨front, back, same⟩ := List.append_of_mem member
  have more : ∀ rows : List EnvelopeRow, rows.countP (fun row => decide (first ≤ row.seq ∧ row.seq < bound)) ≤
      rows.countP fun row => decide (first ≤ row.seq ∧ row.seq < later) := by
    intro rows
    apply List.countP_mono_left
    intro other _ inside
    rw [decide_eq_true_eq] at inside ⊢
    omega
  rw [same, List.countP_append, List.countP_append, List.countP_cons_of_neg, List.countP_cons_of_pos]
  · have := more front
    have := more back
    omega
  · rw [decide_eq_true_eq]
    omega
  · rw [decide_eq_true_eq]
    omega

/-- Where an offer is lost, an envelope stands at its position or past it. -/
theorem past_of_lost (reached : (kernel ext config).Reachable world) (fit : append.Fit)
    (offered : Offered config world append offer) (small : offer.seq ≤ 2 ^ 53)
    (lost : World.Lost ext world offer.request.raw) :
    ∃ row ∈ world.store.ofStream config.kernelCoreStream, offer.seq ≤ row.seq := by
  obtain ⟨emittedAt, head, asked, isSeq, stands⟩ := offered.follows
  obtain ⟨received, opened, ⟨row, member, past⟩, _⟩ := lost
  obtain ⟨_, stream, position, previous⟩ := own_of_request fit asked opened
  rw [isSeq] at small ⊢
  rw [stream, Option.getD_some] at member
  rw [position small, Option.getD_some] at past
  refine ⟨row, member, ?_⟩
  rcases past with beyond | same | ⟨before, differs⟩
  · exact beyond
  · rw [same, saturate_of_lt (by omega)]
  · cases head with
    | none => exact absurd before (Nat.succ_ne_zero _)
    | some top =>
        obtain ⟨other, inside, otherSeq, otherId⟩ := stands top rfl
        rw [previous top rfl, ← otherId] at differs
        have below : row.seq = top.1 := Nat.succ.inj before
        have chain := World.chains reached config.kernelCoreStream
        have distinct : ((world.store.ofStream config.kernelCoreStream).map EnvelopeRow.seq).Nodup :=
          List.pairwise_map.mpr (chain.increasing.imp fun less => Nat.ne_of_lt less)
        have one := List.inj_on_of_nodup_map distinct inside member (otherSeq.trans below.symm)
        rw [one] at differs
        exact absurd rfl differs

/-- What is known of an append that is at a stage. -/
inductive Knows (ext : External) (config : Config) (world : World) (append : KernelAppend) : Stage → Prop where
  | look (attempt : Nat) (last : Option (String × String)) (count : append.offers.length = attempt)
      (left : attempt < attempts) (lost : ∀ offer ∈ append.offers, World.Lost ext world offer.request.raw) :
      Knows ext config world append (.look attempt last)
  | offer (attempt : Nat) (last : Option (String × String)) (head : Option (Nat × String))
      (count : append.offers.length = attempt) (left : attempt < attempts)
      (lost : ∀ offer ∈ append.offers, World.Lost ext world offer.request.raw)
      (stands : HeadStands config world head)
      (ahead : append.Exact → ∀ offer ∈ append.offers, offer.seq < positionAfter head) :
      Knows ext config world append (.offer attempt last head)
  | waiting (attempt asked : Nat) (front : List Offer) (pending : Offer)
      (offers : append.offers = front ++ [pending]) (count : front.length = attempt) (left : attempt < attempts)
      (lost : ∀ offer ∈ front, World.Lost ext world offer.request.raw) :
      Knows ext config world append (.waiting attempt pending.request asked)
  | recorded (id : String) (front : List Offer) (won : Offer) (offers : append.offers = front ++ [won])
      (lost : ∀ offer ∈ front, World.Lost ext world offer.request.raw) (received : Received)
      (opened : receive ext won.request.raw = .ok received) (names : received.id = id)
      (taken : ∃ taken ∈ world.accepted, taken.plan.id = id) :
      Knows ext config world append (.ended (.ok id))
  | refused (code detail : String)
      (lost : ∀ offer ∈ append.offers.dropLast, World.Lost ext world offer.request.raw)
      (contended : code = storeUnavailable → detail.toList.head? = some 't' →
        append.offers.length = attempts ∧ ∀ offer ∈ append.offers, World.Lost ext world offer.request.raw) :
      Knows ext config world append (.ended (.error (code, detail)))

/-- For every offer before the last, another envelope stands between the first position and the last. -/
def Counted (config : Config) (world : World) (offers : List Offer) : Prop :=
  ∀ front last, offers = front ++ [last] → ∀ first, offers.head? = some first →
    first.seq ≤ last.seq ∧ front.length ≤ standing config world first.seq last.seq

structure Ok (ext : External) (config : Config) (world : World) (append : KernelAppend) : Prop where
  fit : append.Fit
  offered : ∀ offer ∈ append.offers, Offered config world append offer
  counted : append.Exact → Counted config world append.offers
  knows : Knows ext config world append append.stage

/-- What every step of the kernel keeps: what is stored, what is on record, and the places that are lost. -/
structure Onward (ext : External) (world next : World) : Prop where
  envelopes : world.store.envelopes <+: next.store.envelopes
  accepted : ∀ taken ∈ world.accepted, taken ∈ next.accepted
  lost : ∀ raw, World.Lost ext world raw → World.Lost ext next raw

theorem onward_step (reached : (kernel ext config).Reachable world) (action : Action) :
    Onward ext world (World.step ext config world action) := by
  refine ⟨?_, ?_, fun _ lost => lost.step reached action⟩
  · cases World.step_cases ext config world action with
    | quiet store accepted tasks =>
        exact store.envelopes.1 ▸ List.prefix_refl _
    | appends request snapshot validated waiting fresh store accepted =>
        obtain ⟨row, _, _, _, same⟩ := store.envelopes
        exact ⟨[row], same.symm⟩
  · intro taken inside
    cases World.step_cases ext config world action with
    | quiet store accepted tasks =>
        rw [accepted]
        exact inside
    | appends request snapshot validated waiting fresh store accepted =>
        rw [accepted]
        exact List.mem_append_left _ inside

theorem Knows.onward {stage : Stage} (knows : Knows ext config world append stage) (onward : Onward ext world next) :
    Knows ext config next append stage := by
  have still : ∀ {offers : List Offer}, (∀ offer ∈ offers, World.Lost ext world offer.request.raw) →
      ∀ offer ∈ offers, World.Lost ext next offer.request.raw := fun lost offer member =>
    onward.lost _ (lost offer member)
  cases knows with
  | look attempt last count left lost => exact .look attempt last count left (still lost)
  | offer attempt last head count left lost stands ahead =>
      exact .offer attempt last head count left (still lost) (stands.grows onward.envelopes) ahead
  | waiting attempt asked front pending offers count left lost =>
      exact .waiting attempt asked front pending offers count left (still lost)
  | recorded id front won offers lost received opened names taken =>
      obtain ⟨record, inside, same⟩ := taken
      exact .recorded id front won offers (still lost) received opened names ⟨record, onward.accepted _ inside, same⟩
  | refused code detail lost contended =>
      refine .refused code detail (still lost) fun isCode starts => ?_
      obtain ⟨count, all⟩ := contended isCode starts
      exact ⟨count, still all⟩

theorem Ok.onward (ok : append.Ok ext config world) (onward : Onward ext world next) :
    append.Ok ext config next where
  fit := ok.fit
  offered := fun offer member => (ok.offered offer member).grows onward.envelopes
  counted := by
    intro exact_ front last isOffers first isFirst
    obtain ⟨below, count⟩ := ok.counted exact_ front last isOffers first isFirst
    exact ⟨below, count.trans (standing_grows onward.envelopes _ _)⟩
  knows := ok.knows.onward onward

theorem request_verdict (append : KernelAppend) (emittedAt : String) (head : Option (Nat × String)) :
    Refuses Verdict (append.request config emittedAt head) := by
  unfold request Signed.signObject
  refine refuses_bind ?_ fun _ => refuses_bind (Jcs.canonicalize_verdict _) fun _ => refuses_pure _
  refine refuses_bind (Verdict.needs rfl) fun _ => ?_
  exact refuses_bind (Jcs.canonicalize_verdict _) fun _ => refuses_pure _

theorem contended_head (what : String) (last : Option (String × String)) :
    (contended what last).toList.head? = some 't' := by
  cases last with
  | none =>
      show ("the kernel's core stream is too contended to record " ++ what).toList.head? = some 't'
      simp
  | some told =>
      show ("the kernel's core stream is too contended to record " ++ what ++ ": " ++
        s!"{attempts} attempts, last {told.1} ({told.2})").toList.head? = some 't'
      simp

theorem Knows.lost_before {stage : Stage} (knows : Knows ext config world append stage) :
    ∀ offer ∈ append.offers.dropLast, World.Lost ext world offer.request.raw := by
  cases knows with
  | look attempt last count left lost => exact fun offer member => lost offer (List.dropLast_subset _ member)
  | offer attempt last head count left lost stands ahead =>
      exact fun offer member => lost offer (List.dropLast_subset _ member)
  | waiting attempt asked front pending offers count left lost =>
      rw [offers, List.dropLast_concat]
      exact lost
  | recorded id front won offers lost received opened names taken =>
      rw [offers, List.dropLast_concat]
      exact lost
  | refused code detail lost contended => exact lost

/-- Once every offer is lost, the next head is past them all. -/
theorem ahead_of_lost (reached : (kernel ext config).Reachable world) (ok : append.Ok ext config world)
    (lost : ∀ offer ∈ append.offers, World.Lost ext world offer.request.raw) (exact_ : append.Exact) :
    ∀ offer ∈ append.offers, offer.seq < positionAfter (world.store.streamHead config.kernelCoreStream) := by
  intro offer member
  obtain ⟨row, inside, past⟩ :=
    past_of_lost reached ok.fit (ok.offered offer member) (exact_ offer member) (lost offer member)
  cases found : world.store.streamHead config.kernelCoreStream with
  | none =>
      rw [Store.ofStream_empty found] at inside
      cases inside
  | some top =>
      obtain ⟨headSeq, headId⟩ := top
      have below := (Store.head_mem found).2 row inside
      show offer.seq < headSeq + 1
      omega

theorem Counted.snoc {offers : List Offer} (counted : Counted config world offers)
    (stands : HeadStands config world head) {request : Submission}
    (ahead : ∀ offer ∈ offers, offer.seq < positionAfter head) :
    Counted config world (offers ++ [{ seq := positionAfter head, request }]) := by
  intro front last isOffers first isFirst
  obtain ⟨rfl, same⟩ := List.append_inj' isOffers rfl
  cases same
  cases split : offers.getLast? with
  | none =>
      rw [List.getLast?_eq_none_iff] at split
      subst split
      cases isFirst
      exact ⟨Nat.le_refl _, Nat.zero_le _⟩
  | some previous =>
      obtain ⟨before, rfl⟩ := List.getLast?_eq_some_iff.mp split
      have isFirst : (before ++ [previous]).head? = some first := by
        cases before with
        | nil => exact isFirst
        | cons _ _ => exact isFirst
      obtain ⟨below, count⟩ := counted before previous rfl first isFirst
      have isAhead := ahead previous (List.mem_append_right _ List.mem_cons_self)
      cases head with
      | none => exact absurd isAhead (Nat.not_lt_zero _)
      | some top =>
          obtain ⟨row, member, rowSeq, _⟩ := stands top rfl
          have isAhead : previous.seq < top.1 + 1 := isAhead
          have one := @standing_succ config world first.seq previous.seq (top.1 + 1) row member below (by omega) (by omega)
          rw [List.length_append, List.length_singleton]
          exact ⟨show first.seq ≤ top.1 + 1 by omega, (Nat.succ_le_succ count).trans one⟩

theorem Ok.at_ (ok : append.Ok ext config world) {stage : Stage}
    (knows : Knows ext config world append stage) : Ok ext config world { append with stage } where
  fit := ⟨ok.fit.distinct, ok.fit.apart⟩
  offered := fun offer member => ⟨(ok.offered offer member).follows⟩
  counted := ok.counted
  knows := by
    cases knows with
    | look attempt last count left lost => exact .look attempt last count left lost
    | offer attempt last head count left lost stands ahead =>
        exact .offer attempt last head count left lost stands ahead
    | waiting attempt asked front pending offers count left lost =>
        exact .waiting attempt asked front pending offers count left lost
    | recorded id front won offers lost received opened names taken =>
        exact .recorded id front won offers lost received opened names taken
    | refused code detail lost contended => exact .refused code detail lost contended

/-- Where an append goes on to when its answer has come. -/
theorem Ok.answered (parses : ext.ParserCodes) (reached : (kernel ext config).Reachable world)
    (ok : append.Ok ext config world) {attempt asked : Nat} {request : Submission}
    (waits : append.stage = .waiting attempt request asked) {answer : Answer} (given : answer ∈ world.answers)
    (same : answer.request = request) :
    Ok ext config world { append with stage := append.answered attempt answer.outcome } := by
  have knows := ok.knows
  have judging := World.judging parses reached
  apply ok.at_
  rw [waits] at knows
  cases knows with
  | waiting attempt asked front pending offers count left lost =>
      have before : ∀ offer ∈ append.offers.dropLast, World.Lost ext world offer.request.raw := by
        rw [offers, List.dropLast_concat]
        exact lost
      unfold KernelAppend.answered
      cases outcome : answer.outcome with
      | accepted appended =>
          obtain ⟨received, opened, isId⟩ := judging.named answer given appended outcome
          obtain ⟨again, reopened, taken, inside, isTaken⟩ :=
            World.acceptedOnRecord reached answer given appended outcome
          rw [opened] at reopened
          cases reopened
          rw [same] at opened
          exact .recorded _ front pending offers lost received opened isId.symm ⟨taken, inside, isTaken.trans isId.symm⟩
      | unavailable detail =>
          refine .refused _ _ before fun _ starts => ?_
          exact absurd starts (judging.outages answer given detail outcome)
      | rejected reason detail =>
          have told := judging.rejected answer given reason detail outcome
          dsimp only
          split
          · rename_i placed
            have gone := told.lost placed
            rw [same] at gone
            have all : ∀ offer ∈ append.offers, World.Lost ext world offer.request.raw := by
              intro offer member
              rw [offers] at member
              rcases List.mem_append.mp member with earlier | last
              · exact lost offer earlier
              · rw [List.mem_singleton.mp last]
                exact gone
            have length : append.offers.length = attempt + 1 := by
              rw [offers, List.length_append, count, List.length_singleton]
            unfold again
            split
            · rename_i more
              exact .look _ _ length more all
            · rename_i noMore
              exact .refused _ _ before fun _ _ => ⟨by omega, all⟩
          · refine .refused _ _ before fun isOutage _ => ?_
            exact absurd (isOutage ▸ List.mem_cons_self) told.not_mem_register

/-- An offer that is made follows a head past all that were lost. -/
theorem Ok.offers (ok : append.Ok ext config world) {attempt asked : Nat} {last : Option (String × String)}
    (reads : append.stage = .offer attempt last head) {emittedAt : String} {request : Submission}
    (asks : append.request config emittedAt head = .ok request.raw) :
    Ok ext config world { append with
      stage := .waiting attempt request asked
      offers := append.offers ++ [{ seq := positionAfter head, request }] } := by
  have knows := ok.knows
  rw [reads] at knows
  cases knows with
  | offer attempt last head count left lost stands ahead =>
      constructor
      · exact ⟨ok.fit.distinct, ok.fit.apart⟩
      · intro offer member
        rcases List.mem_append.mp member with earlier | new
        · exact ⟨(ok.offered offer earlier).follows⟩
        · rw [List.mem_singleton.mp new]
          exact ⟨emittedAt, head, asks, rfl, stands⟩
      · intro exact_
        have before : append.Exact := fun offer member => exact_ offer (List.mem_append_left _ member)
        exact (ok.counted before).snoc stands (ahead before)
      · exact .waiting attempt asked append.offers { seq := positionAfter head, request } rfl count left lost

theorem Ok.advances (parses : ext.ParserCodes) (reached : (kernel ext config).Reachable world)
    (ok : append.Ok ext config world) (emittedAt receivedAt : String) :
    Ok ext config world (append.next config world emittedAt receivedAt) := by
  have knows := ok.knows
  unfold KernelAppend.next
  cases at_ : append.stage with
  | look attempt last =>
      rw [at_] at knows
      cases knows with
      | look attempt last count left lost =>
          exact ok.at_ (.offer attempt last _ count left lost (headStands_of_read world) fun exact_ =>
            ahead_of_lost reached ok lost exact_)
  | offer attempt last head =>
      dsimp only
      cases asks : append.request config emittedAt head with
      | ok raw => exact ok.offers at_ asks
      | error e =>
          apply ok.at_
          refine .refused _ _ knows.lost_before fun isOutage _ => ?_
          have judged : judges e.code = true := request_verdict append emittedAt head e asks
          rw [isOutage] at judged
          cases judged
  | waiting attempt request asked =>
      dsimp only
      cases found : (world.answers.drop asked).find? fun answer => decide (answer.request = request) with
      | none => exact ok
      | some answer =>
          have given := List.mem_of_mem_drop (List.mem_of_find?_eq_some found)
          have same := List.find?_some found
          rw [decide_eq_true_eq] at same
          exact ok.answered parses reached at_ given same
  | ended result => exact ok

theorem Ok.start {kind what : String} {members : Members} (fit : (start kind members what).Fit) :
    Ok ext config world (start kind members what) where
  fit := fit
  offered := by
    intro offer member
    cases member
  counted := by
    intro _ front last isOffers
    exact absurd isOffers.symm (List.append_ne_nil_of_right_ne_nil _ (List.cons_ne_nil _ _))
  knows := by
    refine .look 0 none rfl (by decide) ?_
    intro offer member
    cases member

end KernelAppend

namespace Revoking

variable {ext : External}

theorem membersOf_eq (object : Value) (revokes revokedAt : String) : membersOf object revokes revokedAt =
    ((object.get "reason").map fun reason => ("reason", reason)).toList ++
      [("revocation", object), ("revoked-at", .string revokedAt), ("revokes", .string revokes)] := by
  unfold membersOf
  cases object.get "reason" <;>
    simp only [Members.insert, List.filter, List.takeWhile, List.dropWhile, String.reduceBNe, String.reduceLT,
      decide_true, decide_false, List.cons_append, List.nil_append, Option.map_some, Option.map_none, Option.toList]

theorem membersOf_fit (object : Value) (revokes revokedAt : String) :
    (KernelAppend.start "revocation" (membersOf object revokes revokedAt) "the revocation").Fit := by
  have names : (membersOf object revokes revokedAt).map Prod.fst = ["revocation", "revoked-at", "revokes"] ∨
      (membersOf object revokes revokedAt).map Prod.fst = ["reason", "revocation", "revoked-at", "revokes"] := by
    rw [membersOf_eq]
    cases object.get "reason" with
    | none => exact .inl rfl
    | some reason => exact .inr rfl
  constructor
  · show ((membersOf object revokes revokedAt).map Prod.fst).Nodup
    rcases names with same | same <;> rw [same] <;> decide
  · intro member inside
    have named : member.1 ∈ (membersOf object revokes revokedAt).map Prod.fst := List.mem_map_of_mem inside
    have apart : ∀ name ∈ ["reason", "revocation", "revoked-at", "revokes"], name ∉ KernelAppend.ownMembers := by
      decide
    apply apart
    rcases names with same | same
    · rw [same] at named
      exact List.mem_cons_of_mem _ named
    · rw [same] at named
      exact named

end Revoking

theorem submitDecision_fit (requestHash : String) (decision : Value) : (submitDecision requestHash decision).Fit := by
  have names : (submitDecision requestHash decision).members.map Prod.fst = ["decision", "decision-of"] := by
    simp only [submitDecision, KernelAppend.start, Members.insert, List.filter, List.takeWhile, List.dropWhile,
      String.reduceBNe, String.reduceLT, decide_false, List.nil_append, List.map_cons, List.map_nil]
  constructor
  · rw [names]
    decide
  · intro member inside
    have named : member.1 ∈ (submitDecision requestHash decision).members.map Prod.fst := List.mem_map_of_mem inside
    rw [names] at named
    have apart : ∀ name ∈ ["decision", "decision-of"], name ∉ KernelAppend.ownMembers := by decide
    exact apart _ named

namespace Recorder

variable {ext : External} {config : Config} {state : Recorder}

structure Known (ext : External) (config : Config) (state : Recorder) : Prop where
  reached : (kernel ext config).Reachable state.world
  appends : ∀ append ∈ state.appends, append.Ok ext config state.world

/-- The kernel after the step of an append. -/
theorem acted {world : World} (reached : (kernel ext config).Reachable world) (append : KernelAppend)
    (emittedAt receivedAt : String) :
    let next := ((append.submission config emittedAt receivedAt).map fun request =>
      world.step ext config (.submit request)).getD world
    (kernel ext config).Reachable next ∧ KernelAppend.Onward ext world next := by
  cases append.submission config emittedAt receivedAt with
  | none => exact ⟨reached, List.prefix_refl _, fun _ member => member, fun _ lost => lost⟩
  | some request => exact ⟨reached.step (.submit request), KernelAppend.onward_step reached (.submit request)⟩

theorem Known.step (parses : ext.ParserCodes) (known : Known ext config state) (turn : Turn) :
    Known ext config (state.step ext config turn) := by
  cases turn with
  | serve action =>
      refine ⟨known.reached.step action, fun append member => ?_⟩
      exact (known.appends append member).onward (KernelAppend.onward_step known.reached action)
  | revoke body =>
      unfold Recorder.step
      dsimp only
      cases posted : Revoking.postRevocation ext body with
      | error e => exact known
      | ok append =>
          refine ⟨known.reached, fun other member => ?_⟩
          rcases List.mem_append.mp member with earlier | new
          · exact known.appends other earlier
          · rw [List.mem_singleton.mp new]
            unfold Revoking.postRevocation at posted
            rw [bind_eq_ok] at posted
            obtain ⟨⟨object, revokes, revokedAt⟩, _, same⟩ := posted
            cases same
            exact .start (Revoking.membersOf_fit _ _ _)
  | decide requestHash decision =>
      refine ⟨known.reached, fun other member => ?_⟩
      rcases List.mem_append.mp member with earlier | new
      · exact known.appends other earlier
      · rw [List.mem_singleton.mp new]
        exact .start (submitDecision_fit requestHash decision)
  | advance index emittedAt receivedAt =>
      unfold Recorder.step
      dsimp only
      cases found : state.appends[index]? with
      | none => exact known
      | some append =>
          have inside := List.mem_of_getElem? found
          have advanced := (known.appends append inside).advances parses known.reached emittedAt receivedAt
          have onward := acted known.reached append emittedAt receivedAt
          refine ⟨onward.1, fun other member => ?_⟩
          rcases List.mem_or_eq_of_mem_set member with earlier | rfl
          · exact (known.appends other earlier).onward onward.2
          · exact advanced.onward onward.2

theorem known (parses : ext.ParserCodes) (reached : (recording ext config).Reachable state) : Known ext config state := by
  refine reached.invariant (Known ext config) ?_ fun _ turn before known => known.step parses turn
  intro state start
  have first : state = { world := World.initial, appends := [] } := start
  subst first
  refine ⟨.of_start rfl, ?_⟩
  intro append member
  cases member

end Recorder

namespace KernelAppend

variable {ext : External} {config : Config} {world : World} {append : KernelAppend}

/-- What a request brings is on record. -/
def OnRecord (ext : External) (world : World) (raw : Octets) : Prop :=
  ∃ received, receive ext raw = .ok received ∧ ∃ taken ∈ world.accepted, taken.plan.envelope = received.env

theorem not_onRecord_of_lost {raw : Octets} (lost : World.Lost ext world raw) : ¬OnRecord ext world raw := by
  rintro ⟨received, opened, taken, inside, same⟩
  obtain ⟨other, reopened, _, without⟩ := lost
  rw [opened] at reopened
  cases reopened
  exact without taken inside same

/-- An envelope on record, which carries what an append was given. -/
structure Recorded (ext : External) (config : Config) (world : World) (append : KernelAppend) (raw : Octets)
    (id : String) : Prop where
  envelope : ∃ received, receive ext raw = .ok received ∧ received.id = id ∧
    received.env.getStr "stream" = some config.kernelCoreStream ∧ received.env.getStr "kind" = some append.kind ∧
    ∀ member ∈ append.members, ∃ form, Jcs.writeValue member.2 = .ok form ∧ received.env.get member.1 = some form
  taken : ∃ taken ∈ world.accepted, taken.plan.id = id

/-- What becomes of an append. -/
structure Settles (ext : External) (config : Config) (world : World) (append : KernelAppend) : Prop where
  once : ∀ offer ∈ append.offers.dropLast, ¬OnRecord ext world offer.request.raw
  recorded : ∀ id, append.stage = .ended (.ok id) →
    ∃ offer, append.offers.getLast? = some offer ∧ Recorded ext config world append offer.request.raw id
  contended : ∀ last, append.stage = .ended (.error (storeUnavailable, contended append.what last)) →
    append.offers.length = attempts ∧ (∀ offer ∈ append.offers, ¬OnRecord ext world offer.request.raw) ∧
      (append.Exact → ∀ first, append.offers.head? = some first →
        attempts ≤ (world.store.ofStream config.kernelCoreStream).countP fun row => decide (first.seq ≤ row.seq))

theorem Ok.recorded (ok : append.Ok ext config world) {id : String} (ended : append.stage = .ended (.ok id)) :
    ∃ offer, append.offers.getLast? = some offer ∧ Recorded ext config world append offer.request.raw id := by
  have knows := ok.knows
  rw [ended] at knows
  cases knows with
  | recorded id front won offers lost received opened names taken =>
      have member : won ∈ append.offers := by
        rw [offers]
        exact List.mem_append_right _ List.mem_cons_self
      obtain ⟨emittedAt, head, asked, _⟩ := (ok.offered won member).follows
      obtain ⟨kind, stream, _⟩ := own_of_request ok.fit asked opened
      refine ⟨won, by rw [offers, List.getLast?_concat], ⟨received, opened, names, stream, kind, ?_⟩, taken⟩
      intro given inside
      apply carried_of_request asked opened
      · intro same
        exact ok.fit.apart given inside (same ▸ by decide)
      · exact Members.get_extend_of_mem ok.fit.distinct inside

theorem Ok.contended (reached : (kernel ext config).Reachable world) (ok : append.Ok ext config world)
    (count : append.offers.length = attempts)
    (lost : ∀ offer ∈ append.offers, World.Lost ext world offer.request.raw) (exact_ : append.Exact) {first : Offer}
    (isFirst : append.offers.head? = some first) :
    attempts ≤ (world.store.ofStream config.kernelCoreStream).countP fun row => decide (first.seq ≤ row.seq) := by
  cases split : append.offers.getLast? with
  | none =>
      rw [List.getLast?_eq_none_iff] at split
      rw [split] at isFirst
      cases isFirst
  | some last =>
      obtain ⟨front, offers⟩ := List.getLast?_eq_some_iff.mp split
      have member : last ∈ append.offers := by
        rw [offers]
        exact List.mem_append_right _ List.mem_cons_self
      obtain ⟨below, counted⟩ := ok.counted exact_ front last offers first isFirst
      obtain ⟨row, inside, past⟩ :=
        past_of_lost reached ok.fit (ok.offered last member) (exact_ last member) (lost last member)
      have one := @standing_succ config world first.seq last.seq (row.seq + 1) row inside below past (Nat.lt_succ_self _)
      have all : standing config world first.seq (row.seq + 1) ≤
          (world.store.ofStream config.kernelCoreStream).countP fun row => decide (first.seq ≤ row.seq) := by
        apply List.countP_mono_left
        intro other _ within_
        rw [decide_eq_true_eq] at within_ ⊢
        exact within_.1
      rw [offers, List.length_append, List.length_singleton] at count
      omega

end KernelAppend

namespace Recorder

variable {ext : External} {config : Config} {state : Recorder} {append : KernelAppend}

/-- At most one of the envelopes an append offers is ever taken. An append that is answered is on record, with what it
was given; one that is said to be contended is not, and as many envelopes as it made attempts stand in its place. -/
theorem append_settles (parses : ext.ParserCodes) (reached : (recording ext config).Reachable state)
    (started : append ∈ state.appends) : append.Settles ext config state.world := by
  have known := known parses reached
  have ok := known.appends append started
  have knows := ok.knows
  constructor
  · intro offer member
    exact KernelAppend.not_onRecord_of_lost (knows.lost_before offer member)
  · intro id ended
    exact ok.recorded ended
  · intro last ended
    rw [ended] at knows
    cases knows with
    | refused code detail lost contended =>
        obtain ⟨count, all⟩ := contended rfl (KernelAppend.contended_head _ _)
        refine ⟨count, fun offer member => KernelAppend.not_onRecord_of_lost (all offer member), ?_⟩
        intro exact_ first isFirst
        exact ok.contended known.reached count all exact_ isFirst

end Recorder

/-- An admitted revocation projects the object it carries. -/
theorem Ingest.Admitted.revoking {ext : External} {config : Config} {store : Store} {raw : Octets} {receivedAt : String}
    {plan : AppendPlan} {subjectKey : KeyId} {payloads : List Value} {object : Value}
    (admitted : Admitted ext config store raw receivedAt plan subjectKey payloads)
    (kind : plan.envelope.getStr "kind" = some "revocation") (carried : plan.envelope.get "revocation" = some object) :
    plan.projections.revocation = some (plan.id, object) := by
  have other : ∀ {name : String}, plan.envelope.getStr "kind" = some name → name ≠ "revocation" → False := by
    intro name isKind apart
    exact apart (Option.some.inj (isKind.symm.trans kind))
  have valid : validateRevocation ext store plan.envelope (rootKeysAt store (emittedAt plan.envelope)) (planOf plan) =
      .ok plan := by
    cases admitted.rule with
    | genesis unpublished passed =>
        rcases validateGenesis_cases passed with ⟨_, ⟨isKind, _, _⟩ | ⟨isKind, _, _⟩⟩
        · exact (other isKind (by decide)).elim
        · exact (other isKind (by decide)).elim
    | inForce policy published admits unauthorized =>
        cases admits with
        | effect isKind passed =>
            rw [kind, Option.getD_some] at isKind
            exact absurd isKind (by decide)
        | cognition isKind passed => exact (other isKind (by decide)).elim
        | signal isKind passed => exact (other isKind (by decide)).elim
        | mandate isKind passed => exact (other isKind (by decide)).elim
        | revocation isKind passed => exact passed
        | gateDecision isKind passed => exact (other isKind (by decide)).elim
        | checkpoint isKind passed => exact (other isKind (by decide)).elim
  obtain ⟨found, _, _, id, isCarried, _, _, _, _, hashed, same⟩ := validateRevocation_eq_ok valid
  rw [carried] at isCarried
  cases isCarried
  rw [admitted.hasId] at hashed
  cases hashed
  exact congrArg (fun plan : AppendPlan => plan.projections.revocation) same

namespace Revoking

variable {ext : External} {config : Config} {state : Recorder} {append : KernelAppend}

/-- The hash of what an append offered names nothing else on record. -/
def Apart (ext : External) (world : World) (append : KernelAppend) : Prop :=
  ∀ offer ∈ append.offers, ∀ received, receive ext offer.request.raw = .ok received →
    ∀ taken ∈ world.accepted, taken.plan.id = received.id → taken.plan.envelope = received.env

theorem read_eq_ok {body : Octets} {object : Value} {revokes revokedAt : String} :
    read ext body = .ok (object, revokes, revokedAt) ↔ ext.parseLenientOctets body = some object ∧
      object.getStr "revokes" = some revokes ∧ object.getStr "revoked-at" = some revokedAt := by
  unfold read
  simp only [bind_eq_ok, okOr_eq_ok, pure_eq_ok, Prod.mk.injEq]
  constructor
  · rintro ⟨_, parsed, _, hasRevokes, _, hasRevokedAt, rfl, rfl, rfl⟩
    exact ⟨parsed, hasRevokes, hasRevokedAt⟩
  · rintro ⟨parsed, hasRevokes, hasRevokedAt⟩
    exact ⟨object, parsed, revokes, hasRevokes, revokedAt, hasRevokedAt, rfl, rfl, rfl⟩

theorem ok_of_created {object : Value} {revokes : String} {result : Except (String × String) String}
    (created : (answer object revokes result).status = 201) : ∃ id, result = .ok id := by
  cases result with
  | ok id => exact ⟨id, rfl⟩
  | error e =>
      obtain ⟨code, detail⟩ := e
      unfold answer at created
      dsimp only at created
      split at created <;> cases created

/-- A revocation that was taken is stored with the object it projects. -/
theorem row_of_projected {world : World} (reached : (kernel ext config).Reachable world) {taken : Accepted}
    (inside : taken ∈ world.accepted) {object : Value}
    (projected : taken.plan.projections.revocation = some (taken.plan.id, object)) :
    ∃ row ∈ world.store.revocations, row.documentJson.tree = object := by
  obtain ⟨before, after_, at_⟩ := (World.traced reached).accepted taken inside
  obtain ⟨subjectKey, payloads, admitted⟩ := at_.origin.admitted
  obtain ⟨rows, revocations, written, present⟩ := at_.appends.revocations
  obtain ⟨row, held, isRow⟩ := present _ object projected
  have new : row ∈ rows := by
    rw [revocations] at held
    rcases List.mem_append.mp held with earlier | new
    · obtain ⟨stored, member, sameId⟩ := World.revocationRow_id at_.reachable row earlier
      have fresh := at_.fresh
      unfold Store.envelopeById at fresh
      exact absurd (beq_iff_eq.mpr (sameId.trans isRow)) (List.find?_eq_none.mp fresh stored member)
    · exact new
  obtain ⟨other, by_⟩ := written row new
  have sameObject := by_.projected
  rw [projected] at sameObject
  obtain ⟨_, rfl⟩ := Prod.mk.inj (Option.some.inj sameObject)
  have document := by_.document
  rw [(admitted.revokes projected).2.1] at document
  exact ⟨row, at_.kept.revocations.subset held, congrArg Jcs.Canonical.tree (Except.ok.inj document).symm⟩

end Revoking

end Stozher

namespace Stozher.Deployment

open Library Library.Text Recorded Ingest

/-- The envelope the kernel makes of the revocation, at a position of the core stream. -/
def kernelRevocation (seq : Nat) (prev : String) (sig : Members) : Value :=
  .object ([("emitted-at", .string quarterPast), ("identity", kernelIdentity), ("kind", .string "revocation"),
    ("prev-hash", .string prev), ("reason", .string "compromised"), ("revocation", opsRevocation.document),
    ("revoked-at", .string quarterPast), ("revokes", .string opsMandate.digest), ("seq", .ofNat seq)] ++ sig ++
    [("stream", .string "kernel:core"), ("v", .string "stozher/0.1")])

def lostRevocation : Recorded where
  form := kernelRevocation 2 policyChange.digest
  sealed := some (kernelKey, signatureText
    0xccc43d9adcbe0cb4220ecb58ec2227c261685d57453b5bc01905a2f3fc01c347
    0x17eb35ecc01ef6c84722f1473ca5dcd908973da55710f2e1c9d2e2df166c1304)
  digest := hex 64 0xadd153e75e6e9b0c6d2188e746f001b21088f185b9588c8c1a536ec3dd6d62d2

def wonRevocation : Recorded where
  form := kernelRevocation 3 anaGrant.digest
  sealed := some (kernelKey, signatureText
    0x127e84066c1ae6d6205cf29a77542524fa664b795b3aa882cbcb18e8a3aa5962
    0x97e3b4cd222c21f32c76b7f35fe89ecc9421ade34abf1e473bea443dc6b0dc0f)
  digest := hex 64 0x4512de381de3f077763dcb9ab26bd4320792cbbf623ee56c8185183cb02d04d7

def recorderExt : External :=
  external (records ++ [lostRevocation, wonRevocation])

def recorderConfig : Config :=
  { config with kernelKey := signingKey (records ++ [lostRevocation, wonRevocation]) kernelId }

def advance : Recorder.Turn :=
  .advance 0 quarterPast halfPast

/-- A revocation that loses its place to a grant, and is offered again. -/
def contending : List Recorder.Turn :=
  founding.map .serve ++ [.revoke (.canonical { tree := opsRevocation.document }), advance] ++
    (enter anaGrantBody nine).map .serve ++
    [advance, .serve (.perform 0), .serve (.perform 0), .serve (.perform 0), advance, advance, advance,
      .serve (.perform 0), .serve (.perform 0), advance]

@[irreducible] def contended_ : Recorder :=
  (recording recorderExt recorderConfig).run { world := World.initial, appends := [] } contending

theorem contended_reachable : (recording recorderExt recorderConfig).Reachable contended_ := by
  unfold contended_
  exact ⟨_, contending, rfl, rfl⟩

theorem recorderExt_codes : recorderExt.ParserCodes := by
  intro bytes e failed
  cases failed
  exact List.mem_cons_self

/-- What is seen of an append that ended. -/
def appendSeen (append : KernelAppend) : Option String × List Nat × Bool × Bool :=
  (match append.stage with
    | .ended (.ok id) => some id
    | _ => none,
   append.offers.map KernelAppend.Offer.seq, append.kind == "revocation",
   decide (append.members = Revoking.membersOf opsRevocation.document opsMandate.digest quarterPast))

def refusalsSeen (world : World) : List String :=
  world.answers.filterMap fun answer =>
    match answer.outcome with
    | .rejected reason _ => some reason
    | _ => none

def apartSeen (state : Recorder) : Bool :=
  state.appends.all fun append => append.offers.all fun offer =>
    match receive recorderExt offer.request.raw with
    | .ok received => state.world.accepted.all fun taken =>
        taken.plan.id != received.id || decide (taken.plan.envelope = received.env)
    | .error _ => true

theorem contended_seen : (contended_.appends.map appendSeen, refusalsSeen contended_.world, apartSeen contended_) =
    ([(some wonRevocation.digest, [2, 3], true, true)], ["chain-seq-duplicate"], true) := by
  decide +kernel

theorem contended_append : ∃ append ∈ contended_.appends, append.offers.map KernelAppend.Offer.seq = [2, 3] ∧
    append.stage = .ended (.ok wonRevocation.digest) ∧ append.kind = "revocation" ∧
    append.members = Revoking.membersOf opsRevocation.document opsMandate.digest quarterPast := by
  obtain ⟨append, rest, isAppend, seen, _⟩ := List.map_eq_cons_iff.mp (Prod.mk.inj contended_seen).1
  refine ⟨append, by rw [isAppend]; exact List.mem_cons_self, ?_⟩
  unfold appendSeen at seen
  rw [Prod.mk.injEq, Prod.mk.injEq, Prod.mk.injEq, beq_iff_eq, decide_eq_true_eq] at seen
  obtain ⟨ended, offers, kind, members⟩ := seen
  refine ⟨offers, ?_, kind, members⟩
  split at ended
  · rename_i id isEnded
    rw [isEnded, Option.some.inj ended]
  · cases ended

theorem contended_apart : ∀ append ∈ contended_.appends, Revoking.Apart recorderExt contended_.world append := by
  intro append started offer offered received opened taken inside same
  have seen := (Prod.mk.inj (Prod.mk.inj contended_seen).2).2
  have apart := List.all_eq_true.mp (List.all_eq_true.mp seen append started) offer offered
  rw [opened] at apart
  have either := List.all_eq_true.mp apart taken inside
  rw [Bool.or_eq_true, bne_iff_ne, decide_eq_true_eq] at either
  exact either.resolve_left fun other => other same

theorem contended_settles : ∃ append ∈ contended_.appends, append.offers.map KernelAppend.Offer.seq = [2, 3] ∧
    append.Settles recorderExt recorderConfig contended_.world := by
  obtain ⟨append, started, offers, _⟩ := contended_append
  exact ⟨append, started, offers, Recorder.append_settles recorderExt_codes contended_reachable started⟩

theorem opsRevocation_read : Revoking.read recorderExt (.canonical { tree := opsRevocation.document }) =
    .ok (opsRevocation.document, opsMandate.digest, quarterPast) :=
  Revoking.read_eq_ok.mpr ⟨rfl, by decide +kernel, by decide +kernel⟩

end Stozher.Deployment
