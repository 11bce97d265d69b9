import Stozher.RevocationPermanence
import Stozher.TwinStores

namespace Stozher

open Library Ingest

variable {ext : External} {config : Config}

namespace Store

variable {store next : Store} {plan : AppendPlan}

/-- An id of an envelope on record, or the word a configured root carries in its place. -/
def Known (store : Store) (id : String) : Prop :=
  id = "configuration" ∨ ∃ row ∈ store.envelopes, row.id = id

/-- Every id by which a table names an envelope is a known one: to rename others changes nothing. -/
def Referential (store : Store) : Prop :=
  ∀ names : String → String, (∀ id, store.Known id → names id = id) → store.addressed names store.envelopes = store

theorem Referential.empty : Store.empty.Referential :=
  fun _ _ => rfl

theorem fixed_of_map {α : Type} {change : α → α} {rows : List α} (same : rows.map change = rows) :
    ∀ row ∈ rows, change row = row := by
  nth_rewrite 2 [← List.map_id rows] at same
  exact List.map_inj_left.mp same

/-- Some renaming changes every id but the known ones. -/
theorem Referential.telling (known : store.Referential) :
    ∃ names : String → String, store.addressed names store.envelopes = store ∧
      ∀ id, names id = id → store.Known id := by
  classical
  refine ⟨fun id => if store.Known id then id else id ++ "?", known _ fun id held => if_pos held, ?_⟩
  intro id kept
  by_contra unknown
  dsimp only at kept
  rw [if_neg unknown] at kept
  have longer := congrArg String.length kept
  rw [String.length_append] at longer
  have one : "?".length = 1 := rfl
  omega

theorem Referential.payloadRefs (known : store.Referential) :
    ∀ row ∈ store.payloadRefs, store.Known row.envelopeId := by
  obtain ⟨names, same, telling⟩ := known.telling
  intro row member
  exact telling _ (congrArg PayloadRef.envelopeId (fixed_of_map (congrArg Store.payloadRefs same) row member))

theorem Referential.gateRequestHashes (known : store.Referential) :
    ∀ row ∈ store.gateRequestHashes, store.Known row.envelopeId := by
  obtain ⟨names, same, telling⟩ := known.telling
  intro row member
  exact telling _ (congrArg GateHashRow.envelopeId (fixed_of_map (congrArg Store.gateRequestHashes same) row member))

theorem Referential.revocations (known : store.Referential) :
    ∀ row ∈ store.revocations, store.Known row.revocationId := by
  obtain ⟨names, same, telling⟩ := known.telling
  intro row member
  exact telling _ (congrArg RevocationRow.revocationId (fixed_of_map (congrArg Store.revocations same) row member))

theorem Referential.quiet (known : store.Referential) (quiet : Quiet ext config store next) : next.Referential := by
  intro names fixed
  cases quiet with
  | same => exact known names fixed
  | rejected input record next recorded =>
      obtain ⟨row, rfl, _⟩ := recordRejection_eq_ok recorded
      have same := known names fixed
      show { store.addressed names store.envelopes with rejections := store.rejections ++ [row] } = _
      rw [same]
  | parked rows =>
      have same := known names fixed
      show { store.addressed names store.envelopes with gateRequests := store.gateRequests ++ rows } = _
      rw [same]
  | decayed now =>
      have same := known names fixed
      show { store.addressed names store.envelopes with payloads := (store.decayPayloads now).payloads } = _
      rw [same]
      rfl
  | seeded rootKey subject enrolledAt =>
      unfold seedConfiguredRoot at fixed ⊢
      split at fixed
      · rename_i held
        rw [if_pos held]
        exact known names fixed
      · rename_i held
        rw [if_neg held]
        have same := known names fixed
        have roots : store.roots.map (fun row => { row with envelopeId := names row.envelopeId }) = store.roots :=
          congrArg Store.roots same
        have commuted : ∀ roots, ({ store with roots } : Store).addressed names store.envelopes =
            { store.addressed names store.envelopes with
              roots := roots.map fun row => { row with envelopeId := names row.envelopeId } } := fun _ => rfl
        rw [commuted, same, List.map_append, roots, List.map_singleton, fixed "configuration" (.inl rfl)]

theorem Known.mono {later : Store} (grows : store.envelopes <+: later.envelopes) {id : String}
    (known : store.Known id) : later.Known id := by
  rcases known with word | ⟨row, member, same⟩
  · exact .inl word
  · exact .inr ⟨row, grows.subset member, same⟩

theorem Referential.appended (known : store.Referential) (fresh : store.envelopeById plan.id = none)
    (revokes : ∀ projected, plan.projections.revocation = some projected → projected.1 = plan.id)
    (appended : appendFresh store plan = .ok next) : next.Referential := by
  intro names fixed
  obtain ⟨row, built, _, _, envelopes⟩ := (appendFresh_eq_ok appended).envelopes
  have grows : store.envelopes <+: next.envelopes := envelopes ▸ List.prefix_append _ _
  have kept : ∀ id, store.Known id → names id = id := fun id held => fixed id (held.mono grows)
  have isId : names plan.id = plan.id := by
    refine fixed plan.id (.inr ⟨row, ?_, (envelopeRow_eq_ok built).id⟩)
    rw [envelopes]
    exact List.mem_append_right _ List.mem_cons_self
  have others : ∀ held ∈ store.envelopes, held.id ≠ plan.id := by
    intro held member same
    exact List.find?_eq_none.mp fresh held member (beq_iff_eq.mpr same)
  have rewrites : Rewrites names id store plan plan := {
    alike := {
      id := isId.symm, stream := rfl, seq := rfl, prevHash := rfl, publisher := rfl, emittedAt := rfl
      streamKind := rfl, receivedAt := rfl, payloads := rfl, gateUse := rfl, spend := rfl
      projections := by
        cases projected : plan.projections.revocation with
        | none => rw [Option.map_none, ← projected]
        | some revocation =>
            rw [Option.map_some, revokes revocation projected, isId, ← revokes revocation projected, ← projected] }
    rows := by
      rw [built]
      exact .passed rfl
    stream := fun _ => rfl
    seq := fun _ => rfl
    prevHash := fun _ => rfl
    settled := by
      rw [List.map_id]
      exact known names kept
    renamed := fun held same => by rw [isId]; exact same
    fresh := others
    free := by rw [isId]; exact others
    unreferenced := by
      intro reference member same
      rwa [isId, kept _ (known.payloadRefs reference member)] at same
    unrevoked := by
      intro projected isProjected revocation member same
      rwa [revokes projected isProjected, isId, kept _ (known.revocations revocation member),
        ← revokes projected isProjected] at same }
  have agreed := rewrites.appendFresh
  rw [appended] at agreed
  cases agreed with
  | passed same =>
      rw [List.map_id] at same
      exact same.symm

end Store

namespace World

/-- In every reachable state, a table names an envelope by a known id. -/
theorem referential {world : World} (reached : (kernel ext config).Reachable world) : world.store.Referential := by
  refine reached.invariant (fun world => world.store.Referential) ?_ ?_
  · intro state start
    have first : state = World.initial := start
    subst first
    exact .empty
  · intro world action before known
    cases step_cases ext config world action with
    | quiet store accepted tasks roots => exact known.quiet store
    | appends request snapshot validated waiting fresh store accepted tasks performs =>
        obtain ⟨index, rfl, found, done⟩ := performs
        obtain ⟨⟨next, appended⟩, done⟩ := isOk_iff.mp done
        obtain ⟨subjectKey, payloads, admitted⟩ := ((traced before).tasks _ _ _ waiting).admitted
        show ((kernel ext config).step world (.perform index)).store.Referential
        rw [show ((kernel ext config).step world (.perform index)).store = next from perform_store found done]
        unfold Store.append at done
        rw [fresh] at done
        simp only [bind_eq_ok] at done
        obtain ⟨written, appended, done⟩ := done
        cases done
        refine known.appended fresh ?_ appended
        intro projected isProjected
        exact (admitted.revokes isProjected).1

end World

/-- An id, with one envelope's in place of another's. -/
def renamed (first second : Received) (id : String) : String :=
  if id = first.id then second.id else id

/-- The row of an envelope, with another envelope in its place: its id, its correlation reference and its text. -/
def rewritten (first second : Received) (row : EnvelopeRow) : EnvelopeRow :=
  if row.id = first.id then { row with
    id := second.id
    correlationRef := second.env.getStr "correlation-ref"
    canonicalJson := second.canonicalJson }
  else row

/-- A store with one envelope in another's place, in its own row and wherever a table names it. -/
def Store.readdressed (first second : Received) (store : Store) : Store :=
  store.addressed (renamed first second) (store.envelopes.map (rewritten first second))

theorem objectId_ne (digests : ∀ octets, ext.sha256Hex octets ≠ "configuration") {env : Value} {id : String}
    (hashed : Signed.objectId ext env = .ok id) : id ≠ "configuration" := by
  unfold Signed.objectId Jcs.objectHash at hashed
  simp only [bind_eq_ok, pure_eq_ok] at hashed
  obtain ⟨_, _, rfl⟩ := hashed
  exact digests _

namespace TwinsReceived

variable {first second : Received} {store : Store} {plan : AppendPlan}

theorem alike (twins : TwinsReceived ext first second) (isEnvelope : plan.envelope = first.env)
    (isId : plan.id = first.id)
    (revokes : ∀ projected, plan.projections.revocation = some projected → projected.1 = plan.id) :
    plan.Alike (renamed first second) (plan.readdressed second) where
  id := by
    unfold renamed
    rw [if_pos isId]
    rfl
  stream := by
    have read : second.env.getStr "stream" = first.env.getStr "stream" := twins.twins.getStr (by decide) (by decide)
    unfold AppendPlan.stream
    rw [isEnvelope, ← read]
    rfl
  seq := by
    have read : second.env.getU64 "seq" = first.env.getU64 "seq" := twins.twins.getU64 (by decide) (by decide)
    unfold AppendPlan.seq
    rw [isEnvelope, ← read]
    rfl
  prevHash := by
    unfold AppendPlan.prevHash
    rw [isEnvelope]
    exact twins.twins.getStr (by decide) (by decide)
  publisher := by
    rw [isEnvelope]
    exact twins.twins.index (by decide) (by decide)
  emittedAt := by
    rw [isEnvelope]
    exact twins.twins.getStr (by decide) (by decide)
  streamKind := rfl
  receivedAt := rfl
  payloads := rfl
  gateUse := rfl
  spend := rfl
  projections := by
    unfold AppendPlan.readdressed
    dsimp only
    cases projected : plan.projections.revocation with
    | none => rfl
    | some revocation =>
        unfold renamed
        rw [Option.map_some, Option.map_some, revokes revocation projected, if_pos isId]

theorem envelopeRow (twins : TwinsReceived ext first second) (isEnvelope : plan.envelope = first.env)
    (isId : plan.id = first.id) (alike : plan.Alike (renamed first second) (plan.readdressed second)) :
    Agree (fun row changed => changed = rewritten first second row) (Store.envelopeRow plan)
      (Store.envelopeRow (plan.readdressed second)) := by
  have env := twins.twins
  have read : (plan.readdressed second).envelope = second.env := rfl
  unfold Store.envelopeRow
  simp (disch := decide) only [read, isEnvelope, env.getStr, env.get, env.index, alike.stream, alike.seq,
    alike.prevHash]
  refine Agree.bind_same fun _ => Agree.bind_same fun _ => Agree.bind_same fun _ => ?_
  refine Agree.bind_same fun _ => Agree.bind_same fun _ => .passed ?_
  unfold rewritten
  dsimp only
  rw [if_pos isId]
  rfl

/-- Two envelopes of which neither is on record are appended alike. -/
theorem rewrites (twins : TwinsReceived ext first second) (known : store.Referential)
    (digests : ∀ octets, ext.sha256Hex octets ≠ "configuration") (isEnvelope : plan.envelope = first.env)
    (isId : plan.id = first.id)
    (revokes : ∀ projected, plan.projections.revocation = some projected → projected.1 = plan.id)
    (unstored : store.envelopeById first.id = none) (unstored' : store.envelopeById second.id = none) :
    Store.Rewrites (renamed first second) (rewritten first second) store plan (plan.readdressed second) := by
  have absent : ∀ {id : String}, store.envelopeById id = none → ∀ row ∈ store.envelopes, row.id ≠ id := by
    intro id none row member same
    exact List.find?_eq_none.mp none row member (beq_iff_eq.mpr same)
  have unknown : ¬store.Known first.id := by
    intro held
    rcases held with word | ⟨row, member, same⟩
    · exact objectId_ne digests twins.id word
    · exact absent unstored row member same
  have kept : ∀ id, store.Known id → renamed first second id = id := by
    intro id held
    apply if_neg
    intro same
    exact unknown (same ▸ held)
  have alike := twins.alike isEnvelope isId revokes
  have isSecond : renamed first second plan.id = second.id := alike.id.symm
  have rows : store.envelopes.map (rewritten first second) = store.envelopes := by
    nth_rewrite 2 [← List.map_id store.envelopes]
    apply List.map_congr_left
    intro row member
    exact if_neg (absent unstored row member)
  -- A known id that the renaming takes to the second's is the first's: the second is not on record.
  have distinct : ∀ {id : String}, store.Known id → renamed first second id = second.id → id = first.id := by
    intro id held same
    rw [kept id held] at same
    rcases held with isWord | ⟨row, member, isRow⟩
    · exact absurd (same.symm.trans isWord) (objectId_ne digests twins.id')
    · exact absurd (isRow.trans same) (absent unstored' row member)
  exact {
    alike
    rows := twins.envelopeRow isEnvelope isId alike
    stream := fun row => by
      unfold rewritten
      split
      · rfl
      · rfl
    seq := fun row => by
      unfold rewritten
      split
      · rfl
      · rfl
    prevHash := fun row => by
      unfold rewritten
      split
      · rfl
      · rfl
    settled := by
      rw [rows]
      exact known _ kept
    renamed := by
      intro row same
      unfold rewritten
      rw [if_pos (same.trans isId), isSecond]
    fresh := by
      rw [isId]
      exact absent unstored
    free := by
      rw [isSecond]
      exact absent unstored'
    unreferenced := by
      intro reference member same
      rw [isId]
      exact distinct (known.payloadRefs reference member) (same.trans isSecond)
    unrevoked := by
      intro projected isProjected revocation member same
      rw [revokes projected isProjected] at same ⊢
      rw [isId]
      exact distinct (known.revocations revocation member) (same.trans isSecond) }

theorem unspent (twins : TwinsReceived ext first second) (known : store.Referential)
    (digests : ∀ octets, ext.sha256Hex octets ≠ "configuration")
    (unstored : store.envelopeById first.id = none) (unstored' : store.envelopeById second.id = none) :
    Unspent store first second := by
  intro hash spender spent
  obtain ⟨row, found, rfl⟩ := Option.map_eq_some_iff.mp spent
  have apart : ∀ {env : Value} {id : String}, Signed.objectId ext env = .ok id → store.envelopeById id = none →
      row.envelopeId ≠ id := by
    intro env id hashed none same
    rcases known.gateRequestHashes row (List.mem_of_find?_eq_some found) with word | ⟨held, member, isRow⟩
    · exact objectId_ne digests hashed (same.symm.trans word)
    · exact List.find?_eq_none.mp none held member (beq_iff_eq.mpr (isRow.trans same))
  exact ⟨apart twins.id unstored, apart twins.id' unstored'⟩

/-- The two are validated and appended alike, against one state of the store. -/
theorem assessAppend (twins : TwinsReceived ext first second) (known : store.Referential)
    (digests : ∀ octets, ext.sha256Hex octets ≠ "configuration") {raw : Octets}
    (opened : receive ext raw = .ok first)
    (unstored : store.envelopeById first.id = none) (unstored' : store.envelopeById second.id = none)
    (receivedAt : String) :
    Agree (fun taken other => other.1 = taken.1.readdressed first second ∧
        other.2 = { taken.2 with id := second.id })
      (assess ext config store first receivedAt >>= fun validated => store.append validated.plan)
      (assess ext config store second receivedAt >>= fun validated => store.append validated.plan) := by
  have planned := @TwinsReceived.planEnvelope _ _ _ config _ twins (twins.unspent known digests unstored unstored')
    receivedAt
  unfold assess
  rw [bind_assoc, bind_assoc]
  refine planned.bind_ok fun plan _ done same => ?_
  subst same
  rw [pure_bind, pure_bind]
  have assessed : assess ext config store first receivedAt = .ok { plan, claims := {
      stream := some ((first.env.getStr "stream").getD "")
      seq := some ((first.env.getU64 "seq").getD 0)
      kind := some ((first.env.getStr "kind").getD "") } } := by
    unfold assess
    rw [done]
    rfl
  obtain ⟨⟨subjectKey, payloads, admitted⟩, _⟩ := assess_admitted opened assessed
  obtain ⟨isEnvelope, isId⟩ := admitted.of_received opened
  have rewrites := twins.rewrites known digests isEnvelope isId
    (fun projected isProjected => (admitted.revokes isProjected).1) unstored unstored'
  dsimp only at isId isEnvelope
  have stream := rewrites.alike.stream
  have seq := rewrites.alike.seq
  unfold Store.append
  rw [isId, show (plan.readdressed second).id = second.id from rfl, unstored, unstored', stream, seq]
  refine rewrites.appendFresh.bind fun next _ same => ?_
  subst same
  exact .passed ⟨rfl, rfl⟩

end TwinsReceived

namespace World

/-- The steps of one submission, with nothing in between. -/
def alone (world : World) (request : Submission) : List Action :=
  [.submit request, .perform world.tasks.length, .perform world.tasks.length, .perform world.tasks.length]

/-- How a refusal is answered. -/
def refusal (error : Error) : Outcome :=
  if error.code = storeUnavailable then .unavailable error.detail else .rejected error.code error.detail

/-- What performing a task makes of a world that no longer holds it. -/
def carried (ext : External) (config : Config) (world : World) : Task → World
  | .validate request => performValidate ext config world request
  | .append request snapshot validated => performAppend world request snapshot validated
  | .reject request error claims =>
      answer (recordRejection ext config world (rejectionInput ext request.raw error
        request.submittedBy request.receivedAt claims)) request (.rejected error.code error.detail)

variable {world : World} {request : Submission}

theorem perform_last (task : Task) : perform ext config { world with tasks := world.tasks ++ [task] }
    world.tasks.length = carried ext config world task := by
  have rest : (world.tasks ++ [task]).eraseIdx world.tasks.length = world.tasks := by
    rw [List.eraseIdx_append_of_length_le (Nat.le_refl _), Nat.sub_self, List.eraseIdx_cons_zero, List.append_nil]
  unfold perform
  dsimp only
  rw [rest, List.getElem?_concat_length]
  cases task with
  | validate request => rfl
  | append request snapshot validated => rfl
  | reject request error claims => rfl

theorem perform_idle {tasks : List Task} (same : world.tasks = tasks) :
    perform ext config world tasks.length = world := by
  unfold perform
  rw [← same, List.getElem?_eq_none (Nat.le_refl _)]

/-- A submission that is answered, with nothing of it left to do. -/
structure Answered (world : World) (request : Submission) (outcome : Outcome) (next : World) : Prop where
  answers : next.answers = world.answers ++ [⟨request, outcome⟩]
  tasks : next.tasks = world.tasks

theorem Answered.idle {outcome : Outcome} {next : World} (answered : Answered world request outcome next) :
    perform ext config next world.tasks.length = next :=
  perform_idle answered.tasks

theorem refuse_answered (error : Error) (claims : Claims) : Answered world request (refusal error)
    (perform ext config (refuse world request error claims) world.tasks.length) := by
  unfold refuse refusal
  split
  · rw [@perform_idle ext config (answer world request (.unavailable error.detail)) world.tasks rfl]
    exact ⟨rfl, rfl⟩
  · rw [perform_last]
    unfold carried recordRejection
    dsimp only
    split
    · exact ⟨rfl, rfl⟩
    · exact ⟨rfl, rfl⟩

theorem run_alone : (kernel ext config).run world (alone world request) =
    perform ext config (perform ext config (perform ext config (submit ext world request) world.tasks.length)
      world.tasks.length) world.tasks.length := rfl

/-- A submission whose request is read and whose envelope is not on record is performed in two steps. -/
theorem run_alone_opened {received : Received} (opened : receive ext request.raw = .ok received)
    (unstored : world.store.envelopeById received.id = none) :
    (kernel ext config).run world (alone world request) =
      perform ext config (perform ext config (performValidate ext config world request) world.tasks.length)
        world.tasks.length := by
  have submitted : submit ext world request = { world with tasks := world.tasks ++ [.validate request] } := by
    unfold submit
    rw [opened]
    dsimp only
    unfold resubmitted
    rw [unstored]
    rfl
  rw [run_alone, submitted, perform_last]
  rfl

/-- Left to itself, a submission whose envelope is not on record ends as its request is taken. -/
theorem run_alone_ok {received : Received} {next : Store} {appended : Appended}
    (opened : receive ext request.raw = .ok received) (unstored : world.store.envelopeById received.id = none)
    (taken : (assess ext config world.store received request.receivedAt >>= fun validated =>
      world.store.append validated.plan) = .ok (next, appended)) :
    ((kernel ext config).run world (alone world request)).store = next ∧
      Answered world request (.accepted appended) ((kernel ext config).run world (alone world request)) := by
  obtain ⟨validated, assessed, written⟩ := bind_eq_ok.mp taken
  have validates : performValidate ext config world request =
      { world with tasks := world.tasks ++ [.append request world.store validated] } := by
    unfold performValidate
    rw [opened, ok_bind, assessed]
  rw [run_alone_opened opened unstored, validates, perform_last]
  unfold carried performAppend
  dsimp only
  rw [written]
  dsimp only
  rw [perform_idle]
  · exact ⟨rfl, rfl, rfl⟩
  · rfl

theorem run_alone_error {received : Received} {error : Error}
    (opened : receive ext request.raw = .ok received) (unstored : world.store.envelopeById received.id = none)
    (refused : (assess ext config world.store received request.receivedAt >>= fun validated =>
      world.store.append validated.plan) = .error error) :
    Answered world request (refusal error) ((kernel ext config).run world (alone world request)) := by
  rw [run_alone_opened opened unstored]
  cases assessed : assess ext config world.store received request.receivedAt with
  | error other =>
      rw [assessed] at refused
      cases refused
      have refuses : performValidate ext config world request =
          refuse world request error (claims ext request.raw) := by
        unfold performValidate
        rw [opened, ok_bind, assessed]
      rw [refuses]
      have answered := @refuse_answered ext config world request error (claims ext request.raw)
      rw [answered.idle]
      exact answered
  | ok validated =>
      rw [assessed, ok_bind] at refused
      have validates : performValidate ext config world request =
          { world with tasks := world.tasks ++ [.append request world.store validated] } := by
        unfold performValidate
        rw [opened, ok_bind, assessed]
      rw [validates, perform_last]
      unfold carried performAppend
      dsimp only
      rw [refused]
      exact refuse_answered error validated.claims

/-- A request that cannot be read is refused. -/
theorem run_alone_unread {error : Error} (unread : receive ext request.raw = .error error) :
    Answered world request (refusal error) ((kernel ext config).run world (alone world request)) := by
  have submitted : submit ext world request = refuse world request error (claims ext request.raw) := by
    unfold submit
    rw [unread]
  have answered := @refuse_answered ext config world request error (claims ext request.raw)
  rw [run_alone, submitted, answered.idle, answered.idle]
  exact answered

end World

/-- Two requests that differ in their envelopes' correlation references and signatures only. -/
structure TwinRequests (ext : External) (first second : Octets) : Prop where
  parsed : ∃ front back one other, Members.get front "envelope" = none ∧
    ext.parseOctets first = .ok (.object (front ++ ("envelope", one) :: back)) ∧
    ext.parseOctets second = .ok (.object (front ++ ("envelope", other) :: back)) ∧ Twins ext one other

theorem get_middle {front back : Members} {name : String} {value : Value} (absent : Members.get front name = none) :
    Members.get (front ++ (name, value) :: back) name = some value := by
  unfold Members.get at absent ⊢
  rw [Option.map_eq_none_iff] at absent
  rw [List.find?_append, absent, Option.none_or]
  exact congrArg (Option.map Prod.snd) (List.find?_cons_of_pos (beq_self_eq_true name))

theorem get_around {front back : Members} {name other : String} {value : Value} (apart : other ≠ name) :
    Members.get (front ++ (other, value) :: back) name = Members.get (front ++ back) name := by
  unfold Members.get
  rw [List.find?_append, List.find?_append, List.find?_cons_of_neg (by simpa using apart)]

/-- The two requests are read alike. -/
theorem readRequest_twins {front back : Members} {one other : Value}
    (absent : Members.get front "envelope" = none) :
    Agree (fun read changed => read.1 = one ∧ changed = (other, read.2))
      (readRequest (.object (front ++ ("envelope", one) :: back)))
      (readRequest (.object (front ++ ("envelope", other) :: back))) := by
  have keys : (front ++ ("envelope", other) :: back).keys = (front ++ ("envelope", one) :: back).keys := by
    unfold Members.keys
    rw [List.map_append, List.map_append, List.map_cons, List.map_cons]
  unfold readRequest
  show Agree _ (Except.ok (front ++ ("envelope", one) :: back) >>= _)
    (Except.ok (front ++ ("envelope", other) :: back) >>= _)
  rw [ok_bind, ok_bind, keys, get_middle absent, get_middle absent, get_around (by decide), get_around (by decide)]
  refine Agree.bind_same fun _ => ?_
  show Agree _ (Except.ok one >>= _) (Except.ok other >>= _)
  rw [ok_bind, ok_bind]
  cases Members.get (front ++ back) "payloads" with
  | none => exact .passed ⟨rfl, rfl⟩
  | some payloads => exact Agree.bind_same fun list => .passed ⟨rfl, rfl⟩

theorem objectId_of_canonical {env : Value} {form : Jcs.Canonical} (canonical : Jcs.canonicalize env = .ok form) :
    Signed.objectId ext env = .ok (ext.sha256Hex (.canonical form)) := by
  unfold Signed.objectId Jcs.objectHash
  rw [canonical]
  rfl

theorem TwinRequests.receive {first second : Octets} (twins : TwinRequests ext first second) :
    Agree (TwinsReceived ext) (Ingest.receive ext first) (Ingest.receive ext second) := by
  obtain ⟨front, back, one, other, absent, parsed, parsed', twins⟩ := twins.parsed
  have canonical : ∀ env, (∃ key members, env = .object members ∧ Correlated key members) →
      (∃ signer, Signed.verifySignedObject ext env = .ok signer) → ∃ form, Jcs.canonicalize env = .ok form := by
    intro env known signed
    obtain ⟨key, members, rfl, known⟩ := known
    obtain ⟨signer, signed⟩ := signed
    exact Twins.canonical known signed
  obtain ⟨key, members, members', isOne, isOther, _, known, known'⟩ := twins.members
  obtain ⟨signer, signed, signed'⟩ := twins.signed
  obtain ⟨form, written⟩ := canonical one ⟨key, members, isOne, known⟩ ⟨signer, signed⟩
  obtain ⟨form', written'⟩ := canonical other ⟨key, members', isOther, known'⟩ ⟨signer, signed'⟩
  unfold Ingest.receive
  rw [parsed, parsed', ok_bind, ok_bind]
  refine (readRequest_twins absent).bind fun read changed same => ?_
  obtain ⟨env, payloads⟩ := read
  obtain ⟨rfl, rfl⟩ := same
  dsimp only
  rw [objectId_of_canonical written, objectId_of_canonical written', written, written']
  exact .passed ⟨twins, rfl, objectId_of_canonical written, objectId_of_canonical written'⟩

/-- A correlation reference decides nothing. -/
theorem World.correlation_decides_nothing {world : World} (reached : (kernel ext config).Reachable world)
    (digests : ∀ octets, ext.sha256Hex octets ≠ "configuration") {first second : Submission}
    (twins : TwinRequests ext first.raw second.raw) (together : second.receivedAt = first.receivedAt)
    (unstored : ∀ received, Ingest.receive ext first.raw = .ok received ∨
      Ingest.receive ext second.raw = .ok received → world.store.envelopeById received.id = none) :
    (∃ one other next appended, Ingest.receive ext first.raw = .ok one ∧ Ingest.receive ext second.raw = .ok other ∧
        ((kernel ext config).run world (alone world first)).store = next ∧
        ((kernel ext config).run world (alone world second)).store = next.readdressed one other ∧
        Answered world first (.accepted appended) ((kernel ext config).run world (alone world first)) ∧
        Answered world second (.accepted { appended with id := other.id })
          ((kernel ext config).run world (alone world second))) ∨
      ∃ error, Answered world first (refusal error) ((kernel ext config).run world (alone world first)) ∧
        Answered world second (refusal error) ((kernel ext config).run world (alone world second)) := by
  have read := twins.receive
  generalize opened : Ingest.receive ext first.raw = received at read
  generalize opened' : Ingest.receive ext second.raw = received' at read
  cases read with
  | refused error => exact .inr ⟨error, run_alone_unread opened, run_alone_unread opened'⟩
  | @passed one other known =>
      have free := unstored one (.inl opened)
      have free' := unstored other (.inr opened')
      have taken := @TwinsReceived.assessAppend ext config one other world.store known
        (referential reached) digests first.raw opened free free' first.receivedAt
      generalize ended : (assess ext config world.store one first.receivedAt >>= fun validated =>
        world.store.append validated.plan) = result at taken
      generalize ended' : (assess ext config world.store other first.receivedAt >>= fun validated =>
        world.store.append validated.plan) = result' at taken
      rw [← together] at ended'
      cases taken with
      | refused error =>
          exact .inr ⟨error, run_alone_error opened free ended, run_alone_error opened' free' ended'⟩
      | @passed taken changed same =>
          obtain ⟨next, appended⟩ := taken
          obtain ⟨store, answer⟩ := changed
          obtain ⟨rfl, rfl⟩ := same
          obtain ⟨stores, answered⟩ := run_alone_ok opened free ended
          obtain ⟨stores', answered'⟩ := run_alone_ok opened' free' ended'
          exact .inl ⟨one, other, next, appended, rfl, rfl, stores, stores', answered, answered'⟩

end Stozher

namespace Stozher.Deployment

open Library.Text Recorded

/-- The grant of the founding mandate, with a correlation reference. -/
def referencedEnvelope (sig : Members) : Value :=
  .object (("correlation-ref", .string "ceremony") ::
    ((grant opsIdentity 0 none opsMandate.document sig).asObject).getD [])

def referencedGrant : Recorded where
  form := referencedEnvelope
  sealed := some (opsKey, signatureText
    0x750e7663e864053d5b452745d06e61757c4e838b6aac32435f43c0c74ffb303d
    0x4d27ffdd57138e4b2f96cab933ffc723e1a29a72946ccf09625f5535e597550f)
  digest := hex 64 0x5b8255934d638440f5a85ae739c22ce25952c0c4d4fc2f535ac8ecabd5b12d03

def grantRecords : List Recorded :=
  [opsMandate, opsGrant, referencedGrant]

def grantExt : External :=
  external grantRecords

def plainGrant : Submission := submitted opsGrantBody nine
def referringGrant : Submission := submitted (submission referencedGrant.document []) nine

/-- A kernel that has nothing but its configured root. -/
def seeded : World :=
  (kernel grantExt config).run .initial [.seed anaId "human:ana" nine]

structure GrantsSeen : Prop where
  plain : (Signed.verifySignedObject grantExt opsGrant.document).toOption = some opsId
  referring : (Signed.verifySignedObject grantExt referencedGrant.document).toOption = some opsId
  accepted : ((kernel grantExt config).run seeded (seeded.alone plainGrant)).answers.map Answer.outcome =
    [.accepted { id := opsGrant.digest, stream := "kernel:core", seq := 0, idempotent := false }]
  digests : ∀ recorded ∈ grantRecords, recorded.digest ≠ "configuration"

theorem grants_seen : GrantsSeen := by
  constructor <;> decide +kernel

/-- The members of the grant around its signature. -/
def grantMembers (sig : Members) : Members :=
  ((grant opsIdentity 0 none opsMandate.document sig).asObject).getD []

theorem correlated_of_filters {key : String} {members references signatures : Members}
    (referring : members.filter (fun member => member.1 == "correlation-ref") = references)
    (signed : members.filter (fun member => member.1 == "sig") = signatures)
    (texts : ∀ member ∈ references, ∃ text : String, member.2 = .string text ∧
      text.utf8ByteSize ≤ Envelope.correlationRefMax)
    (signs : ∀ member ∈ signatures, ∃ text, member.2 = sigOf key text) : Correlated key members where
  reference value inside := by
    subst referring
    exact texts ("correlation-ref", value) (List.mem_filter.mpr ⟨inside, rfl⟩)
  signature value inside := by
    subst signed
    exact signs ("sig", value) (List.mem_filter.mpr ⟨inside, rfl⟩)

theorem plain_correlated (value : String) : Correlated opsKey (grantMembers (signature opsKey value)) := by
  refine @correlated_of_filters _ _ [] [("sig", sigOf opsKey value)] rfl rfl ?_ ?_
  · intro member inside
    cases inside
  · intro member inside
    rw [List.mem_singleton] at inside
    exact ⟨value, congrArg Prod.snd inside⟩

theorem referring_correlated (value : String) :
    Correlated opsKey (("correlation-ref", .string "ceremony") :: grantMembers (signature opsKey value)) := by
  refine @correlated_of_filters _ _ [("correlation-ref", .string "ceremony")] [("sig", sigOf opsKey value)] rfl rfl
    ?_ ?_
  · intro member inside
    rw [List.mem_singleton] at inside
    exact ⟨"ceremony", congrArg Prod.snd inside, by decide⟩
  · intro member inside
    rw [List.mem_singleton] at inside
    exact ⟨value, congrArg Prod.snd inside⟩

theorem uncorrelated_grants (value other : String) : uncorrelated (grantMembers (signature opsKey value)) =
    uncorrelated (("correlation-ref", .string "ceremony") :: grantMembers (signature opsKey other)) := rfl

theorem grant_twins : Twins grantExt opsGrant.document referencedGrant.document where
  members := ⟨opsKey, _, _, rfl, rfl, uncorrelated_grants _ _, plain_correlated _, referring_correlated _⟩
  signed := ⟨opsId, Library.toOption_eq_some.mp grants_seen.plain, Library.toOption_eq_some.mp grants_seen.referring⟩

theorem grant_requests : TwinRequests grantExt plainGrant.raw referringGrant.raw where
  parsed := ⟨[], [("payloads", .array [])], opsGrant.document, referencedGrant.document, rfl, rfl, rfl, grant_twins⟩

theorem grantExt_digests (octets : Octets) : grantExt.sha256Hex octets ≠ "configuration" := by
  cases octets with
  | other bytes => exact (by decide : "" ≠ "configuration")
  | canonical form =>
      show ((grantRecords.find? fun recorded => recorded.document.same form.tree).map Recorded.digest).getD "" ≠ _
      cases found : grantRecords.find? fun recorded => recorded.document.same form.tree with
      | none => decide
      | some recorded => exact grants_seen.digests recorded (List.mem_of_find?_eq_some found)

/-- The founding grant is taken with a correlation reference as it is without one. -/
theorem grants_taken_alike : ∃ one other next appended,
    Ingest.receive grantExt plainGrant.raw = .ok one ∧ Ingest.receive grantExt referringGrant.raw = .ok other ∧
      ((kernel grantExt config).run seeded (seeded.alone plainGrant)).store = next ∧
      ((kernel grantExt config).run seeded (seeded.alone referringGrant)).store = next.readdressed one other ∧
      World.Answered seeded plainGrant (.accepted appended)
        ((kernel grantExt config).run seeded (seeded.alone plainGrant)) ∧
      World.Answered seeded referringGrant (.accepted { appended with id := other.id })
        ((kernel grantExt config).run seeded (seeded.alone referringGrant)) := by
  have reached : (kernel grantExt config).Reachable seeded := .run (.of_start rfl) _
  rcases World.correlation_decides_nothing reached grantExt_digests grant_requests rfl (fun _ _ => rfl) with
    taken | ⟨error, refused, _⟩
  · exact taken
  · have accepted := grants_seen.accepted
    rw [refused.answers] at accepted
    unfold World.refusal at accepted
    split at accepted
    · cases accepted
    · cases accepted

end Stozher.Deployment
