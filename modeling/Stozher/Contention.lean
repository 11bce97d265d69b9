import Stozher.Acceptance
import Stozher.JcsParse
import Stozher.RevocationFeed
import Stozher.SweepCover
import Stozher.Verdicts

namespace Stozher

open Library Ingest

/-- The codes `jcs::parse` and the check for UTF-8 before it refuse a body with. -/
def parserCodes : List String :=
  ["jcs-malformed-json", "jcs-duplicate-key", "jcs-lone-surrogate"]

/-- The parser of request bodies refuses with codes of its own. -/
def External.ParserCodes (ext : External) : Prop :=
  ∀ bytes e, ext.parse bytes = .error e → e.code ∈ parserCodes

theorem Jcs.Text.parse_codes (reader : Jcs.Text.Reader) (text : String) :
    Refuses (fun e => e.code ∈ parserCodes) (Jcs.Text.parse reader text) := by
  unfold Jcs.Text.parse
  split
  · exact refuses_ok _
  · refine refuses_ite (refuses_error ?_) (refuses_ite (refuses_error ?_) (refuses_error ?_)) <;>
      simp [parserCodes, err]

variable {ext : External} {config : Config}

theorem judges_of_parserCodes {code : String} (member : code ∈ parserCodes) : judges code = true := by
  simp only [parserCodes, List.mem_cons, List.not_mem_nil, or_false] at member
  rcases member with rfl | rfl | rfl <;> rfl

theorem receive_verdict (parses : ext.ParserCodes) (raw : Octets) : Refuses Verdict (receive ext raw) := by
  have parsed : Refuses Verdict (ext.parseOctets raw) := by
    cases raw with
    | canonical form => exact refuses_ok _
    | other bytes => exact fun e failed => judges_of_parserCodes (parses bytes e failed)
  have read : ∀ request, Refuses Verdict (readRequest request) := by
    intro request
    unfold readRequest
    refine refuses_bind (Verdict.needs rfl) fun _ => ?_
    refine refuses_bind (refuses_forEach (fun _ => Verdict.requires rfl) _) fun _ => ?_
    refine refuses_bind (Verdict.needs rfl) fun _ => ?_
    split
    · exact refuses_pure _
    · exact refuses_bind (Verdict.needs rfl) fun _ => refuses_pure _
  unfold receive
  refine refuses_bind parsed fun request => refuses_bind (read request) fun _ => ?_
  refine refuses_bind (Signed.objectId_verdict _) fun _ => ?_
  exact refuses_bind (Jcs.canonicalize_verdict _) fun _ => refuses_pure _

namespace Store

variable {store next : Store} {plan : AppendPlan} {env : Value}

/-- Another envelope stands at the place an envelope was made for, or past it. -/
def Beaten (store : Store) (env : Value) : Prop :=
  ∃ row ∈ store.ofStream ((env.getStr "stream").getD ""), (env.getU64 "seq").getD 0 ≤ row.seq ∨
    row.seq = saturate ((env.getU64 "seq").getD 0) ∨
    row.seq + 1 = (env.getU64 "seq").getD 0 ∧ env.getStr "prev-hash" ≠ some row.id

theorem Beaten.grows (beaten : store.Beaten env) (grown : store.envelopes <+: next.envelopes) : next.Beaten env := by
  obtain ⟨row, member, past⟩ := beaten
  obtain ⟨stored, isStream⟩ := mem_ofStream.mp member
  exact ⟨row, mem_ofStream.mpr ⟨grown.subset stored, isStream⟩, past⟩

/-- An outage says what the database said. -/
def Outage (e : Error) : Prop :=
  e.code = storeUnavailable ∧ e.detail.toList.head? ≠ some 't'

/-- Why an append fails: for the object, for its place, or in an outage. -/
def Explained (store : Store) (plan : AppendPlan) (e : Error) : Prop :=
  judges e.code = true ∨ e.code ∈ lostRefusals ∧ store.Beaten plan.envelope ∨ Outage e

theorem checkPosition_explained : Refuses (Explained store plan) (store.checkPosition plan) := by
  unfold checkPosition
  dsimp only
  split
  · exact refuses_bind (refuses_require (.inl rfl)) fun _ => refuses_require (.inl rfl)
  · rename_i headSeq headId isHead
    obtain ⟨⟨top, member, rfl, rfl⟩, _⟩ := head_mem isHead
    split
    · rename_i past
      exact refuses_error (.inr (.inl ⟨List.mem_cons_self, top, member, .inl past⟩))
    · rename_i notPast
      split
      · exact refuses_require (.inl rfl)
      · rename_i notBeyond
        intro e refused
        rw [require_eq_error] at refused
        obtain ⟨other, rfl⟩ := refused
        refine .inr (.inl ⟨List.mem_cons_of_mem _ List.mem_cons_self, top, member, .inr (.inr ⟨?_, other⟩)⟩)
        show top.seq + 1 = plan.seq
        omega

theorem notNull_explained (value : Option String) (column : String) :
    Refuses (Explained store plan) (notNull value column) := by
  unfold notNull
  refine refuses_okOr (.inr (.inr ⟨rfl, ?_⟩))
  show ("NOT NULL constraint failed: " ++ column).toList.head? ≠ some 't'
  simp

theorem insertEnvelope_explained (fresh : store.envelopeById plan.id = none) {gated : Store}
    (same : gated.envelopes = store.envelopes) : Refuses (Explained store plan) (insertEnvelope gated plan) := by
  unfold insertEnvelope
  refine refuses_bind_of ?_ fun row built => ?_
  · unfold envelopeRow
    have column := @notNull_explained store plan
    refine refuses_bind (column _ _) fun _ => refuses_bind (column _ _) fun _ => ?_
    refine refuses_bind (column _ _) fun _ => refuses_bind (column _ _) fun _ => ?_
    exact refuses_bind (column _ _) fun _ => refuses_pure _
  · refine refuses_bind (refuses_require (.inr (.inr ⟨rfl, by decide⟩))) fun _ => ?_
    refine refuses_bind ?_ fun _ => refuses_pure _
    intro e refused
    rw [require_eq_error, same] at refused
    obtain ⟨occupied, rfl⟩ := refused
    have of := envelopeRow_eq_ok built
    simp only [List.all_eq_true, Bool.and_eq_true, Bool.not_eq_true', Bool.and_eq_false_iff, beq_eq_false_iff_ne,
      bne_iff_ne, not_forall, not_and_or, not_or, not_not] at occupied
    obtain ⟨other, stored, ⟨isStream, isSeq⟩ | isId⟩ := occupied
    · rw [of.stream] at isStream
      rw [of.seq] at isSeq
      exact .inr (.inl ⟨List.mem_cons_self, other, mem_ofStream.mpr ⟨stored, isStream⟩, .inr (.inl isSeq)⟩)
    · rw [of.id] at isId
      unfold envelopeById at fresh
      rw [List.find?_eq_none] at fresh
      exact absurd (beq_iff_eq.mpr isId) (fresh other stored)

theorem canonicalize_explained (value : Value) : Refuses (Explained store plan) (Jcs.canonicalize value) :=
  refuses_mono (Jcs.canonicalize_verdict value) fun _ => .inl

theorem writeMandate_explained (written : Store) : Refuses (Explained store plan) (writeMandate plan written) := by
  have column := @notNull_explained store plan
  unfold writeMandate
  split
  · exact refuses_ok _
  · refine refuses_bind (column _ _) fun _ => refuses_bind (column _ _) fun _ => ?_
    refine refuses_bind (column _ _) fun _ => refuses_bind (column _ _) fun _ => ?_
    refine refuses_bind (column _ _) fun _ => refuses_bind (column _ _) fun _ => ?_
    exact refuses_bind (canonicalize_explained _) fun _ => refuses_ite (refuses_pure _) (refuses_pure _)

theorem writeRevocation_explained (written : Store) :
    Refuses (Explained store plan) (writeRevocation plan written) := by
  unfold writeRevocation
  split
  · exact refuses_ok _
  · refine refuses_bind (notNull_explained _ _) fun _ => refuses_bind (notNull_explained _ _) fun _ => ?_
    exact refuses_bind (canonicalize_explained _) fun _ => refuses_ite (refuses_pure _) (refuses_pure _)

theorem writePolicy_explained (written : Store) : Refuses (Explained store plan) (writePolicy plan written) := by
  unfold writePolicy
  split
  · exact refuses_ok _
  · refine refuses_bind (canonicalize_explained _) fun _ => refuses_bind (notNull_explained _ _) fun _ => ?_
    exact refuses_bind (refuses_require (.inl rfl)) fun _ => refuses_pure _

theorem writeManifest_explained (written : Store) : Refuses (Explained store plan) (writeManifest plan written) := by
  unfold writeManifest
  split
  · exact refuses_ok _
  · refine refuses_bind (canonicalize_explained _) fun _ => ?_
    exact refuses_bind (refuses_require (.inl rfl)) fun _ => refuses_pure _

theorem writeEnrollRoot_explained (written : Store) :
    Refuses (Explained store plan) (writeEnrollRoot plan written) := by
  unfold writeEnrollRoot
  split
  · exact refuses_ok _
  · exact refuses_bind (notNull_explained _ _) fun _ => refuses_ite (refuses_pure _) (refuses_pure _)

theorem writeGateDecision_explained (written : Store) :
    Refuses (Explained store plan) (writeGateDecision plan written) := by
  unfold writeGateDecision
  split
  · exact refuses_ok _
  · refine refuses_bind (canonicalize_explained _) fun _ => ?_
    exact refuses_bind (refuses_require (.inl rfl)) fun _ => refuses_pure _

theorem writeStreamResume_explained (written : Store) :
    Refuses (Explained store plan) (writeStreamResume plan written) := by
  unfold writeStreamResume checkRefused
  split
  · exact refuses_ok _
  · refine refuses_bind ?_ fun _ => refuses_ite (refuses_pure _) (refuses_pure _)
    split
    · exact refuses_require (.inl rfl)
    · exact refuses_error (.inl rfl)

theorem writeCheckpoint_explained (written : Store) :
    Refuses (Explained store plan) (writeCheckpoint plan written) := by
  unfold writeCheckpoint
  split
  · exact refuses_ok _
  · refine refuses_bind (refuses_require (.inl rfl)) fun _ => ?_
    exact refuses_bind (refuses_require (.inl rfl)) fun _ => refuses_pure _

theorem writeSpend_explained (written : Store) : Refuses (Explained store plan) (writeSpend plan written) := by
  have accrued : ∀ mandate spend entry, Refuses (Explained store plan) (accrue mandate spend entry) := by
    intro mandate spend entry
    unfold accrue
    dsimp only
    split
    · refine refuses_bind (refuses_mono (Decimal.add_verdict _ _) fun _ => .inl) fun _ => ?_
      exact refuses_pure _
    · exact refuses_pure _
  unfold writeSpend
  split
  · exact refuses_ok _
  · refine refuses_bind (refuses_foldChecked (fun _ _ => ?_) _ _) fun _ => refuses_pure _
    exact refuses_foldChecked (accrued _) _ _

theorem writeProjections_explained (written : Store) :
    Refuses (Explained store plan) (writeProjections plan written) := by
  unfold writeProjections
  refine refuses_bind (writeMandate_explained _) fun _ => refuses_bind (writeRevocation_explained _) fun _ => ?_
  refine refuses_bind (writePolicy_explained _) fun _ => refuses_bind (writeManifest_explained _) fun _ => ?_
  refine refuses_bind (writeEnrollRoot_explained _) fun _ => refuses_bind (writeGateDecision_explained _) fun _ => ?_
  refine refuses_bind (writeStreamResume_explained _) fun _ => ?_
  exact refuses_bind (writeCheckpoint_explained _) fun _ => writeSpend_explained _

theorem append_id {appended : Appended} (done : store.append plan = .ok (next, appended)) : appended.id = plan.id := by
  unfold append at done
  split at done
  · cases done
    rfl
  · rw [bind_eq_ok] at done
    obtain ⟨_, _, same⟩ := done
    cases same
    rfl

/-- The position check lets an envelope go past all of its stream only. -/
theorem below_of_position (position : Position store plan) {other : EnvelopeRow}
    (inside : other ∈ store.ofStream plan.stream) : other.seq < plan.seq := by
  cases position with
  | first empty _ _ =>
      rw [ofStream_empty empty] at inside
      cases inside
  | firstBridged _ empty _ _ _ =>
      rw [ofStream_empty empty] at inside
      cases inside
  | next headSeq _ head after_ _ =>
      have atMost := (head_mem head).2 other inside
      omega
  | nextBridged headSeq _ _ head after_ _ _ =>
      have atMost := (head_mem head).2 other inside
      omega

theorem append_explained : Refuses (Explained store plan) (store.append plan) := by
  unfold append
  split
  · exact refuses_ok _
  · rename_i fresh
    refine refuses_bind ?_ fun _ => refuses_pure _
    unfold appendFresh
    refine refuses_bind ?_ fun _ => refuses_bind checkPosition_explained fun _ => ?_
    · unfold checkStreamKind
      split
      · exact refuses_require (.inl rfl)
      · exact refuses_ok _
    · refine refuses_bind_of ?_ fun gated gate => ?_
      · unfold consumeGate
        split
        · exact refuses_ok _
        · split
          · exact refuses_ok _
          · exact refuses_bind (refuses_require (.inl rfl)) fun _ => refuses_pure _
      · obtain ⟨rows, rfl⟩ := consumeGate_eq_ok gate
        refine refuses_bind (insertEnvelope_explained fresh rfl) fun _ => ?_
        exact refuses_bind (writeProjections_explained _) fun _ => refuses_pure _

end Store

namespace World

variable {world next : World} {env : Value}

/-- A beaten envelope is never taken. -/
theorem not_appends_of_beaten (reached : (kernel ext config).Reachable world) {plan : AppendPlan} {store : Store}
    (beaten : world.store.Beaten plan.envelope) : ¬world.store.Appends plan store := by
  intro appends
  obtain ⟨other, member, past⟩ := beaten
  obtain ⟨stored, isStream⟩ := Store.mem_ofStream.mp member
  obtain ⟨row, built, _, free, _⟩ := appends.envelopes
  have of := Store.envelopeRow_eq_ok built
  have position := Store.checkPosition_eq_ok.mp appends.position
  have inside : other ∈ world.store.ofStream plan.stream := member
  have below := Store.below_of_position position inside
  rcases past with beyond | same | ⟨before, differs⟩
  · exact absurd below (Nat.not_lt.mpr beyond)
  · exact (free other stored).1 ⟨isStream.trans of.stream.symm, same.trans of.seq.symm⟩
  · have isNext : other.seq + 1 = plan.seq := before
    cases position with
    | first _ zero _ => omega
    | firstBridged _ empty _ _ _ =>
        rw [Store.ofStream_empty empty] at inside
        cases inside
    | next headSeq headId head after_ follows =>
        obtain ⟨_, isHead⟩ := streamHead_last reached head inside (by omega)
        rw [isHead] at differs
        exact differs follows
    | nextBridged headSeq _ _ head after_ _ _ =>
        have atMost := (Store.head_mem head).2 other inside
        omega

/-- A request whose place another envelope has: what it brought is not on record. -/
def Lost (ext : External) (world : World) (raw : Octets) : Prop :=
  ∃ received, receive ext raw = .ok received ∧ world.store.Beaten received.env ∧
    ∀ taken ∈ world.accepted, taken.plan.envelope ≠ received.env

theorem Lost.same {raw : Octets} (lost : Lost ext world raw) (envelopes : next.store.envelopes = world.store.envelopes)
    (accepted : next.accepted = world.accepted) : Lost ext next raw := by
  obtain ⟨received, opened, beaten, without⟩ := lost
  refine ⟨received, opened, beaten.grows (envelopes ▸ List.prefix_refl _), ?_⟩
  rw [accepted]
  exact without

/-- Once lost, a place stays lost. -/
theorem Lost.appends (reached : (kernel ext config).Reachable world) {raw : Octets} (lost : Lost ext world raw)
    {taken : Accepted} (appends : world.store.Appends taken.plan next.store)
    (accepted : next.accepted = world.accepted ++ [taken]) : Lost ext next raw := by
  obtain ⟨received, opened, beaten, without⟩ := lost
  obtain ⟨row, _, _, _, envelopes⟩ := appends.envelopes
  refine ⟨received, opened, beaten.grows ⟨[row], envelopes.symm⟩, ?_⟩
  rw [accepted]
  intro other member same
  rcases List.mem_append.mp member with earlier | new
  · exact without other earlier same
  · rw [List.mem_singleton.mp new] at same
    rw [← same] at beaten
    exact not_appends_of_beaten reached beaten appends

theorem Lost.step (reached : (kernel ext config).Reachable world) {raw : Octets} (lost : Lost ext world raw)
    (action : Action) : Lost ext (World.step ext config world action) raw := by
  cases World.step_cases ext config world action with
  | quiet store accepted tasks => exact lost.same store.envelopes.1 accepted
  | appends request snapshot validated waiting fresh store accepted => exact lost.appends reached store accepted

theorem Lost.run (reached : (kernel ext config).Reachable world) {raw : Octets} (lost : Lost ext world raw)
    (actions : List Action) : Lost ext ((kernel ext config).run world actions) raw := by
  induction actions generalizing world with
  | nil => exact lost
  | cons action rest ih =>
      rw [System.run_cons]
      exact ih (reached.step action) (lost.step reached action)

/-- A refusal is for the object, or for a place that is lost. -/
def Told (ext : External) (world : World) (raw : Octets) (code : String) : Prop :=
  judges code = true ∨ code ∈ lostRefusals ∧ Lost ext world raw

theorem Told.lost {raw : Octets} {code : String} (told : Told ext world raw code) (placed : code ∈ lostRefusals) :
    Lost ext world raw := by
  rcases told with judged | ⟨_, lost⟩
  · exact absurd placed (judges_eq_true.mp judged).1
  · exact lost

/-- A code of the kernel's own is told of no object. -/
theorem Told.not_mem_register {raw : Octets} {code : String} (told : Told ext world raw code) : code ∉ register := by
  rcases told with judged | ⟨placed, _⟩
  · exact (judges_eq_true.mp judged).2
  · rcases List.mem_pair.mp placed with rfl | rfl <;> decide

/-- An acceptance names the envelope that was submitted. -/
def Names (ext : External) (request : Submission) (appended : Appended) : Prop :=
  ∃ received, receive ext request.raw = .ok received ∧ appended.id = received.id

/-- What every answer says, and every refusal that is under way. -/
structure Judging (ext : External) (world : World) : Prop where
  tasks : ∀ request error claims, Task.reject request error claims ∈ world.tasks →
    Told ext world request.raw error.code
  rejected : ∀ answer ∈ world.answers, ∀ reason detail, answer.outcome = .rejected reason detail →
    Told ext world answer.request.raw reason
  outages : ∀ answer ∈ world.answers, ∀ detail, answer.outcome = .unavailable detail → detail.toList.head? ≠ some 't'
  named : ∀ answer ∈ world.answers, ∀ appended, answer.outcome = .accepted appended → Names ext answer.request appended

theorem Judging.mono (judging : Judging ext world) (tasks : ∀ task ∈ next.tasks, task ∈ world.tasks ∨
      ∀ request error claims, task ≠ .reject request error claims)
    (answers : ∀ answer ∈ next.answers, answer ∈ world.answers ∨
      ∃ appended, answer.outcome = .accepted appended ∧ Names ext answer.request appended)
    (lost : ∀ raw, Lost ext world raw → Lost ext next raw) : Judging ext next := by
  have told : ∀ {raw code}, Told ext world raw code → Told ext next raw code := by
    rintro raw code (judged | ⟨placed, gone⟩)
    · exact .inl judged
    · exact .inr ⟨placed, lost raw gone⟩
  constructor
  · intro request error claims member
    rcases tasks _ member with earlier | other
    · exact told (judging.tasks request error claims earlier)
    · exact absurd rfl (other request error claims)
  · intro answer member reason detail rejected
    rcases answers answer member with earlier | ⟨appended, accepted, _⟩
    · exact told (judging.rejected answer earlier reason detail rejected)
    · rw [accepted] at rejected
      cases rejected
  · intro answer member detail unavailable
    rcases answers answer member with earlier | ⟨appended, accepted, _⟩
    · exact judging.outages answer earlier detail unavailable
    · rw [accepted] at unavailable
      cases unavailable
  · intro answer member appended accepted
    rcases answers answer member with earlier | ⟨given, isGiven, named⟩
    · exact judging.named answer earlier appended accepted
    · rw [isGiven] at accepted
      cases accepted
      exact named

/-- One more answer, which says what it may. -/
theorem Judging.answers (judging : Judging ext world) {answer : Answer}
    (rejected : ∀ reason detail, answer.outcome = .rejected reason detail → Told ext world answer.request.raw reason)
    (outage : ∀ detail, answer.outcome = .unavailable detail → detail.toList.head? ≠ some 't')
    (named : ∀ appended, answer.outcome = .accepted appended → Names ext answer.request appended) :
    Judging ext { world with answers := world.answers ++ [answer] } := by
  constructor
  · exact judging.tasks
  · intro other member
    rcases List.mem_append.mp member with earlier | new
    · exact judging.rejected other earlier
    · cases List.mem_singleton.mp new
      exact rejected
  · intro other member
    rcases List.mem_append.mp member with earlier | new
    · exact judging.outages other earlier
    · cases List.mem_singleton.mp new
      exact outage
  · intro other member
    rcases List.mem_append.mp member with earlier | new
    · exact judging.named other earlier
    · cases List.mem_singleton.mp new
      exact named

theorem Judging.refuse (judging : Judging ext world) {request : Submission} {error : Error}
    (explained : Told ext world request.raw error.code ∨ Store.Outage error) (claims : Claims) :
    Judging ext (World.refuse world request error claims) := by
  unfold World.refuse
  split
  · rename_i isOutage
    have said : error.detail.toList.head? ≠ some 't' := by
      rcases explained with told | ⟨_, said⟩
      · exact absurd (isOutage ▸ List.mem_cons_self) told.not_mem_register
      · exact said
    apply judging.answers
    · intro reason detail rejected
      cases rejected
    · intro detail unavailable
      cases unavailable
      exact said
    · intro appended accepted
      cases accepted
  · rename_i answered
    have told : Told ext world request.raw error.code := by
      rcases explained with told | ⟨isOutage, _⟩
      · exact told
      · exact absurd isOutage answered
    constructor
    · intro other refusal given member
      rcases List.mem_append.mp member with earlier | new
      · exact judging.tasks other refusal given earlier
      · cases List.mem_singleton.mp new
        exact told
    · exact judging.rejected
    · exact judging.outages
    · exact judging.named

theorem Judging.fewer (judging : Judging ext world) (index : Nat) :
    Judging ext { world with tasks := world.tasks.eraseIdx index } :=
  judging.mono (fun _ member => .inl (List.mem_of_mem_eraseIdx member)) (fun _ member => .inl member)
    fun _ lost => lost.same rfl rfl

theorem Judging.submit (judging : Judging ext world) (parses : ext.ParserCodes) (request : Submission) :
    Judging ext (World.submit ext world request) := by
  unfold World.submit
  cases opened : receive ext request.raw with
  | error e => exact judging.refuse (.inl (.inl (receive_verdict parses _ e opened))) _
  | ok received =>
      dsimp only
      cases again : resubmitted world.store received with
      | some appended =>
          refine judging.mono (fun _ member => .inl member) ?_ fun _ lost => lost.same rfl rfl
          intro answer member
          rcases List.mem_append.mp member with earlier | new
          · exact .inl earlier
          · rw [List.mem_singleton.mp new]
            unfold resubmitted at again
            obtain ⟨row, _, rfl⟩ := Option.map_eq_some_iff.mp again
            exact .inr ⟨_, rfl, received, opened, rfl⟩
      | none =>
          refine judging.mono ?_ (fun _ member => .inl member) fun _ lost => lost.same rfl rfl
          intro task member
          rcases List.mem_append.mp member with earlier | new
          · exact .inl earlier
          · rw [List.mem_singleton.mp new]
            exact .inr fun _ _ _ => Task.noConfusion

theorem opened_of_admitted {store : Store} {raw : Octets} {receivedAt : String} {plan : AppendPlan}
    {subjectKey : KeyId} {payloads : List Value}
    (admitted : Admitted ext config store raw receivedAt plan subjectKey payloads) :
    ∃ received, receive ext raw = .ok received ∧ received.env = plan.envelope ∧ received.id = plan.id := by
  obtain ⟨received, opened, id⟩ := receive_of_admitted admitted
  obtain ⟨request, parsed, read⟩ := admitted.request
  obtain ⟨other, reparsed, reread, _⟩ := receive_eq_ok opened
  rw [parsed] at reparsed
  cases reparsed
  rw [read] at reread
  have same := congrArg Prod.fst (Except.ok.inj reread)
  exact ⟨received, opened, same.symm, id.symm⟩

theorem Judging.performValidate (judging : Judging ext world) (parses : ext.ParserCodes) (request : Submission) :
    Judging ext (World.performValidate ext config world request) := by
  unfold World.performValidate
  split
  · refine judging.mono ?_ (fun _ member => .inl member) fun _ lost => lost.same rfl rfl
    intro task member
    rcases List.mem_append.mp member with earlier | new
    · exact .inl earlier
    · rw [List.mem_singleton.mp new]
      exact .inr fun _ _ _ => Task.noConfusion
  · rename_i e refused
    have judged : Refuses Verdict (receive ext request.raw >>= fun received =>
        assess ext config world.store received request.receivedAt) :=
      refuses_bind (receive_verdict parses _) fun _ => assess_verdict _ _ _
    exact judging.refuse (.inl (.inl (judged e refused))) _

/-- What an append transaction fails for, its envelope is not on record. -/
theorem told_of_append (reached : (kernel ext config).Reachable world) {request : Submission} {snapshot : Store}
    {validated : Validated} (waiting : Task.append request snapshot validated ∈ world.tasks) {e : Error}
    (failed : world.store.append validated.plan = .error e) :
    Told ext world request.raw e.code ∨ Store.Outage e := by
  have known := traced reached
  rcases Store.append_explained e failed with judged | ⟨placed, beaten⟩ | outage
  · exact .inl (.inl judged)
  · refine .inl (.inr ⟨placed, ?_⟩)
    obtain ⟨subjectKey, payloads, admitted⟩ := (known.tasks _ _ _ waiting).admitted
    obtain ⟨received, opened, isEnv, isId⟩ := opened_of_admitted admitted
    refine ⟨received, opened, by rw [isEnv]; exact beaten, ?_⟩
    intro taken inside same
    have sameId : taken.plan.id = validated.plan.id := by
      obtain ⟨before, after_, at_⟩ := known.accepted taken inside
      obtain ⟨_, _, origin⟩ := at_.origin.admitted
      have hashed := origin.hasId
      rw [same, isEnv, admitted.hasId] at hashed
      exact (Except.ok.inj hashed).symm
    have fresh : world.store.envelopeById validated.plan.id = none := by
      cases held : world.store.envelopeById validated.plan.id with
      | none => rfl
      | some row =>
          unfold Store.append at failed
          rw [held] at failed
          cases failed
    obtain ⟨held, stored, built⟩ := built_of_taken reached inside
    unfold Store.envelopeById at fresh
    rw [List.find?_eq_none] at fresh
    apply fresh held stored
    rw [beq_iff_eq, (Store.envelopeRow_eq_ok built).id]
    exact sameId
  · exact .inr outage

theorem Judging.performAppend (judging : Judging ext world) (reached : (kernel ext config).Reachable world) {index : Nat}
    {request : Submission} {snapshot : Store} {validated : Validated}
    (waiting : world.tasks[index]? = some (.append request snapshot validated)) :
    Judging ext (World.performAppend { world with tasks := world.tasks.eraseIdx index } request snapshot validated) := by
  have inside := List.mem_of_getElem? waiting
  unfold World.performAppend
  cases done : world.store.append validated.plan with
  | error e =>
      apply (judging.fewer index).refuse
      rcases told_of_append reached inside done with (judged | ⟨placed, lost⟩) | outage
      · exact .inl (.inl judged)
      · exact .inl (.inr ⟨placed, lost.same rfl rfl⟩)
      · exact .inr outage
  | ok result =>
      obtain ⟨store, appended⟩ := result
      have told : ∀ answer ∈ world.answers ++ [{ request, outcome := .accepted appended }],
          answer ∈ world.answers ∨ ∃ given, answer.outcome = .accepted given ∧ Names ext answer.request given := by
        intro answer member
        rcases List.mem_append.mp member with earlier | new
        · exact .inl earlier
        · rw [List.mem_singleton.mp new]
          obtain ⟨_, _, admitted⟩ := ((traced reached).tasks _ _ _ inside).admitted
          obtain ⟨received, opened, _, isId⟩ := opened_of_admitted admitted
          exact .inr ⟨appended, rfl, received, opened, (Store.append_id done).trans isId.symm⟩
      refine judging.mono (fun _ member => .inl (List.mem_of_mem_eraseIdx member)) told fun raw lost => ?_
      cases held : world.store.envelopeById validated.plan.id with
      | some row =>
          obtain ⟨rfl, idempotent⟩ := Store.append_held held done
          exact lost.same rfl (if_pos idempotent)
      | none =>
          obtain ⟨appends, idempotent⟩ := Store.append_fresh held done
          have grown : (if appended.idempotent = true then world.accepted
              else world.accepted ++ [{ request, snapshot, plan := validated.plan }]) =
              world.accepted ++ [{ request, snapshot, plan := validated.plan }] :=
            if_neg (by rw [idempotent]; decide)
          exact lost.appends reached appends grown

theorem recordRejection_same (input : RejectionInput) :
    (recordRejection ext config world input).store.envelopes = world.store.envelopes ∧
      (recordRejection ext config world input).accepted = world.accepted ∧
      (recordRejection ext config world input).tasks = world.tasks ∧
      (recordRejection ext config world input).answers = world.answers := by
  unfold recordRejection
  split
  · rename_i recorded
    obtain ⟨row, rfl, _⟩ := Store.recordRejection_eq_ok recorded
    exact ⟨rfl, rfl, rfl, rfl⟩
  · exact ⟨rfl, rfl, rfl, rfl⟩

theorem Judging.recordRejection (judging : Judging ext world) (input : RejectionInput) :
    Judging ext (World.recordRejection ext config world input) := by
  obtain ⟨envelopes, accepted, tasks, answers⟩ := @recordRejection_same ext config world input
  refine judging.mono ?_ ?_ fun _ lost => lost.same envelopes accepted
  · rw [tasks]
    exact fun _ member => .inl member
  · rw [answers]
    exact fun _ member => .inl member

theorem Told.recordRejection {raw : Octets} {code : String} (told : Told ext world raw code) (input : RejectionInput) :
    Told ext (World.recordRejection ext config world input) raw code := by
  obtain ⟨envelopes, accepted, _, _⟩ := @recordRejection_same ext config world input
  rcases told with judged | ⟨placed, lost⟩
  · exact .inl judged
  · exact .inr ⟨placed, lost.same envelopes accepted⟩

theorem Judging.reject (judging : Judging ext world) {request : Submission} {code : String}
    (told : Told ext world request.raw code) (detail : String) :
    Judging ext (World.answer world request (.rejected code detail)) := by
  apply judging.answers
  · intro reason given rejected
    cases rejected
    exact told
  · intro given unavailable
    cases unavailable
  · intro appended accepted
    cases accepted

theorem Judging.step (judging : Judging ext world) (parses : ext.ParserCodes)
    (reached : (kernel ext config).Reachable world) (action : Action) :
    Judging ext (World.step ext config world action) := by
  have quiet : ∀ {store : Store}, store.envelopes = world.store.envelopes → Judging ext { world with store } := by
    intro store same
    exact judging.mono (fun _ member => .inl member) (fun _ member => .inl member) fun _ lost => lost.same same rfl
  cases action with
  | submit request => exact judging.submit parses request
  | perform index =>
      show Judging ext (World.perform ext config world index)
      unfold World.perform
      split
      · exact judging
      · exact (judging.fewer index).performValidate parses _
      · rename_i request snapshot validated waiting
        exact judging.performAppend reached waiting
      · rename_i request error claims waiting
        have told : Told ext { world with tasks := world.tasks.eraseIdx index } request.raw error.code :=
          judging.tasks request error claims (List.mem_of_getElem? waiting)
        have recorded := @Judging.recordRejection ext config _ (judging.fewer index) (rejectionInput ext request.raw error
          request.submittedBy request.receivedAt claims)
        exact recorded.reject (told.recordRejection _) error.detail
  | abandon index => exact judging.fewer index
  | record reason detail objectHash submittedBy receivedAt =>
      exact judging.recordRejection _
  | park request submittedBy receivedAt cap =>
      show Judging ext (World.park ext world request submittedBy receivedAt cap)
      unfold World.park
      split
      · exact judging
      · split
        · rename_i store _ queued
          obtain ⟨rows, rfl⟩ := Store.queueGateRequest_eq_ok queued
          exact quiet rfl
        · exact judging
  | decay now => exact quiet rfl
  | seed rootKey subject enrolledAt =>
      refine quiet ?_
      unfold Store.seedConfiguredRoot
      split <;> rfl

theorem judging (parses : ext.ParserCodes) (reached : (kernel ext config).Reachable world) : Judging ext world := by
  refine reached.invariant (Judging ext) ?_ fun _ action before known => known.step parses before action
  intro state start
  have first : state = World.initial := start
  subst first
  constructor
  · intro _ _ _ member
    cases member
  · intro _ member
    cases member
  · intro _ member
    cases member
  · intro _ member
    cases member

end World

end Stozher
