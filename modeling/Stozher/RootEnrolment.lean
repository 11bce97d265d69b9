import Stozher.ApproverLife
import Stozher.Library.Splits
import Stozher.SpendRefusals

namespace Stozher

open Library Ingest

variable {ext : External} {config : Config}

namespace Ingest

variable {store : Store}

/-- The actions that change the set of roots. -/
def rootActions : List String := ["kernel.enroll_root", "kernel.retire_root"]

/-- An applied effect that changes the set of roots, and the change its target and evidence name. -/
structure ChangesRoot (env : Value) (payloads : List Value) (change : RootChange) : Prop where
  kind : ∃ kind ∈ effectKinds, env.getStr "kind" = some kind
  applied : isApplied env = true
  action : ∃ action ∈ rootActions, (execution env).getStr "action" = some action
  named : rootChange env payloads = .ok change

/-- What a plan projects of a change of the set of roots. -/
structure ProjectsChange (change : Option RootChange) (projections : Projections) : Prop where
  enrols : ∀ key subject, projections.enrollRoot = some (key, subject) ↔ change = some (.enrol key subject)
  retires : ∀ key, projections.retireRoot = some key ↔ change = some (.retire key)

theorem ProjectsChange.nothing {projections : Projections} (enrol : projections.enrollRoot = none)
    (retire : projections.retireRoot = none) : ProjectsChange none projections := by
  constructor
  · intro key subject
    simp [enrol]
  · intro key
    simp [retire]

theorem ProjectsChange.of_same {change : Option RootChange} {before after : Projections}
    (projects : ProjectsChange change before) (enrol : after.enrollRoot = before.enrollRoot)
    (retire : after.retireRoot = before.retireRoot) : ProjectsChange change after := by
  constructor
  · intro key subject
    rw [enrol]
    exact projects.enrols key subject
  · intro key
    rw [retire]
    exact projects.retires key

/-- The change of the set of roots an envelope makes, with its payloads. -/
def MakesChange (env : Value) (payloads : List Value) (change : Option RootChange) : Prop :=
  ∀ named, ChangesRoot env payloads named ↔ change = some named

theorem MakesChange.nothing {env : Value} {payloads : List Value} (unmade : ∀ change, ¬ ChangesRoot env payloads change) :
    MakesChange env payloads none := by
  intro named
  simp [unmade named]

theorem ChangesRoot.functional {env : Value} {payloads : List Value} {change other : RootChange}
    (first : ChangesRoot env payloads change) (second : ChangesRoot env payloads other) : change = other :=
  Except.ok.inj (first.named.symm.trans second.named)

theorem needsRoot_of_rootAction {env : Value} {action : String} (member : action ∈ rootActions)
    (acts : (execution env).getStr "action" = some action) : needsRoot env = true := by
  refine needsRoot_of_action acts ?_
  unfold rootActions at member
  rcases List.mem_cons.mp member with rfl | later
  · decide
  · rw [List.mem_singleton] at later
    subst later
    decide

/-- What an action makes of the projections of roots. -/
theorem validateAction_roots {env : Value} {payloads : List Value} {roots : List KeyId} {subjectKey : KeyId}
    {plan next : AppendPlan} (valid : validateAction ext store env payloads roots subjectKey plan = .ok next) :
    (∃ action ∈ rootActions, (execution env).getStr "action" = some action ∧
      validateRootChange env payloads roots subjectKey plan = .ok next) ∨
    ((∀ action ∈ rootActions, (execution env).getStr "action" ≠ some action) ∧
      next.projections.enrollRoot = plan.projections.enrollRoot ∧
      next.projections.retireRoot = plan.projections.retireRoot) := by
  unfold validateAction at valid
  split at valid
  · rename_i action
    obtain ⟨_, _, _, _, _, _, _, rfl⟩ := validateRegistration_eq_ok valid
    refine .inr ⟨?_, rfl, rfl⟩
    rw [action]
    decide
  · rename_i action
    exact .inl ⟨_, by decide, action, valid⟩
  · rename_i action
    exact .inl ⟨_, by decide, action, valid⟩
  · rename_i action
    rw [bind_eq_ok] at valid
    obtain ⟨_, _, same⟩ := valid
    cases same
    refine .inr ⟨?_, rfl, rfl⟩
    rw [action]
    decide
  · rename_i _ enrol retire _
    cases valid
    refine .inr ⟨?_, rfl, rfl⟩
    intro action member
    unfold rootActions at member
    rcases List.mem_cons.mp member with rfl | later
    · exact enrol
    · rw [List.mem_singleton] at later
      subst later
      exact retire

theorem projectEffect_roots {env : Value} {payloads : List Value} {roots : List KeyId} {subjectKey : KeyId}
    {plan next : AppendPlan} (valid : projectEffect ext config store env payloads roots subjectKey plan = .ok next)
    (begins : plan.projections = .none) (kind : ∃ kind ∈ effectKinds, env.getStr "kind" = some kind) :
    ∃ change, MakesChange env payloads change ∧ ProjectsChange change next.projections := by
  unfold projectEffect at valid
  simp only [bind_eq_ok, pure_eq_ok] at valid
  obtain ⟨changed, change, acted, acts, rfl⟩ := valid
  obtain ⟨enrolled, retired⟩ := projectPolicy_roots change
  rw [begins] at enrolled retired
  rcases validateAction_roots acts with ⟨action, member, isAction, valid⟩ | ⟨others, enrol, retire⟩
  · have needs := needsRoot_of_rootAction member isAction
    by_cases applied : isApplied env = true
    · rw [if_neg (by rw [applied]; exact fun both => Bool.noConfusion both.1)]
      obtain ⟨_, cases_⟩ := validateRootChange_eq_ok valid
      rcases cases_ with ⟨key, subject, named, rfl⟩ | ⟨key, named, rfl⟩
      · have makes : ChangesRoot env payloads (.enrol key subject) := ⟨kind, applied, ⟨action, member, isAction⟩, named⟩
        refine ⟨some (.enrol key subject), ?_, ?_⟩
        · intro other
          constructor
          · intro changes
            rw [makes.functional changes]
          · intro same
            cases same
            exact makes
        · refine ⟨?_, ?_⟩
          · intro other human
            simp
          · intro other
            simp [retired, Projections.none]
      · have makes : ChangesRoot env payloads (.retire key) := ⟨kind, applied, ⟨action, member, isAction⟩, named⟩
        refine ⟨some (.retire key), ?_, ?_⟩
        · intro other
          constructor
          · intro changes
            rw [makes.functional changes]
          · intro same
            cases same
            exact makes
        · refine ⟨?_, ?_⟩
          · intro other human
            simp [enrolled, Projections.none]
          · intro other
            simp
    · rw [Bool.not_eq_true] at applied
      rw [if_pos ⟨applied, needs⟩]
      refine ⟨none, .nothing ?_, .nothing rfl rfl⟩
      intro other changes
      rw [changes.applied] at applied
      cases applied
  · have unmade : MakesChange env payloads none := by
      refine .nothing ?_
      intro other changes
      obtain ⟨action, member, isAction⟩ := changes.action
      exact others action member isAction
    refine ⟨none, unmade, ?_⟩
    split
    · exact .nothing rfl rfl
    · exact .nothing (enrol.trans enrolled) (retire.trans retired)

theorem unchanged_of_kind {env : Value} {payloads : List Value} {kind : String} (isKind : env.getStr "kind" = some kind)
    (other : kind ∉ effectKinds) : MakesChange env payloads none := by
  refine .nothing ?_
  intro change changes
  obtain ⟨effect, member, same⟩ := changes.kind
  rw [isKind] at same
  cases same
  exact other member

/-- The target of a policy change names no root. -/
theorem unchanged_of_policyTarget {env : Value} {payloads : List Value} {version : String}
    (target : (execution env).getStr "target" = some s!"policy:{version}") : MakesChange env payloads none := by
  refine .nothing ?_
  intro change changes
  obtain ⟨key, root, _⟩ := rootChange_eq_ok changes.named
  rw [root] at target
  have first := congrArg (fun text => (text.getD "").toList.head?) target
  have root : (toString "policy:").toList = "policy:".toList := rfl
  simp [root] at first

theorem planOf_projections (plan : AppendPlan) : (planOf plan).projections = .none := rfl

/-- What an accepted envelope projects of the set of roots is the change it makes. -/
theorem Admitted.rootChange {raw : Octets} {receivedAt : String} {plan : AppendPlan} {subjectKey : KeyId}
    {payloads : List Value} (admitted : Admitted ext config store raw receivedAt plan subjectKey payloads) :
    ∃ change, MakesChange plan.envelope payloads change ∧ ProjectsChange change plan.projections := by
  have ofPlan : ∀ {other : AppendPlan}, plan = other → other.projections.enrollRoot = none →
      other.projections.retireRoot = none → ProjectsChange none plan.projections := by
    intro other same enrol retire
    rw [same]
    exact .nothing enrol retire
  have ofProjections : plan.projections = (planOf plan).projections → ProjectsChange none plan.projections := by
    intro same
    rw [same]
    exact .nothing rfl rfl
  cases admitted.rule with
  | genesis unpublished valid =>
      refine ⟨none, ?_⟩
      rcases validateGenesis_cases valid with ⟨_, ⟨kind, _, valid⟩ | ⟨_, _, valid⟩⟩
      · obtain ⟨_, _, _, _, _, _, same⟩ := validateGenesisMandate_eq_ok valid
        exact ⟨unchanged_of_kind kind (by decide), ofPlan same rfl rfl⟩
      · obtain ⟨changed, _, _, change, _, same⟩ := validateGenesisPolicy_eq_ok valid
        obtain ⟨_, _, _, _, _, _, _, target, rfl⟩ := validatePolicyChange_eq_ok change
        exact ⟨unchanged_of_policyTarget target, ofPlan same rfl rfl⟩
  | inForce policy published admits unauthorized =>
      cases admits with
      | effect kind valid =>
          have listed : ∃ kind ∈ effectKinds, plan.envelope.getStr "kind" = some kind := by
            cases isKind : plan.envelope.getStr "kind" with
            | none =>
                rw [isKind] at kind
                exact absurd kind (by decide)
            | some text =>
                rw [isKind] at kind
                exact ⟨text, kind, rfl⟩
          obtain ⟨_, _, _, _, start, projected, gated, _, _, _, _, begins, _, projects, gate, collected⟩ :=
            validateEffectKind_eq_ok valid
          rw [(collectPayloads_same collected).2.1, (gateEffect_eq_ok gate).2.1]
          exact projectEffect_roots projects (begins.trans (planOf_projections plan)) listed
      | cognition kind valid =>
          obtain ⟨_, _, _, _, _, same, _⟩ := validateCognition_eq_ok valid
          exact ⟨none, unchanged_of_kind kind (by decide), ofProjections same⟩
      | signal kind valid =>
          have same := (collectPayloads_same valid).2.1
          exact ⟨none, unchanged_of_kind kind (by decide), ofProjections same⟩
      | mandate kind valid =>
          obtain ⟨_, _, _, _, _, _, _, _, same⟩ := validateMandateGrant_eq_ok valid
          exact ⟨none, unchanged_of_kind kind (by decide), ofPlan same rfl rfl⟩
      | revocation kind valid =>
          obtain ⟨_, _, _, _, _, _, _, _, _, _, same⟩ := validateRevocation_eq_ok valid
          exact ⟨none, unchanged_of_kind kind (by decide), ofPlan same rfl rfl⟩
      | gateDecision kind valid =>
          obtain ⟨_, same⟩ := validateGateDecision_eq_ok valid
          exact ⟨none, unchanged_of_kind kind (by decide), ofPlan same rfl rfl⟩
      | checkpoint kind valid =>
          obtain ⟨_, _, _, _, _, _, _, _, same⟩ := validateCheckpoint_eq_ok valid
          exact ⟨none, unchanged_of_kind kind (by decide), ofPlan same rfl rfl⟩

end Ingest

/-- A change of the set of roots an accepted envelope makes. -/
def Accepted.Changes (ext : External) (taken : Accepted) (change : RootChange) : Prop :=
  ∃ request payloads, ext.parseOctets taken.request.raw = .ok request ∧
    readRequest request = .ok (taken.plan.envelope, payloads) ∧ ChangesRoot taken.plan.envelope payloads change

/-- An accepted envelope changes the set of roots as its plan projects. -/
theorem Origin.changes {world : World} {taken : Accepted}
    (origin : World.Origin ext config world taken.request taken.snapshot taken.plan) :
    ∃ change, (∀ named, taken.Changes ext named ↔ change = some named) ∧
      ProjectsChange change taken.plan.projections := by
  obtain ⟨subjectKey, payloads, admitted⟩ := origin.admitted
  obtain ⟨change, makes, projects⟩ := admitted.rootChange
  obtain ⟨request, parsed, read⟩ := admitted.request
  refine ⟨change, ?_, projects⟩
  intro named
  rw [← makes named]
  constructor
  · intro changes
    obtain ⟨other, others, reparsed, reread, changes⟩ := changes
    have same : request = other := Except.ok.inj (parsed.symm.trans reparsed)
    subst same
    have both := Except.ok.inj (read.symm.trans reread)
    have samePayloads : payloads = others := congrArg Prod.snd both
    rw [samePayloads]
    exact changes
  · intro changes
    exact ⟨request, payloads, parsed, read, changes⟩

namespace Store

variable {store next : Store} {plan : AppendPlan}

/-- A root is enrolled once: a key that has a row keeps it. -/
def enrolIn (key : KeyId) (subject at_ id : String) (roots : List RootRow) : List RootRow :=
  if roots.any fun row => row.rootKey == key then roots
  else roots ++ [{ rootKey := key, subject, enrolledAt := at_, retiredAt := none, envelopeId := id }]

/-- What an append makes of the table of roots, by the change it projects. -/
inductive RootsAfter (plan : AppendPlan) (before after : List RootRow) : Option RootChange → Prop where
  | unchanged (same : after = before) : RootsAfter plan before after none
  | enrolled (key : KeyId) (subject : String)
      (rows : after = enrolIn key subject (emittedAt plan.envelope) plan.id before) :
      RootsAfter plan before after (some (.enrol key subject))
  | retired (key : KeyId) (rows : after = before.map (retireRow key (some (emittedAt plan.envelope)))) :
      RootsAfter plan before after (some (.retire key))

theorem writeEnrollRoot_none (unprojected : plan.projections.enrollRoot = none) :
    writeEnrollRoot plan store = .ok store := by
  unfold writeEnrollRoot
  rw [unprojected]

theorem writeEnrollRoot_some {key : KeyId} {subject : String}
    (projected : plan.projections.enrollRoot = some (key, subject)) (written : writeEnrollRoot plan store = .ok next) :
    next.roots = enrolIn key subject (emittedAt plan.envelope) plan.id store.roots := by
  unfold writeEnrollRoot at written
  rw [projected] at written
  simp only [bind_eq_ok, notNull, okOr_eq_ok] at written
  obtain ⟨at_, emitted, written⟩ := written
  unfold enrolIn emittedAt
  rw [emitted, Option.getD_some]
  by_cases held : (store.roots.any fun row => row.rootKey == key) = true
  · rw [if_pos held] at written ⊢
    cases written
    rfl
  · rw [if_neg held] at written ⊢
    cases written
    rfl

theorem appendRecords_roots (appended : appendRecords store plan = .ok next) :
    ∃ before enrolled, before.roots = store.roots ∧ writeEnrollRoot plan before = .ok enrolled ∧
      next.roots = (writeRetireRoot plan enrolled).roots := by
  unfold appendRecords at appended
  simp only [bind_eq_ok] at appended
  obtain ⟨_, _, _, _, gated, gate, inserted, envelope, s₁, first, s₂, second, s₃, third, s₄, fourth, s₅, fifth,
    s₆, sixth, s₇, seventh, eighth⟩ := appended
  have gatedRoots : gated.roots = store.roots := by
    obtain ⟨_, rfl⟩ := consumeGate_eq_ok gate
    rfl
  have insertedRoots : inserted.roots = gated.roots := by
    obtain ⟨_, _, _, _, rfl⟩ := insertEnvelope_eq_ok envelope
    rfl
  have payloadRoots : (insertPayloads inserted plan).roots = inserted.roots := by
    obtain ⟨_, _, stored⟩ := insertPayloads_eq inserted plan
    rw [stored]
  have mandateRoots : s₁.roots = (insertPayloads inserted plan).roots := by
    obtain ⟨_, rfl, _⟩ := writeMandate_eq_ok first
    rfl
  have revocationRoots : s₂.roots = s₁.roots := by
    obtain ⟨_, rfl, _⟩ := writeRevocation_eq_ok second
    rfl
  have policyRoots : s₃.roots = s₂.roots := by
    obtain ⟨_, rfl, _⟩ := writePolicy_eq_ok third
    rfl
  have manifestRoots : s₄.roots = s₃.roots := by
    obtain ⟨_, rfl⟩ := writeManifest_eq_ok fourth
    rfl
  have decisionRoots : s₆.roots = (writeRetireRoot plan s₅).roots := by
    obtain ⟨_, rfl⟩ := writeGateDecision_eq_ok sixth
    rfl
  have resumeRoots : s₇.roots = s₆.roots := by
    obtain ⟨_, rfl, _⟩ := writeStreamResume_eq_ok seventh
    rfl
  have checkpointRoots : next.roots = s₇.roots := by
    obtain ⟨_, rfl, _⟩ := writeCheckpoint_eq_ok eighth
    rfl
  refine ⟨s₄, s₅, ?_, fifth, ?_⟩
  · rw [manifestRoots, policyRoots, revocationRoots, mandateRoots, payloadRoots, insertedRoots, gatedRoots]
  · rw [checkpointRoots, resumeRoots, decisionRoots]

theorem append_roots {appended : Appended} (fresh : store.envelopeById plan.id = none)
    (done : store.append plan = .ok (next, appended)) {change : Option RootChange}
    (projects : ProjectsChange change plan.projections) : RootsAfter plan store.roots next.roots change := by
  have emitted : plan.envelope.getStr "emitted-at" = some (emittedAt plan.envelope) := by
    obtain ⟨row, built, _⟩ := (append_fresh fresh done).1.envelopes
    unfold emittedAt
    rw [(envelopeRow_columns built).emittedAt, Option.getD_some]
  unfold append at done
  rw [fresh] at done
  dsimp only at done
  rw [appendFresh_eq] at done
  simp only [bind_eq_ok, map_eq_ok] at done
  obtain ⟨_, ⟨spent, ⟨recorded, records, writes⟩, rfl⟩, same⟩ := done
  obtain ⟨before, enrolled, sameRoots, enrols, retires⟩ := appendRecords_roots records
  have isNext : next.roots = recorded.roots := by
    cases same
    obtain ⟨_, _, rfl⟩ := writeSpend_iff.mp writes
    rw [touchStream_eq]
  rw [isNext, retires]
  cases change with
  | none =>
      have enrol : plan.projections.enrollRoot = none := by
        cases found : plan.projections.enrollRoot with
        | none => rfl
        | some pair => cases (projects.enrols pair.1 pair.2).mp found
      have retire : plan.projections.retireRoot = none := by
        cases found : plan.projections.retireRoot with
        | none => rfl
        | some key => cases (projects.retires key).mp found
      rw [writeEnrollRoot_none enrol] at enrols
      cases enrols
      unfold writeRetireRoot
      rw [retire]
      exact .unchanged sameRoots
  | some named =>
      cases named with
      | enrol key subject =>
          have enrol := (projects.enrols key subject).mpr rfl
          have retire : plan.projections.retireRoot = none := by
            cases found : plan.projections.retireRoot with
            | none => rfl
            | some other => cases (projects.retires other).mp found
          have enrolledRoots := writeEnrollRoot_some enrol enrols
          rw [sameRoots] at enrolledRoots
          unfold writeRetireRoot
          rw [retire]
          exact .enrolled key subject enrolledRoots
      | retire key =>
          have retire := (projects.retires key).mpr rfl
          have enrol : plan.projections.enrollRoot = none := by
            cases found : plan.projections.enrollRoot with
            | none => rfl
            | some pair => cases (projects.enrols pair.1 pair.2).mp found
          rw [writeEnrollRoot_none enrol] at enrols
          cases enrols
          unfold writeRetireRoot
          rw [retire, emitted]
          dsimp only
          rw [sameRoots]
          exact .retired key rfl

section

variable {roots : List RootRow} {row : RootRow} {key other : KeyId} {at_ instant : String}

theorem enrolledAt_eq_true : enrolledAt at_ row = true ↔
    row.enrolledAt ≤ at_ ∧ ∀ retiredAt, row.retiredAt = some retiredAt → at_ < retiredAt := by
  unfold enrolledAt
  rw [Bool.and_eq_true, decide_eq_true_iff]
  cases row.retiredAt with
  | none => simp
  | some retiredAt => simp

theorem mem_rootsAt {subject : String} : (key, subject) ∈ store.rootsAt at_ ↔
    ∃ row ∈ store.roots, row.rootKey = key ∧ row.subject = subject ∧ enrolledAt at_ row = true := by
  unfold rootsAt
  simp only [List.mem_map, List.mem_insertionSort, List.mem_filter, Prod.mk.injEq]
  constructor
  · intro member
    obtain ⟨row, ⟨held, live⟩, isKey, isSubject⟩ := member
    exact ⟨row, held, isKey, isSubject, live⟩
  · intro member
    obtain ⟨row, held, isKey, isSubject, live⟩ := member
    exact ⟨row, ⟨held, live⟩, isKey, isSubject⟩

theorem enrolIn_held {subject id : String} (held : ∃ row ∈ roots, row.rootKey = key) :
    enrolIn key subject at_ id roots = roots := by
  unfold enrolIn
  refine if_pos ?_
  simpa using held

theorem enrolIn_new {subject id : String} (absent : ∀ row ∈ roots, row.rootKey ≠ key) :
    enrolIn key subject at_ id roots =
      roots ++ [{ rootKey := key, subject, enrolledAt := at_, retiredAt := none, envelopeId := id }] := by
  unfold enrolIn
  refine if_neg ?_
  simpa using absent

theorem enrolIn_cases (key : KeyId) (subject at_ id : String) (roots : List RootRow) :
    ((∃ row ∈ roots, row.rootKey = key) ∧ enrolIn key subject at_ id roots = roots) ∨
    ((∀ row ∈ roots, row.rootKey ≠ key) ∧ enrolIn key subject at_ id roots =
      roots ++ [{ rootKey := key, subject, enrolledAt := at_, retiredAt := none, envelopeId := id }]) := by
  by_cases held : ∃ row ∈ roots, row.rootKey = key
  · exact .inl ⟨held, enrolIn_held held⟩
  · have absent : ∀ row ∈ roots, row.rootKey ≠ key := by
      intro row member same
      exact held ⟨row, member, same⟩
    exact .inr ⟨absent, enrolIn_new absent⟩

theorem retireRow_other {retiredAt : Option String} (different : row.rootKey ≠ key) :
    retireRow key retiredAt row = row := by
  unfold retireRow
  exact if_neg fun both => different both.1

theorem retireRow_keeps (key : KeyId) (retiredAt : Option String) (row : RootRow) :
    (retireRow key retiredAt row).rootKey = row.rootKey ∧ (retireRow key retiredAt row).subject = row.subject ∧
      (retireRow key retiredAt row).enrolledAt = row.enrolledAt := by
  unfold retireRow
  split <;> simp

/-- A retirement makes nothing enrolled that was not. -/
theorem enrolledAt_of_retireRow (live : enrolledAt at_ (retireRow key (some instant) row) = true) :
    enrolledAt at_ row = true := by
  unfold retireRow at live
  split at live
  · rename_i retired
    rw [enrolledAt_eq_true] at live ⊢
    refine ⟨live.1, ?_⟩
    intro retiredAt same
    rw [retired.2] at same
    cases same
  · exact live

/-- Before its instant a retirement changes nothing. -/
theorem enrolledAt_retireRow_before (before : at_ < instant) :
    enrolledAt at_ (retireRow key (some instant) row) = enrolledAt at_ row := by
  by_cases live : enrolledAt at_ row = true
  · rw [live]
    unfold retireRow
    split
    · rw [enrolledAt_eq_true] at live ⊢
      refine ⟨live.1, ?_⟩
      intro retiredAt same
      cases same
      exact before
    · exact live
  · have dead : ¬ enrolledAt at_ (retireRow key (some instant) row) = true :=
      fun retired => live (enrolledAt_of_retireRow retired)
    rw [Bool.not_eq_true] at live dead
    rw [live, dead]

/-- Neither change of the roots reaches an instant before its own. -/
theorem RootsAfter.past {change : RootChange} (after : RootsAfter plan store.roots next.roots (some change))
    (before : at_ < emittedAt plan.envelope) : next.rootsAt at_ = store.rootsAt at_ := by
  unfold rootsAt
  cases after with
  | enrolled key subject rows =>
      rw [rows]
      rcases enrolIn_cases key subject (emittedAt plan.envelope) plan.id store.roots with ⟨_, same⟩ | ⟨_, same⟩
      · rw [same]
      · rw [same, List.filter_append, List.filter_cons_of_neg, List.filter_nil, List.append_nil]
        rw [enrolledAt_eq_true]
        exact fun live => absurd live.1 (not_le.mpr before)
  | retired key rows =>
      have filtered : (store.roots.map (retireRow key (some (emittedAt plan.envelope)))).filter (enrolledAt at_) =
          (store.roots.filter (enrolledAt at_)).map (retireRow key (some (emittedAt plan.envelope))) := by
        rw [List.filter_map]
        congr 1
        refine List.filter_congr ?_
        intro row _
        exact enrolledAt_retireRow_before before
      rw [rows, filtered, ← List.map_insertionSort (fun a b : RootRow => a.rootKey.text ≤ b.rootKey.text), List.map_map]
      · refine List.map_congr_left ?_
        intro row _
        obtain ⟨isKey, isSubject, _⟩ := retireRow_keeps key (some (emittedAt plan.envelope)) row
        show ((retireRow key _ row).rootKey, (retireRow key _ row).subject) = (row.rootKey, row.subject)
        rw [isKey, isSubject]
      · intro a _ b _
        rw [(retireRow_keeps key _ a).1, (retireRow_keeps key _ b).1]

end

end Store

namespace World

variable {world : World} {action : Action}

/-- What the accepted changes of the set of roots promise of the table. -/
structure RootsUpheld (ext : External) (world : World) : Prop where
  enrolled : ∀ earlier taken later key subject, world.accepted = earlier ++ taken :: later →
    taken.Changes ext (.enrol key subject) → (∀ other ∈ later, ¬ other.Changes ext (.retire key)) →
    ∀ at_, emittedAt taken.plan.envelope ≤ at_ → (key, subject) ∈ world.store.rootsAt at_
  retired : ∀ earlier taken later key, world.accepted = earlier ++ taken :: later →
    taken.Changes ext (.retire key) → (∀ other ∈ later, ∀ subject, ¬ other.Changes ext (.enrol key subject)) →
    ∀ at_, emittedAt taken.plan.envelope ≤ at_ → ∀ subject, (key, subject) ∉ world.store.rootsAt at_

/-- A change of the set of roots leaves the instants before it alone. -/
def KeepsPast (ext : External) (config : Config) (world : World) (action : Action) : Prop :=
  ∀ taken change, (step ext config world action).accepted = world.accepted ++ [taken] → taken.Changes ext change →
    ∀ at_, at_ < emittedAt taken.plan.envelope →
      (step ext config world action).store.rootsAt at_ = world.store.rootsAt at_

/-- What the row a key already has must say for a change of it to be written as accepted: an enrolment finds
it under the same human, enrolled no later and not retired; a retirement finds it retired no later; and a key
that was retired without a row is not configured afterwards. -/
structure HeedsRows (ext : External) (config : Config) (world : World) (action : Action) : Prop where
  enrolment : ∀ taken key subject, (step ext config world action).accepted = world.accepted ++ [taken] →
    taken.Changes ext (.enrol key subject) → ∀ row ∈ world.store.roots, row.rootKey = key →
    row.subject = subject ∧ row.enrolledAt ≤ emittedAt taken.plan.envelope ∧ row.retiredAt = none
  retirement : ∀ taken key, (step ext config world action).accepted = world.accepted ++ [taken] →
    taken.Changes ext (.retire key) → ∀ row ∈ world.store.roots, row.rootKey = key →
    ∀ retiredAt, row.retiredAt = some retiredAt → retiredAt ≤ max (emittedAt taken.plan.envelope) row.enrolledAt
  seed : ∀ key subject enrolledAt, action = .seed key subject enrolledAt →
    (∀ row ∈ world.store.roots, row.rootKey ≠ key) → ∀ taken ∈ world.accepted, ¬ taken.Changes ext (.retire key)

/-- A step that takes an envelope, with the change of the roots it makes. -/
theorem taking_roots {taken : Accepted} (known : Traced ext config world)
    (took : (step ext config world action).accepted = world.accepted ++ [taken]) :
    ∃ change, (∀ named, taken.Changes ext named ↔ change = some named) ∧
      Store.RootsAfter taken.plan world.store.roots (step ext config world action).store.roots change := by
  cases step_cases ext config world action with
  | quiet _ accepted _ _ =>
      rw [took] at accepted
      simp at accepted
  | appends request snapshot validated waiting fresh _ accepted _ performs =>
      rw [took] at accepted
      have same := List.append_cancel_left accepted
      rw [List.cons.injEq] at same
      obtain ⟨index, rfl, found, passed⟩ := performs
      obtain ⟨⟨store, appended⟩, done⟩ := isOk_iff.mp passed
      have origin := known.tasks _ _ _ waiting
      rw [same.1]
      obtain ⟨change, changes, projects⟩ :=
        @Origin.changes _ _ world { request, snapshot, plan := validated.plan } origin
      refine ⟨change, changes, ?_⟩
      rw [perform_store found done]
      exact Store.append_roots fresh done projects

theorem keepsPast (reached : (kernel ext config).Reachable world) : KeepsPast ext config world action := by
  intro taken change took changes at_ before
  obtain ⟨named, are, after⟩ := taking_roots (traced reached) took
  rw [(are change).mp changes] at after
  exact after.past before

/-- A step takes one envelope, seeds one root, or leaves the table of roots alone. -/
theorem roots_cases (ext : External) (config : Config) (world : World) (action : Action) :
    (∃ taken, (step ext config world action).accepted = world.accepted ++ [taken]) ∨
    ((step ext config world action).accepted = world.accepted ∧
      ((∃ key subject enrolledAt, action = .seed key subject enrolledAt) ∨
        ((∀ key subject enrolledAt, action ≠ .seed key subject enrolledAt) ∧
          (step ext config world action).store.roots = world.store.roots))) := by
  cases step_cases ext config world action with
  | quiet _ accepted _ roots =>
      by_cases seeds : ∃ key subject enrolledAt, action = .seed key subject enrolledAt
      · exact .inr ⟨accepted, .inl seeds⟩
      · have unseeded : ∀ key subject enrolledAt, action ≠ .seed key subject enrolledAt := by
          intro key subject enrolledAt same
          exact seeds ⟨key, subject, enrolledAt, same⟩
        exact .inr ⟨accepted, .inr ⟨unseeded, roots unseeded⟩⟩
  | appends _ _ _ _ _ _ accepted _ _ => exact .inl ⟨_, accepted⟩

theorem seed_roots (key : KeyId) (subject enrolledAt : String) :
    (step ext config world (.seed key subject enrolledAt)).store.roots =
      Store.enrolIn key subject enrolledAt "configuration" world.store.roots := by
  show (world.store.seedConfiguredRoot key subject enrolledAt).roots = _
  unfold Store.seedConfiguredRoot Store.enrolIn
  split <;> rfl

/-- Each key has one row. -/
theorem distinct_roots (reached : (kernel ext config).Reachable world) :
    DistinctKeys RootRow.rootKey world.store.roots := by
  have enrols : ∀ {roots : List RootRow} key subject at_ id, DistinctKeys RootRow.rootKey roots →
      DistinctKeys RootRow.rootKey (Store.enrolIn key subject at_ id roots) := by
    intro roots key subject at_ id distinct
    rcases Store.enrolIn_cases key subject at_ id roots with ⟨_, same⟩ | ⟨absent, same⟩
    · rw [same]
      exact distinct
    · rw [same]
      refine List.pairwise_append.mpr ⟨distinct, List.pairwise_singleton _ _, ?_⟩
      intro row member new isNew
      rw [List.mem_singleton.mp isNew]
      exact absent row member
  refine reached.invariant (fun world => DistinctKeys RootRow.rootKey world.store.roots) ?_ ?_
  · intro state start
    have first : state = World.initial := start
    subst first
    exact .nil
  intro before action reached distinct
  show DistinctKeys RootRow.rootKey (step ext config before action).store.roots
  rcases roots_cases ext config before action with ⟨taken, took⟩ | ⟨_, ⟨key, subject, enrolledAt, rfl⟩ | ⟨_, same⟩⟩
  · obtain ⟨change, _, after⟩ := taking_roots (traced reached) took
    cases after with
    | unchanged same =>
        rw [same]
        exact distinct
    | enrolled key subject rows =>
        rw [rows]
        exact enrols _ _ _ _ distinct
    | retired key rows =>
        rw [rows]
        refine List.Pairwise.map _ ?_ distinct
        intro a b different
        rw [(Store.retireRow_keeps key _ a).1, (Store.retireRow_keeps key _ b).1]
        exact different
  · rw [seed_roots]
    exact enrols _ _ _ _ distinct
  · rw [same]
    exact distinct

/-- An accepted enrolment leaves its key a row. -/
theorem enrolment_held (reached : (kernel ext config).Reachable world) :
    ∀ taken ∈ world.accepted, ∀ key subject, taken.Changes ext (.enrol key subject) →
      ∃ row ∈ world.store.roots, row.rootKey = key := by
  refine reached.invariant (fun world => ∀ taken ∈ world.accepted, ∀ key subject,
    taken.Changes ext (.enrol key subject) → ∃ row ∈ world.store.roots, row.rootKey = key) ?_ ?_
  · intro state start
    have first : state = World.initial := start
    subst first
    intro taken member
    cases member
  · intro before action reached held
    show ∀ taken ∈ (step ext config before action).accepted, _
    have grown := (step_cases ext config before action).grows.roots
    have kept : ∀ key, (∃ row ∈ before.store.roots, row.rootKey = key) →
        ∃ row ∈ (step ext config before action).store.roots, row.rootKey = key := by
      intro key known
      obtain ⟨row, member, isKey⟩ := known
      obtain ⟨later, inside, same, _⟩ := grown row member
      exact ⟨later, inside, same.trans isKey⟩
    intro taken member key subject changes
    rcases roots_cases ext config before action with ⟨new, took⟩ | ⟨same, _⟩
    · rw [took] at member
      rcases List.mem_append.mp member with earlier | last
      · exact kept key (held taken earlier key subject changes)
      · rw [List.mem_singleton] at last
        subst last
        obtain ⟨change, are, after⟩ := taking_roots (traced reached) took
        rw [(are _).mp changes] at after
        show ∃ row ∈ (step ext config before action).store.roots, row.rootKey = key
        cases after with
        | enrolled key subject rows =>
            rw [rows]
            rcases Store.enrolIn_cases key subject (emittedAt taken.plan.envelope) taken.plan.id before.store.roots with
              ⟨present, same⟩ | ⟨_, same⟩
            · rw [same]
              exact present
            · rw [same]
              exact ⟨_, List.mem_append_right _ List.mem_cons_self, rfl⟩
    · rw [same] at member
      exact kept key (held taken member key subject changes)

/-- What a step that takes an envelope keeps of an earlier enrolment, where it does not retire the key. -/
theorem enrolled_kept {plan : AppendPlan} {next : Store} {change : Option RootChange} {key : KeyId} {subject at_ : String}
    (after : Store.RootsAfter plan world.store.roots next.roots change) (kept : change ≠ some (.retire key))
    (enrolled : (key, subject) ∈ world.store.rootsAt at_) : (key, subject) ∈ next.rootsAt at_ := by
  rw [Store.mem_rootsAt] at enrolled ⊢
  obtain ⟨row, member, isKey, isSubject, live⟩ := enrolled
  refine ⟨row, ?_, isKey, isSubject, live⟩
  cases after with
  | unchanged same =>
      rw [same]
      exact member
  | enrolled other human rows =>
      rw [rows]
      rcases Store.enrolIn_cases other human (emittedAt plan.envelope) plan.id world.store.roots with
        ⟨_, same⟩ | ⟨_, same⟩
      · rw [same]
        exact member
      · rw [same]
        exact List.mem_append_left _ member
  | retired other rows =>
      have different : row.rootKey ≠ other := by
        intro same
        exact kept (by rw [← same, isKey])
      rw [rows]
      have unchanged := @Store.retireRow_other _ _ (some (emittedAt plan.envelope)) different
      rw [← unchanged]
      exact List.mem_map_of_mem member

/-- What a step that takes an envelope keeps of an earlier retirement, where it does not enrol the key. -/
theorem retired_kept {plan : AppendPlan} {next : Store} {change : Option RootChange} {key : KeyId} {at_ : String}
    (after : Store.RootsAfter plan world.store.roots next.roots change)
    (kept : ∀ subject, change ≠ some (.enrol key subject))
    (retired : ∀ subject, (key, subject) ∉ world.store.rootsAt at_) (subject : String) :
    (key, subject) ∉ next.rootsAt at_ := by
  intro enrolled
  obtain ⟨row, member, isKey, isSubject, live⟩ := Store.mem_rootsAt.mp enrolled
  cases after with
  | unchanged same =>
      rw [same] at member
      exact retired subject (Store.mem_rootsAt.mpr ⟨row, member, isKey, isSubject, live⟩)
  | enrolled other human rows =>
      rw [rows] at member
      rcases Store.enrolIn_cases other human (emittedAt plan.envelope) plan.id world.store.roots with
        ⟨_, same⟩ | ⟨_, same⟩
      · rw [same] at member
        exact retired subject (Store.mem_rootsAt.mpr ⟨row, member, isKey, isSubject, live⟩)
      · rw [same] at member
        rcases List.mem_append.mp member with earlier | new
        · exact retired subject (Store.mem_rootsAt.mpr ⟨row, earlier, isKey, isSubject, live⟩)
        · rw [List.mem_singleton] at new
          subst new
          exact kept human (by rw [← isKey])
  | retired other rows =>
      rw [rows] at member
      obtain ⟨earlier, held, rfl⟩ := List.mem_map.mp member
      obtain ⟨sameKey, sameSubject, _⟩ := Store.retireRow_keeps other (some (emittedAt plan.envelope)) earlier
      refine retired subject (Store.mem_rootsAt.mpr ⟨earlier, held, ?_, ?_, Store.enrolledAt_of_retireRow live⟩)
      · rw [← sameKey, isKey]
      · rw [← sameSubject, isSubject]

/-- An enrolment shows from its instant on exactly when it finds no row of its key, or one that says the same. -/
theorem enrolment_shows_iff {plan : AppendPlan} {next : Store} {key : KeyId} {subject : String}
    (distinct : DistinctKeys RootRow.rootKey world.store.roots)
    (after : Store.RootsAfter plan world.store.roots next.roots (some (.enrol key subject))) :
    (∀ row ∈ world.store.roots, row.rootKey = key →
      row.subject = subject ∧ row.enrolledAt ≤ emittedAt plan.envelope ∧ row.retiredAt = none) ↔
    ∀ at_, emittedAt plan.envelope ≤ at_ → (key, subject) ∈ next.rootsAt at_ := by
  have rows : next.roots = Store.enrolIn key subject (emittedAt plan.envelope) plan.id world.store.roots := by
    cases after with
    | enrolled _ _ rows => exact rows
  rcases Store.enrolIn_cases key subject (emittedAt plan.envelope) plan.id world.store.roots with
    ⟨⟨row, member, isKey⟩, same⟩ | ⟨absent, same⟩
  · rw [same] at rows
    constructor
    · intro agrees at_ later
      obtain ⟨isSubject, enrolled, unretired⟩ := agrees row member isKey
      refine Store.mem_rootsAt.mpr ⟨row, ?_, isKey, isSubject, ?_⟩
      · rw [rows]
        exact member
      · refine Store.enrolledAt_eq_true.mpr ⟨le_trans enrolled later, ?_⟩
        intro retiredAt retires
        rw [unretired] at retires
        cases retires
    · intro shows other held otherKey
      have only : ∀ at_, emittedAt plan.envelope ≤ at_ → other.subject = subject ∧ Store.enrolledAt at_ other = true := by
        intro at_ later
        obtain ⟨found, inside, foundKey, foundSubject, live⟩ := Store.mem_rootsAt.mp (shows at_ later)
        rw [rows] at inside
        have keys : (world.store.roots.map RootRow.rootKey).Nodup := List.pairwise_map.mpr distinct
        have isOther : found = other := List.inj_on_of_nodup_map keys inside held (foundKey.trans otherKey.symm)
        rw [← isOther]
        exact ⟨foundSubject, live⟩
      obtain ⟨isSubject, live⟩ := only _ le_rfl
      refine ⟨isSubject, (Store.enrolledAt_eq_true.mp live).1, ?_⟩
      cases retires : other.retiredAt with
      | none => rfl
      | some retiredAt =>
          have later := (only (max (emittedAt plan.envelope) retiredAt) (le_max_left _ _)).2
          have before := (Store.enrolledAt_eq_true.mp later).2 retiredAt retires
          exact absurd before (not_lt.mpr (le_max_right _ _))
  · constructor
    · intro _ at_ later
      rw [Store.mem_rootsAt, rows, same]
      refine ⟨_, List.mem_append_right _ List.mem_cons_self, rfl, rfl, ?_⟩
      refine Store.enrolledAt_eq_true.mpr ⟨later, ?_⟩
      intro retiredAt retires
      cases retires
    · intro _ row member isKey
      exact absurd isKey (absent row member)

/-- A retirement shows from its instant on exactly when no row of its key was retired later. -/
theorem retirement_shows_iff {plan : AppendPlan} {next : Store} {key : KeyId}
    (after : Store.RootsAfter plan world.store.roots next.roots (some (.retire key))) :
    (∀ row ∈ world.store.roots, row.rootKey = key → ∀ retiredAt, row.retiredAt = some retiredAt →
      retiredAt ≤ max (emittedAt plan.envelope) row.enrolledAt) ↔
    ∀ at_, emittedAt plan.envelope ≤ at_ → ∀ subject, (key, subject) ∉ next.rootsAt at_ := by
  have rows : next.roots = world.store.roots.map (Store.retireRow key (some (emittedAt plan.envelope))) := by
    cases after with
    | retired _ rows => exact rows
  constructor
  · intro early at_ later subject enrolled
    obtain ⟨row, member, isKey, _, live⟩ := Store.mem_rootsAt.mp enrolled
    rw [rows] at member
    obtain ⟨held, inside, rfl⟩ := List.mem_map.mp member
    rw [(Store.retireRow_keeps _ _ held).1] at isKey
    cases retires : held.retiredAt with
    | none =>
        have retired : (Store.retireRow key (some (emittedAt plan.envelope)) held).retiredAt =
            some (emittedAt plan.envelope) := by
          unfold Store.retireRow
          rw [if_pos ⟨isKey, retires⟩]
        have before := (Store.enrolledAt_eq_true.mp live).2 _ retired
        exact absurd before (not_lt.mpr later)
    | some retiredAt =>
        have live := Store.enrolledAt_eq_true.mp (Store.enrolledAt_of_retireRow live)
        have before := live.2 retiredAt retires
        have bound := early held inside isKey retiredAt retires
        exact absurd before (not_lt.mpr (le_trans bound (max_le later live.1)))
  · intro absent row member isKey retiredAt retires
    by_contra beyond
    refine absent (max (emittedAt plan.envelope) row.enrolledAt) (le_max_left _ _) row.subject ?_
    refine Store.mem_rootsAt.mpr ⟨row, ?_, isKey, rfl, ?_⟩
    · have unchanged : Store.retireRow key (some (emittedAt plan.envelope)) row = row := by
        unfold Store.retireRow
        refine if_neg ?_
        intro both
        rw [both.2] at retires
        cases retires
      rw [rows, ← unchanged]
      exact List.mem_map_of_mem member
    · refine Store.enrolledAt_eq_true.mpr ⟨le_max_right _ _, ?_⟩
      intro other same
      rw [retires] at same
      cases same
      exact not_le.mp beyond

/-- Taking an envelope keeps what the accepted changes promise exactly when its own change is written. -/
theorem taken_upheld_iff {taken : Accepted} (reached : (kernel ext config).Reachable world)
    (upheld : RootsUpheld ext world) (took : (step ext config world action).accepted = world.accepted ++ [taken]) :
    HeedsRows ext config world action ↔ RootsUpheld ext (step ext config world action) := by
  obtain ⟨change, are, after⟩ := taking_roots (traced reached) took
  have only : ∀ other, (step ext config world action).accepted = world.accepted ++ [other] → other = taken := by
    intro other same
    rw [took] at same
    exact (List.singleton_inj.mp (List.append_cancel_left same)).symm
  have unseeded : ∀ key subject enrolledAt, action ≠ .seed key subject enrolledAt := by
    rintro key subject enrolledAt rfl
    have same : (step ext config world (.seed key subject enrolledAt)).accepted = world.accepted := rfl
    rw [took] at same
    simp at same
  constructor
  · intro heeds
    constructor
    · intro earlier enrolling later key subject split changes unretired at_ since
      rw [took] at split
      rcases split_concat split with ⟨rfl, rfl, rfl⟩ | ⟨front, rfl, before⟩
      · rw [(are _).mp changes] at after
        exact (enrolment_shows_iff (distinct_roots reached) after).mp
          (heeds.enrolment _ key subject took changes) at_ since
      · refine enrolled_kept after ?_ (upheld.enrolled earlier enrolling front key subject before changes ?_ at_ since)
        · intro same
          exact unretired taken (List.mem_append_right _ List.mem_cons_self) ((are _).mpr same)
        · intro other member
          exact unretired other (List.mem_append_left _ member)
    · intro earlier retiring later key split changes unenrolled at_ since
      rw [took] at split
      rcases split_concat split with ⟨rfl, rfl, rfl⟩ | ⟨front, rfl, before⟩
      · rw [(are _).mp changes] at after
        exact (retirement_shows_iff after).mp (heeds.retirement _ key took changes) at_ since
      · refine retired_kept after ?_ (upheld.retired earlier retiring front key before changes ?_ at_ since)
        · intro subject same
          exact unenrolled taken (List.mem_append_right _ List.mem_cons_self) subject ((are _).mpr same)
        · intro other member
          exact unenrolled other (List.mem_append_left _ member)
  · intro later
    constructor
    · intro other key subject same changes
      rw [only other same] at changes ⊢
      rw [(are _).mp changes] at after
      refine (enrolment_shows_iff (distinct_roots reached) after).mpr ?_
      exact later.enrolled world.accepted taken [] key subject took changes (by intro other member; cases member)
    · intro other key same changes
      rw [only other same] at changes ⊢
      rw [(are _).mp changes] at after
      refine (retirement_shows_iff after).mpr ?_
      exact later.retired world.accepted taken [] key took changes (by intro other member; cases member)
    · intro key subject enrolledAt same
      exact absurd same (unseeded key subject enrolledAt)

/-- Seeding keeps what the accepted changes promise exactly when it configures no key retired without a row. -/
theorem seeded_upheld_iff {key : KeyId} {subject enrolledAt : String} (reached : (kernel ext config).Reachable world)
    (upheld : RootsUpheld ext world) : HeedsRows ext config world (.seed key subject enrolledAt) ↔
      RootsUpheld ext (step ext config world (.seed key subject enrolledAt)) := by
  have same : (step ext config world (.seed key subject enrolledAt)).accepted = world.accepted := rfl
  have rows := @seed_roots ext config world key subject enrolledAt
  have untaken : ∀ taken, (step ext config world (.seed key subject enrolledAt)).accepted ≠
      world.accepted ++ [taken] := by
    intro taken took
    rw [same] at took
    simp at took
  rcases Store.enrolIn_cases key subject enrolledAt "configuration" world.store.roots with
    ⟨held, unchanged⟩ | ⟨absent, added⟩
  · rw [unchanged] at rows
    have roots : ∀ at_, (step ext config world (.seed key subject enrolledAt)).store.rootsAt at_ =
        world.store.rootsAt at_ := by
      intro at_
      unfold Store.rootsAt
      rw [rows]
    constructor
    · intro _
      constructor
      · intro earlier taken later other human split changes unretired at_ since
        rw [roots]
        exact upheld.enrolled earlier taken later other human split changes unretired at_ since
      · intro earlier taken later other split changes unenrolled at_ since human
        rw [roots]
        exact upheld.retired earlier taken later other split changes unenrolled at_ since human
    · intro _
      refine ⟨fun taken _ _ took => absurd took (untaken taken), fun taken _ took => absurd took (untaken taken), ?_⟩
      intro other human at_ action unheld
      cases action
      obtain ⟨row, member, isKey⟩ := held
      exact absurd isKey (unheld row member)
  · rw [added] at rows
    constructor
    · intro heeds
      have unretired := heeds.seed key subject enrolledAt rfl absent
      constructor
      · intro earlier taken later other human split changes unretired at_ since
        obtain ⟨row, member, isKey, isSubject, live⟩ := Store.mem_rootsAt.mp
          (upheld.enrolled earlier taken later other human split changes unretired at_ since)
        refine Store.mem_rootsAt.mpr ⟨row, ?_, isKey, isSubject, live⟩
        rw [rows]
        exact List.mem_append_left _ member
      · intro earlier taken later other split changes unenrolled at_ since human enrolled
        obtain ⟨row, member, isKey, isSubject, live⟩ := Store.mem_rootsAt.mp enrolled
        rw [rows] at member
        rcases List.mem_append.mp member with before | new
        · refine upheld.retired earlier taken later other split changes unenrolled at_ since human ?_
          exact Store.mem_rootsAt.mpr ⟨row, before, isKey, isSubject, live⟩
        · rw [List.mem_singleton] at new
          subst new
          rw [same] at split
          refine unretired taken ?_ (by rw [← isKey] at changes; exact changes)
          rw [split]
          exact List.mem_append_right _ List.mem_cons_self
    · intro later
      refine ⟨fun taken _ _ took => absurd took (untaken taken), fun taken _ took => absurd took (untaken taken), ?_⟩
      intro other human at_ action unheld taken member changes
      cases action
      obtain ⟨earlier, rest, split⟩ := List.append_of_mem member
      have unenrolled : ∀ other ∈ rest, ∀ human, ¬ other.Changes ext (.enrol key human) := by
        intro other inside human enrols
        have known : other ∈ world.accepted := by
          rw [split]
          exact List.mem_append_right _ (List.mem_cons_of_mem _ inside)
        obtain ⟨row, held, isKey⟩ := enrolment_held reached other known key human enrols
        exact absent row held isKey
      refine later.retired earlier taken rest key (same.trans split) changes unenrolled
        (max (emittedAt taken.plan.envelope) enrolledAt) (le_max_left _ _) subject ?_
      rw [Store.mem_rootsAt, rows]
      refine ⟨_, List.mem_append_right _ List.mem_cons_self, rfl, rfl, ?_⟩
      refine Store.enrolledAt_eq_true.mpr ⟨le_max_right _ _, ?_⟩
      intro retiredAt retires
      cases retires

theorem heedsRows_iff (reached : (kernel ext config).Reachable world) (upheld : RootsUpheld ext world) :
    HeedsRows ext config world action ↔
      RootsUpheld ext (step ext config world action) ∧ KeepsPast ext config world action := by
  rw [and_iff_left (keepsPast reached)]
  rcases roots_cases ext config world action with ⟨taken, took⟩ | ⟨same, ⟨key, subject, enrolledAt, rfl⟩ | ⟨unseeded, roots⟩⟩
  · exact taken_upheld_iff reached upheld took
  · exact seeded_upheld_iff reached upheld
  · have untaken : ∀ taken, (step ext config world action).accepted ≠ world.accepted ++ [taken] := by
      intro taken took
      rw [same] at took
      simp at took
    have unchanged : ∀ at_, (step ext config world action).store.rootsAt at_ = world.store.rootsAt at_ := by
      intro at_
      unfold Store.rootsAt
      rw [roots]
    constructor
    · intro _
      constructor
      · intro earlier taken later key subject split changes unretired at_ since
        rw [unchanged]
        exact upheld.enrolled earlier taken later key subject (same.symm.trans split) changes unretired at_ since
      · intro earlier taken later key split changes unenrolled at_ since subject
        rw [unchanged]
        exact upheld.retired earlier taken later key (same.symm.trans split) changes unenrolled at_ since subject
    · intro _
      refine ⟨fun taken _ _ took => absurd took (untaken taken), fun taken _ took => absurd took (untaken taken), ?_⟩
      intro key subject enrolledAt seeds
      exact absurd seeds (unseeded key subject enrolledAt)

end World

/-- Whatever the accepted changes of the set of roots say shows in it, and only from their instants on, exactly
when each of them finds no row of its key that says otherwise. -/
theorem root_changes_upheld_iff (actions : List Action) :
    (kernel ext config).EachStep World.initial actions (World.HeedsRows ext config) ↔
      ((kernel ext config).EachState World.initial actions (World.RootsUpheld ext)) ∧
      (kernel ext config).EachStep World.initial actions (World.KeepsPast ext config) :=
  System.eachStep_iff (fun _ _ reached upheld => World.heedsRows_iff reached upheld) (.of_start rfl)
    (by
      constructor
      · intro earlier taken later key subject split
        simp [World.initial] at split
      · intro earlier taken later key split
        simp [World.initial] at split) actions

end Stozher

namespace Stozher.Deployment

open Library Ingest

/-- An enrolled root is enrolled again under another name, as another root approved. -/
def renamed : List Action :=
  founding ++ enter anaGrantBody nine ++ enter renameBody nine

/-- What an accepted envelope enrols, and from when on. -/
def enrolled (taken : Accepted) : Option (KeyId × String) × String :=
  (taken.plan.projections.enrollRoot, emittedAt taken.plan.envelope)

structure RenamedSeen : Prop where
  enrolments : ((after renamed).accepted.map enrolled, (after renamed).store.rootsAt nine) =
    ([(none, nine), (none, nine), (none, nine), (some (miraId, "human:mina"), nine)], roots)

theorem renamed_seen : RenamedSeen where
  enrolments := by decide +kernel

theorem renamed_root_keeps_its_name :
    (kernel ext config).Reachable (after renamed) ∧ ¬ (after renamed).RootsUpheld ext := by
  refine ⟨reachable renamed, ?_⟩
  intro upheld
  have seen : (after renamed).accepted.map enrolled =
      [(none, nine), (none, nine), (none, nine)] ++ [(some (miraId, "human:mina"), nine)] :=
    congrArg Prod.fst renamed_seen.enrolments
  obtain ⟨earlier, last, took, _, mapped⟩ := List.map_eq_append_iff.mp seen
  obtain ⟨taken, rfl, enrols⟩ := List.map_eq_singleton_iff.mp mapped
  have inside : taken ∈ (after renamed).accepted := by
    rw [took]
    exact List.mem_append_right _ List.mem_cons_self
  obtain ⟨before, later, taking⟩ := (World.traced (reachable renamed)).accepted taken inside
  obtain ⟨change, are, projects⟩ := Origin.changes taking.origin
  have changes : taken.Changes ext (.enrol miraId "human:mina") :=
    (are _).mpr ((projects.enrols _ _).mp (congrArg Prod.fst enrols))
  have emitted : emittedAt taken.plan.envelope = nine := congrArg Prod.snd enrols
  have shows := upheld.enrolled _ taken [] miraId "human:mina" took changes (by intro other member; cases member)
    nine (le_of_eq emitted)
  have kept : (after renamed).store.rootsAt nine = roots := congrArg Prod.snd renamed_seen.enrolments
  rw [kept] at shows
  exact absurd shows (by decide)

end Stozher.Deployment
