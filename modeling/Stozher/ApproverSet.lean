import Stozher.RevocationPermanence
import Stozher.Deployment

namespace Stozher

open Library Library.Text Ingest

variable {ext : External} {config : Config}

namespace Ingest

variable {store : Store}

/-- The key a mandate names as its holder's. -/
def holderKey (mandate : Value) : Option KeyId :=
  match ((mandate.index "grantee").getStr "key").map KeyId.parse with
  | some (.ok key) => some key
  | _ => none

/-- A mandate that makes its holder an approver of an action under a subject. -/
structure Holds (store : Store) (subjects : List String) (at_ action : String) (subject : String)
    (mandate : Value) (key : KeyId) : Prop where
  listed : subject ∈ subjects
  human : startsWith subject "human:" = true
  stored : mandate ∈ store.mandatesHeldBy subject at_
  covers : coversAction mandate action = true
  key : holderKey mandate = some key

theorem addHolder_keys {subject action : String} {keys : List Gate.Approver} {mandate : Value}
    {key : KeyId} :
    (∃ approver ∈ addHolder subject action keys mandate, approver.key = key) ↔
      (∃ approver ∈ keys, approver.key = key) ∨
        (coversAction mandate action = true ∧ holderKey mandate = some key) := by
  unfold addHolder holderKey
  by_cases covers : coversAction mandate action = true
  · rw [if_pos covers]
    cases parsed : ((mandate.index "grantee").getStr "key").map KeyId.parse with
    | none => simp
    | some result =>
        cases result with
        | error e => simp
        | ok named =>
            dsimp only
            split
            · rename_i known
              obtain ⟨approver, member, same⟩ := List.any_eq_true.mp known
              rw [beq_iff_eq] at same
              constructor
              · exact Or.inl
              · rintro (held | ⟨_, isKey⟩)
                · exact held
                · exact ⟨approver, member, same.trans (Option.some.inj isKey)⟩
            · simp only [List.mem_append, List.mem_singleton, covers, true_and, Option.some.injEq]
              constructor
              · rintro ⟨approver, member | rfl, same⟩
                · exact Or.inl ⟨approver, member, same⟩
                · exact Or.inr same
              · rintro (⟨approver, member, same⟩ | rfl)
                · exact ⟨approver, Or.inl member, same⟩
                · exact ⟨_, Or.inr rfl, rfl⟩
  · rw [if_neg covers]
    simp [covers]

theorem foldl_addHolder_keys {subject action : String} {mandates : List Value}
    {keys : List Gate.Approver} {key : KeyId} :
    (∃ approver ∈ mandates.foldl (addHolder subject action) keys, approver.key = key) ↔
      (∃ approver ∈ keys, approver.key = key) ∨
        ∃ mandate ∈ mandates, coversAction mandate action = true ∧ holderKey mandate = some key := by
  induction mandates generalizing keys with
  | nil => simp
  | cons first rest ih =>
      rw [List.foldl_cons, ih, addHolder_keys, List.exists_mem_cons_iff, or_assoc]

theorem foldl_addSubject_keys {at_ action : String} {subjects : List String}
    {keys : List Gate.Approver} {key : KeyId} :
    (∃ approver ∈ subjects.foldl (addSubject store at_ action) keys, approver.key = key) ↔
      (∃ approver ∈ keys, approver.key = key) ∨
        ∃ subject mandate, Holds store subjects at_ action subject mandate key := by
  induction subjects generalizing keys with
  | nil =>
      simp only [List.foldl_nil]
      constructor
      · exact Or.inl
      · rintro (held | ⟨_, _, holds⟩)
        · exact held
        · cases holds.listed
  | cons first rest ih =>
      rw [List.foldl_cons, ih]
      have first_keys : (∃ approver ∈ addSubject store at_ action keys first, approver.key = key) ↔
          (∃ approver ∈ keys, approver.key = key) ∨
            (startsWith first "human:" = true ∧ ∃ mandate ∈ store.mandatesHeldBy first at_,
              coversAction mandate action = true ∧ holderKey mandate = some key) := by
        unfold addSubject
        split
        · rename_i human
          rw [foldl_addHolder_keys]
          simp [human]
        · rename_i other
          simp [other]
      rw [first_keys, or_assoc]
      refine or_congr_right ?_
      constructor
      · rintro (⟨human, mandate, stored, covers, isKey⟩ | ⟨subject, mandate, holds⟩)
        · exact ⟨first, mandate, List.mem_cons_self, human, stored, covers, isKey⟩
        · exact ⟨subject, mandate, List.mem_cons_of_mem _ holds.listed, holds.human, holds.stored,
            holds.covers, holds.key⟩
      · rintro ⟨subject, mandate, holds⟩
        rcases List.mem_cons.mp holds.listed with rfl | later
        · exact Or.inl ⟨holds.human, mandate, holds.stored, holds.covers, holds.key⟩
        · exact Or.inr ⟨subject, mandate, later, holds.human, holds.stored, holds.covers, holds.key⟩

/-- Whose keys approve: the enrolled roots among the subjects, and the holders among them. -/
theorem approverKeys_iff {subjects : List String} {at_ action : String} {key : KeyId} :
    (∃ approver ∈ approverKeys store subjects at_ action, approver.key = key) ↔
      (∃ subject ∈ subjects, (key, subject) ∈ store.rootsAt at_) ∨
        ∃ subject mandate, Holds store subjects at_ action subject mandate key := by
  unfold approverKeys
  rw [foldl_addSubject_keys]
  refine or_congr_left ?_
  simp only [List.mem_map, List.mem_filter]
  constructor
  · rintro ⟨_, ⟨⟨other, subject⟩, ⟨member, listed⟩, rfl⟩, rfl⟩
    exact ⟨subject, by simpa using listed, member⟩
  · rintro ⟨subject, listed, member⟩
    exact ⟨.named key subject, ⟨(key, subject), ⟨member, by simpa using listed⟩, rfl⟩, rfl⟩

theorem holderKey_eq_some {mandate : Value} {key : KeyId} :
    holderKey mandate = some key ↔ Mandate.keyAt mandate "grantee" = .ok key := by
  have same : (mandate.index "grantee").getStr "key" = (mandate.get "grantee").bind (·.getStr "key") := by
    unfold Value.index
    cases mandate.get "grantee" <;> rfl
  unfold holderKey Mandate.keyAt
  rw [same]
  cases (mandate.get "grantee").bind (·.getStr "key") with
  | none => simp [okOr]
  | some text =>
      simp only [okOr, ok_bind, Option.map_some]
      cases KeyId.parse text <;> simp

theorem getStr_of_isNull {value : Value} {name : String}
    (absent : ((value.get name).getD .null).isNull = true) : value.getStr name = none := by
  unfold Value.getStr
  cases found : value.get name with
  | none => rfl
  | some member =>
      rw [found] at absent
      cases member <;> first | rfl | cases absent

theorem verifyGrant_eq_ok {mandate : Value} {parent : Option Value} {params : Mandate.GrantParams}
    (passed : Mandate.verifyGrant ext mandate parent params = .ok ()) :
    ∃ grantor, Signed.verifySignedObject ext mandate = .ok grantor ∧
      Mandate.keyAt mandate "grantor" = .ok grantor ∧
      ((grantor ∈ params.roots ∧ mandate.getStr "parent" = none) ∨
        (mandate.getStr "mandate-kind" = some "delegated" ∧
          ∃ parentRef, mandate.getStr "parent" = some parentRef)) := by
  unfold Mandate.verifyGrant at passed
  simp only [bind_eq_ok, okOr_eq_ok] at passed
  obtain ⟨⟨grantor, grantee, notAfter, depth⟩, shape, kind, hasKind, role, _, passed⟩ := passed
  unfold Mandate.checkGrantShape at shape
  simp only [bind_eq_ok, pure_eq_ok, Prod.mk.injEq] at shape
  obtain ⟨_, signer, _, _, _, _, _, _, _, _, _, _, _, _, _, _, _, _, _, _, _, _, _, _, same, _⟩ := shape
  subst same
  obtain ⟨_, signed, isGrantor, _, _⟩ := Mandate.checkSigner_eq_ok signer
  refine ⟨_, signed, isGrantor, ?_⟩
  split at passed
  · unfold Mandate.verifyRootGrant at passed
    simp only [bind_eq_ok] at passed
    obtain ⟨_, rooted, _⟩ := passed
    obtain ⟨parentless, _, enrolled⟩ := Mandate.checkRootGrant_eq_ok rooted
    exact Or.inl ⟨enrolled, getStr_of_isNull parentless⟩
  · split at passed
    · rename_i delegated
      unfold Mandate.verifyDelegatedGrant at passed
      rw [require_bind_eq_ok] at passed
      have named := passed.1
      refine Or.inr ⟨delegated ▸ hasKind, ?_⟩
      cases found : mandate.getStr "parent" with
      | none => exact absurd (by rw [found, Option.getD_none]) named
      | some parentRef => exact ⟨parentRef, rfl⟩
    · cases passed

/-- A mandate an enrolled root granted. -/
def RootGranted (ext : External) (store : Store) (at_ : String) (mandate : Value) : Prop :=
  ∃ root ∈ rootKeysAt store at_, Signed.verifySignedObject ext mandate = .ok root ∧
    Mandate.keyAt mandate "grantor" = .ok root

/-- Whoever grants a mandate is an enrolled root, or delegates a stored one. -/
inductive GrantedIn (ext : External) (store : Store) (at_ : String) (mandate : Value) : Prop where
  | root (granted : RootGranted ext store at_ mandate) (parentless : mandate.getStr "parent" = none)
  | delegated (kind : mandate.getStr "mandate-kind" = some "delegated") (parentRef : String)
      (names : mandate.getStr "parent" = some parentRef)
      (stored : ∃ parent, store.mandate parentRef = some parent)

theorem Admitted.grants {raw : Octets} {receivedAt id : String} {plan : AppendPlan}
    {subjectKey : KeyId} {payloads : List Value} {mandate : Value}
    (admitted : Admitted ext config store raw receivedAt plan subjectKey payloads)
    (projected : plan.projections.mandate = some (id, mandate)) :
    Jcs.canonicalize mandate = .ok { tree := mandate } ∧
      GrantedIn ext store (emittedAt plan.envelope) mandate := by
  rcases admitted.rule.ceremony.grants projected with valid | ⟨policy, valid⟩
  · obtain ⟨carried, _, found, kind, granted, _, same⟩ := validateGenesisMandate_eq_ok valid
    rw [same] at projected
    cases projected
    refine ⟨canonicalize_member admitted.valid found, ?_⟩
    obtain ⟨grantor, signed, isGrantor, ⟨root, parentless⟩ | ⟨delegated, _⟩⟩ := verifyGrant_eq_ok granted
    · exact .root ⟨grantor, root, signed, isGrantor⟩ parentless
    · exact absurd (Option.some.inj (kind.symm.trans delegated)) (by decide)
  · obtain ⟨carried, _, parent, _, found, resolved, granted, _, same⟩ := validateMandateGrant_eq_ok valid
    rw [same] at projected
    cases projected
    refine ⟨canonicalize_member admitted.valid found, ?_⟩
    obtain ⟨grantor, signed, isGrantor, ⟨root, parentless⟩ | ⟨delegated, parentRef, names⟩⟩ :=
      verifyGrant_eq_ok granted
    · exact .root ⟨grantor, root, signed, isGrantor⟩ parentless
    · unfold grantParent at resolved
      rw [delegated, names] at resolved
      simp only [bind_eq_ok, okOr_eq_ok] at resolved
      obtain ⟨value, held, _⟩ := resolved
      exact .delegated delegated parentRef names ⟨value, held⟩

/-- A grant projects nothing besides the mandate. -/
theorem Admitted.mandate_alone {raw : Octets} {receivedAt id : String} {plan : AppendPlan}
    {subjectKey : KeyId} {payloads : List Value} {mandate : Value}
    (admitted : Admitted ext config store raw receivedAt plan subjectKey payloads)
    (projected : plan.projections.mandate = some (id, mandate)) :
    plan.projections.revocation = none ∧ plan.projections.retireRoot = none := by
  rcases admitted.rule.ceremony.grants projected with valid | ⟨policy, valid⟩
  · obtain ⟨_, _, _, _, _, _, same⟩ := validateGenesisMandate_eq_ok valid
    rw [same]
    exact ⟨rfl, rfl⟩
  · obtain ⟨_, _, _, _, _, _, _, _, same⟩ := validateMandateGrant_eq_ok valid
    rw [same]
    exact ⟨rfl, rfl⟩

/-- A plan that changes the set of roots. -/
def ChangesRoots (projections : Projections) : Prop :=
  projections.enrollRoot ≠ none ∨ projections.retireRoot ≠ none

theorem projectPolicy_roots {env : Value} {payloads : List Value} {plan next : AppendPlan}
    (valid : projectPolicy ext config store env payloads plan = .ok next) :
    next.projections.enrollRoot = plan.projections.enrollRoot ∧
      next.projections.retireRoot = plan.projections.retireRoot := by
  unfold projectPolicy at valid
  split at valid
  · obtain ⟨_, _, _, _, _, _, _, _, rfl⟩ := validatePolicyChange_eq_ok valid
    exact ⟨rfl, rfl⟩
  · cases valid
    exact ⟨rfl, rfl⟩

/-- Only a root signs an effect that changes the set of roots. -/
theorem validateEffectKind_roots {env : Value} {policy : Policy} {roots : List KeyId}
    {subjectKey : KeyId} {payloads : List Value} {plan next : AppendPlan}
    (valid : validateEffectKind ext config store env policy roots subjectKey plan payloads = .ok next)
    (unchanged : ¬ ChangesRoots plan.projections) (changes : ChangesRoots next.projections) :
    subjectKey ∈ roots := by
  obtain ⟨_, _, _, _, start, projected, gated, _, _, _, _, begins, _, projects, gate, collected⟩ :=
    validateEffectKind_eq_ok valid
  rw [(collectPayloads_same collected).2.1, (gateEffect_eq_ok gate).2.1] at changes
  obtain ⟨changed, acted, change, acts, rfl⟩ := projectEffect_eq_ok projects
  have first := projectPolicy_roots change
  rw [begins] at first
  have before : ¬ ChangesRoots changed.projections := by
    unfold ChangesRoots at unchanged ⊢
    rwa [first.1, first.2]
  have after : ChangesRoots acted.projections := by
    split at changes
    · simp [ChangesRoots, clearPrivileged] at changes
    · exact changes
  cases acts with
  | registers action valid =>
      obtain ⟨_, _, _, _, _, _, _, rfl⟩ := validateRegistration_eq_ok valid
      exact absurd after before
  | changesRoots action valid => exact (validateRootChange_eq_ok valid).1
  | resumes resume action valid => exact absurd after before
  | nothing => exact absurd after before

theorem Admitted.changesRoots {raw : Octets} {receivedAt : String} {plan : AppendPlan}
    {subjectKey : KeyId} {payloads : List Value}
    (admitted : Admitted ext config store raw receivedAt plan subjectKey payloads)
    (changes : ChangesRoots plan.projections) :
    subjectKey ∈ rootKeysAt store (emittedAt plan.envelope) := by
  have start : ¬ ChangesRoots (planOf plan).projections := by
    simp [ChangesRoots, planOf, initialPlan, Projections.none]
  cases admitted.rule with
  | genesis unpublished valid =>
      exfalso
      rcases validateGenesis_cases valid with ⟨_, ⟨_, _, valid⟩ | ⟨_, _, valid⟩⟩
      · obtain ⟨_, _, _, _, _, _, same⟩ := validateGenesisMandate_eq_ok valid
        rw [same] at changes
        exact start changes
      · obtain ⟨changed, _, _, change, _, same⟩ := validateGenesisPolicy_eq_ok valid
        obtain ⟨_, _, _, _, _, _, _, _, rfl⟩ := validatePolicyChange_eq_ok change
        rw [same] at changes
        exact start changes
  | inForce policy published admits unauthorized =>
      cases admits with
      | effect kind valid => exact validateEffectKind_roots valid start changes
      | cognition kind valid =>
          obtain ⟨_, _, _, _, _, same, _⟩ := validateCognition_eq_ok valid
          exact absurd (same ▸ changes) start
      | signal kind valid => exact absurd ((collectPayloads_same valid).2.1 ▸ changes) start
      | mandate kind valid =>
          obtain ⟨_, _, _, _, _, _, _, _, same⟩ := validateMandateGrant_eq_ok valid
          rw [same] at changes
          exact absurd changes start
      | revocation kind valid =>
          obtain ⟨_, _, _, _, _, _, _, _, _, _, same⟩ := validateRevocation_eq_ok valid
          rw [same] at changes
          exact absurd changes start
      | gateDecision kind valid =>
          obtain ⟨_, same⟩ := validateGateDecision_eq_ok valid
          rw [same] at changes
          exact absurd changes start
      | checkpoint kind valid =>
          obtain ⟨_, _, _, _, _, _, _, _, same⟩ := validateCheckpoint_eq_ok valid
          rw [same] at changes
          exact absurd changes start

end Ingest

namespace World

variable {world : World}

/-- A delegated mandate whose holder is named as a human. -/
def DelegatesToHuman (taken : Accepted) : Prop :=
  ∃ id mandate subject, taken.plan.projections.mandate = some (id, mandate) ∧
    mandate.getStr "mandate-kind" = some "delegated" ∧
    (mandate.index "grantee").getStr "subject" = some subject ∧ startsWith subject "human:" = true

/-- A mandate on record, with the accepted envelope that granted it. -/
theorem mandateRow_taken (reached : (kernel ext config).Reachable world) :
    ∀ row ∈ world.store.mandates, ∃ taken ∈ world.accepted, ∃ mandate,
      row.WrittenBy taken.plan mandate := by
  refine World.invariant ext config (fun world =>
    ∀ row ∈ world.store.mandates, ∃ taken ∈ world.accepted, ∃ mandate,
      row.WrittenBy taken.plan mandate) (by intro row member; cases member) ?_ reached
  intro world _ next known holds step row member
  have grows := step.accepted_grows
  have earlier : row ∈ world.store.mandates →
      ∃ taken ∈ next.accepted, ∃ mandate, row.WrittenBy taken.plan mandate := by
    intro before
    obtain ⟨taken, inside, written⟩ := holds row before
    exact ⟨taken, grows.subset inside, written⟩
  cases step with
  | quiet store accepted tasks =>
      rw [store.envelopes.2.2.2.2.2.2.1] at member
      exact earlier member
  | appends request snapshot validated waiting fresh store accepted tasks =>
      obtain ⟨rows, mandates, written, _⟩ := store.mandates
      rw [mandates] at member
      rcases List.mem_append.mp member with before | new
      · exact earlier before
      · exact ⟨_, accepted ▸ List.mem_append_right _ List.mem_cons_self, written row new⟩

/-- A stored mandate was carried by an accepted envelope. -/
theorem mandate_taken (reached : (kernel ext config).Reachable world) {id : String} {mandate : Value}
    (found : world.store.mandate id = some mandate) :
    ∃ taken ∈ world.accepted, ∃ name, taken.plan.projections.mandate = some (name, mandate) := by
  obtain ⟨row, held, isDocument⟩ := Option.map_eq_some_iff.mp found
  obtain ⟨taken, inside, object, written⟩ := mandateRow_taken reached row (List.mem_of_find?_eq_some held)
  obtain ⟨before, after, at_⟩ := (traced reached).accepted taken inside
  obtain ⟨subjectKey, payloads, admitted⟩ := at_.origin.admitted
  obtain ⟨canonical, _⟩ := admitted.grants written.projected
  have document := written.document
  rw [canonical] at document
  have same : mandate = object := by
    rw [← isDocument, ← Except.ok.inj document]
  subst same
  exact ⟨taken, inside, row.mandateId, written.projected⟩

/-- Where the key of an approver that is no root comes from: a mandate for a listed human, which an
enrolled root granted. -/
def GrantedByRoot (ext : External) (world : World) (subjects : List String) (key : KeyId) : Prop :=
  ∃ taken ∈ world.accepted, ∃ id mandate, ∃ subject ∈ subjects,
    taken.plan.projections.mandate = some (id, mandate) ∧ startsWith subject "human:" = true ∧
    (mandate.index "grantee").getStr "subject" = some subject ∧
    Mandate.keyAt mandate "grantee" = .ok key ∧
    RootGranted ext taken.snapshot (emittedAt taken.plan.envelope) mandate

theorem holder_grantedByRoot (reached : (kernel ext config).Reachable world)
    (mints : ∀ taken ∈ world.accepted, ¬ DelegatesToHuman taken) {subjects : List String}
    {at_ action subject : String} {mandate : Value} {key : KeyId}
    (holds : Holds world.store subjects at_ action subject mandate key) :
    GrantedByRoot ext world subjects key := by
  obtain ⟨row, stored, rfl⟩ := List.mem_map.mp holds.stored
  obtain ⟨member, live⟩ := List.mem_filter.mp stored
  rw [Bool.and_eq_true, beq_iff_eq] at live
  obtain ⟨taken, inside, object, written⟩ := mandateRow_taken reached row member
  obtain ⟨before, after, at_⟩ := (traced reached).accepted taken inside
  obtain ⟨subjectKey, payloads, admitted⟩ := at_.origin.admitted
  obtain ⟨canonical, granted⟩ := admitted.grants written.projected
  have document := written.document
  rw [canonical] at document
  have tree : row.documentJson.tree = object :=
    (congrArg Jcs.Canonical.tree (Except.ok.inj document)).symm
  have named : (object.index "grantee").getStr "subject" = some subject := by
    rw [written.subject, live.1]
  refine ⟨taken, inside, row.mandateId, object, subject, holds.listed, written.projected, holds.human, named,
    tree ▸ holderKey_eq_some.mp holds.key, ?_⟩
  cases granted with
  | root granted parentless => exact granted
  | delegated kind parentRef names stored =>
      exact absurd ⟨row.mandateId, object, subject, written.projected, kind, named, holds.human⟩
        (mints taken inside)

/-- A step without a root's hand in it: no configured root is seeded, and what it takes was signed by
keys that were never enrolled. -/
structure Rootless (ext : External) (config : Config) (world : World) (action : Action) : Prop where
  unseeded : ∀ rootKey subject enrolledAt, action ≠ .seed rootKey subject enrolledAt
  envelope : ∀ taken key, (step ext config world action).accepted = world.accepted ++ [taken] →
    Signed.verifySignedObject ext taken.plan.envelope = .ok key →
    ∀ row ∈ world.store.roots, row.rootKey ≠ key
  mandate : ∀ taken id mandate key, (step ext config world action).accepted = world.accepted ++ [taken] →
    taken.plan.projections.mandate = some (id, mandate) →
    Signed.verifySignedObject ext mandate = .ok key → ∀ row ∈ world.store.roots, row.rootKey ≠ key

theorem mem_rootKeysAt {store : Store} {at_ : String} {key : KeyId} :
    key ∈ rootKeysAt store at_ ↔ ∃ row ∈ store.roots, row.rootKey = key ∧ Store.enrolledAt at_ row = true := by
  unfold rootKeysAt Store.rootsAt
  simp only [List.mem_map, List.mem_insertionSort, List.mem_filter]
  constructor
  · intro member
    obtain ⟨_, ⟨row, ⟨held, enrolled⟩, rfl⟩, rfl⟩ := member
    exact ⟨row, held, rfl, enrolled⟩
  · intro member
    obtain ⟨row, held, rfl, enrolled⟩ := member
    exact ⟨_, ⟨row, ⟨held, enrolled⟩, rfl⟩, rfl⟩

/-- A step that takes nothing and seeds nothing leaves the roots alone. -/
theorem roots_of_unseeded {action : Action}
    (unseeded : ∀ rootKey subject enrolledAt, action ≠ .seed rootKey subject enrolledAt)
    (same : (step ext config world action).accepted = world.accepted) :
    (step ext config world action).store.roots = world.store.roots := by
  cases step_cases ext config world action with
  | quiet store accepted tasks roots => exact roots unseeded
  | appends request snapshot validated waiting fresh store accepted =>
      have longer := congrArg List.length (same.symm.trans accepted)
      simp at longer

/-- A step that takes no delegated mandate for a human. -/
def MintsNone (ext : External) (config : Config) (world : World) (action : Action) : Prop :=
  ∀ taken, (step ext config world action).accepted = world.accepted ++ [taken] →
    ¬ DelegatesToHuman taken

theorem mintsNone_run (actions : List Action)
    (mints : ∀ before action after, actions = before ++ action :: after →
      MintsNone ext config ((kernel ext config).run World.initial before) action) :
    ∀ taken ∈ ((kernel ext config).run World.initial actions).accepted, ¬ DelegatesToHuman taken := by
  refine (kernel ext config).run_invariant_of
    (fun world => ∀ taken ∈ world.accepted, ¬ DelegatesToHuman taken) ?_ (by intro taken member; cases member) actions mints
  intro world action none holds taken member
  cases step_cases ext config world action with
  | quiet store accepted tasks => exact holds taken (accepted ▸ member)
  | appends request snapshot validated waiting fresh store accepted tasks =>
      have here : taken ∈ world.accepted ++ [_] := accepted ▸ member
      rcases List.mem_append.mp here with before | new
      · exact holds taken before
      · rw [List.mem_singleton] at new
        exact new ▸ none _ accepted

/-- What of an earlier state a run without roots keeps. -/
structure Unrooted (ext : External) (config : Config) (before world : World) : Prop where
  reachable : (kernel ext config).Reachable world
  roots : world.store.roots = before.store.roots
  mandates : ∀ row ∈ world.store.mandates, startsWith row.granteeSubject "human:" = true →
    row ∈ before.store.mandates

theorem Unrooted.step {before : World} {action : Action} (unrooted : Unrooted ext config before world)
    (rootless : Rootless ext config world action) (mints : MintsNone ext config world action) :
    Unrooted ext config before (World.step ext config world action) := by
  have reachable := unrooted.reachable.step action
  cases step_cases ext config world action with
  | quiet store accepted tasks =>
      refine ⟨reachable, (roots_of_unseeded rootless.unseeded accepted).trans unrooted.roots, ?_⟩
      rw [store.envelopes.2.2.2.2.2.2.1]
      exact unrooted.mandates
  | appends request snapshot validated waiting fresh store accepted tasks =>
      have origin := (traced unrooted.reachable).tasks _ _ _ waiting
      obtain ⟨subjectKey, payloads, admitted⟩ := origin.admitted
      have enrolled : ∀ {key at_}, key ∈ rootKeysAt snapshot at_ →
          ∃ row ∈ world.store.roots, row.rootKey = key := by
        intro key at_ member
        obtain ⟨row, held, isKey, _⟩ := mem_rootKeysAt.mp member
        obtain ⟨later, kept, same, _⟩ := origin.seen.roots row held
        exact ⟨later, kept, same.trans isKey⟩
      refine ⟨reachable, ?_, ?_⟩
      · have unchanged : ¬ ChangesRoots validated.plan.projections := by
          intro changes
          obtain ⟨row, held, isKey⟩ := enrolled (admitted.changesRoots changes)
          exact rootless.envelope _ subjectKey accepted admitted.signed row held isKey
        obtain ⟨rows, retire, roots, written, _, _, kept⟩ := store.roots
        have none : rows = [] := by
          rw [List.eq_nil_iff_forall_not_mem]
          intro row member
          exact unchanged (Or.inl (by simp [(written row member).projected]))
        have same := kept (by
          by_contra retires
          exact unchanged (Or.inr retires))
        rw [roots, none, List.append_nil, List.map_congr_left (fun row _ => same row), List.map_id',
          unrooted.roots]
      · intro row member human
        obtain ⟨rows, mandates, written, _⟩ := store.mandates
        rw [mandates] at member
        rcases List.mem_append.mp member with earlier | new
        · exact unrooted.mandates row earlier human
        · exfalso
          obtain ⟨mandate, by_⟩ := written row new
          cases (admitted.grants by_.projected).2 with
          | root granted parentless =>
              obtain ⟨root, isRoot, signed, _⟩ := granted
              obtain ⟨other, held, isKey⟩ := enrolled isRoot
              exact rootless.mandate _ _ mandate root accepted by_.projected signed other held isKey
          | delegated kind parentRef names stored =>
              exact mints _ accepted ⟨row.mandateId, mandate, row.granteeSubject, by_.projected, kind,
                by_.subject, human⟩

/-- Wherever no delegated mandate was taken for a human, an approver is a root or holds what a root
granted, and a run without a root's hand in it adds none. -/
theorem approvers_from_roots (first rest : List Action)
    (mints : ∀ before action after, first ++ rest = before ++ action :: after →
      MintsNone ext config ((kernel ext config).run World.initial before) action) :
    let held := (kernel ext config).run World.initial first
    let world := (kernel ext config).run held rest
    (∀ subjects at_ action, ∀ approver ∈ approverKeys world.store subjects at_ action,
      approver.key ∈ rootKeysAt world.store at_ ∨ GrantedByRoot ext world subjects approver.key) ∧
      ((∀ before action after, rest = before ++ action :: after →
          Rootless ext config ((kernel ext config).run held before) action) →
        ∀ subjects at_ action, ∀ approver ∈ approverKeys world.store subjects at_ action,
          ∃ known ∈ approverKeys held.store subjects at_ action, known.key = approver.key) := by
  have whole : (kernel ext config).run World.initial (first ++ rest) =
      (kernel ext config).run ((kernel ext config).run World.initial first) rest :=
    System.run_append _ _ _ _
  have reached : (kernel ext config).Reachable ((kernel ext config).run World.initial (first ++ rest)) :=
    ⟨World.initial, first ++ rest, rfl, rfl⟩
  have human := mintsNone_run (first ++ rest) mints
  rw [whole] at reached human
  dsimp only
  refine ⟨?_, ?_⟩
  · intro subjects at_ action approver member
    rcases approverKeys_iff.mp ⟨approver, member, rfl⟩ with ⟨subject, _, root⟩ | ⟨subject, mandate, holds⟩
    · exact Or.inl (List.mem_map.mpr ⟨_, root, rfl⟩)
    · exact Or.inr (holder_grantedByRoot reached human holds)
  · intro rootless subjects at_ action approver member
    have start : Unrooted ext config ((kernel ext config).run World.initial first)
        ((kernel ext config).run World.initial first) :=
      ⟨⟨World.initial, first, rfl, rfl⟩, rfl, fun _ held _ => held⟩
    have unrooted := (kernel ext config).run_invariant_of
      (Unrooted ext config ((kernel ext config).run World.initial first))
      (fun _ _ (allowed : Rootless ext config _ _ ∧ MintsNone ext config _ _) known =>
        known.step allowed.1 allowed.2) start rest ?_
    · refine approverKeys_iff.mpr ?_
      rcases approverKeys_iff.mp ⟨approver, member, rfl⟩ with ⟨subject, listed, root⟩ | ⟨subject, mandate, holds⟩
      · refine Or.inl ⟨subject, listed, ?_⟩
        unfold Store.rootsAt at root ⊢
        rwa [unrooted.roots] at root
      · obtain ⟨row, stored, rfl⟩ := List.mem_map.mp holds.stored
        obtain ⟨inside, live⟩ := List.mem_filter.mp stored
        have named := live
        rw [Bool.and_eq_true, beq_iff_eq] at named
        have earlier := unrooted.mandates row inside (by rw [named.1]; exact holds.human)
        exact Or.inr ⟨subject, row.documentJson.tree, holds.listed, holds.human,
          List.mem_map.mpr ⟨row, List.mem_filter.mpr ⟨earlier, live⟩, rfl⟩, holds.covers, holds.key⟩
    · intro before action after split
      refine ⟨rootless before action after split, ?_⟩
      rw [← System.run_append]
      refine mints (first ++ before) action after ?_
      rw [split, List.append_assoc]

end World

end Stozher

namespace Stozher.Deployment

open Library Ingest World

/-- Every mandate of the founding run is a root's own. -/
theorem founding_mints (before : List Action) (action : Action) (later : List Action)
    (split : founding ++ [] = before ++ action :: later) :
    MintsNone ext config ((kernel ext config).run World.initial before) action := by
  rw [run_initial]
  intro taken grown delegates
  obtain ⟨id, mandate, subject, projected, kind, _⟩ := delegates
  rw [List.append_nil] at split
  have granted := grant_seen (taken_in_run split grown) projected
  have seen := congrArg Observed.founders observed_eq
  dsimp only [observed] at seen
  rw [seen, List.mem_singleton] at granted
  have same := congrArg Granted.kind granted
  dsimp only [opsGranted] at same
  rw [kind] at same
  exact absurd same (by decide)

theorem founding_approvers :
    (kernel ext config).Reachable (after founding) ∧
      ∀ subjects at_ action, ∀ approver ∈ approverKeys (after founding).store subjects at_ action,
        approver.key ∈ rootKeysAt (after founding).store at_ ∨
          GrantedByRoot ext (after founding) subjects approver.key := by
  have held := (approvers_from_roots founding [] founding_mints).1
  rw [System.run_nil, run_initial] at held
  exact ⟨reachable _, held⟩

/-- An agent delegates to a key of its own choice under a listed human's name, and the key approves. -/
theorem agent_names_approver :
    (kernel ext config).Reachable (after delegating) ∧
      ∃ approver ∈ approverKeys (after delegating).store ["human:ana"] halfPast "kernel.note",
        approver.key ∉ rootKeysAt (after delegating).store halfPast ∧
          ¬ GrantedByRoot ext (after delegating) ["human:ana"] approver.key := by
  have seen := congrArg Observed.minted observed_eq
  dsimp only [observed] at seen
  refine ⟨reachable _, strangerApproves, ?_, ?_, ?_⟩
  · have approvers := congrArg KeysSeen.approvers seen
    dsimp only [keysSeen] at approvers
    rw [approvers]
    decide +kernel
  · have enrolled := congrArg KeysSeen.roots seen
    dsimp only [keysSeen] at enrolled
    unfold rootKeysAt
    rw [enrolled]
    decide +kernel
  · intro granted
    obtain ⟨taken, member, id, mandate, subject, _, projected, _, _, holder, root, enrolled, _, grantor⟩ :=
      granted
    have found := grant_seen member projected
    rw [seen, holder, grantor] at found
    generalize rootKeysAt taken.snapshot (emittedAt taken.plan.envelope) = roots at enrolled found
    have counted : ∀ entry ∈ [opsGranted, anaGranted, mintedGranted, adoptedGranted],
        entry.holder = some strangerId → ∀ root ∈ entry.roots, entry.grantor ≠ some root := by
      decide +kernel
    exact counted _ found rfl root enrolled rfl

end Stozher.Deployment
