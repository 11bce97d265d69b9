import Stozher.AncestryWalk
import Stozher.Deployment

namespace Stozher

open Library Ingest

variable {ext : External} {config : Config}

namespace Store

variable {store later : Store} {at_ : String}

/-- The stored mandates above a mandate, up to the one a root granted, and the key of that root. -/
structure Lineage (store : Store) (id : String) (above : List String) (root : KeyId) : Prop where
  ascends : Ascends store.parentOf (id :: above)
  stored : ∀ link ∈ id :: above, ∃ mandate, store.mandate link = some mandate
  granted : ∃ top mandate, (id :: above).getLast? = some top ∧ store.mandate top = some mandate ∧
    Mandate.keyAt mandate "grantor" = .ok root

/-- No revocation of the mandate is on record that is effective at the instant. -/
def UnrevokedAt (store : Store) (at_ id : String) : Prop :=
  ∀ row ∈ store.revocations, row.revokes = id → at_ < row.revokedAt

/-- A mandate whose line is unrevoked at an instant and ends at a root enrolled then. -/
def Upheld (store : Store) (at_ id : String) : Prop :=
  ∃ above root, store.Lineage id above root ∧ (∀ link ∈ id :: above, store.UnrevokedAt at_ link) ∧
    root ∈ rootKeysAt store at_

/-- A mandate that makes a human an approver at an instant. -/
structure Confers (at_ : String) (row : MandateRow) : Prop where
  human : Text.startsWith row.granteeSubject "human:" = true
  live : liveAt at_ row = true

theorem Lineage.grows {id : String} {above : List String} {root : KeyId}
    (lineage : store.Lineage id above root) (grows : store.Grows later) : later.Lineage id above root := by
  obtain ⟨top, mandate, last, found, grantor⟩ := lineage.granted
  refine ⟨lineage.ascends.congr ?_, ?_, top, mandate, last, mandate_grows grows found, grantor⟩
  · intro link member
    obtain ⟨value, held⟩ := lineage.stored link member
    exact parentOf_grows grows held
  · intro link member
    obtain ⟨value, held⟩ := lineage.stored link member
    exact ⟨value, mandate_grows grows held⟩

/-- A mandate stored beneath another continues its line. -/
theorem Lineage.cons {id parent : String} {mandate : Value} {above : List String} {root : KeyId}
    (lineage : store.Lineage parent above root) (found : store.mandate id = some mandate)
    (names : mandate.getStr "parent" = some parent) : store.Lineage id (parent :: above) root := by
  obtain ⟨top, value, last, held, grantor⟩ := lineage.granted
  refine ⟨⟨?_, lineage.ascends⟩, ?_, top, value, ?_, held, grantor⟩
  · unfold parentOf
    rw [found, Option.bind_some, names]
  · intro link member
    rcases List.mem_cons.mp member with same | further
    · exact ⟨mandate, same ▸ found⟩
    · exact lineage.stored link further
  · rw [List.getLast?_cons_cons]
    exact last

theorem Lineage.single {id : String} {mandate : Value} {root : KeyId}
    (found : store.mandate id = some mandate) (parentless : mandate.getStr "parent" = none)
    (grantor : Mandate.keyAt mandate "grantor" = .ok root) : store.Lineage id [] root := by
  refine ⟨?_, ?_, id, mandate, rfl, found, grantor⟩
  · show store.parentOf id = none
    unfold parentOf
    rw [found, Option.bind_some, parentless]
  · intro link member
    rw [List.mem_singleton] at member
    exact ⟨mandate, member ▸ found⟩

/-- What a change may do to the line of a mandate that stays upheld. -/
structure Spares (store later : Store) (at_ id : String) : Prop where
  revocations : ∀ row ∈ later.revocations, row ∈ store.revocations ∨ at_ < row.revokedAt ∨
    ¬ store.Beneath id row.revokes
  roots : ∀ above root, store.Lineage id above root → root ∈ rootKeysAt store at_ →
    root ∈ rootKeysAt later at_

theorem Upheld.spared {id : String} (upheld : store.Upheld at_ id) (grows : store.Grows later)
    (spares : store.Spares later at_ id) : later.Upheld at_ id := by
  obtain ⟨above, root, lineage, unrevoked, enrolled⟩ := upheld
  refine ⟨above, root, lineage.grows grows, ?_, spares.roots above root lineage enrolled⟩
  intro link member row recorded revokes
  rcases spares.revocations row recorded with earlier | after | other
  · exact unrevoked link member row earlier revokes
  · exact after
  · rw [revokes] at other
    exact absurd (lineage.ascends.above_of_mem member) other

/-- Every stored mandate has its line, and the ones that make approvers are upheld. -/
structure Lineal (store : Store) (at_ : String) : Prop where
  lines : ∀ row ∈ store.mandates, ∃ above root, store.Lineage row.mandateId above root
  upheld : ∀ row ∈ store.mandates, Confers at_ row → store.Upheld at_ row.mandateId

theorem Quiet.roots_subset {next : Store} (quiet : Quiet ext config store next) :
    ∀ row ∈ store.roots, row ∈ next.roots := by
  intro row member
  cases quiet with
  | same => exact member
  | rejected input record next recorded =>
      obtain ⟨new, rfl, _⟩ := recordRejection_eq_ok recorded
      exact member
  | parked rows => exact member
  | decayed now => exact member
  | seeded rootKey subject enrolledAt =>
      unfold seedConfiguredRoot
      split
      · exact member
      · exact List.mem_append_left _ member

theorem mem_mandates_of_mandate {id : String} {mandate : Value} (found : store.mandate id = some mandate) :
    ∃ row ∈ store.mandates, row.mandateId = id := by
  obtain ⟨row, held, _⟩ := Option.map_eq_some_iff.mp found
  have same := List.find?_some held
  rw [beq_iff_eq] at same
  exact ⟨row, List.mem_of_find?_eq_some held, same⟩

/-- A mandate an append adds is found under its id. -/
theorem mandate_of_new {next : Store} {row : MandateRow}
    (mandates : next.mandates = store.mandates ++ [row])
    (unheld : store.mandateRow row.mandateId = none) :
    next.mandate row.mandateId = some row.documentJson.tree := by
  unfold mandateRow at unheld
  unfold mandate mandateRow
  rw [mandates, List.find?_append, unheld, Option.none_or, List.find?_cons_of_pos (by simp), Option.map_some]

end Store

namespace World

variable {world : World} {at_ : String}

/-- A step that leaves the mandates of human approvers upheld at an instant: it revokes nothing at or
above one of them, and retires no root that granted one, with effect by then; and what it grants a human
stands beneath nothing revoked by then and under a root enrolled then. -/
structure Sustains (ext : External) (config : Config) (at_ : String) (world : World) (action : Action) :
    Prop where
  revocation : ∀ taken id object target revokedAt,
    (step ext config world action).accepted = world.accepted ++ [taken] →
    taken.plan.projections.revocation = some (id, object) → object.getStr "revokes" = some target →
    object.getStr "revoked-at" = some revokedAt → revokedAt ≤ at_ →
    ∀ row ∈ world.store.mandates, Store.Confers at_ row → ¬ world.store.Beneath row.mandateId target
  retirement : ∀ taken key, (step ext config world action).accepted = world.accepted ++ [taken] →
    taken.plan.projections.retireRoot = some key → emittedAt taken.plan.envelope ≤ at_ →
    ∀ row ∈ world.store.mandates, Store.Confers at_ row →
      ∀ above, ¬ world.store.Lineage row.mandateId above key
  grant : ∀ taken row mandate, (step ext config world action).accepted = world.accepted ++ [taken] →
    row.WrittenBy taken.plan mandate → Store.Confers at_ row →
    world.store.mandateRow row.mandateId = none →
    world.store.UnrevokedAt at_ row.mandateId ∧
      (mandate.getStr "parent" = none →
        ∀ key, Mandate.keyAt mandate "grantor" = .ok key → key ∈ rootKeysAt world.store at_) ∧
      ∀ parent, mandate.getStr "parent" = some parent → world.store.Upheld at_ parent

theorem lineal_of_quiet {next : World} (lineal : world.store.Lineal at_)
    (store : Store.Quiet ext config world.store next.store) : next.store.Lineal at_ := by
  have grows := store.grows
  have mandates := store.envelopes.2.2.2.2.2.2.1
  have revocations := store.envelopes.2.2.2.2.2.2.2.1
  have spares : ∀ id, world.store.Spares next.store at_ id := by
    intro id
    refine ⟨?_, ?_⟩
    · intro row member
      exact Or.inl (revocations ▸ member)
    · intro above root lineage enrolled
      obtain ⟨row, held, isKey, live⟩ := mem_rootKeysAt.mp enrolled
      exact mem_rootKeysAt.mpr ⟨row, store.roots_subset row held, isKey, live⟩
  refine ⟨?_, ?_⟩
  · intro row member
    rw [mandates] at member
    obtain ⟨above, root, lineage⟩ := lineal.lines row member
    exact ⟨above, root, lineage.grows grows⟩
  · intro row member confers
    rw [mandates] at member
    exact (lineal.upheld row member confers).spared grows (spares row.mandateId)

/-- A root stays enrolled at an instant where an append does not retire it by then. -/
theorem rootKeysAt_of_append {plan : AppendPlan} {next : Store}
    (appends : Store.Appends world.store plan next) {root : KeyId}
    (enrolled : root ∈ rootKeysAt world.store at_)
    (unretired : plan.projections.retireRoot = some root → at_ < emittedAt plan.envelope) :
    root ∈ rootKeysAt next at_ := by
  obtain ⟨row, held, isKey, live⟩ := mem_rootKeysAt.mp enrolled
  obtain ⟨rows, retire, roots, _, keeps, changes, _⟩ := appends.roots
  have kept : retire row ∈ next.roots := by
    rw [roots]
    exact List.mem_map_of_mem (List.mem_append_left _ held)
  refine mem_rootKeysAt.mpr ⟨retire row, kept, (keeps row).1.trans isKey, ?_⟩
  rcases changes row with same | ⟨retires, instant⟩
  · rw [same]
    exact live
  · rw [isKey] at retires
    have later := unretired retires
    unfold Store.enrolledAt at live ⊢
    rw [Bool.and_eq_true] at live ⊢
    rw [(keeps row).2.2, instant]
    refine ⟨live.1, ?_⟩
    unfold emittedAt at later
    cases emitted : plan.envelope.getStr "emitted-at" with
    | none => rfl
    | some text =>
        rw [emitted, Option.getD_some] at later
        exact decide_eq_true later

/-- What an append spares of a line it neither revokes nor retires the root of. -/
theorem spares_of_append {plan : AppendPlan} {next : Store} {id : String}
    (appends : Store.Appends world.store plan next)
    (revocation : ∀ (row : RevocationRow) object, row.WrittenBy plan object → row.revokedAt ≤ at_ →
      ¬ world.store.Beneath id row.revokes)
    (retirement : ∀ key, plan.projections.retireRoot = some key → emittedAt plan.envelope ≤ at_ →
      ∀ above, ¬ world.store.Lineage id above key) : world.store.Spares next at_ id := by
  refine ⟨?_, ?_⟩
  · intro row member
    obtain ⟨rows, revocations, written, _⟩ := appends.revocations
    rw [revocations] at member
    rcases List.mem_append.mp member with earlier | new
    · exact Or.inl earlier
    · obtain ⟨object, by_⟩ := written row new
      by_cases effective : row.revokedAt ≤ at_
      · exact Or.inr (Or.inr (revocation row object by_ effective))
      · exact Or.inr (Or.inl (not_le.mp effective))
  · intro above root lineage enrolled
    apply rootKeysAt_of_append appends enrolled
    intro retires
    by_contra effective
    exact retirement root retires (not_lt.mp effective) above lineage

/-- What a granted mandate stands beneath: nothing, or a stored mandate. -/
theorem stands_beneath {request : Submission} {snapshot : Store} {plan : AppendPlan}
    (origin : Origin ext config world request snapshot plan) {row : MandateRow} {mandate : Value}
    (written : row.WrittenBy plan mandate) :
    row.documentJson.tree = mandate ∧
      ((mandate.getStr "parent" = none ∧ ∃ root, Mandate.keyAt mandate "grantor" = .ok root) ∨
        ∃ parent, mandate.getStr "parent" = some parent ∧
          ∃ held ∈ world.store.mandates, held.mandateId = parent) := by
  obtain ⟨subjectKey, payloads, admitted⟩ := origin.admitted
  obtain ⟨canonical, granted⟩ := admitted.grants written.projected
  have document := written.document
  rw [canonical] at document
  refine ⟨(congrArg Jcs.Canonical.tree (Except.ok.inj document)).symm, ?_⟩
  cases granted with
  | root granted parentless =>
      obtain ⟨root, _, _, grantor⟩ := granted
      exact Or.inl ⟨parentless, root, grantor⟩
  | delegated kind parentRef names stored =>
      obtain ⟨parent, held⟩ := stored
      exact Or.inr ⟨parentRef, names,
        Store.mem_mandates_of_mandate (Store.mandate_grows origin.seen held)⟩

/-- What an append that sustains the mandates of human approvers keeps. -/
theorem lineal_of_append {request : Submission} {snapshot : Store} {plan : AppendPlan} {action : Action}
    (lineal : world.store.Lineal at_) (origin : Origin ext config world request snapshot plan)
    {next : Store} (appends : Store.Appends world.store plan next)
    (sustains : Sustains ext config at_ world action)
    (accepted : (step ext config world action).accepted = world.accepted ++
      [({ request, snapshot, plan } : Accepted)]) :
    next.Lineal at_ := by
  have grows := appends.grows
  obtain ⟨rows, mandates, written, single⟩ := appends.mandates
  obtain ⟨subjectKey, payloads, admitted⟩ := origin.admitted
  have spares : ∀ row ∈ world.store.mandates, Store.Confers at_ row →
      world.store.Spares next at_ row.mandateId := by
    intro row member confers
    apply spares_of_append appends
    · intro revoked object by_ effective
      exact sustains.revocation _ _ _ _ _ accepted by_.projected by_.revokes by_.revokedAt effective row member
        confers
    · intro key retires effective
      exact sustains.retirement _ key accepted retires effective row member confers
  -- a grant changes no revocation and no root
  have untouched : ∀ row ∈ rows, ∀ id, world.store.Spares next at_ id := by
    intro row new id
    obtain ⟨mandate, by_⟩ := written row new
    obtain ⟨unrevoking, unretiring⟩ := admitted.mandate_alone by_.projected
    apply spares_of_append appends
    · intro revoked object revokes _
      rw [revokes.projected] at unrevoking
      cases unrevoking
    · intro key retires _
      rw [retires] at unretiring
      cases unretiring
  refine ⟨?_, ?_⟩
  · intro row member
    rw [mandates] at member
    rcases List.mem_append.mp member with earlier | new
    · obtain ⟨above, root, lineage⟩ := lineal.lines row earlier
      exact ⟨above, root, lineage.grows grows⟩
    · obtain ⟨mandate, by_⟩ := written row new
      obtain ⟨one, unheld⟩ := single row new
      obtain ⟨tree, beneath⟩ := stands_beneath origin by_
      have found := Store.mandate_of_new (one ▸ mandates) unheld
      rw [tree] at found
      rcases beneath with ⟨parentless, root, grantor⟩ | ⟨parent, names, held, stored, same⟩
      · exact ⟨[], root, .single found parentless grantor⟩
      · obtain ⟨above, root, lineage⟩ := lineal.lines held stored
        rw [same] at lineage
        exact ⟨parent :: above, root, (lineage.grows grows).cons found names⟩
  · intro row member confers
    rw [mandates] at member
    rcases List.mem_append.mp member with earlier | new
    · exact (lineal.upheld row earlier confers).spared grows (spares row earlier confers)
    · obtain ⟨mandate, by_⟩ := written row new
      obtain ⟨one, unheld⟩ := single row new
      obtain ⟨tree, beneath⟩ := stands_beneath origin by_
      have found := Store.mandate_of_new (one ▸ mandates) unheld
      rw [tree] at found
      obtain ⟨unrevoked, byRoot, byParent⟩ := sustains.grant _ row mandate accepted by_ confers unheld
      have here : next.UnrevokedAt at_ row.mandateId := by
        intro revoked recorded revokes
        rcases (untouched row new row.mandateId).revocations revoked recorded with before | after | other
        · exact unrevoked revoked before revokes
        · exact after
        · rw [revokes] at other
          exact absurd .refl other
      rcases beneath with ⟨parentless, root, grantor⟩ | ⟨parent, names, held, stored, same⟩
      · refine ⟨[], root, .single found parentless grantor, ?_, ?_⟩
        · intro link inside
          rw [List.mem_singleton] at inside
          exact inside ▸ here
        · apply rootKeysAt_of_append appends (byRoot parentless root grantor)
          intro retires
          rw [(admitted.mandate_alone by_.projected).2] at retires
          cases retires
      · obtain ⟨above, root, lineage, clear, enrolled⟩ :=
          (byParent parent names).spared grows (untouched row new parent)
        refine ⟨parent :: above, root, lineage.cons found names, ?_, enrolled⟩
        intro link inside
        rcases List.mem_cons.mp inside with first | further
        · exact first ▸ here
        · exact clear link further

theorem lineal_step {action : Action} (reached : (kernel ext config).Reachable world)
    (lineal : world.store.Lineal at_) (sustains : Sustains ext config at_ world action) :
    (step ext config world action).store.Lineal at_ := by
  cases step_cases ext config world action with
  | quiet store accepted tasks => exact lineal_of_quiet lineal store
  | appends request snapshot validated waiting fresh store accepted tasks =>
      exact lineal_of_append lineal ((traced reached).tasks _ _ _ waiting) store sustains accepted

end World

end Stozher

namespace Stozher.Deployment

open Library Ingest World

theorem founders_seen : keysSeen (after founding) = {
    roots := roots, granted := [opsGranted], revoked := [], approvers := [anaApproves] } := by
  have seen := congrArg Observed.founders observed_eq
  dsimp only [observed] at seen
  exact seen

theorem founding_sustains (before : List Action) (action : Action) (later : List Action)
    (split : founding = before ++ action :: later) :
    Sustains ext config halfPast ((kernel ext config).run World.initial before) action := by
  rw [run_initial]
  have revoked := congrArg KeysSeen.revoked founders_seen
  have retirements := congrArg Observed.retirements observed_eq
  dsimp only [keysSeen] at revoked
  dsimp only [observed] at retirements
  constructor
  · intro taken id object target revokedAt grown projected
    have inside := List.mem_filterMap.mpr ⟨taken, taken_in_run split grown,
      show Deployment.revoked taken = some _ by unfold Deployment.revoked; rw [projected]; rfl⟩
    rw [revoked] at inside
    cases inside
  · intro taken key grown projected
    have inside : key ∈ (after founding).accepted.filterMap fun taken => taken.plan.projections.retireRoot :=
      List.mem_filterMap.mpr ⟨taken, taken_in_run split grown, projected⟩
    rw [retirements] at inside
    cases inside
  · intro taken row mandate grown written confers
    have granted := grant_seen (taken_in_run split grown) written.projected
    rw [founders_seen, List.mem_singleton] at granted
    have same := congrArg Granted.subject granted
    dsimp only [opsGranted] at same
    rw [written.subject] at same
    have human := confers.human
    rw [Option.some.inj same] at human
    exact absurd human (by decide +kernel)

end Stozher.Deployment
