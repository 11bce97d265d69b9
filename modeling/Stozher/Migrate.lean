import Stozher.ChainVerification

namespace Stozher.Migrate

open Library

variable {σ : Type}

def schemaVersionAhead : String := "x-schema-version-ahead"
def schemaMigrationFailed : String := "x-schema-migration-failed"

/-- One forward-only step. A script is what the engine makes of the contents. -/
structure Migration (σ : Type) where
  toVersion : Nat
  name : String
  sql : List (σ → Result σ)

/-- A store at rest: the version stamped into its header, and what it holds. -/
structure Disk (σ : Type) where
  userVersion : Int
  contents : σ

/-- A build of the kernel: its registry, and the two checks it makes of what it migrated. -/
structure Build (σ : Type) where
  migrations : List (Migration σ)
  assertAppendOnlyIntact : σ → Result Unit
  verifyEveryChain : σ → Result Unit

/-- A negative or oversized stamp reads as the greatest one. -/
def version (disk : Disk σ) : Nat :=
  if 0 ≤ disk.userVersion ∧ disk.userVersion < 4294967296 then disk.userVersion.toNat else 4294967295

def applyScripts (contents : σ) (migration : Migration σ) : Result σ :=
  foldChecked (fun contents script => (script contents).mapError fun e => err schemaMigrationFailed
    s!"schema step {migration.toVersion} ({migration.name}) failed: {e.detail}") contents migration.sql

namespace Build

variable (build : Build σ)

def target : Nat :=
  (build.migrations.getLast?.map Migration.toVersion).getD 0

def pending (current : Nat) : List (Migration σ) :=
  build.migrations.filter fun migration => decide (current < migration.toVersion)

/-- One transaction: on an error nothing of it is kept. -/
def run (disk : Disk σ) : Result (Disk σ × List Nat) := do
  let current := version disk
  require (current ≤ build.target) (err schemaVersionAhead
    (s!"the store is at schema version {current}; this build understands {build.target}. " ++
      "It was written by a newer kernel. Upgrade the kernel rather than downgrading the " ++
      "store — there is no downward migration, because one would have to discard records."))
  let contents ← foldChecked applyScripts disk.contents (build.pending current)
  let applied := (build.pending current).map Migration.toVersion
  if applied = [] then return (disk, [])
  build.assertAppendOnlyIntact contents
  return ({ userVersion := build.target, contents }, applied)

end Build

def rewindVersion (disk : Disk σ) (before : Nat) : Disk σ :=
  { disk with userVersion := before }

/-- Where the process that opens a store stands. -/
inductive Point where
  | down
  | opened (before : Nat)
  | migrated (before : Nat) (applied : List Nat)
  | refused (before : Nat) (refusal : Error)
  | serving

/-- The store on disk and the process over it. Whether a schema step was committed that no verification
succeeded after is not stored anywhere. -/
structure Machine (σ : Type) where
  disk : Disk σ
  point : Point
  unverified : Bool

/-- What may happen: a process starts, its open takes its next step, which the database may fail, it stops
wherever it stands, or it writes to the store it serves. -/
inductive Action (σ : Type) where
  | start
  | advance (fault : Bool)
  | crash
  | write (change : σ → σ)

/-- What verification says, where the database answers. -/
def verdict (build : Build σ) (fault : Bool) (contents : σ) : Result Unit :=
  if fault then .error (err storeUnavailable "the database failed") else build.verifyEveryChain contents

/-- The next step of `connect`. -/
def connect (build : Build σ) (fault : Bool) (machine : Machine σ) : Machine σ :=
  match machine.point with
  | .down => machine
  | .serving => machine
  | .opened before =>
      if fault then { machine with point := .down }
      else
        match build.run machine.disk with
        | .error _ => { machine with point := .down }
        | .ok (disk, applied) => {
            disk
            point := .migrated before applied
            unverified := machine.unverified || !applied.isEmpty }
  | .migrated before applied =>
      -- nothing is verified when nothing was applied
      if applied.isEmpty then { machine with point := .serving }
      else
        match verdict build fault machine.disk.contents with
        | .ok _ => { machine with point := .serving, unverified := false }
        | .error refusal => { machine with point := .refused before refusal }
  | .refused before _ =>
      if fault then { machine with point := .down }
      else { machine with disk := rewindVersion machine.disk before, point := .down }

def step (build : Build σ) (machine : Machine σ) : Action σ → Machine σ
  | .start =>
      match machine.point with
      | .down => { machine with point := .opened (version machine.disk) }
      | _ => machine
  | .advance fault => connect build fault machine
  | .crash => { machine with point := .down }
  | .write change =>
      match machine.point with
      | .serving => { machine with disk := { machine.disk with contents := change machine.disk.contents } }
      | _ => machine

/-- A build over a store that no earlier start has left unverified. -/
def opens (build : Build σ) : System (Machine σ) (Action σ) where
  start machine := machine.point = .down ∧ machine.unverified = false
  step := step build

/-- A step that lets an open which committed a schema step come to its verdict: nothing stops the process
before it has verified, or before it has put the stamp back. -/
structure Settles (machine : Machine σ) (action : Action σ) : Prop where
  verified : ∀ before applied, machine.point = .migrated before applied → applied ≠ [] → action ≠ .crash
  rewound : ∀ before refusal, machine.point = .refused before refusal → action ≠ .crash ∧ action ≠ .advance true

/-- What is known of a machine: while a committed schema step is unverified, the process is about to verify it
or to put the stamp back, or the stamp is one the next open migrates from. -/
def Accounted (build : Build σ) (machine : Machine σ) : Prop :=
  match machine.point with
  | .down => machine.unverified = true → build.pending (version machine.disk) ≠ []
  | .opened before => before = version machine.disk ∧
      (machine.unverified = true → build.pending (version machine.disk) ≠ [])
  | .migrated before applied => (applied = [] → machine.unverified = false) ∧
      (applied ≠ [] → build.pending before ≠ [] ∧ before < 4294967296)
  | .refused before _ => build.pending before ≠ [] ∧ before < 4294967296
  | .serving => machine.unverified = false

theorem version_lt (disk : Disk σ) : version disk < 4294967296 := by
  unfold version
  split <;> omega

theorem version_rewound (disk : Disk σ) {before : Nat} (small : before < 4294967296) :
    version (rewindVersion disk before) = before := by
  unfold version rewindVersion
  dsimp only
  rw [if_pos (by omega)]
  omega

namespace Build

variable {build : Build σ} {disk next : Disk σ} {applied : List Nat}

/-- A run applies nothing exactly where the stamp is current, and then it leaves the stamp. -/
theorem run_eq_ok (ran : build.run disk = .ok (next, applied)) :
    (applied = [] ↔ build.pending (version disk) = []) ∧ (applied = [] → next = disk) ∧
      (applied ≠ [] → next.userVersion = build.target) := by
  unfold run at ran
  simp only [bind_eq_ok, require_eq_ok] at ran
  obtain ⟨_, _, contents, scripts, ran⟩ := ran
  by_cases none : (build.pending (version disk)).map Migration.toVersion = []
  · rw [if_pos none, pure_eq_ok] at ran
    cases ran
    exact ⟨iff_of_true rfl (List.map_eq_nil_iff.mp none), fun _ => rfl, fun some_ => absurd rfl some_⟩
  · rw [if_neg none] at ran
    simp only [bind_eq_ok, pure_eq_ok] at ran
    obtain ⟨_, _, same⟩ := ran
    cases same
    exact ⟨iff_of_false none fun empty => none (List.map_eq_nil_iff.mpr empty), fun empty => absurd empty none, fun _ => rfl⟩

theorem run_current (current : build.pending (version disk) = []) (known : version disk ≤ build.target) :
    build.run disk = .ok (disk, []) := by
  unfold run require
  dsimp only
  rw [current, if_pos known]
  rfl

end Build

variable {build : Build σ} {machine : Machine σ}

theorem connect_accounted (fault : Bool) (accounted : Accounted build machine)
    (settles : Settles machine (.advance fault)) : Accounted build (connect build fault machine) := by
  cases point : machine.point with
  | down =>
      unfold connect
      rw [point]
      exact accounted
  | serving =>
      unfold connect
      rw [point]
      exact accounted
  | opened before =>
      unfold Accounted at accounted
      rw [point] at accounted
      obtain ⟨isStamp, behind⟩ := accounted
      unfold connect
      rw [point]
      dsimp only
      cases fault with
      | true => exact behind
      | false =>
          cases ran : build.run machine.disk with
          | error e => exact behind
          | ok both =>
              obtain ⟨none, _, _⟩ := Build.run_eq_ok ran
              constructor
              · intro empty
                have unchanged : machine.unverified = false := by
                  rw [← Bool.not_eq_true]
                  exact fun pending => behind pending (none.mp empty)
                show (machine.unverified || !both.2.isEmpty) = false
                rw [unchanged, empty]
                rfl
              · intro some_
                rw [isStamp]
                exact ⟨fun empty => some_ (none.mpr empty), version_lt machine.disk⟩
  | migrated before applied =>
      unfold Accounted at accounted
      rw [point] at accounted
      obtain ⟨current, behind⟩ := accounted
      unfold connect
      rw [point]
      dsimp only
      by_cases empty : applied = []
      · subst empty
        exact current rfl
      · have nonempty : applied.isEmpty = false := by
          rw [List.isEmpty_eq_false_iff]
          exact empty
        rw [nonempty]
        cases verdict build fault machine.disk.contents with
        | ok _ => rfl
        | error refusal => exact behind empty
  | refused before refusal =>
      unfold Accounted at accounted
      rw [point] at accounted
      unfold connect
      rw [point]
      cases fault with
      | true => exact absurd rfl (settles.rewound before refusal point).2
      | false =>
          show machine.unverified = true → build.pending (version (rewindVersion machine.disk before)) ≠ []
          intro _
          rw [version_rewound machine.disk accounted.2]
          exact accounted.1

theorem crash_accounted (accounted : Accounted build machine) (settles : Settles machine .crash) :
    Accounted build { machine with point := .down } := by
  unfold Accounted at accounted
  show machine.unverified = true → build.pending (version machine.disk) ≠ []
  intro unverified
  cases point : machine.point with
  | down =>
      rw [point] at accounted
      exact accounted unverified
  | opened before =>
      rw [point] at accounted
      exact accounted.2 unverified
  | migrated before applied =>
      rw [point] at accounted
      by_cases empty : applied = []
      · have verified := accounted.1 empty
        rw [unverified] at verified
        cases verified
      · exact absurd rfl (settles.verified before applied point empty)
  | refused before refusal => exact absurd rfl (settles.rewound before refusal point).1
  | serving =>
      rw [point] at accounted
      have verified : machine.unverified = false := accounted
      rw [unverified] at verified
      cases verified

theorem step_accounted {action : Action σ} (accounted : Accounted build machine) (settles : Settles machine action) :
    Accounted build (step build machine action) := by
  cases action with
  | start =>
      unfold step
      cases point : machine.point with
      | down =>
          unfold Accounted at accounted
          rw [point] at accounted
          exact ⟨rfl, accounted⟩
      | opened before => exact accounted
      | migrated before applied => exact accounted
      | refused before refusal => exact accounted
      | serving => exact accounted
  | advance fault => exact connect_accounted fault accounted settles
  | crash => exact crash_accounted accounted settles
  | write change =>
      unfold step
      cases point : machine.point with
      | down => exact accounted
      | opened before => exact accounted
      | migrated before applied => exact accounted
      | refused before refusal => exact accounted
      | serving =>
          unfold Accounted at accounted ⊢
          rw [point] at accounted
          exact accounted

/-- A store is served only after its chains verified, in every run that lets each open which migrated it come to
its verdict. -/
theorem served_after_verification (build : Build σ) {machine : Machine σ} (starts : (opens build).start machine)
    (actions : List (Action σ)) (settles : (opens build).EachStep machine actions Settles) :
    (opens build).EachState machine actions fun later => later.point = .serving → later.unverified = false := by
  have first : Accounted build machine := by
    unfold Accounted
    rw [starts.1]
    intro unverified
    rw [starts.2] at unverified
    cases unverified
  have accounted := settles.states first fun state action allowed known => step_accounted known allowed
  intro before after split serves
  have known := accounted before after split
  unfold Accounted at known
  rw [serves] at known
  exact known

/-- A process that stops between its migration and the verdict leaves a store the next start serves unverified. -/
theorem interrupted_migration_served {disk next : Disk σ} {applied : List Nat}
    (ran : build.run disk = .ok (next, applied)) (some_ : applied ≠ [])
    (current : build.pending (version next) = []) (behind : version next ≤ build.target) :
    (opens build).run { disk, point := .down, unverified := false }
        [.start, .advance false, .crash, .start, .advance false, .advance false] =
      { disk := next, point := .serving, unverified := true } := by
  have nonempty : applied.isEmpty = false := by
    rw [List.isEmpty_eq_false_iff]
    exact some_
  have migrates : connect build false { disk, point := .opened (version disk), unverified := false } =
      { disk := next, point := .migrated (version disk) applied, unverified := true } := by
    unfold connect
    rw [ran]
    simp [nonempty]
  have resumes : connect build false { disk := next, point := .opened (version next), unverified := true } =
      { disk := next, point := .migrated (version next) [], unverified := true } := by
    unfold connect
    rw [Build.run_current current behind]
    rfl
  show connect build false (connect build false (step build { connect build false
    { disk, point := .opened (version disk), unverified := false } with point := .down } .start)) = _
  rw [migrates]
  show connect build false (connect build false { disk := next, point := .opened (version next), unverified := true }) = _
  rw [resumes]
  rfl

/-- A script that creates tables, indices and triggers, which changes no row. -/
def ddl (store : Store) : Result Store :=
  .ok store

def migrations : List (Migration Store) := [
  { toVersion := 1, name := "baseline: the schema as of v0.2, adopted under version control", sql := [ddl, ddl] },
  { toVersion := 2, name := "additive: the audit-cursor index, so paging resumes instead of re-sorting", sql := [ddl] },
  { toVersion := 3, name := "additive: the spend projection, so a budget is a figure and not a declaration"
    sql := [ddl] },
  { toVersion := 4, name := "append-only covers INSERT too, not only UPDATE and DELETE", sql := [ddl] },
  { toVersion := 5, name := "INSERT guards for the chain-bearing tables step 4 left open", sql := [ddl] },
  { toVersion := 6, name := "the arguments an approver reads (§06 §4.4), erasable and outside the chain"
    sql := [ddl] },
  { toVersion := 7, name := "resuming a stream wedged by a refusal (§04 §7.2)", sql := [ddl] }]

/-- This kernel over the stores of the model. -/
def kernelBuild (ext : External) (rejectionStream : String) : Build Store where
  migrations := Migrate.migrations
  assertAppendOnlyIntact _ := .ok ()
  verifyEveryChain store := store.verifyEveryChain ext rejectionStream

theorem kernelBuild_verifies (ext : External) (rejectionStream : String) (store : Store) :
    (kernelBuild ext rejectionStream).verifyEveryChain store = store.verifyEveryChain ext rejectionStream := rfl

def schemaVersion : Nat := 7

/-- The registry is contiguous and ascending from 1, and its last step is the schema version. -/
theorem registry_well_formed : migrations.map Migration.toVersion = (List.range schemaVersion).map (· + 1) := by
  decide

theorem kernel_migrates (ext : External) (rejectionStream : String) (contents : Store) :
    (kernelBuild ext rejectionStream).run { userVersion := 6, contents } =
      .ok ({ userVersion := 7, contents }, [7]) := rfl

end Stozher.Migrate

namespace Stozher.Deployment

open Library Migrate

/-- A fresh store is migrated, verified and served. -/
theorem fresh_store_served :
    ((opens (kernelBuild ext "kernel:rejections")).run
        { disk := { userVersion := 0, contents := Store.empty }, point := .down, unverified := false }
        [.start, .advance false, .advance false]).point = .serving ∧
      (opens (kernelBuild ext "kernel:rejections")).EachState
        { disk := { userVersion := 0, contents := Store.empty }, point := .down, unverified := false }
        [.start, .advance false, .advance false] fun later => later.point = .serving → later.unverified = false := by
  refine ⟨rfl, served_after_verification _ ⟨rfl, rfl⟩ _ ?_⟩
  intro before action after split
  have member : action ∈ [Migrate.Action.start, .advance false, .advance false] := by
    rw [split]
    exact List.mem_append_right _ List.mem_cons_self
  refine ⟨?_, ?_⟩
  · rintro _ _ _ _ rfl
    simp at member
  · intro _ _ _
    constructor
    · rintro rfl
      simp at member
    · rintro rfl
      simp at member

/-- A store of the version before. -/
def unmigrated (contents : Store) : Machine Store where
  disk := { userVersion := 6, contents }
  point := .down
  unverified := false

/-- A store with a chain that does not verify is migrated, the process stops, and the next start serves it. -/
theorem broken_served {contents : Store}
    (broken : ∃ error, (kernelBuild ext "kernel:rejections").verifyEveryChain contents = .error error) :
    (opens (kernelBuild ext "kernel:rejections")).start (unmigrated contents) ∧
      ∃ later, (opens (kernelBuild ext "kernel:rejections")).run (unmigrated contents)
          [.start, .advance false, .crash, .start, .advance false, .advance false] = later ∧
        later.point = .serving ∧ later.unverified = true ∧
        ∃ error, (kernelBuild ext "kernel:rejections").verifyEveryChain later.disk.contents = .error error := by
  have current : version ({ userVersion := 7, contents } : Disk Store) = 7 := rfl
  have behind : (7 : Nat) ≤ (kernelBuild ext "kernel:rejections").target := le_refl 7
  have served := interrupted_migration_served (kernel_migrates ext "kernel:rejections" contents) (by decide) rfl
    (current ▸ behind)
  exact ⟨⟨rfl, rfl⟩, _, served, rfl, rfl, broken⟩

theorem broken_store_served :
    (opens (kernelBuild ext "kernel:rejections")).start
        (unmigrated (after (resumed ++ [Stozher.Action.perform 1])).store) ∧
      ∃ later, (opens (kernelBuild ext "kernel:rejections")).run
          (unmigrated (after (resumed ++ [Stozher.Action.perform 1])).store)
          [.start, .advance false, .crash, .start, .advance false, .advance false] = later ∧
        later.point = .serving ∧ later.unverified = true ∧
        ∃ error, (kernelBuild ext "kernel:rejections").verifyEveryChain later.disk.contents = .error error := by
  have broken := congrArg Observed.broken observed_eq
  dsimp only [observed] at broken
  rw [Prod.mk.injEq] at broken
  obtain ⟨error, fails, _⟩ := refusal_eq_some broken.2
  exact broken_served ⟨error, fails⟩

end Stozher.Deployment
