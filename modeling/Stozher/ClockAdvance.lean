import Stozher.CanonicalAgreement
import Stozher.Instants
import Stozher.RejectionChain

namespace Stozher

open Library Library.Text

namespace Clock

def maxClockAdvanceSeconds : Int := 3650 * 86400

def clockAdvanceDeclared : String := "clock-advance-in-force"

def clockAdvanceRefused : String := "clock-advance-refused"

def clockAdvanceAcknowledgement : String :=
  "records emitted by this deployment are not evidence of when anything happened"

def lastRepresentableInstant : String := "9999-12-31T23:59:59.999Z"

/-- How far forward a clock is moved, and the duration as written. -/
structure ClockAdvance where
  seconds : Int
  duration : String

/-- What the host's clock reads, so many milliseconds after the epoch. -/
def systemNow (host : Nat) : String :=
  formatMillis (if host < 2 ^ 63 then host else 2 ^ 63 - 1)

def advancedNow (advance : ClockAdvance) (base : String) : String :=
  match shift base advance.seconds with
  | .ok text => text
  | .error _ => lastRepresentableInstant

/-- What the clock of a kernel reads. -/
def now (advance : Option ClockAdvance) (host : Nat) : String :=
  match advance with
  | none => systemNow host
  | some advance => advancedNow advance (systemNow host)

def checkAdvance (advance : ClockAdvance) : Result Unit := do
  require (0 < advance.seconds) (err clockAdvanceRefused
    (s!"an advance must be strictly positive, {advance.seconds} is not — this clock moves forward or " ++
      "it does not move"))
  require (advance.seconds ≤ maxClockAdvanceSeconds) (err clockAdvanceRefused
    s!"an advance of {advance.seconds}s exceeds the bound of {maxClockAdvanceSeconds}s")

/-- The clock a configuration describes. -/
def fromConfig (advance : Option ClockAdvance) : Result Unit :=
  match advance with
  | none => .ok ()
  | some advance => checkAdvance advance

/-- The instant behind an advanced one. -/
def unmoved (effective : String) (seconds : Int) : String :=
  match shift effective (-seconds) with
  | .ok text => text
  | .error _ => effective

variable (ext : External) (formatFinite : Binary64 → String)

/-- The effective instant of the newest declaration a store carries. -/
def lastDeclaredInstant (store : Store) : Option String :=
  (Table.topBy RejectionRow.seq (store.rejections.filter fun row => row.reason == clockAdvanceDeclared)).bind
    fun row => (ext.parseLenient (octets row.detail)).bind fun detail => detail.getStr "effective"

def declaration (advance : ClockAdvance) (effective : String) : Value :=
  .object [("acknowledged", .string clockAdvanceAcknowledgement), ("advance", .string advance.duration),
    ("advance-seconds", .ofNat advance.seconds.toNat), ("effective", .string effective),
    ("real", .string (unmoved effective advance.seconds))]

def checkRatchet (prior : Option String) (effective : String) : Result Unit :=
  match prior with
  | none => .ok ()
  | some prior => require (¬ effective < prior) (err clockAdvanceRefused
      (s!"this deployment has already run at {prior} and would now start at {effective}. " ++
        "Its clock does not go backwards: the records it holds were written ahead of " ++
        "real time and moving back would put new ones behind them. Configure a " ++
        s!"clock-advance that reaches {prior} or later, or start from a fresh store"))

/-- Writes the advance into the kernel's own record stream, unless the clock has gone backwards since the last time. -/
def declareAdvance (store : Store) (rejectionStream : String) (signer : Signed.SigningKey)
    (advance : Option ClockAdvance) (effective : String) : Result (Store × Option String) := do
  checkRatchet (lastDeclaredInstant ext store) effective
  match advance with
  | none => return (store, none)
  | some advance => do
      let detail ← Jcs.Text.canonicalize ext formatFinite (declaration advance effective)
      let objectHash ← Jcs.objectHash ext (declaration advance effective)
      let (store, record) ← store.recordRejection ext rejectionStream signer {
        reason := clockAdvanceDeclared
        detail
        objectHash
        submittedBy := some "agent:kernel"
        receivedAt := unmoved effective advance.seconds
        claimedStream := none
        claimedSeq := none
        claimedKind := none }
      return (store, some record.id)

section

variable {first second : Nat}

/-- The last millisecond the fixed form is for. -/
def lastMillis : Nat := 253402300799999

theorem inForm_of_host (within : first ≤ lastMillis) : InForm first := by
  unfold lastMillis at within
  constructor <;> omega

theorem systemNow_eq (within : first ≤ lastMillis) : systemNow first = formatMillis first := by
  unfold systemNow
  unfold lastMillis at within
  rw [if_pos (by omega)]

/-- An advanced clock reads the host's instant moved, as far as the fixed form goes. -/
theorem advancedNow_eq {advance : ClockAdvance} (positive : 0 < advance.seconds) (within : first ≤ lastMillis) :
    advancedNow advance (systemNow first) = formatMillis (min (first + advance.seconds * 1000) lastMillis) := by
  have inForm := inForm_of_host within
  have last : formatMillis lastMillis = lastRepresentableInstant := by decide +kernel
  unfold advancedNow shift
  rw [systemNow_eq within, inForm.parse, ok_bind]
  unfold require
  unfold lastMillis at *
  dsimp only
  by_cases fits : (first : Int) + advance.seconds * 1000 ≤ 253402300799999
  · rw [if_pos (by omega), min_eq_left (by omega)]
    rfl
  · rw [if_neg (by omega), min_eq_right (by omega), last]
    rfl

theorem formatMillis_le {first second : Int} (inForm : InForm first) (inForm' : InForm second) (le : first ≤ second) :
    formatMillis first ≤ formatMillis second := by
  rcases Int.lt_or_eq_of_le le with less | rfl
  · exact le_of_lt (formatMillis_lt inForm inForm' less)
  · exact le_refl _

/-- The clocks a kernel may be opened with. -/
def Forward (advance : Option ClockAdvance) : Prop :=
  ∀ moved, advance = some moved → 0 < moved.seconds

theorem forward_of_config {advance : Option ClockAdvance} (opened : fromConfig advance = .ok ()) : Forward advance := by
  intro moved isMoved
  subst isMoved
  unfold fromConfig checkAdvance at opened
  simp only [bind_eq_ok, require_eq_ok] at opened
  obtain ⟨_, positive, _⟩ := opened
  exact positive

/-- A clock goes forward with the host's. -/
theorem now_le {advance : Option ClockAdvance} (forward : Forward advance) (le : first ≤ second)
    (within : second ≤ lastMillis) : now advance first ≤ now advance second := by
  have earlier : first ≤ lastMillis := Nat.le_trans le within
  unfold now
  cases advance with
  | none =>
      dsimp only
      rw [systemNow_eq earlier, systemNow_eq within]
      exact formatMillis_le (inForm_of_host earlier) (inForm_of_host within) (by omega)
  | some moved =>
      have positive := forward moved rfl
      dsimp only
      rw [advancedNow_eq positive earlier, advancedNow_eq positive within]
      unfold lastMillis
      apply formatMillis_le
      · constructor <;> omega
      · constructor <;> omega
      · omega

end

/-- The instants that records carry: when they were received and, where the kernel signed them, when they were
emitted. The declarations of a moved clock are no such record: they say what the host's clock read. -/
def instants (kernelKey : String) (envelopes : List EnvelopeRow) (rejections : List RejectionRow) : List String :=
  envelopes.map EnvelopeRow.receivedAt ++
    (envelopes.filter fun row => row.subjectKey == kernelKey).map EnvelopeRow.emittedAt ++
    (rejections.filter fun row => row.reason != clockAdvanceDeclared).map RejectionRow.receivedAt

/-- A kernel process over the store: its clock, where the host's stood when it began, the instants it has read, and
the store as it found it. -/
structure Process where
  advance : Option ClockAdvance
  began : Nat
  readings : List String
  opened : Store

/-- The host's clock, the store, and the process over it. -/
structure Machine where
  host : Nat
  store : Store
  process : Option Process

/-- What may happen: the host's clock goes on, a process starts or stops, or the one that runs reads its clock,
appends an envelope or records a rejection. -/
inductive Event where
  | tick (millis : Nat)
  | start (advance : Option ClockAdvance)
  | read
  | append (plan : AppendPlan)
  | reject (input : RejectionInput)
  | stop

/-- How far an event moves the host's clock. -/
def Event.elapsed : Event → Nat
  | .tick millis => millis
  | _ => 0

variable (config : Ingest.Config)

def startProcess (machine : Machine) (advance : Option ClockAdvance) : Machine :=
  let opened := do
    fromConfig advance
    declareAdvance ext formatFinite machine.store config.rejectionStream config.kernelKey advance (now advance machine.host)
  match opened with
  | .error _ => machine
  | .ok (store, _) =>
      { machine with store, process := some { advance, began := machine.host, readings := [], opened := machine.store } }

/-- A record carries an instant its process read from its clock. -/
def Stamped (process : Process) (plan : AppendPlan) : Prop :=
  plan.receivedAt ∈ process.readings ∧
    (((plan.envelope.index "identity").getStr "key") = some config.kernelKey.id.text →
      (plan.envelope.getStr "emitted-at").getD "" ∈ process.readings)

instance (process : Process) (plan : AppendPlan) : Decidable (Stamped config process plan) := by
  unfold Stamped
  infer_instance

def step (machine : Machine) : Event → Machine
  | .tick millis => { machine with host := machine.host + millis }
  | .start advance =>
      match machine.process with
      | none => startProcess ext formatFinite config machine advance
      | some _ => machine
  | .read =>
      match machine.process with
      | none => machine
      | some process =>
          { machine with process := some { process with readings := now process.advance machine.host :: process.readings } }
  | .append plan =>
      match machine.process with
      | none => machine
      | some process =>
          if Stamped config process plan then
            match machine.store.append plan with
            | .ok (store, _) => { machine with store }
            | .error _ => machine
          else machine
  | .reject input =>
      match machine.process with
      | none => machine
      | some process =>
          if input.receivedAt ∈ process.readings then
            match machine.store.recordRejection ext config.rejectionStream config.kernelKey input with
            | .ok (store, _) => { machine with store }
            | .error _ => machine
          else machine
  | .stop => { machine with process := none }

/-- Kernel processes one after another over one store. -/
def processes : System Machine Event where
  start machine := machine.process = none
  step := step ext formatFinite config

/-- No record the running process wrote is earlier than one it found. -/
def NeverBehind (machine : Machine) : Prop :=
  ∀ process, machine.process = some process →
    ∀ earlier ∈ instants config.kernelKey.id.text process.opened.envelopes process.opened.rejections,
      ∀ later ∈ instants config.kernelKey.id.text
        (machine.store.envelopes.drop process.opened.envelopes.length)
        (machine.store.rejections.drop process.opened.rejections.length), earlier ≤ later

/-- A process starts no earlier than the latest instant a record carries, and the host's clock is one the fixed form
can write. -/
structure StartsAhead (machine : Machine) (event : Event) : Prop where
  inForm : machine.host ≤ lastMillis
  ahead : ∀ advance, event = .start advance → machine.process = none →
    ∀ earlier ∈ instants config.kernelKey.id.text machine.store.envelopes machine.store.rejections,
      earlier ≤ now advance machine.host

section

variable {ext : External} {formatFinite : Binary64 → String} {config : Ingest.Config}

theorem appended_row {store next : Store} {plan : AppendPlan} {appended : Appended}
    (done : store.append plan = .ok (next, appended)) : next = store ∨ next.rejections = store.rejections ∧
      ∃ row, Store.envelopeRow plan = .ok row ∧ next.envelopes = store.envelopes ++ [row] := by
  cases found : store.envelopeById plan.id with
  | some row => exact .inl (Store.append_held found done).1
  | none =>
      have appends := (Store.append_fresh found done).1
      obtain ⟨row, built, _, _, same⟩ := appends.envelopes
      exact .inr ⟨appends.rejections, row, built, same⟩

theorem row_instants {plan : AppendPlan} {row : EnvelopeRow} (built : Store.envelopeRow plan = .ok row) :
    (plan.envelope.index "identity").getStr "key" = some row.subjectKey ∧
      (plan.envelope.getStr "emitted-at").getD "" = row.emittedAt ∧ row.receivedAt = plan.receivedAt := by
  unfold Store.envelopeRow Store.notNull at built
  simp only [bind_eq_ok, pure_eq_ok, okOr_eq_ok] at built
  obtain ⟨_, _, _, _, _, key, _, _, _, emittedAt, rfl⟩ := built
  refine ⟨key, ?_, rfl⟩
  rw [emittedAt]
  rfl

theorem rejection_instants {store next : Store} {input : RejectionInput} {record : RejectionRecord}
    (done : store.recordRejection ext config.rejectionStream config.kernelKey input = .ok (next, record)) :
    next.envelopes = store.envelopes ∧ ∃ row : RejectionRow, next.rejections = store.rejections ++ [row] ∧
      row.reason = input.reason ∧ row.receivedAt = input.receivedAt := by
  unfold Store.recordRejection at done
  simp only [bind_eq_ok, require_eq_ok, pure_eq_ok, Prod.mk.injEq] at done
  obtain ⟨_, _, _, _, _, _, _, _, rfl, _⟩ := done
  exact ⟨rfl, _, rfl, rfl, rfl⟩

/-- What is known of a running process: its clock has not gone back, and neither has what it wrote. -/
structure Running (config : Ingest.Config) (host : Nat) (store : Store) (process : Process) : Prop where
  forward : Forward process.advance
  began : process.began ≤ host ∧ process.began ≤ lastMillis
  found : ∀ earlier ∈ instants config.kernelKey.id.text process.opened.envelopes process.opened.rejections,
    earlier ≤ now process.advance process.began
  readings : ∀ reading ∈ process.readings, now process.advance process.began ≤ reading
  envelopes : ∃ rows, store.envelopes = process.opened.envelopes ++ rows ∧ ∀ row ∈ rows,
    now process.advance process.began ≤ row.receivedAt ∧
      (row.subjectKey = config.kernelKey.id.text → now process.advance process.began ≤ row.emittedAt)
  rejections : ∃ rows, store.rejections = process.opened.rejections ++ rows ∧ ∀ row ∈ rows,
    row.reason ≠ clockAdvanceDeclared → now process.advance process.began ≤ row.receivedAt

theorem forall_instants {kernelKey : String} {envelopes : List EnvelopeRow} {rejections : List RejectionRow}
    {holds : String → Prop} : (∀ instant ∈ instants kernelKey envelopes rejections, holds instant) ↔
      (∀ row ∈ envelopes, holds row.receivedAt ∧ (row.subjectKey = kernelKey → holds row.emittedAt)) ∧
        ∀ row ∈ rejections, row.reason ≠ clockAdvanceDeclared → holds row.receivedAt := by
  unfold instants
  simp only [List.forall_mem_append, List.forall_mem_map, List.mem_filter, beq_iff_eq, bne_iff_ne, and_imp,
    forall_and]

namespace Running

variable {host : Nat} {store next : Store} {process : Process}

theorem later (running : Running config host store process) {instant : Nat} (le : host ≤ instant) :
    Running config instant store process :=
  { running with began := ⟨Nat.le_trans running.began.1 le, running.began.2⟩ }

theorem read (running : Running config host store process) (within : host ≤ lastMillis) :
    Running config host store { process with readings := now process.advance host :: process.readings } := by
  refine { running with readings := ?_ }
  intro reading member
  rcases List.mem_cons.mp member with rfl | earlier
  · exact now_le running.forward running.began.1 within
  · exact running.readings reading earlier

theorem append (running : Running config host store process) {plan : AppendPlan} {appended : Appended}
    (stamped : Stamped config process plan) (done : store.append plan = .ok (next, appended)) :
    Running config host next process := by
  rcases appended_row done with rfl | ⟨sameRejections, row, built, sameEnvelopes⟩
  · exact running
  · obtain ⟨key, emittedAt, receivedAt⟩ := row_instants built
    obtain ⟨rows, split, known⟩ := running.envelopes
    refine { running with envelopes := ⟨rows ++ [row], ?_, ?_⟩, rejections := ?_ }
    · rw [sameEnvelopes, split, List.append_assoc]
    · intro other member
      rcases List.mem_append.mp member with earlier | new
      · exact known other earlier
      · rw [List.mem_singleton] at new
        subst new
        constructor
        · rw [receivedAt]
          exact running.readings _ stamped.1
        · intro kernelSigned
          rw [← emittedAt]
          rw [kernelSigned] at key
          exact running.readings _ (stamped.2 key)
    · rw [sameRejections]
      exact running.rejections

theorem reject (running : Running config host store process) {input : RejectionInput} {record : RejectionRecord}
    (stamped : input.receivedAt ∈ process.readings)
    (done : store.recordRejection ext config.rejectionStream config.kernelKey input = .ok (next, record)) :
    Running config host next process := by
  obtain ⟨sameEnvelopes, row, sameRejections, _, receivedAt⟩ := rejection_instants done
  obtain ⟨rows, split, known⟩ := running.rejections
  refine { running with envelopes := ?_, rejections := ⟨rows ++ [row], ?_, ?_⟩ }
  · rw [sameEnvelopes]
    exact running.envelopes
  · rw [sameRejections, split, List.append_assoc]
  · intro other member recorded
    rcases List.mem_append.mp member with earlier | new
    · exact known other earlier recorded
    · rw [List.mem_singleton] at new
      subst new
      rw [receivedAt]
      exact running.readings _ stamped

theorem neverBehind (running : Running config host store process) :
    ∀ earlier ∈ instants config.kernelKey.id.text process.opened.envelopes process.opened.rejections,
      ∀ later ∈ instants config.kernelKey.id.text (store.envelopes.drop process.opened.envelopes.length)
        (store.rejections.drop process.opened.rejections.length), earlier ≤ later := by
  intro earlier found
  obtain ⟨rows, sameRows, envelopes⟩ := running.envelopes
  obtain ⟨records, sameRecords, rejections⟩ := running.rejections
  have start := running.found earlier found
  rw [sameRows, sameRecords, List.drop_left, List.drop_left, forall_instants]
  constructor
  · intro row member
    obtain ⟨receivedAt, emittedAt⟩ := envelopes row member
    exact ⟨le_trans start receivedAt, fun kernelSigned => le_trans start (emittedAt kernelSigned)⟩
  · intro row member recorded
    exact le_trans start (rejections row member recorded)

end Running

/-- A declaration adds one record to the store, of the host's time. -/
theorem declareAdvance_eq_ok {store next : Store} {advance : Option ClockAdvance} {effective : String}
    {id : Option String} (done : declareAdvance ext formatFinite store config.rejectionStream config.kernelKey advance
      effective = .ok (next, id)) : next.envelopes = store.envelopes ∧
        ∃ rows : List RejectionRow, next.rejections = store.rejections ++ rows ∧
          ∀ row ∈ rows, row.reason = clockAdvanceDeclared := by
  unfold declareAdvance at done
  rw [bind_eq_ok] at done
  obtain ⟨_, _, done⟩ := done
  cases advance with
  | none =>
      cases done
      exact ⟨rfl, [], (List.append_nil _).symm, fun row none => absurd none List.not_mem_nil⟩
  | some moved =>
      simp only [bind_eq_ok] at done
      obtain ⟨_, _, _, _, ⟨written, record⟩, recorded, done⟩ := done
      cases done
      obtain ⟨sameEnvelopes, row, sameRejections, reason, _⟩ := rejection_instants recorded
      refine ⟨sameEnvelopes, [row], sameRejections, ?_⟩
      intro other member
      rw [List.mem_singleton.mp member]
      exact reason

/-- What every step keeps: the process that runs, if one does, has not gone back. -/
def Known (config : Ingest.Config) (machine : Machine) : Prop :=
  ∀ process, machine.process = some process → Running config machine.host machine.store process

theorem startProcess_known {machine : Machine} {advance : Option ClockAdvance} (within : machine.host ≤ lastMillis)
    (known : Known config machine)
    (ahead : ∀ earlier ∈ instants config.kernelKey.id.text machine.store.envelopes machine.store.rejections,
      earlier ≤ now advance machine.host) : Known config (startProcess ext formatFinite config machine advance) := by
  unfold startProcess
  dsimp only
  split
  · exact known
  · rename_i store id opened
    rw [bind_eq_ok] at opened
    obtain ⟨_, checked, declared⟩ := opened
    obtain ⟨sameEnvelopes, rows, sameRejections, declarations⟩ := declareAdvance_eq_ok declared
    intro process isProcess
    cases isProcess
    constructor
    · exact forward_of_config checked
    · exact ⟨Nat.le_refl _, within⟩
    · exact ahead
    · exact fun reading none => absurd none List.not_mem_nil
    · refine ⟨[], ?_, fun row none => absurd none List.not_mem_nil⟩
      rw [List.append_nil]
      exact sameEnvelopes
    · exact ⟨rows, sameRejections, fun row member recorded => absurd (declarations row member) recorded⟩

theorem step_known {machine : Machine} {event : Event} (known : Known config machine)
    (starts : StartsAhead config machine event) : Known config (step ext formatFinite config machine event) := by
  cases running : machine.process with
  | none =>
      cases event with
      | tick millis =>
          intro process isProcess
          exact (known process isProcess).later (Nat.le_add_right _ _)
      | start advance =>
          unfold step
          dsimp only
          rw [running]
          exact startProcess_known starts.inForm known (starts.ahead advance rfl running)
      | stop =>
          intro process isProcess
          cases isProcess
      | read =>
          unfold step
          rw [running]
          exact known
      | append plan =>
          unfold step
          rw [running]
          exact known
      | reject input =>
          unfold step
          rw [running]
          exact known
  | some process =>
      have now := known process running
      cases event with
      | tick millis =>
          intro process isProcess
          exact (known process isProcess).later (Nat.le_add_right _ _)
      | start advance =>
          unfold step
          rw [running]
          exact known
      | stop =>
          intro process isProcess
          cases isProcess
      | read =>
          unfold step
          rw [running]
          intro process isProcess
          cases isProcess
          exact now.read starts.inForm
      | append plan =>
          unfold step
          rw [running]
          dsimp only
          split
          · rename_i stamped
            split
            · rename_i store appended done
              intro other isProcess
              cases isProcess
              exact now.append stamped done
            · exact known
          · exact known
      | reject input =>
          unfold step
          rw [running]
          dsimp only
          split
          · rename_i stamped
            split
            · rename_i store recorded done
              intro other isProcess
              cases isProcess
              exact now.reject stamped done
            · exact known
          · exact known

theorem step_host (machine : Machine) (event : Event) : ((processes ext formatFinite config).step machine event).host =
    machine.host + event.elapsed := by
  show (step ext formatFinite config machine event).host = _
  cases event with
  | tick millis => rfl
  | start advance =>
      unfold step startProcess
      dsimp only
      split
      · split <;> rfl
      · rfl
  | read =>
      unfold step
      dsimp only
      split <;> rfl
  | append plan =>
      unfold step
      dsimp only
      split
      · rfl
      · split
        · split <;> rfl
        · rfl
  | reject input =>
      unfold step
      dsimp only
      split
      · rfl
      · split
        · split <;> rfl
        · rfl
  | stop => rfl

/-- In every run whose processes start ahead, no process writes a record behind one an earlier process wrote. -/
theorem clock_never_comes_back (ext : External) (formatFinite : Binary64 → String) (config : Ingest.Config)
    {machine : Machine} (first : (processes ext formatFinite config).start machine) (events : List Event)
    (starts : (processes ext formatFinite config).EachStep machine events (StartsAhead config)) :
    (processes ext formatFinite config).EachState machine events (NeverBehind config) := by
  have none : Known config machine := by
    intro process isProcess
    have stopped : machine.process = .none := first
    rw [stopped] at isProcess
    cases isProcess
  have known := starts.states none fun state event allowed held => step_known held allowed
  intro before after split process isProcess
  exact (known before after split process isProcess).neverBehind

end

end Clock

end Stozher

namespace Stozher.Deployment

open Library Library.Text Recorded Clock

def firstAdvance : ClockAdvance where
  seconds := 34560000
  duration := "P400D"

/-- A day less far, a day later. -/
def secondAdvance : ClockAdvance where
  seconds := 34473600
  duration := "P399D"

def reached : String := "2027-02-05T09:00:00.000Z"
def passed : String := "2027-02-06T09:00:00.000Z"

def firstDetail : Recorded where
  form := fun _ => declaration firstAdvance reached
  sealed := none
  digest := hex 64 0x32481535be07e4a0917ff70526f5760b3215db4bcbf0d7e629075c24c0a30d87

def secondDetail : Recorded where
  form := fun _ => declaration secondAdvance reached
  sealed := none
  digest := hex 64 0xc17bf43410c50500cdc5f0974a688c3a27b59364a07876bf08579771502c4351

/-- The text of a declaration. -/
def detailText (duration seconds real : String) : String :=
  "\x7b\"acknowledged\":\"" ++ clockAdvanceAcknowledgement ++ "\",\"advance\":\"" ++ duration ++
    "\",\"advance-seconds\":" ++ seconds ++ ",\"effective\":\"" ++ reached ++ "\",\"real\":\"" ++ real ++ "\"\x7d"

def firstText : String := detailText "P400D" "34560000" nine
def secondText : String := detailText "P399D" "34473600" "2026-01-02T09:00:00.000Z"

def kernelRecord (seq : Nat) (prev : Option String) (reason detail objectHash submittedBy receivedAt : String)
    (sig : Members) : Value :=
  .object ([("detail", .string detail), ("identity", kernelIdentity), ("kind", .string "rejection"),
    ("object-hash", .string objectHash), ("prev-hash", .ofOption prev), ("reason", .string reason),
    ("received-at", .string receivedAt), ("seq", .ofNat seq)] ++ sig ++
    [("stream", .string "kernel:rejections"), ("submitted-by", .string submittedBy), ("v", .string "stozher/0.1")])

/-- A request body that is no JSON, refused at an instant. -/
def malformed (receivedAt : String) : RejectionInput where
  reason := "jcs-malformed-json"
  detail := "no text is on record"
  objectHash := hex 64 0x7ccfa1fbf3940e6f0c0375d87c0f9235a50514e14cb427bdfaf5077987b26ccf
  submittedBy := some "agent:ops"
  receivedAt := receivedAt
  claimedStream := none
  claimedSeq := none
  claimedKind := none

def firstDeclaration : Recorded where
  form := kernelRecord 0 none clockAdvanceDeclared firstText firstDetail.digest "agent:kernel" nine
  sealed := some (kernelKey, signatureText
    0x72d77ddfcd25fc003abc43410e991bc7dcd9f11dbc093ebe2d61aedc4fe3b851
    0x2a86342c67dd8683e3086f2e8164f9b34bffc51fbfa6b0fe298f8d716112080f)
  digest := hex 64 0xf4935af6d8961505cdc99def1c21f893f440132a45e8628100f4d1ca8661cdf5

def aheadRejection : Recorded where
  form := kernelRecord 1 (some firstDeclaration.digest) "jcs-malformed-json" "no text is on record"
    (malformed passed).objectHash "agent:ops" passed
  sealed := some (kernelKey, signatureText
    0x6653808799000d058c80b6074a587538d8dfea51ed5c0d2237271f4fb3a6a6cb
    0x3c7a65e8cbcc292775e1be3d3025df90089c24db349d5c0212624d582845ee05)
  digest := hex 64 0xb3c3ab14006edd918a696f2c47b3ff59a39478e67e053642a695eb810fde9f21

def secondDeclaration : Recorded where
  form := kernelRecord 2 (some aheadRejection.digest) clockAdvanceDeclared secondText secondDetail.digest "agent:kernel"
    "2026-01-02T09:00:00.000Z"
  sealed := some (kernelKey, signatureText
    0xdddba9f3f67c33b4720f946f81c2c3c17c7f488d5aca6f4a24c1537dae704f52
    0xabda216d9aa8a9d8ce163c90936a85fee2ca72311cf7531803d084ad9223ef0a)
  digest := hex 64 0x05432ad42f210cc6178b480a583c9829135d3ce1f89a51a8cd337bc7c68a017c

def behindRejection : Recorded where
  form := kernelRecord 3 (some secondDeclaration.digest) "jcs-malformed-json" "no text is on record"
    (malformed reached).objectHash "agent:ops" reached
  sealed := some (kernelKey, signatureText
    0x5b88253d66362b131d26b5adf1f1e7f257e5a453c356ff93e5039e5fd374a17b
    0x2ccc5e30d67bc3c167b78619d8db29a43af1781865865c2a7e7dd356d37da608)
  digest := hex 64 0x19388254d35e7a271eceeef9ac1c38b4eda684b61e5feb11ba4502c71052a9a7

def reachedRejection : Recorded where
  form := kernelRecord 1 (some firstDeclaration.digest) "jcs-malformed-json" "no text is on record"
    (malformed reached).objectHash "agent:ops" reached
  sealed := some (kernelKey, signatureText
    0x4a2ea2976dfa1c9dcf273c25d6b8902439d80d7c397af020c2382e1e00b2bf1c
    0xfea0eb88fb2b616edb2df9158f9e576aea0f24c2dae403d4cab2d9988b6db603)
  digest := hex 64 0x706576548357c36ec5a62af1af7a92154fd93f336698e47c29bc56492b45e09a

def clockRecords : List Recorded :=
  [firstDetail, secondDetail, firstDeclaration, aheadRejection, secondDeclaration, behindRejection, reachedRejection]

/-- The external code, with the two declarations' texts read. -/
def clockExt : External :=
  { external clockRecords with
    parseLenient := fun bytes =>
      if bytes = octets firstText then some firstDetail.document
      else if bytes = octets secondText then some secondDetail.document
      else none }

def clockConfig : Ingest.Config :=
  { config with kernelKey := signingKey clockRecords kernelId }

/-- A host that reads nine o'clock, over a new store. -/
def unopened : Machine where
  host := 1767258000000
  store := .empty
  process := none

/-- A process that runs a day ahead of what it declared, and one after it that declares what it may. -/
def returning : List Event :=
  [.start (some firstAdvance), .tick 86400000, .read, .reject (malformed passed), .stop,
    .start (some secondAdvance), .read, .reject (malformed reached)]

/-- A process that stops at the instant it declared, before one that declares the same. -/
def stopping : List Event :=
  [.start (some firstAdvance), .read, .reject (malformed reached), .stop]

/-- The instants a machine's process found, and those it wrote. -/
def foundAndWritten (machine : Machine) : Option (List String × List String) :=
  machine.process.map fun process =>
    (instants kernelKey process.opened.envelopes process.opened.rejections,
      instants kernelKey (machine.store.envelopes.drop process.opened.envelopes.length)
        (machine.store.rejections.drop process.opened.rejections.length))

def held (machine : Machine) : List String :=
  instants kernelKey machine.store.envelopes machine.store.rejections

structure ClockSeen : Prop where
  returned : foundAndWritten ((processes clockExt integerText clockConfig).run unopened returning) =
    some ([passed], [reached])
  stopped : held ((processes clockExt integerText clockConfig).run unopened stopping) = [reached]
  reads : Clock.now (some firstAdvance) 1767258000000 = reached

theorem clock_seen : ClockSeen := by
  constructor <;> decide +kernel

theorem stopped_host : ((processes clockExt integerText clockConfig).run unopened stopping).host = 1767258000000 := by
  unfold stopping
  rw [System.run_cons, System.run_cons, System.run_cons, System.run_cons, System.run_nil, step_host, step_host,
    step_host, step_host]
  rfl

/-- A process that declares as much as the one before it did is ahead of what that one wrote. -/
theorem stopped_then_started : (processes clockExt integerText clockConfig).EachState unopened
    (stopping ++ [.start (some firstAdvance)]) (NeverBehind clockConfig) := by
  refine clock_never_comes_back clockExt integerText clockConfig (rfl : unopened.process = none) _ ?_
  have within : ∀ host, host = 1767258000000 → host ≤ lastMillis := by
    rintro host rfl
    decide
  show System.EachStep _ unopened [_, _, _, _, _] _
  rw [System.eachStep_cons, System.eachStep_cons, System.eachStep_cons, System.eachStep_cons, System.eachStep_cons]
  refine ⟨⟨within _ rfl, ?_⟩, ⟨within _ (step_host _ _), ?_⟩, ⟨within _ ?_, ?_⟩, ⟨within _ ?_, ?_⟩,
    ⟨within _ stopped_host, ?_⟩, System.eachStep_nil⟩
  · exact fun _ _ _ earlier found => absurd found List.not_mem_nil
  · intro advance isStart
    cases isStart
  · rw [step_host, step_host]
    rfl
  · intro advance isStart
    cases isStart
  · rw [step_host, step_host, step_host]
    rfl
  · intro advance isStart
    cases isStart
  · intro advance isStart _ earlier found
    cases isStart
    have holds : earlier ∈ held ((processes clockExt integerText clockConfig).run unopened stopping) := found
    have host := stopped_host
    rw [clock_seen.stopped, List.mem_singleton] at holds
    show earlier ≤ Clock.now _ ((processes clockExt integerText clockConfig).run unopened stopping).host
    rw [host, clock_seen.reads, holds]

/-- The second process reads an instant a day before the last the first one wrote. -/
theorem clock_came_back : ¬ ∀ events, (processes clockExt integerText clockConfig).EachState unopened events
    (NeverBehind clockConfig) := by
  intro claim
  have ends := claim returning returning [] (List.append_nil _).symm
  have seen := clock_seen.returned
  unfold foundAndWritten at seen
  rw [Option.map_eq_some_iff] at seen
  obtain ⟨process, isProcess, both⟩ := seen
  simp only [Prod.mk.injEq] at both
  have behind : passed ≤ reached := by
    apply ends process isProcess
    · show passed ∈ instants kernelKey process.opened.envelopes process.opened.rejections
      rw [both.1]
      exact List.mem_cons_self
    · show reached ∈ instants kernelKey _ _
      rw [both.2]
      exact List.mem_cons_self
  exact absurd behind (by decide +kernel)

end Stozher.Deployment
