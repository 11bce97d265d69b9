import Stozher.FoldedReads
import Stozher.StructureAgreement

namespace Stozher.Gateway

open Library

/-- Whether a span is one the policy lets a window have. -/
def spans (policy : Stozher.Policy) (start stop : String) : Bool :=
  decide (start ≤ stop) &&
    (Clock.shift start policy.aggregateMaxWindowSeconds).toOption.any fun ceiling => decide (stop ≤ ceiling)

/-- When the window that a read is folded into was opened, or is. -/
def Folds.opening (state : Folds) (key : WindowKey) (openedAt : String) : String :=
  ((state.windows.find? fun folded => folded.window.key == key).map fun folded => folded.window.openedAt).getD
    openedAt

/-- Whether a read is folded while its window is no longer than the policy lets it be. -/
def readInTime (policy : Stozher.Policy) (state : Folds) : FoldEvent → Bool
  | .fold _ _ read openedAt readAt => spans policy (state.opening read.key openedAt) readAt
  | _ => true

/-- An aggregate that fits the kernel's window. -/
structure FitsWindow (policy : Stozher.Policy) (env : Value) : Prop where
  kind : env.getStr "kind" = some "aggregate"
  window : ∃ start stop ceiling, (env.index "window").getStr "from" = some start ∧
    (env.index "window").getStr "to" = some stop ∧
    Clock.shift start policy.aggregateMaxWindowSeconds = .ok ceiling ∧ start ≤ stop ∧ stop ≤ ceiling
  counts : ∃ counts : List (String × Nat),
    (env.index "counts").index "total" = .ofNat (counts.map Prod.snd).sum ∧
    (env.index "counts").index "by-action" = .object (counts.map fun entry => (entry.1, .ofNat entry.2)) ∧
    counts.length ≤ 1024
  samples : ∃ samples, env.get "sample-hashes" = some (.array samples) ∧ 1 ≤ samples.length ∧ samples.length ≤ 16
  counted : Envelope.validateAggregate (env.get "classification") ((env.get "counts").getD .null)
    ((env.get "sample-hashes").getD .null) = .ok ()
  timed : Ingest.validateAggregateWindow env policy = .ok ()

variable {ext : External} {checkShape : Value → Result Unit} {config : FoldConfig} {policy : Stozher.Policy}

theorem spans_iff {start stop : String} : spans policy start stop = true ↔
    ∃ ceiling, Clock.shift start policy.aggregateMaxWindowSeconds = .ok ceiling ∧ start ≤ stop ∧ stop ≤ ceiling := by
  unfold spans
  rw [Bool.and_eq_true, decide_eq_true_iff, Option.any_eq_true]
  constructor
  · rintro ⟨ordered, ceiling, shifts, bounded⟩
    exact ⟨ceiling, toOption_eq_some.mp shifts, ordered, decide_eq_true_iff.mp bounded⟩
  · rintro ⟨ceiling, shifts, ordered, bounded⟩
    exact ⟨ordered, ceiling, toOption_eq_some.mpr shifts, decide_eq_true_iff.mpr bounded⟩

theorem append_shaped {store next : GatewayStore} {emission : Emission} {id : String}
    (done : append ext checkShape store emission = .ok (next, id)) :
    ∃ row, next.envelopes = store.envelopes ++ [row] ∧ row.id = id ∧ checkShape row.envelope = .ok () ∧
      Carries row.envelope emission.body := by
  obtain ⟨_, _, _, built, _, rows⟩ := append_built done
  exact ⟨_, rows, rfl, (build_eq_ok built).2.1, build_carries built⟩

namespace Folds

variable {state : Folds}

theorem opening_held (inv : Inv config state) {folded : Folded} (held : folded ∈ state.windows) (openedAt : String) :
    state.opening folded.window.key openedAt = folded.window.openedAt := by
  unfold opening
  cases found : state.windows.find? fun other => other.window.key == folded.window.key with
  | none =>
      have other := List.find?_eq_none.mp found folded held
      exact absurd (beq_self_eq_true _) other
  | some other =>
      have same : (other.window.key == folded.window.key) = true :=
        @List.find?_some Folded (fun held => held.window.key == folded.window.key) _ _ found
      have is := List.inj_on_of_nodup_map inv.distinct (List.mem_of_find?_eq_some found) held
        (beq_iff_eq.mp same)
      rw [is]
      rfl

theorem opening_fresh {key : WindowKey} (fresh : ∀ folded ∈ state.windows, folded.window.key ≠ key)
    (openedAt : String) : state.opening key openedAt = openedAt := by
  unfold opening
  have none_ : (state.windows.find? fun folded => folded.window.key == key) = none := by
    apply List.find?_eq_none.mpr
    intro folded held same
    exact fresh folded held (beq_iff_eq.mp same)
  rw [none_]
  rfl

/-- A step holds the windows that were held, but for the window a read is folded into. -/
theorem holders_step (inv : Inv config state) (event : FoldEvent) {folded : Folded}
    (held : folded ∈ (step ext checkShape config state event).holders) :
    folded ∈ state.holders ∨ ∃ key subject read openedAt readAt, event = .fold key subject read openedAt readAt ∧
      folded.window.openedAt = state.opening read.key openedAt ∧ folded.window.lastAt = readAt := by
  cases event with
  | expire deadline => exact .inl ((holders_takeOut _).mem_iff.mp held)
  | flush => exact .inl ((holders_takeOut _).mem_iff.mp held)
  | emit emission => exact .inl held
  | close index now createdAt interrupted =>
      left
      rcases @step_close_cases ext checkShape config state index now createdAt interrupted with
        ⟨first, rest, found⟩ | ⟨same, _⟩
      · exact (step_close found).holders found folded held
      · rw [same] at held
        exact held
  | fold key subject read openedAt readAt =>
      have inside := (holders_takeOut _).mem_iff.mp held
      unfold holders at inside ⊢
      dsimp only at inside
      rw [List.append_assoc] at inside ⊢
      rcases List.mem_append.mp inside with entered | other
      · rcases mem_enter entered with before | ⟨before, rfl, which⟩
        · exact .inl (List.mem_append_left _ before)
        · refine .inr ⟨key, subject, read, openedAt, readAt, rfl, ?_, rfl⟩
          rcases which with ⟨rfl, fresh⟩ | ⟨member, same⟩
          · exact (opening_fresh fresh openedAt).symm
          · show before.window.openedAt = _
            rw [← opening_held inv member openedAt, same]
            rfl
      · exact .inl (List.mem_append_right _ other)

/-- Every window's last read was folded in time, and each that is sealed passed the gateway's own checks. -/
structure Timed (policy : Stozher.Policy) (checkShape : Value → Result Unit) (config : FoldConfig)
    (state : Folds) : Prop where
  inv : Inv config state
  inTime : ∀ folded ∈ state.holders, spans policy folded.window.openedAt folded.window.lastAt = true
  shaped : ∀ entry ∈ state.sealed, ∃ row ∈ state.chain.envelopes, row.id = entry.2 ∧
    checkShape row.envelope = .ok () ∧
    ∃ subject now, Carries row.envelope (windowBody config.gateway subject entry.1.window now)

theorem step_shaped (event : FoldEvent)
    (shaped : ∀ entry ∈ state.sealed, ∃ row ∈ state.chain.envelopes, row.id = entry.2 ∧
      checkShape row.envelope = .ok () ∧
      ∃ subject now, Carries row.envelope (windowBody config.gateway subject entry.1.window now)) :
    ∀ entry ∈ (step ext checkShape config state event).sealed,
      ∃ row ∈ (step ext checkShape config state event).chain.envelopes, row.id = entry.2 ∧
        checkShape row.envelope = .ok () ∧
        ∃ subject now, Carries row.envelope (windowBody config.gateway subject entry.1.window now) := by
  cases event with
  | fold key subject read openedAt readAt => exact shaped
  | expire deadline => exact shaped
  | flush => exact shaped
  | emit emission =>
      intro entry member
      obtain ⟨row, listed, known⟩ := shaped entry member
      exact ⟨row, step_grows listed, known⟩
  | close index now createdAt interrupted =>
      rcases @step_close_cases ext checkShape config state index now createdAt interrupted with
        ⟨folded, rest, found⟩ | ⟨same, _⟩
      · have sealing := @step_close ext checkShape config state index folded rest now createdAt interrupted found
        generalize step ext checkShape config state (.close index now createdAt interrupted) = next at sealing ⊢
        generalize loses ext checkShape config state (.close index now createdAt interrupted) = lost at sealing
        cases sealing with
        | lost left among same =>
            subst same
            exact shaped
        | chained emission chain id built done same =>
            subst same
            obtain ⟨row, rows, isId, passes, carries⟩ := append_shaped done
            dsimp only
            rw [rows]
            intro entry member
            rcases List.mem_append.mp member with before | last
            · obtain ⟨held, listed, known⟩ := shaped entry before
              exact ⟨held, List.mem_append_left _ listed, known⟩
            · rw [List.mem_singleton.mp last]
              obtain ⟨signer, _, rfl⟩ := Option.map_eq_some_iff.mp built
              exact ⟨row, List.mem_append_right _ List.mem_cons_self, isId, passes, signer.2, now, carries⟩
      · rw [same]
        exact shaped

theorem Timed.step (timed : Timed policy checkShape config state) {event : FoldEvent}
    (inTime : readInTime policy state event = true) :
    Timed policy checkShape config (Folds.step ext checkShape config state event) := by
  refine ⟨timed.inv.step event, ?_, step_shaped event timed.shaped⟩
  intro folded held
  rcases holders_step timed.inv event held with before | ⟨key, subject, read, openedAt, readAt, rfl, opened, last⟩
  · exact timed.inTime folded before
  · rw [opened, last]
    exact inTime

end Folds

theorem validateAggregateWindow_eq_ok {env : Value} {start stop ceiling : String}
    (from_ : (env.index "window").getStr "from" = some start) (to_ : (env.index "window").getStr "to" = some stop)
    (shifts : Clock.shift start policy.aggregateMaxWindowSeconds = .ok ceiling) (ordered : start ≤ stop)
    (bounded : stop ≤ ceiling) : Ingest.validateAggregateWindow env policy = .ok () := by
  unfold Ingest.validateAggregateWindow
  simp only [bind_eq_ok, okOr_eq_ok, require_eq_ok]
  exact ⟨start, from_, stop, to_, (), ordered, ceiling, shifts, bounded⟩

/-- The gateway's own checks bound the counts and the samples of a window, which was folded in time. -/
theorem fits_of_shaped {env : Value} {subject now : String} {window : Window}
    (carries : Carries env (windowBody config.gateway subject window now))
    (shaped : Structure.validate ext env = .ok ()) (inTime : spans policy window.openedAt window.lastAt = true) :
    FitsWindow policy env := by
  obtain ⟨map, rfl⟩ : ∃ map, env = .object map := by
    cases env with
    | object map => exact ⟨map, rfl⟩
    | _ => cases shaped
  obtain ⟨kind, required, optional, accepted⟩ := Structure.validate_eq_ok shaped
  have isKind : (Value.object map).getStr "kind" = some "aggregate" := (windowBody_read carries).1
  have aggregates : kind = "aggregate" := by
    have held : (Value.object map).getStr "kind" = some kind := by
      unfold Value.getStr
      rw [show (Value.object map).get "kind" = some (.string kind) from accepted.hasKind]
      rfl
    rw [isKind] at held
    exact (Option.some.inj held).symm
  have counted := accepted.validCounts
  unfold Envelope.validateCounts at counted
  rw [if_pos aggregates] at counted
  have counts : (Value.object map).index "counts" = .object [("total", .ofNat window.total),
      ("by-action", .object (window.counts.map fun entry => (entry.1, .ofNat entry.2)))] := by
    rw [carries.index (by decide)]
    rfl
  have samples : (Value.object map).get "sample-hashes" = some (.array ((window.samples.take 16).map .string)) := by
    rw [carries "sample-hashes" (by decide)]
    rfl
  have spanned : (Value.object map).index "window" =
      .object [("from", .string window.openedAt), ("to", .string window.lastAt)] := by
    rw [carries.index (by decide)]
    rfl
  obtain ⟨byAction, total, sampled, known⟩ := Structure.aggregate_eq_ok (accepted.aggregate aggregates)
  obtain ⟨ceiling, shifts, ordered, bounded⟩ := spans_iff.mp inTime
  have from_ : ((Value.object map).index "window").getStr "from" = some window.openedAt := by
    rw [spanned]
    rfl
  have to_ : ((Value.object map).index "window").getStr "to" = some window.lastAt := by
    rw [spanned]
    rfl
  refine ⟨isKind, ⟨_, _, ceiling, from_, to_, shifts, ordered, bounded⟩, ⟨window.counts, ?_, ?_, ?_⟩,
    ⟨_, samples, ?_⟩, counted, validateAggregateWindow_eq_ok from_ to_ shifts ordered bounded⟩
  · rw [counts]
    rfl
  · rw [counts]
    rfl
  · have found := known.counts
    rw [show (Members.get map "counts").getD .null = _ from counts] at found
    have same : window.counts.map (fun entry => (entry.1, Value.ofNat entry.2)) = byAction := Option.some.inj found
    rw [← window.counts.length_map fun entry => (entry.1, Value.ofNat entry.2), same]
    exact known.bounded
  · have held := known.isArray
    rw [show Members.get map "sample-hashes" = _ from samples] at held
    have same : (window.samples.take 16).map .string = sampled := Value.array.inj held
    rw [same]
    exact known.sampled

/-- Every aggregate that seals a window fits the kernel's, where each read was folded in time. -/
theorem aggregates_fit (policy : Stozher.Policy) (chain : GatewayStore) (events : List FoldEvent)
    (inTime : (folding ext (Structure.validate ext) config).EachStep (.onto chain) events
      fun state event => readInTime policy state event = true) :
    (folding ext (Structure.validate ext) config).EachState (.onto chain) events fun state =>
      ∀ entry ∈ state.sealed, ∃ row ∈ state.chain.envelopes, row.id = entry.2 ∧ FitsWindow policy row.envelope := by
  have start : Folds.Timed policy (Structure.validate ext) config (.onto chain) := by
    refine ⟨@Folds.Inv.of_reachable ext (Structure.validate ext) config _ (.of_start ⟨chain, rfl⟩), ?_, ?_⟩
    · exact fun folded held => absurd held List.not_mem_nil
    · exact fun entry member => absurd member List.not_mem_nil
  have timed := inTime.states start fun state event allowed known => known.step allowed
  intro before after split entry member
  have known := timed before after split
  obtain ⟨row, listed, isId, shaped, subject, now, carries⟩ := known.shaped entry member
  have held : entry.1 ∈ ((folding ext (Structure.validate ext) config).run (.onto chain) before).holders :=
    List.mem_append_right _ (List.mem_map_of_mem member)
  exact ⟨row, listed, isId, fits_of_shaped carries shaped (known.inTime entry.1 held)⟩

end Stozher.Gateway

namespace Stozher.Deployment

open Library Library.Text Ingest Recorded Gateway

def fourPast : String := "2026-01-01T09:04:00.000Z"

def readsKey : WindowKey where
  stream := "ops:reads"
  subjectKey := opsKey
  mandateRef := opsMandate.digest
  policyVersion := "1"

def foldedWindow : Window :=
  [nine, fourPast].foldl (fun window at_ => window.add ("github.read_secret", noArguments.digest, at_))
    (.start readsKey nine foldConfig.maxSamples)

/-- The policy in force, but for the windows of aggregates, which are to be a minute long. -/
def hastyDocument (sig : Members) : Value :=
  match policyDocument sig with
  | .object members => .object (members.map fun member =>
      if member.1 = "aggregate-max-window" then (member.1, .string "PT1M") else member)
  | other => other

def hastyPolicy : Recorded where
  form := hastyDocument
  sealed := some (orgKey, signatureText
    0x7549410313eef492ba113a82a3b61d54e66acfbc355afd2bf5a8ee798b4275aa
    0x083665978c4a06a355aa3bf8ede95096a5586fb48141f78d0eac770b35956804)
  digest := hex 64 0x2d171bbcace5dcd2f4c738d22f887333e2c02a02f74738d24f0f28fe5c2c4f28

def foldedAggregate : Recorded where
  form sig := .object ([("prev-hash", .null), ("seq", .ofNat 0)] ++ sig ++ [("stream", .string "ops:reads")] ++
    windowBody gatewayConfig "agent:ops" foldedWindow fivePast)
  sealed := some (opsKey, signatureText
    0x46ab597beddcb70ed611cee1bc53bbb11fd4b3c95676775a559be2a44b9881d9
    0x41e5cfbf3777aa15dc06ee4d13171eb2a9846badca0c93c6a3b1224264a2f905)
  digest := hex 64 0x42b436533aef13825ec93ccb7e25536384d965749a13c09c302310034c0448a1

def windowsExt : External :=
  external [policy, hastyPolicy, foldedAggregate]

/-- The agent reads twice, four minutes apart, and the timer closes the window five minutes after it was opened. -/
def readTwice : List FoldEvent :=
  ([nine, fourPast].map fun at_ =>
    .fold (signingKey [foldedAggregate] opsId) "agent:ops" {
      key := readsKey
      action := "github.read_secret"
      argsHash := noArguments.digest } at_ at_) ++
    [.expire nine, .close 2 fivePast fivePast false]

def readTwiceEmitter : System Folds FoldEvent :=
  folding windowsExt (Structure.validate windowsExt) foldConfig

/-- What the two reads are sealed in, and what each policy makes of it. -/
structure ReadTwiceSeen : Prop where
  sealed : (readTwiceEmitter.run (.onto { envelopes := [] }) readTwice).sealed.map Prod.snd = [foldedAggregate.digest]
  inTime : ((Policy.parse windowsExt policy.document orgId).toOption.any fun policy =>
    readTwiceEmitter.allSteps (readInTime policy) (.onto { envelopes := [] }) readTwice) = true
  refused : ((Policy.parse windowsExt hastyPolicy.document orgId).toOption.any fun policy =>
    (readTwiceEmitter.run (.onto { envelopes := [] }) readTwice).chain.envelopes.all fun row =>
      refusal (validateAggregateWindow row.envelope policy) == some "aggregate-window-too-long") = true

theorem readTwice_seen : ReadTwiceSeen := by
  constructor <;> decide +kernel

/-- The window fits the policy in force, which lets it be five minutes long. -/
theorem readTwice_fits : ∃ ordinary, Policy.parse windowsExt policy.document orgId = .ok ordinary ∧
    (readTwiceEmitter.run (.onto { envelopes := [] }) readTwice).sealed.map Prod.snd = [foldedAggregate.digest] ∧
    readTwiceEmitter.EachState (.onto { envelopes := [] }) readTwice fun state =>
      ∀ entry ∈ state.sealed, ∃ row ∈ state.chain.envelopes, row.id = entry.2 ∧ FitsWindow ordinary row.envelope := by
  obtain ⟨ordinary, parsed, inTime⟩ := (Option.any_eq_true _ _).mp readTwice_seen.inTime
  exact ⟨ordinary, toOption_eq_some.mp parsed, readTwice_seen.sealed,
    aggregates_fit ordinary _ _ (System.eachStep_of_allSteps inTime)⟩

/-- It does not fit a policy that lets it be one minute long, for the timer does not know of it. -/
theorem readTwice_misfits : ¬ ∀ (hasty : Stozher.Policy) (chain : GatewayStore) (events : List FoldEvent),
    readTwiceEmitter.EachState (.onto chain) events fun state =>
      ∀ entry ∈ state.sealed, ∃ row ∈ state.chain.envelopes, row.id = entry.2 ∧ FitsWindow hasty row.envelope := by
  intro claim
  obtain ⟨hasty, _, refused⟩ := (Option.any_eq_true _ _).mp readTwice_seen.refused
  have last := claim hasty { envelopes := [] } readTwice readTwice [] (List.append_nil _).symm
  have digest : foldedAggregate.digest ∈
      (readTwiceEmitter.run (.onto { envelopes := [] }) readTwice).sealed.map Prod.snd := by
    rw [readTwice_seen.sealed]
    exact List.mem_cons_self
  obtain ⟨entry, member, _⟩ := List.mem_map.mp digest
  obtain ⟨row, listed, _, fits⟩ := last entry member
  have other := List.all_eq_true.mp refused row listed
  rw [fits.timed] at other
  cases other

end Stozher.Deployment
