import Stozher.Gateway.Approval
import Stozher.Classification
import Stozher.InstantOrder
import Stozher.Ingest.Kinds
import Stozher.Ingest.Documents
import Stozher.Deployment

namespace Stozher

open Library Ingest

variable {ext : External}

namespace Clock

variable {duration : String} {seconds : Int}

theorem parseDurationSeconds_nonneg (parsed : parseDurationSeconds duration = .ok seconds) : 0 ≤ seconds := by
  unfold parseDurationSeconds at parsed
  dsimp only at parsed
  split at parsed
  · simp only [bind_eq_ok, pure_eq_ok] at parsed
    obtain ⟨_, _, _, _, _, _, _, _, _, _, scan, _, _, _, _, _, rfl⟩ := parsed
    exact Int.natCast_nonneg scan.total
  · cases parsed

/-- The last instant of the year 2999. -/
def lastOf2999 : String :=
  "2999-12-31T23:59:59.999Z"

/-- The seconds from the end of the year 2999 to the end of the year 9999. -/
def reach : Int :=
  220898620800

theorem lastOf2999_parse : parseTimestamp lastOf2999 = .ok 32503679999999 := by
  decide +kernel

theorem shift_lastOf2999 {text : String} (shifted : shift lastOf2999 seconds = .ok text) : seconds ≤ reach := by
  obtain ⟨⟨_, last⟩, _⟩ := (shift_eq_ok lastOf2999_parse).mp shifted
  unfold reach
  omega

/-- A duration within the reach moves every instant up to the end of 2999 to one that has a text. -/
theorem shift_of_reach {at_ : String} {millis : Int} (instant : parseTimestamp at_ = .ok millis)
    (early : at_ ≤ lastOf2999) (forward : 0 ≤ seconds) (within : seconds ≤ reach) :
    ∃ ceiling, shift at_ seconds = .ok ceiling := by
  obtain ⟨first, _⟩ := (parse_spec instant).1
  have before := (le_iff_of_parse instant lastOf2999_parse).mp early
  unfold reach at within
  refine ⟨formatMillis (millis + seconds * 1000), (shift_eq_ok instant).mpr ⟨⟨?_, ?_⟩, rfl⟩⟩
  · omega
  · omega

end Clock

namespace Policy

variable {policy : Policy} {document : Value} {policyKey : KeyId}

/-- The seconds after an instant at which the policy ends what begins then: a standing mandate, the
evidence of each class, an aggregate's window. -/
def ceilingSeconds (policy : Policy) : List Int :=
  secondsOr ((policy.document.index "delegation").getStr "max-standing-lifetime") (90 * 86400) ::
    policy.aggregateMaxWindowSeconds ::
      Envelope.classes.map fun class_ => secondsOr ((policy.document.index "evidence-ttl").getStr class_) 0

/-- A text that reads as a duration. -/
def Dated (found : Option String) (seconds : Int) : Prop :=
  ∃ duration, found = some duration ∧ Clock.parseDurationSeconds duration = .ok seconds

theorem Dated.secondsOr {found : Option String} {seconds : Int} (dated : Dated found seconds) (default_ : Int) :
    secondsOr found default_ = seconds := by
  obtain ⟨duration, rfl, parsed⟩ := dated
  unfold Policy.secondsOr
  rw [Option.map_some, parsed]

theorem Dated.nonneg {found : Option String} {seconds : Int} (dated : Dated found seconds) : 0 ≤ seconds := by
  obtain ⟨duration, _, parsed⟩ := dated
  exact Clock.parseDurationSeconds_nonneg parsed

/-- Every duration that a ceiling is reckoned from is one. -/
structure Durations (policy : Policy) : Prop where
  lifetime : ∃ seconds, Dated ((policy.document.index "delegation").getStr "max-standing-lifetime") seconds
  window : ∃ seconds, Dated (policy.document.getStr "aggregate-max-window") seconds
  retention : ∀ class_ ∈ Envelope.classes,
    ∃ seconds, Dated ((policy.document.index "evidence-ttl").getStr class_) seconds

theorem parse_durations (parsed : parse ext document policyKey = .ok policy) : Durations policy := by
  have passed := parse_parsed parsed
  obtain ⟨map, object, header⟩ := passed.header
  have delegated := passed.delegation
  have retained := passed.retention
  rw [← passed.kept] at object delegated retained
  constructor
  · unfold validateDelegation at delegated
    simp only [bind_eq_ok, okOr_eq_ok] at delegated
    obtain ⟨delegation, isObject, _, _, _, _, lifetime, isLifetime, seconds, isDuration, _⟩ := delegated
    exact ⟨seconds, lifetime, (Value.getStr_of_asObject isObject _).trans isLifetime, isDuration⟩
  · unfold validateHeader at header
    simp only [bind_eq_ok] at header
    obtain ⟨_, _, _, _, _, _, _, _, _, _, _, _, _, _, _, each, _⟩ := header
    have window := forEach_eq_ok.mp each "aggregate-max-window" (by decide)
    unfold stringMember at window
    simp only [bind_eq_ok, okOr_eq_ok] at window
    obtain ⟨duration, isDuration, seconds, read, _⟩ := window
    exact ⟨seconds, duration, (Value.getStr_of_asObject object _).trans isDuration, read⟩
  · intro class_ known
    unfold validateRetention at retained
    simp only [bind_eq_ok, okOr_eq_ok] at retained
    obtain ⟨ttl, isObject, _, _, each⟩ := retained
    obtain ⟨duration, isDuration, seconds, read, _⟩ := by
      have found := forEach_eq_ok.mp each class_ known
      simp only [bind_eq_ok, okOr_eq_ok] at found
      exact found
    exact ⟨seconds, duration, (Value.getStr_of_asObject isObject _).trans isDuration, read⟩

end Policy

/-- The refusals of an instant that has no text, and of a text that is no instant. -/
def instantRefusals : List String :=
  ["encoding-bad-timestamp", "encoding-bad-duration"]

/-- A refusal for another reason than an instant. -/
def OtherThanInstant (e : Error) : Prop :=
  e.code ∉ instantRefusals

theorem otherThanInstant {code detail : String} (other : code ∉ instantRefusals) :
    OtherThanInstant (err code detail) :=
  other

section

variable {policy : Policy} {env : Value}

theorem canonicalize_refuses (value : Value) : Refuses OtherThanInstant (Jcs.canonicalize value) := by
  unfold Jcs.canonicalize
  exact refuses_bind (Jcs.writeValue_refuses (otherThanInstant (by decide)) value) fun _ => refuses_pure _

theorem collectPayload_refuses (emittedAt : String) (plan : AppendPlan) (payload : Value) :
    Refuses OtherThanInstant (collectPayload env emittedAt plan payload) := by
  have octets : ∀ mediaType body, Refuses OtherThanInstant (payloadOctets mediaType body) := by
    intro mediaType body
    unfold payloadOctets Payload.hexDecode
    apply refuses_ite
    · exact refuses_bind (canonicalize_refuses body) fun _ => refuses_pure _
    · exact refuses_bind (refuses_okOr (otherThanInstant (by decide))) fun _ => refuses_pure _
  unfold collectPayload
  refine refuses_bind (refuses_okOr (otherThanInstant (by decide))) fun _ => ?_
  refine refuses_bind (refuses_okOr (otherThanInstant (by decide))) fun _ => ?_
  exact refuses_bind (octets _ _) fun _ => refuses_pure _

/-- Evidence whose ceiling is defined is not refused for an instant. -/
theorem collectPayloads_refuses {payloads : List Value} {class_ at_ ceiling : String} {plan : AppendPlan}
    (emitted : env.getStr "emitted-at" = some at_) (defined : policy.retentionCeiling class_ at_ = .ok ceiling) :
    Refuses OtherThanInstant (collectPayloads env payloads policy (some class_) plan) := by
  have each := refuses_foldChecked (@collectPayload_refuses env at_) plan payloads
  unfold collectPayloads
  rw [emitted, Option.getD_some]
  cases env.get "evidence" with
  | none => exact each
  | some evidence =>
      apply refuses_ite
      · refine refuses_bind (refuses_okOr (otherThanInstant (by decide))) fun _ => ?_
        rw [defined, ok_bind]
        exact refuses_bind (refuses_require (otherThanInstant (by decide))) fun _ => each
      · exact refuses_pure plan

/-- Evidence whose ceiling is not defined is refused as the ceiling is. -/
theorem collectPayloads_locked {payloads : List Value} {class_ at_ claimed : String} {evidence : Value}
    {plan : AppendPlan} {e : Error} (emitted : env.getStr "emitted-at" = some at_)
    (carried : env.get "evidence" = some evidence) (kept : evidence.getStr "retain-until" = some claimed)
    (stored : policy.storesPayloads class_ = true) (undefined : policy.retentionCeiling class_ at_ = .error e) :
    collectPayloads env payloads policy (some class_) plan = .error e := by
  unfold collectPayloads
  rw [emitted, Option.getD_some, carried]
  dsimp only
  rw [if_pos stored, okOr_eq_ok.mpr kept, ok_bind, undefined]
  rfl

/-- A root's grant that is well formed is refused under a ceiling for outliving it only. -/
theorem verifyGrant_refuses {mandate : Value} {kind ceiling : String} {roots : List KeyId}
    (isKind : mandate.getStr "mandate-kind" = some kind) (root : kind ∈ ["interactive", "standing"])
    (granted : Mandate.verifyGrant ext mandate none { roots, maxStandingNotAfter := none } = .ok ()) :
    Refuses OtherThanInstant
      (Mandate.verifyGrant ext mandate none { roots, maxStandingNotAfter := some ceiling }) := by
  have isRoot : kind = "interactive" ∨ kind = "standing" := by
    simpa only [List.mem_cons, List.not_mem_nil, or_false] using root
  unfold Mandate.verifyGrant at granted ⊢
  simp only [bind_eq_ok, okOr_eq_ok, isKind, Option.some.injEq, exists_eq_left', if_pos isRoot] at granted
  obtain ⟨⟨grantorKey, granteeKey, notAfter, ownMaxDepth⟩, shape, role, isRole, granted⟩ := granted
  rw [shape, ok_bind]
  dsimp only at granted ⊢
  rw [okOr_eq_ok.mpr isKind, ok_bind, isRole, ok_bind, if_pos isRoot]
  unfold Mandate.verifyRootGrant at granted ⊢
  simp only [bind_eq_ok] at granted
  obtain ⟨_, checked, _, subject, _, isAgent, _⟩ := granted
  rw [checked, ok_bind, subject, ok_bind, isAgent, ok_bind]
  exact refuses_require (otherThanInstant (by decide))

/-- A root's grant whose ceiling is defined is not refused for an instant. -/
theorem validateMandateGrant_refuses {store : Store} {roots : List KeyId} {plan : AppendPlan} {mandate : Value}
    {kind at_ ceiling : String} (carried : env.get "mandate" = some mandate)
    (isKind : mandate.getStr "mandate-kind" = some kind) (root : kind ∈ ["interactive", "standing"])
    (issued : mandate.getStr "issued-at" = some at_)
    (granted : Mandate.verifyGrant ext mandate none { roots, maxStandingNotAfter := none } = .ok ())
    (defined : policy.standingLifetimeCeiling at_ = .ok ceiling) :
    Refuses OtherThanInstant (validateMandateGrant ext store env policy roots plan) := by
  have noParent : grantParent store mandate = .ok none := by
    have notDelegated : kind ≠ "delegated" := by
      rintro rfl
      exact absurd root (by decide)
    unfold grantParent
    rw [isKind]
    split
    · rename_i same _
      exact absurd (Option.some.inj same) notDelegated
    · rfl
  unfold validateMandateGrant
  rw [okOr_eq_ok.mpr carried, ok_bind, okOr_eq_ok.mpr issued, ok_bind, noParent, ok_bind, defined, ok_bind]
  refine refuses_bind (verifyGrant_refuses isKind root granted) fun _ => ?_
  unfold projectMandate Signed.objectId
  exact refuses_bind (Jcs.objectHash_refuses ext (otherThanInstant (by decide)) _) fun _ => refuses_pure _

end

/-- Under the policy every ceiling that is reckoned from the instant is defined, and so neither the evidence
of a policy change nor the grant of a root is refused for an instant. -/
structure Policy.Replaceable (ext : External) (policy : Policy) (at_ : String) : Prop where
  lifetime : ∃ ceiling, policy.standingLifetimeCeiling at_ = .ok ceiling
  retention : ∀ class_ ∈ Envelope.classes, ∃ ceiling, policy.retentionCeiling class_ at_ = .ok ceiling
  window : ∃ ceiling, Clock.shift at_ policy.aggregateMaxWindowSeconds = .ok ceiling
  change : ∀ env payloads plan, ∀ class_ ∈ Envelope.classes, env.getStr "emitted-at" = some at_ →
    Refuses OtherThanInstant (collectPayloads env payloads policy (some class_) plan)
  grant : ∀ store env roots plan mandate, ∀ kind ∈ ["interactive", "standing"],
    env.get "mandate" = some mandate → mandate.getStr "mandate-kind" = some kind →
      mandate.getStr "issued-at" = some at_ →
        Mandate.verifyGrant ext mandate none { roots, maxStandingNotAfter := none } = .ok () →
          Refuses OtherThanInstant (validateMandateGrant ext store env policy roots plan)

namespace Policy

variable {policy : Policy} {document : Value} {policyKey : KeyId}

theorem Durations.lifetimeCeiling (durations : Durations policy) (at_ : String) :
    ∃ seconds, seconds = secondsOr ((policy.document.index "delegation").getStr "max-standing-lifetime") (90 * 86400) ∧
      0 ≤ seconds ∧ policy.standingLifetimeCeiling at_ = Clock.shift at_ seconds := by
  obtain ⟨seconds, dated⟩ := durations.lifetime
  refine ⟨seconds, (dated.secondsOr _).symm, dated.nonneg, ?_⟩
  obtain ⟨duration, isDuration, parsed⟩ := dated
  unfold standingLifetimeCeiling Clock.addDuration
  rw [isDuration, Option.getD_some]
  dsimp only
  rw [parsed, ok_bind]

theorem Durations.window_nonneg (durations : Durations policy) : 0 ≤ policy.aggregateMaxWindowSeconds := by
  obtain ⟨seconds, dated⟩ := durations.window
  unfold aggregateMaxWindowSeconds
  rw [dated.secondsOr]
  exact dated.nonneg

theorem Durations.retentionCeiling (durations : Durations policy) {class_ : String}
    (known : class_ ∈ Envelope.classes) (at_ : String) :
    ∃ seconds, seconds = secondsOr ((policy.document.index "evidence-ttl").getStr class_) 0 ∧
      0 ≤ seconds ∧ policy.retentionCeiling class_ at_ = Clock.shift at_ seconds := by
  obtain ⟨seconds, dated⟩ := durations.retention class_ known
  refine ⟨seconds, (dated.secondsOr _).symm, dated.nonneg, ?_⟩
  obtain ⟨duration, isDuration, parsed⟩ := dated
  unfold Policy.retentionCeiling Clock.addDuration
  rw [okOr_eq_ok.mpr isDuration, ok_bind, parsed, ok_bind]

theorem mem_ceilingSeconds {seconds : Int} : seconds ∈ policy.ceilingSeconds ↔
    seconds = secondsOr ((policy.document.index "delegation").getStr "max-standing-lifetime") (90 * 86400) ∨
      seconds = policy.aggregateMaxWindowSeconds ∨
        ∃ class_ ∈ Envelope.classes, secondsOr ((policy.document.index "evidence-ttl").getStr class_) 0 = seconds := by
  unfold ceilingSeconds
  rw [List.mem_cons, List.mem_cons, List.mem_map]

/-- Ceilings within the reach of the fixed form are defined at every instant up to the end of 2999. -/
theorem replaceable_of_reach (durations : Durations policy)
    (within : ∀ seconds ∈ policy.ceilingSeconds, seconds ≤ Clock.reach) {at_ : String} {millis : Int}
    (instant : Clock.parseTimestamp at_ = .ok millis) (early : at_ ≤ Clock.lastOf2999) :
    policy.Replaceable ext at_ := by
  have lifetime : ∃ ceiling, policy.standingLifetimeCeiling at_ = .ok ceiling := by
    obtain ⟨seconds, isLifetime, forward, isCeiling⟩ := durations.lifetimeCeiling at_
    rw [isCeiling]
    exact Clock.shift_of_reach instant early forward (within seconds (mem_ceilingSeconds.mpr (.inl isLifetime)))
  have retention : ∀ class_ ∈ Envelope.classes, ∃ ceiling, policy.retentionCeiling class_ at_ = .ok ceiling := by
    intro class_ known
    obtain ⟨seconds, isRetention, forward, isCeiling⟩ := durations.retentionCeiling known at_
    have listed := mem_ceilingSeconds.mpr (.inr (.inr ⟨class_, known, isRetention.symm⟩))
    rw [isCeiling]
    exact Clock.shift_of_reach instant early forward (within seconds listed)
  constructor
  · exact lifetime
  · exact retention
  · have listed : policy.aggregateMaxWindowSeconds ∈ policy.ceilingSeconds :=
      mem_ceilingSeconds.mpr (.inr (.inl rfl))
    exact Clock.shift_of_reach instant early durations.window_nonneg (within _ listed)
  · intro env payloads plan class_ known emitted
    obtain ⟨ceiling, defined⟩ := retention class_ known
    exact collectPayloads_refuses emitted defined
  · intro store env roots plan mandate kind root carried isKind issued granted
    obtain ⟨ceiling, defined⟩ := lifetime
    exact validateMandateGrant_refuses carried isKind root issued granted defined

/-- Ceilings that are defined at the end of 2999 are within the reach of the fixed form. -/
theorem reach_of_replaceable (durations : Durations policy)
    (replaceable : policy.Replaceable ext Clock.lastOf2999) :
    ∀ seconds ∈ policy.ceilingSeconds, seconds ≤ Clock.reach := by
  intro seconds listed
  rcases mem_ceilingSeconds.mp listed with isLifetime | isWindow | ⟨class_, known, isRetention⟩
  · obtain ⟨ceiling, defined⟩ := replaceable.lifetime
    obtain ⟨lifetime, same, _, isCeiling⟩ := durations.lifetimeCeiling Clock.lastOf2999
    rw [isLifetime, ← same]
    exact Clock.shift_lastOf2999 (isCeiling ▸ defined)
  · obtain ⟨ceiling, defined⟩ := replaceable.window
    rw [isWindow]
    exact Clock.shift_lastOf2999 defined
  · obtain ⟨ceiling, defined⟩ := replaceable.retention class_ known
    obtain ⟨retention, same, _, isCeiling⟩ := durations.retentionCeiling known Clock.lastOf2999
    rw [← isRetention, ← same]
    exact Clock.shift_lastOf2999 (isCeiling ▸ defined)

/-- A policy never locks the deployment out, from an instant to the end of 2999, exactly when each of its
ceilings is less than seven thousand years off. -/
theorem never_locked_out_iff (parsed : parse ext document policyKey = .ok policy) {since : String}
    (early : since ≤ Clock.lastOf2999) :
    (∀ at_ millis, Clock.parseTimestamp at_ = .ok millis → since ≤ at_ → at_ ≤ Clock.lastOf2999 →
      policy.Replaceable ext at_) ↔ ∀ seconds ∈ policy.ceilingSeconds, seconds ≤ Clock.reach := by
  have durations := parse_durations parsed
  constructor
  · intro replaceable
    exact reach_of_replaceable durations
      (replaceable Clock.lastOf2999 _ Clock.lastOf2999_parse early (le_refl _))
  · intro within at_ millis instant _ before
    exact replaceable_of_reach durations within instant before

end Policy

end Stozher

namespace Stozher.Deployment

open Library Library.Text Ingest Recorded

/-- The policy in force, but for consequential evidence, which is to be kept for 27,000 years. -/
def unendingDocument (sig : Members) : Value :=
  match policyDocument sig with
  | .object members => .object (members.map fun member =>
      if member.1 = "evidence-ttl" then
        (member.1, .object [("benign", .string "P30D"), ("consequential", .string "P9999999D"),
          ("prohibited", .string "P3650D"), ("read", .string "P0D")])
      else member)
  | other => other

def unendingPolicy : Recorded where
  form := unendingDocument
  sealed := some (orgKey, signatureText
    0xbba330df69281f132541e17477e2a04c68a0302bb59bcdb374305d636940b99a
    0x66baafd70a3478d82e9619aa24eb2928ac577f51f40c9bc36ff478c1d5182505)
  digest := hex 64 0x7a708c8734559644f84bc3e18d29b7165bf48ffb1d0dcf3563e55c3ca63d8ef0

def unendingExt : External :=
  external [unendingPolicy]

/-- What the policies read as, and the ceiling of a consequential change under the unending one. -/
structure CeilingsSeen : Prop where
  ordinary : (Policy.parse ext policy.document orgId).toOption.map Policy.ceilingSeconds =
    some [7776000, 300, 0, 2592000, 31536000, 315360000]
  unending : (Policy.parse unendingExt unendingPolicy.document orgId).toOption.map (fun policy =>
    (policy.storesPayloads "consequential", refusal (policy.retentionCeiling "consequential" nine))) =
      some (true, some "encoding-bad-timestamp")
  instant : isOk (Clock.parseTimestamp nine) = true
  change : (policyChange.document.getStr "emitted-at", (policyChange.document.get "evidence").map fun evidence =>
    (evidence.getStr "retain-until").isSome) = (some nine, some true)

theorem ceilings_seen : CeilingsSeen := by
  constructor <;> decide +kernel

theorem nine_early : nine ≤ Clock.lastOf2999 := by
  decide +kernel

/-- The policy in force keeps nothing for as long as seven thousand years. -/
theorem ordinary_never_locks_out :
    ∃ ordinary, Policy.parse ext policy.document orgId = .ok ordinary ∧
      ∀ at_ millis, Clock.parseTimestamp at_ = .ok millis → nine ≤ at_ → at_ ≤ Clock.lastOf2999 →
        ordinary.Replaceable ext at_ := by
  have seen := ceilings_seen.ordinary
  cases parsed : Policy.parse ext policy.document orgId with
  | error e =>
      rw [parsed] at seen
      cases seen
  | ok ordinary =>
      rw [parsed] at seen
      have ceilings : ordinary.ceilingSeconds = [7776000, 300, 0, 2592000, 31536000, 315360000] :=
        Option.some.inj seen
      refine ⟨ordinary, rfl, (Policy.never_locked_out_iff parsed nine_early).mpr ?_⟩
      rw [ceilings]
      decide

/-- Under a policy that keeps evidence for too long, no change of policy that carries its document is taken. -/
theorem unending_locks_out :
    ∃ unending error, Policy.parse unendingExt unendingPolicy.document orgId = .ok unending ∧
      (∀ payloads plan, collectPayloads policyChange.document payloads unending (some "consequential") plan =
        .error error) ∧ error.code = "encoding-bad-timestamp" ∧
      ¬ ∀ at_ millis, Clock.parseTimestamp at_ = .ok millis → nine ≤ at_ → at_ ≤ Clock.lastOf2999 →
        unending.Replaceable unendingExt at_ := by
  have seen := ceilings_seen.unending
  have change := ceilings_seen.change
  rw [Prod.mk.injEq, Option.map_eq_some_iff] at change
  obtain ⟨emitted, evidence, carried, kept⟩ := change
  obtain ⟨claimed, isClaimed⟩ := Option.isSome_iff_exists.mp kept
  obtain ⟨millis, instant⟩ := isOk_iff.mp ceilings_seen.instant
  cases parsed : Policy.parse unendingExt unendingPolicy.document orgId with
  | error e =>
      rw [parsed] at seen
      cases seen
  | ok unending =>
      rw [parsed] at seen
      have both := Option.some.inj seen
      rw [Prod.mk.injEq] at both
      obtain ⟨stored, refused⟩ := both
      obtain ⟨error, undefined, code⟩ := refusal_eq_some refused
      refine ⟨unending, error, rfl, ?_, code, ?_⟩
      · intro payloads plan
        exact collectPayloads_locked emitted carried isClaimed stored undefined
      · intro claim
        have replaceable := claim nine millis instant (le_refl _) nine_early
        obtain ⟨ceiling, defined⟩ := replaceable.retention "consequential" (by decide)
        rw [undefined] at defined
        cases defined

end Stozher.Deployment
