import Stozher.CanonicalFixed
import Stozher.DurationAgreement
import Stozher.Gateway
import Stozher.Gateway.Bundle
import Stozher.PolicyBundle
import Stozher.PolicyVouching

namespace Stozher

open Library

variable {ext : External} {decimal : Char → Option Nat}

/-- Where both sides read a duration, they read the same number of seconds. -/
theorem Durations.same_seconds (ascii : AsciiDigits decimal) {text : String} {seconds : Int} {total : Nat}
    (kernel : Clock.parseDurationSeconds text = .ok seconds) (gateway : Gateway.Durations.parseDuration decimal text = .ok total) :
    seconds = total := by
  obtain ⟨spelling, legal, _, isText, _, rfl⟩ := (parseDurationSeconds_iff ascii).mp kernel
  obtain ⟨other, legal', _, _, isText', rfl⟩ := (parseDuration_iff ascii).mp gateway
  rw [Spelling.unique ascii legal legal' (isText.trans isText'.symm)]

namespace Gateway

open Jcs

variable {policyKey : Option String} {value written : Value}

theorem get_isSome_written (done : writeValue value = .ok written) (name : String) :
    (written.get name).isSome = (value.get name).isSome := by
  rcases Signed.get_written done name with ⟨before, after⟩ | ⟨member, other, before, after, _⟩
  · rw [before, after]
  · rw [before, after]
    rfl

/-- A policy is verified in its canonical form as it is as it stands. -/
theorem Policy.verified_written (done : writeValue value = .ok written) :
    (∃ policy, Policy.verified ext written policyKey = .ok policy) ↔
      ∃ policy, Policy.verified ext value policyKey = .ok policy := by
  have isObject : written.isObject = value.isObject := by
    have held : ∀ value : Value, value.isObject = value.asObject.isSome := fun value => by cases value <;> rfl
    rcases asObject_written done with ⟨before, after⟩ | ⟨members, others, before, after, _⟩
    · rw [held, held, before, after]
    · rw [held, held, before, after]
      rfl
  unfold Policy.verified
  simp only [bind_eq_ok, require_eq_ok, okOr_eq_ok, forEach_eq_ok, pure_eq_ok, isObject, Signed.getStr_written done,
    Signed.verifySignedObject_written done, get_isSome_written done]
  constructor
  · intro verified
    obtain ⟨_, first, object, second, version, third, kind, signer, signed, fourth, key, fifth, complete, rfl⟩ := verified
    exact ⟨_, first, object, second, version, third, kind, signer, signed, fourth, key, fifth, complete, rfl⟩
  · intro verified
    obtain ⟨_, first, object, second, version, third, kind, signer, signed, fourth, key, fifth, complete, rfl⟩ := verified
    exact ⟨_, first, object, second, version, third, kind, signer, signed, fourth, key, fifth, complete, rfl⟩

theorem RevocationFeed.isVerifiable_written (done : writeValue value = .ok written) :
    RevocationFeed.isVerifiable ext written = RevocationFeed.isVerifiable ext value := by
  rw [Bool.eq_iff_iff, RevocationFeed.isVerifiable_iff, RevocationFeed.isVerifiable_iff, Signed.verifySignedObject_written done]
  simp only [Signed.getStr_written done]

theorem MandateWalk.revocationInstant_written (done : writeValue value = .ok written) :
    MandateWalk.revocationInstant ext written = MandateWalk.revocationInstant ext value := by
  unfold MandateWalk.revocationInstant
  rw [Signed.verifySignedObject_written done, Signed.getStr_written done, Signed.getStr_written done]

/-- What is read of a list of documents is read of their canonical forms. -/
theorem map_written {α : Type} (read : Value → α)
    (same : ∀ {value written : Value}, writeValue value = .ok written → read written = read value)
    {items others : List Value} (done : writeItems items = .ok others) : others.map read = items.map read := by
  induction items generalizing others with
  | nil =>
      cases done
      rfl
  | cons item rest ih =>
      simp only [writeItems, bind_eq_ok, pure_eq_ok] at done
      obtain ⟨first, one, rest', each, rfl⟩ := done
      rw [List.map_cons, List.map_cons, same one, ih each]

end Gateway

namespace PolicyBundle

open Gateway

/-- What an exported document says, and who signed it. -/
structure Carries (ext : External) (contents : Contents) (signer : KeyId) (document policy : Value)
    (documents : List Value) : Prop where
  policyWritten : Jcs.writeValue contents.policy = .ok policy
  revocationsWritten : Jcs.writeItems contents.revocations = .ok documents
  version : document.getStr "v" = some "stozher/0.1"
  kind : document.getStr "kind" = some "policy-bundle"
  bundleVersion : document.get "bundle-version" = some (.nat bundleVersion)
  signed : Signed.verifySignedObject ext document = .ok signer
  hashed : ∃ id, Signed.objectId ext document = .ok id
  exportedAt : document.get "exported-at" = some (.string contents.now)
  maxAge : document.get "max-age" = some (.string contents.maxAge)
  policy : document.get "policy" = some policy
  revocations : document.get "revocations" = some (.array documents)
  anchor : (document.get "anchor").isSome = true

/-- When an exported bundle is loaded: its signer is enrolled, its age can be read and has not passed, and its policy
is one to enforce. -/
structure Loads (ext : External) (decimal : Char → Option Nat) (contents : Contents) (signer : KeyId) (expiresAt : String)
    (roots : List String) (policyKey : Option String) (now : String) : Prop where
  enrolled : signer.text ∈ roots
  readable : ∃ total, Gateway.Durations.parseDuration decimal contents.maxAge = .ok total
  unexpired : now ≤ expiresAt
  enforceable : ∃ policy, Gateway.Policy.verified ext contents.policy policyKey = .ok policy

variable {contents : Contents} {seconds : Int} {key : Signed.SigningKey} {exported : Exported} {signer : KeyId}
  {document policy : Value} {documents : List Value} {roots : List String} {policyKey : Option String} {now : String}

/-- An exported document carries the canonical forms of what it was exported of. -/
theorem Exports.carries (signs : key.Signs ext) (exports : Exports ext contents seconds key exported) :
    ∃ policy documents, Carries ext contents key.id exported.canonical.tree policy documents := by
  obtain ⟨signed, made, canonical⟩ := exports.signed
  have done : Jcs.writeValue signed = .ok exported.canonical.tree := by
    unfold Jcs.canonicalize at canonical
    simp only [bind_eq_ok, pure_eq_ok] at canonical
    obtain ⟨tree, done, same⟩ := canonical
    rw [done, ← same]
  have member : ∀ {name : String} {value : Value}, name ≠ "sig" →
      (body contents.policy contents.revocations contents.anchor contents.maxAge contents.now).get name = some value →
        ∃ other, exported.canonical.tree.get name = some other ∧ Jcs.writeValue value = .ok other := by
    intro name value other named
    have held : signed.get name = some value := (signObject_get made other).trans named
    rcases Signed.get_written done name with ⟨before, _⟩ | ⟨first, second, before, after, one⟩
    · rw [held] at before
      cases before
    · rw [held] at before
      cases before
      exact ⟨second, after, one⟩
  have text : ∀ {name text : String}, name ≠ "sig" →
      (body contents.policy contents.revocations contents.anchor contents.maxAge contents.now).get name =
        some (.string text) → exported.canonical.tree.get name = some (.string text) := by
    intro name text other named
    obtain ⟨_, after, one⟩ := member other named
    cases one
    exact after
  obtain ⟨policy, hasPolicy, policyWritten⟩ := @member "policy" _ (by decide) rfl
  obtain ⟨listed, hasListed, listedWritten⟩ := @member "revocations" _ (by decide) rfl
  obtain ⟨anchor, hasAnchor, _⟩ := @member "anchor" _ (by decide) rfl
  obtain ⟨number, hasNumber, numberWritten⟩ := @member "bundle-version" _ (by decide) rfl
  simp only [Jcs.writeValue, bind_eq_ok, pure_eq_ok] at listedWritten
  obtain ⟨documents, revocationsWritten, rfl⟩ := listedWritten
  have one : number = .nat bundleVersion := by
    unfold Value.nat at numberWritten ⊢
    rw [Jcs.writeValue, Store.canonicalNumber_of_exact (by decide) (by decide)] at numberWritten
    exact (Except.ok.inj numberWritten).symm
  refine ⟨policy, documents, ?_⟩
  constructor
  · exact policyWritten
  · exact revocationsWritten
  · unfold Value.getStr
    rw [@text "v" _ (by decide) rfl]
    rfl
  · unfold Value.getStr
    rw [@text "kind" _ (by decide) rfl]
    rfl
  · rw [hasNumber, one]
  · rw [Signed.verifySignedObject_written done]
    exact Signed.verifySignedObject_signObject signs made
  · unfold Signed.objectId Jcs.objectHash Jcs.canonicalize
    rw [Jcs.writeValue_written signed done]
    exact ⟨_, rfl⟩
  · exact text (by decide) rfl
  · exact text (by decide) rfl
  · exact hasPolicy
  · exact hasListed
  · rw [hasAnchor]
    rfl

/-- The expiry the gateway computes is the one the kernel announced, where the gateway reads the age. -/
theorem Exports.expiry (ascii : Durations.AsciiDigits decimal) (exports : Exports ext contents seconds key exported)
    {expiresAt : String} : Bundle.expiry decimal contents.now contents.maxAge = .ok expiresAt ↔
      (∃ total, Gateway.Durations.parseDuration decimal contents.maxAge = .ok total) ∧ exported.expiresAt = expiresAt := by
  obtain ⟨parsed, positive⟩ := exports.age
  have moved := exports.expires
  have read : ∃ millis, Clock.parseTimestamp contents.now = .ok millis := by
    unfold Clock.shift at moved
    obtain ⟨millis, read, _⟩ := bind_eq_ok.mp moved
    exact ⟨millis, read⟩
  unfold Bundle.expiry
  simp only [bind_eq_ok, mapError_eq_ok, require_eq_ok]
  constructor
  · intro expires
    obtain ⟨total, aged, _, _, _, _, shifted⟩ := expires
    rw [← Durations.same_seconds ascii parsed aged, moved] at shifted
    exact ⟨⟨total, aged⟩, Except.ok.inj shifted⟩
  · intro expires
    obtain ⟨⟨total, aged⟩, rfl⟩ := expires
    obtain ⟨millis, read⟩ := read
    have same := Durations.same_seconds ascii parsed aged
    refine ⟨total, aged, (), by omega, millis, read, ?_⟩
    rw [← same]
    exact moved

/-- An exported document passes every check of the gateway's exactly when it loads. -/
theorem Carries.passes_iff (ascii : Durations.AsciiDigits decimal) (exports : Exports ext contents seconds key exported)
    (carries : Carries ext contents signer document policy documents) :
    (∃ checked, Bundle.Passes ext decimal roots policyKey document now checked) ↔
      Loads ext decimal contents signer exported.expiresAt roots policyKey now := by
  have at_ : Bundle.strOf ext (document.get "exported-at") = contents.now := by
    rw [carries.exportedAt]
    rfl
  have age : Bundle.strOf ext (document.get "max-age") = contents.maxAge := by
    rw [carries.maxAge]
    rfl
  have inside : document.index "policy" = policy := by
    unfold Value.index
    rw [carries.policy]
    rfl
  have listed : document.index "revocations" = .array documents := by
    unfold Value.index
    rw [carries.revocations]
    rfl
  have verified : (∃ held, Gateway.Policy.verified ext policy policyKey = .ok held) ↔
      ∃ held, Gateway.Policy.verified ext contents.policy policyKey = .ok held :=
    Gateway.Policy.verified_written carries.policyWritten
  constructor
  · intro passes
    obtain ⟨checked, passes⟩ := passes
    obtain ⟨other, signed, enrolled⟩ := passes.signer
    obtain ⟨expiresAt, expires, unexpired⟩ := passes.unexpired
    rw [passes.exportedAt, at_, age, exports.expiry ascii] at expires
    obtain ⟨readable, rfl⟩ := expires
    have vouched := passes.policy
    rw [inside] at vouched
    constructor
    · rw [carries.signed] at signed
      rw [Except.ok.inj signed]
      exact enrolled
    · exact readable
    · exact unexpired
    · exact verified.mp ⟨_, vouched⟩
  · intro loads
    obtain ⟨held, vouched⟩ := verified.mpr loads.enforceable
    refine ⟨{ policy := held, revocations := documents, exportedAt := contents.now }, ?_⟩
    constructor
    · exact carries.version
    · exact carries.kind
    · rw [carries.bundleVersion]
      rfl
    · exact ⟨signer, carries.signed, loads.enrolled⟩
    · intro member listed
      simp only [Bundle.members, List.mem_cons, List.not_mem_nil, or_false] at listed
      rcases listed with rfl | rfl | rfl | rfl | rfl
      · rw [carries.exportedAt]
        rfl
      · rw [carries.maxAge]
        rfl
      · rw [carries.policy]
        rfl
      · rw [carries.revocations]
        rfl
      · exact carries.anchor
    · exact at_.symm
    · refine ⟨exported.expiresAt, ?_, loads.unexpired⟩
      rw [age]
      exact (exports.expiry ascii).mpr ⟨loads.readable, rfl⟩
    · rw [inside]
      exact vouched
    · refine ⟨listed, ?_⟩
      have verifiable : ∀ revocation ∈ contents.revocations, RevocationFeed.isVerifiable ext revocation = true := by
        intro revocation member
        obtain ⟨⟨signer, signed⟩, target, instant⟩ := exports.revocations revocation member
        obtain ⟨target, hasTarget⟩ := Option.isSome_iff_exists.mp target
        obtain ⟨instant, hasInstant⟩ := Option.isSome_iff_exists.mp instant
        exact RevocationFeed.isVerifiable_iff.mpr ⟨signer, target, instant, signed, hasTarget, hasInstant⟩
      have same := map_written (RevocationFeed.isVerifiable ext) RevocationFeed.isVerifiable_written
        carries.revocationsWritten
      intro revocation member
      have held : RevocationFeed.isVerifiable ext revocation ∈ contents.revocations.map (RevocationFeed.isVerifiable ext) := by
        rw [← same]
        exact List.mem_map_of_mem member
      obtain ⟨original, listed, isVerifiable⟩ := List.mem_map.mp held
      rw [← isVerifiable]
      exact verifiable original listed

/-- The kernel answers nothing that is asked of it. -/
structure Unreached (reading : PolicyProvider.Reading) : Prop where
  answer : ∃ detail, reading.answer = .error detail
  owed : ∃ detail, reading.owed = .error detail

/-- Whether a cached policy counts as fresh where the kernel cannot be reached. -/
def cachedFresh (readInt : String → Option Int) (policy : Gateway.Policy) (verifiedAt now : String) : Result Bool :=
  if policy.revokeCached = true then .ok false
  else do
    let staleness ← policy.maxStalenessSeconds readInt
    let deadline ← Clock.shift verifiedAt staleness
    return decide (now ≤ deadline)

/-- What a process goes by that starts on a bundle with no kernel to reach: the policy and the revocations that were
exported, of the instant they were exported at. -/
structure Bootstrapped (ext : External) (contents : Contents) (policyKey : Option String) (version : String)
    (seeded : Bundle.Tables) : Prop where
  policy : ∃ document, Jcs.canonicalize contents.policy = .ok { tree := document } ∧
    version = Gateway.Policy.version { document } ∧ ∀ readInt refreshSeconds reading, Unreached reading →
      (PolicyProvider.new.current ext readInt policyKey refreshSeconds seeded.policies reading).2.2 =
        (cachedFresh readInt { document } contents.now reading.later).map fun fresh => ({ document }, fresh)
  revocations : ∃ documents, MandateWalk.revocationInstants ext documents =
      MandateWalk.revocationInstants ext contents.revocations ∧
    documents.map (Signed.objectId ext) = contents.revocations.map (Signed.objectId ext) ∧
    ∀ refreshSeconds revokeCached version ask now checkedAt, (∀ epoch, ∃ detail, ask epoch = .error detail) →
      (RevocationFeed.new.current ext seeded.revocations refreshSeconds revokeCached version ask now checkedAt).2.2 =
        .ok (documents, !revokeCached)

theorem current_unreached {readInt : String → Option Int} {refreshSeconds : Int} {cache : PolicyCache}
    {reading : PolicyProvider.Reading} {version verifiedAt : String}
    (unreached : Unreached reading) (current : Marked.current cache = some (version, document, verifiedAt))
    (verified : Gateway.Policy.verified ext document policyKey = .ok { document }) :
    (PolicyProvider.new.current ext readInt policyKey refreshSeconds cache reading).2.2 =
      (cachedFresh readInt { document } verifiedAt reading.later).map fun fresh => ({ document }, fresh) := by
  obtain ⟨⟨detail, answer⟩, lost, owed⟩ := unreached
  unfold PolicyProvider.current PolicyProvider.refreshIfDue cachedFresh
  simp only [PolicyProvider.new, PolicyProvider.pull, answer, PolicyProvider.loadCache, current, verified, owed,
    Option.isNone_none, if_true, PolicyProvider.inForce, PolicyProvider.isFresh]
  by_cases revokes : Gateway.Policy.revokeCached { document } = true
  · rw [if_pos ⟨revokes, by simp⟩, if_pos revokes]
    rfl
  · rw [if_neg fun both => revokes both.1, if_neg revokes]

theorem evaluated_unreached {cache : RevocationCache} {refreshSeconds : Int} {revokeCached : Bool} {verifiedAt : String}
    {version now checkedAt : String} {ask : Option String → TaggedAnswer} (unreached : ∀ epoch, ∃ detail, ask epoch = .error detail)
    (current : Marked.current cache = some ("", documents, verifiedAt)) :
    (RevocationFeed.new.current ext cache refreshSeconds revokeCached version ask now checkedAt).2.2 =
      .ok (documents, !revokeCached) := by
  have ready : RevocationFeed.new.ready cache =
      { RevocationFeed.new with loaded := true, revocations := documents, epoch := none } := by
    unfold RevocationFeed.ready RevocationFeed.loadCache RevocationFeed.cachedRevocations
    rw [current]
    rfl
  obtain ⟨detail, lost⟩ := unreached none
  unfold RevocationFeed.current
  rw [ready]
  cases revokeCached with
  | true =>
      simp [RevocationFeed.awaitsPull, RevocationFeed.owesRepull, RevocationFeed.settle, RevocationFeed.pull, lost,
        RevocationFeed.new]
  | false =>
      simp [RevocationFeed.awaitsPull, RevocationFeed.owesRepull, RevocationFeed.intervalElapsed, RevocationFeed.settle,
        RevocationFeed.pull, lost, RevocationFeed.new]

/-- What a command names as a bundle's contents. -/
structure Named (ext : External) (arguments : Arguments) (contents : Contents) : Prop where
  policy : arguments.policy.json = .ok contents.policy
  revocations : listedRevocations ext arguments.revocations = .ok contents.revocations
  anchor : anchorOf arguments.anchor = .ok contents.anchor
  maxAge : arguments.maxAge.getD defaultBundleMaxAge = contents.maxAge
  now : arguments.now = .ok contents.now

end PolicyBundle

end Stozher

namespace Stozher.Deployment

open Library PolicyBundle

/-- The policy in force and the revocation of a mandate, exported by a root for a week. -/
def bundled : Arguments where
  policy := { path := "policy-document.json", json := .ok policy.document }
  revocations := some { path := "revocations.json", json := .ok (.array [opsRevocation.document]) }
  anchor := none
  maxAge := none
  now := .ok nine
  key := .ok (Recorded.signingKey records anaId)

theorem ana_signs : (Recorded.signingKey records anaId).Signs ext := by
  have hex : (records.all fun recorded => recorded.sealed.all fun entry =>
      entry.1 != anaId.text || decide (Crypto.decodeHex 64 entry.2 = .ok entry.2)) = true := by decide +kernel
  apply Recorded.signs
  intro recorded member value isSealed
  have one := List.all_eq_true.mp hex recorded member
  rw [isSealed, Option.all_some] at one
  dsimp only at one
  rw [bne_self_eq_false, Bool.false_or] at one
  exact of_decide_eq_true one

theorem bundle_expires : (policyExportBundle ext bundled).toOption.map (·.expiresAt) = some "2026-01-08T09:00:00.000Z" := by
  decide +kernel

theorem bundle_readable : Gateway.Durations.parseDuration Durations.decimalDigit defaultBundleMaxAge = .ok 604800 := by
  decide +kernel

theorem bundle_enforceable : isOk (Gateway.Policy.verified ext policy.document (some orgKey)) = true := by
  decide +kernel

end Stozher.Deployment
