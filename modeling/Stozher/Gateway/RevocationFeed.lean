import Stozher.Gateway.MandateWalk
import Stozher.Library.Marked
import Stozher.RevocationFeed

namespace Stozher.Gateway

open Library

/-- The revocation sets a gateway has pulled, by epoch, each with the instant it was verified at. -/
abbrev RevocationCache := List (Marked String (List Value × String))

/-- A verified, cached, pollable set of revocations. -/
structure RevocationFeed where
  loaded : Bool
  revocations : List Value
  epoch : Option String
  checkedAt : Option String
  repulledFor : Option String

/-- How a conditional request is answered: the kernel's response, or why it could not be reached. -/
abbrev TaggedAnswer := Except String Tagged

namespace RevocationFeed

variable (ext : External) (feed : RevocationFeed) (cache : RevocationCache)

/-- A feed nothing was read into yet. -/
def new : RevocationFeed where
  loaded := false
  revocations := []
  epoch := none
  checkedAt := none
  repulledFor := none

/-- A revocation the gateway can check for itself. -/
def isVerifiable (document : Value) : Bool :=
  document.isObject && isOk (Signed.verifySignedObject ext document) &&
    (document.getStr "revokes").isSome && (document.getStr "revoked-at").isSome

def cachedRevocations : Option (String × List Value × String) :=
  Marked.current cache

def loadCache : RevocationFeed :=
  match cachedRevocations cache with
  | none => { feed with loaded := true }
  | some (epoch, documents, _) => {
      feed with
      loaded := true
      revocations := documents
      epoch := if epoch = "" then none else some epoch }

/-- Takes a kernel's answer in, and whether there was one. -/
def pull (answer : TaggedAnswer) (checkedAt : String) : RevocationFeed × RevocationCache × Bool :=
  match answer with
  | .error _ => (feed, cache, false)
  | .ok response =>
      let feed := { feed with checkedAt := some checkedAt }
      if response.status = 304 then (feed, cache, true)
      else if response.status ≠ 200 then (feed, cache, false)
      else
        match (response.body.get "revocations").bind Value.asArray with
        | none => (feed, cache, false)
        | some listed =>
            let verified := listed.filter (isVerifiable ext)
            ({ feed with revocations := verified, epoch := response.etag },
              Marked.put cache (response.etag.getD "") (verified, checkedAt), true)

def intervalElapsed (refreshSeconds : Int) (now : String) : Result Bool :=
  match feed.checkedAt with
  | none => .ok true
  | some checkedAt => do
      let due ← Clock.shift checkedAt refreshSeconds
      return decide (due ≤ now)

/-- A policy that tightens demands another pull before the next consequential action. -/
def owesRepull (revokeCached : Bool) (version : String) : Bool :=
  revokeCached && feed.repulledFor != some version

/-- The feed with the cache read into it. -/
def ready : RevocationFeed :=
  if feed.loaded then feed else feed.loadCache cache

/-- Whether the revocations are asked for before they are evaluated. -/
def awaitsPull (refreshSeconds : Int) (revokeCached : Bool) (version now : String) : Result Bool :=
  if feed.owesRepull revokeCached version then .ok true else feed.intervalElapsed refreshSeconds now

/-- What is left once the kernel has answered, and what is evaluated. -/
def settle (owed : Bool) (version : String) (answer : TaggedAnswer) (checkedAt : String) :
    RevocationFeed × RevocationCache × List Value × Bool :=
  let (feed, cache, pulled) := feed.pull ext cache answer checkedAt
  if pulled && owed then ({ feed with repulledFor := some version }, cache, feed.revocations, true)
  else (feed, cache, feed.revocations, pulled || !owed)

/-- The revocations to evaluate, and whether the feed is current enough to act on. -/
def current (refreshSeconds : Int) (revokeCached : Bool) (version : String) (ask : Option String → TaggedAnswer)
    (now checkedAt : String) : RevocationFeed × RevocationCache × Result (List Value × Bool) :=
  let feed := feed.ready cache
  match feed.awaitsPull refreshSeconds revokeCached version now with
  | .error e => (feed, cache, .error e)
  | .ok false => (feed, cache, .ok (feed.revocations, true))
  | .ok true =>
      let (feed, cache, evaluated) :=
        feed.settle ext cache (feed.owesRepull revokeCached version) version (ask feed.epoch) checkedAt
      (feed, cache, .ok evaluated)

variable {ext} {feed} {cache}

theorem isVerifiable_iff {document : Value} : isVerifiable ext document = true ↔
    ∃ signer target revokedAt, Signed.verifySignedObject ext document = .ok signer ∧
      document.getStr "revokes" = some target ∧ document.getStr "revoked-at" = some revokedAt := by
  constructor
  · intro verifiable
    simp only [isVerifiable, Bool.and_eq_true] at verifiable
    obtain ⟨⟨⟨_, signed⟩, target⟩, instant⟩ := verifiable
    obtain ⟨signer, verified⟩ := isOk_iff.mp signed
    obtain ⟨target, hasTarget⟩ := Option.isSome_iff_exists.mp target
    obtain ⟨instant, hasInstant⟩ := Option.isSome_iff_exists.mp instant
    exact ⟨signer, target, instant, verified, hasTarget, hasInstant⟩
  · rintro ⟨signer, target, revokedAt, verified, hasTarget, hasInstant⟩
    have isObject : document.isObject = true := by
      cases document with
      | object members => rfl
      | _ => cases hasTarget
    simp [isVerifiable, isObject, verified, hasTarget, hasInstant]

/-- A revocation is counted where the gateway can check it for itself. -/
theorem revocationInstant_of_verifiable {document : Value} {signer : KeyId} {target revokedAt : String}
    (verified : Signed.verifySignedObject ext document = .ok signer)
    (hasTarget : document.getStr "revokes" = some target)
    (hasInstant : document.getStr "revoked-at" = some revokedAt) :
    MandateWalk.revocationInstant ext document = some (target, revokedAt) := by
  unfold MandateWalk.revocationInstant
  rw [verified, hasTarget, hasInstant]
  rfl

/-- Two feeds that hold the same set. -/
structure SameSet (feed other : RevocationFeed) : Prop where
  loaded : other.loaded = feed.loaded
  revocations : other.revocations = feed.revocations
  epoch : other.epoch = feed.epoch

theorem settle_sameSet {owed : Bool} {version : String} {answer : TaggedAnswer} {checkedAt : String} :
    SameSet (feed.pull ext cache answer checkedAt).1 (feed.settle ext cache owed version answer checkedAt).1 ∧
      (feed.settle ext cache owed version answer checkedAt).2.1 = (feed.pull ext cache answer checkedAt).2.1 := by
  unfold settle
  dsimp only
  split
  · exact ⟨⟨rfl, rfl, rfl⟩, rfl⟩
  · exact ⟨⟨rfl, rfl, rfl⟩, rfl⟩

/-- Where nothing is served, what is held stays. -/
theorem pull_failed {answer : TaggedAnswer} {checkedAt : String}
    (failing : ∀ response, answer = .ok response → response.status ≠ 200 ∧ response.status ≠ 304) :
    SameSet feed (feed.pull ext cache answer checkedAt).1 ∧ (feed.pull ext cache answer checkedAt).2.1 = cache := by
  unfold pull
  cases answer with
  | error detail => exact ⟨⟨rfl, rfl, rfl⟩, rfl⟩
  | ok response =>
      obtain ⟨other, modified⟩ := failing response rfl
      dsimp only
      rw [if_neg modified, if_pos other]
      exact ⟨⟨rfl, rfl, rfl⟩, rfl⟩

/-- What a feed holds after an answer from a store whose revocations all verify, where what it held under the
store's epoch was that store's set. -/
theorem pull_served {store : Store} {checkedAt : String}
    (verifiable : ∀ document ∈ (store.revocationFeed ext).2, isVerifiable ext document = true)
    (known : ∀ epoch, feed.epoch = some epoch → notModified (some epoch) (etagOf (store.revocationEpoch ext)) = true →
      epoch = etagOf (store.revocationEpoch ext) ∧ feed.revocations = (store.revocationFeed ext).2) :
    let pulled := feed.pull ext cache (.ok (getRevocations ext store feed.epoch)) checkedAt
    pulled.1.loaded = feed.loaded ∧ pulled.1.revocations = (store.revocationFeed ext).2 ∧
      pulled.1.epoch = some (etagOf (store.revocationEpoch ext)) ∧
      (pulled.2.1 = cache ∨
        pulled.2.1 = Marked.put cache (etagOf (store.revocationEpoch ext)) ((store.revocationFeed ext).2, checkedAt)) := by
  have all : (store.revocationFeed ext).2.filter (isVerifiable ext) = (store.revocationFeed ext).2 :=
    List.filter_eq_self.mpr verifiable
  dsimp only
  by_cases unchanged : notModified feed.epoch (etagOf (store.revocationEpoch ext)) = true
  · cases held : feed.epoch with
    | none =>
        rw [held] at unchanged
        cases unchanged
    | some epoch =>
        rw [held] at unchanged
        obtain ⟨same, documents⟩ := known epoch held unchanged
        have answer : getRevocations ext store (some epoch) =
            { status := 304, body := .object [], etag := some (etagOf (store.revocationEpoch ext)) } := by
          unfold getRevocations
          exact if_pos unchanged
        unfold pull
        rw [answer]
        exact ⟨rfl, documents, by rw [← same]; exact held, .inl rfl⟩
  · have answer : getRevocations ext store feed.epoch = {
        status := 200
        body := .object [("count", .ofNat (store.revocationFeed ext).2.length),
          ("revocation-epoch", .string (store.revocationEpoch ext)),
          ("revocations", .array (store.revocationFeed ext).2), ("stozher", .string "stozher/0.1")]
        etag := some (etagOf (store.revocationEpoch ext)) } := by
      unfold getRevocations
      exact if_neg unchanged
    unfold pull
    rw [answer]
    refine ⟨rfl, ?_, rfl, .inr ?_⟩
    · exact all
    · exact congrArg (fun documents => Marked.put cache (etagOf (store.revocationEpoch ext)) (documents, checkedAt)) all

end RevocationFeed

end Stozher.Gateway
