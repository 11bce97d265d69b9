import Stozher.Deployment
import Stozher.Gateway.PolicyProvider
import Stozher.Library.Refusal

namespace Stozher.Gateway

open Library

variable {ext : External} {readInt : String → Option Int} {policyKey : Option String} {refreshSeconds : Int}

/-- A policy that verifies under the enrolled key. -/
def Vouched (ext : External) (policyKey : Option String) (policy : Policy) : Prop :=
  Policy.verified ext policy.document policyKey = .ok policy

theorem Policy.verified_document {document : Value} {policy : Policy}
    (verified : Policy.verified ext document policyKey = .ok policy) : policy.document = document := by
  unfold Policy.verified at verified
  simp only [bind_eq_ok, pure_eq_ok] at verified
  obtain ⟨_, _, _, _, _, _, _, _, _, _, _, _, rfl⟩ := verified
  rfl

theorem Policy.verified_vouched {document : Value} {policy : Policy}
    (verified : Policy.verified ext document policyKey = .ok policy) : Vouched ext policyKey policy := by
  unfold Vouched
  rw [Policy.verified_document verified]
  exact verified

namespace PolicyProvider

variable {provider : PolicyProvider} {cache : PolicyCache}

/-- What a pull leaves: what was there, or a policy that verifies, vouched for as it was asked for. -/
theorem pull_cases (provider : PolicyProvider) (cache : PolicyCache) (answer : Answer) (now : String) :
    (provider.pull ext policyKey cache answer now = {
        provider := { provider with checkedAt := some now }, cache, answered := false }) ∨
      ∃ response policy, answer = .ok response ∧ Policy.verified ext response.body policyKey = .ok policy ∧
        provider.pull ext policyKey cache answer now = {
          provider := { provider with policy := some policy, verifiedAt := some now, checkedAt := some now }
          cache := Marked.put cache policy.version (policy.document, now)
          answered := true } := by
  unfold pull
  dsimp only
  cases answer with
  | error detail => exact .inl rfl
  | ok response =>
      dsimp only
      split
      · exact .inl rfl
      · split
        · exact .inl rfl
        · rename_i policy verified
          exact .inr ⟨response, policy, rfl, verified, rfl⟩

theorem refreshIfDue_cases {answer : Answer} {now : String} {refreshed : Refreshed}
    (done : provider.refreshIfDue ext policyKey refreshSeconds cache answer now = .ok refreshed) :
    refreshed = { provider, cache, answered := true } ∨
      refreshed = provider.pull ext policyKey cache answer now := by
  unfold refreshIfDue at done
  cases checked : provider.checkedAt with
  | none =>
      rw [checked] at done
      exact .inr (Except.ok.inj done).symm
  | some at_ =>
      rw [checked] at done
      obtain ⟨due, _, rest⟩ := bind_eq_ok.mp done
      split at rest
      · exact .inl (pure_eq_ok.mp rest).symm
      · exact .inr (pure_eq_ok.mp rest).symm

theorem loadCache_empty (empty : Marked.current cache = none) : provider.loadCache ext policyKey cache = provider := by
  unfold loadCache
  rw [empty]

theorem loadCache_repulledFor :
    (provider.loadCache ext policyKey cache).repulledFor = provider.repulledFor := by
  unfold loadCache
  split
  · rfl
  · split <;> rfl

end PolicyProvider

/-- What can happen next to the policies of a gateway: a process starts, a bundle is loaded, or a process asks for
the policy in force. -/
inductive ProviderMove where
  | start
  | bundle (document : Value) (exportedAt : String)
  | current (index : Nat) (reading : PolicyProvider.Reading)

/-- The gateway's processes, the cache they share, and what happened so far. -/
structure Providers where
  cache : PolicyCache
  providers : List PolicyProvider
  past : List ProviderMove

namespace Providers

def step (ext : External) (readInt : String → Option Int) (policyKey : Option String) (refreshSeconds : Int)
    (state : Providers) (move : ProviderMove) : Providers :=
  let past := state.past ++ [move]
  match move with
  | .start => { state with providers := state.providers ++ [.new], past }
  | .bundle document exportedAt =>
      match Policy.verified ext document policyKey with
      | .error _ => { state with past }
      | .ok policy => { state with cache := Marked.put state.cache policy.version (document, exportedAt), past }
  | .current index reading =>
      match state.providers[index]? with
      | none => { state with past }
      | some provider =>
          let (provider, cache, _) := provider.current ext readInt policyKey refreshSeconds state.cache reading
          { cache, providers := state.providers.set index provider, past }

end Providers

/-- The policies of a gateway over a new database, whatever the kernel answers. -/
def provisioning (ext : External) (readInt : String → Option Int) (policyKey : Option String) (refreshSeconds : Int) :
    System Providers ProviderMove where
  start state := state.cache = [] ∧ state.providers = [] ∧ state.past = []
  step := Providers.step ext readInt policyKey refreshSeconds

/-- A document was exported in a bundle, or served in answer to a request, of an instant. -/
def ProviderMove.Vouches (document : Value) (at_ : String) : ProviderMove → Prop
  | .start => False
  | .bundle exported exportedAt => exported = document ∧ exportedAt = at_
  | .current _ reading =>
      (∃ response, reading.answer = .ok response ∧ response.body = document ∧ reading.now = at_) ∨
        ∃ response, reading.owed = .ok response ∧ response.body = document ∧ reading.again = at_

/-- The kernel answered a process that owed a pull with a policy of a version. -/
def ProviderMove.Repulls (ext : External) (policyKey : Option String) (index : Nat) (version : String) :
    ProviderMove → Prop
  | .current other reading => other = index ∧ ∃ response policy, reading.owed = .ok response ∧
      Policy.verified ext response.body policyKey = .ok policy ∧ policy.version = version
  | _ => False

theorem Providers.step_past {ext : External} {readInt : String → Option Int} {policyKey : Option String}
    {refreshSeconds : Int} {state : Providers} {move : ProviderMove} :
    (Providers.step ext readInt policyKey refreshSeconds state move).past = state.past ++ [move] := by
  unfold Providers.step
  cases move with
  | start => rfl
  | bundle document exportedAt =>
      dsimp only
      split <;> rfl
  | current index reading =>
      dsimp only
      split <;> rfl

/-- What a gateway may go by: a document that verifies and was vouched for. -/
def Sourced (ext : External) (policyKey : Option String) (past : List ProviderMove) (policy : Policy) (at_ : String) :
    Prop :=
  Vouched ext policyKey policy ∧ ∃ move ∈ past, move.Vouches policy.document at_

namespace Providers

variable {past : List ProviderMove} {provider : PolicyProvider} {cache : PolicyCache}

structure Held (ext : External) (policyKey : Option String) (past : List ProviderMove) (provider : PolicyProvider) :
    Prop where
  backed : ∀ policy, provider.policy = some policy → ∃ at_, provider.verifiedAt = some at_ ∧
    Sourced ext policyKey past policy at_

def Cached (ext : External) (policyKey : Option String) (past : List ProviderMove) (cache : PolicyCache) : Prop :=
  ∀ version document at_, Marked.current cache = some (version, document, at_) →
    ∃ policy, Policy.verified ext document policyKey = .ok policy ∧ Sourced ext policyKey past policy at_

theorem backed_more {policy : Policy} {at_ : String} (backed : Sourced ext policyKey past policy at_)
    (move : ProviderMove) : Sourced ext policyKey (past ++ [move]) policy at_ := by
  obtain ⟨vouched, earlier, member, vouches⟩ := backed
  exact ⟨vouched, earlier, List.mem_append_left _ member, vouches⟩

theorem Held.more (held : Held ext policyKey past provider) (move : ProviderMove) :
    Held ext policyKey (past ++ [move]) provider := by
  constructor
  intro policy isPolicy
  obtain ⟨at_, verified, backed⟩ := held.backed policy isPolicy
  exact ⟨at_, verified, backed_more backed move⟩

theorem Cached.more (cached : Cached ext policyKey past cache) (move : ProviderMove) :
    Cached ext policyKey (past ++ [move]) cache := by
  intro version document at_ current
  obtain ⟨policy, verified, backed⟩ := cached version document at_ current
  exact ⟨policy, verified, backed_more backed move⟩

theorem pull_keeps {answer : Answer} {now : String} (held : Held ext policyKey past provider)
    (cached : Cached ext policyKey past cache)
    (asked : ∀ response, answer = .ok response → ∃ move ∈ past, move.Vouches response.body now) :
    Held ext policyKey past (provider.pull ext policyKey cache answer now).provider ∧
      Cached ext policyKey past (provider.pull ext policyKey cache answer now).cache := by
  rcases @PolicyProvider.pull_cases ext policyKey provider cache answer now with
    same | ⟨response, policy, isAnswer, verified, same⟩
  · rw [same]
    exact ⟨⟨held.backed⟩, cached⟩
  · have document := Policy.verified_document verified
    have backed : Sourced ext policyKey past policy now := by
      refine ⟨Policy.verified_vouched verified, ?_⟩
      rw [document]
      exact asked response isAnswer
    rw [same]
    constructor
    · constructor
      rintro _ ⟨⟩
      exact ⟨now, rfl, backed⟩
    · intro version other at_ current
      rw [Marked.current_put] at current
      cases current
      exact ⟨policy, Policy.verified_vouched verified, backed⟩

theorem loadCache_keeps (held : Held ext policyKey past provider) (cached : Cached ext policyKey past cache) :
    Held ext policyKey past (provider.loadCache ext policyKey cache) := by
  unfold PolicyProvider.loadCache
  split
  · exact held
  · rename_i version document at_ current
    split
    · rename_i policy verified
      obtain ⟨other, sameVerified, backed⟩ := cached version document at_ current
      rw [verified] at sameVerified
      cases sameVerified
      constructor
      rintro _ ⟨⟩
      exact ⟨at_, rfl, backed⟩
    · exact held

theorem refreshIfDue_keeps {answer : Answer} {now : String} {refreshed : PolicyProvider.Refreshed}
    (held : Held ext policyKey past provider) (cached : Cached ext policyKey past cache)
    (asked : ∀ response, answer = .ok response → ∃ move ∈ past, move.Vouches response.body now)
    (done : provider.refreshIfDue ext policyKey refreshSeconds cache answer now = .ok refreshed) :
    Held ext policyKey past refreshed.provider ∧ Cached ext policyKey past refreshed.cache ∧
      refreshed.provider.repulledFor = provider.repulledFor := by
  rcases PolicyProvider.refreshIfDue_cases done with rfl | rfl
  · exact ⟨held, cached, rfl⟩
  · have kept := pull_keeps held cached asked
    refine ⟨kept.1, kept.2, ?_⟩
    rcases @PolicyProvider.pull_cases ext policyKey provider cache answer now with
      same | ⟨_, _, _, _, same⟩
    · rw [same]
    · rw [same]

/-- A policy that is acted on as if online: it was vouched for no longer ago than it may be. -/
def Fresh (readInt : String → Option Int) (policy : Policy) (verifiedAt now : String) : Prop :=
  ∃ staleness deadline, policy.maxStalenessSeconds readInt = .ok staleness ∧
    Clock.shift verifiedAt staleness = .ok deadline ∧ now ≤ deadline

theorem fresh_of_isFresh {policy : Policy} {verifiedAt now : String} (isPolicy : provider.policy = some policy)
    (verified : provider.verifiedAt = some verifiedAt) (fresh : provider.isFresh readInt now = .ok true) :
    Fresh readInt policy verifiedAt now := by
  unfold PolicyProvider.isFresh at fresh
  rw [isPolicy, verified] at fresh
  simp only [bind_eq_ok, pure_eq_ok] at fresh
  obtain ⟨staleness, isStaleness, deadline, isDeadline, before⟩ := fresh
  exact ⟨staleness, deadline, isStaleness, isDeadline, of_decide_eq_true before⟩

/-- What a process has answered for since it started. -/
def Repulled (ext : External) (policyKey : Option String) (past : List ProviderMove) (index : Nat)
    (provider : PolicyProvider) : Prop :=
  ∀ version, provider.repulledFor = some version → ∃ move ∈ past, move.Repulls ext policyKey index version

/-- What a policy that is handed out is known to be. -/
structure HandedOut (ext : External) (readInt : String → Option Int) (policyKey : Option String)
    (past : List ProviderMove) (index : Nat) (now : String) (policy : Policy) (fresh : Bool) : Prop where
  backed : ∃ at_, Sourced ext policyKey past policy at_ ∧ (fresh = true → Fresh readInt policy at_ now)
  repulled : fresh = true → policy.revokeCached = true →
    ∃ move ∈ past, move.Repulls ext policyKey index policy.version

/-- What one call leaves, and what it hands out. -/
structure Kept (ext : External) (readInt : String → Option Int) (policyKey : Option String)
    (past : List ProviderMove) (index : Nat) (now : String)
    (left : PolicyProvider × PolicyCache × Result (Policy × Bool)) : Prop where
  held : Held ext policyKey past left.1
  cached : Cached ext policyKey past left.2.1
  repulled : Repulled ext policyKey past index left.1
  handedOut : ∀ policy fresh, left.2.2 = .ok (policy, fresh) →
    HandedOut ext readInt policyKey past index now policy fresh

theorem Held.handedOut {policy : Policy} {index : Nat} {now : String} {outcome : Result Bool} {fresh : Bool}
    (held : Held ext policyKey past provider) (isPolicy : provider.policy = some policy)
    (repulled : policy.revokeCached = true → outcome = .ok true →
      ∃ move ∈ past, move.Repulls ext policyKey index policy.version)
    (isOutcome : outcome = .ok false ∨ outcome = provider.isFresh readInt now) (same : outcome = .ok fresh) :
    HandedOut ext readInt policyKey past index now policy fresh := by
  obtain ⟨at_, verified, backed⟩ := held.backed policy isPolicy
  refine ⟨⟨at_, backed, ?_⟩, ?_⟩
  · rintro rfl
    rcases isOutcome with stale | fresh
    · rw [stale] at same
      cases same
    · exact fresh_of_isFresh isPolicy verified (fresh.symm.trans same)
  · rintro rfl revokes
    exact repulled revokes same

theorem inForce_kept {policy : Policy} {index : Nat} {now : String} {outcome : Result Bool}
    (held : Held ext policyKey past provider) (cached : Cached ext policyKey past cache)
    (repulledFor : Repulled ext policyKey past index provider) (isPolicy : provider.policy = some policy)
    (repulled : policy.revokeCached = true → outcome = .ok true →
      ∃ move ∈ past, move.Repulls ext policyKey index policy.version)
    (isOutcome : outcome = .ok false ∨ outcome = provider.isFresh readInt now) :
    Kept ext readInt policyKey past index now (provider.inForce cache policy outcome) := by
  refine ⟨held, cached, repulledFor, ?_⟩
  intro other fresh answered
  cases decided : outcome with
  | error e =>
      rw [PolicyProvider.inForce, decided] at answered
      cases answered
  | ok value =>
      rw [PolicyProvider.inForce, decided] at answered
      cases answered
      exact held.handedOut isPolicy repulled isOutcome decided

theorem current_kept {index : Nat} {reading : PolicyProvider.Reading} (held : Held ext policyKey past provider)
    (cached : Cached ext policyKey past cache) (repulled : Repulled ext policyKey past index provider)
    (asked : ∀ response, reading.answer = .ok response → ∃ move ∈ past, move.Vouches response.body reading.now)
    (owed : ∀ response, reading.owed = .ok response →
      (∃ move ∈ past, move.Vouches response.body reading.again) ∧
      ∀ policy, Policy.verified ext response.body policyKey = .ok policy →
        ∃ move ∈ past, move.Repulls ext policyKey index policy.version) :
    Kept ext readInt policyKey past index reading.later
      (provider.current ext readInt policyKey refreshSeconds cache reading) := by
  unfold PolicyProvider.current
  cases refreshes : provider.refreshIfDue ext policyKey refreshSeconds cache reading.answer reading.now with
  | error e =>
      refine ⟨held, cached, repulled, ?_⟩
      rintro policy fresh ⟨⟩
  | ok refreshed =>
      obtain ⟨held, cached, same⟩ := refreshIfDue_keeps held cached asked refreshes
      obtain ⟨provider', cache', answered⟩ := refreshed
      dsimp only at held cached same ⊢
      have repulled : Repulled ext policyKey past index provider' := fun version isVersion =>
        repulled version (same ▸ isVersion)
      generalize isLoaded : (if provider'.policy.isNone = true then provider'.loadCache ext policyKey cache'
        else provider') = loaded
      have held : Held ext policyKey past loaded := by
        rw [← isLoaded]
        split
        · exact loadCache_keeps held cached
        · exact held
      have repulled : Repulled ext policyKey past index loaded := by
        rw [← isLoaded]
        split
        · intro version isVersion
          rw [PolicyProvider.loadCache_repulledFor] at isVersion
          exact repulled version isVersion
        · exact repulled
      generalize unchecked : { loaded with checkedAt := none } = forgotten
      have forgets : forgotten.policy = loaded.policy ∧ Held ext policyKey past forgotten ∧
          Repulled ext policyKey past index forgotten := by
        rw [← unchecked]
        exact ⟨rfl, ⟨held.backed⟩, repulled⟩
      cases isPolicy : loaded.policy with
      | none =>
          refine ⟨held, cached, repulled, ?_⟩
          rintro policy fresh ⟨⟩
      | some policy =>
          dsimp only
          split
          · have again := @pull_keeps ext policyKey past forgotten cache' reading.owed reading.again forgets.2.1 cached
              fun response isAnswer => (owed response isAnswer).1
            rcases @PolicyProvider.pull_cases ext policyKey forgotten cache' reading.owed
              reading.again with left | ⟨response, newer, isAnswer, verified, left⟩
            · rw [left] at again ⊢
              have same := forgets.1.trans isPolicy
              have unchanged : forgotten.policy.getD policy = policy := by rw [same, Option.getD_some]
              dsimp only
              rw [unchanged]
              refine inForce_kept again.1 again.2 forgets.2.2 same ?_ (.inl rfl)
              rintro _ ⟨⟩
            · rw [left] at again ⊢
              have repulls := (owed response isAnswer).2 newer verified
              refine inForce_kept ⟨again.1.backed⟩ again.2 ?_ rfl (fun _ _ => repulls) (.inr rfl)
              rintro version ⟨⟩
              exact repulls
          · rename_i discharged
            refine inForce_kept held cached repulled isPolicy ?_ (.inr rfl)
            intro revokes _
            refine repulled policy.version ?_
            by_contra other
            exact discharged ⟨revokes, other⟩

/-- What a gateway holds is backed by what was served and exported so far. -/
structure Vetted (ext : External) (policyKey : Option String) (state : Providers) : Prop where
  cached : Cached ext policyKey state.past state.cache
  held : ∀ provider ∈ state.providers, Held ext policyKey state.past provider
  repulled : ∀ index provider, state.providers[index]? = some provider →
    Repulled ext policyKey state.past index provider
  stocked : ∀ provider ∈ state.providers, provider.policy.isSome = true → (Marked.current state.cache).isSome = true

theorem repulled_more {index : Nat} (repulled : Repulled ext policyKey past index provider) (move : ProviderMove) :
    Repulled ext policyKey (past ++ [move]) index provider := by
  intro version isVersion
  obtain ⟨earlier, member, repulls⟩ := repulled version isVersion
  exact ⟨earlier, List.mem_append_left _ member, repulls⟩

/-- Who is handed a policy holds one. -/
theorem current_policy {reading : PolicyProvider.Reading} {policy : Policy} {fresh : Bool}
    (answered : (provider.current ext readInt policyKey refreshSeconds cache reading).2.2 = .ok (policy, fresh)) :
    (provider.current ext readInt policyKey refreshSeconds cache reading).1.policy.isSome = true := by
  unfold PolicyProvider.current at answered ⊢
  cases refreshes : provider.refreshIfDue ext policyKey refreshSeconds cache reading.answer reading.now with
  | error e =>
      rw [refreshes] at answered
      cases answered
  | ok refreshed =>
      rw [refreshes] at answered
      obtain ⟨provider', cache', answered'⟩ := refreshed
      dsimp only at answered ⊢
      generalize isLoaded : (if provider'.policy.isNone = true then provider'.loadCache ext policyKey cache'
        else provider') = loaded at answered ⊢
      generalize unchecked : { loaded with checkedAt := none } = forgotten at answered ⊢
      have forgets : forgotten.policy = loaded.policy := by
        rw [← unchecked]
      cases isPolicy : loaded.policy with
      | none =>
          rw [isPolicy] at answered
          cases answered
      | some held =>
          dsimp only
          have again : (forgotten.pull ext policyKey cache' reading.owed reading.again).provider.policy.isSome = true := by
            rcases @PolicyProvider.pull_cases ext policyKey forgotten cache' reading.owed reading.again with
              same | ⟨response, newer, _, _, same⟩
            · rw [same]
              dsimp only
              rw [forgets, isPolicy]
              rfl
            · rw [same]
              rfl
          split
          · split
            · exact again
            · exact again
          · exact Option.isSome_iff_exists.mpr ⟨held, isPolicy⟩

/-- A call in a state that is vetted. -/
theorem Vetted.call {state : Providers} (vetted : Vetted ext policyKey state) {index : Nat}
    (found : state.providers[index]? = some provider) (reading : PolicyProvider.Reading) :
    Kept ext readInt policyKey (state.past ++ [.current index reading]) index reading.later
      (provider.current ext readInt policyKey refreshSeconds state.cache reading) := by
  have last : ProviderMove.current index reading ∈ state.past ++ [.current index reading] :=
    List.mem_append_right _ List.mem_cons_self
  apply current_kept ((vetted.held provider (List.mem_of_getElem? found)).more _) (vetted.cached.more _)
    (repulled_more (vetted.repulled index provider found) _)
  · intro response isAnswer
    exact ⟨_, last, .inl ⟨response, isAnswer, rfl, rfl⟩⟩
  · intro response isAnswer
    refine ⟨⟨_, last, .inr ⟨response, isAnswer, rfl, rfl⟩⟩, ?_⟩
    intro policy verified
    exact ⟨_, last, rfl, response, policy, isAnswer, verified, rfl⟩

/-- A call does not empty the cache, and holds no policy that the cache does not have. -/
theorem current_stocked {reading : PolicyProvider.Reading}
    (stocked : provider.policy.isSome = true → (Marked.current cache).isSome = true) :
    let left := provider.current ext readInt policyKey refreshSeconds cache reading
    ((Marked.current cache).isSome = true → (Marked.current left.2.1).isSome = true) ∧
      (left.1.policy.isSome = true → (Marked.current left.2.1).isSome = true) := by
  have pulls : ∀ (provider : PolicyProvider) (cache : PolicyCache) (answer : Answer) (now : String),
      (provider.policy.isSome = true → (Marked.current cache).isSome = true) →
      ((Marked.current cache).isSome = true →
        (Marked.current (provider.pull ext policyKey cache answer now).cache).isSome = true) ∧
      ((provider.pull ext policyKey cache answer now).provider.policy.isSome = true →
        (Marked.current (provider.pull ext policyKey cache answer now).cache).isSome = true) := by
    intro provider cache answer now stocked
    rcases @PolicyProvider.pull_cases ext policyKey provider cache answer now with
      same | ⟨response, policy, _, _, same⟩
    · rw [same]
      exact ⟨id, stocked⟩
    · rw [same]
      dsimp only
      rw [Marked.current_put]
      exact ⟨fun _ => rfl, fun _ => rfl⟩
  unfold PolicyProvider.current
  cases refreshes : provider.refreshIfDue ext policyKey refreshSeconds cache reading.answer reading.now with
  | error e => exact ⟨id, stocked⟩
  | ok refreshed =>
      have first : ((Marked.current cache).isSome = true → (Marked.current refreshed.cache).isSome = true) ∧
          (refreshed.provider.policy.isSome = true → (Marked.current refreshed.cache).isSome = true) := by
        rcases PolicyProvider.refreshIfDue_cases refreshes with rfl | rfl
        · exact ⟨id, stocked⟩
        · exact pulls provider cache reading.answer reading.now stocked
      obtain ⟨provider', cache', answered⟩ := refreshed
      dsimp only at first ⊢
      generalize isLoaded : (if provider'.policy.isNone = true then provider'.loadCache ext policyKey cache'
        else provider') = loaded
      have second : loaded.policy.isSome = true → (Marked.current cache').isSome = true := by
        rw [← isLoaded]
        split
        · intro isSome
          by_contra empty
          rw [PolicyProvider.loadCache_empty (Option.not_isSome_iff_eq_none.mp empty)] at isSome
          exact empty (first.2 isSome)
        · exact first.2
      generalize unchecked : { loaded with checkedAt := none } = forgotten
      have forgets : forgotten.policy = loaded.policy := by
        rw [← unchecked]
      have again := pulls forgotten cache' reading.owed reading.again (fun isSome => second (forgets ▸ isSome))
      cases isPolicy : loaded.policy with
      | none => exact ⟨first.1, second⟩
      | some policy =>
          dsimp only
          split
          · split
            · exact ⟨fun isSome => again.1 (first.1 isSome), again.2⟩
            · exact ⟨fun isSome => again.1 (first.1 isSome), again.2⟩
          · exact ⟨first.1, second⟩

theorem Vetted.step {state : Providers} (vetted : Vetted ext policyKey state) (move : ProviderMove) :
    Vetted ext policyKey ((provisioning ext readInt policyKey refreshSeconds).step state move) := by
  have quiet : Vetted ext policyKey { state with past := state.past ++ [move] } := {
    cached := vetted.cached.more move
    held := fun provider member => (vetted.held provider member).more move
    repulled := fun index provider found => repulled_more (vetted.repulled index provider found) move
    stocked := vetted.stocked }
  cases move with
  | start =>
      refine ⟨quiet.cached, ?_, ?_, ?_⟩
      · intro provider member
        rcases List.mem_append.mp member with earlier | fresh
        · exact quiet.held provider earlier
        · cases List.mem_singleton.mp fresh
          constructor
          rintro policy ⟨⟩
      · intro index provider found
        rcases lt_or_ge index state.providers.length with before | beyond
        · exact quiet.repulled index provider ((List.getElem?_append_left before).symm.trans found)
        · have fresh := (List.getElem?_append_right beyond).symm.trans found
          cases List.mem_singleton.mp (List.mem_of_getElem? fresh)
          rintro version ⟨⟩
      · intro provider member
        rcases List.mem_append.mp member with earlier | fresh
        · exact quiet.stocked provider earlier
        · cases List.mem_singleton.mp fresh
          rintro ⟨⟩
  | bundle document exportedAt =>
      show Vetted ext policyKey (Providers.step ext readInt policyKey refreshSeconds state (.bundle document exportedAt))
      unfold Providers.step
      dsimp only
      split
      · exact quiet
      · rename_i policy verified
        refine ⟨?_, quiet.held, quiet.repulled, ?_⟩
        · intro version other at_ current
          rw [Marked.current_put] at current
          cases current
          refine ⟨policy, verified, Policy.verified_vouched verified, _, List.mem_append_right _ List.mem_cons_self, ?_⟩
          rw [Policy.verified_document verified]
          exact ⟨rfl, rfl⟩
        · intro provider member _
          dsimp only
          rw [Marked.current_put]
          rfl
  | current index reading =>
      show Vetted ext policyKey (Providers.step ext readInt policyKey refreshSeconds state (.current index reading))
      unfold Providers.step
      dsimp only
      cases found : state.providers[index]? with
      | none => exact quiet
      | some provider =>
          have kept := @Vetted.call ext readInt policyKey refreshSeconds provider state vetted index found reading
          have stocked := @current_stocked ext readInt policyKey refreshSeconds provider state.cache reading
            (vetted.stocked provider (List.mem_of_getElem? found))
          refine ⟨kept.cached, ?_, ?_, ?_⟩
          · intro other member
            rcases List.mem_or_eq_of_mem_set member with earlier | rfl
            · exact quiet.held other earlier
            · exact kept.held
          · intro other provider' isOther
            by_cases same : index = other
            · subst same
              rw [List.getElem?_set_self (List.getElem?_eq_some_iff.mp found).1] at isOther
              cases isOther
              exact kept.repulled
            · rw [List.getElem?_set_ne same] at isOther
              exact quiet.repulled other provider' isOther
          · intro other member isSome
            rcases List.mem_or_eq_of_mem_set member with earlier | rfl
            · exact stocked.1 (vetted.stocked other earlier isSome)
            · exact stocked.2 isSome

theorem vetted {state : Providers} (reached : (provisioning ext readInt policyKey refreshSeconds).Reachable state) :
    Vetted ext policyKey state := by
  refine reached.invariant (Vetted ext policyKey) ?_ fun state move _ vetted => vetted.step move
  rintro ⟨cache, providers, past⟩ ⟨rfl, rfl, rfl⟩
  refine ⟨?_, fun _ => List.not_mem_nil.elim, ?_, fun _ => List.not_mem_nil.elim⟩
  · rintro version document at_ ⟨⟩
  · rintro index provider ⟨⟩

/-- Whatever a gateway hands out as the policy in force verifies under the enrolled key and was served or exported as
it stands. It is called fresh only for as long as it may be after that, and under a policy that revokes cached ones
only once the kernel has answered this very process since it took that policy up. -/
theorem handed_out {state : Providers}
    (reached : (provisioning ext readInt policyKey refreshSeconds).Reachable state) {index : Nat}
    (found : state.providers[index]? = some provider) (reading : PolicyProvider.Reading) {policy : Policy}
    {fresh : Bool}
    (answered : (provider.current ext readInt policyKey refreshSeconds state.cache reading).2.2 = .ok (policy, fresh)) :
    HandedOut ext readInt policyKey (state.past ++ [.current index reading]) index reading.later policy fresh :=
  ((vetted reached).call found reading).handedOut policy fresh answered

/-- A refusal for some other reason than that no policy was ever there. -/
def Otherwise (e : Error) : Prop :=
  e.code ≠ "policy-not-published"

theorem otherwise {code detail : String} (other : code ≠ "policy-not-published") : Otherwise (err code detail) :=
  other

theorem parseTimestamp_otherwise (text : String) : Refuses Otherwise (Clock.parseTimestamp text) := by
  have bad : Otherwise (err "encoding-bad-timestamp" (debug text)) := otherwise (by decide)
  have field : ∀ start stop : Nat, Refuses Otherwise (do
      let digits := ((Text.octets text).take stop).drop start
      require (digits.all Text.isAsciiDigit) (err "encoding-bad-timestamp" (debug text))
      return (Text.decimalValue digits : Int)) :=
    fun _ _ => refuses_bind (refuses_require bad) fun _ => refuses_pure _
  unfold Clock.parseTimestamp
  refine refuses_bind (refuses_require bad) fun _ => refuses_bind (refuses_require bad) fun _ => ?_
  refine refuses_bind (field _ _) fun _ => refuses_bind (field _ _) fun _ => refuses_bind (field _ _) fun _ =>
    refuses_bind (field _ _) fun _ => refuses_bind (field _ _) fun _ => refuses_bind (field _ _) fun _ =>
      refuses_bind (field _ _) fun _ => ?_
  exact refuses_bind (refuses_require bad) fun _ => refuses_bind (refuses_require bad) fun _ => refuses_pure _

theorem shift_otherwise (text : String) (seconds : Int) : Refuses Otherwise (Clock.shift text seconds) := by
  unfold Clock.shift
  refine refuses_bind (parseTimestamp_otherwise text) fun millis => ?_
  exact refuses_bind (refuses_require (otherwise (by decide))) fun _ => refuses_pure _

theorem int_otherwise (value : Value) : Refuses Otherwise (MandateWalk.int readInt value) := by
  unfold MandateWalk.int
  split
  · exact refuses_ok _
  · exact refuses_ok _
  · exact refuses_ok _
  · exact refuses_ite (refuses_ok _) (refuses_error (otherwise (by decide)))
  · exact refuses_okOr (otherwise (by decide))
  · exact refuses_error (otherwise (by decide))

theorem isFresh_otherwise (now : String) : Refuses Otherwise (provider.isFresh readInt now) := by
  unfold PolicyProvider.isFresh
  split
  · apply refuses_bind
    · unfold Policy.maxStalenessSeconds
      rename_i policy _ _ _
      cases policy.document.get "max-staleness-seconds" with
      | none => exact refuses_ok _
      | some value => exact int_otherwise value
    · exact fun staleness => refuses_bind (shift_otherwise _ _) fun _ => refuses_pure _
  · exact refuses_ok _

theorem inForce_otherwise {policy : Policy} {outcome : Result Bool} (refuses : Refuses Otherwise outcome) :
    Refuses Otherwise (provider.inForce cache policy outcome).2.2 := by
  unfold PolicyProvider.inForce
  cases outcome with
  | error e => exact refuses_error (refuses e rfl)
  | ok fresh => exact refuses_ok _

theorem loadCache_policy (cached : Cached ext policyKey past cache) (stocked : (Marked.current cache).isSome = true) :
    (provider.loadCache ext policyKey cache).policy.isSome = true := by
  obtain ⟨⟨version, document, at_⟩, current⟩ := Option.isSome_iff_exists.mp stocked
  obtain ⟨policy, verified, _⟩ := cached version document at_ current
  unfold PolicyProvider.loadCache
  rw [current]
  dsimp only
  rw [verified]
  rfl

/-- Where a policy is cached, one is handed out. -/
theorem current_otherwise {reading : PolicyProvider.Reading} (cached : Cached ext policyKey past cache)
    (held : Held ext policyKey past provider)
    (asked : ∀ response, reading.answer = .ok response → ∃ move ∈ past, move.Vouches response.body reading.now)
    (stocked : (Marked.current cache).isSome = true) :
    Refuses Otherwise (provider.current ext readInt policyKey refreshSeconds cache reading).2.2 := by
  unfold PolicyProvider.current
  cases refreshes : provider.refreshIfDue ext policyKey refreshSeconds cache reading.answer reading.now with
  | error e =>
      apply refuses_error
      unfold PolicyProvider.refreshIfDue at refreshes
      cases checked : provider.checkedAt with
      | none =>
          rw [checked] at refreshes
          cases refreshes
      | some checkedAt =>
          rw [checked] at refreshes
          refine refuses_bind (shift_otherwise checkedAt refreshSeconds) (fun due => ?_) e refreshes
          exact refuses_ite (refuses_pure _) (refuses_pure _)
  | ok refreshed =>
      have kept := refreshIfDue_keeps held cached asked refreshes
      have still : (Marked.current refreshed.cache).isSome = true := by
        rcases PolicyProvider.refreshIfDue_cases refreshes with rfl | rfl
        · exact stocked
        · rcases @PolicyProvider.pull_cases ext policyKey provider cache reading.answer reading.now with
            same | ⟨response, policy, _, _, same⟩
          · rw [same]
            exact stocked
          · rw [same]
            dsimp only
            rw [Marked.current_put]
            rfl
      obtain ⟨provider', cache', answered⟩ := refreshed
      dsimp only at kept still ⊢
      generalize isLoaded : (if provider'.policy.isNone = true then provider'.loadCache ext policyKey cache'
        else provider') = loaded
      have present : loaded.policy.isSome = true := by
        rw [← isLoaded]
        split
        · exact loadCache_policy kept.2.1 still
        · rename_i some
          exact Option.isSome_iff_ne_none.mpr fun none => some (by rw [none]; rfl)
      cases isPolicy : loaded.policy with
      | none =>
          rw [isPolicy] at present
          cases present
      | some policy =>
          dsimp only
          split
          · split
            · exact inForce_otherwise (isFresh_otherwise _)
            · exact inForce_otherwise (refuses_ok _)
          · exact inForce_otherwise (isFresh_otherwise _)

theorem cache_grows (state : Providers) (move : ProviderMove) (vetted : Vetted ext policyKey state) :
    (Marked.current state.cache).isSome = true →
      (Marked.current ((provisioning ext readInt policyKey refreshSeconds).step state move).cache).isSome = true := by
  intro stocked
  cases move with
  | start => exact stocked
  | bundle document exportedAt =>
      show (Marked.current (Providers.step ext readInt policyKey refreshSeconds state
        (.bundle document exportedAt)).cache).isSome = true
      unfold Providers.step
      dsimp only
      split
      · exact stocked
      · dsimp only
        rw [Marked.current_put]
        rfl
  | current index reading =>
      show (Marked.current (Providers.step ext readInt policyKey refreshSeconds state
        (.current index reading)).cache).isSome = true
      unfold Providers.step
      dsimp only
      cases found : state.providers[index]? with
      | none => exact stocked
      | some provider =>
          exact (@current_stocked ext readInt policyKey refreshSeconds provider state.cache reading
            (vetted.stocked provider (List.mem_of_getElem? found))).1 stocked

/-- Once any process was handed a policy, no call of any process of the gateway, restarted or not, is refused for want
of one, whatever the kernel serves or fails to serve from then on. -/
theorem stays_published {state : Providers}
    (reached : (provisioning ext readInt policyKey refreshSeconds).Reachable state) {index : Nat}
    (found : state.providers[index]? = some provider) {reading : PolicyProvider.Reading} {policy : Policy}
    {fresh : Bool}
    (answered : (provider.current ext readInt policyKey refreshSeconds state.cache reading).2.2 = .ok (policy, fresh))
    (moves : List ProviderMove) :
    let later := (provisioning ext readInt policyKey refreshSeconds).run state (.current index reading :: moves)
    ∀ (other : Nat) (asking : PolicyProvider) (next : PolicyProvider.Reading), later.providers[other]? = some asking →
      Refuses Otherwise (asking.current ext readInt policyKey refreshSeconds later.cache next).2.2 := by
  have known := vetted reached
  have first : (Marked.current
      ((provisioning ext readInt policyKey refreshSeconds).step state (.current index reading)).cache).isSome = true := by
    show (Marked.current (Providers.step ext readInt policyKey refreshSeconds state
      (.current index reading)).cache).isSome = true
    unfold Providers.step
    dsimp only
    rw [found]
    exact (@current_stocked ext readInt policyKey refreshSeconds provider state.cache reading
      (known.stocked provider (List.mem_of_getElem? found))).2 (current_policy answered)
  intro later other asking next isOther
  have both : (Marked.current later.cache).isSome = true ∧ Vetted ext policyKey later := by
    refine (provisioning ext readInt policyKey refreshSeconds).run_invariant
      (fun state => (Marked.current state.cache).isSome = true ∧ Vetted ext policyKey state) ?_
      ⟨first, known.step _⟩ moves
    intro state move now
    exact ⟨cache_grows state move now.2 now.1, now.2.step move⟩
  have last : ProviderMove.current other next ∈ later.past ++ [.current other next] :=
    List.mem_append_right _ List.mem_cons_self
  refine current_otherwise (both.2.cached.more (.current other next))
    ((both.2.held asking (List.mem_of_getElem? isOther)).more _) ?_ both.1
  intro response isAnswer
  exact ⟨_, last, .inl ⟨response, isAnswer, rfl, rfl⟩⟩

end Providers

end Stozher.Gateway

namespace Stozher.Deployment

open Library Gateway

/-- The kernel serves the policy, and cannot be reached a second time. -/
def servedAt (at_ : String) : PolicyProvider.Reading where
  now := at_
  answer := .ok { status := 200, body := policy.document }
  again := at_
  owed := .error "connection refused"
  later := at_

def lostAt (at_ : String) : PolicyProvider.Reading where
  now := at_
  answer := .error "connection refused"
  again := at_
  owed := .error "connection refused"
  later := at_

def started : Providers where
  cache := []
  providers := [.new]
  past := [.start]

theorem started_reachable : (provisioning ext String.toInt? (some orgKey) 30).Reachable started :=
  ⟨{ cache := [], providers := [], past := [] }, [.start], ⟨rfl, rfl, rfl⟩, rfl⟩

theorem served_fresh : ∃ policy,
    (PolicyProvider.new.current ext String.toInt? (some orgKey) 30 started.cache (servedAt nine)).2.2 = .ok (policy, true) := by
  have seen : (PolicyProvider.new.current ext String.toInt? (some orgKey) 30 started.cache (servedAt nine)).2.2.toOption.map
      Prod.snd = some true := by
    decide +kernel
  cases answered : (PolicyProvider.new.current ext String.toInt? (some orgKey) 30 started.cache (servedAt nine)).2.2 with
  | error e =>
      rw [answered] at seen
      cases seen
  | ok handed =>
      rw [answered] at seen
      obtain ⟨policy, fresh⟩ := handed
      cases seen
      exact ⟨policy, rfl⟩

theorem served_handed_out : ∃ policy,
    Providers.HandedOut ext String.toInt? (some orgKey) [.start, .current 0 (servedAt nine)] 0 nine policy true := by
  obtain ⟨policy, answered⟩ := served_fresh
  have found : started.providers[0]? = some PolicyProvider.new := rfl
  exact ⟨policy, Providers.handed_out started_reachable found (servedAt nine) answered⟩

theorem restarted (reading : PolicyProvider.Reading) :
    ((provisioning ext String.toInt? (some orgKey) 30).run started [.current 0 reading, .start]).providers[1]? =
      some .new :=
  rfl

theorem served_stays :
    let later := (provisioning ext String.toInt? (some orgKey) 30).run started [.current 0 (servedAt nine), .start]
    Refuses Providers.Otherwise (PolicyProvider.new.current ext String.toInt? (some orgKey) 30 later.cache
      (lostAt halfPast)).2.2 := by
  obtain ⟨policy, answered⟩ := served_fresh
  have found : started.providers[0]? = some PolicyProvider.new := rfl
  exact Providers.stays_published started_reachable found answered [.start] 1 .new (lostAt halfPast)
    (restarted (servedAt nine))

end Stozher.Deployment
