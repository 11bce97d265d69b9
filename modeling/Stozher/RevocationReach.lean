import Stozher.Gateway.RevocationFeed
import Stozher.Deployment

namespace Stozher

open Library Gateway Ingest

namespace Gateway.MandateWalk

variable {ext : External} {readInt : String → Option Int} {mandates : Members} {params : WalkParams}

/-- One mandate names another as the one it was delegated under. -/
def Delegates (ext : External) (mandates : Members) (mandate parent : Value) : Prop :=
  ∃ reference, lookup mandate "parent" = .ok reference ∧ resolve ext mandates reference = .ok parent

theorem revocationInstants_early {revocations : List Value} {document : Value} {target revokedAt : String}
    (listed : document ∈ revocations) (instant : revocationInstant ext document = some (target, revokedAt)) :
    ∃ first, revocationInstants ext revocations target = some first ∧ first ≤ revokedAt := by
  unfold revocationInstants
  apply Mandate.foldl_recordRevocation
  exact List.mem_filterMap.mpr ⟨document, listed, instant⟩

theorem before_of_checkInstant {index : Mandate.RevocationIndex} {id at_ first : String}
    (clear : checkInstant index id at_ = .ok ()) (isFirst : index id = some first) : at_ < first := by
  unfold checkInstant at clear
  rw [isFirst] at clear
  exact not_le.mp (require_eq_ok.mp clear)

theorem verifyLink_clear {index : Mandate.RevocationIndex} {mandate : Value}
    (verified : verifyLink ext index params mandate = .ok ()) :
    ∃ id, Signed.objectId ext mandate = .ok id ∧ checkInstant index id params.at_ = .ok () := by
  unfold verifyLink at verified
  simp only [bind_eq_ok] at verified
  obtain ⟨_, _, _, _, _, _, _, _, id, isId, _, clear, _⟩ := verified
  exact ⟨id, isId, clear⟩

theorem acceptDelegation_parent {mandate parent other : Value}
    (accepted : acceptDelegation ext readInt mandates mandate = .ok parent)
    (delegates : Delegates ext mandates mandate other) : other = parent := by
  unfold acceptDelegation at accepted
  obtain ⟨reference, named, resolved⟩ := delegates
  rw [named] at accepted
  rw [bind_eq_ok] at accepted
  obtain ⟨_, ⟨⟩, accepted⟩ := accepted
  split at accepted
  · simp only [bind_eq_ok] at accepted
    obtain ⟨_, _, ⟨⟩⟩ := accepted
  · simp only [bind_eq_ok, pure_eq_ok] at accepted
    obtain ⟨_, _, _, _, _, _, held, isHeld, _, _, _, _, _, _, _, _, _, _, _, _, _, _, _, _, _, _, same⟩ := accepted
    rw [resolved] at isHeld
    cases isHeld
    exact same

theorem acceptRoot_top {mandate other : Value} {depth : Nat} {taken : MandateOk}
    (accepted : acceptRoot ext params mandate depth = .ok taken) : ¬Delegates ext mandates mandate other := by
  rintro ⟨reference, named, resolved⟩
  unfold acceptRoot at accepted
  rw [named] at accepted
  simp only [bind_eq_ok, require_eq_ok] at accepted
  obtain ⟨_, ⟨⟩, _, parentless, _⟩ := accepted
  have null : reference = .null := by
    cases reference with
    | null => rfl
    | _ => cases parentless
  rw [null] at resolved
  cases resolved

/-- An accepted walk finds no mandate above its leaf revoked. -/
theorem walkFrom_clear {index : Mandate.RevocationIndex} {mandate ancestor : Value} {depth : Nat} {taken : MandateOk}
    (walked : walkFrom ext readInt mandates index params depth mandate = .ok taken)
    (above : Relation.ReflTransGen (Delegates ext mandates) mandate ancestor) :
    ∃ id, Signed.objectId ext ancestor = .ok id ∧ checkInstant index id params.at_ = .ok () := by
  induction above using Relation.ReflTransGen.head_induction_on generalizing depth with
  | refl =>
      unfold walkFrom at walked
      rw [bind_eq_ok] at walked
      obtain ⟨_, link, _⟩ := walked
      exact verifyLink_clear link
  | @head child parent up _ ih =>
      unfold walkFrom at walked
      simp only [bind_eq_ok] at walked
      obtain ⟨_, _, kind, _, walked⟩ := walked
      split at walked
      · exact absurd up (acceptRoot_top walked)
      · split at walked
        · rw [bind_eq_ok] at walked
          obtain ⟨accepted, isAccepted, walked⟩ := walked
          rw [← acceptDelegation_parent isAccepted up] at walked
          split at walked
          · exact ih walked
          · cases walked
        · cases walked

theorem verifyMandateChain_clear {leafRef : String} {leaf ancestor : Value} {taken : MandateOk}
    (resolved : resolve ext mandates (.string leafRef) = .ok leaf)
    (walked : verifyMandateChain ext readInt mandates leafRef params = .ok taken)
    (above : Relation.ReflTransGen (Delegates ext mandates) leaf ancestor) :
    ∃ id, Signed.objectId ext ancestor = .ok id ∧
      checkInstant (revocationInstants ext params.revocations) id params.at_ = .ok () := by
  unfold verifyMandateChain at walked
  rw [resolved] at walked
  simp only [bind_eq_ok] at walked
  obtain ⟨_, ⟨⟩, _, _, _, _, _, _, walked⟩ := walked
  exact walkFrom_clear walked above

end Gateway.MandateWalk

/-- A request for the feed that is answered but not taken in, with the kernel as it was when it answered. -/
structure Inquiry where
  answer : TaggedAnswer
  source : Option World
  owed : Bool
  version : String

/-- A gateway's process: the revocations it holds, what it asks for, and the kernel that last told it. -/
structure Watcher where
  feed : RevocationFeed
  asked : Option Inquiry
  heard : Option World

/-- The kernel and the gateway's processes, which share a cache. -/
structure Watch where
  world : World
  cache : RevocationCache
  watchers : List Watcher
  served : List World

/-- A response that serves nothing: the caller is not authenticated, or the store is out. -/
structure Failure where
  response : Tagged
  failing : response.status ≠ 200 ∧ response.status ≠ 304

/-- How a request fares on its way. -/
inductive Transport where
  | answered
  | unreachable (detail : String)
  | failed (failure : Failure)

/-- What can happen next. A process reads the cache once, asks, and takes an answer in, with anything in
between; a bundle may be written over the cache. -/
inductive WatchMove where
  | kernel (action : Action)
  | start
  | seed (documents : List Value) (exportedAt : String)
  | load (index : Nat)
  | ask (index : Nat) (revokeCached : Bool) (version now : String) (transport : Transport)
  | hear (index : Nat) (checkedAt : String)

/-- What comes back of a request, and the kernel it comes from. -/
def Transport.answer (ext : External) (world : World) (epoch : Option String) :
    Transport → TaggedAnswer × Option World
  | .answered => (.ok (getRevocations ext world.store epoch), some world)
  | .unreachable detail => (.error detail, none)
  | .failed failure => (.ok failure.response, none)

namespace Watch

variable (ext : External) (config : Config) (refreshSeconds : Int)

def new : Watcher where
  feed := .new
  asked := none
  heard := none

def set (state : Watch) (index : Nat) (watcher : Watcher) : Watch :=
  { state with watchers := state.watchers.set index watcher }

/-- Reads the cache, once in the life of a process. -/
def load (state : Watch) (index : Nat) (watcher : Watcher) : Watch :=
  state.set index { watcher with feed := watcher.feed.ready state.cache }

/-- Sends a request that is due. The kernel answers it from its store as it is by then. -/
def ask (state : Watch) (index : Nat) (watcher : Watcher) (revokeCached : Bool) (version now : String)
    (transport : Transport) : Watch :=
  if watcher.feed.loaded = true ∧ watcher.asked.isNone = true ∧
      watcher.feed.awaitsPull refreshSeconds revokeCached version now = .ok true then
    let (answer, source) := transport.answer ext state.world watcher.feed.epoch
    { state with served := state.served ++ source.toList }.set index {
      watcher with
      asked := some { answer, source, owed := watcher.feed.owesRepull revokeCached version, version } }
  else state

def hear (state : Watch) (index : Nat) (watcher : Watcher) (checkedAt : String) : Watch :=
  match watcher.asked with
  | none => state
  | some asked =>
      let (feed, cache, _) := watcher.feed.settle ext state.cache asked.owed asked.version asked.answer checkedAt
      { state with cache }.set index { feed, asked := none, heard := asked.source.or watcher.heard }

def step (state : Watch) : WatchMove → Watch
  | .kernel action => { state with world := (kernel ext config).step state.world action }
  | .start => { state with watchers := state.watchers ++ [new] }
  | .seed documents exportedAt => { state with cache := Marked.put state.cache "" (documents, exportedAt) }
  | .load index => (state.watchers[index]?).elim state (state.load index)
  | .ask index revokeCached version now transport => (state.watchers[index]?).elim state fun watcher =>
      state.ask ext refreshSeconds index watcher revokeCached version now transport
  | .hear index checkedAt => (state.watchers[index]?).elim state (state.hear ext index · checkedAt)

end Watch

/-- The kernel over a new database and gateways that poll it, in every interleaving. -/
def watch (ext : External) (config : Config) (refreshSeconds : Int) : System Watch WatchMove where
  start state := state.world = World.initial ∧ state.cache = [] ∧ state.watchers = [] ∧ state.served = []
  step := Watch.step ext config refreshSeconds

namespace Watch

variable {ext : External} {config : Config} {refreshSeconds : Int}

theorem ready_loaded (feed : RevocationFeed) (cache : RevocationCache) : (feed.ready cache).loaded = true := by
  unfold RevocationFeed.ready
  split
  · assumption
  · unfold RevocationFeed.loadCache
    split <;> rfl

section Steps

variable {state : Watch} {index : Nat} {watcher : Watcher} (found : state.watchers[index]? = some watcher)
include found

theorem step_load : (watch ext config refreshSeconds).step state (.load index) = state.load index watcher := by
  show (state.watchers[index]?).elim state (state.load index) = _
  rw [found]
  rfl

theorem step_ask {revokeCached : Bool} {version now : String} {transport : Transport} :
    (watch ext config refreshSeconds).step state (.ask index revokeCached version now transport) =
      state.ask ext refreshSeconds index watcher revokeCached version now transport := by
  show (state.watchers[index]?).elim state _ = _
  rw [found]
  rfl

theorem step_hear {checkedAt : String} :
    (watch ext config refreshSeconds).step state (.hear index checkedAt) = state.hear ext index watcher checkedAt := by
  show (state.watchers[index]?).elim state _ = _
  rw [found]
  rfl

/-- A process that nothing comes between does what the code's call does. -/
theorem run_current (idle : watcher.asked = none) (revokeCached : Bool) (version now checkedAt : String) :
    let current := watcher.feed.current ext state.cache refreshSeconds revokeCached version
      (fun epoch => .ok (getRevocations ext state.world.store epoch)) now checkedAt
    let left := (watch ext config refreshSeconds).run state
      [.load index, .ask index revokeCached version now .answered, .hear index checkedAt]
    left.cache = current.2.1 ∧ ∃ next, left.watchers[index]? = some next ∧ next.feed = current.1 ∧ next.asked = none := by
  have bound := (List.getElem?_eq_some_iff.mp found).1
  let ready : Watcher := { watcher with feed := watcher.feed.ready state.cache }
  have readied : (state.load index watcher).watchers[index]? = some ready := List.getElem?_set_self bound
  have free : ready.feed.loaded = true ∧ ready.asked.isNone = true :=
    ⟨ready_loaded _ _, by rw [show ready.asked = none from idle]; rfl⟩
  dsimp only
  rw [System.run_cons, step_load found, System.run_cons, step_ask readied, System.run_cons, System.run_nil]
  unfold RevocationFeed.current
  dsimp only
  by_cases due : ready.feed.awaitsPull refreshSeconds revokeCached version now = .ok true
  · have asks : (state.load index watcher).ask ext refreshSeconds index ready revokeCached version now .answered =
        { state.load index watcher with served := state.served ++ [state.world] }.set index {
          ready with
          asked := some {
            answer := .ok (getRevocations ext state.world.store ready.feed.epoch)
            source := some state.world
            owed := ready.feed.owesRepull revokeCached version, version } } := by
      unfold Watch.ask
      exact if_pos ⟨free.1, free.2, due⟩
    have within_ : index < (state.load index watcher).watchers.length := (List.getElem?_eq_some_iff.mp readied).1
    rw [asks, step_hear (List.getElem?_set_self within_),
      show (watcher.feed.ready state.cache).awaitsPull _ _ _ _ = _ from due]
    refine ⟨rfl, _, List.getElem?_set_self ?_, rfl, rfl⟩
    simp only [Watch.set, List.length_set]
    exact within_
  · have asks : (state.load index watcher).ask ext refreshSeconds index ready revokeCached version now .answered =
        state.load index watcher := by
      unfold Watch.ask
      exact if_neg fun all => due all.2.2
    have unasked : (state.load index watcher).hear ext index ready checkedAt = state.load index watcher := by
      unfold Watch.hear
      rw [show ready.asked = none from idle]
    rw [asks, step_hear readied, unasked]
    cases outcome : (watcher.feed.ready state.cache).awaitsPull refreshSeconds revokeCached version now with
    | error e => exact ⟨rfl, ready, readied, rfl, idle⟩
    | ok owed =>
        cases owed with
        | true => exact absurd outcome due
        | false => exact ⟨rfl, ready, readied, rfl, idle⟩

end Steps

/-- The epochs of what was served tell its sets apart. -/
def CollisionFree (ext : External) (served : List World) : Prop :=
  ∀ first ∈ served, ∀ second ∈ served,
    first.store.revocationEpoch ext = second.store.revocationEpoch ext → first.store.epochText = second.store.epochText

/-- What a set is that goes by an epoch. -/
def Serves (ext : External) (served : List World) (epoch : String) (documents : List Value) : Prop :=
  ∃ past ∈ served, epoch = etagOf (past.store.revocationEpoch ext) ∧ documents = (past.store.revocationFeed ext).2

/-- What an answer on its way to a feed is. -/
def Answered (ext : External) (served : List World) (epoch : Option String) (asked : Inquiry) : Prop :=
  match asked.source with
  | none => ∀ response, asked.answer = .ok response → response.status ≠ 200 ∧ response.status ≠ 304
  | some past => past ∈ served ∧ asked.answer = .ok (getRevocations ext past.store epoch)

structure Holds (ext : External) (served : List World) (watcher : Watcher) : Prop where
  held : ∀ epoch, watcher.feed.epoch = some epoch → Serves ext served epoch watcher.feed.revocations
  asked : ∀ asked, watcher.asked = some asked → Answered ext served watcher.feed.epoch asked
  heard : ∀ past, watcher.heard = some past →
    past ∈ served ∧ watcher.feed.revocations = (past.store.revocationFeed ext).2
  later : ∀ asked past source, watcher.asked = some asked → watcher.heard = some past →
    asked.source = some source → past.store.Grows source.store
  unloaded : watcher.feed.loaded = false → watcher.asked = none ∧ watcher.heard = none

def Cached (ext : External) (served : List World) (cache : RevocationCache) : Prop :=
  ∀ epoch documents verifiedAt, Marked.current cache = some (epoch, documents, verifiedAt) →
    epoch ≠ "" → Serves ext served epoch documents

structure Watched (ext : External) (config : Config) (state : Watch) : Prop where
  reached : (kernel ext config).Reachable state.world
  served : ∀ past ∈ state.served, (kernel ext config).Reachable past ∧ past.store.Grows state.world.store
  ordered : state.served.Pairwise fun first second => first.store.Grows second.store
  cached : Cached ext state.served state.cache
  watchers : ∀ watcher ∈ state.watchers, Holds ext state.served watcher

theorem Serves.more {served more : List World} {epoch : String} {documents : List Value}
    (serves : Serves ext served epoch documents) : Serves ext (served ++ more) epoch documents := by
  obtain ⟨past, member, rest⟩ := serves
  exact ⟨past, List.mem_append_left _ member, rest⟩

theorem Answered.more {served more : List World} {epoch : Option String} {asked : Inquiry}
    (answered : Answered ext served epoch asked) : Answered ext (served ++ more) epoch asked := by
  unfold Answered at answered ⊢
  split at answered
  · exact answered
  · exact ⟨List.mem_append_left _ answered.1, answered.2⟩

theorem Holds.more {served more : List World} {watcher : Watcher} (holds : Holds ext served watcher) :
    Holds ext (served ++ more) watcher where
  held epoch isEpoch := (holds.held epoch isEpoch).more
  asked asked isAsked := (holds.asked asked isAsked).more
  heard past isPast := ⟨List.mem_append_left _ (holds.heard past isPast).1, (holds.heard past isPast).2⟩
  later := holds.later
  unloaded := holds.unloaded

theorem Cached.more {served more : List World} {cache : RevocationCache} (cached : Cached ext served cache) :
    Cached ext (served ++ more) cache :=
  fun epoch documents verifiedAt current named => (cached epoch documents verifiedAt current named).more

theorem etag_listed {epoch : String} (plain : ',' ∉ epoch.toList) :
    listed (etagOf epoch).toList = [(etagOf epoch).toList] := by
  have absent : ',' ∉ (etagOf epoch).toList := by
    unfold etagOf
    simp [plain]
  unfold listed
  have whole : (List.intercalate [','] [(etagOf epoch).toList]).splitOn ',' = [(etagOf epoch).toList] :=
    List.splitOn_intercalate ',' (by simpa using absent) (by simp)
  simpa using whole

theorem etag_trimmed (epoch : String) : trimmed (etagOf epoch).toList = (etagOf epoch).toList := by
  have quoted : (etagOf epoch).toList = '"' :: (epoch.toList ++ ['"']) := by
    unfold etagOf
    simp
  unfold trimmed
  rw [quoted, List.dropWhile_cons_of_neg (by decide), List.reverse_cons, List.reverse_append, List.reverse_singleton,
    List.singleton_append, List.cons_append, List.dropWhile_cons_of_neg (by decide)]
  simp

theorem etagOf_injective {first second : String} (same : etagOf first = etagOf second) : first = second := by
  have chars := congrArg String.toList same
  unfold etagOf at chars
  simp only [String.toList_append, List.append_cancel_left_eq, List.append_cancel_right_eq] at chars
  exact String.toList_inj.mp chars

/-- A request that holds a set gets a 304 for that set and for no other. -/
theorem notModified_iff {held epoch : String} (plain : ',' ∉ held.toList) :
    notModified (some (etagOf held)) (etagOf epoch) = true ↔ held = epoch := by
  unfold notModified
  rw [Option.any_some, etag_listed plain]
  simp only [List.any_cons, List.any_nil, Bool.or_false, decide_eq_true_iff, etag_trimmed]
  constructor
  · intro same
    exact etagOf_injective (String.toList_inj.mp same)
  · rintro rfl
    rfl

theorem comparable {served : List World} (ordered : served.Pairwise fun first second => first.store.Grows second.store)
    {first second : World} (inside : first ∈ served) (inside' : second ∈ served) :
    first.store.Grows second.store ∨ second.store.Grows first.store := by
  obtain ⟨index, bound, rfl⟩ := List.mem_iff_getElem.mp inside
  obtain ⟨index', bound', rfl⟩ := List.mem_iff_getElem.mp inside'
  rcases lt_trichotomy index index' with before | rfl | after
  · exact .inl (List.pairwise_iff_getElem.mp ordered index index' bound bound' before)
  · exact .inl (Store.Grows.refl _)
  · exact .inr (List.pairwise_iff_getElem.mp ordered index' index bound' bound after)

/-- Served sets of one epoch are one set. -/
theorem feed_of_epoch {state : Watch} (digests : Store.PlainDigests ext) (known : Watched ext config state)
    (distinct : CollisionFree ext state.served) {first second : World} (inside : first ∈ state.served)
    (inside' : second ∈ state.served) (same : first.store.revocationEpoch ext = second.store.revocationEpoch ext) :
    first.store.revocationFeed ext = second.store.revocationFeed ext := by
  have text := distinct first inside second inside' same
  have plain := World.revocation_plain digests (known.served first inside).1
  have plain' := World.revocation_plain digests (known.served second inside').1
  apply Store.feed_eq_of_revocations
  rcases comparable known.ordered inside inside' with grows | grows
  · exact Store.feed_eq_of_text grows plain plain' text
  · exact (Store.feed_eq_of_text grows plain' plain text.symm).symm

/-- A gateway can check every revocation the kernel serves. -/
theorem listed_verifiable {world : World} (reached : (kernel ext config).Reachable world) :
    ∀ document ∈ (world.store.revocationFeed ext).2, RevocationFeed.isVerifiable ext document = true := by
  intro document member
  obtain ⟨row, listed, rfl⟩ := List.mem_map.mp member
  have stored : row ∈ world.store.revocations := (mem_sortedAfter.mp listed).1
  obtain ⟨taken, inside, object, written⟩ := World.revocationRow_taken reached row stored
  obtain ⟨before, after, at_⟩ := (World.traced reached).accepted taken inside
  obtain ⟨subjectKey, payloads, admitted⟩ := at_.origin.admitted
  obtain ⟨_, canonical, target, revokedAt, signer, hasTarget, hasInstant, signed⟩ := admitted.revokes written.projected
  have form := written.document
  rw [canonical] at form
  rw [← Except.ok.inj form]
  exact RevocationFeed.isVerifiable_iff.mpr ⟨signer, target, revokedAt, signed, hasTarget, hasInstant⟩

/-- What a process takes in of an answer that serves something. -/
theorem settle_served {state : Watch} (digests : Store.PlainDigests ext) (known : Watched ext config state)
    (distinct : CollisionFree ext state.served) {watcher : Watcher} (holds : Holds ext state.served watcher)
    {past : World} (inside : past ∈ state.served) (owed : Bool) (version checkedAt : String) :
    let settled := watcher.feed.settle ext state.cache owed version (.ok (getRevocations ext past.store watcher.feed.epoch))
      checkedAt
    settled.1.loaded = watcher.feed.loaded ∧ settled.1.revocations = (past.store.revocationFeed ext).2 ∧
      settled.1.epoch = some (etagOf (past.store.revocationEpoch ext)) ∧ Cached ext state.served settled.2.1 := by
  have served : Serves ext state.served (etagOf (past.store.revocationEpoch ext)) (past.store.revocationFeed ext).2 :=
    ⟨past, inside, rfl, rfl⟩
  have confirmed : ∀ epoch, watcher.feed.epoch = some epoch →
      notModified (some epoch) (etagOf (past.store.revocationEpoch ext)) = true →
      epoch = etagOf (past.store.revocationEpoch ext) ∧ watcher.feed.revocations = (past.store.revocationFeed ext).2 := by
    intro epoch isEpoch unchanged
    obtain ⟨earlier, member, rfl, documents⟩ := holds.held epoch isEpoch
    have same : earlier.store.revocationEpoch ext = past.store.revocationEpoch ext :=
      (notModified_iff (digests _).2).mp unchanged
    have sets := feed_of_epoch digests known distinct member inside same
    exact ⟨congrArg etagOf same, documents.trans (congrArg Prod.snd sets)⟩
  obtain ⟨loaded, revocations, epoch, cache⟩ := @RevocationFeed.pull_served ext watcher.feed state.cache past.store
    checkedAt (listed_verifiable (known.served past inside).1) confirmed
  obtain ⟨same, settled⟩ := @RevocationFeed.settle_sameSet ext watcher.feed state.cache owed version
    (.ok (getRevocations ext past.store watcher.feed.epoch)) checkedAt
  refine ⟨same.loaded.trans loaded, same.revocations.trans revocations, same.epoch.trans epoch, ?_⟩
  rw [settled]
  rcases cache with kept | put
  · rw [kept]
    exact known.cached
  · rw [put]
    intro epoch documents verifiedAt current _
    rw [Marked.current_put] at current
    cases current
    exact served

theorem watchers_set {watchers : List Watcher} {index : Nat} {watcher : Watcher} {served : List World}
    (others : ∀ other ∈ watchers, Holds ext served other) (holds : Holds ext served watcher) :
    ∀ other ∈ watchers.set index watcher, Holds ext served other := by
  intro other member
  rcases List.mem_or_eq_of_mem_set member with earlier | rfl
  · exact others other earlier
  · exact holds

theorem Watched.load {state : Watch} (known : Watched ext config state) {index : Nat} {watcher : Watcher}
    (found : state.watchers[index]? = some watcher) : Watched ext config (state.load index watcher) := by
  have holds := known.watchers watcher (List.mem_of_getElem? found)
  refine ⟨known.reached, known.served, known.ordered, known.cached, watchers_set known.watchers ?_⟩
  unfold RevocationFeed.ready
  split
  · exact holds
  · rename_i unread
    obtain ⟨nothing, unheard⟩ := holds.unloaded (Bool.not_eq_true _ ▸ unread)
    have cached : ∀ epoch, (watcher.feed.loadCache state.cache).epoch = some epoch →
        Serves ext state.served epoch (watcher.feed.loadCache state.cache).revocations := by
      intro epoch isEpoch
      unfold RevocationFeed.loadCache at isEpoch ⊢
      split at isEpoch
      · exact holds.held epoch isEpoch
      · rename_i held documents verifiedAt current
        dsimp only at isEpoch ⊢
        split at isEpoch
        · cases isEpoch
        · rename_i named
          cases isEpoch
          exact known.cached _ _ _ current named
    refine ⟨cached, ?_, ?_, ?_, ?_⟩
    · intro asked isAsked
      exact absurd (nothing.symm.trans isAsked) (by simp)
    · intro past isHeard
      exact absurd (unheard.symm.trans isHeard) (by simp)
    · intro asked past source isAsked
      exact absurd (nothing.symm.trans isAsked) (by simp)
    · intro
      exact ⟨nothing, unheard⟩

/-- A request leaves what is held, and its answer was served if anything was. -/
theorem Watched.ask {state : Watch} (known : Watched ext config state) {index : Nat} {watcher : Watcher}
    (found : state.watchers[index]? = some watcher) (revokeCached : Bool) (version now : String)
    (transport : Transport) :
    Watched ext config (state.ask ext refreshSeconds index watcher revokeCached version now transport) := by
  have holds := known.watchers watcher (List.mem_of_getElem? found)
  unfold Watch.ask
  split
  · rename_i free
    obtain ⟨loaded, unasked, _⟩ := free
    have answered : Answered ext (state.served ++ (transport.answer ext state.world watcher.feed.epoch).2.toList)
        watcher.feed.epoch {
          answer := (transport.answer ext state.world watcher.feed.epoch).1
          source := (transport.answer ext state.world watcher.feed.epoch).2
          owed := watcher.feed.owesRepull revokeCached version, version } := by
      cases transport with
      | answered => exact ⟨List.mem_append_right _ List.mem_cons_self, rfl⟩
      | unreachable detail =>
          rintro response ⟨⟩
      | failed failure =>
          rintro response ⟨⟩
          exact failure.failing
    have source : ∀ world, (transport.answer ext state.world watcher.feed.epoch).2 = some world → world = state.world := by
      intro world isSource
      cases transport with
      | answered => exact (Option.some.inj isSource).symm
      | unreachable detail => cases isSource
      | failed failure => cases isSource
    have latest : ∀ world ∈ (transport.answer ext state.world watcher.feed.epoch).2.toList, world = state.world :=
      fun world member => source world (Option.mem_toList.mp member)
    refine ⟨known.reached, ?_, ?_, known.cached.more, ?_⟩
    · intro past member
      rcases List.mem_append.mp member with earlier | new
      · exact known.served past earlier
      · rw [latest past new]
        exact ⟨known.reached, Store.Grows.refl _⟩
    · refine List.pairwise_append.mpr ⟨known.ordered, ?_, ?_⟩
      · cases transport with
        | answered => exact List.pairwise_singleton _ _
        | unreachable detail => exact List.Pairwise.nil
        | failed failure => exact List.Pairwise.nil
      · intro first member second new
        rw [latest second new]
        exact (known.served first member).2
    · refine watchers_set (fun other member => (known.watchers other member).more) ?_
      refine ⟨holds.more.held, ?_, holds.more.heard, ?_, ?_⟩
      · rintro asked ⟨⟩
        exact answered
      · rintro asked past world ⟨⟩ isHeard isSource
        rw [source world isSource]
        exact (known.served past (holds.heard past isHeard).1).2
      · intro unloaded
        exact absurd (loaded.symm.trans unloaded) (by decide)
  · exact known

theorem Watched.put {state : Watch} (known : Watched ext config state) {index : Nat} {feed : RevocationFeed}
    {cache : RevocationCache} {heard : Option World} (cached : Cached ext state.served cache)
    (held : ∀ epoch, feed.epoch = some epoch → Serves ext state.served epoch feed.revocations)
    (isHeard : ∀ past, heard = some past →
      past ∈ state.served ∧ feed.revocations = (past.store.revocationFeed ext).2) (loaded : feed.loaded = true) :
    Watched ext config (Watch.set { state with cache } index { feed, asked := none, heard }) := by
  refine ⟨known.reached, known.served, known.ordered, cached, watchers_set known.watchers ⟨held, ?_, isHeard, ?_, ?_⟩⟩
  · rintro asked ⟨⟩
  · rintro asked past source ⟨⟩
  · intro unloaded
    exact absurd (loaded.symm.trans unloaded) (by decide)

/-- Taking an answer in leaves what the kernel served, or what was held where nothing was served. -/
theorem Watched.hear {state : Watch} (digests : Store.PlainDigests ext) (known : Watched ext config state)
    (distinct : CollisionFree ext state.served) {index : Nat} {watcher : Watcher}
    (found : state.watchers[index]? = some watcher) (checkedAt : String) :
    Watched ext config (state.hear ext index watcher checkedAt) := by
  have holds := known.watchers watcher (List.mem_of_getElem? found)
  unfold Watch.hear
  cases isAsked : watcher.asked with
  | none => exact known
  | some asked =>
      have answered := holds.asked asked isAsked
      have loaded : watcher.feed.loaded = true := by
        cases isLoaded : watcher.feed.loaded with
        | true => rfl
        | false => exact absurd ((holds.unloaded isLoaded).1.symm.trans isAsked) (by simp)
      have leaves : ∀ settled,
          watcher.feed.settle ext state.cache asked.owed asked.version asked.answer checkedAt = settled →
          Watched ext config (Watch.set { state with cache := settled.2.1 } index
            { feed := settled.1, asked := none, heard := asked.source.or watcher.heard }) := by
        intro settled isSettled
        unfold Answered at answered
        cases source : asked.source with
        | none =>
            rw [source] at answered
            obtain ⟨pulled, cache⟩ := @RevocationFeed.pull_failed ext watcher.feed state.cache asked.answer checkedAt answered
            obtain ⟨same, written⟩ := @RevocationFeed.settle_sameSet ext watcher.feed state.cache asked.owed
              asked.version asked.answer checkedAt
            rw [isSettled] at same written
            have revocations := same.revocations.trans pulled.revocations
            have epoch := same.epoch.trans pulled.epoch
            apply known.put
            · rw [written, cache]
              exact known.cached
            · intro named isEpoch
              rw [revocations]
              exact holds.held named (epoch.symm.trans isEpoch)
            · intro past isHeard
              rw [revocations]
              exact holds.heard past isHeard
            · exact same.loaded.trans (pulled.loaded.trans loaded)
        | some past =>
            rw [source] at answered
            obtain ⟨inside, answer⟩ := answered
            have served := settle_served digests known distinct holds inside asked.owed asked.version checkedAt
            rw [← answer, isSettled] at served
            obtain ⟨stays, revocations, epoch, cached⟩ := served
            apply known.put cached
            · intro named isEpoch
              rw [revocations]
              exact ⟨past, inside, (Option.some.inj (epoch.symm.trans isEpoch)).symm, rfl⟩
            · intro other isHeard
              cases isHeard
              exact ⟨inside, revocations⟩
            · exact stays.trans loaded
      exact leaves _ rfl

theorem Watched.step {state : Watch} (digests : Store.PlainDigests ext) (known : Watched ext config state)
    (move : WatchMove) (distinct : CollisionFree ext state.served) :
    Watched ext config ((watch ext config refreshSeconds).step state move) := by
  have atIndex : ∀ (index : Nat) (change : Watcher → Watch),
      (∀ watcher, state.watchers[index]? = some watcher → Watched ext config (change watcher)) →
      Watched ext config ((state.watchers[index]?).elim state change) := by
    intro index change each
    cases found : state.watchers[index]? with
    | none => exact known
    | some watcher => exact each watcher found
  cases move with
  | kernel action =>
      have grows := @World.run_store_grows ext config state.world [action]
      refine ⟨known.reached.step action, ?_, known.ordered, known.cached, known.watchers⟩
      intro past member
      obtain ⟨reached, earlier⟩ := known.served past member
      exact ⟨reached, earlier.trans grows⟩
  | start =>
      refine ⟨known.reached, known.served, known.ordered, known.cached, ?_⟩
      intro watcher member
      rcases List.mem_append.mp member with earlier | fresh
      · exact known.watchers watcher earlier
      · cases List.mem_singleton.mp fresh
        refine ⟨?_, ?_, ?_, ?_, fun _ => ⟨rfl, rfl⟩⟩
        · rintro epoch ⟨⟩
        · rintro asked ⟨⟩
        · rintro past ⟨⟩
        · rintro asked past source ⟨⟩
  | seed documents exportedAt =>
      refine ⟨known.reached, known.served, known.ordered, ?_, known.watchers⟩
      intro epoch others verifiedAt current named
      have seeded := (Marked.current_put state.cache "" (documents, exportedAt)).symm.trans current
      cases seeded
      exact absurd rfl named
  | load index => exact atIndex index _ fun watcher found => known.load found
  | ask index revokeCached version now transport =>
      exact atIndex index _ fun watcher found => known.ask found revokeCached version now transport
  | hear index checkedAt => exact atIndex index _ fun watcher found => known.hear digests distinct found checkedAt

theorem CollisionFree.mono {served more : List World} (distinct : CollisionFree ext more)
    (within_ : ∀ past ∈ served, past ∈ more) : CollisionFree ext served :=
  fun first inside second inside' same => distinct first (within_ first inside) second (within_ second inside') same

/-- What was served is not forgotten. -/
theorem served_step (state : Watch) (move : WatchMove) :
    ∀ past ∈ state.served, past ∈ ((watch ext config refreshSeconds).step state move).served := by
  have kept : ∀ (index : Nat) (change : Watcher → Watch),
      (∀ watcher, ∀ past ∈ state.served, past ∈ (change watcher).served) →
      ∀ past ∈ state.served, past ∈ ((state.watchers[index]?).elim state change).served := by
    intro index change each past member
    cases state.watchers[index]? with
    | none => exact member
    | some watcher => exact each watcher past member
  cases move with
  | kernel action => exact fun past member => member
  | start => exact fun past member => member
  | seed documents exportedAt => exact fun past member => member
  | load index => exact kept index _ fun watcher past member => member
  | ask index revokeCached version now transport =>
      apply kept
      intro watcher past member
      unfold Watch.ask
      split
      · exact List.mem_append_left _ member
      · exact member
  | hear index checkedAt =>
      apply kept
      intro watcher past member
      unfold Watch.hear
      split
      · exact member
      · exact member

theorem served_run (state : Watch) (moves : List WatchMove) :
    ∀ past ∈ state.served, past ∈ ((watch ext config refreshSeconds).run state moves).served :=
  (watch ext config refreshSeconds).run_grows
    (fun before after => ∀ past ∈ before.served, past ∈ after.served) (fun _ _ member => member)
    (fun _ _ _ first second past member => second past (first past member)) served_step state moves

theorem Watched.run {state : Watch} (digests : Store.PlainDigests ext) (known : Watched ext config state)
    (moves : List WatchMove)
    (distinct : CollisionFree ext ((watch ext config refreshSeconds).run state moves).served) :
    Watched ext config ((watch ext config refreshSeconds).run state moves) := by
  induction moves generalizing state with
  | nil => exact known
  | cons move rest ih =>
      rw [System.run_cons] at distinct ⊢
      have now : CollisionFree ext state.served := by
        apply distinct.mono
        intro past member
        exact served_run _ rest past (served_step state move past member)
      exact ih (known.step digests move now) distinct

theorem watched {state : Watch} (digests : Store.PlainDigests ext)
    (reached : (watch ext config refreshSeconds).Reachable state) (distinct : CollisionFree ext state.served) :
    Watched ext config state := by
  obtain ⟨first, moves, ⟨world, cache, watchers, served⟩, rfl⟩ := reached
  apply Watched.run digests _ moves distinct
  refine ⟨world ▸ .of_start rfl, ?_, ?_, ?_, ?_⟩
  · rw [served]
    exact fun _ => List.not_mem_nil.elim
  · rw [served]
    exact List.Pairwise.nil
  · rw [cache]
    rintro epoch documents verifiedAt ⟨⟩
  · rw [watchers]
    exact fun _ => List.not_mem_nil.elim

theorem heard_grows {state : Watch} (known : Watched ext config state) (move : WatchMove) {index : Nat}
    {watcher : Watcher} (found : state.watchers[index]? = some watcher) {past : World}
    (heard : watcher.heard = some past) :
    ∃ next, ((watch ext config refreshSeconds).step state move).watchers[index]? = some next ∧
      ∃ later, next.heard = some later ∧ past.store.Grows later.store := by
  have stays : ∃ later, watcher.heard = some later ∧ past.store.Grows later.store :=
    ⟨past, heard, Store.Grows.refl _⟩
  have bound := (List.getElem?_eq_some_iff.mp found).1
  have kept : ∀ (other : Nat) (change : Watcher → Watch),
      (∀ changed, state.watchers[other]? = some changed → ∃ watchers next,
        (change changed).watchers = watchers ∧ (watchers = state.watchers ∨ watchers = state.watchers.set other next) ∧
          (other = index → ∃ later, next.heard = some later ∧ past.store.Grows later.store)) →
      ∃ next, ((state.watchers[other]?).elim state change).watchers[index]? = some next ∧
        ∃ later, next.heard = some later ∧ past.store.Grows later.store := by
    intro other change each
    cases isOther : state.watchers[other]? with
    | none => exact ⟨watcher, found, stays⟩
    | some changed =>
        obtain ⟨watchers, next, same, unchanged | set, further⟩ := each changed isOther
        · exact ⟨watcher, (congrArg (·[index]?) (same.trans unchanged)).trans found, stays⟩
        · by_cases here : other = index
          · subst here
            exact ⟨next, (congrArg (·[other]?) (same.trans set)).trans (List.getElem?_set_self bound), further rfl⟩
          · exact ⟨watcher, ((congrArg (·[index]?) (same.trans set)).trans (List.getElem?_set_ne here)).trans found,
              stays⟩
  have itself : ∀ changed, state.watchers[index]? = some changed → changed = watcher :=
    fun changed isChanged => Option.some.inj (isChanged.symm.trans found)
  cases move with
  | kernel action => exact ⟨watcher, found, stays⟩
  | start => exact ⟨watcher, (List.getElem?_append_left bound).trans found, stays⟩
  | seed documents exportedAt => exact ⟨watcher, found, stays⟩
  | load other =>
      apply kept
      intro changed isChanged
      refine ⟨_, _, rfl, .inr rfl, ?_⟩
      rintro rfl
      rw [itself changed isChanged]
      exact stays
  | ask other revokeCached version now transport =>
      apply kept
      intro changed isChanged
      unfold Watch.ask
      split
      · refine ⟨_, _, rfl, .inr rfl, ?_⟩
        rintro rfl
        rw [itself changed isChanged]
        exact stays
      · exact ⟨_, watcher, rfl, .inl rfl, fun _ => stays⟩
  | hear other checkedAt =>
      apply kept
      intro changed isChanged
      unfold Watch.hear
      cases isAsked : changed.asked with
      | none => exact ⟨_, watcher, rfl, .inl rfl, fun _ => stays⟩
      | some asked =>
          refine ⟨_, _, rfl, .inr rfl, ?_⟩
          rintro rfl
          rw [itself changed isChanged] at isAsked ⊢
          cases source : asked.source with
          | none => exact stays
          | some world =>
              have holds := known.watchers watcher (List.mem_of_getElem? found)
              exact ⟨world, rfl, holds.later asked past world isAsked heard source⟩

/-- What a process has heard of stays heard of. -/
theorem heard_run {state : Watch} (digests : Store.PlainDigests ext) (known : Watched ext config state)
    (moves : List WatchMove) (distinct : CollisionFree ext ((watch ext config refreshSeconds).run state moves).served)
    {index : Nat} {watcher : Watcher} (found : state.watchers[index]? = some watcher) {past : World}
    (heard : watcher.heard = some past) :
    ∃ next, ((watch ext config refreshSeconds).run state moves).watchers[index]? = some next ∧
      ∃ later, next.heard = some later ∧ past.store.Grows later.store := by
  induction moves generalizing state watcher past with
  | nil => exact ⟨watcher, found, past, heard, Store.Grows.refl _⟩
  | cons move rest ih =>
      rw [System.run_cons] at distinct ⊢
      have now : CollisionFree ext state.served := by
        apply distinct.mono
        intro past member
        exact served_run _ rest past (served_step state move past member)
      obtain ⟨next, isNext, later, isLater, grows⟩ := heard_grows known move found heard
      obtain ⟨last, isLast, latest, isLatest, further⟩ := ih (known.step digests move now) distinct isNext isLater
      exact ⟨last, isLast, latest, isLatest, grows.trans further⟩

/-- What a process holds since an answer was taken in is what the kernel had on record when it gave it: all of it,
and nothing else, whether it sent the set or said it had not moved. -/
theorem holds_what_was_recorded {state : Watch} (digests : Store.PlainDigests ext)
    (reached : (watch ext config refreshSeconds).Reachable state) (distinct : CollisionFree ext state.served)
    {watcher : Watcher} (member : watcher ∈ state.watchers) {past : World} (heard : watcher.heard = some past) :
    (kernel ext config).Reachable past ∧ past.store.Grows state.world.store ∧
      watcher.feed.revocations.Perm (past.store.revocations.map fun row => row.documentJson.tree) := by
  have known := watched digests reached distinct
  obtain ⟨inside, same⟩ := (known.watchers watcher member).heard past heard
  obtain ⟨reaches, grows⟩ := known.served past inside
  refine ⟨reaches, grows, ?_⟩
  rw [same]
  exact past.store.listed_perm.map _

/-- A revocation that a process's answer was given after binds every later walk of that process, at whatever link of
the chain it strikes, and whatever the kernel does meanwhile. -/
theorem revocation_binds {state : Watch} (digests : Store.PlainDigests ext)
    (reached : (watch ext config refreshSeconds).Reachable state) (moves : List WatchMove)
    (distinct : CollisionFree ext ((watch ext config refreshSeconds).run state moves).served) {index : Nat}
    {watcher : Watcher} (found : state.watchers[index]? = some watcher) {past : World}
    (heard : watcher.heard = some past) {target revokedAt : String} {signer : KeyId}
    (accepted : World.RevocationAccepted ext past target revokedAt signer) :
    ∃ later, ((watch ext config refreshSeconds).run state moves).watchers[index]? = some later ∧
      ∀ (readInt : String → Option Int) (mandates : Members) (leafRef : String) (params : MandateWalk.WalkParams)
        (leaf mandate : Value), params.revocations = later.feed.revocations → revokedAt ≤ params.at_ →
        MandateWalk.resolve ext mandates (.string leafRef) = .ok leaf →
        Relation.ReflTransGen (MandateWalk.Delegates ext mandates) leaf mandate →
        Signed.objectId ext mandate = .ok target →
        isOk (MandateWalk.verifyMandateChain ext readInt mandates leafRef params) = false := by
  have before : CollisionFree ext state.served := distinct.mono (served_run state moves)
  have known := watched digests reached before
  obtain ⟨later, isLater, latest, isLatest, grows⟩ := heard_run digests known moves distinct found heard
  have after := known.run digests moves distinct
  obtain ⟨inside, same⟩ := (after.watchers later (List.mem_of_getElem? isLater)).heard latest isLatest
  have reaches := (known.served past ((known.watchers watcher (List.mem_of_getElem? found)).heard past heard).1).1
  obtain ⟨row, stored, _, signed, hasTarget, hasInstant⟩ := (accepted.revokes reaches).row
  refine ⟨later, isLater, ?_⟩
  intro readInt mandates leafRef params leaf mandate evaluated late resolved above named
  have listed : row.documentJson.tree ∈ params.revocations := by
    rw [evaluated, same]
    exact latest.store.mem_revocationFeed (grows.revocations.subset stored)
  have instant := RevocationFeed.revocationInstant_of_verifiable signed hasTarget hasInstant
  obtain ⟨first, isFirst, early⟩ := MandateWalk.revocationInstants_early listed instant
  cases walked : MandateWalk.verifyMandateChain ext readInt mandates leafRef params with
  | error refusal => rfl
  | ok taken =>
      obtain ⟨id, isId, clear⟩ := MandateWalk.verifyMandateChain_clear resolved walked above
      rw [named] at isId
      cases isId
      have after : params.at_ < first := MandateWalk.before_of_checkInstant clear isFirst
      exact absurd (after.trans_le (early.trans late)) (lt_irrefl _)

end Watch

end Stozher

namespace Stozher.Deployment

open Library Gateway Ingest

/-- The external code, with the hash of the epoch on record too. -/
def feedExt : External := {
  ext with
  sha256Hex := fun octets =>
    if octets = .other (Text.octets (opsRevoked.digest ++ "\n")) then Text.hex 64 0x33ed3f994f40c3e37307de7ac28a1daca39e127feec94b996103bf0fe796ada7
    else ext.sha256Hex octets }

/-- The kernel once a revocation is on record. -/
@[irreducible] def revoked_ : World :=
  (kernel feedExt config).run .initial revoking

/-- What is seen of the revocations a kernel has accepted. -/
def revocationsSeen (world : World) : List (Option String × Option String × Option KeyId) :=
  (world.accepted.filterMap fun taken => taken.plan.projections.revocation).map fun entry =>
    (entry.2.getStr "revokes", entry.2.getStr "revoked-at", (Signed.verifySignedObject feedExt entry.2).toOption)

theorem revocations_seen :
    revocationsSeen revoked_ = [(some opsMandate.digest, some quarterPast, some miraId)] := by
  decide +kernel

theorem revoked_reachable : (kernel feedExt config).Reachable revoked_ := by
  unfold revoked_
  exact ⟨.initial, revoking, rfl, rfl⟩

theorem revoked_accepted :
    World.RevocationAccepted feedExt revoked_ opsMandate.digest quarterPast miraId := by
  have seen : (some opsMandate.digest, some quarterPast, some miraId) ∈ revocationsSeen revoked_ := by
    rw [revocations_seen]
    exact List.mem_cons_self
  obtain ⟨⟨id, object⟩, inside, same⟩ := List.mem_map.mp seen
  obtain ⟨taken, member, projected⟩ := List.mem_filterMap.mp inside
  rw [Prod.mk.injEq, Prod.mk.injEq] at same
  obtain ⟨hasTarget, hasInstant, signed⟩ := same
  refine ⟨taken, member, id, object, projected, hasTarget, hasInstant, ?_⟩
  cases verified : Signed.verifySignedObject feedExt object with
  | error e =>
      rw [verified] at signed
      cases signed
  | ok key =>
      rw [verified] at signed
      cases signed
      rfl

def plain (text : String) : Bool :=
  !(Text.octets text).contains 10 && !(Text.octets text).contains 44

theorem of_plain {text : String} (isPlain : plain text = true) : '\n' ∉ text.toList ∧ ',' ∉ text.toList := by
  simp only [plain, Bool.and_eq_true, Bool.not_eq_true', List.contains_eq_mem, decide_eq_false_iff_not] at isPlain
  exact ⟨not_mem_of_octets (by decide) isPlain.1, not_mem_of_octets (by decide) isPlain.2⟩

theorem records_plain : (records.all fun recorded => plain recorded.digest) = true := by
  decide +kernel

theorem feed_plain : Store.PlainDigests feedExt := by
  intro octets
  apply of_plain
  show plain (if _ then _ else Recorded.hashOf records octets) = true
  split
  · decide +kernel
  · cases octets with
    | other bytes => exact show plain "" = true by decide +kernel
    | canonical form =>
        unfold Recorded.hashOf
        dsimp only
        cases found : records.find? fun recorded => recorded.document.same form.tree with
        | none => exact show plain "" = true by decide +kernel
        | some recorded => exact List.all_eq_true.mp records_plain recorded (List.mem_of_find?_eq_some found)

/-- A gateway that starts once the revocation is on record, asks, and hears the answer. -/
def polling : List WatchMove :=
  revoking.map .kernel ++ [.start, .load 0, .ask 0 false "secret-reads" halfPast .answered, .hear 0 halfPast]

/-- It owes another pull, and the kernel is gone. -/
def losing : List WatchMove :=
  [.ask 0 true "secret-reads" halfPast (.unreachable "connection refused"), .hear 0 halfPast]

def unwatched : Watch where
  world := .initial
  cache := []
  watchers := []
  served := []

/-- A kernel, with gateways that have just been told of it. -/
def told (world : World) : Watch :=
  (watch feedExt config 30).run { unwatched with world }
    [.start, .load 0, .ask 0 false "secret-reads" halfPast .answered, .hear 0 halfPast]

theorem told_served (world : World) : (told world).served = [world] := rfl

theorem told_heard (world : World) :
    ∃ watcher, (told world).watchers[0]? = some watcher ∧ watcher.heard = some world :=
  ⟨_, rfl, rfl⟩

theorem lost_served (world : World) : ((watch feedExt config 30).run (told world) losing).served = [world] := rfl

theorem run_kernel (state : Watch) (actions : List Action) :
    (watch feedExt config 30).run state (actions.map .kernel) =
      { state with world := (kernel feedExt config).run state.world actions } := by
  induction actions generalizing state with
  | nil => rfl
  | cons action rest ih =>
      rw [List.map_cons, System.run_cons, ih]
      rfl

theorem run_polled (actions : List Action) :
    (watch feedExt config 30).run unwatched (actions.map .kernel ++
      [.start, .load 0, .ask 0 false "secret-reads" halfPast .answered, .hear 0 halfPast]) =
      told ((kernel feedExt config).run .initial actions) := by
  rw [System.run_append, run_kernel]
  rfl

theorem told_reachable : (watch feedExt config 30).Reachable (told revoked_) := by
  refine ⟨unwatched, polling, ⟨rfl, rfl, rfl, rfl⟩, ?_⟩
  unfold polling revoked_
  exact run_polled revoking

theorem alone_collisionFree (world : World) : Watch.CollisionFree feedExt [world] := by
  intro first inside second inside' _
  rw [List.mem_singleton.mp inside, List.mem_singleton.mp inside']

theorem told_holds : ∃ watcher ∈ (told revoked_).watchers, watcher.feed.revocations.Perm
    (revoked_.store.revocations.map fun row => row.documentJson.tree) := by
  obtain ⟨watcher, found, heard⟩ := told_heard revoked_
  have member := List.mem_of_getElem? found
  exact ⟨watcher, member, (Watch.holds_what_was_recorded feed_plain told_reachable
    (told_served revoked_ ▸ alone_collisionFree revoked_) member heard).2.2⟩

theorem told_binds : ∃ later, ((watch feedExt config 30).run (told revoked_) losing).watchers[0]? = some later ∧
    isOk (MandateWalk.verifyMandateChain feedExt String.toInt? [(opsMandate.digest, opsMandate.document)]
      opsMandate.digest {
        request := none, resourceOnly := none, at_ := halfPast, subjectKey := opsKey, roots := [anaKey, miraKey]
        revocations := later.feed.revocations, maxDepth := 3 }) = false := by
  obtain ⟨watcher, found, heard⟩ := told_heard revoked_
  obtain ⟨later, isLater, binds⟩ := Watch.revocation_binds feed_plain told_reachable losing
    (lost_served revoked_ ▸ alone_collisionFree revoked_) found heard revoked_accepted
  refine ⟨later, isLater, ?_⟩
  refine binds String.toInt? _ _ _ opsMandate.document opsMandate.document rfl ?_ ?_ .refl ?_
  · exact show quarterPast ≤ halfPast by decide +kernel
  · decide +kernel
  · decide +kernel

end Stozher.Deployment
