import Stozher.ApproverLife
import Stozher.InstantOrder

namespace Stozher

open Library Ingest

variable {ext : External} {config : Config}

namespace Mandate

/-- The window of a mandate, and when it was issued, as texts in order. -/
structure Dated (mandate : Value) (issuedAt notBefore notAfter : String) : Prop where
  issued : mandate.getStr "issued-at" = some issuedAt
  starts : mandate.getStr "not-before" = some notBefore
  ends : mandate.getStr "not-after" = some notAfter
  order : issuedAt ≤ notBefore ∧ notBefore < notAfter

/-- What a grant of any kind was found to be. -/
structure WellGranted (ext : External) (mandate : Value) : Prop where
  dated : ∃ issuedAt notBefore notAfter, Dated mandate issuedAt notBefore notAfter
  signed : ∃ key, checkSigner ext mandate = .ok key

theorem verifyGrant_wellGranted {mandate : Value} {parent : Option Value} {params : GrantParams}
    (granted : verifyGrant ext mandate parent params = .ok ()) : WellGranted ext mandate := by
  unfold verifyGrant at granted
  simp only [bind_eq_ok] at granted
  obtain ⟨checked, shape, _⟩ := granted
  unfold checkGrantShape at shape
  simp only [bind_eq_ok, okOr_eq_ok, require_eq_ok] at shape
  obtain ⟨grantor, signer, _, _, issuedAt, issued, notBefore, starts, notAfter, ends, _, before, _, after, _⟩ := shape
  exact ⟨⟨issuedAt, notBefore, notAfter, issued, starts, ends, after, before⟩, grantor, signer⟩

theorem windowOf_eq_ok {mandate : Value} {start stop : String} (read : windowOf mandate = .ok (start, stop)) :
    mandate.getStr "not-before" = some start ∧ mandate.getStr "not-after" = some stop := by
  unfold windowOf at read
  simp only [bind_eq_ok, okOr_eq_ok, pure_eq_ok, Prod.mk.injEq] at read
  obtain ⟨_, starts, _, ends, same, same'⟩ := read
  exact ⟨same ▸ starts, same' ▸ ends⟩

/-- A grant beneath another ends no later. -/
theorem verifyGrant_ends {mandate : Value} {parent : Option Value} {params : GrantParams} {parentRef : String}
    (granted : verifyGrant ext mandate parent params = .ok ()) (names : mandate.getStr "parent" = some parentRef) :
    mandate.getStr "mandate-kind" = some "delegated" ∧ ∃ above stop parentStop, parent = some above ∧
      mandate.getStr "not-after" = some stop ∧ above.getStr "not-after" = some parentStop ∧ stop ≤ parentStop := by
  unfold verifyGrant at granted
  simp only [bind_eq_ok, okOr_eq_ok] at granted
  obtain ⟨⟨grantor, grantee, notAfter, depth⟩, _, kind, hasKind, role, _, granted⟩ := granted
  dsimp only at granted
  split at granted
  · unfold verifyRootGrant at granted
    simp only [bind_eq_ok] at granted
    obtain ⟨_, rooted, _⟩ := granted
    rw [getStr_of_isNull (checkRootGrant_eq_ok rooted).1] at names
    cases names
  · split at granted
    · rename_i delegated
      unfold verifyDelegatedGrant at granted
      simp only [bind_eq_ok, okOr_eq_ok] at granted
      obtain ⟨_, _, _, _, above, isAbove, _, _, narrowed⟩ := granted
      obtain ⟨_, _, ⟨_, stop, _, parentStop, window, parentWindow, _, within_⟩, _⟩ := checkNarrowing_eq_ok narrowed
      exact ⟨delegated ▸ hasKind, above, stop, parentStop, isAbove, (windowOf_eq_ok window).2,
        (windowOf_eq_ok parentWindow).2, within_⟩
    · cases granted

/-- Past its window a mandate is refused as expired, wherever the walk comes from. -/
theorem walk_expired {mandates : Members} {leafRef stop : String} {leaf : Value} {request : Scoped}
    {params : VerifyParams} (wellGranted : WellGranted ext leaf) (found : mandates.get leafRef = some leaf)
    (held : keyAt leaf "grantee" = .ok params.subjectKey) (ends : leaf.getStr "not-after" = some stop)
    (past : stop < params.at_) :
    ∃ e, walk ext mandates leafRef request params = .error e ∧ e.code = "mandate-expired" := by
  obtain ⟨_, notBefore, notAfter, dated⟩ := wellGranted.dated
  obtain ⟨key, signer⟩ := wellGranted.signed
  have same : notAfter = stop := Option.some.inj (dated.ends.symm.trans ends)
  subst same
  have begun : notBefore ≤ params.at_ := (dated.order.2.trans past).le
  have over_ : ¬params.at_ ≤ notAfter := not_le_of_gt past
  refine ⟨err "mandate-expired" s!"at {params.at_} is after {notAfter}", ?_, rfl⟩
  have window : checkWindow leaf leafRef params.at_ =
      .error (err "mandate-expired" s!"at {params.at_} is after {notAfter}") := by
    unfold checkWindow
    rw [dated.ends, dated.starts]
    dsimp only [okOr]
    rw [ok_bind, ok_bind, (require_eq_ok (u := ())).mpr begun, ok_bind]
    unfold require
    rw [if_neg over_]
  unfold walk resolve
  rw [found]
  dsimp only [okOr]
  rw [ok_bind, held, ok_bind, (require_eq_ok (u := ())).mpr rfl, ok_bind]
  unfold walkFrom checkLink
  rw [signer, ok_bind, window]
  rfl

end Mandate

namespace Store

variable {store : Store}

/-- A mandate as it was checked when it was stored. -/
structure StoredGrant (ext : External) (store : Store) (mandate : Value) : Prop where
  wellGranted : Mandate.WellGranted ext mandate
  within_ : ∀ parentRef, mandate.getStr "parent" = some parentRef → ∃ above stop parentStop,
    store.mandate parentRef = some above ∧ mandate.getStr "not-after" = some stop ∧
      above.getStr "not-after" = some parentStop ∧ stop ≤ parentStop

/-- A mandate beneath another ends no later. -/
theorem ends_beneath (granted : ∀ id mandate, store.mandate id = some mandate → StoredGrant ext store mandate)
    {id leafRef stop : String} {mandate : Value} (found : store.mandate id = some mandate)
    (ends : mandate.getStr "not-after" = some stop) (beneath : store.Beneath leafRef id) :
    ∃ leaf leafStop, store.mandate leafRef = some leaf ∧ leaf.getStr "not-after" = some leafStop ∧ leafStop ≤ stop := by
  induction beneath using Relation.ReflTransGen.head_induction_on with
  | refl => exact ⟨mandate, stop, found, ends, le_refl _⟩
  | @head leafRef parentRef names above ih =>
      obtain ⟨parent, parentStop, isParent, parentEnds, before⟩ := ih
      unfold Above parentOf at names
      obtain ⟨leaf, stored, names⟩ := Option.bind_eq_some_iff.mp names
      obtain ⟨other, leafStop, otherStop, isOther, leafEnds, otherEnds, earlier⟩ :=
        (granted leafRef leaf stored).within_ parentRef names
      cases isParent.symm.trans isOther
      cases parentEnds.symm.trans otherEnds
      exact ⟨leaf, leafStop, stored, leafEnds, earlier.trans before⟩

/-- A stored mandate expires: its instants are real and in order, and past one of them whoever holds it, or one
beneath it, is refused. -/
structure Expires (ext : External) (store : Store) (id : String) (mandate : Value) : Prop where
  instants : ∃ issuedAt notBefore notAfter, mandate.getStr "issued-at" = some issuedAt ∧
    mandate.getStr "not-before" = some notBefore ∧ mandate.getStr "not-after" = some notAfter ∧
    ∃ issued starts ends, Clock.parseTimestamp issuedAt = .ok issued ∧ Clock.parseTimestamp notBefore = .ok starts ∧
      Clock.parseTimestamp notAfter = .ok ends ∧ issued ≤ starts ∧ starts < ends
  refused : ∃ instant, isOk (Clock.parseTimestamp instant) = true ∧
    ∀ leafRef leaf, store.Beneath leafRef id → store.mandate leafRef = some leaf →
      ∀ (mandates : Members) request (params : Mandate.VerifyParams), mandates.get leafRef = some leaf →
        Mandate.keyAt leaf "grantee" = .ok params.subjectKey → instant < params.at_ →
          ∃ e, Mandate.walk ext mandates leafRef request params = .error e ∧ e.code = "mandate-expired"

/-- The instants a mandate names are in the fixed form. -/
def InstantsInForm (mandate : Value) : Prop :=
  ∀ name ∈ ["issued-at", "not-before", "not-after"], ∀ text, mandate.getStr name = some text →
    isOk (Clock.parseTimestamp text) = true

theorem expires_iff (granted : ∀ id mandate, store.mandate id = some mandate → StoredGrant ext store mandate)
    {id : String} {mandate : Value} (found : store.mandate id = some mandate) :
    Expires ext store id mandate ↔ InstantsInForm mandate := by
  obtain ⟨issuedAt, notBefore, notAfter, dated⟩ := (granted id mandate found).wellGranted.dated
  constructor
  · intro expires name listed text named
    obtain ⟨issuedAt', notBefore', notAfter', issued, starts, ends, _, _, _, first, second, third, _⟩ := expires.instants
    simp only [List.mem_cons, List.not_mem_nil, or_false] at listed
    rcases listed with rfl | rfl | rfl
    · rw [Option.some.inj (named.symm.trans issued), first]
      rfl
    · rw [Option.some.inj (named.symm.trans starts), second]
      rfl
    · rw [Option.some.inj (named.symm.trans ends), third]
      rfl
  · intro inForm
    obtain ⟨issued, isIssued⟩ := isOk_iff.mp (inForm "issued-at" (by decide) issuedAt dated.issued)
    obtain ⟨starts, isStarts⟩ := isOk_iff.mp (inForm "not-before" (by decide) notBefore dated.starts)
    obtain ⟨ends, isEnds⟩ := isOk_iff.mp (inForm "not-after" (by decide) notAfter dated.ends)
    refine ⟨⟨issuedAt, notBefore, notAfter, dated.issued, dated.starts, dated.ends, issued, starts, ends, isIssued,
      isStarts, isEnds, (Clock.le_iff_of_parse isIssued isStarts).mp dated.order.1, ?_⟩, notAfter, ?_, ?_⟩
    · have above := (Clock.le_iff_of_parse isEnds isStarts).not.mp (not_le_of_gt dated.order.2)
      omega
    · rw [isEnds]
      rfl
    · intro leafRef leaf beneath stored mandates request params held grantee past
      obtain ⟨other, stop, isOther, ends, before⟩ := ends_beneath granted found dated.ends beneath
      cases stored.symm.trans isOther
      exact Mandate.walk_expired (granted leafRef leaf stored).wellGranted held grantee ends (lt_of_le_of_lt before past)

end Store

namespace World

variable {world : World}

theorem storedGrant (reached : (kernel ext config).Reachable world) {id : String} {mandate : Value}
    (found : world.store.mandate id = some mandate) : Store.StoredGrant ext world.store mandate := by
  obtain ⟨taken, inside, name, projected⟩ := mandate_taken reached found
  obtain ⟨before, after, at_⟩ := (traced reached).accepted taken inside
  obtain ⟨subjectKey, payloads, admitted⟩ := at_.origin.admitted
  have grows : taken.snapshot.Grows world.store := (at_.origin.seen.trans at_.appends.grows).trans at_.kept
  rcases admitted.rule.ceremony.grants projected with valid | ⟨policy, valid⟩
  · obtain ⟨_, _, _, _, granted, _, same⟩ := validateGenesisMandate_eq_ok valid
    rw [same] at projected
    cases projected
    refine ⟨Mandate.verifyGrant_wellGranted granted, ?_⟩
    intro parentRef names
    obtain ⟨_, _, _, _, absent, _⟩ := Mandate.verifyGrant_ends granted names
    cases absent
  · obtain ⟨_, _, parent, _, _, resolved, granted, _, same⟩ := validateMandateGrant_eq_ok valid
    rw [same] at projected
    cases projected
    refine ⟨Mandate.verifyGrant_wellGranted granted, ?_⟩
    intro parentRef names
    obtain ⟨delegated, value, stop, parentStop, isParent, ends, parentEnds, before⟩ :=
      Mandate.verifyGrant_ends granted names
    unfold grantParent at resolved
    rw [delegated, names] at resolved
    simp only [bind_eq_ok, okOr_eq_ok, pure_eq_ok] at resolved
    obtain ⟨above, stored, isAbove⟩ := resolved
    cases isAbove.trans isParent
    exact ⟨value, stop, parentStop, Store.mandate_grows grows stored, ends, parentEnds, before⟩

/-- A stored mandate expires exactly where the instants it names are in the fixed form. -/
theorem grant_expires_iff (reached : (kernel ext config).Reachable world) {id : String} {mandate : Value}
    (found : world.store.mandate id = some mandate) :
    Store.Expires ext world.store id mandate ↔ Store.InstantsInForm mandate :=
  Store.expires_iff (fun _ _ stored => storedGrant reached stored) found

end World

end Stozher

namespace Stozher.Deployment

open Library Library.Text Recorded Ingest

def endlessDocument (sig : Members) : Value :=
  match mandate "interactive" "human:mira" miraKey "human" "human:ana" anaKey none 1 'b' sig with
  | .object members => .object (members.map fun member =>
      if member.1 = "not-after" then (member.1, .string "z") else member)
  | other => other

/-- A mandate with a last instant that no instant comes after. -/
def endlessMandate : Recorded where
  form := endlessDocument
  sealed := some (miraKey, signatureText
    0x541af3e80f9e1d706cb106b5c7d0fdabd30eb4803415e1b9e2e67a03e14aa93d
    0xe57e7cba7b28aeb73f91575231d6d23a3c9761979c07e376a0c6df01df9adc0a)
  digest := hex 64 0xae6c6b01943cc8d875fd2a52cd8d4b72661ab1a5ade03b18fef1bf81d062fadb

def endlessGrant : Recorded where
  form := grant anaIdentity 2 (some policyChange.digest) endlessMandate.document
  sealed := some (anaKey, signatureText
    0xeb1a7c957f6a6abec2b06235a86add709a0709368ba654a4d6193b3624ae73b2
    0x03601bb6e0c24a47a0772907d0ba06eb2032eb969d9189c6520c53a8430ea80c)
  digest := hex 64 0x46ae980e8666f6905b6ff4661ad01ecfc7ef9193e5cf3f28ee5f104b20512175

def endlessExt : External :=
  external (records ++ [endlessMandate, endlessGrant])

@[irreducible] def endlessWorld : World :=
  (kernel endlessExt config).run .initial (founding ++ enter (submission endlessGrant.document []) nine)

theorem endless_reachable : (kernel endlessExt config).Reachable endlessWorld := by
  unfold endlessWorld
  exact ⟨.initial, _, rfl, rfl⟩

structure EndlessSeen : Prop where
  stored : endlessWorld.store.mandate endlessMandate.digest = some endlessMandate.document ∧
    endlessWorld.store.mandate opsMandate.digest = some opsMandate.document
  endless : endlessMandate.document.getStr "not-after" = some "z" ∧ isOk (Clock.parseTimestamp "z") = false
  ops : ∀ name ∈ ["issued-at", "not-before", "not-after"],
    (opsMandate.document.getStr name).any (fun text => isOk (Clock.parseTimestamp text)) = true

theorem endless_seen : EndlessSeen := by
  constructor <;> decide +kernel

/-- The agent's own mandate ends in the evening. -/
theorem ops_mandate_expires :
    Store.Expires endlessExt endlessWorld.store opsMandate.digest opsMandate.document := by
  refine (World.grant_expires_iff endless_reachable endless_seen.stored.2).mpr ?_
  intro name listed text named
  have parsed := endless_seen.ops name listed
  rw [named] at parsed
  exact parsed

/-- A mandate until `z` is granted, and it is no instant. -/
theorem endless_mandate_stored : ¬∀ (ext : External) config world, (kernel ext config).Reachable world →
    ∀ id mandate, world.store.mandate id = some mandate → Store.Expires ext world.store id mandate := by
  intro expire
  have expires := expire _ _ _ endless_reachable _ _ endless_seen.stored.1
  obtain ⟨_, _, notAfter, _, _, named, _, _, _, _, _, parsed, _⟩ := expires.instants
  rw [← Option.some.inj (endless_seen.endless.1.symm.trans named)] at parsed
  have refused := endless_seen.endless.2
  rw [parsed] at refused
  cases refused

end Stozher.Deployment
