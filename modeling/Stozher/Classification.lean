import Stozher.Admission
import Stozher.Library.Best

namespace Stozher

open Library Ingest

namespace Policy

variable {ext : External} {document : Value} {policyKey : KeyId} {policy : Policy}

/-- What an accepted policy document is known to be. -/
structure Checked (document : Value) : Prop where
  classification : validateClassification document = .ok ()
  gateRules : validateGateRules document = .ok ()

/-- The checks that an accepted policy document has passed. -/
structure Parsed (ext : External) (document : Value) (policy : Policy) : Prop where
  kept : policy.document = document
  header : ∃ map, document.asObject = some map ∧ validateHeader map = .ok policy.version
  classification : validateClassification document = .ok ()
  gateRules : validateGateRules document = .ok ()
  retention : validateRetention document = .ok ()
  delegation : validateDelegation document = .ok ()
  offline : validateOffline ext document = .ok ()

theorem parse_parsed (parsed : parse ext document policyKey = .ok policy) : Parsed ext document policy := by
  unfold parse at parsed
  simp only [bind_eq_ok, okOr_eq_ok, pure_eq_ok] at parsed
  obtain ⟨map, object, _, _, _, _, _, _, _, _, _, _, _, _, version, header, hash, _, _, classification, _, rules,
    _, retention, _, delegation, _, offline, rfl⟩ := parsed
  exact ⟨rfl, ⟨map, object, header⟩, classification, rules, retention, delegation, offline⟩

theorem parse_eq_ok (parsed : parse ext document policyKey = .ok policy) :
    policy.document = document ∧ Checked document := by
  have passed := parse_parsed parsed
  exact ⟨passed.kept, passed.classification, passed.gateRules⟩

theorem checked_of_inForce {config : Config} {store : Store}
    (inForce : policyInForce ext config store = .ok (some policy)) : Checked policy.document := by
  unfold policyInForce at inForce
  split at inForce
  · cases inForce
  · simp only [bind_eq_ok, pure_eq_ok] at inForce
    obtain ⟨parsed, isParsed, same⟩ := inForce
    cases same
    obtain ⟨isDocument, checked⟩ := parse_eq_ok isParsed
    exact isDocument ▸ checked

theorem requireClass_eq_ok {class_ : String} {u : Unit} :
    requireClass class_ = .ok u ↔ class_ ∈ Envelope.classes :=
  require_eq_ok

theorem known_of_getD {found : Option String} (known : found.getD "" ∈ Envelope.classes) :
    ∃ class_ ∈ Envelope.classes, found = some class_ := by
  cases found with
  | none => exact absurd known (by decide)
  | some class_ => exact ⟨class_, known, rfl⟩

/-- Every class the classification of a policy names is a known one. -/
structure ClassesKnown (document : Value) : Prop where
  byDefault : ∃ class_ ∈ Envelope.classes,
    (document.index "classification").getStr "default-unknown" = some class_
  byAction : ∀ action value, ((document.index "classification").index "by-action").get action =
    some value → ∃ class_ ∈ Envelope.classes, value.asStr = some class_
  reclassified : ∀ entry ∈ ((document.index "classification").index "reclassify").asArray.getD [],
    ∃ class_ ∈ Envelope.classes, entry.getStr "class" = some class_

theorem get_of_asObject {value : Value} {map : Members} (object : value.asObject = some map)
    (name : String) : value.get name = map.get name := by
  unfold Value.get
  rw [object, Option.bind_some]

theorem Checked.classesKnown (checked : Checked document) : ClassesKnown document := by
  have valid := checked.classification
  unfold validateClassification at valid
  simp only [bind_eq_ok, okOr_eq_ok, forEach_eq_ok, requireClass_eq_ok] at valid
  obtain ⟨map, object, _, _, default_, isDefault, _, known, byAction, isByAction, _, actions, entries,
    isEntries, reclassify⟩ := valid
  have lookup := get_of_asObject object
  refine ⟨⟨default_, known, ?_⟩, ?_, ?_⟩
  · unfold Value.getStr
    rw [lookup]
    exact isDefault
  · intro action member inside
    obtain ⟨value, found, isObject⟩ := Option.bind_eq_some_iff.mp isByAction
    have same : (document.index "classification").index "by-action" = value := by
      unfold Value.index at lookup ⊢
      rw [lookup, found, Option.getD_some]
    rw [same, get_of_asObject isObject] at inside
    exact known_of_getD (actions (action, member) (Envelope.mem_of_get inside))
  · intro entry inside
    obtain ⟨value, found, isArray⟩ := Option.bind_eq_some_iff.mp isEntries
    have same : (document.index "classification").index "reclassify" = value := by
      unfold Value.index at lookup ⊢
      rw [lookup, found, Option.getD_some]
    rw [same, isArray, Option.getD_some] at inside
    have valid := reclassify entry inside
    unfold validateReclassifyEntry at valid
    simp only [bind_eq_ok, okOr_eq_ok, requireClass_eq_ok] at valid
    obtain ⟨entryMap, isObject, _, _, _, _, listed⟩ := valid
    unfold Value.getStr
    rw [get_of_asObject isObject]
    exact known_of_getD listed

theorem betterMatch_eq (input : ClassifyInput) :
    betterMatch input = Best.better (reclassifyMatch · input) := by
  funext best entry
  unfold betterMatch Best.better
  dsimp only
  cases reclassifyMatch entry input with
  | none => rfl
  | some found => cases best <;> rfl

theorem reclassifyMatch_class {entry : Value} {input : ClassifyInput} {found : Nat × String}
    (isMatch : reclassifyMatch entry input = some found) : entry.getStr "class" = some found.2 := by
  unfold reclassifyMatch at isMatch
  simp only [Option.bind_eq_bind, Option.bind_eq_some_iff] at isMatch
  obtain ⟨_, _, _, _, _, _, name, named, same⟩ := isMatch
  cases same
  exact named

/-- The class of the best match is the class of an entry. -/
theorem foldl_betterMatch {input : ClassifyInput} {entries : List Value} {found : Nat × String}
    (best : entries.foldl (betterMatch input) none = some found) :
    ∃ entry ∈ entries, entry.getStr "class" = some found.2 := by
  rw [betterMatch_eq] at best
  obtain ⟨entry, chosen⟩ := Best.foldl_better_some best
  obtain ⟨before, after, split, _, _⟩ := chosen.first
  exact ⟨entry, by simp [split], reclassifyMatch_class chosen.scores⟩

/-- A policy gives every action a known class, where a manifest proposes only known ones. -/
theorem classify_known (checked : Checked policy.document) {input : ClassifyInput}
    (proposed : ∀ class_, input.manifestClass = some class_ → class_ ∈ Envelope.classes) :
    policy.classify input ∈ Envelope.classes := by
  have known := checked.classesKnown
  unfold classify
  dsimp only
  split
  · rename_i score class_ found
    obtain ⟨entry, member, named⟩ := foldl_betterMatch found
    obtain ⟨other, listed, isOther⟩ := known.reclassified entry member
    rw [named, Option.some.injEq] at isOther
    subst isOther
    exact listed
  · split
    · rename_i class_ named
      obtain ⟨value, inside, isClass⟩ := Option.bind_eq_some_iff.mp named
      obtain ⟨other, listed, isOther⟩ := known.byAction _ value inside
      rw [isClass, Option.some.injEq] at isOther
      exact isOther ▸ listed
    · split
      · rename_i class_ named
        exact proposed class_ named
      · obtain ⟨class_, listed, named⟩ := known.byDefault
        rw [named, Option.getD_some]
        exact listed

theorem classWeight_read {class_ : String} (known : class_ ∈ Envelope.classes)
    (light : classWeight class_ ≤ classWeight "read") : class_ = "read" := by
  have zero : classWeight "read" = 0 := rfl
  rw [zero] at light
  simp only [Envelope.classes, List.mem_cons, List.not_mem_nil, or_false] at known
  rcases known with rfl | rfl | rfl | rfl
  · rfl
  · exact absurd light (by decide)
  · exact absurd light (by decide)
  · exact absurd light (by decide)

end Policy

namespace Manifest

variable {ext : External} {document : Value} {manifest : Manifest}

/-- A manifest proposes only known classes. -/
theorem parse_proposedClass (parsed : parse ext document = .ok manifest) {action class_ : String}
    (proposed : manifest.proposedClass action = some class_) : class_ ∈ Envelope.classes := by
  unfold parse at parsed
  simp only [bind_eq_ok, pure_eq_ok] at parsed
  obtain ⟨⟨name, version, key⟩, valid, hash, _, rfl⟩ := parsed
  unfold validateDocument at valid
  simp only [bind_eq_ok, okOr_eq_ok, forEach_eq_ok] at valid
  obtain ⟨map, object, _, _, _, _, _, _, _, _, _, _, _, _, _, _, _, _, _, _, schemas, _, _, _, actions,
    isActions, _, _, _, each, _⟩ := valid
  obtain ⟨value, found, isArray⟩ := Option.bind_eq_some_iff.mp isActions
  unfold proposedClass Manifest.action at proposed
  dsimp only at proposed
  have same : document.index "actions" = value := by
    unfold Value.index
    rw [Policy.get_of_asObject object, found, Option.getD_some]
  rw [same, isArray] at proposed
  obtain ⟨entry, isEntry, named⟩ := Option.bind_eq_some_iff.mp proposed
  have listed := each entry (List.mem_of_find?_eq_some isEntry)
  unfold validateAction at listed
  simp only [bind_eq_ok, okOr_eq_ok, require_eq_ok] at listed
  obtain ⟨entryMap, isObject, _, _, _, _, _, _, _, known, _⟩ := listed
  rw [Value.getStr_of_asObject isObject] at named
  unfold strAt at known
  rwa [named, Option.getD_some] at known

end Manifest

namespace Ingest

variable {ext : External} {store : Store} {env : Value} {policy : Policy}

theorem latestManifest_proposed {component : String} {manifest : Option Manifest}
    (latest : latestManifest ext store component = .ok manifest) {action class_ : String}
    (proposed : manifest.bind (·.proposedClass action) = some class_) : class_ ∈ Envelope.classes := by
  unfold latestManifest at latest
  split at latest
  · cases latest
    cases proposed
  · simp only [bind_eq_ok, pure_eq_ok] at latest
    obtain ⟨parsed, isParsed, rfl⟩ := latest
    exact Manifest.parse_proposedClass isParsed proposed

/-- The heavier of known classes is a known class no lighter than any of them. -/
theorem foldl_heavierClass {classOf : String × String → String} {requests : List (String × String)}
    (known : ∀ request ∈ requests, classOf request ∈ Envelope.classes) {start : String}
    (starts : start ∈ Envelope.classes) :
    requests.foldl (heavierClass classOf) start ∈ Envelope.classes ∧
      Policy.classWeight start ≤ Policy.classWeight (requests.foldl (heavierClass classOf) start) ∧
      ∀ request ∈ requests, Policy.classWeight (classOf request) ≤
        Policy.classWeight (requests.foldl (heavierClass classOf) start) := by
  induction requests generalizing start with
  | nil => exact ⟨starts, le_refl _, by simp⟩
  | cons first rest ih =>
      have step : heavierClass classOf start first ∈ Envelope.classes ∧
          Policy.classWeight start ≤ Policy.classWeight (heavierClass classOf start first) ∧
          Policy.classWeight (classOf first) ≤ Policy.classWeight (heavierClass classOf start first) := by
        have nonempty : start.isEmpty = false := by
          simp only [Envelope.classes, List.mem_cons, List.not_mem_nil, or_false] at starts
          rcases starts with rfl | rfl | rfl | rfl <;> rfl
        unfold heavierClass
        dsimp only
        by_cases lighter : Policy.classWeight start < Policy.classWeight (classOf first)
        · rw [if_pos (Or.inr lighter)]
          exact ⟨known first List.mem_cons_self, Nat.le_of_lt lighter, le_refl _⟩
        · rw [if_neg (by simp [nonempty, lighter])]
          exact ⟨starts, le_refl _, Nat.le_of_not_lt lighter⟩
      obtain ⟨listed, above, others⟩ :=
        ih (fun request member => known request (List.mem_cons_of_mem _ member)) step.1
      rw [List.foldl_cons]
      refine ⟨listed, step.2.1.trans above, ?_⟩
      intro request member
      rcases List.mem_cons.mp member with rfl | later
      · exact step.2.2.trans above
      · exact others request later

/-- The class an envelope is judged by is known, and no lighter than the class of any of its actions. -/
theorem effectiveClass_known (checked : Policy.Checked policy.document) (subject : String)
    {component : String} {manifest : Option Manifest} (latest : latestManifest ext store component = .ok manifest)
    {requests : List (String × String)} (requested : requests ≠ []) :
    effectiveClass policy subject manifest requests ∈ Envelope.classes ∧
      ∀ action resource, (action, resource) ∈ requests →
        policy.classify { subject, action, resource
                          manifestClass := manifest.bind (·.proposedClass action) } ∈ Envelope.classes ∧
        Policy.classWeight (policy.classify {
            subject, action, resource, manifestClass := manifest.bind (·.proposedClass action) }) ≤
          Policy.classWeight (effectiveClass policy subject manifest requests) := by
  have known : ∀ action resource, policy.classify {
      subject, action, resource, manifestClass := manifest.bind (·.proposedClass action) } ∈
        Envelope.classes := by
    intro action resource
    apply Policy.classify_known checked
    intro class_ proposed
    exact latestManifest_proposed latest proposed
  cases requests with
  | nil => exact absurd rfl requested
  | cons first rest =>
      obtain ⟨action, resource⟩ := first
      have begins : effectiveClass policy subject manifest ((action, resource) :: rest) =
          rest.foldl (heavierClass fun request => policy.classify {
            subject, action := request.1, resource := request.2
            manifestClass := manifest.bind (·.proposedClass request.1) })
            (policy.classify {
              subject, action, resource, manifestClass := manifest.bind (·.proposedClass action) }) := by
        unfold effectiveClass
        rw [List.foldl_cons]
        rfl
      have folded := foldl_heavierClass
        (fun request (_ : request ∈ rest) => known request.1 request.2) (known action resource)
      rw [begins]
      refine ⟨folded.1, ?_⟩
      intro other target member
      refine ⟨known other target, ?_⟩
      rcases List.mem_cons.mp member with same | later
      · cases same
        exact folded.2.1
      · exact folded.2.2 (other, target) later

end Ingest

end Stozher
