import Stozher.Classification
import Stozher.Gateway.Envelopes
import Stozher.Deployment

namespace Stozher

open Library Library.Best Library.Text

namespace Policy

/-- Whether a pattern is text, or not there. -/
def textPattern (pattern : Option Value) : Bool :=
  pattern.all fun value => value.isNull || value.isString

/-- Whether the patterns of a reclassify entry are all text. -/
def textual (entry : Value) : Bool :=
  ["subject", "action", "resource"].all fun member => textPattern (entry.get member)

def entriesOf (document : Value) : List Value :=
  ((document.index "classification").index "reclassify").asArray.getD []

def actionClass (document : Value) (action : String) : Option String :=
  ((document.index "classification").index "by-action").getStr action

/-- The policy's own word on an action, by those of its reclassify entries that are heeded. -/
def wordOf (document : Value) (heeded : Value → Bool) (input : ClassifyInput) : Option String :=
  match ((entriesOf document).filter heeded).foldl (better (reclassifyMatch · input)) none with
  | some (_, class_) => some class_
  | none => actionClass document input.action

/-- The kernel heeds every entry, and falls back on the manifest's class and on the default. -/
theorem classify_eq (policy : Policy) (input : ClassifyInput) :
    policy.classify input = (wordOf policy.document (fun _ => true) input).getD (input.manifestClass.getD
      (((policy.document.index "classification").getStr "default-unknown").getD "consequential")) := by
  unfold classify wordOf entriesOf actionClass
  rw [List.filter_true, betterMatch_eq]
  dsimp only
  generalize List.foldl _ none _ = best
  cases best with
  | some found => rfl
  | none =>
      dsimp only
      generalize Value.getStr _ input.action = named
      cases named with
      | some class_ => rfl
      | none => cases input.manifestClass <;> rfl

end Policy

namespace Gateway

theorem dimensionScore_eq (pattern : Option Value) (value : String) :
    dimensionScore pattern value = if Policy.textPattern pattern = true then
      Policy.dimensionScore (pattern.bind Value.asStr) value Policy.dimensionWeight else none := by
  cases pattern with
  | none => rfl
  | some pattern =>
      cases pattern with
      | string p =>
          have text : Policy.textPattern (some (.string p)) = true := rfl
          rw [if_pos text]
          unfold dimensionScore Policy.dimensionScore
          dsimp only [Value.asStr, Option.bind_some, Policy.dimensionWeight]
          cases stripSuffix p ".*" with
          | none => rfl
          | some stem =>
              dsimp only
              simp only [dotted_iff]
      | null => rfl
      | bool b => rfl
      | number n => rfl
      | array items => rfl
      | object members => rfl

/-- The gateway heeds an entry with patterns that are all text, and scores it as the kernel does. -/
theorem entryScore_eq {entry : Value} {class_ : String} (named : entry.getStr "class" = some class_)
    (input : ClassifyInput) :
    (entryScore entry input.subject input.action input.resource).map (·, class_) =
      if Policy.textual entry = true then Policy.reclassifyMatch entry input else none := by
  unfold entryScore Policy.reclassifyMatch
  rw [dimensionScore_eq, dimensionScore_eq, dimensionScore_eq, named]
  have three : Policy.textual entry = (Policy.textPattern (entry.get "subject") &&
      Policy.textPattern (entry.get "action") && Policy.textPattern (entry.get "resource")) := by
    simp [Policy.textual, Bool.and_assoc]
  rw [three]
  unfold Value.getStr
  generalize Policy.dimensionScore _ input.subject _ = subject
  generalize Policy.dimensionScore _ input.action _ = action
  generalize Policy.dimensionScore _ input.resource _ = resource
  cases Policy.textPattern (entry.get "subject") with
  | false => rfl
  | true =>
      cases Policy.textPattern (entry.get "action") with
      | false => cases subject <;> rfl
      | true =>
          cases Policy.textPattern (entry.get "resource") with
          | false => cases subject <;> cases action <;> rfl
          | true => cases subject <;> cases action <;> cases resource <;> rfl

theorem bestEntry_eq {entry : Value} {class_ : String} (named : entry.getStr "class" = some class_)
    (input : ClassifyInput) (best : Option (Nat × String)) :
    bestEntry input.subject input.action input.resource best entry =
      better (fun entry => if Policy.textual entry = true then Policy.reclassifyMatch entry input else none)
        best entry := by
  have text : str (entry.index "class") = class_ := by
    unfold str
    rw [Value.index_asStr, named, Option.getD_some]
  unfold better
  dsimp only
  rw [← entryScore_eq named]
  unfold bestEntry
  rw [text]
  cases entryScore entry input.subject input.action input.resource with
  | none => rfl
  | some total => cases best <;> rfl

/-- The gateway heeds the entries that are all text, and falls back on its own tiers. -/
theorem classify_eq {document : Value} (checked : Policy.Checked document) (input : ClassifyInput)
    (manifestClass catalogClass : Option String) :
    Policy.classify { document } input.subject input.action input.resource manifestClass catalogClass =
      (Policy.wordOf document Policy.textual input).getD
        (Policy.unnamed { document } manifestClass catalogClass) := by
  have known := checked.classesKnown
  have folds : (Policy.reclassify { document }).foldl
      (bestEntry input.subject input.action input.resource) none =
        ((Policy.entriesOf document).filter Policy.textual).foldl
          (better (Policy.reclassifyMatch · input)) none := by
    rw [foldl_better_filter]
    refine List.foldl_ext _ _ _ fun best entry member => ?_
    obtain ⟨class_, _, named⟩ := known.reclassified entry member
    exact bestEntry_eq named input best
  unfold Policy.classify Policy.wordOf
  rw [folds]
  generalize List.foldl _ none _ = best
  cases best with
  | some found => rfl
  | none =>
      dsimp only
      unfold Policy.actionClass Value.getStr
      cases named : Policy.byAction { document } input.action with
      | some value =>
          obtain ⟨class_, _, isClass⟩ := known.byAction input.action value named
          have found : ((document.index "classification").index "by-action").get input.action =
            some value := named
          rw [found, Option.bind_some, isClass]
          have text : str value = class_ := by
            unfold str
            rw [isClass, Option.getD_some]
          exact text
      | none =>
          have absent : ((document.index "classification").index "by-action").get input.action = none :=
            named
          rw [absent]
          rfl

/-- The kernel's class for an action is no heavier than the gateway's: the entry the kernel decides by
is all text, or no heavier than what the gateway, which does not heed it, comes to; or no entry
matches, and policy names the action or the kernel's tiers propose nothing heavier. -/
def ClassCovered (document : Value) (input : ClassifyInput) (kernels gateways : String) : Prop :=
  (∃ entry found, Chosen (Policy.reclassifyMatch · input) (Policy.entriesOf document) entry found ∧
    (Policy.textual entry = true ∨ Policy.classWeight found.2 ≤
      Policy.classWeight ((Policy.wordOf document Policy.textual input).getD gateways))) ∨
  (∀ entry ∈ Policy.entriesOf document, Policy.reclassifyMatch entry input = none) ∧
    (Policy.actionClass document input.action ≠ none ∨
      Policy.classWeight kernels ≤ Policy.classWeight gateways)

theorem wordOf_unmatched {document : Value} {input : ClassifyInput}
    (unmatched : ∀ entry ∈ Policy.entriesOf document, Policy.reclassifyMatch entry input = none)
    (heeded : Value → Bool) :
    Policy.wordOf document heeded input = Policy.actionClass document input.action := by
  unfold Policy.wordOf
  rw [foldl_better_none.mpr]
  intro entry member
  exact unmatched entry (List.mem_filter.mp member).1

theorem wordOf_chosen {document : Value} {input : ClassifyInput} {entry : Value} {found : Nat × String}
    (chosen : Chosen (Policy.reclassifyMatch · input) (Policy.entriesOf document) entry found) :
    Policy.wordOf document (fun _ => true) input = some found.2 ∧
      (Policy.textual entry = true → Policy.wordOf document Policy.textual input = some found.2) := by
  constructor
  · unfold Policy.wordOf
    rw [List.filter_true, chosen.foldl_better]
  · intro text
    have heeded : Chosen (fun entry => if Policy.textual entry = true then
        Policy.reclassifyMatch entry input else none) (Policy.entriesOf document) entry found := by
      refine chosen.of_fewer (if_pos text) ?_
      intro other score scored
      by_cases isText : Policy.textual other = true
      · rwa [if_pos isText] at scored
      · rw [if_neg isText] at scored
        cases scored
    unfold Policy.wordOf
    rw [foldl_better_filter, heeded.foldl_better]

theorem words_covered {document : Value} {input : ClassifyInput} {kernels gateways : String} :
    Policy.classWeight ((Policy.wordOf document (fun _ => true) input).getD kernels) ≤
        Policy.classWeight ((Policy.wordOf document Policy.textual input).getD gateways) ↔
      ClassCovered document input kernels gateways := by
  constructor
  · intro lighter
    cases best : (Policy.entriesOf document).foldl (better (Policy.reclassifyMatch · input)) none with
    | some found =>
        obtain ⟨entry, chosen⟩ := foldl_better_some best
        rw [(wordOf_chosen chosen).1] at lighter
        exact Or.inl ⟨entry, found, chosen, Or.inr lighter⟩
    | none =>
        have unmatched := foldl_better_none.mp best
        refine Or.inr ⟨unmatched, ?_⟩
        by_cases named : Policy.actionClass document input.action = none
        · right
          rwa [wordOf_unmatched unmatched, wordOf_unmatched unmatched, named] at lighter
        · exact Or.inl named
  · intro covered
    rcases covered with ⟨entry, found, chosen, reason⟩ | ⟨unmatched, reason⟩
    · rw [(wordOf_chosen chosen).1]
      rcases reason with text | lighter
      · rw [(wordOf_chosen chosen).2 text]
        exact le_refl _
      · exact lighter
    · rw [wordOf_unmatched unmatched, wordOf_unmatched unmatched]
      cases named : Policy.actionClass document input.action with
      | some class_ => exact le_refl _
      | none =>
          rcases reason with present | lighter
          · exact absurd named present
          · exact lighter

/-- What the gateway proposes of a call that policy does not name: the class declared by the manifest
registered under the upstream server's name, or the heavier of the default and its catalog's class. -/
def proposal (document : Value) (manifest : Option Value) (classifier : Classifier) (call : Call) :
    String :=
  let action := classifier.action call.server call.tool
  match manifest.bind fun manifest => Classifier.declaredClass manifest action call.tool with
  | some class_ => Policy.unnamed { document } (some class_) none
  | none => Policy.unnamed { document } none (some (classifier.classify call).classification)

theorem classify_proposal {document : Value} (checked : Policy.Checked document) {classifier : Classifier}
    (manifestClass : Option String) (subject : String) (call : Call) :
    (classify { document } classifier subject call).classification =
      (Policy.wordOf document Policy.textual {
        subject, action := (classifier.classify call).action, resource := target call, manifestClass }).getD
        (proposal document (classifier.manifests.lookup call.server) classifier call) := by
  have eq := classify_eq checked {
    subject, action := (classifier.classify call).action, resource := target call, manifestClass }
  unfold classify proposal
  dsimp only
  rw [eq]
  congr 1
  unfold Classifier.classify
  dsimp only
  cases declared : classifier.manifestClass call.server call.tool with
  | some class_ =>
      have same : (classifier.manifests.lookup call.server).bind (fun manifest =>
          Classifier.declaredClass manifest (classifier.action call.server call.tool) call.tool) =
            some class_ := declared
      rw [same]
      rfl
  | none =>
      have same : (classifier.manifests.lookup call.server).bind (fun manifest =>
          Classifier.declaredClass manifest (classifier.action call.server call.tool) call.tool) =
            none := declared
      rw [same]
      cases classifier.shippedClass call.server call.tool with
      | some class_ => rfl
      | none => cases classifier.orgSeeded call.server call.tool <;> rfl

end Gateway

open Ingest

variable {ext : External} {config : Gateway.GatewayConfig} {store : Store} {policy : Policy}

theorem effectiveClass_singleton {subject action resource : String} {manifest : Option Manifest} :
    effectiveClass policy subject manifest [(action, resource)] = policy.classify {
      subject, action, resource, manifestClass := manifest.bind (·.proposedClass action) } := by
  unfold effectiveClass heavierClass
  rw [List.foldl_cons, List.foldl_nil]
  exact if_pos (Or.inl rfl)

end Stozher

namespace Stozher.Deployment

open Library Ingest Gateway

/-- The kernel with the manifest of the upstream server registered, and none for the gateway itself. -/
def manifested : Store :=
  { Store.empty with manifests := [{
      name := "github", version := "1.0.0", manifestHash := githubManifest.digest, componentKey := githubKey
      documentJson := { tree := githubManifest.document }, envelopeId := "", registeredAt := nine }] }

/-- The request to fetch, as the gateway works on it. -/
def fetchWork : Work where
  session := opsSession
  call := toolCall "fetch"
  target := Gateway.target (toolCall "fetch")
  argsHash := noArguments.digest
  policy := inForce
  classification :=
    Gateway.classify inForce (tiers [("github", githubManifest.document)]) "agent:ops" (toolCall "fetch")

theorem manifested_same (name : String) :
    (tiers [("github", githubManifest.document)]).manifests.lookup name = manifested.latestManifest name := by
  unfold tiers manifested Store.latestManifest
  by_cases same : name = "github"
  · subst same
    rfl
  · have other : ("github" == name) = false := beq_eq_false_iff_ne.mpr fun is => same is.symm
    have lookup : (name == "github") = false := beq_eq_false_iff_ne.mpr same
    simp [List.lookup_cons, lookup, other]

/-- What the gateway and the kernel read off a fetch. -/
structure FetchSeen : Prop where
  written : isOk (effectBody ext gatewayConfig fetchWork "applied" none (some nine) nine) = true
  parsed : isOk (Policy.parse ext Deployment.policy.document orgId) = true
  manifest : isOk (Manifest.parse ext githubManifest.document) = true
  action : ((tiers [("github", githubManifest.document)]).classify (toolCall "fetch")).action = "github.fetch"
  unknown : ((Deployment.policy.document.index "classification").getStr "default-unknown").getD
    "consequential" = "consequential"
  proposed : proposal Deployment.policy.document (manifested.latestManifest (toolCall "fetch").server)
    (tiers [("github", githubManifest.document)]) (toolCall "fetch") = "read"
  classified : ((Policy.parse ext Deployment.policy.document orgId).toOption.bind fun policy =>
    (effectBody ext gatewayConfig fetchWork "applied" none (some nine) nine).toOption.map fun written =>
      ((Value.object written.1).getStr "classification", (effectRequests (.object written.1)).toOption,
        refusal (classifyEnvelope ext manifested (.object written.1) policy [("github.fetch", "mcp:github")]))) =
    some (some "read", some [("github.fetch", "mcp:github")], some "policy-component-override-attempt")

theorem fetch_seen : FetchSeen := by
  constructor <;> decide +kernel

theorem fetch_written :
    ∃ body payloads, effectBody ext gatewayConfig fetchWork "applied" none (some nine) nine =
      .ok (body, payloads) := by
  obtain ⟨⟨body, payloads⟩, done⟩ := isOk_iff.mp fetch_seen.written
  exact ⟨body, payloads, done⟩

theorem policy_parsed : ∃ parsed, Policy.parse ext Deployment.policy.document orgId = .ok parsed :=
  isOk_iff.mp fetch_seen.parsed

end Stozher.Deployment
