import Stozher.Policy

namespace Stozher.Gateway

open Library Library.Text

/-- A verified policy document as the gateway holds it. -/
structure Policy where
  document : Value

/-- The gate rule that matched: what it decides, and the approver subjects it names. -/
structure Decision where
  kind : String
  approvers : List String
  deriving DecidableEq

/-- `str(value)` of a string. An accepted policy holds strings wherever this is asked. -/
def str (value : Value) : String :=
  value.asStr.getD ""

def classWeight (classification : String) : Nat :=
  match classification with
  | "read" => 0
  | "benign" => 1
  | "consequential" => 2
  | "prohibited" => 3
  | _ => 4

/-- How specifically a pattern matches a value, where it does. -/
def dimensionScore (pattern : Option Value) (value : String) : Option Nat :=
  match pattern with
  | none => some 0
  | some .null => some 0
  | some (.string p) =>
      if p = "*" then some 0
      else if p = value then some 2
      else
        match stripSuffix p ".*" with
        | some stem =>
            if startsWith value stem = true ∧ stem.toList.length < value.toList.length ∧
                value.toList[stem.toList.length]? = some '.' then some 1
            else none
        | none => none
  | some _ => none

/-- What the three dimensions of a reclassify entry score together, where all match. -/
def entryScore (entry : Value) (subject action resource : String) : Option Nat := do
  let subject ← dimensionScore (entry.get "subject") subject
  let action ← dimensionScore (entry.get "action") action
  let resource ← dimensionScore (entry.get "resource") resource
  return subject + action + resource

/-- Keeps the first of the most specific entries. -/
def bestEntry (subject action resource : String) (best : Option (Nat × String)) (entry : Value) :
    Option (Nat × String) :=
  match entryScore entry subject action resource, best with
  | none, best => best
  | some total, none => some (total, str (entry.index "class"))
  | some total, some (current, class_) =>
      if current < total then some (total, str (entry.index "class")) else some (current, class_)

namespace Policy

variable (policy : Policy)

def version : String :=
  str (policy.document.index "policy-version")

def classification : Value :=
  policy.document.index "classification"

def reclassify : List Value :=
  (policy.classification.index "reclassify").asArray.getD []

def byAction (action : String) : Option Value :=
  (policy.classification.index "by-action").get action

/-- The class left where policy has nothing to say of an action: a manifest's proposal, or the heavier
of the default and a catalog's. -/
def unnamed (manifestClass catalogClass : Option String) : String :=
  match manifestClass.filter (· ∈ Envelope.classes) with
  | some class_ => class_
  | none =>
      let unknown := (policy.classification.getStr "default-unknown").getD "consequential"
      match catalogClass.filter (· ∈ Envelope.classes) with
      | some class_ => if classWeight unknown < classWeight class_ then class_ else unknown
      | none => unknown

def classify (subject action resource : String) (manifestClass catalogClass : Option String) : String :=
  match policy.reclassify.foldl (bestEntry subject action resource) none with
  | some (_, class_) => class_
  | none =>
      match policy.byAction action with
      | some class_ => str class_
      | none => policy.unnamed manifestClass catalogClass

/-- Whether policy speaks of the action by name. -/
def names (subject action resource : String) : Bool :=
  (policy.byAction action).isSome ||
    policy.reclassify.any fun entry =>
      (dimensionScore (entry.get "subject") subject).isSome
        && (dimensionScore (entry.get "action") action).isSome
        && (dimensionScore (entry.get "resource") resource).isSome

/-- Whether a gate rule lists the class and is not narrowed to other actions. -/
def ruleApplies (classification action : String) (rule : Value) : Bool :=
  ((rule.index "classes").asArray.getD []).any (fun class_ => class_.asStr == some classification) &&
    match rule.get "actions" with
    | none => true
    | some .null => true
    | some patterns => (patterns.asArray.getD []).any fun pattern =>
        (dimensionScore (some pattern) action).isSome || action == "*"

def decisionFor (classification : String) (action : String := "*") : Decision :=
  match ((policy.document.index "gate-rules").asArray.getD []).find? (ruleApplies classification action) with
  | some rule => {
      kind := ((rule.get "decision").map str).getD "deny"
      approvers := ((rule.index "approvers").asArray.getD []).filterMap Value.asStr }
  | none => { kind := "deny", approvers := [] }

def evidenceTtl (classification : String) : String :=
  (((policy.document.index "evidence-ttl").get classification).map str).getD "P0D"

end Policy

end Stozher.Gateway
