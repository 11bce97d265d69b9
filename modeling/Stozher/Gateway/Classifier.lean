import Stozher.Gateway.Policy

namespace Stozher.Gateway

open Library Library.Text

/-- What decided a class, from the most to the least confident. -/
inductive Tier where
  | manifest
  | shipped
  | orgSeeded
  | heuristic
  deriving DecidableEq

/-- The class of a call, the tier that proposed it, and whether policy speaks of the action. -/
structure Classification where
  action : String
  classification : String
  tier : Tier
  proposed : String := ""
  policyNamed : Bool := false
  deriving DecidableEq

def Classification.known (classified : Classification) : Bool :=
  classified.tier != .heuristic

/-- What a caller asks for. -/
structure Call where
  server : String
  tool : String
  arguments : Value
  schema : Value

/-- A server of the shipped catalog: its action scope, and the classes of its tools. -/
structure ShippedServer where
  scope : String
  tools : List (String × String)

/-- The tiers a call is classified by: configured scopes, registered manifests by component name, the
shipped catalog and the entries the organization seeded. -/
structure Classifier where
  scopes : List (String × String)
  manifests : List (String × Value)
  shipped : List (String × ShippedServer)
  orgSeeded : String → String → Option (String × String)
  /-- `str.lower`. -/
  lower : String → String

def readVerbs : List String :=
  ["get", "list", "read", "search", "find", "query", "describe", "fetch", "show", "count"]

def mutatingArguments : List String := [
  "body", "cmd", "code", "command", "content", "contents", "data", "diff", "document", "html",
  "markdown", "message", "patch", "payload", "script", "source", "sql", "statement", "text",
  "update", "updates", "write"]

/-- Whether a name starts with a reading verb as a whole segment. -/
def readVerb (tool : String) : Bool :=
  readVerbs.any fun verb =>
    match stripPrefix tool verb with
    | some rest => rest == "" || rest == "\n" || startsWith rest "_"
    | none => false

/-- A reading name, and a schema that declares no mutation. -/
def readShaped (lower : String → String) (tool : String) (schema : Value) : Bool :=
  readVerb tool &&
    match (schema.get "properties").bind Value.asObject with
    | none => false
    | some properties =>
        (schema.get "additionalProperties").bind Value.asBool != some true
          && properties.keys.all fun name => !mutatingArguments.contains (lower name)

namespace Classifier

variable (classifier : Classifier)

def scope (server : String) : String :=
  match classifier.scopes.lookup server, classifier.shipped.lookup server with
  | some scope, _ => scope
  | none, some shipped => shipped.scope
  | none, none => server

def action (server tool : String) : String :=
  classifier.scope server ++ "." ++ tool

/-- The class a manifest declares for a tool, by the action or by the manifest's own name for it. -/
def declaredClass (manifest : Value) (action tool : String) : Option String :=
  (((manifest.index "actions").asArray.getD []).find? fun declared =>
      declared.getStr "action" == some action
        || declared.getStr "action" == some (str (manifest.index "name") ++ "." ++ tool)).map
    fun declared => str (declared.index "class")

def manifestClass (server tool : String) : Option String :=
  (classifier.manifests.lookup server).bind fun manifest =>
    declaredClass manifest (classifier.action server tool) tool

def shippedClass (server tool : String) : Option String :=
  (classifier.shipped.lookup server).bind fun shipped => shipped.tools.lookup tool

/-- The tiers in order; the first that has a class for the tool decides. -/
def classify (call : Call) : Classification :=
  let action := classifier.action call.server call.tool
  match classifier.manifestClass call.server call.tool with
  | some class_ => { action, classification := class_, tier := .manifest }
  | none =>
      match classifier.shippedClass call.server call.tool with
      | some class_ => { action, classification := class_, tier := .shipped }
      | none =>
          match classifier.orgSeeded call.server call.tool with
          | some (action, class_) => { action, classification := class_, tier := .orgSeeded }
          | none =>
              { action
                classification :=
                  if readShaped classifier.lower call.tool call.schema then "read" else "consequential"
                tier := .heuristic }

end Classifier

/-- The thing acted upon, as far as the gateway can name it. -/
def target (call : Call) : String :=
  "mcp:" ++ call.server

/-- `Enforcer._classify`: what policy makes of what the tiers propose. -/
def classify (policy : Policy) (classifier : Classifier) (subject : String) (call : Call) :
    Classification :=
  let proposed := classifier.classify call
  let fromManifest := if proposed.tier = .manifest then some proposed.classification else none
  let fromCatalog := if proposed.tier = .manifest then none else some proposed.classification
  { action := proposed.action
    classification := policy.classify subject proposed.action (target call) fromManifest fromCatalog
    tier := proposed.tier
    proposed := proposed.classification
    policyNamed := policy.names subject proposed.action (target call) }

end Stozher.Gateway
