import Stozher.Display
import Stozher.JcsText
import Stozher.Library.FixedWidth
import Stozher.Query
import Stozher.System

namespace Stozher.Console

open Library Library.Text

/-- Whether an octet stands for itself in a query string. -/
def unreserved (b : UInt8) : Bool :=
  isAsciiAlphanumeric b || b == 0x2d || b == 0x2e || b == 0x5f || b == 0x7e

def percentOctet (b : UInt8) : List Char :=
  if unreserved b then [Char.ofNat b.toNat] else '%' :: (hexChars 2 b.toNat).map Char.toUpper

/-- A value as a query string writes it. -/
def percentEncode (value : String) : String :=
  String.ofList ((octets value).flatMap percentOctet)

/-- The parameters of a query, no name twice. -/
abbrev Params := List (String × String)

/-- The filters of the audit page, as it was asked for. -/
structure Filters where
  subject : String
  mandateRef : String
  mandateSubtreeOf : String
  classification : String
  kind : String
  action : String
  component : String
  stream : String
  outcome : String
  humanRoot : String
  commitmentId : String
  correlationRef : String
  emittedFrom : String
  emittedTo : String
  limit : String
  violationsOnly : Bool
  after : String
  deriving DecidableEq

namespace Filters

def fromParams (params : Params) : Filters :=
  let get := fun name => (params.lookup name).getD ""
  { subject := get "subject"
    mandateRef := get "mandate-ref"
    mandateSubtreeOf := get "mandate-subtree-of"
    classification := get "classification"
    kind := get "kind"
    action := get "action"
    component := get "component"
    stream := get "stream"
    outcome := get "outcome"
    humanRoot := get "human-root"
    commitmentId := get "commitment-id"
    correlationRef := get "correlation-ref"
    emittedFrom := get "emitted-from"
    emittedTo := get "emitted-to"
    limit := if get "limit" = "" then "200" else get "limit"
    violationsOnly := get "violations-only" == "true"
    after := get "after" }

/-- The filters a query string names, in its order. -/
def named (filters : Filters) : List (String × String) :=
  [("subject", filters.subject), ("mandate-ref", filters.mandateRef), ("mandate-subtree-of", filters.mandateSubtreeOf),
    ("classification", filters.classification), ("kind", filters.kind), ("action", filters.action),
    ("component", filters.component), ("stream", filters.stream), ("outcome", filters.outcome),
    ("human-root", filters.humanRoot), ("commitment-id", filters.commitmentId),
    ("correlation-ref", filters.correlationRef), ("emitted-from", filters.emittedFrom),
    ("emitted-to", filters.emittedTo), ("limit", filters.limit)]

def set (value : String) : Option String :=
  if value = "" then none else some value

def queryFrom (filters : Filters) (after : Option Cursor) : EnvelopeQuery where
  subject := set filters.subject
  mandateRef := set filters.mandateRef
  mandateSubtreeOf := set filters.mandateSubtreeOf
  classification := set filters.classification
  kind := set filters.kind
  action := set filters.action
  component := set filters.component
  stream := set filters.stream
  emittedFrom := set filters.emittedFrom
  emittedTo := set filters.emittedTo
  correlationRef := set filters.correlationRef
  correlationPrefix := none
  commitmentId := set filters.commitmentId
  outcome := set filters.outcome
  humanRoot := set filters.humanRoot
  violationsOnly := filters.violationsOnly
  limit := (parseI64 filters.limit.toList).getD 200
  after

/-- The query string of the page these filters are of. -/
def toQueryString (filters : Filters) : String :=
  "&".intercalate ((filters.named.filter fun named => named.2 ≠ "").map (fun named => s!"{named.1}={percentEncode named.2}") ++
    if filters.violationsOnly then ["violations-only=true"] else [])

/-- The query string of the export: neither the position of the page nor its row cap is part of what is asked for. -/
def toExportQueryString (filters : Filters) : String :=
  String.ofList (['&'].intercalate ((filters.toQueryString.toList.splitOn '&').filter fun part =>
    !"limit=".toList.isPrefixOf part && !"after=".toList.isPrefixOf part))

end Filters

open Ingest

variable (ext : External) (formatFinite : Binary64 → String)

/-- A value as it is shown. -/
def text : Value → String
  | .null => "—"
  | .string s => if s = "" then "—" else s
  | other => other.display ext

/-- The first digits of a hash. -/
def short (hash : String) : String :=
  if hash = "" then "—" else String.ofList (hash.toList.take 12)

def shortKey (key : String) : String :=
  if ':' ∈ key.toList then
    String.ofList (key.toList.takeWhile (· ≠ ':')) ++ ":" ++
      short (String.ofList ((key.toList.dropWhile (· ≠ ':')).drop 1))
  else short key

/-- One envelope, as a row of a page. -/
structure Row where
  id : String
  short : String
  stream : String
  seq : String
  kind : String
  emittedAt : String
  subject : String
  component : String
  action : String
  target : String
  outcome : String
  classification : String
  humanRoot : String
  mandateRef : String
  policyVersion : String
  violation : String
  evidence : String
  payloadHash : String
  decidedBy : String
  decision : String
  decisionReason : String
  deriving DecidableEq

def row (record : Value) : Row :=
  let envelope := record.index "envelope"
  let execution := envelope.index "execution"
  let evidence := envelope.index "evidence"
  let authorized := (envelope.index "authorization").index "decision"
  let id := text ext (record.index "id")
  { id
    short := short id
    stream := text ext (envelope.index "stream")
    seq := text ext (envelope.index "seq")
    kind := text ext (envelope.index "kind")
    emittedAt := text ext (envelope.index "emitted-at")
    subject := text ext ((envelope.index "identity").index "subject")
    component := text ext ((envelope.index "identity").index "component")
    action := text ext (execution.index "action")
    target := text ext (execution.index "target")
    outcome := text ext (execution.index "outcome")
    classification := text ext (record.index "effective-class")
    humanRoot := text ext (record.index "human-root")
    mandateRef := (envelope.getStr "mandate-ref").getD ""
    policyVersion := text ext (envelope.index "policy-version")
    violation := (record.getStr "policy-violation").getD ""
    evidence :=
      match evidence.getStr "schema" with
      | some schema => schema ++ " · " ++ short (text ext (evidence.index "payload-hash"))
      | none => "—"
    payloadHash := (evidence.getStr "payload-hash").getD ""
    decidedBy := shortKey (text ext ((authorized.index "sig").index "key"))
    decision := (authorized.getStr "decision").getD ""
    decisionReason := (authorized.getStr "reason").getD "" }

def exportPageRows : Int := 10000

def exportFilters : List String :=
  ["subject", "mandate-ref", "mandate-subtree-of", "classification", "kind", "action", "component", "stream", "outcome",
    "human-root", "commitment-id", "correlation-ref", "emitted-from", "emitted-to", "limit", "violations-only", "after"]

def exportFormats : List String := ["ndjson", "html"]

def payloadRoute : String := "/v1/payloads/\x7bpayload-hash\x7d"

/-- How an export is answered: refused, failed, as a page to read or as the file itself. -/
inductive ExportAnswer where
  | notice (title detail : String)
  | unavailable (e : Error)
  | document (title query : String) (records : Nat) (payloadRoute : String) (rows : List Row)
  | file (body : String) (records : Nat) (payloadRoute : String)
  deriving DecidableEq

/-- An export under way. -/
structure Export where
  filters : Filters
  format : String
  resume : Option Cursor
  body : String
  rows : List Row
  exported : Nat

inductive Exporting where
  | underWay (work : Export)
  | answered (answer : ExportAnswer)

def unknownFilters (params : Params) : List String :=
  (params.map Prod.fst).filter fun name => !exportFilters.contains name && name != "format"

def formatOf (params : Params) : String :=
  (params.lookup "format").getD "ndjson"

/-- An unknown filter or format is refused, not ignored. -/
def startExport (params : Params) : Exporting :=
  let unknown := unknownFilters params
  let format := formatOf params
  if unknown ≠ [] then
    .answered (.notice "That filter does not exist, so the export was refused"
      ("No such filter: " ++ ", ".intercalate (unknown.insertionSort (· ≤ ·)) ++ ". Nothing was exported. An " ++
        "unrecognised filter would otherwise be ignored and you would receive every record — a file that looks like the answer to the " ++
        "question you asked. The filters this export accepts are: " ++ ", ".intercalate exportFilters ++ "."))
  else if format ∉ exportFormats then
    .answered (.notice "That export format does not exist, so the export was refused"
      (s!"No such format: {format}. Nothing was exported. The formats this export accepts are: " ++
        ", ".intercalate exportFormats ++ ". `ndjson` is the record — canonical envelopes exactly as signed; `html` is a " ++
        "reading of that record and says so in its own text."))
  else
    .underWay {
      filters := Filters.fromParams params, format, resume := none, body := "", rows := [], exported := 0 }

namespace Export

def finish (work : Export) : ExportAnswer :=
  if work.format = "html" then
    .document "Stozher audit export" work.filters.toExportQueryString work.exported payloadRoute work.rows
  else .file work.body work.exported payloadRoute

/-- One turn of the loop: the next page of the store as it is by then. -/
def turn (store : Store) (work : Export) : Exporting :=
  let records := store.query { work.filters.queryFrom work.resume with limit := exportPageRows }
  if records.isEmpty then .answered work.finish
  else
    match mapChecked (Jcs.Text.canonicalize ext formatFinite) records with
    | .error e => .answered (.unavailable e)
    | .ok lines =>
        let next := { work with
          resume := cursorAfter records
          body := lines.foldl (fun body line => body ++ line ++ "\n") work.body
          rows := if work.format = "html" then work.rows ++ records.map (row ext) else work.rows
          exported := work.exported + records.length }
        if records.length < exportPageRows then .answered next.finish else .underWay next

end Export

/-- An export with what it was asked for and the kernel as it was then. -/
structure ExportRun where
  params : Params
  opened : World
  stage : Exporting

/-- The kernel with every export that was asked of its console. -/
structure Regulated where
  world : World
  exports : List ExportRun

inductive ExportMove where
  | kernel (action : Action)
  | ask (params : Params)
  | turn (index : Nat)

namespace Regulated

variable (config : Config)

def turn (state : Regulated) (index : Nat) : Regulated :=
  match state.exports[index]? with
  | some run =>
      match run.stage with
      | .underWay work =>
          let stage := work.turn ext formatFinite state.world.store
          { state with exports := state.exports.set index { run with stage } }
      | .answered _ => state
  | none => state

def step (state : Regulated) (move : ExportMove) : Regulated :=
  match move with
  | .kernel action => { state with world := World.step ext config state.world action }
  | .ask params =>
      { state with exports := state.exports ++ [{ params, opened := state.world, stage := startExport params }] }
  | .turn index => state.turn ext formatFinite index

end Regulated

/-- The console's exports in every interleaving of their turns with each other and with all that the kernel does. -/
def exporting (config : Config) : System Regulated ExportMove where
  start state := state = { world := .initial, exports := [] }
  step := Regulated.step ext formatFinite config

end Stozher.Console
