import Mathlib.Data.List.Sort
import Stozher.Clock
import Stozher.Library.Split
import Stozher.Library.Worklist
import Stozher.Store

namespace Stozher

open Library Library.Text

/-- A position in the audit ordering. -/
structure Cursor where
  emittedAt : String
  stream : String
  seq : Nat
  deriving DecidableEq

def Cursor.encode (cursor : Cursor) : String :=
  s!"{cursor.emittedAt}/{cursor.seq}/{cursor.stream}"

/-- Parses the form a cursor is written in. -/
def OwnedCursor.decode (value : String) : Option Cursor := do
  let parts := splitN 3 '/' value.toList
  let emittedAt ← parts[0]?
  let seq ← parts[1]?.bind parseU64
  let stream ← parts[2]?
  if emittedAt = [] ∨ stream = [] then none
  else
    let _ ← (Clock.parseTimestamp (String.ofList emittedAt)).toOption
    return { emittedAt := String.ofList emittedAt, stream := String.ofList stream, seq }

/-- Filters over the indexed columns of the envelopes. -/
structure EnvelopeQuery where
  subject : Option String
  mandateRef : Option String
  mandateSubtreeOf : Option String
  classification : Option String
  kind : Option String
  action : Option String
  component : Option String
  stream : Option String
  emittedFrom : Option String
  emittedTo : Option String
  correlationRef : Option String
  correlationPrefix : Option String
  commitmentId : Option String
  outcome : Option String
  humanRoot : Option String
  violationsOnly : Bool
  limit : Int
  after : Option Cursor

namespace EnvelopeQuery

def pageSize (filter : EnvelopeQuery) : Nat :=
  (max 1 (min filter.limit 10000)).toNat

/-- Whether a column holds what a filter asks for. No comparison holds of a null. -/
def equals (wanted column : Option String) : Bool :=
  wanted.all fun value => column == some value

/-- Whether a column begins with a text, where the case of ASCII letters does not count. -/
def like (wanted column : Option String) : Bool :=
  wanted.all fun start => column.any fun value =>
    (start.toList.map Char.toLower).isPrefixOf (value.toList.map Char.toLower)

end EnvelopeQuery

namespace EnvelopeRow

/-- A stored envelope as a query answers with it. -/
def record (row : EnvelopeRow) : Value :=
  .object [
    ("effective-class", .ofOption row.effectiveClass),
    ("envelope", row.canonicalJson.tree),
    ("human-root", .ofOption row.humanRoot),
    ("id", .string row.id),
    ("policy-violation", .ofOption row.policyViolation),
    ("received-at", .string row.receivedAt)]

/-- The keyset predicate: what sorts strictly after a cursor. -/
def follows (row : EnvelopeRow) (after : Cursor) : Bool :=
  decide (row.emittedAt < after.emittedAt)
    || (decide (row.emittedAt = after.emittedAt) && decide (after.stream < row.stream))
    || (decide (row.emittedAt = after.emittedAt) && decide (row.stream = after.stream)
      && decide (row.seq < after.seq))

/-- The audit ordering: the latest emission first, then by stream, then the last position first. -/
def precedes (first second : EnvelopeRow) : Bool :=
  decide (second.emittedAt < first.emittedAt)
    || (decide (first.emittedAt = second.emittedAt)
      && (decide (first.stream < second.stream)
        || (decide (first.stream = second.stream) && decide (second.seq ≤ first.seq))))

end EnvelopeRow

namespace Store

def childMandates (store : Store) (parent : String) : List String :=
  (store.mandates.filter fun row => row.parent == some parent).map MandateRow.mandateId

/-- A mandate and everything delegated beneath it. -/
def mandateSubtree (store : Store) (root : String) : List String :=
  (explore store.childMandates (store.mandates.length + 1) ([root], [root])).insertionSort (· ≤ ·)

def predicate (store : Store) (filter : EnvelopeQuery) (row : EnvelopeRow) : Bool :=
  EnvelopeQuery.equals filter.subject (some row.subject)
    && EnvelopeQuery.equals filter.mandateRef row.mandateRef
    && EnvelopeQuery.equals filter.classification row.effectiveClass
    && EnvelopeQuery.equals filter.kind (some row.kind)
    && EnvelopeQuery.equals filter.action row.action
    && EnvelopeQuery.equals filter.component (some row.component)
    && EnvelopeQuery.equals filter.stream (some row.stream)
    && EnvelopeQuery.equals filter.correlationRef row.correlationRef
    && EnvelopeQuery.equals filter.commitmentId row.commitmentId
    && EnvelopeQuery.equals filter.outcome row.outcome
    && EnvelopeQuery.equals filter.humanRoot row.humanRoot
    && filter.emittedFrom.all (fun start => decide (start ≤ row.emittedAt))
    && filter.emittedTo.all (fun stop => decide (row.emittedAt ≤ stop))
    && EnvelopeQuery.like filter.correlationPrefix row.correlationRef
    && (!filter.violationsOnly || row.policyViolation.isSome)
    && filter.mandateSubtreeOf.all (fun root =>
      row.mandateRef.any fun mandate => (store.mandateSubtree root).contains mandate)

/-- The stored envelopes a query answers with. -/
def queryRows (store : Store) (filter : EnvelopeQuery) : List EnvelopeRow :=
  let matching := store.envelopes.filter (store.predicate filter)
  let following := matching.filter fun row => filter.after.all row.follows
  (following.insertionSort fun first second => first.precedes second = true).take filter.pageSize

def query (store : Store) (filter : EnvelopeQuery) : List Value :=
  (store.queryRows filter).map EnvelopeRow.record

end Store

/-- The cursor naming the last of some records. -/
def cursorAfter (records : List Value) : Option Cursor := do
  let last ← records.getLast?
  let envelope ← last.get "envelope"
  let emittedAt ← envelope.getStr "emitted-at"
  let stream ← envelope.getStr "stream"
  let seq ← envelope.getU64 "seq"
  return { emittedAt, stream, seq }

end Stozher
