import Stozher.Gate
import Stozher.Ingest.Documents

namespace Stozher.Ingest

open Library Library.Text

def rootApprovers (store : Store) (at_ : String) : List Gate.Approver :=
  (store.rootsAt at_).map fun (key, subject) => .named key subject

/-- Whether one of a mandate's action patterns covers the action. -/
def patternCovers (action pattern : String) : Bool :=
  pattern == "*" || pattern == action ||
    match stripSuffix pattern ".*" with
    | some stem =>
        decide (stem.utf8ByteSize < action.utf8ByteSize) && startsWith action stem
          && (octets action)[stem.utf8ByteSize]? == some 0x2e
    | none => false

def coversAction (mandate : Value) (action : String) : Bool :=
  action.isEmpty ||
    match ((mandate.index "scope").index "actions").asArray with
    | some patterns => (patterns.filterMap Value.asStr).any (patternCovers action)
    | none => false

/-- Adds the holder of one mandate, unless its key is already there. -/
def addHolder (subject action : String) (keys : List Gate.Approver) (mandate : Value) :
    List Gate.Approver :=
  if coversAction mandate action then
    match ((mandate.index "grantee").getStr "key").map KeyId.parse with
    | some (.ok key) =>
        if keys.any fun approver => approver.key == key then keys
        else keys ++ [.named key subject]
    | _ => keys
  else keys

def addSubject (store : Store) (at_ action : String) (keys : List Gate.Approver)
    (subject : String) : List Gate.Approver :=
  if startsWith subject "human:" then
    (store.mandatesHeldBy subject at_).foldl (addHolder subject action) keys
  else keys

/-- The keys that may approve: the enrolled roots among the subjects, and the humans among them who
hold a mandate covering the action. -/
def approverKeys (store : Store) (subjects : List String) (at_ action : String) :
    List Gate.Approver :=
  let roots := (store.rootsAt at_).filter fun root => subjects.contains root.2
  subjects.foldl (addSubject store at_ action) (roots.map fun (key, subject) => .named key subject)

def subjectOf (store : Store) (key : KeyId) (at_ : String) : Option String :=
  match (store.rootsAt at_).find? fun root => root.1 == key with
  | some (_, subject) => some subject
  | none => store.mandatedSubjectOf key.text at_

end Stozher.Ingest
