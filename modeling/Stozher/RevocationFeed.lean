import Stozher.Gateway.Push
import Stozher.Library.Lines
import Stozher.RevocationPermanence

namespace Stozher

open Library Library.Text Ingest

variable (ext : External)

namespace Store

variable (store : Store)

/-- The revocations in the order the feed lists them. -/
def listedRevocations : List RevocationRow :=
  sortedAfter RevocationRow.revocationId none store.revocations

/-- The text the epoch is the hash of. -/
def epochText : List Char :=
  lines '\n' (store.listedRevocations.map fun row => row.revocationId.toList)

def revocationEpoch : String :=
  ext.sha256Hex (.other (octets (String.ofList store.epochText)))

/-- Every revocation in force, with the epoch that identifies the set. -/
def revocationFeed : String × List Value :=
  (store.revocationEpoch ext, store.listedRevocations.map fun row => row.documentJson.tree)

end Store

/-- A response with the tag of what it serves. -/
structure Tagged extends Gateway.KernelResponse where
  etag : Option String

/-- A header's value without the blanks around it. -/
def trimmed (value : List Char) : List Char :=
  ((value.dropWhile (·.isWhitespace)).reverse.dropWhile (·.isWhitespace)).reverse

/-- The values of a header that lists several. -/
def listed (value : List Char) : List (List Char) :=
  value.splitOn ','

def etagOf (epoch : String) : String :=
  "\"" ++ epoch ++ "\""

/-- Whether a request already holds what it asks for. -/
def notModified (ifNoneMatch : Option String) (etag : String) : Bool :=
  ifNoneMatch.any fun value => (listed value.toList).any fun candidate => decide (trimmed candidate = etag.toList)

/-- `GET /v1/revocations`, for a caller that is authenticated. -/
def getRevocations (store : Store) (ifNoneMatch : Option String) : Tagged :=
  let (epoch, revocations) := store.revocationFeed ext
  let etag := etagOf epoch
  if notModified ifNoneMatch etag = true then { status := 304, body := .object [], etag := some etag }
  else {
    status := 200
    body := .object [("count", .ofNat revocations.length), ("revocation-epoch", .string epoch),
      ("revocations", .array revocations), ("stozher", .string "stozher/0.1")]
    etag := some etag }

namespace Store

variable {ext} {store later : Store}

/-- Hashes are written in characters that no list of them is split at. -/
def PlainDigests (ext : External) : Prop :=
  ∀ octets, '\n' ∉ (ext.sha256Hex octets).toList ∧ ',' ∉ (ext.sha256Hex octets).toList

theorem listed_perm (store : Store) : store.listedRevocations.Perm store.revocations := by
  have perm : store.listedRevocations.Perm (store.revocations.filter (isAfter RevocationRow.revocationId none)) :=
    List.perm_insertionSort _ _
  have all : store.revocations.filter (isAfter RevocationRow.revocationId none) = store.revocations :=
    List.filter_eq_self.mpr fun _ _ => isAfter_none
  rwa [all] at perm

theorem mem_revocationFeed {row : RevocationRow} (stored : row ∈ store.revocations) :
    row.documentJson.tree ∈ (store.revocationFeed ext).2 :=
  List.mem_map_of_mem (store.listed_perm.mem_iff.mpr stored)

/-- A store that lists the revocations another grew from lists no more of them. -/
theorem feed_eq_of_text (grows : store.Grows later)
    (plain : ∀ row ∈ store.revocations, '\n' ∉ row.revocationId.toList)
    (plain' : ∀ row ∈ later.revocations, '\n' ∉ row.revocationId.toList)
    (same : store.epochText = later.epochText) : store.revocations = later.revocations := by
  have listedIn : ∀ {s : Store} {row : RevocationRow}, row ∈ s.listedRevocations → row ∈ s.revocations :=
    fun member => (mem_sortedAfter.mp member).1
  have ids := lines_injective
    (fun id member => by
      obtain ⟨row, inside, rfl⟩ := List.mem_map.mp member
      exact plain row (listedIn inside))
    (fun id member => by
      obtain ⟨row, inside, rfl⟩ := List.mem_map.mp member
      exact plain' row (listedIn inside)) same
  have lengths := congrArg List.length ids
  rw [List.length_map, List.length_map, store.listed_perm.length_eq, later.listed_perm.length_eq] at lengths
  exact grows.revocations.eq_of_length lengths

theorem feed_eq_of_revocations (same : store.revocations = later.revocations) :
    store.revocationFeed ext = later.revocationFeed ext := by
  unfold revocationFeed revocationEpoch epochText listedRevocations
  rw [same]

end Store

namespace World

variable {ext} {config : Config} {world : World}

/-- A revocation is named by the hash of the envelope that carries it. -/
theorem revocation_plain (digests : Store.PlainDigests ext) (reached : (kernel ext config).Reachable world) :
    ∀ row ∈ world.store.revocations, '\n' ∉ row.revocationId.toList := by
  intro row member
  obtain ⟨taken, inside, object, written⟩ := revocationRow_taken reached row member
  obtain ⟨before, after, at_⟩ := (traced reached).accepted taken inside
  obtain ⟨subjectKey, payloads, admitted⟩ := at_.origin.admitted
  have isId := (admitted.revokes written.projected).1
  obtain ⟨canonical, hashed⟩ : ∃ canonical, row.revocationId = ext.sha256Hex (.canonical canonical) := by
    have id := admitted.hasId
    unfold Signed.objectId Jcs.objectHash at id
    obtain ⟨canonical, _, same⟩ := bind_eq_ok.mp id
    exact ⟨canonical, by rw [isId]; exact (pure_eq_ok.mp same).symm⟩
  rw [hashed]
  exact (digests _).1

end World

end Stozher
