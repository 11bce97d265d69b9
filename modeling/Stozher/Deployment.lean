import Stozher.RejectionChain
import Stozher.Gateway.Enforcement
import Stozher.System

namespace Stozher

open Library Ingest

/-- A document on record: what it says around its signature, who signed it and with what, and its hash. -/
structure Recorded where
  form : Members → Value
  sealed : Option (String × String)
  digest : String

namespace Recorded

/-- The member a signature adds. -/
def signature (key value : String) : Members :=
  [("sig", .object [("alg", .string "ed25519"), ("key", .string key), ("value", .string value)])]

def document (recorded : Recorded) : Value :=
  match recorded.sealed with
  | some (key, value) => recorded.form (signature key value)
  | none => recorded.form []

variable (records : List Recorded)

def hashOf : Octets → String
  | .canonical form => ((records.find? fun recorded => recorded.document.same form.tree).map digest).getD ""
  | .other _ => ""

/-- The 64 octets of a signature, in two halves. -/
def signatureText (high low : Nat) : String :=
  Text.hex 128 (high * 16 ^ 64 + low)

/-- A signature of the right length, for what no key has signed on record. -/
def unrecorded : String :=
  String.ofList (List.replicate 128 '0')

/-- The signature of a key over a document. -/
def signedBy (key : String) : Octets → String
  | .canonical form =>
      (records.findSome? fun recorded =>
        if (recorded.form []).same form.tree = true then
          recorded.sealed.bind fun (signer, value) => if signer = key then some value else none
        else none).getD unrecorded
  | .other _ => unrecorded

/-- The external code, as far as it is on record: hashes are the recorded ones, and a signature verifies
where it is the one the key makes. -/
def external : External where
  sha256Hex := hashOf records
  verifyStrict key octets value := value == signedBy records key.text octets
  parse _ := .error (err "jcs-malformed-json" "no text is on record")
  parseLenient _ := none
  floatText bits := (bits.wholeMagnitude.map toString).getD ""

def signingKey (id : KeyId) : Signed.SigningKey where
  id := id
  sign := signedBy records id.text

variable {records}

/-- A key with recorded signatures that are all 64 octets in hex signs as the scheme promises. -/
theorem signs {id : KeyId} (hex : ∀ recorded ∈ records, ∀ value, recorded.sealed = some (id.text, value) →
    Crypto.decodeHex 64 value = .ok value) : (signingKey records id).Signs (external records) := by
  have blank : Crypto.decodeHex 64 unrecorded = .ok unrecorded := by decide +kernel
  constructor
  · intro message
    unfold signingKey signedBy
    cases message with
    | other bytes => exact blank
    | canonical form =>
        dsimp only
        generalize found : records.findSome? _ = value
        cases value with
        | none => exact blank
        | some value =>
            obtain ⟨recorded, member, chosen⟩ := List.exists_of_findSome?_eq_some found
            split at chosen
            · obtain ⟨⟨signer, made⟩, isSealed, same⟩ := Option.bind_eq_some_iff.mp chosen
              dsimp only at same
              split at same
              · rename_i isKey
                cases same
                exact hex recorded member value (by rw [isSealed, isKey])
              · cases same
            · cases chosen
  · intro message
    exact beq_self_eq_true _

end Recorded

namespace Deployment

open Recorded Library.Text

def nine : String := "2026-01-01T09:00:00.000Z"
def fivePast : String := "2026-01-01T09:05:00.000Z"
def twelvePast : String := "2026-01-01T09:12:00.000Z"
def quarterPast : String := "2026-01-01T09:15:00.000Z"
def halfPast : String := "2026-01-01T09:30:00.000Z"
def ten : String := "2026-01-01T10:00:00.000Z"
def evening : String := "2026-01-01T17:00:00.000Z"
def nextYear : String := "2027-01-01T09:00:00.000Z"

def anaKey : String := "ed25519:" ++
  hex 64 0x718d5e952e0fd58aa0fe637732ac3ecff3d02bdfcec2c7aa6cc3455f2e8c1886
def miraKey : String := "ed25519:" ++
  hex 64 0xeb3877631adf48016cd83ce4f7b78b3f03b9e6d03c91e95c2965154e9bb06707
def opsKey : String := "ed25519:" ++
  hex 64 0xa90f266b90e25a2212a2c87a396c5550d348d21f21f1f87578666a0d8bcb4449
def strangerKey : String := "ed25519:" ++
  hex 64 0x388eb2d7449363b3d9034985a7d95797a92d4855d7b07a15c4a9f04cc50e0d7c
def githubKey : String := "ed25519:" ++
  hex 64 0xc66715205f19eaeb1d5ed224dbd026908610197e1b6f33c8aea34da2d1126098
def orgKey : String := "ed25519:" ++
  hex 64 0x0641e268b522ae1c0aa2f8033f2deca1d424535dfd1f58c84b93c0dbe95f42d1
def kernelKey : String := "ed25519:" ++
  hex 64 0x0a95432ae30cee3e75557011080e3bf22d307b93fa12924798405c26a8255de5

def nonce (digit : Char) : Value :=
  .string (String.ofList (List.replicate 32 digit))

def texts (items : List String) : Value :=
  .array (items.map .string)

def identity (subject key : String) : Value :=
  .object [("component", .string "kernel"), ("key", .string key), ("subject", .string subject)]

def opsIdentity : Value := identity "agent:ops" opsKey
def anaIdentity : Value := identity "human:ana" anaKey
def miraIdentity : Value := identity "human:mira" miraKey
def kernelIdentity : Value := identity "agent:kernel" kernelKey

/-- Everything, at both components. -/
def scope : Value :=
  .object [("actions", texts ["*"]), ("classes", texts ["read", "benign", "consequential"]),
    ("components", texts ["gateway", "kernel"]), ("resources", texts ["*"])]

def mandate (kind grantor grantorKey role grantee granteeKey : String) (parent : Option String)
    (maxDepth : Nat) (digit : Char) (sig : Members) : Value :=
  .object ([("grantee", .object [("key", .string granteeKey), ("subject", .string grantee)]),
    ("grantor", .object [("key", .string grantorKey), ("role", .string role), ("subject", .string grantor)]),
    ("issued-at", .string nine), ("kind", .string "mandate"), ("mandate-kind", .string kind),
    ("max-depth", .ofNat maxDepth), ("nonce", nonce digit), ("not-after", .string evening),
    ("not-before", .string nine), ("parent", .ofOption parent), ("scope", scope)] ++ sig ++
    [("v", .string "stozher/0.1")])

def grant (identity : Value) (seq : Nat) (prev : Option String) (mandate : Value) (sig : Members) : Value :=
  .object ([("emitted-at", .string nine), ("identity", identity), ("kind", .string "mandate"),
    ("mandate", mandate), ("prev-hash", .ofOption prev), ("seq", .ofNat seq)] ++ sig ++
    [("stream", .string "kernel:core"), ("v", .string "stozher/0.1")])

def request (subject key mandateRef action target argsHash : String) (digit : Char) (_ : Members) : Value :=
  .object [("action", .string action), ("args-hash", .string argsHash),
    ("classification", .string "consequential"), ("component", .string "kernel"), ("key", .string key),
    ("kind", .string "action-request"), ("mandate-ref", .string mandateRef), ("nonce", nonce digit),
    ("not-after", .string evening), ("policy-version", .string "1"), ("requested-at", .string nine),
    ("subject", .string subject), ("target", .string target), ("v", .string "stozher/0.1")]

def decision (requestHash verdict : String) (reason : Option String) (notAfter : String) (sig : Members) :
    Value :=
  .object ([("decided-at", .string nine), ("decision", .string verdict), ("kind", .string "gate-decision"),
    ("not-after", .string notAfter), ("reason", .ofOption reason), ("request-hash", .string requestHash)] ++
    sig ++ [("single-use", .bool true), ("v", .string "stozher/0.1")])

/-- An applied effect of what a request asks for, with the decision that approves it. -/
def effect (kind : String) (identity : Value) (stream : String) (seq : Nat) (prev : Option String)
    (mandateRef : String) (request decision : Value) (at_ : String) (sig : Members) : Value :=
  .object ([("authorization", .object [("decision", decision), ("request", request)]),
    ("classification", .string "consequential"), ("emitted-at", .string at_),
    ("evidence", .object [("media-type", .string "application/json"),
      ("payload-hash", request.index "args-hash"), ("retain-until", .string nextYear),
      ("schema", .string (((request.getStr "action").getD "") ++ ".v1"))]),
    ("execution", .object [("action", request.index "action"), ("args-hash", request.index "args-hash"),
      ("finished-at", .string at_), ("outcome", .string "applied"), ("started-at", .string at_),
      ("target", request.index "target")]),
    ("identity", identity), ("kind", .string kind), ("mandate-ref", .string mandateRef),
    ("policy-version", .string "1"), ("prev-hash", .ofOption prev), ("seq", .ofNat seq)] ++ sig ++
    [("stream", .string stream), ("v", .string "stozher/0.1")])

def note (stream : String) (seq : Nat) (prev : Option String) (mandateRef at_ : String) (sig : Members) :
    Value :=
  .object ([("cost", .object [("requests", .ofNat 1)]), ("emitted-at", .string at_),
    ("identity", opsIdentity), ("kind", .string "cognition"), ("mandate-ref", .string mandateRef),
    ("prev-hash", .ofOption prev), ("resource", .object [("kind", .string "model"), ("name", .string "notes")]),
    ("seq", .ofNat seq)] ++ sig ++ [("stream", .string stream), ("v", .string "stozher/0.1")])

def cognition (identity cost : Value) (stream : String) (seq : Nat) (prev : Option String) (mandateRef : String)
    (sig : Members) : Value :=
  .object ([("cost", cost), ("emitted-at", .string nine), ("identity", identity), ("kind", .string "cognition"),
    ("mandate-ref", .string mandateRef), ("prev-hash", .ofOption prev),
    ("resource", .object [("kind", .string "model"), ("name", .string "notes")]), ("seq", .ofNat seq)] ++ sig ++
    [("stream", .string stream), ("v", .string "stozher/0.1")])

def spent (amount : String) : Value :=
  .object [("money-usd", .string amount)]

def resume (position : Nat) (refused : String) (_ : Members) : Value :=
  .object [("reason-code", .string "emitter-clock"), ("refused-object-hash", .string refused),
    ("resume-seq", .ofNat position), ("stream", .string "ops:notes")]

def rejection (seq : Nat) (prev : Option String) (reason detail objectHash : String) (sig : Members) :
    Value :=
  .object ([("detail", .string detail), ("identity", kernelIdentity), ("kind", .string "rejection"),
    ("object-hash", .string objectHash), ("prev-hash", .ofOption prev), ("reason", .string reason),
    ("received-at", .string nine), ("seq", .ofNat seq)] ++ sig ++
    [("stream", .string "kernel:rejections"), ("submitted-by", .string "agent:ops"),
      ("v", .string "stozher/0.1")])

def revocation (target : String) (sig : Members) : Value :=
  .object ([("kind", .string "revocation"), ("reason", .string "compromised"),
    ("revoked-at", .string quarterPast), ("revokes", .string target)] ++ sig ++ [("v", .string "stozher/0.1")])

def revocationEnvelope (seq : Nat) (prev : Option String) (target : String) (object : Value)
    (sig : Members) : Value :=
  .object ([("emitted-at", .string quarterPast), ("identity", miraIdentity), ("kind", .string "revocation"),
    ("prev-hash", .ofOption prev), ("reason", .string "compromised"), ("revocation", object),
    ("revoked-at", .string quarterPast), ("revokes", .string target), ("seq", .ofNat seq)] ++ sig ++
    [("stream", .string "kernel:core"), ("v", .string "stozher/0.1")])

def answerEnvelope (requestHash : String) (decision : Value) (sig : Members) : Value :=
  .object ([("decision", decision), ("decision-of", .string requestHash), ("emitted-at", .string nine),
    ("identity", miraIdentity), ("kind", .string "gate-decision"), ("prev-hash", .null), ("seq", .ofNat 0)] ++
    sig ++ [("stream", .string "mira:console"), ("v", .string "stozher/0.1")])

def reads (mandateRef sample : String) (sig : Members) : Value :=
  .object ([("classification", .string "read"),
    ("counts", .object [("by-action", .object [("github.read_secret", .ofNat 1)]), ("total", .ofNat 1)]),
    ("emitted-at", .string nine), ("identity", opsIdentity), ("kind", .string "aggregate"),
    ("mandate-ref", .string mandateRef), ("policy-version", .string "1"), ("prev-hash", .null),
    ("sample-hashes", texts [sample]), ("seq", .ofNat 0)] ++ sig ++
    [("stream", .string "ops:reads"), ("v", .string "stozher/0.1"),
      ("window", .object [("from", .string nine), ("to", .string nine)])])

def policyDocument (sig : Members) : Value :=
  let rule (classes : List String) (decision : String) : Members :=
    [("classes", texts classes), ("decision", .string decision)]
  let gated (classes approvers : List String) : Value :=
    .object [("approvers", texts approvers), ("classes", texts classes), ("decision", .string "gate")]
  let narrowed (actions : List String) (rule : Members) : Value :=
    .object (("actions", texts actions) :: rule)
  .object ([("aggregate-max-window", .string "PT5M"), ("budgets", .object []),
    ("checkpoint-interval", .string "PT1H"),
    ("classification", .object [
      ("by-action", .object [("github.read_secret", .string "read"), ("github.star", .string "benign")]),
      ("default-unknown", .string "consequential"), ("reclassify", .array [])]),
    ("delegation", .object [("max-depth", .ofNat 3), ("max-standing-lifetime", .string "P90D")]),
    ("evidence-ttl", .object [("benign", .string "P30D"), ("consequential", .string "P365D"),
      ("prohibited", .string "P3650D"), ("read", .string "P0D")]),
    ("gate-rules", .array [.object (rule ["prohibited"] "deny"),
      gated ["consequential"] ["human:ana", "human:mira"],
      narrowed ["github.read_secret"] (rule ["read"] "deny"),
      narrowed ["kernel.note"] (rule ["benign"] "allow"), gated ["benign"] ["human:ana"],
      .object (rule ["read"] "allow")]),
    ("issued-at", .string nine), ("kind", .string "policy"), ("max-staleness-seconds", .ofNat 300),
    ("offline", .object [("benign", .string "allow"), ("consequential", .string "block"),
      ("prohibited", .string "block"), ("read", .string "allow")]),
    ("policy-version", .string "1"), ("profile", .string "baseline-conservative"),
    ("revoke-cached", .bool false)] ++ sig ++ [("v", .string "stozher/0.1")])

/-- The request that submits an envelope with the documents its hashes commit to. -/
def submission (envelope : Value) (payloads : List Recorded) : Value :=
  .object [("envelope", envelope), ("payloads", .array (payloads.map fun payload =>
    .object [("media-type", .string "application/json"), ("payload", payload.document),
      ("payload-hash", .string payload.digest)]))]

/-- The payload of a call without arguments. -/
def called (tool : String) (_ : Members) : Value :=
  .object [("arguments", .object []), ("server", .string "github"), ("tool", .string tool)]

/-- The request a gateway parks for a merge. -/
def gatewayAsk (mandateRef argsHash : String) (_ : Members) : Value :=
  .object [("v", .string "stozher/0.1"), ("kind", .string "action-request"), ("requested-at", .string nine),
    ("subject", .string "agent:ops"), ("key", .string opsKey), ("component", .string "gateway"),
    ("mandate-ref", .string mandateRef), ("policy-version", .string "1"),
    ("classification", .string "consequential"), ("action", .string "github.merge"),
    ("target", .string "mcp:github"), ("args-hash", .string argsHash), ("nonce", nonce '9'),
    ("not-after", .string ten)]

/-- The envelope a gateway chains for the merge, an hour after it was approved. -/
def gatewayMerge (mandateRef argsHash payloadHash : String) (request decision : Value) (sig : Members) :
    Value :=
  .object ([("prev-hash", .null), ("seq", .ofNat 0)] ++ sig ++ [("stream", .string "gateway:ops"),
    ("v", .string "stozher/0.1"), ("kind", .string "effect"), ("emitted-at", .string ten),
    ("identity", .object [("component", .string "gateway"), ("key", .string opsKey),
      ("subject", .string "agent:ops")]),
    ("mandate-ref", .string mandateRef), ("policy-version", .string "1"),
    ("classification", .string "consequential"),
    ("execution", .object [("action", .string "github.merge"), ("target", .string "mcp:github"),
      ("args-hash", .string argsHash), ("outcome", .string "applied"), ("started-at", .string nine),
      ("finished-at", .string ten)]),
    ("evidence", .object [("media-type", .string "application/json"), ("payload-hash", .string payloadHash),
      ("retain-until", .string "2027-01-01T10:00:00.000Z"), ("schema", .string "github.merge.v1")]),
    ("authorization", .object [("decision", decision), ("request", request)])])

/-- The manifest of an upstream server that proposes a class for one of its tools. -/
def manifest (sig : Members) : Value :=
  .object ([("actions", .array [.object [("action", .string "github.fetch"),
      ("aggregate", .object [("max-samples", .ofNat 8), ("sampling", .string "first-and-last")]),
      ("class", .string "read"), ("evidence-schema", .string "github.fetch.v1"), ("idempotent", .bool true),
      ("target-kind", .string "repository")]]),
    ("budget-dimensions", texts ["requests"]),
    ("conformance", .object [("self-test", .string "github-selftest"), ("vectors-version", .string "1")]),
    ("durable-objects", .array []),
    ("evidence-schemas", .object [("github.fetch.v1", .object [("additionalProperties", .bool false)])]),
    ("kind", .string "manifest"), ("name", .string "github")] ++ sig ++
    [("subject-class", .string "tool-proxy"), ("v", .string "stozher/0.1"), ("version", .string "1.0.0")])

def opsMandate : Recorded where
  form := mandate "interactive" "human:ana" anaKey "human" "agent:ops" opsKey none 2 '0'
  sealed := some (anaKey, signatureText
    0x3786264a52274d4dcc62f6e0ad95986454bff14a523b0ad3d35e3ba6cddffe4f
    0xd2df4a238fc1fa1c8102bd893bdf44e5b4af89f3575f5ae51c95d67cc0593202)
  digest := hex 64 0x0c5ebec970b1c7dc670438e52e13cbd538aa795aebdec80d780368ed374ecccb

def opsGrant : Recorded where
  form := grant opsIdentity 0 none opsMandate.document
  sealed := some (opsKey, signatureText
    0x856122a066d29e91c2bc4eec48b4ea922c68c93e062a74e7ccdd6fabeb7355f8
    0x11c04f8946552c7f2091cbbfd8afd147cd1667af11722363ad6c6ebdc1a67701)
  digest := hex 64 0xd083242b3c6f729edfa041fa8cf1b7a7675cc18b49f9ea6edad14bf0f4fad353

def policy : Recorded where
  form := policyDocument
  sealed := some (orgKey, signatureText
    0x078a78077614b08fe5b21699c872044bee7f55caba4aba84521245b33f3dd163
    0x524904a3d9dc888c2b1468bb6fd2feddea4817858d8d5cc92e8c2aa76e2c2a04)
  digest := hex 64 0x8d64bf76268d640f6f499340f66b58cd926bc08b0f8e10371292f714d9d0dd43

def policyRequest : Recorded where
  form := request "agent:ops" opsKey opsMandate.digest "kernel.publish_policy" "policy:1" policy.digest '1'
  sealed := none
  digest := hex 64 0xb533b4176a5c280f6d115db75efb0d05b50bceab0384a759da9864845e09ff80

def policyApproval : Recorded where
  form := decision policyRequest.digest "approve" none evening
  sealed := some (anaKey, signatureText
    0x34dd27fad0bc3d7bf22bffcc64ee159114c411f835d3c5ae223486b048b85f7e
    0xa87ae711c0b509f3b4c5407e45a1612874bfe612b1b002bf25dda0cb7836c20a)
  digest := hex 64 0xfd8eff04b779c104f5e42c1763d06da9e22116ff9e59938b063327ca1b53c695

def policyChange : Recorded where
  form := effect "policy-change" opsIdentity "kernel:core" 1 (some opsGrant.digest) opsMandate.digest
      policyRequest.document
      policyApproval.document nine
  sealed := some (opsKey, signatureText
    0x6aa0ea90f6f53d01f8d3b19ecf5de7ff3db0e70a1bb116db4e14f71a0b96d79a
    0x4913ecbd2178a8f5421d606969cd3b7357f05c7b23cd0cf903aebd99a696560e)
  digest := hex 64 0x2485b4ab46eb256b8a18586e7138e9a9e6eea98d34499b70e50046d8261a7361

def firstNote : Recorded where
  form := note "ops:notes" 0 none opsMandate.digest nine
  sealed := some (opsKey, signatureText
    0x3fea4f00da1e5f77dcfcd779704450e7103750f8cebbf966085f3291b7863473
    0x5908ce71d21378ccda8e4643be45a38ef7ccb59022d9a97f936dc6aca7ef370d)
  digest := hex 64 0xa104e0ebf480048b4d98eac1f1984af87ba9d47f21a68b58603e6fa2825831a7

def refusedNote : Recorded where
  form := note "ops:notes" 1 (some firstNote.digest) opsMandate.digest ten
  sealed := some (opsKey, signatureText
    0x4c53b6117715bb35aca669d5c2f04c41d79c6a32aa349762c308b22118a97161
    0x5ec671ab82381487a86aa24a35bf11272e70a4bd11798f639d3c397879f39108)
  digest := hex 64 0x6d9c47444851dd1a1d95bae7b222b516d080c6c0a91598a2047da9306744bb55

def refusedNoteBody : Recorded where
  form := fun _ => submission refusedNote.document []
  sealed := none
  digest := hex 64 0xcfeba5a7b93e9f7883b157616409c20149e847d22bcd98d36ba4ad49bd246bb4

def nextNote : Recorded where
  form := note "ops:notes" 2 (some refusedNote.digest) opsMandate.digest nine
  sealed := some (opsKey, signatureText
    0xd8696c7dd30ae0d542f92d7a98149331741899064ca6d2fefc55ee1494759693
    0xb030b0a0622d94ec44d82774c5884fd26a4270b6f9f96cb76036d5c39ac37707)
  digest := hex 64 0x5404b9c881f18079b73d94949badbadc3d52eefa58f532722e63ecfc2dd7b578

def nextNoteBody : Recorded where
  form := fun _ => submission nextNote.document []
  sealed := none
  digest := hex 64 0xcdc177298986fc7d307d0234a357e40c3107103863e596b104008495915d99ab

def futureRejection : Recorded where
  form := rejection 0 none "envelope-emitted-in-future"
      "emitted-at 2026-01-01T10:00:00.000Z is beyond the accepted horizon 2026-01-01T09:05:00.000Z"
      refusedNoteBody.digest
  sealed := some (kernelKey, signatureText
    0x5ee83917e5aa38b085e25db85f527a55b9a6885b9e0cfba46f4917293eb55cd6
    0x66598a0929f98817f8e2ff6c0362f78d1e5ce647fc66b109194bf0587a8f0f01)
  digest := hex 64 0x88558841c0f744ba70ddb019c290339b2cf0e7a5061edb5408990196e38dbfef

def gapRejection : Recorded where
  form := rejection 1 (some futureRejection.digest) "chain-seq-gap"
      "stream ops:notes is at seq 0; 2 would leave a gap" nextNoteBody.digest
  sealed := some (kernelKey, signatureText
    0xbc5723e1fcca7853446e08061b507fb135661dfa80ca8e3a2331b207db0b3aaf
    0x60f76518d0624938fb3c50a0ad215b7e6ee31fd7b8b088b14e27666cc584350e)
  digest := hex 64 0x45c153309087d86f779cb8b3c01534bc3f89356abb5e88deb1b488e2d4e88bc9

def firstResume : Recorded where
  form := resume 1 refusedNoteBody.digest
  sealed := none
  digest := hex 64 0x2572a8c11847e8dad44f6dc5f723670c867ff2cf9bd8f13bd469bcfcd4d5c7c3

def firstResumeRequest : Recorded where
  form := request "agent:ops" opsKey opsMandate.digest "kernel.resume_stream" "stream:ops:notes"
      firstResume.digest '2'
  sealed := none
  digest := hex 64 0x7839f0d3dc6f97614d1afea51c70c41dabac02dd545ab9671ad251bff2c105bd

def firstResumeApproval : Recorded where
  form := decision firstResumeRequest.digest "approve" none evening
  sealed := some (anaKey, signatureText
    0x3c7e26bc037055de189cbc3f8566892c21149a59ae3f6dba459570fba74baa69
    0xd263b118dae499e9e9aa2aa113eb8011f418732e17e439aacfc67d4c0d89dd04)
  digest := hex 64 0xd91b46d6ab3ea60e8866bc6411bf251ce84dc0da8ba8204ab33b25fc5168523e

def firstResumeEffect : Recorded where
  form := effect "effect" opsIdentity "kernel:core" 2 (some policyChange.digest) opsMandate.digest
      firstResumeRequest.document
      firstResumeApproval.document nine
  sealed := some (opsKey, signatureText
    0x236c108001c362c964fcf3c228224b165d096a9f7ef6c5781a568a6dd8593c7b
    0xdb778e52d45d256290d93755f9addbf7a6a52eee96e230c46f41430310a12d0b)
  digest := hex 64 0xb726461e9e669fa32ac4ce2e88ba59d7e0b132b6d75275d405d75ff400f07c20

def secondResume : Recorded where
  form := resume 2 nextNoteBody.digest
  sealed := none
  digest := hex 64 0x85477d693d1a076b97857ee9977fc24d4e5633d5a9740a9d36d823e7a80b719d

def secondResumeRequest : Recorded where
  form := request "agent:ops" opsKey opsMandate.digest "kernel.resume_stream" "stream:ops:notes"
      secondResume.digest '3'
  sealed := none
  digest := hex 64 0x33d50983ef0afea3741bee9170e2ee016b05a894927c2dc1db043a454c0bdb58

def secondResumeApproval : Recorded where
  form := decision secondResumeRequest.digest "approve" none evening
  sealed := some (anaKey, signatureText
    0x9382a152c94d8043df7c5d2d9320e0f24926e906e2a0f18607a753574d86202a
    0x1ac9544830e39f32c524840fad02f92673c92d8d2a29ea942c0cafd5a8df9703)
  digest := hex 64 0x893c6ce5d7c6be515832933cc473ec585810c887b4f82967fad41c3691b555b0

def secondResumeEffect : Recorded where
  form := effect "effect" opsIdentity "kernel:core" 3 (some firstResumeEffect.digest) opsMandate.digest
      secondResumeRequest.document
      secondResumeApproval.document nine
  sealed := some (opsKey, signatureText
    0x327149d1a6b9baf87af483fe53ba4af470c87a0d0219127ac9aed0b785b8ad93
    0xc91403e048477fd4489a81de0c69845990844be13593e70bdfd0740277470005)
  digest := hex 64 0xf50ffea500fbee9f5b2b5102e9e4df477e2fc278acb91d3629b3ecda70ac4e6a

def bridgedNote : Recorded where
  form := note "ops:notes" 2 (some refusedNoteBody.digest) opsMandate.digest nine
  sealed := some (opsKey, signatureText
    0xfcd7380229837d0972254a99e572a21f1477c2bd3644d1d090467b156f2d2740
    0x011ce410ffa1557c4301c04c4f70fa39452ba497826e804756d73486ed8a2804)
  digest := hex 64 0xc3ecfa0467fa9ca405fd3a45115219392676ef6c6f91376b95d0f4fdc09cba2e

def bridgedTwice : Recorded where
  form := note "ops:notes" 3 (some nextNoteBody.digest) opsMandate.digest nine
  sealed := some (opsKey, signatureText
    0x8f5d9482b0dcf14204aa9d76ac90200c4088d943f8ebfe6c4250301a4deff49f
    0xce238bb1df86f06d807856a4585999558d543ed53a2576f46122b5e040a41d05)
  digest := hex 64 0x17bc068ded36ecace6d03f4e6b5a7781f100a7e91a34173bbb8c7134f3daa192

def refillNote : Recorded where
  form := note "ops:notes" 1 (some firstNote.digest) opsMandate.digest nine
  sealed := some (opsKey, signatureText
    0x533b9e08be2260d77753576f9c0d170519b197b17003dae33cfb2b75f376bad3
    0x81544089ec7e332899fe4179f6e53a0b7874ee1377a07df8f728ea9178fde80b)
  digest := hex 64 0xd340a24639976b05366bd66922865095f059c5ff659accc0261257e587c56421

def anaMandate : Recorded where
  form := mandate "interactive" "human:mira" miraKey "human" "human:ana" anaKey none 1 '4'
  sealed := some (miraKey, signatureText
    0xec08a2b44cf5658daf8f4636218177a68e09828cc04293798edcc19a1f99b7e5
    0x00ded8fc2407812189c113eecf528619f377e323b260c922647c0774ffeaed08)
  digest := hex 64 0x2b01c69ea87a9e24cc118dff89ddc03990334c4a06d6e1d6803f956f2d36d0ce

def anaGrant : Recorded where
  form := grant anaIdentity 2 (some policyChange.digest) anaMandate.document
  sealed := some (anaKey, signatureText
    0x83c37ea0aa2923ac328bb660267854cfe6df0e33185937eb7bb1c22956a352b1
    0xbf4a8fab1a2bb5b2d5a4554037075970eb2cddec0e693d876968b8954a1b7609)
  digest := hex 64 0xd57d46dcfd76b7433563ccc424478ac6473403b23e909ca1439795c0fd1b30d8

def mintedMandate : Recorded where
  form := mandate "delegated" "agent:ops" opsKey "agent" "human:ana" strangerKey (some opsMandate.digest) 1
      '5'
  sealed := some (opsKey, signatureText
    0x4ca64a9553916a07359a6d0f8fc534fc117e7ec385fcb1b6d68c482ba37fc8f5
    0x739fee37c601d5c758f04209d3befd2dafd6d426cabdc20305c63d4e2d789801)
  digest := hex 64 0x981a8c2d28b5010135d0869b565cc7850d1e8ce57de0f909e5ddb94289b928ba

def mintedGrant : Recorded where
  form := grant opsIdentity 3 (some anaGrant.digest) mintedMandate.document
  sealed := some (opsKey, signatureText
    0x8e72270c5ee161dfa8532cc5f524c52bc4ae25e4e554cc2e235e1b4233473a8e
    0x2361ddfcce98025c44919df93f744fe0561b9446f0bcf8faae0aec37ac94b009)
  digest := hex 64 0xa728f2860527c00361dae218d7c06944d8b219ef408f760f700ceb9651f9c5a1

def adoptedMandate : Recorded where
  form := mandate "delegated" "agent:ops" opsKey "agent" "human:ana" miraKey (some opsMandate.digest) 1 '6'
  sealed := some (opsKey, signatureText
    0xd9a864ee85c8175418301826d8184c2df363ccf5475133f8b05a885dee01599e
    0xbd82cb6ec464b339675694cbc5a835a4952532ee1a56475750b0feab7fba8804)
  digest := hex 64 0x878e27b2bd8c6af6b4d10f20a48c4dae358f10349490ad22804bf2a612e8a41e

def adoptedGrant : Recorded where
  form := grant opsIdentity 4 (some mintedGrant.digest) adoptedMandate.document
  sealed := some (opsKey, signatureText
    0xbdb5fc08f2d677e17f89e7f5daa39202649860103044eb5ebae4c764043fbc19
    0x6e667bb95849f8904f7f40914a995171e2d52f4381fa408c79cdb6215bde4e0c)
  digest := hex 64 0x205a782a8fcb48a9222c382a52deaa1d8a3a0636ec07d79b7bdfc42800119c29

def lateNote : Recorded where
  form := note "ops:notes" 0 none opsMandate.digest halfPast
  sealed := some (opsKey, signatureText
    0xd502a1c998ee1443b1e2f9407aefbc823e593318aed4b31a25df9c9b43a8fda7
    0xcd70e58ef90882841f8e6c87d0e5e49689eb6193cada9676b4723cbcaa6ffb02)
  digest := hex 64 0xa92d7e5b87f2d82ecb57bb2e115afde175c49f3f32881df059232ffa09296af2

def opsRevocation : Recorded where
  form := revocation opsMandate.digest
  sealed := some (miraKey, signatureText
    0xfd970b03209c053c362529043f8f23080b09633ec4bfef39984828806d5692cf
    0x61547ba23d94b0731bfc5e6aa2d4cecfe604c79c7feec61deaf1cf0b8c92eb0e)
  digest := hex 64 0x239e1898486ab49b63b6c7d21bb0e45aa44ad8a38440907c6e0ed9384653f399

def opsRevoked : Recorded where
  form := revocationEnvelope 5 (some adoptedGrant.digest) opsMandate.digest opsRevocation.document
  sealed := some (miraKey, signatureText
    0x970401a812371d55e715389623f52fd2acb696ece83ed5e69ea7f60e2954ce2f
    0xd5fbb02b4b7d49a4c4e385514ae2b817a329a306f201b5d7a353489abc147c06)
  digest := hex 64 0xa0049b94acba05415ec601fc7bb2694b4cb6205100cb7b604e907b1f94af9a50

def retirement : Recorded where
  form := fun _ => .object [("reason", .string "rotation"), ("retires", .string miraKey)]
  sealed := none
  digest := hex 64 0x41bfbd7670048de4b53ef4c27fdbf57ded8d66cd7ac8b1a314481cd6dc3d63c4

def retireRequest : Recorded where
  form := request "human:ana" anaKey anaMandate.digest "kernel.retire_root" ("root:" ++ miraKey)
      retirement.digest '7'
  sealed := none
  digest := hex 64 0x7ed1c05a8ee55335ff6c83f78de705cdf27da86451caeb56be91f6d84fb853e2

def retireApproval : Recorded where
  form := decision retireRequest.digest "approve" none evening
  sealed := some (miraKey, signatureText
    0x8d57dcc513cf1474eaf82abb39fb6281505a9aeaaa566cb42892eba4a4374b37
    0x1f07d78edfbfc229a145fb6d09c6f7c736644ff7cef4ee1eafc7c4e4dffe380f)
  digest := hex 64 0xb0c07e33d804df1e8122dab3b88350cf29d0606014b8d2a85f2e4f4d152509ef

def retireEffect : Recorded where
  form := effect "effect" anaIdentity "kernel:core" 6 (some opsRevoked.digest) anaMandate.digest
      retireRequest.document
      retireApproval.document twelvePast
  sealed := some (anaKey, signatureText
    0x10ff89b6f2ab6653a467e77dc789ea8e3eefa434e8a20f84dd38fccd966b48e3
    0x639233f30abe6fd640edf2f66453a973fafb713058d44403b23a1d2de3aa8b0a)
  digest := hex 64 0x1e3f00fb5ad7831feed053a72dfbd38a179d2c1f10bc57182f03488d9fe47ab1

def noArguments : Recorded where
  form := fun _ => .object []
  sealed := none
  digest := hex 64 0x44136fa355b3678a1146ad16f7e8649e94fb4fc21fe77e8310c060f61caaff8a

def mergeRequest : Recorded where
  form := request "agent:ops" opsKey opsMandate.digest "github.merge" "mcp:github" noArguments.digest '8'
  sealed := none
  digest := hex 64 0xc3f86a7f9a50bde6c8e7a1dc98b8cd656c86692d1fb33caaba406ff627145aef

def mergeDenial : Recorded where
  form := decision mergeRequest.digest "deny" (some "not today") evening
  sealed := some (miraKey, signatureText
    0xa21d5dfe3c1b6e99ea5b23ae8290d9ae82c3a6586505b7dc7e096839314d6fae
    0x2db99be5325c68cfa8a52dacc8dc26e9d753acf279ad5e81ebeb388814069f00)
  digest := hex 64 0x3ab4a23254acacced1b40a645f5cd74592029b8b14d39fdfff153aae122b5a62

def denialEnvelope : Recorded where
  form := answerEnvelope mergeRequest.digest mergeDenial.document
  sealed := some (miraKey, signatureText
    0x0832e1a1137a4e470f1742d99d0f23b7bc74317d12c363059ffa8dc8bf55ccdf
    0x2d1171c3d4bd441e35335ab79b3ab960eeb0bbd942471b85df1598c7dc9bcf04)
  digest := hex 64 0x813d2cc59aad2c45c541539340c269cf330704a872d5dd73dd8a9ceba91cd487

def mergeApproval : Recorded where
  form := decision mergeRequest.digest "approve" none evening
  sealed := some (anaKey, signatureText
    0x89268d7379ef6a297e6e69a980e09562fbc7f70dc38658ee01bbf69a21b32eb7
    0x8170896c9aa3fe2d1767495013dd350abc02bcb7f0728ab7b20a2b792f366d05)
  digest := hex 64 0x84ae8b81f8634c5c7f05f21a6f0a7f491de56bcfb84637bbe74f16d2f1c56979

def mergeEffect : Recorded where
  form := effect "effect" opsIdentity "ops:work" 0 none opsMandate.digest mergeRequest.document
      mergeApproval.document nine
  sealed := some (opsKey, signatureText
    0x5785cc82ba5242cd57e693663a06db180e40d9892a2d06df06cfb3c4b568ddd2
    0xd0b8898aa72dd1114a5a8116cfb5d68b1614a52c036ec98f353b0376267bb204)
  digest := hex 64 0x3afe79f8e428b91baca094901f46be1bf5623ffea970266adac1f1221c952cf1

def secretReads : Recorded where
  form := reads opsMandate.digest noArguments.digest
  sealed := some (opsKey, signatureText
    0x7999f00acf2f9b4162a2806f3f41a286b4046648d96ebdb8d9194b2a8f241bf3
    0x93719ed82680c459b43caeddb27c16fdea2baa3124824f5de93116d633526908)
  digest := hex 64 0xaf5b7ab2f649f2ec50b3a919496b8afe2660eee3e294ef8f13ca80e09b437266

def mergePayload : Recorded where
  form := called "merge"
  sealed := none
  digest := hex 64 0x98a7ee0a59d263cc791a77e107338fc0208ba36f3908b51cebf7b72e64b63523

def starPayload : Recorded where
  form := called "star"
  sealed := none
  digest := hex 64 0xad98b468ef2b61d3230ba7ccd8d845e635b5acbd9981e2816d23ffd6d6b71351

def fetchPayload : Recorded where
  form := called "fetch"
  sealed := none
  digest := hex 64 0x8abdcd3891fb8664e4f18cd750f244fb8abfb675b88fc0e00626ddf472ed746b

def gatewayRequest : Recorded where
  form := gatewayAsk opsMandate.digest noArguments.digest
  sealed := none
  digest := hex 64 0x21a8eac1049d3b08d7a8537ac9c811d51661cc1aa8824ba545798e52d46bbb48

def gatewayApproval : Recorded where
  form := decision gatewayRequest.digest "approve" none fivePast
  sealed := some (anaKey, signatureText
    0x1bb3b9d75d4771670fa3a1a4b5d5fbb70c058b47463fb977a3a9589bb38f6d78
    0x5d5d0e210598b5fcc6426b974c9f7fda6798eeb8fa5c25c36db0694a38d2960a)
  digest := hex 64 0x77077d9b4fcfc0d2ca4825ca957656eebb2ccb48787fde53680ae5ac5422ddde

def gatewayEffect : Recorded where
  form := gatewayMerge opsMandate.digest noArguments.digest mergePayload.digest gatewayRequest.document
    gatewayApproval.document
  sealed := some (opsKey, signatureText
    0xfa6e756cdc61613c1f4ec354bc135fd29b42af6bfb4961304435e4c68e09f5ca
    0xa944fd75438fdcd19559783a7a75a4e0bd857b1b2926f7abfc129f55a700d006)
  digest := hex 64 0x00660d531f8e50be2fbb0d283f0e5d2e338ed4d2a77f0eeb676728e7c8498bc1

def githubManifest : Recorded where
  form := manifest
  sealed := some (githubKey, signatureText
    0xd3b713bfacccda6d85d144ca5657882113dc7ea52d5f1fba67f5bb79bd2b193f
    0xb25bce32729bc64ac9ae546b84626d474ce0df7d479a7f1e821db5fc276ca30e)
  digest := hex 64 0xb1d970139610ded77436d191a58a03255e4293107f873d8e2542082fcc6627b5

def intrudingNote : Recorded where
  form := cognition anaIdentity (.object [("requests", .ofNat 1)]) "ops:notes" 1 (some firstNote.digest)
      anaMandate.digest
  sealed := some (anaKey, signatureText
    0x2d789f3329bd229f8ab49c651c5bda8e29a3780872e90810a3b929f372bdabf3
    0x2d3a01416f725be3a04f5f282a61cfd27d6ce19976e16dbe96b602d93b79df08)
  digest := hex 64 0xf3b6769d9ae75613363a445929929167ab2049d95c18951a875f99841a647bff

def wordyCharge : Recorded where
  form := cognition opsIdentity (spent "abc") "ops:notes" 0 none opsMandate.digest
  sealed := some (opsKey, signatureText
    0x0340eec050aef8bd8994e389b34f94521d4cd0e33b6e6b4cf2c3db35ba62a1b9
    0x5bc0203e3dc1e8f3345a8dd7a8b26378cd0439e2f67597a92414cc05e83e6d01)
  digest := hex 64 0x6faa660250a6e35043b9de7a872c6d845bcc009375cc09a3dc35b624d1ff7f0e

def nextCharge : Recorded where
  form := cognition opsIdentity (spent "1") "ops:notes" 1 (some wordyCharge.digest) opsMandate.digest
  sealed := some (opsKey, signatureText
    0xed47f84f9d38048e4a509f653d75969f7eab691dd314156fd3d830373fba7ff5
    0x1df69df9b4c51a61b4c150834753fbad00d7eb6abcf8027bd7edaa2ee0c1240e)
  digest := hex 64 0x9fd5c029bfd92541da3f40e15392b5e1b4d7df3621e83465c08dbecb9e8300f8

def newName : Recorded where
  form := fun _ => .object [("key", .string miraKey), ("subject", .string "human:mina")]
  sealed := none
  digest := hex 64 0x57b76ee80ea5d2522c16e7d0ba82639c3982e36a260a5113c6067316d8cc6ca4

def renameRequest : Recorded where
  form := request "human:ana" anaKey anaMandate.digest "kernel.enroll_root" ("root:" ++ miraKey)
      newName.digest 'a'
  sealed := none
  digest := hex 64 0x7b1d43ece5f3af20122a694b3a6c08eeaf37c75de6a8f7f1f8475b2c00203275

def renameApproval : Recorded where
  form := decision renameRequest.digest "approve" none evening
  sealed := some (miraKey, signatureText
    0xba90fa66f95cdf789121188c781455b60919915d1c8a097e2cab2a1669b1a6e1
    0x7b59584b412d72f535bfe99dca6f63ec56bc9550f310bf7a2cc3bf023926e100)
  digest := hex 64 0xe55bbf74fa1e48d7f1c3c2b5a101dcd36d41a3103b6305d9b5e259734284e107

def renameEffect : Recorded where
  form := effect "effect" anaIdentity "kernel:core" 3 (some anaGrant.digest) anaMandate.digest
      renameRequest.document
      renameApproval.document nine
  sealed := some (anaKey, signatureText
    0xa4f39972790960ac0e0ddcdb1e50dbaadb68fd09b91b110e35a670b355d99183
    0xceafa3713ed1dc7c7e1b26927c5233ad2f7d92a435f77d7b610018577175ec0a)
  digest := hex 64 0x13cbb2079b876171e35e5915615ed634ef937d721e1e12d7d9939042699dc22f

def opsGrantBody : Value := submission opsGrant.document []
def policyChangeBody : Value := submission policyChange.document [policy]
def firstNoteBody : Value := submission firstNote.document []
def firstResumeBody : Value := submission firstResumeEffect.document [firstResume]
def secondResumeBody : Value := submission secondResumeEffect.document [secondResume]
def bridgedNoteBody : Value := submission bridgedNote.document []
def bridgedTwiceBody : Value := submission bridgedTwice.document []
def refillNoteBody : Value := submission refillNote.document []
def anaGrantBody : Value := submission anaGrant.document []
def mintedGrantBody : Value := submission mintedGrant.document []
def adoptedGrantBody : Value := submission adoptedGrant.document []
def lateNoteBody : Value := submission lateNote.document []
def revocationBody : Value := submission opsRevoked.document []
def retireBody : Value := submission retireEffect.document [retirement]
def denialBody : Value := submission denialEnvelope.document []
def mergeBody : Value := submission mergeEffect.document []
def secretReadsBody : Value := submission secretReads.document []
def intrudingNoteBody : Value := submission intrudingNote.document []
def wordyChargeBody : Value := submission wordyCharge.document []
def nextChargeBody : Value := submission nextCharge.document []
def renameBody : Value := submission renameEffect.document [newName]

def records : List Recorded := [
  opsMandate, opsGrant, policy, policyRequest, policyApproval, policyChange, firstNote, refusedNote,
  refusedNoteBody, nextNote, nextNoteBody, futureRejection, gapRejection, firstResume, firstResumeRequest,
  firstResumeApproval, firstResumeEffect, secondResume, secondResumeRequest, secondResumeApproval,
  secondResumeEffect, bridgedNote, bridgedTwice, refillNote, anaMandate, anaGrant, mintedMandate,
  mintedGrant, adoptedMandate, adoptedGrant, lateNote, opsRevocation, opsRevoked, retirement,
  retireRequest, retireApproval, retireEffect, noArguments, mergeRequest, mergeDenial, denialEnvelope,
  mergeApproval, mergeEffect, secretReads, mergePayload, starPayload, fetchPayload, gatewayRequest,
  gatewayApproval, gatewayEffect, githubManifest, intrudingNote, wordyCharge, nextCharge, newName,
  renameRequest, renameApproval, renameEffect]

def anaId : KeyId := { text := anaKey, wellFormed := by decide +kernel }
def miraId : KeyId := { text := miraKey, wellFormed := by decide +kernel }
def opsId : KeyId := { text := opsKey, wellFormed := by decide +kernel }
def strangerId : KeyId := { text := strangerKey, wellFormed := by decide +kernel }
def orgId : KeyId := { text := orgKey, wellFormed := by decide +kernel }
def kernelId : KeyId := { text := kernelKey, wellFormed := by decide +kernel }

def ext : External := external records

def config : Config where
  policyKey := orgId
  maxFutureSkewSeconds := 300
  kernelCoreStream := "kernel:core"
  rejectionStream := "kernel:rejections"
  kernelKey := signingKey records kernelId

def submitted (body : Value) (receivedAt : String) : Submission where
  raw := .canonical { tree := body }
  submittedBy := some "agent:ops"
  receivedAt := receivedAt

/-- A submission that nothing comes between. -/
def enter (body : Value) (receivedAt : String) : List Action :=
  [.submit (submitted body receivedAt), .perform 0, .perform 0]

def granting : List Action :=
  [.seed anaId "human:ana" nine, .seed miraId "human:mira" nine] ++ enter opsGrantBody nine

def founding : List Action :=
  granting ++ enter policyChangeBody nine

/-- The first policy change, submitted twice before it is validated. -/
def twice : List Action :=
  granting ++ [.submit (submitted policyChangeBody nine), .submit (submitted policyChangeBody nine),
    .perform 0, .perform 1, .perform 0, .perform 0]

/-- Two notes are refused, one for its clock and the next for the gap it leaves, and a resume of the first
position waits to be appended. -/
def resuming : List Action :=
  founding ++ enter firstNoteBody nine ++ enter refusedNoteBody.document nine ++
    enter nextNoteBody.document nine ++ [.perform 0, .submit (submitted firstResumeBody nine), .perform 0]

/-- The resume is taken, and three notes wait: the second one again, one bridged over the first refused
position, and another one for that position. -/
def resumed : List Action :=
  resuming ++ [.perform 0, .submit (submitted nextNoteBody.document nine), .perform 0,
    .submit (submitted bridgedNoteBody nine), .perform 1, .submit (submitted refillNoteBody nine), .perform 2]

/-- The second position is resumed too, and a note bridged over it waits. -/
def resumedTwice : List Action :=
  resumed ++ [.submit (submitted secondResumeBody nine), .perform 3, .perform 3,
    .submit (submitted bridgedTwiceBody nine), .perform 3]

/-- Mandates of two humans, and a note that waits to be appended. -/
def delegating : List Action :=
  founding ++ enter anaGrantBody nine ++ enter mintedGrantBody nine ++ enter adoptedGrantBody nine ++
    [.submit (submitted lateNoteBody halfPast), .perform 0]

def revoking : List Action :=
  delegating ++ [.submit (submitted revocationBody halfPast), .perform 1, .perform 1]

def retiring : List Action :=
  revoking ++ [.submit (submitted retireBody halfPast), .perform 1, .perform 1]

def denying : List Action :=
  founding ++ [.park mergeRequest.document "agent:ops" nine none] ++ enter denialBody nine

/-- Where a run leads. Only the kernel evaluates it. -/
@[irreducible] def after (actions : List Action) : World :=
  (kernel ext config).run .initial actions

def planAt (world : World) (index : Nat) : Option AppendPlan :=
  match world.tasks[index]? with
  | some (.append _ _ validated) => some validated.plan
  | _ => none

def freshPlan (checked : Result Either) : Option AppendPlan :=
  match checked with
  | .ok (.fresh validated) => some validated.plan
  | _ => none

def refusal {α : Type} (checked : Result α) : Option String :=
  match checked with
  | .ok _ => none
  | .error error => some error.code

theorem run_initial (actions : List Action) : (kernel ext config).run .initial actions = after actions := by
  unfold after
  rfl

theorem run_after (actions later : List Action) :
    (kernel ext config).run (after actions) later = after (actions ++ later) := by
  rw [← run_initial, ← run_initial, System.run_append]

theorem step_after (actions : List Action) (action : Action) :
    World.step ext config (after actions) action = after (actions ++ [action]) :=
  run_after actions [action]

theorem reachable (actions : List Action) : (kernel ext config).Reachable (after actions) :=
  ⟨.initial, actions, rfl, run_initial actions⟩

theorem accepted_mono (actions later : List Action) :
    (after actions).accepted <+: (after (actions ++ later)).accepted := by
  rw [← run_after]
  exact World.run_accepted_grows _ later

theorem only_action {action other : Action} {before later : List Action}
    (split : [action] = before ++ other :: later) : other = action := by
  have member : other ∈ [action] := by
    rw [split]
    exact List.mem_append_right _ List.mem_cons_self
  exact List.mem_singleton.mp member

/-- What a step of a run takes is among what the run takes. -/
theorem taken_in_run {actions before later : List Action} {action : Action}
    (split : actions = before ++ action :: later) {taken : Accepted}
    (grown : (World.step ext config (after before) action).accepted = (after before).accepted ++ [taken]) :
    taken ∈ (after actions).accepted := by
  have whole := accepted_mono (before ++ [action]) later
  rw [List.append_assoc, List.singleton_append, ← split] at whole
  refine whole.subset ?_
  rw [← step_after, grown]
  exact List.mem_append_right _ List.mem_cons_self

/-- The one envelope a run takes more than a shorter one. -/
theorem last_taken {β : Type} {actions later : List Action} {view : Accepted → β} (values : List β)
    {value : β} (seen : (after (actions ++ later)).accepted.map view = values ++ [value])
    (before : (after actions).accepted.length = values.length) :
    ∃ taken, (after (actions ++ later)).accepted = (after actions).accepted ++ [taken] ∧ view taken = value := by
  obtain ⟨rest, grown⟩ := accepted_mono actions later
  rw [← grown, List.map_append] at seen
  have parts := List.append_inj_right seen (by rw [List.length_map, before])
  cases rest with
  | nil => cases parts
  | cons taken others =>
      rw [List.map_cons, List.cons.injEq, List.map_eq_nil_iff] at parts
      obtain ⟨same, rfl⟩ := parts
      exact ⟨taken, grown.symm, same⟩

theorem planAt_eq_some {world : World} {index : Nat} {plan : AppendPlan} (found : planAt world index = some plan) :
    ∃ request snapshot validated, world.tasks[index]? = some (.append request snapshot validated) ∧
      validated.plan = plan := by
  unfold planAt at found
  split at found
  · rename_i request snapshot validated task
    cases found
    exact ⟨request, snapshot, validated, task, rfl⟩
  · cases found

theorem freshPlan_eq_some {checked : Result Either} {plan : AppendPlan} (found : freshPlan checked = some plan) :
    ∃ validated, checked = .ok (.fresh validated) ∧ validated.plan = plan := by
  unfold freshPlan at found
  split at found
  · rename_i validated
    cases found
    exact ⟨validated, rfl, rfl⟩
  · cases found

theorem refusal_eq_none {α : Type} {checked : Result α} : refusal checked = none ↔ isOk checked = true := by
  cases checked with
  | ok value => exact ⟨fun _ => rfl, fun _ => rfl⟩
  | error error =>
      refine ⟨?_, ?_⟩ <;> intro absurdity <;> cases absurdity

theorem refusal_eq_some {α : Type} {checked : Result α} {code : String} (refused : refusal checked = some code) :
    ∃ error, checked = .error error ∧ error.code = code := by
  cases checked with
  | ok value => cases refused
  | error error => exact ⟨error, rfl, Option.some.inj refused⟩

/-- What is seen of a mandate that was granted. -/
structure Granted where
  kind : Option String
  parent : Option String
  grantor : Option KeyId
  holder : Option KeyId
  subject : Option String
  roots : List KeyId
  deriving DecidableEq

def granted (taken : Accepted) : Option Granted :=
  taken.plan.projections.mandate.map fun (_, mandate) => {
    kind := mandate.getStr "mandate-kind"
    parent := mandate.getStr "parent"
    grantor := (Mandate.keyAt mandate "grantor").toOption
    holder := (Mandate.keyAt mandate "grantee").toOption
    subject := (mandate.index "grantee").getStr "subject"
    roots := rootKeysAt taken.snapshot (emittedAt taken.plan.envelope) }

/-- What is seen of a revocation that was accepted. -/
structure Revoked where
  target : Option String
  instant : Option String
  signer : Option KeyId
  deriving DecidableEq

def revoked (taken : Accepted) : Option Revoked :=
  taken.plan.projections.revocation.map fun (_, object) => {
    target := object.getStr "revokes"
    instant := object.getStr "revoked-at"
    signer := (Signed.verifySignedObject ext object).toOption }

/-- What is seen of an append that waits, and of what comes of it. -/
structure Offered where
  stream : String
  seq : Nat
  prevHash : Option String
  envelope : Value
  known : Bool
  refusal : Option String
  deriving DecidableEq

def offered (world : World) (index : Nat) : Option Offered :=
  (planAt world index).map fun plan => {
    stream := plan.stream
    seq := plan.seq
    prevHash := plan.prevHash
    envelope := plan.envelope
    known := (world.store.envelopeById plan.id).isSome
    refusal := refusal (world.store.append plan) }

/-- What is seen of a stream with refused positions. -/
structure StreamSeen where
  bridgeable : Nat
  head : Option (Nat × String)
  refused : List (Option String × Option Nat × String)
  resumes : List StreamResume
  bridges : List (Option String)
  deriving DecidableEq

def streamSeen (world : World) : StreamSeen where
  bridgeable := world.store.bridgeableAt "ops:notes"
  head := world.store.streamHead "ops:notes"
  refused := world.store.rejections.map fun row => (row.claimedStream, row.claimedSeq, row.objectHash)
  resumes := world.accepted.filterMap fun taken => taken.plan.projections.streamResume
  bridges := [world.store.streamResume "ops:notes" 1, world.store.streamResume "ops:notes" 2]

/-- What is seen of whose keys count. -/
structure KeysSeen where
  roots : List (KeyId × String)
  granted : List Granted
  revoked : List Revoked
  approvers : List Gate.Approver
  deriving DecidableEq

def keysSeen (world : World) : KeysSeen where
  roots := world.store.rootsAt halfPast
  granted := world.accepted.filterMap granted
  revoked := world.accepted.filterMap revoked
  approvers := approverKeys world.store ["human:ana"] halfPast "kernel.note"

def roots : List (KeyId × String) :=
  [(anaId, "human:ana"), (miraId, "human:mira")]

def opsGranted : Granted where
  kind := some "interactive"
  parent := none
  grantor := some anaId
  holder := some opsId
  subject := some "agent:ops"
  roots := [anaId, miraId]

def anaGranted : Granted where
  kind := some "interactive"
  parent := none
  grantor := some miraId
  holder := some anaId
  subject := some "human:ana"
  roots := [anaId, miraId]

def mintedGranted : Granted where
  kind := some "delegated"
  parent := some opsMandate.digest
  grantor := some opsId
  holder := some strangerId
  subject := some "human:ana"
  roots := [anaId, miraId]

def adoptedGranted : Granted where
  kind := some "delegated"
  parent := some opsMandate.digest
  grantor := some opsId
  holder := some miraId
  subject := some "human:ana"
  roots := [anaId, miraId]

def opsRevokedBy : Revoked where
  target := some opsMandate.digest
  instant := some quarterPast
  signer := some miraId

def anaApproves : Gate.Approver := .named anaId "human:ana"
def strangerApproves : Gate.Approver := .named strangerId "human:ana"
def miraApproves : Gate.Approver := .named miraId "human:ana"

def refusals : List (Option String × Option Nat × String) :=
  [(some "ops:notes", some 1, refusedNoteBody.digest), (some "ops:notes", some 2, nextNoteBody.digest)]

def resumeOf (position : Nat) (refused : Recorded) : StreamResume where
  stream := "ops:notes"
  resumeSeq := position
  bridgeHash := refused.digest
  reasonCode := "emitter-clock"

def secretRead : ClassifyInput where
  subject := "agent:ops"
  action := "github.read_secret"
  resource := "-"
  manifestClass := none

/-- What is seen of the runs. -/
structure Observed where
  taken : List String
  answered : List Outcome
  waiting : Nat
  received : Option String
  stored : Bool
  founders : KeysSeen
  retirements : List KeyId
  folded : Option (Value × Option String)
  folding : Option Decision
  answeredTwice : List (Bool × Outcome)
  published : Nat
  resumeValidated : Option (Option StreamResume)
  refused : StreamSeen
  opened : StreamSeen
  bridging : StreamSeen
  chained : Option Offered
  bridged : Option Offered
  broken : Option String × Option String
  filled : List (String × Nat)
  refilled : List (String × Nat)
  bothResumed : StreamSeen
  bridgedPast : Option Offered
  minted : KeysSeen
  compromised : KeysSeen
  issued : Option (Option String)
  unknown : Bool
  holders : List (String × Option KeyId)
  mintedLine : Option (Option String × Option KeyId)
  revocations : List (String × String)
  takenBefore : Nat
  lateTaken : List Value
  lateValidated : Option Value
  retired : Option (Value × Bool)
  denied : Nat × Nat × List (String × String)
  merged : List Value
  deriving DecidableEq

def observed : Observed where
  taken := (after founding).accepted.map fun taken => taken.plan.id
  answered := (after founding).answers.map Answer.outcome
  waiting := (after founding).tasks.length
  received := (receive ext (submitted policyChangeBody nine).raw).toOption.map Received.id
  stored := ((after founding).store.envelopeById policyChange.digest).isSome
  founders := keysSeen (after founding)
  retirements := (after founding).accepted.filterMap fun taken => taken.plan.projections.retireRoot
  folded := (freshPlan (validate ext config (after founding).store (submitted secretReadsBody nine).raw
    nine)).map fun plan => (plan.envelope, plan.policyViolation)
  folding := ((policyInForce ext config (after founding).store).toOption.bind id).map fun policy =>
    policy.decisionFor (policy.classify secretRead) "github.read_secret"
  answeredTwice := (after twice).answers.map fun answer =>
    (decide (answer.request.raw = (submitted policyChangeBody nine).raw), answer.outcome)
  published := (after resuming).store.policies.length
  resumeValidated := (freshPlan (validate ext config (after resuming).store (submitted firstResumeBody nine).raw
    nine)).map fun plan => plan.projections.streamResume
  refused := streamSeen (after resuming)
  opened := streamSeen (after (resuming ++ [.perform 0]))
  bridging := streamSeen (after resumed)
  chained := offered (after resumed) 0
  bridged := offered (after resumed) 1
  broken := let world := after (resumed ++ [.perform 1])
    (refusal (world.store.verifyStream ext "ops:notes"),
      refusal (world.store.verifyEveryChain ext config.rejectionStream))
  filled := (after resumed).accepted.map fun taken => (taken.plan.stream, taken.plan.seq)
  refilled := (after (resumed ++ [.perform 2])).accepted.map fun taken => (taken.plan.stream, taken.plan.seq)
  bothResumed := streamSeen (after resumedTwice)
  bridgedPast := offered (after resumedTwice) 3
  minted := keysSeen (after delegating)
  compromised := keysSeen (after revoking)
  issued := ((after revoking).store.mandate opsMandate.digest).map fun mandate =>
    mandate.getStr "issued-at"
  unknown := ((after revoking).store.envelopeById lateNote.digest).isNone
  holders := (after revoking).store.mandates.map fun row =>
    (row.mandateId, (Mandate.keyAt row.documentJson.tree "grantee").toOption)
  mintedLine := ((after revoking).store.mandate mintedMandate.digest).map fun mandate =>
    (mandate.getStr "parent", (Mandate.keyAt mandate "grantor").toOption)
  revocations := (after revoking).store.revocations.map fun row => (row.revokes, row.revokedAt)
  takenBefore := (after revoking).accepted.length
  lateTaken := (after (revoking ++ [.perform 0])).accepted.map fun taken => taken.plan.envelope
  lateValidated := (freshPlan (validate ext config (after retiring).store (submitted lateNoteBody halfPast).raw
    halfPast)).map fun plan => plan.envelope
  retired := (after retiring).accepted.getLast?.map fun taken =>
    (taken.plan.envelope, taken.snapshot.mandates.any fun row =>
      row.granteeKey == miraKey && row.granteeSubject == "human:ana" && Store.liveAt twelvePast row)
  denied := ((after denying).tasks.length, (after denying).accepted.length,
    (after denying).store.gateDecisions.map fun row => (row.requestHash, row.verdict))
  merged := (after (denying ++ enter mergeBody nine)).accepted.map fun taken => taken.plan.envelope

/-- One evaluation of the runs, which they share. -/
theorem observed_eq : observed = {
  taken := [opsGrant.digest, policyChange.digest]
  answered := [
    .accepted { id := opsGrant.digest, stream := "kernel:core", seq := 0, idempotent := false },
    .accepted { id := policyChange.digest, stream := "kernel:core", seq := 1, idempotent := false }]
  waiting := 0
  received := some policyChange.digest
  stored := true
  founders := {
    roots := roots, granted := [opsGranted], revoked := [], approvers := [anaApproves] }
  retirements := []
  folded := some (secretReads.document, none)
  folding := some .deny
  answeredTwice := [
    (false, .accepted { id := opsGrant.digest, stream := "kernel:core", seq := 0, idempotent := false }),
    (true, .accepted { id := policyChange.digest, stream := "kernel:core", seq := 1, idempotent := false }),
    (true, .rejected "policy-version-reused" "policy version 1 has already been published")]
  published := 1
  resumeValidated := some (some (resumeOf 1 refusedNoteBody))
  refused := {
    bridgeable := 2, head := some (0, firstNote.digest), refused := refusals, resumes := []
    bridges := [none, none] }
  opened := {
    bridgeable := 2, head := some (0, firstNote.digest), refused := refusals
    resumes := [resumeOf 1 refusedNoteBody], bridges := [some refusedNoteBody.digest, none] }
  bridging := {
    bridgeable := 2, head := some (0, firstNote.digest), refused := refusals
    resumes := [resumeOf 1 refusedNoteBody], bridges := [some refusedNoteBody.digest, none] }
  chained := some {
    stream := "ops:notes", seq := 2, prevHash := some refusedNote.digest, envelope := nextNote.document
    known := false, refusal := some "chain-seq-gap" }
  bridged := some {
    stream := "ops:notes", seq := 2, prevHash := some refusedNoteBody.digest
    envelope := bridgedNote.document, known := false, refusal := none }
  broken := (some "chain-seq-gap", some "chain-seq-gap")
  filled := [("kernel:core", 0), ("kernel:core", 1), ("ops:notes", 0), ("kernel:core", 2)]
  refilled := [
    ("kernel:core", 0), ("kernel:core", 1), ("ops:notes", 0), ("kernel:core", 2), ("ops:notes", 1)]
  bothResumed := {
    bridgeable := 2, head := some (0, firstNote.digest), refused := refusals
    resumes := [resumeOf 1 refusedNoteBody, resumeOf 2 nextNoteBody]
    bridges := [some refusedNoteBody.digest, some nextNoteBody.digest] }
  bridgedPast := some {
    stream := "ops:notes", seq := 3, prevHash := some nextNoteBody.digest
    envelope := bridgedTwice.document, known := false, refusal := some "chain-seq-gap" }
  minted := {
    roots := roots, granted := [opsGranted, anaGranted, mintedGranted, adoptedGranted], revoked := []
    approvers := [anaApproves, strangerApproves, miraApproves] }
  compromised := {
    roots := roots, granted := [opsGranted, anaGranted, mintedGranted, adoptedGranted]
    revoked := [opsRevokedBy], approvers := [anaApproves, strangerApproves, miraApproves] }
  issued := some (some nine)
  unknown := true
  holders := [
    (opsMandate.digest, some opsId), (anaMandate.digest, some anaId),
    (mintedMandate.digest, some strangerId), (adoptedMandate.digest, some miraId)]
  mintedLine := some (some opsMandate.digest, some opsId)
  revocations := [(opsMandate.digest, quarterPast)]
  takenBefore := 6
  lateTaken := [
    opsGrant.document, policyChange.document, anaGrant.document, mintedGrant.document,
    adoptedGrant.document, opsRevoked.document, lateNote.document]
  lateValidated := some lateNote.document
  retired := some (retireEffect.document, true)
  denied := (0, 3, [(mergeRequest.digest, "deny")])
  merged := [
    opsGrant.document, policyChange.document, denialEnvelope.document, mergeEffect.document] } := by
  decide +kernel

theorem grant_seen {world : World} {taken : Accepted} (member : taken ∈ world.accepted) {id : String}
    {mandate : Value} (projected : taken.plan.projections.mandate = some (id, mandate)) :
    { kind := mandate.getStr "mandate-kind", parent := mandate.getStr "parent"
      grantor := (Mandate.keyAt mandate "grantor").toOption
      holder := (Mandate.keyAt mandate "grantee").toOption
      subject := (mandate.index "grantee").getStr "subject"
      roots := rootKeysAt taken.snapshot (emittedAt taken.plan.envelope) } ∈ (keysSeen world).granted := by
  refine List.mem_filterMap.mpr ⟨taken, member, ?_⟩
  unfold granted
  rw [projected]
  rfl

section Gateway

def gatewayConfig : Gateway.GatewayConfig where
  component := "gateway"
  correlationRef := none
  roots := [{ subject := "human:ana", key := anaId }, { subject := "human:mira", key := miraId }]

def opsSession : Gateway.Session where
  subject := "agent:ops"
  key := signingKey records opsId
  mandateRef := opsMandate.digest
  stream := "gateway:ops"

def inForce : Gateway.Policy where
  document := policy.document

def toolCall (tool : String) : Gateway.Call where
  server := "github"
  tool := tool
  arguments := .object []
  schema := .object []

/-- The tiers of a gateway with these manifests registered. -/
def tiers (manifests : List (String × Value)) : Gateway.Classifier where
  scopes := []
  manifests := manifests
  shipped := [("github", { scope := "github", tools := [("star", "benign"), ("merge", "consequential")] })]
  orgSeeded _ _ := none
  lower := id

def shapeless (_ : Value) : Result Unit := .ok ()

def readAt (now : String) : Gateway.Reading where
  now := now
  later := now
  createdAt := now
  fresh := String.ofList (List.replicate 32 '9')
  returned := .result

end Gateway

end Deployment

end Stozher
