import SelectiveDisclosure.Attested.Issuance
import SelectiveDisclosure.Ledger.Basic

/-!
Verification of credentials. First the documents are checked on their own: schemas, salts,
commitments and root hash. Then the attestation is looked up on the ledger and compared with the
credential, and last every entry of the trust model is resolved, an embedded credential by
verifying it in turn. Whether an attestation was revoked later is a question of its own.
-/

namespace SelectiveDisclosure

inductive TrustOutcome where
  | legitimationVerified (id : CredentialId) (attester : Did)
  | legitimationAssumed (id : CredentialId)
  | delegationVerified (id : DelegationId) (owner : Did)
  deriving DecidableEq

namespace TrustOutcome

def name : TrustOutcome → String
  | legitimationVerified .. => "legitimationVerified"
  | legitimationAssumed .. => "legitimationAssumed"
  | delegationVerified .. => "delegationVerified"

def toJson : TrustOutcome → Json
  | legitimationVerified id attester => .obj [
    ("outcome", .str "legitimationVerified"), ("id", .ofText id), ("attester", .ofText attester)]
  | legitimationAssumed id => .obj [("outcome", .str "legitimationAssumed"), ("id", .ofText id)]
  | delegationVerified id owner => .obj [
    ("outcome", .str "delegationVerified"), ("id", .ofText id), ("owner", .ofText owner)]

end TrustOutcome

structure Report where
  rootHash : Hash256
  attester : Did
  ctypeId : CTypeId
  block : Hash256
  timestamp : Timestamp
  trust : List TrustOutcome
  deriving DecidableEq

def Report.toJson (r : Report) : Json := .obj [
  ("rootHash", .ofText r.rootHash),
  ("attester", .ofText r.attester),
  ("ctypeId", .ofText r.ctypeId),
  ("block", .ofText r.block),
  ("timestamp", .ofText r.timestamp),
  ("trust", .arr (r.trust.map TrustOutcome.toJson))]

namespace Ledger

def ask {α : Type} (r : Except LedgerError α) : Verified α := r.mapError .ledger

def fetchNode (l : Ledger) (id : Hash256) : Verified DelegationNode := do
  match ← ask (l.delegationNode id) with
  | some node => return node
  | none => throw (.notFound (.delegationNode id))

def hierarchyLimit : Nat := 64

def ownersUpward (l : Ledger) : Nat → Option Hash256 → Verified (List Did)
  | _, none => .ok []
  | 0, some _ => .error (.unverifiable (.hierarchyTooDeep hierarchyLimit))
  | remaining + 1, some id => do
    let node ← l.fetchNode id
    return node.owner :: (← l.ownersUpward remaining node.parent)

def ancestorOwners (l : Ledger) (node : DelegationNode) : Verified (List Did) := do
  return (← l.ownersUpward hierarchyLimit node.parent).reverse

end Ledger

namespace VerifiableCredential

def checkCommitments (commitments : List Hash256) :
    List ((Statement × Hash256) × Entropy) → Verified Unit
  | [] => .ok ()
  | ((s, digest), salt) :: rest =>
    if Commitment.commitment salt digest ∈ commitments then checkCommitments commitments rest
    else .error (.unverifiable (.missingCommitment s.key digest))

def verifyOffline (c : VerifiableCredential) (proof : AttestationProof) : Verified Hash256 := do
  (Schema.validateProof proof.toJson).mapError fun e => .shape (.schema e)
  (Schema.validateCredential c.toJson).mapError fun e => .shape (.schema e)
  let normalized ← c.normalizedClaims
  if normalized.length ≠ proof.salts.length then
    throw (.unverifiable (.saltCount normalized.length proof.salts.length))
  let salts ← proof.decodedSalts
  let commitments ← proof.decodedCommitments
  checkCommitments commitments (normalized.zip salts)
  let expected ← c.rootHash
  let computed := Commitment.rootHashOf commitments c.trustInputs
  if computed ≠ expected then throw (.unverifiable (.rootHash expected computed))
  return expected

def checkChain (c : VerifiableCredential) (l : Ledger) : Verified Unit := do
  let some status := c.status | throw (.shape .credentialWithoutStatus)
  let chain := ChainId.ofGenesis l.genesis
  if status.id.chain ≠ chain then
    throw (.mismatch .statusId status.id.chain.toString chain.toString)
  let rootHash ← c.rootHash
  if status.id.rootHash ≠ rootHash then
    throw (.mismatch .statusId rootHash.toHex status.id.rootHash.toHex)

structure Attested where
  rootHash : Hash256
  block : Hash256
  event : AttestationEvent
  timestamp : Timestamp

/-- Everything but the trust model. -/
def findAttestation (c : VerifiableCredential) (proof : AttestationProof) (l : Ledger) :
    Verified Attested := do
  let rootHash ← c.verifyOffline proof
  let block ← proof.blockHash
  c.checkChain l
  let some event ← Ledger.ask (l.eventAt block rootHash)
    | throw (.notFound (.event rootHash proof.block))
  if event.attester ≠ c.issuer then
    throw (.mismatch .issuer c.issuer.text event.attester.text)
  if event.ctypeHash ≠ c.schema.id.hash then
    throw (.mismatch .schemaId c.schema.id.toString (CTypeId.mk event.ctypeHash).toString)
  let timestamp ← Timestamp.ofBlock event.timestamp (.eventOutOfRange event.timestamp)
  let some issued := c.issuanceDate | throw (.shape .credentialWithoutDate)
  if issued.roundedSeconds ≠ timestamp.roundedSeconds then
    throw (.mismatch .issuanceDate timestamp.toIso8601 issued.toIso8601)
  let delegation := (← c.delegation).map (·.nodeId)
  if event.authorizationId ≠ delegation then
    throw (.mismatch .authorizationId (Attestation.show? delegation)
      (Attestation.show? event.authorizationId))
  return { rootHash, block, event, timestamp }

end VerifiableCredential

namespace TrustEntry

def showDids (dids : List Did) : String := "[" ++ ", ".intercalate (dids.map (·.text)) ++ "]"

def resolveDelegation (l : Ledger) (event : AttestationEvent) (id : DelegationId)
    (delegators : Option (List Did)) : Verified TrustOutcome := do
  let node ← l.fetchNode id.nodeId
  if node.revoked then throw (.revoked (.delegation id))
  if event.authorizationId ≠ some id.nodeId then
    throw (.mismatch .authorizationId id.nodeId.toHex (Attestation.show? event.authorizationId))
  if let some expected := delegators then
    let actual ← l.ancestorOwners node
    if actual ≠ expected then
      throw (.mismatch .delegators (showDids expected) (showDids actual))
  return .delegationVerified id node.owner

def embeddedProof (id : CredentialId) (c : VerifiableCredential) : Verified AttestationProof := do
  if c.id ≠ some id then
    throw (.mismatch .legitimationId id.toString
      (match c.id with
        | some id => id.toString
        | none => "none"))
  match c.proof with
  | some proof => return proof
  | none => throw (.shape (.legitimationWithoutProof id))

end TrustEntry

namespace VerifiableCredential

mutual

def verify (l : Ledger) : VerifiableCredential → AttestationProof → Verified Report
  | ⟨contexts, types, id, subject, schema, status, issuer, issuanceDate, nonTransferable,
      trustModel, embedded⟩, proof => do
    let found ← findAttestation ⟨contexts, types, id, subject, schema, status, issuer,
      issuanceDate, nonTransferable, trustModel, embedded⟩ proof l
    let trust ← resolveAll l found.event trustModel
    return {
      rootHash := found.rootHash
      attester := found.event.attester
      ctypeId := ⟨found.event.ctypeHash⟩
      block := found.block
      timestamp := found.timestamp
      trust }

def resolveAll (l : Ledger) (event : AttestationEvent) :
    List (TrustEntry VerifiableCredential) → Verified (List TrustOutcome)
  | [] => .ok []
  | e :: rest => do
    let outcome ← resolveEntry l event e
    return outcome :: (← resolveAll l event rest)

/-- An embedded credential is verified with its own proof; an id alone is taken as it is. -/
def resolveEntry (l : Ledger) (event : AttestationEvent) :
    TrustEntry VerifiableCredential → Verified TrustOutcome
  | .legitimation id (some c) => do
    let proof ← TrustEntry.embeddedProof id c
    let report ← verify l c proof
    return .legitimationVerified id report.attester
  | .legitimation id none => .ok (.legitimationAssumed id)
  | .delegation id delegators => TrustEntry.resolveDelegation l event id delegators

end

def checkStatus (c : VerifiableCredential) (l : Ledger) : Verified Attestation := do
  let rootHash ← c.rootHash
  let some record ← Ledger.ask (l.attestation rootHash)
    | throw (.notFound (.attestation rootHash))
  if record.revoked then throw (.revoked (.attestation rootHash))
  if record.owner ≠ c.issuer then throw (.mismatch .issuer c.issuer.text record.owner.text)
  if record.ctypeHash ≠ c.schema.id.hash then
    throw (.mismatch .ctypeHash c.schema.id.hash.toHex record.ctypeHash.toHex)
  return record

def verifyCurrent (c : VerifiableCredential) (l : Ledger) : Verified Report := do
  let some proof := c.proof | throw (.shape .credentialWithoutProof)
  let report ← verify l c proof
  let _ ← c.checkStatus l
  return report

end VerifiableCredential

end SelectiveDisclosure
