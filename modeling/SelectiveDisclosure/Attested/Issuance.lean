import SelectiveDisclosure.Attested.Document
import SelectiveDisclosure.Schema.Documents

/-!
The life of a proof. It is initialized when a credential is committed to, finalized when the
attestation is in a block, and reduced when its holder discloses some properties only. Every
commitment is kept throughout, so the root hash stays the same.
-/

namespace SelectiveDisclosure

structure AttestationRequest where
  rootHash : Hash256
  ctypeHash : Hash256
  authorization : Option DelegationId
  deriving DecidableEq

namespace AttestationRequest

def toJson (r : AttestationRequest) : Json := .obj [
  ("rootHash", .ofText r.rootHash),
  ("cTypeHash", .ofText r.ctypeHash),
  ("authorization", .ofOption .ofText r.authorization)]

end AttestationRequest

structure Inclusion where
  block : Hash256
  timestamp : UInt64
  genesis : Hash256

/-- Milliseconds of a block as an instant; `fault` is reported for a number of more than 63 bits. -/
def Timestamp.ofBlock (millis : UInt64) (fault : ShapeFault) : Verified Timestamp :=
  if millis.toNat < Nat.pow 2 63 then
    match Timestamp.ofMillis? millis.toNat with
    | some t => .ok t
    | none => .error (.shape (.millisOutOfRange millis.toNat))
  else .error (.shape fault)

namespace VerifiableCredential

def normalizedClaims (c : VerifiableCredential) : Verified (List (Statement × Hash256)) :=
  (Commitment.normalizeClaims c.subject).mapError fun e => .shape (.expansion e)

def initializeProof (c : VerifiableCredential) (random : Nat → UInt8) :
    Verified (AttestationProof × AttestationRequest) := do
  let authorization ← c.delegation
  let digests := (← c.normalizedClaims).map (·.2)
  let committed := Commitment.commit digests random
  let proof : AttestationProof := {
    proofType := AttestationProof.typeName
    block := ""
    commitments := committed.commitments.map (·.toBase58)
    salts := committed.salts.map fun s => Base58.encode s.toList }
  return (proof, {
    rootHash := Commitment.rootHashOf committed.commitments c.trustInputs
    ctypeHash := c.schema.id.hash
    authorization })

def finalizeProof (c : VerifiableCredential) (proof : AttestationProof) (inclusion : Inclusion) :
    Verified (VerifiableCredential × AttestationProof) := do
  let commitments ← proof.decodedCommitments
  let rootHash := Commitment.rootHashOf commitments c.trustInputs
  let issued ← Timestamp.ofBlock inclusion.timestamp (.timestampOutOfRange inclusion.timestamp)
  let finalized := { proof with block := inclusion.block.toBase58 }
  return ({ c with
    id := some ⟨rootHash⟩
    status := some ⟨⟨ChainId.ofGenesis inclusion.genesis, rootHash⟩, statusType⟩
    issuanceDate := some issued
    proof := some finalized }, finalized)

def alwaysDisclosed : List String := ["@context", "id", "@id", "type", "@type"]

def reducedSubject (subject : OrderedMap String Json) (disclosed : List String) :
    OrderedMap String Json :=
  subject.filter fun key _ => key ∈ alwaysDisclosed || key ∈ disclosed

def keptSalts (vocabulary : String) (reduced : OrderedMap String Json)
    (normalized : List (Statement × Hash256)) (salts : List String) : List String :=
  let kept := reduced.keys.filterMap (Expanded.fullName? vocabulary)
  ((normalized.zip salts).filter fun e => e.1.1.key ∈ kept).map (·.2)

def disclose (c : VerifiableCredential) (proof : AttestationProof) (disclosed : List String) :
    Verified (VerifiableCredential × AttestationProof) := do
  if let some key := disclosed.find? fun key => !c.subject.contains key then
    throw (.shape (.noSubjectProperty key))
  let vocabulary ← (Expanded.vocabulary c.subject).mapError fun e => .shape (.expansion e)
  let normalized ← c.normalizedClaims
  if normalized.length ≠ proof.salts.length then
    throw (.unverifiable (.saltCount normalized.length proof.salts.length))
  let reduced := reducedSubject c.subject disclosed
  let derived := { proof with salts := keptSalts vocabulary reduced normalized proof.salts }
  return ({ c with subject := reduced, proof := c.proof.map fun _ => derived }, derived)

def parse (j : Json) : Verified VerifiableCredential := do
  (Schema.validateCredential j).mapError fun e => .shape (.schema e)
  (decode j).mapError fun e => .shape (.notCredential e)

end VerifiableCredential

namespace AttestationProof

/-- Reads a proof. The block may be empty; all else must decode. -/
def parse (j : Json) : Verified AttestationProof := do
  (Schema.validateProof j).mapError fun e => .shape (.schema e)
  let proof ← (decode .direct j).mapError fun e => .shape (.notProof e)
  if !proof.block.isEmpty then
    let _ ← proof.blockHash
  let _ ← proof.decodedCommitments
  let _ ← proof.decodedSalts
  return proof

end AttestationProof

end SelectiveDisclosure
