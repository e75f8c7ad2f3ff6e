import SelectiveDisclosure.Attested.Proof

/-!
Verifiable credentials. A credential names its subject, its claim type and its issuer, and holds the
trust model that backs the issuer: other credentials, by id or in full, and a delegation node. When
it is finalized it has an id made of its root hash, a status, a date and a proof.
-/

namespace SelectiveDisclosure

inductive TrustEntry (γ : Type) where
  | legitimation (id : CredentialId) (credential : Option γ)
  | delegation (id : DelegationId) (delegators : Option (List Did))

namespace TrustEntry

variable {γ : Type}

def rootHashInput : TrustEntry γ → Hash256
  | legitimation id _ => id.rootHash
  | delegation id _ => id.nodeId

def delegationId? : TrustEntry γ → Option DelegationId
  | legitimation _ _ => none
  | delegation id _ => some id

end TrustEntry

structure SchemaReference where
  id : CTypeId
  schemaType : String
  deriving DecidableEq

structure StatusReference where
  id : AttestationStatusId
  statusType : String
  deriving DecidableEq

structure VerifiableCredential where
  contexts : List String
  types : List String
  id : Option CredentialId
  subject : OrderedMap String Json
  schema : SchemaReference
  status : Option StatusReference
  issuer : Did
  issuanceDate : Option Timestamp
  nonTransferable : Bool
  trustModel : List (TrustEntry VerifiableCredential)
  proof : Option AttestationProof

namespace VerifiableCredential

def w3cContext : String := "https://www.w3.org/2018/credentials/v1"
def kiltContext : String := "https://www.kilt.io/contexts/credentials"
def genericType : String := "VerifiableCredential"
def kiltType : String := "KiltCredentialV1"
def schemaType : String := "JsonSchema2023"
def statusType : String := "KiltRevocationStatusV1"

def rootHash (c : VerifiableCredential) : Verified Hash256 :=
  match c.id with
  | some id => .ok id.rootHash
  | none => .error (.shape .credentialWithoutId)

def trustInputs (c : VerifiableCredential) : List Hash256 := c.trustModel.map (·.rootHashInput)

def delegation (c : VerifiableCredential) : Verified (Option DelegationId) :=
  match c.trustModel.filterMap (·.delegationId?) with
  | [] => .ok none
  | [id] => .ok (some id)
  | _ => .error (.shape .severalDelegations)

end VerifiableCredential

inductive Legitimation where
  | embedded (credential : VerifiableCredential)
  | named (id : CredentialId)

structure CredentialInput where
  subject : Did
  claims : OrderedMap String Json
  ctypeHash : Hash256
  issuer : Did
  legitimations : List Legitimation
  delegationId : Option Hash256

namespace Legitimation

def toEntry : Legitimation → Verified (TrustEntry VerifiableCredential)
  | embedded c =>
    match c.id with
    | some id => .ok (.legitimation id (some c))
    | none => .error (.shape .legitimationWithoutId)
  | named id => .ok (.legitimation id none)

end Legitimation

namespace CredentialInput

def reservedKeys : List String := ["@context", "id", "@id", "type", "@type"]

def credentialSubject (input : CredentialInput) : OrderedMap String Json :=
  (input.claims.insert "@context"
    (.obj [("@vocab", .str (CTypeId.mk input.ctypeHash).vocabulary)])).insert "id"
      (.str input.subject.text)

def toCredential (input : CredentialInput) : Verified VerifiableCredential := do
  if let some key := input.claims.keys.find? (· ∈ reservedKeys) then
    throw (.shape (.reservedKey key))
  let entries ← input.legitimations.mapM (·.toEntry)
  let delegations := input.delegationId.toList.map fun id => TrustEntry.delegation ⟨id⟩ none
  return {
    contexts := [VerifiableCredential.w3cContext, VerifiableCredential.kiltContext]
    types := [VerifiableCredential.genericType, VerifiableCredential.kiltType]
    id := none
    subject := input.credentialSubject
    schema := ⟨⟨input.ctypeHash⟩, VerifiableCredential.schemaType⟩
    status := none
    issuer := input.issuer
    issuanceDate := none
    nonTransferable := true
    trustModel := entries ++ delegations
    proof := none }

end CredentialInput

end SelectiveDisclosure
