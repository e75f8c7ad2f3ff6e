import SelectiveDisclosure.Document

namespace SelectiveDisclosure

inductive ExpansionError where
  | missingVocabulary
  | repeatedProperty (expanded first second : String)
  deriving DecidableEq, Repr

def ExpansionError.message : ExpansionError → String
  | missingVocabulary => "credential subject is missing @context.@vocab"
  | repeatedProperty expanded first second =>
    s!"credential subject keys {Text.quote first} and {Text.quote second} both expand to {expanded}"

inductive StatementError where
  | noProof (key : String) (digest : Hash256)
  | invalidProof (key : String) (digest : Hash256)
  deriving DecidableEq

def StatementError.message : StatementError → String
  | noProof key digest => s!"no proof for statement {key} (digest {digest})"
  | invalidProof key digest => s!"invalid proof for statement {key} (digest {digest})"

inductive Unverifiable where
  | rootHash (expected computed : Hash256)
  | statements (causes : List StatementError)
  | saltCount (statements salts : Nat)
  | missingCommitment (key : String) (digest : Hash256)
  | hierarchyTooDeep (limit : Nat)
  deriving DecidableEq

def Unverifiable.message : Unverifiable → String
  | rootHash expected computed =>
    s!"root hash not verifiable: expected {expected}, computed {computed}"
  | statements causes =>
    s!"{causes.length} statement(s) not verifiable: "
      ++ "; ".intercalate (causes.map (·.message))
  | saltCount count salts => s!"{count} normalized statement(s) but {salts} salt(s)"
  | missingCommitment key digest => s!"no commitment for statement {key} (digest {digest})"
  | hierarchyTooDeep limit => s!"delegation hierarchy deeper than {limit} nodes"

structure Violation where
  instancePath : String
  schemaPath : String
  message : String
  deriving DecidableEq, Repr

def Violation.text (v : Violation) : String :=
  (if v.instancePath.isEmpty then "/" else v.instancePath) ++ ": " ++ v.message

structure SchemaError where
  schema : String
  violations : List Violation
  deriving DecidableEq, Repr

def SchemaError.message (e : SchemaError) : String :=
  let texts := "; ".intercalate (e.violations.map (·.text))
  s!"{e.schema} validation failed with {e.violations.length} violation(s): {texts}"

structure LedgerError where
  reason : String
  deriving DecidableEq, Repr

def LedgerError.message (e : LedgerError) : String := s!"chain query failed: {e.reason}"

inductive ShapeFault where
  | date (cause : Timestamp.DateError)
  | millisOutOfRange (millis : Int)
  | timestampOutOfRange (millis : UInt64)
  | eventOutOfRange (millis : UInt64)
  | expansion (cause : ExpansionError)
  | schema (cause : SchemaError)
  | notSaltedCredential (cause : DocumentError)
  | notCredential (cause : DocumentError)
  | notProof (cause : DocumentError)
  | noClaimHashes
  | unsortedClaimHashes (first second : Hash256)
  | emptyNonce (digest : Hash256)
  | noProperty (key : String)
  | noSubjectProperty (key : String)
  | reservedKey (key : String)
  | legitimationWithoutId
  | legitimationWithoutProof (id : CredentialId)
  | credentialWithoutId
  | credentialWithoutStatus
  | credentialWithoutDate
  | credentialWithoutProof
  | severalDelegations

def ShapeFault.message : ShapeFault → String
  | date cause => cause.message
  | millisOutOfRange millis => s!"timestamp {millis} ms is out of range"
  | timestampOutOfRange millis => s!"timestamp {millis} out of range"
  | eventOutOfRange millis => s!"event timestamp {millis} out of range"
  | expansion cause => cause.message
  | schema cause => cause.message
  | notSaltedCredential cause => s!"not a credential: {DocumentError.message cause}"
  | notCredential cause => s!"not a KiltCredentialV1: {DocumentError.message cause}"
  | notProof cause => s!"not a KiltAttestationProofV1: {DocumentError.message cause}"
  | noClaimHashes => "claimHashes is empty"
  | unsortedClaimHashes first second => s!"claimHashes not sorted: {first} before {second}"
  | emptyNonce digest => s!"empty nonce for statement digest {digest}"
  | noProperty key => s!"claim has no property {Text.quote key}"
  | noSubjectProperty key => s!"credential subject has no property {Text.quote key}"
  | reservedKey key => s!"claim key {Text.quote key} is reserved"
  | legitimationWithoutId => "legitimation credential has no id"
  | legitimationWithoutProof id => s!"legitimation {id} has no proof"
  | credentialWithoutId => "credential has no id"
  | credentialWithoutStatus => "credential has no credentialStatus"
  | credentialWithoutDate => "credential has no issuanceDate"
  | credentialWithoutProof => "credential has no embedded proof"
  | severalDelegations => "more than one delegation in federatedTrustModel"

inductive ComparedField where
  | claimHash
  | ctypeHash
  | delegationId
  | issuer
  | schemaId
  | issuanceDate
  | authorizationId
  | statusId
  | legitimationId
  | delegators
  deriving DecidableEq, Repr

def ComparedField.name : ComparedField → String
  | claimHash => "claimHash"
  | ctypeHash => "cTypeHash"
  | delegationId => "delegationId"
  | issuer => "issuer"
  | schemaId => "credentialSchema.id"
  | issuanceDate => "issuanceDate"
  | authorizationId => "authorizationId"
  | statusId => "credentialStatus.id"
  | legitimationId => "federatedTrustModel.id"
  | delegators => "delegators"

inductive MissingRecord where
  | event (rootHash : Hash256) (block : String)
  | attestation (rootHash : Hash256)
  | delegationNode (id : Hash256)
  deriving DecidableEq

def MissingRecord.message : MissingRecord → String
  | event rootHash block => s!"attestation of {rootHash} in block {block}"
  | attestation rootHash => s!"attestation of {rootHash}"
  | delegationNode id => s!"delegation node {id}"

inductive RevokedRecord where
  | attestation (rootHash : Hash256)
  | delegation (id : DelegationId)
  deriving DecidableEq

def RevokedRecord.message : RevokedRecord → String
  | attestation rootHash => s!"attestation of {rootHash}"
  | delegation id => s!"delegation {id}"

inductive VerificationError where
  | shape (fault : ShapeFault)
  | malformed (cause : IdentifierError)
  | unverifiable (cause : Unverifiable)
  | notFound (record : MissingRecord)
  | mismatch (field : ComparedField) (expected actual : String)
  | revoked (record : RevokedRecord)
  | ledger (cause : LedgerError)

namespace VerificationError

def message : VerificationError → String
  | shape fault => s!"structure error: {fault.message}"
  | malformed cause => s!"malformed value: {cause.message}"
  | unverifiable cause => s!"unverifiable: {cause.message}"
  | notFound record => s!"not found: {record.message}"
  | mismatch field expected actual =>
    s!"mismatch in {field.name}: expected {expected}, found {actual}"
  | revoked record => s!"revoked: {record.message}"
  | ledger cause => cause.message

def chain : VerificationError → List String
  | malformed cause => [(malformed cause).message, cause.message]
  | unverifiable cause => [(unverifiable cause).message, cause.message]
  | e => [e.message]

def isBreakdown : VerificationError → Bool
  | shape (.notSaltedCredential cause) => DocumentError.isBreakdown cause
  | shape (.notCredential cause) => DocumentError.isBreakdown cause
  | shape (.notProof cause) => DocumentError.isBreakdown cause
  | malformed cause => cause.isBreakdown
  | _ => false

end VerificationError

abbrev Verified := Except VerificationError

def Verified.ofEncoding {α : Type} (r : Except EncodingError α) : Verified α :=
  r.mapError fun e => .malformed (.encoding e)

end SelectiveDisclosure
