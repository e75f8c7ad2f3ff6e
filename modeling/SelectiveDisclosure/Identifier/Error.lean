import SelectiveDisclosure.Encoding

namespace SelectiveDisclosure

inductive IdentifierRule where
  | chainSeparator
  | assetShape
  | assetSeparator
  | spaceTooShort
  | spaceTooLong
  | spaceCharacters
  | referenceTooShort
  | referenceTooLong
  | referenceCharacters
  | otherAsset
  deriving DecidableEq, Repr

def IdentifierRule.message : IdentifierRule → String
  | chainSeparator => "missing ':'"
  | assetShape => "expected <chain>/<namespace>:<reference>/<token>"
  | assetSeparator => "missing ':' in asset"
  | spaceTooShort => "namespace too short"
  | spaceTooLong => "namespace too long"
  | spaceCharacters => "namespace has invalid characters"
  | referenceTooShort => "reference too short"
  | referenceTooLong => "reference too long"
  | referenceCharacters => "reference has invalid characters"
  | otherAsset => "asset is not kilt:attestation"

inductive IdentifierError where
  | did (value : String)
  | ctypeId (value : String)
  | credentialId (value : String)
  | delegationId (value : String)
  | chainId (value : String) (rule : IdentifierRule)
  | assetId (value : String) (rule : IdentifierRule)
  | encoding (cause : EncodingError)
  deriving DecidableEq, Repr

namespace IdentifierError

def message : IdentifierError → String
  | did value => s!"invalid DID {Text.quote value}"
  | ctypeId value => s!"invalid CType id {Text.quote value}"
  | credentialId value => s!"invalid credential id {Text.quote value}"
  | delegationId value => s!"invalid delegation id {Text.quote value}"
  | chainId value rule => s!"invalid CAIP-2 chain id {Text.quote value}: {rule.message}"
  | assetId value rule => s!"invalid CAIP-19 asset id {Text.quote value}: {rule.message}"
  | encoding cause => cause.message

def isBreakdown : IdentifierError → Bool
  | encoding cause => cause.isBreakdown
  | _ => false

end IdentifierError

end SelectiveDisclosure
