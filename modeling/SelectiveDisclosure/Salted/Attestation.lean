import SelectiveDisclosure.Salted.Credential

namespace SelectiveDisclosure

structure Attestation where
  claimHash : Hash256
  ctypeHash : Hash256
  owner : Did
  delegationId : Option Hash256
  revoked : Bool
  deriving DecidableEq

namespace Attestation

def ofCredential (c : SaltedCredential) (attester : Did) : Attestation where
  claimHash := c.rootHash
  ctypeHash := c.claim.ctypeHash
  owner := attester
  delegationId := c.delegationId
  revoked := false

def show? : Option Hash256 → String
  | some h => h.toHex
  | none => "none"

def verifyAgainst (a : Attestation) (c : SaltedCredential) : Verified Unit :=
  if a.claimHash ≠ c.rootHash then
    .error (.mismatch .claimHash c.rootHash.toHex a.claimHash.toHex)
  else if a.ctypeHash ≠ c.claim.ctypeHash then
    .error (.mismatch .ctypeHash c.claim.ctypeHash.toHex a.ctypeHash.toHex)
  else if a.delegationId ≠ c.delegationId then
    .error (.mismatch .delegationId (show? c.delegationId) (show? a.delegationId))
  else .ok ()

end Attestation

end SelectiveDisclosure
