import SelectiveDisclosure.Salted.Hashing

/-!
Salted credentials: a claim, its salted hashes and nonces, the credentials that back the attester
and the delegation node of the attestation. The root hash stands for all of them. Properties can
be removed: the salted hashes and the root hash stay as they are.
-/

namespace SelectiveDisclosure

structure SaltedCredential where
  claim : Claim
  claimHashes : List Hash256
  nonces : NonceMap
  legitimations : List SaltedCredential
  delegationId : Option Hash256
  rootHash : Hash256

namespace SaltedCredential

/-- The digest of the claim hashes, the root hashes of the legitimations and the delegation node, in
this order. -/
def rootHashOf (claimHashes legitimationRoots : List Hash256) (delegationId : Option Hash256) :
    Hash256 :=
  blake2bConcat ((claimHashes ++ legitimationRoots ++ delegationId.toList).map (·.toList))

def build (claim : Claim) (legitimations : List SaltedCredential) (delegationId : Option Hash256)
    (source : NonceSource) : Verified SaltedCredential := do
  let hashed ← HashedStatements.ofClaim claim source
  return {
    claim
    claimHashes := hashed.hashes
    nonces := hashed.nonces
    legitimations
    delegationId
    rootHash := rootHashOf hashed.hashes (legitimations.map (·.rootHash)) delegationId }

def verifyRootHash (c : SaltedCredential) : Verified Unit :=
  let computed := rootHashOf c.claimHashes (c.legitimations.map (·.rootHash)) c.delegationId
  if computed = c.rootHash then .ok ()
  else .error (.unverifiable (.rootHash c.rootHash computed))

def verifyDisclosed (c : SaltedCredential) : Verified Unit :=
  c.claim.verifyDisclosed c.nonces c.claimHashes

mutual

def verifyIntegrity : SaltedCredential → Verified Unit
  | ⟨claim, claimHashes, nonces, legitimations, delegationId, rootHash⟩ => do
    verifyRootHash ⟨claim, claimHashes, nonces, legitimations, delegationId, rootHash⟩
    claim.verifyDisclosed nonces claimHashes
    verifyIntegrityAll legitimations

def verifyIntegrityAll : List SaltedCredential → Verified Unit
  | [] => .ok ()
  | c :: rest => do
    verifyIntegrity c
    verifyIntegrityAll rest

end

def firstDescent? : List Hash256 → Option (Hash256 × Hash256)
  | a :: b :: rest => if b < a then some (a, b) else firstDescent? (b :: rest)
  | _ => none

mutual

def verifyStructure : SaltedCredential → Verified Unit
  | ⟨_, claimHashes, nonces, legitimations, _, _⟩ => do
    if claimHashes.isEmpty then throw (.shape .noClaimHashes)
    if let some (a, b) := firstDescent? claimHashes then
      throw (.shape (.unsortedClaimHashes a b))
    if let some e := nonces.entries.find? fun e => e.2.isEmpty then
      throw (.shape (.emptyNonce e.1))
    verifyStructureAll legitimations

def verifyStructureAll : List SaltedCredential → Verified Unit
  | [] => .ok ()
  | c :: rest => do
    verifyStructure c
    verifyStructureAll rest

end

def removeProperties (c : SaltedCredential) (keys : List String) : Verified SaltedCredential := do
  let claim ← (c.claim.without keys).mapError fun key => .shape (.noProperty key)
  let hashed ← HashedStatements.ofClaim claim (.fixed c.nonces)
  return { c with claim, nonces := hashed.nonces }

end SaltedCredential

end SelectiveDisclosure
