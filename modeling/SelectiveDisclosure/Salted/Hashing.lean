import SelectiveDisclosure.Claim
import SelectiveDisclosure.Salted.Nonce

namespace SelectiveDisclosure

/-- A statement is hashed behind its nonce, with nothing between the two. -/
def saltedHash (nonce : String) (s : Statement) : Hash256 := blake2bConcat [utf8 nonce, s.bytes]

structure HashedStatements where
  hashes : List Hash256
  nonces : NonceMap

namespace HashedStatements

def saltFrom (source : NonceSource) (position : Nat) :
    List Statement → Except StatementError (List (Hash256 × String × Hash256))
  | [] => .ok []
  | s :: rest => do
    let digest := s.digest
    let nonce ← source.nonceFor position s digest
    return (digest, nonce, saltedHash nonce s) :: (← saltFrom source (position + 1) rest)

def ofStatements (statements : List Statement) (source : NonceSource) :
    Except StatementError HashedStatements := do
  let salted ← saltFrom source 0 statements
  return {
    hashes := FixedBytes.sort (salted.map fun e => e.2.2)
    nonces := OrderedMap.ofList (salted.map fun e => (e.1, e.2.1)) }

def ofClaim (claim : Claim) (source : NonceSource) : Verified HashedStatements :=
  (ofStatements claim.statements source).mapError fun e => .unverifiable (.statements [e])

end HashedStatements

namespace Claim

def fault? (nonces : NonceMap) (hashes : List Hash256) (s : Statement) : Option StatementError :=
  match nonces.get? s.digest with
  | none => some (.noProof s.key s.digest)
  | some nonce =>
    if saltedHash nonce s ∈ hashes then none else some (.invalidProof s.key s.digest)

/-- Every statement has a nonce and a salted hash among the given ones; all failures are listed. -/
def verifyDisclosed (claim : Claim) (nonces : NonceMap) (hashes : List Hash256) : Verified Unit :=
  match claim.statements.filterMap (fault? nonces hashes) with
  | [] => .ok ()
  | causes => .error (.unverifiable (.statements causes))

end Claim

end SelectiveDisclosure
