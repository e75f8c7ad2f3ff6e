import SelectiveDisclosure.Command.Config
import SelectiveDisclosure.Command.Host
import SelectiveDisclosure.Ledger.Document
import SelectiveDisclosure.Verification

namespace SelectiveDisclosure.Command

structure IssueArguments where
  ctype : String
  claims : String
  subject : String
  issuer : String
  legitimations : List String
  delegation : Option String
  chain : Option String
  genesis : Option String
  timestamp : Option UInt64
  out : Option String

structure DeriveArguments where
  file : String
  disclose : List String
  out : Option String

structure VerifyArguments where
  file : String
  proof : Option String
  chain : Option String
  timeout : Option UInt64
  status : Bool

structure Surroundings where
  random : Nat → UInt8
  now : Int

variable {m : Type → Type} [Monad m]

def loadLedger (host : Host m) (path : String) : Action m Ledger := do
  let text ← within s!"failed to read snapshot: {path}" .file (← host.read path)
  within s!"invalid snapshot: {path}" (fun e => .verification (.ledger e)) (Ledger.ofText text)

def snapshotPath (config : Config) (chain : Option String) : Action m String :=
  match (config.withFlags chain none).chainSnapshot with
  | some path => pure path
  | none => fail .noSnapshot

def openLedger (host : Host m) (path : String) (genesis : Option String) : Action m Ledger := do
  if ← host.isThere path then loadLedger host path
  else
    let some genesis := genesis | fail (.snapshotMissing path)
    return Ledger.new (← within "invalid genesis hash" .encoding (Hash256.ofHex genesis))

def readCredential (host : Host m) (context path : String) : Action m VerifiableCredential := do
  let j ← readJson host path
  within s!"{context}: {path}" .verification (VerifiableCredential.parse j)

def readInput (host : Host m) (a : IssueArguments) : Action m CredentialInput := do
  let ctype : CType := ⟨← readJson host a.ctype⟩
  let some claims := (← readJson host a.claims).members? | fail .claimsNoObject
  let issuer ← within "invalid issuer DID" .identifier (Did.parse a.issuer)
  let legitimations ← a.legitimations.mapM (readCredential host "invalid legitimation")
  let delegationId ← a.delegation.mapM fun text =>
    within "invalid delegation id" .encoding (Hash256.ofHex text)
  let subject ← within "invalid subject DID" .identifier (Did.parse a.subject)
  return {
    subject, claims, issuer, delegationId
    ctypeHash := ctype.hash
    legitimations := legitimations.map .embedded }

def wordBytes (n : UInt64) : List UInt8 := (Radix.digits 256 8 n.toNat).map UInt8.ofNat

def blockOf (rootHash : Hash256) (timestamp : UInt64) : Hash256 :=
  blake2bConcat [rootHash.toList, wordBytes timestamp]

def timestampOr (given : Option UInt64) (now : Int) : Action m UInt64 :=
  match given with
  | some t => pure t
  | none =>
    if 0 ≤ now then pure (UInt64.ofNat now.toNat)
    else throw ⟨["system clock before 1970"], .clockTooEarly⟩

def issue (host : Host m) (around : Surroundings) (config : Config) (a : IssueArguments) :
    Action m VerifiableCredential := do
  let path ← snapshotPath config a.chain
  let ledger ← openLedger host path a.genesis
  let input ← readInput host a
  let unfinalized ← within "failed to build credential" .verification input.toCredential
  let (proof, request) ← within "failed to initialize proof" .verification
    (unfinalized.initializeProof around.random)
  let timestamp ← timestampOr a.timestamp around.now
  let block := blockOf request.rootHash timestamp
  let ledger := ledger.record block timestamp {
    claimHash := request.rootHash
    ctypeHash := request.ctypeHash
    owner := input.issuer
    delegationId := request.authorization.map (·.nodeId)
    revoked := false }
  let (credential, _) ← within "failed to finalize proof" .verification
    (unfinalized.finalizeProof proof { block, timestamp, genesis := ledger.genesis })
  if let some fault ← host.write path ledger.toJson.indented then
    throw ⟨[s!"failed to write snapshot: {path}"], .file fault⟩
  return credential

def derive (host : Host m) (a : DeriveArguments) : Action m VerifiableCredential := do
  let c ← readCredential host "invalid credential" a.file
  let some proof := c.proof | fail .noProof
  let (derived, _) ← within "selective disclosure failed" .verification
    (c.disclose proof a.disclose)
  return derived

/-- Verifies a credential with its own proof or with another, and its status if that is asked for.
Every answer is there at once, so no time limit is ever reached. -/
def verifyPresentation (host : Host m) (config : Config) (a : VerifyArguments) :
    Action m Report := do
  let ledger ← loadLedger host (← snapshotPath config a.chain)
  let c ← readCredential host "invalid credential" a.file
  let proof ← match a.proof with
    | some path => do
      let j ← readJson host path
      within s!"invalid proof: {path}" .verification (AttestationProof.parse j)
    | none =>
      match c.proof with
      | some proof => pure proof
      | none => fail .noProofGiven
  within "proof verification failed" .verification do
    let report ← c.verify ledger proof
    if a.status then
      let _ ← c.checkStatus ledger
    return report

def runIssue (host : Host m) (around : Surroundings) (config : Config) (a : IssueArguments) :
    Action m Unit := do
  writeJson host (← issue host around config a).toJson a.out

def runDerive (host : Host m) (a : DeriveArguments) : Action m Unit := do
  writeJson host (← derive host a).toJson a.out

def runVerify (host : Host m) (config : Config) (a : VerifyArguments) : Action m Unit := do
  writeJson host (← verifyPresentation host config a).toJson none

end SelectiveDisclosure.Command
