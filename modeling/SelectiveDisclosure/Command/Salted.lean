import SelectiveDisclosure.Command.Host
import SelectiveDisclosure.Salted.Document

namespace SelectiveDisclosure.Command

structure HashArguments where
  ctype : String
  contents : String
  owner : String
  nonces : Option String
  legitimations : List String
  delegation : Option String
  out : Option String

structure ReduceArguments where
  file : String
  remove : List String
  out : Option String

variable {m : Type → Type} [Monad m]

def readNonces (host : Host m) (path : String) : Action m NonceMap := do
  let j ← readJson host path
  within s!"invalid nonce map: {path}" (fun _ => .nonces) (NonceMap.decode j)

def readLegitimation (host : Host m) (path : String) : Action m SaltedCredential := do
  let j ← readJson host path
  within s!"invalid legitimation: {path}" .verification (SaltedCredential.parse j)

def hashClaim (host : Host m) (random : Nat → UInt8) (a : HashArguments) :
    Action m SaltedCredential := do
  let ctype : CType := ⟨← readJson host a.ctype⟩
  let some contents := (← readJson host a.contents).members? | fail .contentsNoObject
  let owner ← within "invalid owner DID" .identifier (Did.parse a.owner)
  let nonces ← a.nonces.mapM (readNonces host)
  let legitimations ← a.legitimations.mapM (readLegitimation host)
  let delegation ← a.delegation.mapM fun text =>
    within "invalid delegation id" .encoding (Hash256.ofHex text)
  let source := match nonces with
    | some nonces => NonceSource.fixed nonces
    | none => NonceSource.generate random
  within "failed to hash claim" .verification
    (SaltedCredential.build ⟨ctype.hash, contents, owner⟩ legitimations delegation source)

def verifyFile (host : Host m) (path : String) : Action m SaltedCredential := do
  let j ← readJson host path
  let c ← within s!"invalid credential: {path}" .verification (SaltedCredential.parse j)
  within s!"credential integrity check failed: {path}" .verification c.verifyIntegrity
  return c

def reduceFile (host : Host m) (path : String) (remove : List String) :
    Action m SaltedCredential := do
  let c ← verifyFile host path
  within "failed to remove claim properties" .verification (c.removeProperties remove)

def runHash (host : Host m) (random : Nat → UInt8) (a : HashArguments) : Action m Unit := do
  writeJson host (← hashClaim host random a).toJson a.out

def runVerifyFile (host : Host m) (path : String) : Action m Unit := do
  let c ← verifyFile host path
  printOut host s!"OK: credential root hash {c.rootHash}\n"

def runReduce (host : Host m) (a : ReduceArguments) : Action m Unit := do
  writeJson host (← reduceFile host a.file a.remove).toJson a.out

end SelectiveDisclosure.Command
