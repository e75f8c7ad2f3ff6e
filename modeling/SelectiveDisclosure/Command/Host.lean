import SelectiveDisclosure.Identifier.Error
import SelectiveDisclosure.Json.Reader
import SelectiveDisclosure.Json.Writer
import SelectiveDisclosure.Error

/-!
What commands see of the world: files by their names and a place to print to. A command is written
for any host, so that it can run on the files of a computer as well as on files that are given as
values.
-/

namespace SelectiveDisclosure.Command

inductive FileFault where
  | missing
  | notDirectory
  | isDirectory
  | nameTooLong
  | nulInPath
  | other (message : String)
  deriving DecidableEq

def FileFault.message : FileFault → String
  | missing => "No such file or directory (os error 2)"
  | notDirectory => "Not a directory (os error 20)"
  | isDirectory => "Is a directory (os error 21)"
  | nameTooLong => "File name too long (os error 36)"
  | nulInPath => "file name contained an unexpected NUL byte"
  | other message => message

inductive Cause where
  | file (fault : FileFault)
  | output (fault : FileFault)
  | notJson
  | nonces
  | verification (cause : VerificationError)
  | identifier (cause : IdentifierError)
  | encoding (cause : EncodingError)
  | contentsNoObject
  | claimsNoObject
  | noSnapshot
  | snapshotMissing (path : String)
  | noProof
  | noProofGiven
  | clockTooEarly

def notJsonText : String := "<json>"

namespace Cause

def chain : Cause → List String
  | file fault => [fault.message]
  | output fault => [s!"failed printing to stdout: {fault.message}"]
  | notJson => [notJsonText]
  | nonces => [notJsonText]
  | verification cause => cause.chain
  | identifier cause => [cause.message]
  | encoding cause => [cause.message]
  | contentsNoObject => ["claim contents must be a JSON object"]
  | claimsNoObject => ["claims must be a JSON object"]
  | noSnapshot => ["no chain snapshot: pass --chain or set KCRED_CHAIN_SNAPSHOT"]
  | snapshotMissing path => [s!"snapshot {path} does not exist; pass --genesis to create it"]
  | noProof => ["credential has no embedded proof"]
  | noProofGiven => ["credential has no embedded proof; pass --proof"]
  | clockTooEarly => ["out of range integral type conversion attempted"]

end Cause

structure CommandError where
  contexts : List String
  cause : Cause

namespace CommandError

def message (e : CommandError) : String := ": ".intercalate (e.contexts ++ e.cause.chain)

def isBreakdown (e : CommandError) : Bool :=
  match e.cause with
  | .output _ => true
  | .verification cause => cause.isBreakdown
  | _ => false

end CommandError

/-- What a host offers. Writing replaces the whole file or changes nothing. Printing may stop
anywhere. -/
structure Host (m : Type → Type) where
  isThere : String → m Bool
  read : String → m (Except FileFault String)
  write : String → String → m (Option FileFault)
  print : String → m (Option FileFault)

/-- A command on a host. What it did before it failed stays done. -/
abbrev Action (m : Type → Type) := ExceptT CommandError m

variable {m : Type → Type} [Monad m]

def fail {α : Type} (cause : Cause) : Action m α := throw ⟨[], cause⟩

def within {ε α : Type} (context : String) (cause : ε → Cause) (r : Except ε α) : Action m α :=
  match r with
  | .ok a => pure a
  | .error e => throw ⟨[context], cause e⟩

def readJson (host : Host m) (path : String) : Action m Json := do
  let text ← within s!"failed to read file: {path}" .file (← host.read path)
  match Json.parse? text with
  | some j => return j.sorted
  | none => throw ⟨[s!"failed to parse JSON: {path}"], .notJson⟩

/-- Prints, and breaks down where that cannot be done. -/
def printOut (host : Host m) (text : String) : Action m Unit := do
  if let some fault ← host.print text then throw ⟨[], .output fault⟩

def writeJson (host : Host m) (j : Json) (out : Option String) : Action m Unit := do
  let text := j.indented ++ "\n"
  match out with
  | some path =>
    if let some fault ← host.write path text then
      throw ⟨[s!"failed to write file: {path}"], .file fault⟩
  | none => printOut host text

end SelectiveDisclosure.Command
