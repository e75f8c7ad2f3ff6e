import SelectiveDisclosure.Command.Program
import Std.Time.DateTime.Timestamp

namespace SelectiveDisclosure

open Command (FileFault Host Surroundings)

def faultOf : IO.Error → FileFault
  | .noFileOrDirectory .. => .missing
  | .inappropriateType _ 20 _ => .notDirectory
  | .inappropriateType _ 21 _ => .isDirectory
  | .invalidArgument _ 36 _ => .nameTooLong
  | e => .other (toString e)

def computerHost : Host IO where
  isThere path := do
    try
      let _ ← IO.FS.realPath path
      return true
    catch _ => return false
  read path := do
    try return .ok (← IO.FS.readFile path)
    catch e => return .error (faultOf e)
  write path text := do
    try
      IO.FS.writeFile path text
      return none
    catch e => return some (faultOf e)
  print text := do
    try
      let out ← IO.getStdout
      out.putStr text
      out.flush
      return none
    catch e => return some (faultOf e)

def randomByteCount : Nat := 36 * Nat.pow 2 17

def surroundings : IO Surroundings := do
  let bytes ← IO.getRandomBytes (USize.ofNat randomByteCount)
  let now ← Std.Time.Timestamp.now
  return {
    random := fun i => bytes.data.getD (i % randomByteCount) 0
    now := now.toMillisecondsSinceUnixEpoch.val }

end SelectiveDisclosure

open SelectiveDisclosure in
def main (args : List String) : IO UInt32 := do
  let timeout ← IO.getEnv "KCRED_VERIFY_TIMEOUT_SECS"
  let snapshot ← IO.getEnv "KCRED_CHAIN_SNAPSHOT"
  let environment : String → Option String
    | "KCRED_VERIFY_TIMEOUT_SECS" => timeout
    | "KCRED_CHAIN_SNAPSHOT" => snapshot
    | _ => none
  let (code, message) ← Command.runProgram computerHost (← surroundings) environment args
  if let some message := message then IO.eprintln message
  return code.toUInt32
