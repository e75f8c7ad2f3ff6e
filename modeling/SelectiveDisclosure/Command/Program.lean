import SelectiveDisclosure.Command.Arguments

namespace SelectiveDisclosure.Command

variable {m : Type → Type} [Monad m]

def Invocation.run (host : Host m) (around : Surroundings) (config : Config) :
    Invocation → Action m Unit
  | .hash a => runHash host around.random a
  | .verifyFile file => runVerifyFile host file
  | .reduce a => runReduce host a
  | .issue a => runIssue host around config a
  | .derive a => runDerive host a
  | .verify a => runVerify host config a

/-- Exit codes: success, a failed command, a wrong call, and a breakdown. -/
def exitSuccess : UInt8 := 0
def exitFailure : UInt8 := 1
def exitUsage : UInt8 := 2
def exitBreakdown : UInt8 := 101

def usage : String :=
  "Usage: kcred [--verbose] [--json-logs] <claim hash | credential verify | credential reduce"
    ++ " | proof issue | proof derive | proof verify>\n"

/-- Runs the program. The result is the exit code and, if there is one, the message of the failure.
Help and version that cannot be printed are no failure. -/
def runProgram (host : Host m) (around : Surroundings) (environment : String → Option String)
    (args : List String) : m (UInt8 × Option String) := do
  match parseArguments args with
  | .error .help => do
    let _ ← host.print usage
    return (exitSuccess, none)
  | .error .version => do
    let _ ← host.print "kcred 0.1.0\n"
    return (exitSuccess, none)
  | .error .invalid => return (exitUsage, some usage)
  | .ok command =>
    match Config.ofEnvironment environment with
    | .error e => return (exitUsage, some e.message)
    | .ok config =>
      match ← (command.run host around config).run with
      | .ok () => return (exitSuccess, none)
      | .error e => return (if e.isBreakdown then exitBreakdown else exitFailure, some e.message)

end SelectiveDisclosure.Command
