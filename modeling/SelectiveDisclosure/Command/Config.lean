import SelectiveDisclosure.Text.Blank
import SelectiveDisclosure.Text.Quoted

namespace SelectiveDisclosure.Command

structure Config where
  chainSnapshot : Option String
  timeoutSeconds : UInt64
  deriving DecidableEq

structure ConfigError where
  timeout : String
  deriving DecidableEq

def ConfigError.message (e : ConfigError) : String :=
  s!"KCRED_VERIFY_TIMEOUT_SECS must be a positive integer, got {Text.quote e.timeout}"

namespace Config

def standard : Config := ⟨none, 30⟩

def parseWord? (cs : List Char) : Option UInt64 :=
  let ds := match cs with
    | '+' :: rest => rest
    | cs => cs
  if ds.isEmpty || !ds.all Char.isDigit then none
  else
    let n := ds.foldl (fun n c => n * 10 + (c.toNat - 0x30)) 0
    if n < Nat.pow 2 64 then some (UInt64.ofNat n) else none

def parseTimeout (raw : String) : Except ConfigError UInt64 :=
  match parseWord? (Text.trimBlank raw.toList) with
  | some n => if n = 0 then .error ⟨raw⟩ else .ok n
  | none => .error ⟨raw⟩

/-- The settings of an environment. An empty name of a snapshot is none. -/
def ofEnvironment (lookup : String → Option String) : Except ConfigError Config := do
  let timeoutSeconds ← match lookup "KCRED_VERIFY_TIMEOUT_SECS" with
    | some raw => parseTimeout raw
    | none => pure standard.timeoutSeconds
  return {
    chainSnapshot := (lookup "KCRED_CHAIN_SNAPSHOT").filter (!·.isEmpty)
    timeoutSeconds }

/-- The settings with those that flags give. A time limit of zero is passed over. -/
def withFlags (c : Config) (chain : Option String) (timeout : Option UInt64) : Config where
  chainSnapshot := chain.or c.chainSnapshot
  timeoutSeconds := (timeout.filter (0 < ·)).getD c.timeoutSeconds

def describe (c : Config) : String :=
  let snapshot := Text.quote (c.chainSnapshot.getD "<unset>")
  s!"CliConfig \x7b chain_snapshot: {snapshot}, verify_timeout_secs: {c.timeoutSeconds} \x7d"

end Config

end SelectiveDisclosure.Command
