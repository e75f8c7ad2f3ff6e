import SelectiveDisclosure.Command.Attested
import SelectiveDisclosure.Command.Salted
import SelectiveDisclosure.Text.Cut

/-!
Arguments of the program: a group of commands, a command, its options and its file. Arguments are
read from left to right, and the first one that asks for help, asks for the version or is wrong
decides.
-/

namespace SelectiveDisclosure.Command

inductive Invocation where
  | hash (arguments : HashArguments)
  | verifyFile (file : String)
  | reduce (arguments : ReduceArguments)
  | issue (arguments : IssueArguments)
  | derive (arguments : DeriveArguments)
  | verify (arguments : VerifyArguments)

inductive Stop where
  | help
  | version
  | invalid
  deriving DecidableEq

inductive OptionKind where
  | path
  | text
  | word (least : UInt64)
  | switch
  deriving DecidableEq

def OptionKind.accepts (kind : OptionKind) (value : String) : Bool :=
  match kind with
  | .path => !value.isEmpty
  | .text => true
  | .word least =>
    match Config.parseWord? value.toList with
    | some n => least ≤ n
    | none => false
  | .switch => false

structure OptionForm where
  name : String
  kind : OptionKind
  required : Bool
  repeatable : Bool

structure CommandForm where
  options : List OptionForm
  takesFile : Bool

structure Given where
  values : List (String × String)
  file : Option String

namespace Given

def all (g : Given) (name : String) : List String :=
  (g.values.filter fun e => e.1 == name).map (·.2)

def first? (g : Given) (name : String) : Option String := (g.all name).head?

def firstD (g : Given) (name : String) : String := (g.first? name).getD ""

def has (g : Given) (name : String) : Bool := (g.first? name).isSome

def word? (g : Given) (name : String) : Option UInt64 :=
  (g.first? name).bind fun s => Config.parseWord? s.toList

def split (g : Given) (name : String) : List String :=
  (g.all name).flatMap fun s => (Text.partsAt ',' s.toList).map String.ofList

end Given

def looksLikeOption (arg : String) : Bool :=
  match arg.toList with
  | '-' :: _ :: _ => true
  | _ => false

def longParts? (arg : String) : Option (String × Option String) :=
  match arg.toList with
  | '-' :: '-' :: rest =>
    match Text.cutAt? '=' rest with
    | some (name, value) => some (String.ofList name, some (String.ofList value))
    | none => some (String.ofList rest, none)
  | _ => none

/-- Letters behind a single hyphen. Only in front of the command group there is one for the
version. -/
def readLetters (versionHere : Bool) : List Char → Except Stop Unit
  | [] => .ok ()
  | c :: rest =>
    if c = 'v' then readLetters versionHere rest
    else if c = 'h' then .error .help
    else if c = 'V' && versionHere then .error .version
    else .error .invalid

def readCommon (versionHere : Bool) (arg : String) (logForm : Bool) : Except Stop Bool :=
  match longParts? arg with
  | some ("help", none) => .error .help
  | some ("verbose", none) => .ok logForm
  | some ("json-logs", none) => if logForm then .error .invalid else .ok true
  | some ("version", none) => .error (if versionHere then .version else .invalid)
  | some _ => .error .invalid
  | none => (readLetters versionHere (arg.toList.drop 1)).map fun _ => logForm

namespace CommandForm

def find? (form : CommandForm) (arg : String) : Option (OptionForm × Option String) := do
  let (name, value) ← longParts? arg
  let option ← form.options.find? (·.name == name)
  return (option, value)

def put (g : Given) (option : OptionForm) (value : String) : Except Stop Given :=
  if g.has option.name && !option.repeatable then .error .invalid
  else if option.kind.accepts value then
    .ok { g with values := g.values ++ [(option.name, value)] }
  else .error .invalid

def putSwitch (g : Given) (option : OptionForm) : Except Stop Given :=
  if g.has option.name then .error .invalid
  else .ok { g with values := g.values ++ [(option.name, "")] }

def putFile (form : CommandForm) (g : Given) (file : String) : Except Stop Given :=
  if form.takesFile && g.file.isNone && !file.isEmpty then .ok { g with file := some file }
  else .error .invalid

def scan (form : CommandForm) (g : Given) (logForm : Bool) : List String → Except Stop Given
  | [] => .ok g
  | "--" :: files => files.foldlM form.putFile g
  | arg :: rest =>
    if !looksLikeOption arg then do form.scan (← form.putFile g arg) logForm rest
    else match form.find? arg with
      | none => do form.scan g (← readCommon false arg logForm) rest
      | some (option, attached) =>
        match option.kind, attached, rest with
        | .switch, some _, _ => .error .invalid
        | .switch, none, rest => do form.scan (← putSwitch g option) logForm rest
        | _, some value, rest => do form.scan (← put g option value) logForm rest
        | _, none, [] => .error .invalid
        | _, none, value :: rest =>
          if looksLikeOption value then .error .invalid
          else do form.scan (← put g option value) logForm rest

def read (form : CommandForm) (args : List String) : Except Stop Given := do
  let g ← form.scan ⟨[], none⟩ false args
  if form.options.any fun o => o.required && !g.has o.name then throw .invalid
  if form.takesFile && g.file.isNone then throw .invalid
  return g

end CommandForm

def required (name : String) (kind : OptionKind) : OptionForm := ⟨name, kind, true, false⟩

def optional (name : String) (kind : OptionKind) : OptionForm := ⟨name, kind, false, false⟩

def several (name : String) (kind : OptionKind) : OptionForm := ⟨name, kind, false, true⟩

structure CommandSpec where
  name : String
  form : CommandForm
  make : Given → Invocation

def hashSpec : CommandSpec where
  name := "hash"
  form := ⟨[required "ctype" .path, required "contents" .path, required "owner" .text,
    optional "nonces" .path, several "legitimation" .path, optional "delegation" .text,
    optional "out" .path], false⟩
  make g := .hash {
    ctype := g.firstD "ctype"
    contents := g.firstD "contents"
    owner := g.firstD "owner"
    nonces := g.first? "nonces"
    legitimations := g.all "legitimation"
    delegation := g.first? "delegation"
    out := g.first? "out" }

def verifyFileSpec : CommandSpec where
  name := "verify"
  form := ⟨[], true⟩
  make g := .verifyFile (g.file.getD "")

def reduceSpec : CommandSpec where
  name := "reduce"
  form := ⟨[⟨"remove", .text, true, true⟩, optional "out" .path], true⟩
  make g := .reduce {
    file := g.file.getD ""
    remove := g.split "remove"
    out := g.first? "out" }

def issueSpec : CommandSpec where
  name := "issue"
  form := ⟨[required "ctype" .path, required "claims" .path, required "subject" .text,
    required "issuer" .text, several "legitimation" .path, optional "delegation" .text,
    optional "chain" .path, optional "genesis" .text, optional "timestamp" (.word 0),
    optional "out" .path], false⟩
  make g := .issue {
    ctype := g.firstD "ctype"
    claims := g.firstD "claims"
    subject := g.firstD "subject"
    issuer := g.firstD "issuer"
    legitimations := g.all "legitimation"
    delegation := g.first? "delegation"
    chain := g.first? "chain"
    genesis := g.first? "genesis"
    timestamp := g.word? "timestamp"
    out := g.first? "out" }

def deriveSpec : CommandSpec where
  name := "derive"
  form := ⟨[several "disclose" .text, optional "out" .path], true⟩
  make g := .derive {
    file := g.file.getD ""
    disclose := g.split "disclose"
    out := g.first? "out" }

def verifySpec : CommandSpec where
  name := "verify"
  form := ⟨[optional "proof" .path, optional "chain" .path, optional "timeout" (.word 1),
    optional "status" .switch], true⟩
  make g := .verify {
    file := g.file.getD ""
    proof := g.first? "proof"
    chain := g.first? "chain"
    timeout := g.word? "timeout"
    status := g.has "status" }

def groups : List (String × List CommandSpec) := [
  ("claim", [hashSpec]),
  ("credential", [verifyFileSpec, reduceSpec]),
  ("proof", [issueSpec, deriveSpec, verifySpec])]

/-- Asking for help on commands that exist. Help is itself a command, beside the groups and in each
of them. -/
def readHelp : List String → Stop
  | [] => .help
  | [group] => if groups.any (·.1 == group) || group = "help" then .help else .invalid
  | [group, command] =>
    match groups.lookup group with
    | some specs => if specs.any (·.name == command) || command = "help" then .help else .invalid
    | none => .invalid
  | _ => .invalid

def readCommand (group : String) (specs : List CommandSpec) (logForm : Bool) :
    List String → Except Stop Invocation
  | [] => .error .invalid
  | arg :: rest =>
    if looksLikeOption arg then do
      readCommand group specs (← readCommon false arg logForm) rest
    else if arg = "help" then .error (readHelp (group :: rest))
    else match specs.find? (·.name == arg) with
      | some spec => (spec.form.read rest).map spec.make
      | none => .error .invalid

def readGroup (logForm : Bool) : List String → Except Stop Invocation
  | [] => .error .invalid
  | arg :: rest =>
    if looksLikeOption arg then do readGroup (← readCommon true arg logForm) rest
    else if arg = "help" then .error (readHelp rest)
    else match groups.lookup arg with
      | some specs => readCommand arg specs false rest
      | none => .error .invalid

def parseArguments (args : List String) : Except Stop Invocation := readGroup false args

end SelectiveDisclosure.Command
