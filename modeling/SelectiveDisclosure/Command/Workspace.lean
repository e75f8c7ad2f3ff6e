import SelectiveDisclosure.Command.Host
import SelectiveDisclosure.Text.Cut

/-!
A host made of values: the files of a working directory, and the text that was printed. There are
directories above the working one, up to the root, with nothing in them but the standard ones.
-/

namespace SelectiveDisclosure.Command

structure Workspace where
  files : OrderedMap String String
  printed : String

namespace Workspace

inductive Location where
  | directory
  | entry (directory name : List Char)
  | nowhere (fault : FileFault)

/-- The name of the working directory is empty, and every other directory has a name that ends with
a slash. -/
def workingDirectory : List Char := []

def rootDirectory : List Char := ['/']

def standardDirectories : List (List Char) := ["/dev/".toList, "/tmp/".toList]

def nullDevice : String := "/dev/null"

def parent (directory : List Char) : List Char :=
  if directory.head? = some '/' then rootDirectory else "../".toList ++ directory

def pathLimit : Nat := 4095

def nameLimit : Nat := 255

def byteCount (cs : List Char) : Nat := (String.ofList cs).utf8ByteSize

/-- Takes the steps of a path from a directory. All steps but the last must lead into directories.
-/
def follow (w : Workspace) (directory : List Char) : List (List Char) → Location
  | [] => .directory
  | name :: rest =>
    let path := directory ++ name
    if name = ['.'] then follow w directory rest
    else if name = ['.', '.'] then follow w (parent directory) rest
    else if standardDirectories.contains (path ++ ['/']) then follow w (path ++ ['/']) rest
    else if rest.isEmpty then .entry directory name
    else if nameLimit < byteCount name then .nowhere .nameTooLong
    else if String.ofList path = nullDevice || w.files.contains (String.ofList path) then
      .nowhere .notDirectory
    else .nowhere .missing

def locate (w : Workspace) (path : String) : Location :=
  let cs := path.toList
  let steps := (Text.partsAt '/' cs).filter (!·.isEmpty)
  if cs.contains '\x00' then .nowhere .nulInPath
  else if pathLimit < byteCount cs then .nowhere .nameTooLong
  else if cs.isEmpty then .nowhere .missing
  else w.follow (if cs.head? = some '/' then rootDirectory else workingDirectory) steps

def asksForDirectory (path : String) : Bool := path.toList.getLast? = some '/'

def read (w : Workspace) (path : String) : Except FileFault String :=
  match w.locate path with
  | .directory => .error .isDirectory
  | .nowhere fault => .error fault
  | .entry directory name =>
    let key := String.ofList (directory ++ name)
    let text? := if key = nullDevice then some "" else w.files.get? key
    if nameLimit < byteCount name then .error .nameTooLong
    else match text? with
      | none => .error .missing
      | some text => if asksForDirectory path then .error .notDirectory else .ok text

def isThere (w : Workspace) (path : String) : Bool :=
  match w.read path with
  | .ok _ | .error .isDirectory => true
  | .error _ => false

def write (w : Workspace) (path text : String) : Workspace × Option FileFault :=
  match w.locate path with
  | .directory => (w, some .isDirectory)
  | .nowhere fault => (w, some fault)
  | .entry directory name =>
    let key := String.ofList (directory ++ name)
    if asksForDirectory path then (w, some .isDirectory)
    else if nameLimit < byteCount name then (w, some .nameTooLong)
    else if key = nullDevice then (w, none)
    else ({ w with files := w.files.insert key text }, none)

def host : Host (StateM Workspace) where
  isThere path := return (← get).isThere path
  read path := return (← get).read path
  write path text := do
    let (w, fault) := (← get).write path text
    set w
    return fault
  print text := do
    modify fun w => { w with printed := w.printed ++ text }
    return none

def run {α : Type} (w : Workspace) (action : Action (StateM Workspace) α) :
    Except CommandError α × Workspace :=
  (ExceptT.run action).run w

end Workspace

end SelectiveDisclosure.Command
