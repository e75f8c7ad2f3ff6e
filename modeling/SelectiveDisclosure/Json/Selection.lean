import SelectiveDisclosure.Json.Reader

/-!
Reading what is asked for of a text. A member that nobody asks for is passed over by its form alone:
it may be nested to any depth, its numbers may be of any size, and a surrogate may stand alone in
its strings.
-/

namespace SelectiveDisclosure.Json

inductive Selection where
  | whole
  | entries (value : Selection)
  | fields (named : List (String × Selection))

namespace Selection

def ofFields (names : List String) : Selection := .fields (names.map (·, .whole))

def member? : Selection → String → Option Selection
  | whole, _ => some whole
  | entries value, _ => some value
  | fields named, name => (named.find? (·.1 = name)).map (·.2)

def items : Selection → List Selection
  | fields named => named.map (·.2)
  | _ => []

end Selection

def skipString : List Char → Option (List Char)
  | [] => none
  | '"' :: rest => some rest
  | '\\' :: 'u' :: a :: b :: c :: d :: rest =>
    if (readUnit [a, b, c, d]).isSome then skipString rest else none
  | '\\' :: c :: rest => if (readEscape [c]).isSome then skipString rest else none
  | c :: rest => if c = '\\' || c.toNat < 0x20 then none else skipString rest

def skipNumber (cs : List Char) : Option (List Char) := do
  let (_, cs) ← readWhole (match cs with
    | '-' :: rest => rest
    | cs => cs)
  let (_, cs) ← readFraction cs
  let (_, cs) ← readExponent cs
  return cs

mutual

def skipValue : Nat → List Char → Option (List Char)
  | 0, _ => none
  | fuel + 1, cs =>
    match skipSpace cs with
    | 'n' :: 'u' :: 'l' :: 'l' :: rest => some rest
    | 't' :: 'r' :: 'u' :: 'e' :: rest => some rest
    | 'f' :: 'a' :: 'l' :: 's' :: 'e' :: rest => some rest
    | '"' :: rest => skipString rest
    | '[' :: rest =>
      match skipSpace rest with
      | ']' :: rest => some rest
      | rest => skipItems fuel rest
    | '\x7b' :: rest =>
      match skipSpace rest with
      | '\x7d' :: rest => some rest
      | rest => skipMembers fuel rest
    | rest => skipNumber rest

def skipItems : Nat → List Char → Option (List Char)
  | 0, _ => none
  | fuel + 1, cs => do
    match skipSpace (← skipValue fuel cs) with
    | ',' :: rest => skipItems fuel rest
    | ']' :: rest => some rest
    | _ => none

def skipMembers : Nat → List Char → Option (List Char)
  | 0, _ => none
  | fuel + 1, cs => do
    let '"' :: rest := skipSpace cs | none
    let ':' :: rest := skipSpace (← skipString rest) | none
    match skipSpace (← skipValue fuel rest) with
    | ',' :: rest => skipMembers fuel rest
    | '\x7d' :: rest => some rest
    | _ => none

end

mutual

def select : Nat → Selection → List Char → Option (Json × List Char)
  | 0, _, _ => none
  | fuel + 1, selection, cs =>
    match selection, skipSpace cs with
    | .whole, cs => readValue fuel depthLimit cs
    | selection, '\x7b' :: rest =>
      match skipSpace rest with
      | '\x7d' :: rest => some (.obj [], rest)
      | rest => (selectMembers fuel selection [] rest).map fun (ms, rest) => (.obj ms, rest)
    | selection, '[' :: rest =>
      match skipSpace rest with
      | ']' :: rest => some (.arr [], rest)
      | rest => (selectItems fuel selection.items [] rest).map fun (js, rest) => (.arr js, rest)
    | _, cs => readValue fuel depthLimit cs

def selectItems : Nat → List Selection → List Json → List Char →
    Option (List Json × List Char)
  | 0, _, _, _ => none
  | fuel + 1, selections, read, cs => do
    let (j, rest) ← select fuel (selections.head?.getD .whole) cs
    match skipSpace rest with
    | ',' :: rest => selectItems fuel selections.tail (j :: read) rest
    | ']' :: rest => return ((j :: read).reverse, rest)
    | _ => none

def selectMembers : Nat → Selection → List (String × Json) → List Char →
    Option (List (String × Json) × List Char)
  | 0, _, _, _ => none
  | fuel + 1, selection, read, cs => do
    let '"' :: rest := skipSpace cs | none
    let (name, rest) ← readString fuel [] rest
    let ':' :: rest := skipSpace rest | none
    let (read, rest) ← match selection.member? name with
      | some selection =>
        (select fuel selection rest).map fun (j, rest) => ((name, j) :: read, rest)
      | none => (skipValue fuel rest).map fun rest => (read, rest)
    match skipSpace rest with
    | ',' :: rest => selectMembers fuel selection read rest
    | '\x7d' :: rest => return (read.reverse, rest)
    | _ => none

end

/-- What is asked for of the value of a text. Of three steps at least one reads a character, so
three times the length of the text bounds their number. -/
def parseSelected? (selection : Selection) (text : String) : Option Json := do
  let cs := text.toList
  let (j, rest) ← select (3 * cs.length + 3) selection cs
  if (skipSpace rest).isEmpty then return j else none

end SelectiveDisclosure.Json
