import SelectiveDisclosure.Decimal.Layout
import SelectiveDisclosure.Json.Basic

/-!
Writing JSON text, in three forms. The compact form and the indented form keep the members of an
object in their order. The canonical form puts them in the order of their written names, so that a
value has one text whatever order its members were given in.
-/

namespace SelectiveDisclosure.Json

def escapeLetters : List (Char × Char) :=
  [('"', '"'), ('\\', '\\'), ('\x08', 'b'), ('\x0c', 'f'), ('\n', 'n'), ('\r', 'r'), ('\t', 't')]

def escape (c : Char) : List Char :=
  match escapeLetters.lookup c with
  | some letter => ['\\', letter]
  | none =>
    if c.toNat < 0x20 then
      ['\\', 'u', '0', '0', Nat.digitChar (c.toNat / 16), Nat.digitChar (c.toNat % 16)]
    else [c]

def quoted (s : String) : List Char := '"' :: (s.toList.flatMap escape ++ ['"'])

def writeInt (n : Int) : List Char :=
  (if n < 0 then ['-'] else []) ++ Nat.toDigits 10 n.natAbs

def commaSeparated (parts : List (List Char)) : List Char := [','].intercalate parts

def writeScalar (layout : Decimal.Layout) : Json → List Char
  | .bool true => ['t', 'r', 'u', 'e']
  | .bool false => ['f', 'a', 'l', 's', 'e']
  | .int n => writeInt n
  | .float x => layout.write x
  | .str s => quoted s
  | _ => ['n', 'u', 'l', 'l']

mutual

def compactChars : Json → List Char
  | .arr items => '[' :: (commaSeparated (compactItems items) ++ [']'])
  | .obj members => '\x7b' :: (commaSeparated (compactMembers members) ++ ['\x7d'])
  | j => writeScalar .document j

def compactItems : List Json → List (List Char)
  | [] => []
  | j :: rest => compactChars j :: compactItems rest

def compactMembers : List (String × Json) → List (List Char)
  | [] => []
  | (k, j) :: rest => (quoted k ++ ':' :: compactChars j) :: compactMembers rest

end

def compact (j : Json) : String := String.ofList (compactChars j)

def lineBreak (level : Nat) : List Char := '\n' :: List.replicate (2 * level) ' '

def block (level : Nat) (opening closing : Char) (parts : List (List Char)) : List Char :=
  if parts.isEmpty then [opening, closing]
  else opening :: lineBreak (level + 1)
    ++ ((',' :: lineBreak (level + 1)).intercalate parts ++ lineBreak level ++ [closing])

mutual

def indentedChars (level : Nat) : Json → List Char
  | .arr items => block level '[' ']' (indentedItems (level + 1) items)
  | .obj members => block level '\x7b' '\x7d' (indentedMembers (level + 1) members)
  | j => writeScalar .document j

def indentedItems (level : Nat) : List Json → List (List Char)
  | [] => []
  | j :: rest => indentedChars level j :: indentedItems level rest

def indentedMembers (level : Nat) : List (String × Json) → List (List Char)
  | [] => []
  | (k, j) :: rest =>
    (quoted k ++ ':' :: ' ' :: indentedChars level j) :: indentedMembers level rest

end

def indented (j : Json) : String := String.ofList (indentedChars 0 j)

/-- The order of members in the canonical form. Names are compared as they are written, with their
quotation marks and escapes. -/
def canonicalOrder (a b : List Char × List Char) : Bool := !(b.1 < a.1)

def writtenMember (m : List Char × List Char) : List Char := m.1 ++ ':' :: m.2

mutual

def canonicalChars : Json → List Char
  | .arr items => '[' :: (commaSeparated (canonicalItems items) ++ [']'])
  | .obj members =>
    '\x7b' :: (commaSeparated
      (((canonicalMembers members).mergeSort canonicalOrder).map writtenMember) ++ ['\x7d'])
  | j => writeScalar .canonical j

def canonicalItems : List Json → List (List Char)
  | [] => []
  | j :: rest => canonicalChars j :: canonicalItems rest

def canonicalMembers : List (String × Json) → List (List Char × List Char)
  | [] => []
  | (k, j) :: rest => (quoted k, canonicalChars j) :: canonicalMembers rest

end

end SelectiveDisclosure.Json
