import SelectiveDisclosure.Identifier.Error
import SelectiveDisclosure.Text.Cut

namespace SelectiveDisclosure

namespace Did

def isMethodChar (c : Char) : Bool := c.isLower || c.isDigit

def isIdChar (c : Char) : Bool := c.isAlphanum || c = ':' || c = '.' || c = '-' || c = '_'

def parts? : List Char → Option (List Char × List Char)
  | 'd' :: 'i' :: 'd' :: ':' :: rest => Text.cutAt? ':' rest
  | _ => none

def isWellFormed (cs : List Char) : Bool :=
  match parts? cs with
  | some (method, id) =>
    !method.isEmpty && method.all isMethodChar && !id.isEmpty && id.all isIdChar
  | none => false

end Did

structure Did where
  text : String
  wellFormed : Did.isWellFormed text.toList
  deriving DecidableEq

namespace Did

def parse (value : String) : Except IdentifierError Did :=
  if h : isWellFormed value.toList then .ok ⟨value, h⟩ else .error (.did value)

def method (d : Did) : String :=
  match parts? d.text.toList with
  | some (method, _) => String.ofList method
  | none => ""

instance : ToString Did := ⟨text⟩

theorem ext {a b : Did} (h : a.text = b.text) : a = b := by cases a; cases b; simp_all

theorem parse_text (d : Did) : parse d.text = .ok d := by simp [parse, d.wellFormed]

end Did

end SelectiveDisclosure
