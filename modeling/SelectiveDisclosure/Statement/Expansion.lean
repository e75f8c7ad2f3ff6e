import SelectiveDisclosure.Error
import SelectiveDisclosure.Statement.Basic

/-!
Full names of properties. A property of a claim is named by the vocabulary of its claim type and
its key; identity and type have names of their own. The properties of a claim or of a credential
subject, under their full names and in the order of those, are its statements.
-/

namespace SelectiveDisclosure

abbrev Expanded := OrderedMap String Json

namespace Expanded

def idKey : String := "@id"
def typeKey : String := "@type"
def contextKey : String := "@context"
def vocabularyKey : String := "@vocab"

def statements (expanded : Expanded) : List Statement :=
  expanded.entries.map fun e => ⟨e.1, e.2⟩

def ofClaim (vocabulary : String) (owner : Option String) (contents : OrderedMap String Json) :
    Expanded :=
  let expanded := OrderedMap.ofList (contents.entries.map fun e => (vocabulary ++ e.1, e.2))
  match owner with
  | some owner => expanded.insert idKey (.str owner)
  | none => expanded

def vocabulary? (subject : OrderedMap String Json) : Option String := do
  let context ← subject.get? contextKey
  (← context.get? vocabularyKey).asString?

def vocabulary (subject : OrderedMap String Json) : Except ExpansionError String :=
  match vocabulary? subject with
  | some v => .ok v
  | none => .error .missingVocabulary

def fullName? (vocabulary key : String) : Option String :=
  if key = contextKey then none
  else if key = "id" || key = idKey then some idKey
  else if key = "type" || key = typeKey then some typeKey
  else some (vocabulary ++ key)

/-- Adds properties in the order of their keys, each with the key it came from. Two keys must not
have one full name. -/
def expandFrom (vocabulary : String) (done : OrderedMap String (String × Json)) :
    List (String × Json) → Except ExpansionError (OrderedMap String (String × Json))
  | [] => .ok done
  | (key, value) :: rest =>
    match fullName? vocabulary key with
    | none => expandFrom vocabulary done rest
    | some name =>
      match done.get? name with
      | some (first, _) => .error (.repeatedProperty name first key)
      | none => expandFrom vocabulary (done.insert name (key, value)) rest

def ofSubject (subject : OrderedMap String Json) : Except ExpansionError Expanded := do
  let vocabulary ← vocabulary subject
  let named ← expandFrom vocabulary OrderedMap.empty subject.entries
  return named.mapValues fun _ v => v.2

end Expanded

end SelectiveDisclosure
