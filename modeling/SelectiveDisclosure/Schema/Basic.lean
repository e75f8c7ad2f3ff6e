import SelectiveDisclosure.Error

/-!
Schemas: rules on the shape of a document. Every rule that is broken is reported, with the place in
the document and the place in the schema. A rule passes over values of a kind that it does not
speak of.
-/

namespace SelectiveDisclosure.Schema

abbrev CharClass := List (Char × Char)

def CharClass.holds (k : CharClass) (c : Char) : Bool := k.any fun r => r.1 ≤ c && c ≤ r.2

def CharClass.source (k : CharClass) : List Char :=
  '[' :: (k.flatMap fun r => [r.1, '-', r.2]) ++ [']']

inductive Ending where
  | anything
  | atLeastOne (k : CharClass)
  | exactly (count : Nat) (k : CharClass)

structure Pattern where
  head : String
  ending : Ending

namespace Pattern

def holds (p : Pattern) (s : String) : Bool :=
  match p.head.toList.isPrefixOf? s.toList with
  | none => false
  | some rest =>
    match p.ending with
    | .anything => true
    | .atLeastOne k => !rest.isEmpty && rest.all k.holds
    | .exactly count k => rest.length = count && rest.all k.holds

def source (p : Pattern) : String :=
  "^" ++ p.head ++ match p.ending with
    | .anything => ""
    | .atLeastOne k => String.ofList (k.source ++ ['+', '$'])
    | .exactly count k =>
      String.ofList (k.source ++ '\x7b' :: (Nat.toDigits 10 count ++ ['\x7d', '$']))

end Pattern

inductive Kind where
  | string
  | array
  | object

namespace Kind

def name : Kind → String
  | string => "string"
  | array => "array"
  | object => "object"

def holds : Kind → Json → Bool
  | string, .str _ => true
  | array, .arr _ => true
  | object, .obj _ => true
  | _, _ => false

end Kind

inductive Literal where
  | text (s : String)
  | truth (b : Bool)

namespace Literal

def toJson : Literal → Json
  | text s => .str s
  | truth b => .bool b

def holds : Literal → Json → Bool
  | text s, .str t => s == t
  | truth a, .bool b => a == b
  | _, _ => false

end Literal

/-- The rules of a schema, which are checked in the order of their names. -/
inductive Rule where
  | allOf (schemas : List (List Rule))
  | const (value : Literal)
  | contains (schema : List Rule)
  | enum (values : List Literal)
  | items (schema : List Rule)
  | minItems (count : Nat)
  | minLength (count : Nat)
  | pattern (p : Pattern)
  | leadingItems (schemas : List (List Rule))
  | properties (members : List (String × List Rule))
  | required (names : List String)
  | type (kind : Kind)

structure Place where
  document : String
  schema : String

namespace Place

def rule (p : Place) (name : String) : Place := { p with schema := p.schema ++ "/" ++ name }

def member (p : Place) (name : String) : Place := { p with document := p.document ++ "/" ++ name }

def report (p : Place) (message : String) : List Violation :=
  [⟨p.document, p.schema, message⟩]

end Place

def shown (j : Json) : String := j.compact

def counted (n : Nat) (noun : String) : String :=
  s!"{n} {noun}" ++ if n = 1 then "" else "s"

mutual

def Rule.check (place : Place) (j : Json) : Rule → List Violation
  | .allOf schemas => checkEach (place.rule "allOf") 0 j schemas
  | .const value =>
    if value.holds j then []
    else (place.rule "const").report s!"{shown value.toJson} was expected"
  | .contains schema =>
    match j with
    | .arr items =>
      if items.any fun item => (check (place.rule "contains") item schema).isEmpty then []
      else (place.rule "contains").report s!"None of {shown j} are valid under the given schema"
    | _ => []
  | .enum values =>
    if values.any (·.holds j) then []
    else (place.rule "enum").report
      s!"{shown j} is not one of {shown (.arr (values.map (·.toJson)))}"
  | .items schema =>
    match j with
    | .arr items => items.zipIdx.flatMap fun (item, i) =>
      check ((place.rule "items").member (toString i)) item schema
    | _ => []
  | .minItems count =>
    match j with
    | .arr items =>
      let several := counted count "item"
      if count ≤ items.length then []
      else (place.rule "minItems").report s!"{shown j} has less than {several}"
    | _ => []
  | .minLength count =>
    match j with
    | .str s =>
      let several := counted count "character"
      if count ≤ s.length then []
      else (place.rule "minLength").report s!"{shown j} is shorter than {several}"
    | _ => []
  | .pattern p =>
    match j with
    | .str s =>
      if p.holds s then []
      else (place.rule "pattern").report s!"{shown j} does not match \"{p.source}\""
    | _ => []
  | .leadingItems schemas =>
    match j with
    | .arr items => checkLeading (place.rule "prefixItems") 0 items schemas
    | _ => []
  | .properties members =>
    match j with
    | .obj _ => checkMembers (place.rule "properties") j members
    | _ => []
  | .required names =>
    match j with
    | .obj _ => names.flatMap fun name =>
      if (j.get? name).isSome then []
      else (place.rule "required").report s!"{shown (.str name)} is a required property"
    | _ => []
  | .type kind =>
    if kind.holds j then []
    else (place.rule "type").report s!"{shown j} is not of type \"{kind.name}\""

def check (place : Place) (j : Json) : List Rule → List Violation
  | [] => []
  | rule :: rest => rule.check place j ++ check place j rest

def checkEach (place : Place) (position : Nat) (j : Json) : List (List Rule) → List Violation
  | [] => []
  | schema :: rest =>
    check (place.rule (toString position)) j schema ++ checkEach place (position + 1) j rest

def checkLeading (place : Place) (position : Nat) (items : List Json) :
    List (List Rule) → List Violation
  | [] => []
  | schema :: rest =>
    match items with
    | [] => []
    | item :: items =>
      check ((place.rule (toString position)).member (toString position)) item schema
        ++ checkLeading place (position + 1) items rest

def checkMembers (place : Place) (j : Json) : List (String × List Rule) → List Violation
  | [] => []
  | (name, schema) :: rest =>
    (match j.get? name with
      | some value => check ((place.rule name).member name) value schema
      | none => []) ++ checkMembers place j rest

end

structure Named where
  name : String
  rules : List Rule

def Named.validate (schema : Named) (j : Json) : Except SchemaError Unit :=
  match check ⟨"", ""⟩ j.sorted schema.rules with
  | [] => .ok ()
  | violations => .error ⟨schema.name, violations⟩

end SelectiveDisclosure.Schema
