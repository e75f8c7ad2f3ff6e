import SelectiveDisclosure.Json.Writer
import SelectiveDisclosure.Text.Quoted

/-!
Decoding JSON values into typed ones. A record is given as an object or as the array of its fields
in their order. The members of an object are decoded in the order in which they stand, members of
unknown names are passed over, and only then is the first missing field reported.
-/

namespace SelectiveDisclosure.Json

/-- Why a value was refused. `ε` holds the causes of the texts inside: identifiers, digests,
dates. -/
inductive DecodeError (ε : Type) where
  | missingField (name : String)
  | repeatedField (name : String)
  | wrongType (found : Json) (expected : String)
  | wrongValue (found : Json) (expected : String)
  | wrongLength (found : Nat) (expected : String)
  | unknownVariant (name : String) (first second : String)
  | text (cause : ε)

def describe : Json → String
  | .null => "null"
  | .bool true => "boolean `true`"
  | .bool false => "boolean `false`"
  | .int n => s!"integer `{String.ofList (writeInt n)}`"
  | .float x => s!"floating point `{String.ofList (Decimal.Layout.document.write x)}`"
  | .str s => s!"string {Text.quote s}"
  | .arr _ => "sequence"
  | .obj _ => "map"

namespace DecodeError

variable {ε : Type}

def message (describeText : ε → String) : DecodeError ε → String
  | missingField name => s!"missing field `{name}`"
  | repeatedField name => s!"duplicate field `{name}`"
  | wrongType found expected => s!"invalid type: {found.describe}, expected {expected}"
  | wrongValue found expected => s!"invalid value: {found.describe}, expected {expected}"
  | wrongLength found expected => s!"invalid length {found}, expected {expected}"
  | unknownVariant name first second =>
    s!"unknown variant `{name}`, expected `{first}` or `{second}`"
  | text cause => describeText cause

end DecodeError

abbrev Decoder (ε α : Type) := Json → Except (DecodeError ε) α

namespace Decoder

variable {ε α β : Type}

def string : Decoder ε String
  | .str s => .ok s
  | j => .error (.wrongType j "a string")

def boolean : Decoder ε Bool
  | .bool b => .ok b
  | j => .error (.wrongType j "a boolean")

def word : Decoder ε UInt64
  | .int n =>
    if 0 ≤ n && n < Int.pow 2 64 then .ok (UInt64.ofNat n.toNat)
    else .error (.wrongValue (.int n) "u64")
  | j => .error (.wrongType j "u64")

def read (parse : String → Except ε α) : Decoder ε α := fun j => do
  (parse (← string j)).mapError .text

def optional (item : Decoder ε α) : Decoder ε (Option α)
  | .null => .ok none
  | j => (item j).map some

def list (item : Decoder ε α) : Decoder ε (List α)
  | .arr items => items.mapM item
  | j => .error (.wrongType j "a sequence")

def members : Decoder ε (OrderedMap String Json)
  | .obj members => .ok (OrderedMap.ofList members)
  | j => .error (.wrongType j "a map")

def insertMember {κ : Type} [LT κ] [DecidableLT κ] [Trans (α := κ) (· < ·) (· < ·) (· < ·)]
    [Std.Trichotomous (α := κ) (· < ·)] (key : String → Except ε κ) (value : Decoder ε α)
    (m : OrderedMap κ α) (member : String × Json) : Except (DecodeError ε) (OrderedMap κ α) := do
  let k ← (key member.1).mapError .text
  return m.insert k (← value member.2)

def map {κ : Type} [LT κ] [DecidableLT κ] [Trans (α := κ) (· < ·) (· < ·) (· < ·)]
    [Std.Trichotomous (α := κ) (· < ·)] (key : String → Except ε κ) (value : Decoder ε α) :
    Decoder ε (OrderedMap κ α)
  | .obj members => members.foldlM (insertMember key value) OrderedMap.empty
  | j => .error (.wrongType j "a map")

def fill (name : String) (place : Option α) (item : Decoder ε α) (j : Json) :
    Except (DecodeError ε) (Option α) :=
  match place with
  | some _ => .error (.repeatedField name)
  | none => (item j).map some

end Decoder

/-- Where a record stands. One inside a tagged record is read from values that were set aside while
the tag was looked for, and a surplus of fields is reported in other words there. -/
inductive Setting where
  | direct
  | setAside
  deriving DecidableEq

structure RecordForm where
  title : String
  fields : List String

namespace RecordForm

variable {ε α δ : Type}

def absentMember (name : String) : DecodeError ε := .missingField name

def absentItem (form : RecordForm) (name : String) : DecodeError ε :=
  .wrongLength (form.fields.idxOf name) s!"{form.title} with {form.fields.length} elements"

def checkCount (form : RecordForm) (setting : Setting) (count : Nat) :
    Except (DecodeError ε) Unit :=
  if count ≤ form.fields.length then .ok ()
  else match setting with
    | .direct => .error (.wrongLength count "fewer elements in array")
    | .setAside => .error (.wrongLength count s!"{form.fields.length} elements in sequence")

/-- Decodes a record. `put` decodes one field into the draft of the record, and `finish` makes the
record of the draft, given the error for a field that is not there. -/
def decode (form : RecordForm) (setting : Setting) (draft : δ)
    (put : δ → String → Json → Except (DecodeError ε) δ)
    (finish : (String → DecodeError ε) → δ → Except (DecodeError ε) α) : Decoder ε α
  | .obj members => do
    finish absentMember (← members.foldlM (fun d m => put d m.1 m.2) draft)
  | .arr items => do
    let d ← (form.fields.zip items).foldlM (fun d m => put d m.1 m.2) draft
    let record ← finish form.absentItem d
    form.checkCount setting items.length
    return record
  | j => .error (.wrongType j form.title)

def require (absent : String → DecodeError ε) (name : String) (place : Option α) :
    Except (DecodeError ε) α :=
  match place with
  | some a => .ok a
  | none => .error (absent name)

end RecordForm

end SelectiveDisclosure.Json
