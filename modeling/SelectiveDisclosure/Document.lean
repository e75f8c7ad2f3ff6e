import SelectiveDisclosure.Identifier.Chain
import SelectiveDisclosure.Identifier.Did
import SelectiveDisclosure.Identifier.Hashed
import SelectiveDisclosure.Json.Decoder
import SelectiveDisclosure.Timestamp.Reader

namespace SelectiveDisclosure

inductive TextError where
  | encoding (cause : EncodingError)
  | identifier (cause : IdentifierError)
  | date (cause : Timestamp.DateError)
  deriving DecidableEq, Repr

namespace TextError

def message : TextError → String
  | encoding cause => cause.message
  | identifier cause => cause.message
  | date cause => s!"structure error: {cause.message}"

def isBreakdown : TextError → Bool
  | encoding cause => cause.isBreakdown
  | identifier cause => cause.isBreakdown
  | date _ => false

end TextError

abbrev DocumentError := Json.DecodeError TextError

namespace DocumentError

def message (e : DocumentError) : String := Json.DecodeError.message TextError.message e

def isBreakdown : DocumentError → Bool
  | .text cause => cause.isBreakdown
  | _ => false

end DocumentError

abbrev Decoder := Json.Decoder TextError

def Hash256.ofText (value : String) : Except TextError Hash256 :=
  (Hash256.ofHex value).mapError .encoding

namespace Decoder

def hash : Decoder Hash256 := Json.Decoder.read Hash256.ofText

def did : Decoder Did := Json.Decoder.read fun s => (Did.parse s).mapError .identifier

def ctypeId : Decoder CTypeId := Json.Decoder.read fun s => (CTypeId.parse s).mapError .identifier

def credentialId : Decoder CredentialId :=
  Json.Decoder.read fun s => (CredentialId.parse s).mapError .identifier

def delegationId : Decoder DelegationId :=
  Json.Decoder.read fun s => (DelegationId.parse s).mapError .identifier

def statusId : Decoder AttestationStatusId :=
  Json.Decoder.read fun s => (AttestationStatusId.parse s).mapError .identifier

def timestamp : Decoder Timestamp :=
  Json.Decoder.read fun s => (Timestamp.parse s).mapError .date

end Decoder

namespace Json

def ofText {α : Type} [ToString α] (a : α) : Json := .str (toString a)

def ofOption {α : Type} (write : α → Json) : Option α → Json
  | some a => write a
  | none => .null

def optionalMember {α : Type} (name : String) (write : α → Json) : Option α → List (String × Json)
  | some a => [(name, write a)]
  | none => []

def ofMapWith {κ ν : Type} [LT κ] (name : κ → String) (write : ν → Json) (m : OrderedMap κ ν) :
    Json :=
  .obj (m.entries.map fun e => (name e.1, write e.2))

end Json

end SelectiveDisclosure
