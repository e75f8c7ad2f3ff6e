import SelectiveDisclosure.Identifier.Hashed
import SelectiveDisclosure.Json.Writer

/-!
Claim types. A claim type is a schema, known by the digest of its canonical text. The member `$id`
on its top level is left out of that text, so that the schema can carry the id made of the digest.
-/

namespace SelectiveDisclosure

namespace CType

def idMember : String := "$id"

def withoutId : Json → Json
  | .obj members => .obj (members.filter fun m => m.1 != idMember)
  | j => j

def hashOf (schema : Json) : Hash256 :=
  blake2b (utf8 (String.ofList (withoutId schema).canonicalChars))

end CType

structure CType where
  schema : Json

namespace CType

def hash (t : CType) : Hash256 := hashOf t.schema

def id (t : CType) : CTypeId := ⟨t.hash⟩

end CType

end SelectiveDisclosure
