import SelectiveDisclosure.Digest.Hash256
import SelectiveDisclosure.Json.Writer
import SelectiveDisclosure.Text.Normalization

/-!
Statements: single properties in the text that is hashed. The text is the canonical form of an
object with one member, composed after it is complete, so that it does not depend on the order in
which members were given or on the spelling of accents in strings. Members are in order before that,
by their names as given, so the spelling of a name can still decide where its member stands.
-/

namespace SelectiveDisclosure

structure Statement where
  key : String
  value : Json

namespace Statement

def text (s : Statement) : String :=
  String.ofList (Text.normalize (Json.obj [(s.key, s.value)]).canonicalChars)

def bytes (s : Statement) : List UInt8 := utf8 s.text

def digest (s : Statement) : Hash256 := blake2b s.bytes

end Statement

end SelectiveDisclosure
