import SelectiveDisclosure.Bytes.Hex
import SelectiveDisclosure.Bytes.Base58
import SelectiveDisclosure.Bytes.Fixed
import SelectiveDisclosure.Text.Quoted

namespace SelectiveDisclosure

inductive EncodingError where
  | missingHexMark (value : String)
  | hex (value : String) (cause : Hex.Error)
  | emptyBase58
  | base58 (value : String) (cause : Base58.Error)
  | length (expected actual : Nat)
  deriving DecidableEq, Repr

def quoteByte (b : UInt8) : String := Text.quoteChar (Char.ofNat b.toNat)

def Hex.Error.message : Hex.Error → String
  | .oddLength => "Odd number of digits"
  | .digit b i => s!"Invalid character {quoteByte b} at position {i}"

def Base58.Error.message : Base58.Error → String
  | .character b i => s!"InvalidBase58Character({quoteByte b}, {i})"
  | .length => "InvalidBase58Length"
  | .overrun => "no room for the leading zero bytes"

namespace EncodingError

def message : EncodingError → String
  | .missingHexMark value => s!"hex value {Text.quote value} is missing the 0x prefix"
  | .hex value cause => s!"invalid hex {Text.quote value}: {cause.message}"
  | .emptyBase58 => "invalid base58 \"\": empty input"
  | .base58 value cause => s!"invalid base58 {Text.quote value}: {cause.message}"
  | .length expected actual => s!"expected {expected} bytes, got {actual}"

def isBreakdown : EncodingError → Bool
  | .base58 _ .overrun => true
  | _ => false

end EncodingError

namespace Hex

def encodeMarked (bytes : List UInt8) : String := "0x" ++ encode bytes

def decodeMarked (value : String) : Except EncodingError (List UInt8) :=
  match utf8 value with
  | 0x30 :: 0x78 :: ds => (decode ds).mapError (.hex value)
  | _ => .error (.missingHexMark value)

end Hex

namespace Base58

def decodeText (value : String) : Except EncodingError (List UInt8) :=
  if value.isEmpty then .error .emptyBase58
  else (decode (utf8 value)).mapError (.base58 value)

end Base58

namespace FixedBytes

def ofList (n : Nat) (bytes : List UInt8) : Except EncodingError (FixedBytes n) :=
  match ofList? n bytes with
  | some b => .ok b
  | none => .error (.length n bytes.length)

end FixedBytes

end SelectiveDisclosure
