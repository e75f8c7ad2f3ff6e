import SelectiveDisclosure.Digest.Blake2b
import SelectiveDisclosure.Encoding

namespace SelectiveDisclosure

abbrev Hash256 := FixedBytes 32

namespace Hash256

instance : LawfulBEq Hash256 := inferInstance

instance : Std.Trichotomous (α := Hash256) (· < ·) := inferInstance

def size : Nat := 32

def ofBytes (bytes : List UInt8) : Except EncodingError Hash256 := FixedBytes.ofList 32 bytes

def toHex (h : Hash256) : String := Hex.encodeMarked h.toList

def ofHex (value : String) : Except EncodingError Hash256 := Hex.decodeMarked value >>= ofBytes

def toBase58 (h : Hash256) : String := Base58.encode h.toList

def ofBase58 (value : String) : Except EncodingError Hash256 := Base58.decodeText value >>= ofBytes

instance : ToString Hash256 := ⟨toHex⟩

end Hash256

def blake2b (data : List UInt8) : Hash256 := Blake2b.digest data

def blake2bConcat (parts : List (List UInt8)) : Hash256 := blake2b parts.flatten

end SelectiveDisclosure
