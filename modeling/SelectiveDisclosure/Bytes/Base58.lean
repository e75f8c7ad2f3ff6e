import SelectiveDisclosure.Bytes.Radix

/-!
Base 58: a byte string as a number written with digits and letters that cannot be mistaken for one
another. A zero byte in front is written as the digit one. Reading works in an area of 132 bytes.
-/

namespace SelectiveDisclosure.Base58

/-- What is wrong with a base 58 text. Positions count bytes. `length` is a number that needs more
bytes than the work area has; `overrun` is a number that fits and leaves no room for the zero bytes
in front of it, where reading cannot go on at all. -/
inductive Error where
  | character (byte : UInt8) (position : Nat)
  | length
  | overrun
  deriving DecidableEq, Repr

def alphabet : List UInt8 :=
  [0x31, 0x32, 0x33, 0x34, 0x35, 0x36, 0x37, 0x38, 0x39,
   0x41, 0x42, 0x43, 0x44, 0x45, 0x46, 0x47, 0x48, 0x4A, 0x4B, 0x4C, 0x4D, 0x4E,
   0x50, 0x51, 0x52, 0x53, 0x54, 0x55, 0x56, 0x57, 0x58, 0x59, 0x5A,
   0x61, 0x62, 0x63, 0x64, 0x65, 0x66, 0x67, 0x68, 0x69, 0x6A, 0x6B,
   0x6D, 0x6E, 0x6F, 0x70, 0x71, 0x72, 0x73, 0x74, 0x75, 0x76, 0x77, 0x78, 0x79, 0x7A]

def zeroDigit : UInt8 := 0x31

def capacity : Nat := 132

def digitChar (d : Nat) : Char := Char.ofNat (alphabet.getD d zeroDigit).toNat

def digitValue? (b : UInt8) : Option Nat := alphabet.findIdx? (· == b)

def encode (bytes : List UInt8) : String :=
  let zeros := bytes.takeWhile (· == 0)
  let body := bytes.drop zeros.length
  let number := Radix.value 256 (body.map UInt8.toNat)
  let ds := (Radix.digits 58 (2 * body.length) number).dropWhile (· == 0)
  String.ofList ((List.replicate zeros.length 0 ++ ds).map digitChar)

/-- Reads digits from left to right. The number is checked after each digit, so a number that is too
large wins over a wrong character behind it. -/
def numberFrom (position number : Nat) : List UInt8 → Except Error Nat
  | [] => .ok number
  | b :: rest =>
    match digitValue? b with
    | none => .error (.character b position)
    | some d =>
      let next := number * 58 + d
      if next < Nat.pow 256 capacity then numberFrom (position + 1) next rest else .error .length

def decode (text : List UInt8) : Except Error (List UInt8) := do
  let zeros := (text.takeWhile (· == zeroDigit)).length
  let number ← numberFrom zeros 0 (text.drop zeros)
  let body := (Radix.digits 256 capacity number).dropWhile (· == 0)
  if capacity < zeros + body.length then throw .overrun
  return List.replicate zeros 0 ++ body.map UInt8.ofNat

end SelectiveDisclosure.Base58
