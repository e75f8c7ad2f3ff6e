namespace SelectiveDisclosure.Hex

inductive Error where
  | oddLength
  | digit (byte : UInt8) (position : Nat)
  deriving DecidableEq, Repr

def digitChar (n : UInt8) : Char :=
  if n < 10 then Char.ofNat (0x30 + n.toNat) else Char.ofNat (0x57 + n.toNat)

def pair (b : UInt8) : List Char := [digitChar (b >>> 4), digitChar (b &&& 0xF)]

def encode (bytes : List UInt8) : String := String.ofList (bytes.flatMap pair)

def digitValue? (b : UInt8) : Option UInt8 :=
  if 0x30 ≤ b && b ≤ 0x39 then some (b - 0x30)
  else if 0x61 ≤ b && b ≤ 0x66 then some (b - 0x57)
  else if 0x41 ≤ b && b ≤ 0x46 then some (b - 0x37)
  else none

def decodeFrom (position : Nat) : List UInt8 → Except Error (List UInt8)
  | high :: low :: rest =>
    match digitValue? high, digitValue? low with
    | none, _ => .error (.digit high position)
    | some _, none => .error (.digit low (position + 1))
    | some h, some l => (decodeFrom (position + 2) rest).map ((h <<< 4 ||| l) :: ·)
  | [_] => .error .oddLength
  | [] => .ok []

/-- Reads the bytes of a text. An odd number of digits is found before any wrong digit. -/
def decode (text : List UInt8) : Except Error (List UInt8) :=
  if text.length % 2 = 1 then .error .oddLength else decodeFrom 0 text

end SelectiveDisclosure.Hex
