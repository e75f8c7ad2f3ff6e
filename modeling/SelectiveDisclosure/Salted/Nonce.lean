import SelectiveDisclosure.Error
import SelectiveDisclosure.Statement.Basic

namespace SelectiveDisclosure

abbrev NonceMap := OrderedMap Hash256 String

namespace Nonce

def mark (bytes : List UInt8) : List UInt8 :=
  (bytes.modify 6 fun b => (b &&& 0x0F) ||| 0x40).modify 8 fun b => (b &&& 0x3F) ||| 0x80

def uuid (random : Fin 16 → UInt8) : String :=
  let bytes := mark (List.ofFn random)
  "-".intercalate [Hex.encode (bytes.take 4), Hex.encode ((bytes.drop 4).take 2),
    Hex.encode ((bytes.drop 6).take 2), Hex.encode ((bytes.drop 8).take 2),
    Hex.encode (bytes.drop 10)]

def isLowerHex (c : Char) : Bool := c.isDigit || ('a' ≤ c && c ≤ 'f')

def isUuid (s : String) : Bool :=
  match Text.partsAt '-' s.toList with
  | [a, b, c, d, e] =>
    a.length = 8 && b.length = 4 && c.length = 4 && d.length = 4 && e.length = 12
      && [a, b, c, d, e].all (·.all isLowerHex)
      && c.head? = some '4'
      && (match d.head? with
        | some m => m = '8' || m = '9' || m = 'a' || m = 'b'
        | none => false)
  | _ => false

end Nonce

/-- Where nonces come from: random bytes, sixteen for each statement; a map of known nonces; or a
function of the digest. -/
inductive NonceSource where
  | generate (random : Nat → UInt8)
  | fixed (nonces : NonceMap)
  | custom (nonce : Hash256 → String)

namespace NonceSource

def describe : NonceSource → String
  | generate _ => "Generate"
  | fixed nonces => s!"Fixed({nonces.size} entries)"
  | custom _ => "Custom(..)"

def nonceFor (source : NonceSource) (position : Nat) (s : Statement) (digest : Hash256) :
    Except StatementError String :=
  match source with
  | generate random => .ok (Nonce.uuid fun i => random (16 * position + i.val))
  | fixed nonces =>
    match nonces.get? digest with
    | some nonce => .ok nonce
    | none => .error (.noProof s.key digest)
  | custom nonce => .ok (nonce digest)

end NonceSource

end SelectiveDisclosure
