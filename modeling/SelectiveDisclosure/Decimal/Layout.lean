import SelectiveDisclosure.Decimal.Shortest

namespace SelectiveDisclosure.Decimal

/-- The decisions of a format. `lowest` and `highest` are the exponents of the leading digit between
which no exponent is written. -/
structure Layout where
  lowest : Int
  highest : Int
  keepsPoint : Bool
  signsZero : Bool

def Layout.document : Layout := ⟨-5, 15, true, true⟩

def Layout.canonical : Layout := ⟨-6, 20, false, false⟩

def zeros (n : Int) : List Char := List.replicate n.toNat '0'

def Layout.place (layout : Layout) (ds : List Char) (exponent : Int) : List Char :=
  let count : Int := ds.length
  if layout.lowest ≤ exponent && exponent ≤ layout.highest then
    if count ≤ exponent + 1 then
      ds ++ zeros (exponent + 1 - count) ++ (if layout.keepsPoint then ['.', '0'] else [])
    else if 0 ≤ exponent then
      ds.take (exponent + 1).toNat ++ '.' :: ds.drop (exponent + 1).toNat
    else ['0', '.'] ++ zeros (-exponent - 1) ++ ds
  else
    let fraction := if ds.length ≤ 1 then [] else '.' :: ds.drop 1
    let sign := if exponent < 0 then '-' else '+'
    ds.take 1 ++ fraction ++ 'e' :: sign :: Nat.toDigits 10 exponent.natAbs

def Layout.write (layout : Layout) (x : Double) : List Char :=
  if x.isZero then
    (if layout.signsZero && x.negative then ['-'] else [])
      ++ '0' :: (if layout.keepsPoint then ['.', '0'] else [])
  else
    let (digits, exponent) := shortest x
    let ds := Nat.toDigits 10 digits
    (if x.negative then ['-'] else []) ++ layout.place ds (exponent + ds.length - 1)

end SelectiveDisclosure.Decimal
