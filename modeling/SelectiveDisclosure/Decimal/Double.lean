namespace SelectiveDisclosure.Decimal

/-- What a significand and an exponent satisfy: a number of full width has all 53 bits, and below
the least full width the exponent is fixed. -/
def Finite (significand : Nat) (exponent : Int) : Prop :=
  significand < Nat.pow 2 53 ∧ -1074 ≤ exponent ∧ exponent ≤ 971
    ∧ (Nat.pow 2 52 ≤ significand ∨ exponent = -1074)

instance (m : Nat) (q : Int) : Decidable (Finite m q) := by unfold Finite; infer_instance

/-- The number `significand * 2 ^ exponent` with a sign, which zero has too. -/
structure Double where
  negative : Bool
  significand : Nat
  exponent : Int
  finite : Finite significand exponent
  deriving DecidableEq

namespace Double

def zero (negative : Bool) : Double := ⟨negative, 0, -1074, by decide⟩

def isZero (x : Double) : Bool := x.significand == 0

/-- The integer nearest to a quotient; of two equally near the even one. -/
def roundQuotient (n d : Nat) : Nat :=
  let low := n / d
  let rest := n % d
  if 2 * rest < d then low
  else if d < 2 * rest then low + 1
  else if low % 2 = 0 then low else low + 1

def power (base : Nat) (e : Int) : Nat × Nat :=
  if 0 ≤ e then (Nat.pow base e.toNat, 1) else (1, Nat.pow base (-e).toNat)

def leadingBit (n d : Nat) : Int :=
  let k : Int := (Nat.log2 n : Int) - (Nat.log2 d : Int)
  let (up, down) := power 2 k
  if d * up ≤ n * down then k else k - 1

def ofQuotient? (negative : Bool) (n d : Nat) : Option Double :=
  let q := max (leadingBit n d - 52) (-1074)
  let (up, down) := power 2 q
  let m := roundQuotient (n * down) (d * up)
  let (m, q) := if m = Nat.pow 2 53 then (Nat.pow 2 52, q + 1) else (m, q)
  if h : Finite m q then some ⟨negative, m, q, h⟩ else none

/-- The number nearest to `digits * 10 ^ exponent`, or none when it lies beyond the largest. Numbers
far outside the range of exponents need no arithmetic. -/
def ofDecimal? (negative : Bool) (digits : Nat) (exponent : Int) : Option Double :=
  if digits = 0 then some (zero negative)
  else
    let size : Int := (Nat.toDigits 10 digits).length + exponent
    if 310 < size then none
    else if size < -330 then some (zero negative)
    else
      let (up, down) := power 10 exponent
      ofQuotient? negative (digits * up) down

end Double

end SelectiveDisclosure.Decimal
