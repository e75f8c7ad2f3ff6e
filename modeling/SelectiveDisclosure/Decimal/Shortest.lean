import SelectiveDisclosure.Decimal.Double

namespace SelectiveDisclosure.Decimal

/-- The real numbers that round to a double: from `low` to `high` in units of `up / down`, the ends
included when the significand is even. -/
structure Interval where
  low : Nat
  middle : Nat
  high : Nat
  up : Nat
  down : Nat
  closed : Bool

def Interval.of (x : Double) : Interval :=
  let (up, down) := Double.power 2 (x.exponent - 2)
  let m := x.significand
  let below := if m = Nat.pow 2 52 && x.exponent != -1074 then 4 * m - 1 else 4 * m - 2
  ⟨below, 4 * m, 4 * m + 2, up, down, m % 2 == 0⟩

def Interval.holds (i : Interval) (digits : Nat) (exponent : Int) : Bool :=
  let (tensUp, tensDown) := Double.power 10 exponent
  let point := digits * tensUp * i.down
  let scale := i.up * tensDown
  if i.closed then i.low * scale ≤ point && point ≤ i.high * scale
  else i.low * scale < point && point < i.high * scale

def Interval.magnitude (i : Interval) : Int :=
  let n := i.middle * i.up
  if i.down ≤ n then (Nat.toDigits 10 (n / i.down)).length
  else 1 - (Nat.toDigits 10 ((i.down - 1) / n)).length

/-- The nearer of the value's two neighbours among the multiples of `10 ^ exponent` that lie in the
interval; of two equally near the even one. -/
def Interval.neighbour? (i : Interval) (exponent : Int) : Option Nat :=
  let (tensUp, tensDown) := Double.power 10 exponent
  let n := i.middle * i.up * tensDown
  let d := i.down * tensUp
  let low := n / d
  let nearest := Double.roundQuotient n d
  if i.holds nearest exponent then some nearest
  else if i.holds low exponent then some low
  else if i.holds (low + 1) exponent then some (low + 1)
  else none

def stripZeros : Nat → Nat → Int → Nat × Int
  | 0, digits, exponent => (digits, exponent)
  | fuel + 1, digits, exponent =>
    if digits % 10 = 0 then stripZeros fuel (digits / 10) (exponent + 1) else (digits, exponent)

def Interval.shortestFrom (i : Interval) (count : Nat) : Nat → Nat × Int
  | 0 => (i.middle, 0)
  | fuel + 1 =>
    let exponent := i.magnitude - count
    match i.neighbour? exponent with
    | some digits => stripZeros 17 digits exponent
    | none => i.shortestFrom (count + 1) fuel

def shortest (x : Double) : Nat × Int := (Interval.of x).shortestFrom 1 17

end SelectiveDisclosure.Decimal
