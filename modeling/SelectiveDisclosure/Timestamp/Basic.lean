import SelectiveDisclosure.Text.Quoted
import SelectiveDisclosure.Timestamp.Calendar

namespace SelectiveDisclosure

namespace Timestamp

/-- The first millisecond of the year -262143. -/
def earliest : Int := -8334601228800000

/-- The last millisecond of the year 262142. -/
def latest : Int := 8210266876799999

end Timestamp

/-- Milliseconds since the first of January 1970. An instant may lie up to a second behind the
latest one: a leap second of the last minute, which no other minute can take up. -/
structure Timestamp where
  millis : Int
  inRange : Timestamp.earliest ≤ millis ∧ millis ≤ Timestamp.latest + 1000
  deriving DecidableEq

namespace Timestamp

theorem ext {a b : Timestamp} (h : a.millis = b.millis) : a = b := by cases a; cases b; simp_all

def ofMillis? (millis : Int) : Option Timestamp :=
  if h : earliest ≤ millis ∧ millis ≤ latest then
    some ⟨millis, h.1, Int.le_trans h.2 (by decide)⟩
  else none

def roundedSeconds (t : Timestamp) : Int := (t.millis + 500) / 1000

def padded (width n : Nat) : List Char :=
  let ds := Nat.toDigits 10 n
  List.replicate (width - ds.length) '0' ++ ds

def yearChars (year : Int) : List Char :=
  if year < 0 then '-' :: padded 4 year.natAbs
  else if 9999 < year then '+' :: padded 4 year.natAbs
  else padded 4 year.natAbs

/-- A day and a time of that day, in milliseconds. The time may reach into the second 60. -/
def clockChars (days : Int) (time : Nat) (leap : Bool) : List Char :=
  let date := Calendar.ofDays days
  let second := if leap then 60 else time / 1000 % 60
  yearChars date.year ++ '-' :: (padded 2 date.month ++ '-' :: (padded 2 date.day ++ 'T' ::
    (padded 2 (time / 3600000) ++ ':' :: (padded 2 (time / 60000 % 60) ++ ':' ::
      (padded 2 second ++ '.' :: (padded 3 (time % 1000) ++ ['Z']))))))

def toIso8601 (t : Timestamp) : String :=
  if t.millis ≤ latest then
    String.ofList (clockChars (t.millis / 86400000) (t.millis % 86400000).toNat false)
  else
    let time := ((t.millis - 1000) % 86400000).toNat
    String.ofList (clockChars ((t.millis - 1000) / 86400000) time true)

instance : ToString Timestamp := ⟨toIso8601⟩

end Timestamp

end SelectiveDisclosure
