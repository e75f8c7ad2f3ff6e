/-!
The Gregorian calendar, extended to all years: dates as numbers of days since the first of January
1970. Years are counted from March, so that a leap day is the last of its year.
-/

namespace SelectiveDisclosure.Calendar

structure Date where
  year : Int
  month : Nat
  day : Nat
  deriving DecidableEq, Repr

def isLeap (year : Int) : Bool :=
  year % 4 == 0 && (year % 100 != 0 || year % 400 == 0)

def daysInMonth (year : Int) (month : Nat) : Nat :=
  if month = 2 then (if isLeap year then 29 else 28)
  else if month = 4 || month = 6 || month = 9 || month = 11 then 30
  else 31

def Date.exists? (d : Date) : Bool :=
  1 ≤ d.month && d.month ≤ 12 && 1 ≤ d.day && d.day ≤ daysInMonth d.year d.month

/-- Days from the first of March of the year 0 to the first of January 1970. -/
def epoch : Int := 719468

def cycle : Int := 146097

/-- Days from the first of March to a day, the months being counted from March on. -/
def dayOfYear (month day : Nat) : Int :=
  let m : Int := if 2 < month then (month : Int) - 3 else month + 9
  (153 * m + 2) / 5 + day - 1

def toDays (d : Date) : Int :=
  let year := if d.month ≤ 2 then d.year - 1 else d.year
  let y := year % 400
  (year / 400) * cycle + (y * 365 + y / 4 - y / 100 + dayOfYear d.month d.day) - epoch

def ofDays (days : Int) : Date :=
  let n := days + epoch
  let rest := n % cycle
  let y := (rest - rest / 1460 + rest / 36524 - rest / 146096) / 365
  let dayOfYear := rest - (365 * y + y / 4 - y / 100)
  let m := (5 * dayOfYear + 2) / 153
  let month := if m < 10 then m + 3 else m - 9
  let year := n / cycle * 400 + y
  { year := if month ≤ 2 then year + 1 else year
    month := month.toNat
    day := (dayOfYear - (153 * m + 2) / 5 + 1).toNat }

end SelectiveDisclosure.Calendar
