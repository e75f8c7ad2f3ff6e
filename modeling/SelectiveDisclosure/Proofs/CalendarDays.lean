import SelectiveDisclosure.Timestamp.Calendar

namespace SelectiveDisclosure.Calendar

def leapless (rest : Int) : Int := rest - rest / 1460 + rest / 36524 - rest / 146096

def yearStart (year : Int) : Int := 365 * year + year / 4 - year / 100

theorem leapless_step (rest : Int) : leapless rest ≤ leapless (rest + 1) := by
  unfold leapless
  omega

theorem leapless_mono {a b : Int} (le : a ≤ b) : leapless a ≤ leapless b := by
  obtain ⟨k, rfl⟩ := Int.le.dest le
  clear le
  induction k with
  | zero => simp only [Int.natCast_zero, Int.add_zero, Int.le_refl]
  | succ k ih =>
    rw [Int.natCast_succ, ← Int.add_assoc]
    exact Int.le_trans ih (leapless_step _)

theorem leapless_yearStart : ∀ y : Nat, y < 400 → 365 * (y : Int) ≤ leapless (yearStart y)
    ∧ (0 < y → leapless (yearStart y - 1) < 365 * y) := by decide +kernel

theorem yearStart_succ : ∀ y : Nat, y < 400 → yearStart (y + 1) ≤ yearStart y + 366
    ∧ (yearStart (y + 1) = yearStart y + 366 → isLeap (y + 1)) := by decide +kernel

/-- The year of a day of a cycle starts with the day or in front of it, and ends behind it. -/
theorem within_year {rest : Int} (low : 0 ≤ rest) (high : rest < cycle) :
    ∃ y : Nat, y < 400 ∧ leapless rest / 365 = y ∧ yearStart y ≤ rest
      ∧ rest ≤ yearStart y + 365 ∧ (rest = yearStart y + 365 → isLeap (y + 1)) := by
  have bounds : 0 ≤ leapless rest / 365 ∧ leapless rest / 365 < 400 := by
    unfold leapless
    unfold cycle at high
    omega
  obtain ⟨y, year⟩ := Int.eq_ofNat_of_zero_le bounds.1
  have small : y < 400 := by omega
  obtain ⟨atStart, before⟩ := leapless_yearStart y small
  refine ⟨y, small, year, ?_⟩
  have started : yearStart y ≤ rest := by
    rcases Nat.eq_zero_or_pos y with rfl | positive
    · exact low
    · have early := before positive
      by_cases late : rest ≤ yearStart y - 1
      · have mono := leapless_mono late
        omega
      · omega
  refine ⟨started, ?_⟩
  obtain ⟨length, leap⟩ := yearStart_succ y small
  by_cases last : y + 1 < 400
  · have next := (leapless_yearStart (y + 1) last).1
    have ended : rest < yearStart (y + 1) := by
      by_cases late : yearStart (y + 1) ≤ rest
      · have mono := leapless_mono late
        rw [Int.natCast_succ] at next
        omega
      · omega
    refine ⟨by omega, fun lastDay => leap (by omega)⟩
  · obtain rfl : y = 399 := by omega
    have start : yearStart (399 : Nat) = 145731 := by decide
    rw [start]
    unfold cycle at high
    exact ⟨by omega, fun _ => by decide⟩

/-- Month and day of a day of a year, the first day of March being day zero. -/
def monthAndDay (d : Nat) : Nat × Nat :=
  let m := (5 * d + 2) / 153
  (if m < 10 then m + 3 else m - 9, d - (153 * m + 2) / 5 + 1)

def dateOf (era : Int) (y d : Nat) : Date :=
  let (month, day) := monthAndDay d
  { year := if month ≤ 2 then era * 400 + y + 1 else era * 400 + y, month, day }

theorem monthAndDay_exists : ∀ d : Nat, d < 366 →
    1 ≤ (monthAndDay d).1 ∧ (monthAndDay d).1 ≤ 12 ∧ 1 ≤ (monthAndDay d).2
    ∧ dayOfYear (monthAndDay d).1 (monthAndDay d).2 = d
    ∧ ((monthAndDay d).2 ≤ daysInMonth 1 (monthAndDay d).1
      ∨ d = 365 ∧ (monthAndDay d).1 = 2 ∧ (monthAndDay d).2 = 29) := by
  decide +kernel

theorem ofDays_eq {days : Int} {y d : Nat} (year : leapless ((days + epoch) % cycle) / 365 = y)
    (day : (days + epoch) % cycle - yearStart y = d) :
    ofDays days = dateOf ((days + epoch) / cycle) y d := by
  unfold leapless at year
  unfold yearStart at day
  unfold ofDays dateOf monthAndDay
  simp only [year, day]
  have count : (5 * (d : Int) + 2) / 153 = ((5 * d + 2) / 153 : Nat) := by omega
  have started : (153 * ((5 * d + 2) / 153) + 2) / 5 ≤ d := by omega
  rw [count]
  generalize (5 * d + 2) / 153 = m at started
  rw [Date.mk.injEq]
  by_cases early : m < 10
  · have early' : (m : Int) < 10 := by omega
    simp only [early, early', if_true]
    rw [if_neg (show ¬ (m : Int) + 3 ≤ 2 by omega), if_neg (show ¬ m + 3 ≤ 2 by omega)]
    exact ⟨rfl, by omega, by omega⟩
  · have late : ¬ (m : Int) < 10 := by omega
    simp only [early, late, if_false]
    refine ⟨?_, by omega, by omega⟩
    split <;> split <;> omega

theorem exists_parts (days : Int) : ∃ (era : Int) (y d : Nat), y < 400 ∧ d < 366
    ∧ (d = 365 → isLeap (y + 1)) ∧ days = era * cycle + yearStart y + d - epoch
    ∧ ofDays days = dateOf era y d := by
  have low := Int.emod_nonneg (days + epoch) (b := cycle) (by decide)
  have high := Int.emod_lt_of_pos (days + epoch) (b := cycle) (by decide)
  obtain ⟨y, small, year, started, ended, leap⟩ := within_year low high
  obtain ⟨d, day⟩ := Int.eq_ofNat_of_zero_le (Int.sub_nonneg_of_le started)
  refine ⟨(days + epoch) / cycle, y, d, small, by omega, ?_, ?_, ?_⟩
  · intro last
    exact leap (by omega)
  · have parts := Int.mul_ediv_add_emod (days + epoch) cycle
    rw [Int.mul_comm] at parts
    omega
  · exact ofDays_eq year day

theorem toDays_dateOf (era : Int) {y d : Nat} (small : y < 400) (within : d < 366) :
    toDays (dateOf era y d) = era * cycle + yearStart y + d - epoch := by
  obtain ⟨_, _, _, day, _⟩ := monthAndDay_exists d within
  have year : (if (dateOf era y d).month ≤ 2 then (dateOf era y d).year - 1
      else (dateOf era y d).year) = era * 400 + y := by
    simp only [dateOf]
    split <;> omega
  have era_eq : (era * 400 + y) / 400 = era := by omega
  have year_eq : (era * 400 + y) % 400 = y := by omega
  simp only [toDays, year, era_eq, year_eq, yearStart]
  simp only [dateOf, day]
  omega

theorem daysInMonth_le (year : Int) (month : Nat) :
    daysInMonth 1 month ≤ daysInMonth year month := by
  unfold daysInMonth
  split
  · have common : isLeap 1 = false := by decide
    rw [common]
    change 28 ≤ _
    split <;> decide
  · exact Nat.le_refl _

theorem isLeap_cycle (era year : Int) : isLeap (era * 400 + year) = isLeap year := by
  unfold isLeap
  have by4 : (era * 400 + year) % 4 = year % 4 := by omega
  have by100 : (era * 400 + year) % 100 = year % 100 := by omega
  have by400 : (era * 400 + year) % 400 = year % 400 := by omega
  rw [by4, by100, by400]

theorem exists_dateOf (era : Int) {y d : Nat} (within : d < 366)
    (leap : d = 365 → isLeap (y + 1)) : (dateOf era y d).exists? := by
  obtain ⟨january, december, first, _, last⟩ := monthAndDay_exists d within
  have short : (monthAndDay d).2 ≤ daysInMonth (dateOf era y d).year (monthAndDay d).1 := by
    rcases last with short | ⟨atEnd, february, last⟩
    · exact Nat.le_trans short (daysInMonth_le ..)
    · have year : (dateOf era y d).year = era * 400 + (y + 1) := by
        simp only [dateOf, february]
        omega
      rw [last, february, year, daysInMonth, isLeap_cycle, leap atEnd]
      decide
  have day : (dateOf era y d).day = (monthAndDay d).2 := rfl
  have month : (dateOf era y d).month = (monthAndDay d).1 := rfl
  simp only [Date.exists?, day, month, january, december, first, short, decide_true, Bool.and_self]

theorem toDays_ofDays (days : Int) : toDays (ofDays days) = days := by
  obtain ⟨era, y, d, small, within, _, parts, date⟩ := exists_parts days
  rw [date, toDays_dateOf era small within, parts]

theorem exists_ofDays (days : Int) : (ofDays days).exists? := by
  obtain ⟨era, y, d, _, within, leap, _, date⟩ := exists_parts days
  rw [date]
  exact exists_dateOf era within leap

theorem daysInMonth_le_31 (year : Int) (month : Nat) : daysInMonth year month ≤ 31 := by
  unfold daysInMonth
  split
  · split <;> decide
  · split <;> decide

theorem monthAndDay_ofDays (days : Int) : 1 ≤ (ofDays days).month ∧ (ofDays days).month ≤ 12
    ∧ 1 ≤ (ofDays days).day ∧ (ofDays days).day ≤ 31 := by
  have there := exists_ofDays days
  simp only [Date.exists?, Bool.and_eq_true, decide_eq_true_eq] at there
  obtain ⟨⟨⟨january, december⟩, first⟩, last⟩ := there
  exact ⟨january, december, first, Nat.le_trans last (daysInMonth_le_31 ..)⟩

end SelectiveDisclosure.Calendar
