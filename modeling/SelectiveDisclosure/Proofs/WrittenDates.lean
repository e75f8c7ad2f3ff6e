import Mathlib.Algebra.Group.Nat.Defs
import Mathlib.Data.List.Basic
import SelectiveDisclosure.Proofs.CalendarDays
import SelectiveDisclosure.Timestamp.Reader

namespace SelectiveDisclosure.Timestamp

open Calendar (ofDays exists_ofDays toDays_ofDays)

section Digits

variable {width n : Nat}

theorem number_eq (ds : List Char) : number ds = Nat.ofDigitChars 10 ds 0 := by
  unfold number Nat.ofDigitChars
  congr 1
  funext n c
  rw [Nat.mul_comm]
  rfl

theorem number_padded (width n : Nat) : number (padded width n) = n := by
  have zeros (k : Nat) (ds : List Char) : number (List.replicate k '0' ++ ds) = number ds := by
    induction k with
    | zero => rfl
    | succ k ih => exact ih
  rw [padded, zeros, number_eq, Nat.ofDigitChars_toDigits (by decide) (by decide)]

theorem isDigit_padded (width n : Nat) : ∀ c ∈ padded width n, isDigit c := by
  intro c there
  rcases List.mem_append.mp there with zero | digit
  · rw [List.eq_of_mem_replicate zero]
    rfl
  · exact Nat.isDigit_of_mem_toDigits (by decide) (by decide) digit

theorem length_padded (some : 0 < width) (room : n < 10 ^ width) :
    (padded width n).length = width := by
  have short := (Nat.length_toDigits_le_iff (by decide) some).mpr room
  rw [padded, List.length_append, List.length_replicate]
  omega

theorem Strict.digits_padded (some : 0 < width) (room : n < 10 ^ width) (rest : List Char) :
    Strict.digits width (padded width n ++ rest) = .some (n, rest) := by
  have length := length_padded some room
  have all := List.all_eq_true.mpr (isDigit_padded width n)
  rw [Strict.digits, List.take_left' length, List.drop_left' length, number_padded]
  simp [length, all]

theorem Strict.fraction_padded (room : n < 1000) (rest : List Char)
    (ended : ∀ c ∈ rest.head?, isDigit c = false) :
    Strict.fraction ('.' :: (padded 3 n ++ rest)) = .some (n, rest) := by
  have length : (padded 3 n).length = 3 := length_padded (by decide) room
  have taken : (padded 3 n ++ rest).takeWhile isDigit = padded 3 n := by
    rw [List.takeWhile_append_of_pos (isDigit_padded 3 n)]
    cases rest with
    | nil => simp
    | cons c rest => simp [ended c rfl]
  have whole : fractionMillis (padded 3 n) = n := by
    have none : List.replicate (3 - 3) '0' = [] := rfl
    rw [fractionMillis, length, List.take_of_length_le (by omega), none, List.append_nil,
      number_padded]
  have some : (padded 3 n).isEmpty = false := by
    rw [Bool.eq_false_iff, ne_eq, List.isEmpty_iff]
    intro empty
    rw [empty] at length
    contradiction
  rw [Strict.fraction]
  simp only [taken, some, whole, List.drop_left, Bool.false_eq_true, if_false]

theorem Strict.mark_allowed {allowed : List Char} {c : Char} (member : c ∈ allowed)
    (rest : List Char) : Strict.mark allowed (c :: rest) = .some rest := if_pos member

theorem Strict.read?_fields {year month day hour minute second millis : Nat} (y : year < 10000)
    (m : month < 100) (d : day < 100) (h : hour < 100) (mi : minute < 100) (s : second < 100)
    (f : millis < 1000)
    (clock : Fields.areInRange ⟨year, month, day, hour, minute, second, millis⟩) :
    Strict.read? (padded 4 year ++ '-' :: (padded 2 month ++ '-' :: (padded 2 day ++ 'T' ::
      (padded 2 hour ++ ':' :: (padded 2 minute ++ ':' ::
        (padded 2 second ++ '.' :: (padded 3 millis ++ ['Z'])))))))
      = Fields.millis? ⟨year, month, day, hour, minute, second, millis⟩ := by
  have four := Strict.digits_padded (show 0 < 4 by decide) y
  have two {n : Nat} (room : n < 100) := Strict.digits_padded (show 0 < 2 by decide) room
  have fraction := Strict.fraction_padded f ['Z'] (by simp [isDigit])
  have step {α β : Type} {o : Option α} {a : α} (known : o = .some a) (f : α → Option β) :
      o >>= f = f a := by
    rw [known]
    rfl
  have mark {allowed : List Char} {c : Char} (member : c ∈ allowed) (rest : List Char)
      (f : List Char → Option Int) := step (Strict.mark_allowed member rest) f
  rw [Strict.read?]
  refine (step (four _) _).trans ?_
  refine (mark List.mem_cons_self _ _).trans ((step (two m _) _).trans ?_)
  refine (mark List.mem_cons_self _ _).trans ((step (two d _) _).trans ?_)
  refine (mark List.mem_cons_self _ _).trans ((step (two h _) _).trans ?_)
  refine (mark List.mem_cons_self _ _).trans ((step (two mi _) _).trans ?_)
  refine (mark List.mem_cons_self _ _).trans ((step (two s _) _).trans ?_)
  refine (step fraction _).trans ?_
  simp only [Strict.offset, clock]
  cases Fields.millis? ⟨year, month, day, hour, minute, second, millis⟩ with
  | none => simp
  | some n => simp

end Digits

def year (t : Timestamp) : Int := (ofDays (t.millis / 86400000)).year

theorem areInRange_clock (days : Int) {time : Nat} (within : time < 86400000) :
    Fields.areInRange ⟨(ofDays days).year, (ofDays days).month, (ofDays days).day, time / 3600000,
      time / 60000 % 60, time / 1000 % 60, time % 1000⟩ := by
  obtain ⟨january, december, first, last⟩ := Calendar.monthAndDay_ofDays days
  simp only [Fields.areInRange, Bool.and_eq_true, decide_eq_true_eq]
  omega

theorem millis?_clock (days : Int) (time : Nat) (reached : reachesYear (ofDays days).year) :
    Fields.millis? ⟨(ofDays days).year, (ofDays days).month, (ofDays days).day, time / 3600000,
      time / 60000 % 60, time / 1000 % 60, time % 1000⟩ = some (days * 86400000 + time) := by
  have clock : (time / 3600000 * 3600 + time / 60000 % 60 * 60 + time / 1000 % 60) * 1000
      + time % 1000 = time := by omega
  have date : Calendar.Date.mk (ofDays days).year (ofDays days).month (ofDays days).day
      = ofDays days := rfl
  simp only [Fields.millis?, date, reached, exists_ofDays, toDays_ofDays, clock, Bool.and_self,
    if_true]

theorem read?_clockChars {days : Int} {time : Nat} (low : 0 ≤ (ofDays days).year)
    (high : (ofDays days).year ≤ 9999) (within : time < 86400000) :
    Strict.read? (clockChars days time false) = some (days * 86400000 + time) := by
  obtain ⟨_, december, _, last⟩ := Calendar.monthAndDay_ofDays days
  have clock := areInRange_clock days within
  have reached : reachesYear (ofDays days).year := by
    simp only [reachesYear, Bool.and_eq_true, decide_eq_true_eq]
    omega
  have millis := millis?_clock days time reached
  obtain ⟨year, same⟩ := Int.eq_ofNat_of_zero_le low
  have written : yearChars (ofDays days).year = padded 4 year := by
    rw [yearChars, if_neg (by omega), if_neg (by omega), same, Int.natAbs_natCast]
  rw [same] at clock millis
  simp only [clockChars, written, Bool.false_eq_true, if_false]
  rw [Strict.read?_fields (by omega) (by omega) (by omega) (by omega) (by omega) (by omega)
    (by omega) clock, millis]

theorem le_latest_of_year (t : Timestamp) (high : t.year ≤ 9999) : t.millis ≤ latest := by
  by_contra late
  have upper := t.inRange.2
  unfold latest at late upper
  have day : t.millis / 86400000 = 95026237 := by omega
  rw [year, day] at high
  exact absurd high (by decide)

/-- A date of the years 0 to 9999 is read as it was written. -/
theorem parse_toIso8601 (t : Timestamp) (low : 0 ≤ t.year) (high : t.year ≤ 9999) :
    parse t.toIso8601 = .ok t := by
  have nonneg := Int.emod_nonneg t.millis (show (86400000 : Int) ≠ 0 by decide)
  have below := Int.emod_lt_of_pos t.millis (show (0 : Int) < 86400000 by decide)
  have within : (t.millis % 86400000).toNat < 86400000 := by omega
  have read := read?_clockChars low high within
  have whole : t.millis / 86400000 * 86400000 + ((t.millis % 86400000).toNat : Int) = t.millis := by
    omega
  rw [whole] at read
  rw [parse, toIso8601, if_pos (t.le_latest_of_year high), String.toList_ofList, read]
  simp only [ofMillisRead?, t.inRange, and_self, dite_true]

end SelectiveDisclosure.Timestamp
