import Mathlib.Algebra.Order.Field.Power
import Mathlib.Algebra.Order.Field.Rat
import Mathlib.Tactic.Linarith
import Mathlib.Tactic.NormNum
import Mathlib.Tactic.Positivity
import Mathlib.Tactic.SplitIfs
import SelectiveDisclosure.Decimal.Shortest

/-!
Which decimal numbers can be read as a double. The largest double has a neighbour below but none
above; whatever lies less than half a step above it is still read as this double, and that is where
the interval of decimal numbers that may be written for it ends. What is written for a double can
therefore be read again.
-/

namespace SelectiveDisclosure.Decimal

def ceiling : ℚ := (2 ^ 53 - 1 / 2) * 2 ^ 971

namespace Double

theorem power_spec {base : Nat} (positive : 0 < base) (e : Int) :
    0 < (power base e).1 ∧ 0 < (power base e).2
      ∧ ((power base e).1 : ℚ) / (power base e).2 = (base : ℚ) ^ e := by
  rw [power]
  split
  · rename_i up
    refine ⟨Nat.pow_pos positive, Nat.one_pos, ?_⟩
    obtain ⟨k, rfl⟩ := Int.eq_ofNat_of_zero_le up
    simp [Nat.pow_eq]
  · rename_i down
    refine ⟨Nat.one_pos, Nat.pow_pos positive, ?_⟩
    obtain ⟨k, rfl⟩ : ∃ k : Nat, e = -(k : Int) := ⟨(-e).toNat, by omega⟩
    simp [Nat.pow_eq]

theorem power_two (e : Int) : ((power 2 e).1 : ℚ) / (power 2 e).2 = 2 ^ e := by
  exact_mod_cast (power_spec Nat.two_pos e).2.2

theorem power_ten (e : Int) : ((power 10 e).1 : ℚ) / (power 10 e).2 = 10 ^ e := by
  exact_mod_cast (power_spec (by decide) e).2.2

theorem two_zpow_pos (e : Int) : (0 : ℚ) < 2 ^ e := zpow_pos two_pos e

theorem log2_spec {n : Nat} (positive : 0 < n) :
    (2 : ℚ) ^ (Nat.log2 n : Int) ≤ n ∧ (n : ℚ) < 2 ^ ((Nat.log2 n : Int) + 1) := by
  constructor
  · exact_mod_cast Nat.log2_self_le positive.ne'
  · exact_mod_cast Nat.lt_log2_self (n := n)

theorem leadingBit_spec {n d : Nat} (numerator : 0 < n) (denominator : 0 < d) :
    (2 : ℚ) ^ leadingBit n d ≤ n / d ∧ (n : ℚ) / d < 2 ^ (leadingBit n d + 1) := by
  obtain ⟨nLow, nHigh⟩ := log2_spec numerator
  obtain ⟨dLow, dHigh⟩ := log2_spec denominator
  have positive : (0 : ℚ) < d := by exact_mod_cast denominator
  obtain ⟨_, below, _⟩ := power_spec Nat.two_pos ((Nat.log2 n : Int) - Nat.log2 d)
  have decided : d * (power 2 ((Nat.log2 n : Int) - Nat.log2 d)).1
      ≤ n * (power 2 ((Nat.log2 n : Int) - Nat.log2 d)).2
        ↔ (2 : ℚ) ^ ((Nat.log2 n : Int) - Nat.log2 d) ≤ n / d := by
    rw [← power_two, div_le_div_iff₀ (by exact_mod_cast below) positive, mul_comm d]
    exact_mod_cast Iff.rfl
  rw [leadingBit]
  dsimp only
  split
  · rename_i reached
    refine ⟨decided.mp reached, ?_⟩
    rw [div_lt_iff₀ positive]
    calc (n : ℚ)
      _ < 2 ^ ((Nat.log2 n : Int) - Nat.log2 d + 1) * 2 ^ (Nat.log2 d : Int) := by
        rw [← zpow_add₀ two_ne_zero]
        exact nHigh.trans_eq (congrArg _ (by omega))
      _ ≤ _ := mul_le_mul_of_nonneg_left dLow (two_zpow_pos _).le
  · rename_i missed
    refine ⟨?_, ?_⟩
    · rw [le_div_iff₀ positive]
      calc (2 : ℚ) ^ ((Nat.log2 n : Int) - Nat.log2 d - 1) * d
        _ ≤ 2 ^ ((Nat.log2 n : Int) - Nat.log2 d - 1) * 2 ^ ((Nat.log2 d : Int) + 1) :=
          mul_le_mul_of_nonneg_left dHigh.le (two_zpow_pos _).le
        _ = 2 ^ (Nat.log2 n : Int) := by
          rw [← zpow_add₀ two_ne_zero]
          exact congrArg _ (by omega)
        _ ≤ n := nLow
    · rw [sub_add_cancel]
      exact not_le.mp (decided.not.mp missed)

theorem roundQuotient_spec (n : Nat) {d : Nat} (denominator : 0 < d) :
    (n : ℚ) / d - 1 / 2 ≤ roundQuotient n d ∧ (roundQuotient n d : ℚ) ≤ n / d + 1 / 2 := by
  have whole := Nat.div_add_mod n d
  have less := Nat.mod_lt n denominator
  have rounded : roundQuotient n d = n / d ∧ 2 * (n % d) ≤ d
      ∨ roundQuotient n d = n / d + 1 ∧ d ≤ 2 * (n % d) := by
    rw [roundQuotient]
    split_ifs <;> omega
  have positive : (0 : ℚ) < d := by exact_mod_cast denominator
  have quotient : (n : ℚ) / d = (n / d : ℕ) + ((n % d : ℕ) : ℚ) / d := by
    rw [div_eq_iff positive.ne', add_mul, div_mul_cancel₀ _ positive.ne']
    exact_mod_cast (whole.symm.trans (by rw [Nat.mul_comm]))
  rw [quotient]
  rcases rounded with ⟨down, rest⟩ | ⟨up, rest⟩
  · have low : (0 : ℚ) ≤ ((n % d : ℕ) : ℚ) / d := by positivity
    have high : ((n % d : ℕ) : ℚ) / d ≤ 1 / 2 := by
      rw [div_le_div_iff₀ positive two_pos]
      exact_mod_cast (by omega)
    rw [down]
    constructor <;> linarith
  · have low : 1 / 2 ≤ ((n % d : ℕ) : ℚ) / d := by
      rw [div_le_div_iff₀ two_pos positive]
      exact_mod_cast (by omega)
    have high : ((n % d : ℕ) : ℚ) / d ≤ 1 := by
      rw [div_le_one positive]
      exact_mod_cast less.le
    rw [up]
    push_cast
    constructor <;> linarith

/-- A number below the ceiling, counted in steps of its exponent and rounded, has 53 bits at most,
and all of them unless the exponent is the least one. -/
theorem rounded_bounds {y : ℚ} {k q : Int} {r : Nat} (low : 2 ^ k ≤ y) (high : y < 2 ^ (k + 1))
    (below : y < ceiling) (exponent : q = max (k - 52) (-1074)) (above : y / 2 ^ q - 1 / 2 ≤ r)
    (under : r ≤ y / 2 ^ q + 1 / 2) :
    r ≤ 2 ^ 53 ∧ (2 ^ 52 ≤ r ∨ q = -1074) ∧ q ≤ 971 ∧ (q = 971 → r < 2 ^ 53) := by
  have step := two_zpow_pos q
  refine ⟨?_, ?_, ?_, ?_⟩
  · have few : y / 2 ^ q < 2 ^ 53 := by
      rw [div_lt_iff₀ step]
      calc y
        _ < 2 ^ (k + 1) := high
        _ ≤ 2 ^ (53 + q) := zpow_le_zpow_right₀ one_le_two (by omega)
        _ = 2 ^ 53 * 2 ^ q := zpow_add₀ two_ne_zero _ _
    have less : (r : ℚ) < 2 ^ 53 + 1 := by linarith
    exact Nat.lt_succ_iff.mp (by exact_mod_cast less)
  · by_cases least : q = -1074
    · exact .inr least
    · have many : 2 ^ 52 ≤ y / 2 ^ q := by
        rw [le_div_iff₀ step]
        calc (2 : ℚ) ^ 52 * 2 ^ q
          _ = 2 ^ (52 + q) := (zpow_add₀ two_ne_zero _ _).symm
          _ = 2 ^ k := congrArg _ (by omega)
          _ ≤ y := low
      have more : (2 : ℚ) ^ 52 < r + 1 := by linarith
      exact .inl (Nat.lt_succ_iff.mp (by exact_mod_cast more))
  · have small : (2 : ℚ) ^ k < 2 ^ (1024 : Int) := by
      refine (low.trans_lt below).trans ?_
      rw [ceiling, show (1024 : Int) = 53 + 971 by norm_num, zpow_add₀ two_ne_zero]
      exact mul_lt_mul_of_pos_right (by norm_num) (by positivity)
    have := (zpow_lt_zpow_iff_right₀ one_lt_two).mp small
    omega
  · intro largest
    have few : y / 2 ^ q < 2 ^ 53 - 1 / 2 := by
      rw [div_lt_iff₀ step, largest]
      exact below
    have less : (r : ℚ) < 2 ^ 53 := by linarith
    exact_mod_cast less

theorem exists_ofQuotient? (negative : Bool) {n d : Nat} (numerator : 0 < n) (denominator : 0 < d)
    (below : (n : ℚ) / d < ceiling) : ∃ x, ofQuotient? negative n d = some x := by
  obtain ⟨low, high⟩ := leadingBit_spec numerator denominator
  obtain ⟨q, exponent⟩ : ∃ q, q = max (leadingBit n d - 52) (-1074) := ⟨_, rfl⟩
  obtain ⟨up, down, _⟩ := power_spec Nat.two_pos q
  obtain ⟨above, under⟩ := roundQuotient_spec (n * (power 2 q).2) (Nat.mul_pos denominator up)
  have scaled : ((n * (power 2 q).2 : ℕ) : ℚ) / (d * (power 2 q).1 : ℕ) = n / d / 2 ^ q := by
    rw [← power_two, Nat.cast_mul, Nat.cast_mul, div_div_div_eq]
  rw [scaled] at above under
  obtain ⟨r, rounded⟩ : ∃ r, r = roundQuotient (n * (power 2 q).2) (d * (power 2 q).1) := ⟨_, rfl⟩
  rw [← rounded] at above under
  obtain ⟨most, full, range, last⟩ := rounded_bounds low high below exponent above under
  have least : -1074 ≤ q := exponent ▸ le_max_right _ _
  have finite : Finite (if r = Nat.pow 2 53 then (Nat.pow 2 52, q + 1) else (r, q)).1
      (if r = Nat.pow 2 53 then (Nat.pow 2 52, q + 1) else (r, q)).2 := by
    split
    · rename_i carried
      refine ⟨(by decide : Nat.pow 2 52 < Nat.pow 2 53), by omega, ?_, .inl (Nat.le_refl _)⟩
      by_contra beyond
      exact Nat.lt_irrefl _ (carried ▸ last (by omega))
    · rename_i other
      exact ⟨Nat.lt_of_le_of_ne most other, least, range, full⟩
  simp only [ofQuotient?, ← exponent, ← rounded]
  exact ⟨_, dif_pos finite⟩

theorem ceiling_lt : ceiling < 10 ^ (309 : Int) := by
  have small : (2 ^ 1024 : Nat) < 10 ^ 309 := by decide +kernel
  calc ceiling
    _ < 2 ^ 53 * 2 ^ 971 := mul_lt_mul_of_pos_right (by norm_num) (by positivity)
    _ = 2 ^ 1024 := (pow_add _ _ _).symm
    _ < 10 ^ 309 := by exact_mod_cast small

theorem pow_length_le {digits : Nat} (positive : 0 < digits) :
    (10 : ℚ) ^ (((Nat.toDigits 10 digits).length : Int) - 1) ≤ digits := by
  obtain ⟨count, length⟩ : ∃ count, (Nat.toDigits 10 digits).length = count + 1 :=
    ⟨_, (Nat.succ_pred Nat.length_toDigits_pos.ne').symm⟩
  rw [length, Nat.cast_succ, add_sub_cancel_right, zpow_natCast]
  cases count with
  | zero => exact_mod_cast positive
  | succ count =>
    have more := (Nat.length_toDigits_le_iff (by decide) (Nat.succ_pos count)).not.mp
      (show ¬(Nat.toDigits 10 digits).length ≤ count + 1 by omega)
    exact_mod_cast Nat.not_lt.mp more

theorem exists_ofDecimal? (negative : Bool) {digits : Nat} {exponent : Int}
    (below : (digits : ℚ) * 10 ^ exponent < ceiling) :
    ∃ x, ofDecimal? negative digits exponent = some x := by
  rw [ofDecimal?]
  by_cases zero : digits = 0
  · exact ⟨_, if_pos zero⟩
  · rw [if_neg zero]
    have size : ((Nat.toDigits 10 digits).length : Int) + exponent ≤ 310 := by
      have leading := pow_length_le (Nat.pos_of_ne_zero zero)
      have small : (10 : ℚ) ^ ((Nat.toDigits 10 digits).length - 1 + exponent)
          < 10 ^ (309 : Int) := by
        rw [zpow_add₀ (by norm_num)]
        calc _
          _ ≤ (digits : ℚ) * 10 ^ exponent :=
            mul_le_mul_of_nonneg_right leading (zpow_pos (by norm_num) _).le
          _ < ceiling := below
          _ < 10 ^ (309 : Int) := ceiling_lt
      have := (zpow_lt_zpow_iff_right₀ (by norm_num : (1 : ℚ) < 10)).mp small
      omega
    rw [if_neg (by omega)]
    split
    · exact ⟨_, rfl⟩
    · obtain ⟨up, down, _⟩ := power_spec (by decide : 0 < 10) exponent
      refine exists_ofQuotient? (n := digits * (power 10 exponent).1)
        (d := (power 10 exponent).2) negative (Nat.mul_pos (Nat.pos_of_ne_zero zero) up) down ?_
      rw [Nat.cast_mul, mul_div_assoc, power_ten]
      exact below

end Double

structure InRange (digits : Nat) (exponent : Int) : Prop where
  positive : 0 < digits
  below : (digits : ℚ) * 10 ^ exponent < ceiling

open Double

variable {x : Double} {digits : Nat} {exponent : Int}

theorem Interval.low_pos (nonzero : x.significand ≠ 0) : 0 < (Interval.of x).low := by
  show 0 < if x.significand = Nat.pow 2 52 && x.exponent != -1074 then 4 * x.significand - 1
    else 4 * x.significand - 2
  split <;> omega

/-- Above the largest double the interval ends at the ceiling, and does not hold its end. -/
theorem Interval.high_le (x : Double) :
    ((Interval.of x).high : ℚ) * 2 ^ (x.exponent - 2) ≤ ceiling
      ∧ ((Interval.of x).closed → ((Interval.of x).high : ℚ) * 2 ^ (x.exponent - 2) < ceiling) := by
  have width : x.significand < 2 ^ 53 := x.finite.1
  have range : x.exponent - 2 ≤ 969 := by
    have := x.finite.2.2.1
    omega
  have step : (2 : ℚ) ^ (x.exponent - 2) ≤ 2 ^ (969 : Int) :=
    zpow_le_zpow_right₀ one_le_two range
  have last : ceiling = (4 * 2 ^ 53 - 2) * 2 ^ (969 : Int) := by
    rw [ceiling, show (971 : Nat) = 2 + 969 by rfl, pow_add, ← mul_assoc]
    norm_num
  have high : (Interval.of x).high = 4 * x.significand + 2 := rfl
  have most : ((Interval.of x).high : ℚ) ≤ 4 * 2 ^ 53 - 2 := by
    rw [le_sub_iff_add_le]
    exact_mod_cast (by omega)
  rw [last]
  constructor
  · exact mul_le_mul most step (two_zpow_pos _).le (by norm_num)
  · intro closed
    have even : x.significand % 2 = 0 := by simpa [Interval.of] using closed
    have less : ((Interval.of x).high : ℚ) < 4 * 2 ^ 53 - 2 := by
      rw [lt_sub_iff_add_lt]
      exact_mod_cast (by omega)
    exact mul_lt_mul less step (two_zpow_pos _) (by norm_num)

theorem Interval.le_point_iff {i : Interval} (down : 0 < i.down) (n digits : Nat) (exponent : Int) :
    (n * (i.up * (power 10 exponent).2) ≤ digits * (power 10 exponent).1 * i.down
      ↔ (n : ℚ) * (i.up / i.down) ≤ digits * 10 ^ exponent)
    ∧ (digits * (power 10 exponent).1 * i.down ≤ n * (i.up * (power 10 exponent).2)
      ↔ (digits : ℚ) * 10 ^ exponent ≤ n * (i.up / i.down)) := by
  obtain ⟨_, tensDown, _⟩ := power_spec (by decide : 0 < 10) exponent
  have down : (0 : ℚ) < i.down := by exact_mod_cast down
  have tensDown : (0 : ℚ) < (power 10 exponent).2 := by exact_mod_cast tensDown
  rw [← power_ten, mul_div_assoc', mul_div_assoc', div_le_div_iff₀ down tensDown,
    div_le_div_iff₀ tensDown down, ← Nat.mul_assoc]
  exact ⟨by exact_mod_cast Iff.rfl, by exact_mod_cast Iff.rfl⟩

theorem Interval.holds_iff {i : Interval} (down : 0 < i.down) : i.holds digits exponent
    ↔ if i.closed then (i.low : ℚ) * (i.up / i.down) ≤ digits * 10 ^ exponent
        ∧ (digits : ℚ) * 10 ^ exponent ≤ i.high * (i.up / i.down)
      else (i.low : ℚ) * (i.up / i.down) < digits * 10 ^ exponent
        ∧ (digits : ℚ) * 10 ^ exponent < i.high * (i.up / i.down) := by
  have low := Interval.le_point_iff down i.low digits exponent
  have high := Interval.le_point_iff down i.high digits exponent
  simp only [Interval.holds]
  split
  · rw [Bool.and_eq_true, decide_eq_true_eq, decide_eq_true_eq, low.1, high.2]
  · rw [Bool.and_eq_true, decide_eq_true_eq, decide_eq_true_eq, ← Nat.not_le, ← Nat.not_le, low.2,
      high.1, not_le, not_le]

/-- What lies in the interval of a double is read as a double. -/
theorem Interval.inRange_of_holds (nonzero : x.significand ≠ 0)
    (holds : (Interval.of x).holds digits exponent = true) : InRange digits exponent := by
  obtain ⟨_, down, _⟩ := power_spec Nat.two_pos (x.exponent - 2)
  obtain ⟨most, less⟩ := Interval.high_le x
  have low : (0 : ℚ) < (Interval.of x).low := by exact_mod_cast Interval.low_pos nonzero
  have unit : ((Interval.of x).up : ℚ) / (Interval.of x).down = 2 ^ (x.exponent - 2) := power_two _
  have positive := mul_pos low (two_zpow_pos (x.exponent - 2))
  have between : (0 : ℚ) < digits * 10 ^ exponent ∧ (digits : ℚ) * 10 ^ exponent < ceiling := by
    have holds := (Interval.holds_iff down).mp holds
    rw [unit] at holds
    split at holds
    · rename_i closed
      exact ⟨positive.trans_le holds.1, holds.2.trans_lt (less closed)⟩
    · exact ⟨positive.trans holds.1, holds.2.trans_le most⟩
  refine ⟨Nat.pos_of_ne_zero ?_, between.2⟩
  rintro rfl
  simpa using between.1

theorem stripZeros_inRange (fuel : Nat) (inRange : InRange digits exponent) :
    InRange (stripZeros fuel digits exponent).1 (stripZeros fuel digits exponent).2 := by
  induction fuel generalizing digits exponent with
  | zero => exact inRange
  | succ fuel ih =>
    rw [stripZeros]
    split
    · rename_i divisible
      obtain ⟨tenth, rfl⟩ := Nat.dvd_of_mod_eq_zero divisible
      rw [Nat.mul_div_cancel_left _ (by decide)]
      refine ih ⟨Nat.pos_of_mul_pos_left inRange.positive, ?_⟩
      have below := inRange.below
      rw [Nat.cast_mul, mul_comm _ (tenth : ℚ), mul_assoc] at below
      rwa [zpow_add_one₀ (by norm_num), mul_comm _ (10 : ℚ)]
    · exact inRange

theorem Interval.holds_of_neighbour? {i : Interval} (found : i.neighbour? exponent = some digits) :
    i.holds digits exponent = true := by
  simp only [Interval.neighbour?] at found
  split_ifs at found with nearest low high
  all_goals
    rw [← Option.some.inj found]
    assumption

theorem shortestFrom_inRange (nonzero : x.significand ≠ 0) (count fuel : Nat) :
    InRange ((Interval.of x).shortestFrom count fuel).1
      ((Interval.of x).shortestFrom count fuel).2 := by
  induction fuel generalizing count with
  | zero =>
    refine ⟨Nat.mul_pos (by decide) (Nat.pos_of_ne_zero nonzero), ?_⟩
    have width : (((Interval.of x).middle : Nat) : ℚ) < 2 ^ 55 := by
      have less : 4 * x.significand < 2 ^ 55 := by
        have : x.significand < 2 ^ 53 := x.finite.1
        omega
      exact_mod_cast less
    calc ((Interval.of x).middle : ℚ) * 10 ^ (0 : Int)
      _ < 2 ^ 55 := by simpa using width
      _ < (2 ^ 53 - 1 / 2) * 2 ^ 3 := by norm_num
      _ ≤ ceiling := mul_le_mul_of_nonneg_left (pow_le_pow_right₀ one_le_two (by decide))
        (by norm_num)
  | succ fuel ih =>
    rw [Interval.shortestFrom]
    cases found : (Interval.of x).neighbour? ((Interval.of x).magnitude - count) with
    | some digits =>
      exact stripZeros_inRange _
        (Interval.inRange_of_holds nonzero (Interval.holds_of_neighbour? found))
    | none => exact ih _

theorem shortest_inRange (nonzero : x.isZero = false) :
    InRange (shortest x).1 (shortest x).2 :=
  shortestFrom_inRange (by simpa [Double.isZero] using nonzero) 1 17

end SelectiveDisclosure.Decimal
