import SelectiveDisclosure.Proofs.OneSpelling

/-!
Texts that overrun the work area. A number that does not fit in the 132 bytes is refused, but when a
number fits and the zero bytes in front of it do not, reading breaks down. Such a text begins with a
one and is longer than the work area, so whoever limits the length first is safe.
-/

namespace SelectiveDisclosure

open Outcome

theorem Radix.length_digits_le {base k count n : Nat} (positive : 0 < base) (fits : n < base ^ k) :
    ((digits base count n).dropWhile (· == 0)).length ≤ k := by
  by_cases room : k ≤ count
  · have small := digits_lt base positive k n
    have short : (digits base k n).length ≤ count := by rwa [length_digits]
    have padded := digits_value_of_le small positive short
    rw [value_digits, Nat.mod_eq_of_lt fits] at padded
    rw [padded, List.dropWhile_append_of_pos (by simp)]
    have kept := (List.dropWhile_sublist (· == 0) (l := digits base k n)).length_le
    rwa [length_digits] at kept
  · have kept := (List.dropWhile_sublist (· == 0) (l := digits base count n)).length_le
    rw [length_digits] at kept
    omega

namespace Base58

/-- The number of a text fits in the work area, and the zeros in front of it do not. -/
def Overruns (text : String) : Prop :=
  ∃ n, number (utf8 text) = .ok n
    ∧ capacity < leadingOnes (utf8 text) + (numberBytes n).length

theorem length_numberBytes_le {k n : Nat} (fits : n < 256 ^ k) : (numberBytes n).length ≤ k := by
  rw [numberBytes, List.length_map]
  exact Radix.length_digits_le (by decide) fits

theorem Overruns.long {text : String} (overruns : Overruns text) :
    capacity < (utf8 text).length := by
  obtain ⟨n, read, beyond⟩ := overruns
  obtain ⟨ds, whole, small, _, value, _⟩ := digits_of_number read
  have length := congrArg List.length whole
  rw [List.length_append, List.length_replicate, List.length_map] at length
  have below : n < 256 ^ ds.length := by
    rw [value]
    exact Nat.lt_of_lt_of_le (Radix.value_lt small) (Nat.pow_le_pow_left (by decide) _)
  have short := length_numberBytes_le below
  omega

theorem not_overruns_empty : ¬ Overruns "" := fun overruns => absurd overruns.long (by decide)

theorem Overruns.leading {text : String} (overruns : Overruns text) :
    0 < leadingOnes (utf8 text) := by
  obtain ⟨n, read, beyond⟩ := overruns
  obtain ⟨_, _, _, _, _, fits⟩ := digits_of_number read
  have short := length_numberBytes_le fits
  omega

theorem numberFrom_ne_overrun (position number : Nat) (text : List UInt8) :
    numberFrom position number text ≠ .error .overrun := by
  induction text generalizing position number with
  | nil => simp [numberFrom]
  | cons b text ih =>
    rw [numberFrom]
    split
    · simp
    · dsimp only
      split
      · exact ih _ _
      · simp

theorem decode_overrun_iff (text : List UInt8) : decode text = .error .overrun ↔ ∃ n,
    number text = .ok n ∧ capacity < leadingOnes text + (numberBytes n).length := by
  have opened : decode text = number text >>= fun n =>
      if capacity < leadingOnes text + (numberBytes n).length then throw .overrun
      else pure (List.replicate (leadingOnes text) 0 ++ numberBytes n) := by
    simp only [decode, number, leadingOnes, numberBytes, List.length_map]
    rfl
  rw [opened]
  cases read : number text with
  | error e =>
    have other : e ≠ .overrun := by
      rintro rfl
      exact numberFrom_ne_overrun _ _ _ read
    simpa [bind, Except.bind] using other
  | ok n =>
    rw [ok_bind]
    split <;> simp [*, throw, throwThe, MonadExceptOf.throw, pure, Except.pure]

theorem decodeText_breaks_iff (text : String) :
    (∃ e, decodeText text = .error e ∧ e.isBreakdown) ↔ Overruns text := by
  rw [decodeText]
  split
  · rename_i empty
    obtain rfl := String.isEmpty_iff.mp empty
    constructor
    · rintro ⟨_, ⟨⟩, broken⟩
      contradiction
    · intro overruns
      exact absurd overruns not_overruns_empty
  · rw [Overruns, ← decode_overrun_iff]
    cases decode (utf8 text) with
    | error e => cases e <;> simp [Except.mapError, EncodingError.isBreakdown]
    | ok bytes => simp [Except.mapError]

def ones (count : Nat) : String := String.ofList (List.replicate count '1')

theorem utf8_ones (count : Nat) : utf8 (ones count) = List.replicate count zeroDigit := by
  have ascii : ∀ c ∈ List.replicate count '1', c.toNat < 128 := by
    intro c there
    rw [List.eq_of_mem_replicate there]
    decide
  rw [ones, utf8_ofList_ascii ascii, List.map_replicate]
  rfl

theorem overruns_ones_iff (count : Nat) : Overruns (ones count) ↔ capacity < count := by
  constructor
  · intro overruns
    have long := overruns.long
    rwa [utf8_ones, List.length_replicate] at long
  · intro many
    have leading : leadingOnes (utf8 (ones count)) = count := by
      simp [utf8_ones, leadingOnes]
    refine ⟨0, ?_, by omega⟩
    rw [number, leading, utf8_ones, List.drop_replicate, Nat.sub_self]
    rfl

end Base58

theorem decodeText_breaks (text : String) :
    BreaksOnlyIf EncodingError.isBreakdown (Base58.Overruns text) (Base58.decodeText text) :=
  fun e failed bad => (Base58.decodeText_breaks_iff text).mp ⟨e, failed, bad⟩

theorem FixedBytes.ofList_breaks {cause : Prop} (n : Nat) (bytes : List UInt8) :
    BreaksOnlyIf EncodingError.isBreakdown cause (FixedBytes.ofList n bytes) := by
  rw [ofList]
  split
  · exact .ok _
  · exact .error rfl

theorem Hash256.ofBase58_breaks (text : String) :
    BreaksOnlyIf EncodingError.isBreakdown (Base58.Overruns text) (Hash256.ofBase58 text) :=
  (decodeText_breaks text).bind fun bytes _ => FixedBytes.ofList_breaks 32 bytes

end SelectiveDisclosure
