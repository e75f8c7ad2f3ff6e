import Mathlib.Algebra.Group.Nat.Defs
import Mathlib.Data.List.Induction
import SelectiveDisclosure.Digest.Hash256
import SelectiveDisclosure.Proofs.Outcome

namespace SelectiveDisclosure

open Outcome

namespace Radix

variable {base : Nat}

theorem value_digits (count n : Nat) : value base (digits base count n) = n % base ^ count := by
  induction count generalizing n with
  | zero => simp [digits, value, Nat.mod_one]
  | succ count ih =>
    rw [digits, value_append_singleton, ih, Nat.pow_succ, Nat.mul_comm (base ^ count) base,
      Nat.mod_mul, Nat.mul_comm, Nat.add_comm]

theorem value_replicate_zero (k : Nat) (ds : List Nat) :
    value base (List.replicate k 0 ++ ds) = value base ds := by
  induction k with
  | zero => rfl
  | succ k ih => simpa [value, List.replicate_succ] using ih

theorem value_dropWhile_zero (ds : List Nat) :
    value base (ds.dropWhile (· == 0)) = value base ds := by
  induction ds with
  | nil => rfl
  | cons d ds ih =>
    by_cases zero : d = 0
    · subst zero
      rw [List.dropWhile_cons_of_pos (by simp), ih]
      exact (value_replicate_zero 1 ds).symm
    · rw [List.dropWhile_cons_of_neg (by simpa using zero)]

theorem value_lt {ds : List Nat} (small : ∀ d ∈ ds, d < base) :
    value base ds < base ^ ds.length := by
  induction ds using List.reverseRecOn with
  | nil => simp [value]
  | append_singleton ds d ih =>
    have front := ih fun e he => small e (List.mem_append_left _ he)
    have last := small d (by simp)
    have step : (value base ds + 1) * base ≤ base ^ ds.length * base := Nat.mul_le_mul_right _ front
    rw [Nat.add_mul, Nat.one_mul] at step
    rw [value_append_singleton, List.length_append, List.length_singleton, Nat.pow_succ]
    omega

theorem digits_value {ds : List Nat} (small : ∀ d ∈ ds, d < base) :
    digits base ds.length (value base ds) = ds := by
  induction ds using List.reverseRecOn with
  | nil => rfl
  | append_singleton ds d ih =>
    have front := ih fun e he => small e (List.mem_append_left _ he)
    have last := small d (by simp)
    have positive : 0 < base := by omega
    rw [List.length_append, List.length_singleton, digits, value_append_singleton, Nat.add_comm,
      Nat.add_mul_div_right _ _ positive, Nat.div_eq_of_lt last, Nat.zero_add,
      Nat.add_mul_mod_self_right, Nat.mod_eq_of_lt last, front]

theorem padded_small (k : Nat) {ds : List Nat} (small : ∀ d ∈ ds, d < base) (positive : 0 < base) :
    ∀ d ∈ List.replicate k 0 ++ ds, d < base := by
  intro d hd
  rcases List.mem_append.mp hd with zero | digit
  · rw [List.eq_of_mem_replicate zero]
    exact positive
  · exact small d digit

theorem digits_value_of_le {ds : List Nat} {count : Nat} (small : ∀ d ∈ ds, d < base)
    (positive : 0 < base) (room : ds.length ≤ count) :
    digits base count (value base ds) = List.replicate (count - ds.length) 0 ++ ds := by
  have written := digits_value (padded_small (count - ds.length) small positive)
  have length : (List.replicate (count - ds.length) 0 ++ ds).length = count := by
    rw [List.length_append, List.length_replicate]
    omega
  rw [length, value_replicate_zero] at written
  exact written

end Radix

theorem utf8_ofList (cs : List Char) :
    utf8 (String.ofList cs) = cs.flatMap String.utf8EncodeChar := by
  simp [utf8, String.toUTF8, List.utf8Encode]

theorem utf8_append (s t : String) : utf8 (s ++ t) = utf8 s ++ utf8 t := by
  simp [utf8]

theorem utf8_injective {s t : String} (h : utf8 s = utf8 t) : s = t := by
  apply String.toByteArray_inj.mp
  apply ByteArray.ext
  exact Array.toList_inj.mp h

theorem utf8_ofList_ascii {cs : List Char} (ascii : ∀ c ∈ cs, c.toNat < 128) :
    utf8 (String.ofList cs) = cs.map fun c => UInt8.ofNat c.toNat := by
  rw [utf8_ofList]
  induction cs with
  | nil => rfl
  | cons c cs ih =>
    have first := ascii c (by simp)
    have encoded : String.utf8EncodeChar c = [UInt8.ofNat c.toNat] := by
      have narrow : c.toNat ≤ 127 := by omega
      simp [String.utf8EncodeChar, narrow]
    rw [List.flatMap_cons, encoded, ih fun d hd => ascii d (by simp [hd])]
    rfl

namespace Base58

theorem leading_dropped {α : Type} [BEq α] [LawfulBEq α] (l : List α) (a : α) :
    (l.dropWhile (· == a)).head? ≠ some a := by
  intro found
  have kept := List.head?_dropWhile_not (· == a) l
  rw [found] at kept
  simp at kept

theorem split_leading {α : Type} [BEq α] [LawfulBEq α] (k : Nat) {a : α} {l : List α}
    (head : l.head? ≠ some a) :
    (List.replicate k a ++ l).takeWhile (· == a) = List.replicate k a
      ∧ (List.replicate k a ++ l).dropWhile (· == a) = l := by
  induction k with
  | zero =>
    cases l with
    | nil => exact ⟨rfl, rfl⟩
    | cons b l =>
      have differs : ¬ b = a := by simpa using head
      simp [differs]
  | succ k ih => simpa [List.replicate_succ] using ih

def digitByte (d : Nat) : UInt8 := alphabet.getD d zeroDigit

theorem digit_written : ∀ d < 58, (digitChar d).toNat < 128
    ∧ UInt8.ofNat (digitChar d).toNat = digitByte d ∧ digitValue? (digitByte d) = some d
    ∧ (digitByte d = zeroDigit ↔ d = 0) := by decide

theorem utf8_digits {ds : List Nat} (small : ∀ d ∈ ds, d < 58) :
    utf8 (String.ofList (ds.map digitChar)) = ds.map digitByte := by
  have ascii : ∀ c ∈ ds.map digitChar, c.toNat < 128 := by
    intro c hc
    obtain ⟨d, hd, rfl⟩ := List.mem_map.mp hc
    exact (digit_written d (small d hd)).1
  rw [utf8_ofList_ascii ascii, List.map_map]
  apply List.map_congr_left
  intro d hd
  exact (digit_written d (small d hd)).2.1

theorem le_number (ds : List Nat) (number : Nat) :
    number ≤ ds.foldl (fun n d => n * 58 + d) number := by
  induction ds generalizing number with
  | nil => exact Nat.le_refl number
  | cons d ds ih =>
    have step : number ≤ number * 58 + d := by omega
    exact Nat.le_trans step (ih (number * 58 + d))

theorem numberFrom_digits {ds : List Nat} (small : ∀ d ∈ ds, d < 58) (position number : Nat)
    (fits : ds.foldl (fun n d => n * 58 + d) number < 256 ^ capacity) :
    numberFrom position number (ds.map digitByte)
      = .ok (ds.foldl (fun n d => n * 58 + d) number) := by
  induction ds generalizing position number with
  | nil => rfl
  | cons d ds ih =>
    -- The number only grows, so if it fits at the end it fits after this digit.
    have next : number * 58 + d < Nat.pow 256 capacity := Nat.lt_of_le_of_lt (le_number ds _) fits
    rw [List.map_cons, numberFrom, (digit_written d (small d (by simp))).2.2.1]
    simp only [next, ↓reduceIte]
    exact ih (fun e he => small e (by simp [he])) _ _ fits

theorem toNat_small (bytes : List UInt8) : ∀ d ∈ bytes.map UInt8.toNat, d < 256 := by
  intro d hd
  obtain ⟨b, _, rfl⟩ := List.mem_map.mp hd
  exact b.toNat_lt

theorem value_toNat_lt (bytes : List UInt8) :
    Radix.value 256 (bytes.map UInt8.toNat) < 256 ^ bytes.length := by
  have bound := Radix.value_lt (toNat_small bytes)
  rwa [List.length_map] at bound

theorem digits_toNat {body : List UInt8} {count : Nat} (head : body.head? ≠ some 0)
    (room : body.length ≤ count) :
    (Radix.digits 256 count (Radix.value 256 (body.map UInt8.toNat))).dropWhile (· == 0)
      = body.map UInt8.toNat := by
  rw [Radix.digits_value_of_le (toNat_small body) (by decide) (by rwa [List.length_map])]
  have first : (body.map UInt8.toNat).head? ≠ some 0 := by
    cases body with
    | nil => simp
    | cons b body =>
      intro same
      have zero : b = 0 := UInt8.toNat_inj.mp (by simpa using same)
      exact head (by simp [zero])
  exact (split_leading _ first).2

/-- The digits of a byte string: one for each leading zero byte, and then those of the number. -/
theorem encode_digits (bytes : List UInt8) : ∃ zeros ds body,
    bytes = List.replicate zeros 0 ++ body ∧ body.head? ≠ some 0
    ∧ (∀ d ∈ ds, d < 58) ∧ ds.head? ≠ some 0
    ∧ Radix.value 58 ds = Radix.value 256 (body.map UInt8.toNat)
    ∧ encode bytes = String.ofList ((List.replicate zeros 0 ++ ds).map digitChar) := by
  have whole := List.takeWhile_append_dropWhile (p := (· == (0 : UInt8))) (l := bytes)
  have body_eq : bytes.drop (bytes.takeWhile (· == 0)).length = bytes.dropWhile (· == 0) :=
    (congrArg (List.drop _) whole.symm).trans (List.drop_left' rfl)
  have zeros_eq : bytes.takeWhile (· == 0)
      = List.replicate (bytes.takeWhile (· == 0)).length 0 := by
    apply List.eq_replicate_of_mem
    intro b hb
    exact LawfulBEq.eq_of_beq (List.all_eq_true.mp List.all_takeWhile b hb)
  refine ⟨(bytes.takeWhile (· == 0)).length, _, bytes.dropWhile (· == 0), ?_, ?_, ?_, ?_, ?_,
    by rw [encode, body_eq]⟩
  · rw [← zeros_eq, whole]
  · exact leading_dropped bytes 0
  · intro d hd
    exact Radix.digits_lt 58 (by decide) _ _ d ((List.dropWhile_sublist _).subset hd)
  · exact leading_dropped _ 0
  · have bound := value_toNat_lt (bytes.dropWhile (· == 0))
    have room : 256 ^ (bytes.dropWhile (· == 0)).length
        ≤ 58 ^ (2 * (bytes.dropWhile (· == 0)).length) := by
      rw [Nat.pow_mul]
      exact Nat.pow_le_pow_left (by decide) _
    rw [Radix.value_dropWhile_zero, Radix.value_digits, Nat.mod_eq_of_lt (by omega)]

theorem digitByte_head {ds : List Nat} (small : ∀ d ∈ ds, d < 58) (head : ds.head? ≠ some 0) :
    (ds.map digitByte).head? ≠ some zeroDigit := by
  cases ds with
  | nil => simp
  | cons d ds =>
    intro same
    have zero : d = 0 := (digit_written d (small d (by simp))).2.2.2.mp (by simpa using same)
    exact head (by simp [zero])

theorem decode_encode {bytes : List UInt8} (room : bytes.length ≤ capacity) :
    decode (utf8 (encode bytes)) = .ok bytes := by
  obtain ⟨zeros, ds, body, rfl, body_head, small, ds_head, value_eq, written⟩ := encode_digits bytes
  rw [List.length_append, List.length_replicate] at room
  have text : utf8 (encode (List.replicate zeros 0 ++ body))
      = List.replicate zeros zeroDigit ++ ds.map digitByte := by
    rw [written, utf8_digits (Radix.padded_small zeros small (by decide)), List.map_append,
      List.map_replicate]
    rfl
  have number : numberFrom zeros 0 (ds.map digitByte)
      = .ok (Radix.value 256 (body.map UInt8.toNat)) := by
    rw [← value_eq]
    apply numberFrom_digits small
    change Radix.value 58 ds < 256 ^ capacity
    rw [value_eq]
    exact Nat.lt_of_lt_of_le (value_toNat_lt body) (Nat.pow_le_pow_right (by decide) (by omega))
  have bytes_back : (body.map UInt8.toNat).map UInt8.ofNat = body := by
    rw [List.map_map]
    exact List.map_id'' (fun b => UInt8.ofNat_toNat) body
  rw [decode, text, (split_leading zeros (digitByte_head small ds_head)).1,
    List.length_replicate, List.drop_left' List.length_replicate, bind_ok_iff]
  refine ⟨_, number, ?_⟩
  rw [digits_toNat body_head (by omega), refuse_ok_iff, bytes_back, pure_ok_iff, List.length_map]
  exact ⟨by omega, rfl⟩

theorem encode_ne_empty {bytes : List UInt8} (room : bytes.length ≤ capacity) (some : bytes ≠ []) :
    (encode bytes).isEmpty = false := by
  rw [Bool.eq_false_iff]
  intro empty
  have read := decode_encode room
  rw [String.isEmpty_iff.mp empty] at read
  have nothing : decode (utf8 "") = .ok [] := by decide +kernel
  rw [nothing] at read
  exact some (Except.ok.inj read).symm

theorem decodeText_encode {bytes : List UInt8} (room : bytes.length ≤ capacity)
    (some : bytes ≠ []) : decodeText (encode bytes) = .ok bytes := by
  simp only [decodeText, encode_ne_empty room some, decode_encode room]
  rfl

end Base58

namespace Hex

theorem pair_written (b : UInt8) : (∀ c ∈ pair b, c.toNat < 128)
    ∧ digitValue? (UInt8.ofNat (digitChar (b >>> 4)).toNat) = some (b >>> 4)
    ∧ digitValue? (UInt8.ofNat (digitChar (b &&& 0xF)).toNat) = some (b &&& 0xF)
    ∧ ((b >>> 4) <<< 4 ||| (b &&& 0xF)) = b := by
  have ascii : ∀ n < 256, (pair (UInt8.ofNat n)).all fun c => c.toNat < 128 := by decide +kernel
  have read : ∀ n < 256,
      digitValue? (UInt8.ofNat (digitChar (UInt8.ofNat n >>> 4)).toNat) = some (UInt8.ofNat n >>> 4)
      ∧ digitValue? (UInt8.ofNat (digitChar (UInt8.ofNat n &&& 0xF)).toNat)
        = some (UInt8.ofNat n &&& 0xF)
      ∧ ((UInt8.ofNat n >>> 4) <<< 4 ||| (UInt8.ofNat n &&& 0xF)) = UInt8.ofNat n := by
    decide +kernel
  refine ⟨?_, by simpa using read b.toNat b.toNat_lt⟩
  intro c hc
  have all := ascii b.toNat b.toNat_lt
  rw [List.all_eq_true, UInt8.ofNat_toNat] at all
  simpa using all c hc

theorem length_pairs (bytes : List UInt8) : (bytes.flatMap pair).length = 2 * bytes.length := by
  induction bytes with
  | nil => rfl
  | cons b bytes ih =>
    rw [List.flatMap_cons, List.length_append, ih, List.length_cons]
    simp only [pair, List.length_cons, List.length_nil]
    omega

theorem decodeFrom_pairs (bytes : List UInt8) (position : Nat) :
    decodeFrom position ((bytes.flatMap pair).map fun c => UInt8.ofNat c.toNat) = .ok bytes := by
  induction bytes generalizing position with
  | nil => rfl
  | cons b bytes ih =>
    obtain ⟨_, high, low, joined⟩ := pair_written b
    simp only [List.flatMap_cons, pair, List.map_cons, List.cons_append, List.nil_append,
      decodeFrom, high, low]
    rw [map_ok_iff]
    exact ⟨bytes, ih (position + 2), by rw [joined]⟩

theorem utf8_encodeMarked (bytes : List UInt8) : utf8 (encodeMarked bytes)
    = 0x30 :: 0x78 :: (bytes.flatMap pair).map fun c => UInt8.ofNat c.toNat := by
  have marked : encodeMarked bytes = String.ofList ('0' :: 'x' :: bytes.flatMap pair) := by
    apply String.toList_injective
    simp [encodeMarked, encode]
  have ascii : ∀ c ∈ '0' :: 'x' :: bytes.flatMap pair, c.toNat < 128 := by
    intro c hc
    rcases List.mem_cons.mp hc with rfl | hc
    · decide
    · rcases List.mem_cons.mp hc with rfl | hc
      · decide
      · obtain ⟨b, _, hb⟩ := List.mem_flatMap.mp hc
        exact (pair_written b).1 c hb
  rw [marked, utf8_ofList_ascii ascii]
  rfl

theorem decodeMarked_encodeMarked (bytes : List UInt8) :
    decodeMarked (encodeMarked bytes) = .ok bytes := by
  have even : ¬ ((bytes.flatMap pair).map fun c => UInt8.ofNat c.toNat).length % 2 = 1 := by
    rw [List.length_map, length_pairs]
    omega
  rw [decodeMarked, utf8_encodeMarked]
  simp only [mapError_ok_iff, decode, even, ↓reduceIte]
  exact decodeFrom_pairs bytes 0

end Hex

namespace FixedBytes

variable {n : Nat}

theorem ofList_toList (b : FixedBytes n) : ofList n b.toList = .ok b := by
  simp only [ofList, ofList?, b.length_eq, ↓reduceDIte]

theorem ofList_ok_iff {bytes : List UInt8} {b : FixedBytes n} :
    ofList n bytes = .ok b ↔ bytes = b.toList := by
  constructor
  · intro h
    simp only [ofList, ofList?] at h
    split at h
    · rename_i c found
      split at found
      · rw [← Except.ok.inj h, ← Option.some.inj found]
      · contradiction
    · contradiction
  · rintro rfl
    exact b.ofList_toList

end FixedBytes

namespace Hash256

theorem ofHex_toHex (h : Hash256) : ofHex h.toHex = .ok h := by
  rw [ofHex, toHex, bind_ok_iff]
  exact ⟨h.toList, Hex.decodeMarked_encodeMarked h.toList, h.ofList_toList⟩

theorem toHex_injective {a b : Hash256} (h : a.toHex = b.toHex) : a = b := by
  have read := ofHex_toHex a
  rw [h, ofHex_toHex] at read
  exact (Except.ok.inj read).symm

end Hash256

theorem Base58.decode_fixed {n : Nat} (some : 0 < n) (room : n ≤ capacity) (b : FixedBytes n) :
    decodeText (encode b.toList) >>= FixedBytes.ofList n = .ok b := by
  have length := b.length_eq
  have nonempty : b.toList ≠ [] := by
    intro empty
    rw [empty, List.length_nil] at length
    omega
  rw [bind_ok_iff]
  exact ⟨b.toList, decodeText_encode (by omega) nonempty, b.ofList_toList⟩

theorem Base58.encode_fixed_ne {n : Nat} (some : 0 < n) (room : n ≤ capacity) (b : FixedBytes n) :
    encode b.toList ≠ "" := by
  intro empty
  have read := Base58.decode_fixed some room b
  rw [empty] at read
  contradiction

theorem Hash256.ofBase58_toBase58 (h : Hash256) : ofBase58 h.toBase58 = .ok h :=
  Base58.decode_fixed (by decide) (by decide) h

end SelectiveDisclosure
