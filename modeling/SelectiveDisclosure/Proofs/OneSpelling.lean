import SelectiveDisclosure.Proofs.WrittenBytes

namespace SelectiveDisclosure

open Outcome

theorem Radix.eq_of_value_eq {base : Nat} (positive : 0 < base) {ds ds' : List Nat}
    (small : ∀ d ∈ ds, d < base) (small' : ∀ d ∈ ds', d < base) (head : ds.head? ≠ some 0)
    (head' : ds'.head? ≠ some 0) (same : value base ds = value base ds') : ds = ds' := by
  have padded := digits_value_of_le small positive (Nat.le_max_left ds.length ds'.length)
  have padded' := digits_value_of_le small' positive (Nat.le_max_right ds.length ds'.length)
  rw [same, padded'] at padded
  have dropped := congrArg (List.dropWhile (· == 0)) padded
  rw [(Base58.split_leading _ head).2, (Base58.split_leading _ head').2] at dropped
  exact dropped.symm

namespace Base58

theorem digitByte_of_digitValue? {b : UInt8} {d : Nat} (read : digitValue? b = some d) :
    d < 58 ∧ digitByte d = b := by
  obtain ⟨bound, same, _⟩ := List.findIdx?_eq_some_iff_getElem.mp read
  refine ⟨bound, ?_⟩
  rw [digitByte, List.getD_eq_getElem?_getD, List.getElem?_eq_getElem bound, Option.getD_some]
  exact LawfulBEq.eq_of_beq same

theorem digits_of_numberFrom {text : List UInt8} {position number result : Nat}
    (read : numberFrom position number text = .ok result) (fits : number < 256 ^ capacity) :
    ∃ ds : List Nat, text = ds.map digitByte ∧ (∀ d ∈ ds, d < 58)
      ∧ result = ds.foldl (fun n d => n * 58 + d) number ∧ result < 256 ^ capacity := by
  induction text generalizing position number with
  | nil =>
    obtain rfl := Except.ok.inj read
    exact ⟨[], rfl, nofun, rfl, fits⟩
  | cons b text ih =>
    rw [numberFrom] at read
    cases known : digitValue? b with
    | none =>
      rw [known] at read
      contradiction
    | some d =>
      simp only [known] at read
      split at read
      · rename_i next
        obtain ⟨ds, rfl, small, value, below⟩ := ih read next
        obtain ⟨bound, rfl⟩ := digitByte_of_digitValue? known
        exact ⟨d :: ds, rfl, List.forall_mem_cons.mpr ⟨bound, small⟩, value, below⟩
      · contradiction

def numberBytes (number : Nat) : List UInt8 :=
  ((Radix.digits 256 capacity number).dropWhile (· == 0)).map UInt8.ofNat

theorem numberBytes_toNat (number : Nat) : (numberBytes number).map UInt8.toNat
    = (Radix.digits 256 capacity number).dropWhile (· == 0) := by
  rw [numberBytes, List.map_map]
  refine (List.map_congr_left ?_).trans (List.map_id _)
  intro d there
  have small := Radix.digits_lt 256 (by decide) _ _ d ((List.dropWhile_sublist _).subset there)
  exact UInt8.toNat_ofNat_of_lt' small

theorem value_numberBytes {number : Nat} (fits : number < 256 ^ capacity) :
    Radix.value 256 ((numberBytes number).map UInt8.toNat) = number := by
  rw [numberBytes_toNat, Radix.value_dropWhile_zero, Radix.value_digits, Nat.mod_eq_of_lt fits]

theorem head_numberBytes (number : Nat) : (numberBytes number).head? ≠ some 0 := by
  intro zero
  apply leading_dropped (Radix.digits 256 capacity number) 0
  rw [← numberBytes_toNat, List.head?_map, zero]
  rfl

def leadingOnes (text : List UInt8) : Nat := (text.takeWhile (· == zeroDigit)).length

def number (text : List UInt8) : Except Error Nat :=
  numberFrom (leadingOnes text) 0 (text.drop (leadingOnes text))

theorem digits_of_number {text : List UInt8} {n : Nat} (read : number text = .ok n) :
    ∃ ds : List Nat, text = List.replicate (leadingOnes text) zeroDigit ++ ds.map digitByte
      ∧ (∀ d ∈ ds, d < 58) ∧ ds.head? ≠ some 0 ∧ n = Radix.value 58 ds ∧ n < 256 ^ capacity := by
  have whole := List.takeWhile_append_dropWhile (p := (· == zeroDigit)) (l := text)
  have rest : text.drop (leadingOnes text) = text.dropWhile (· == zeroDigit) :=
    (congrArg (List.drop _) whole.symm).trans (List.drop_left' rfl)
  have ones : text.takeWhile (· == zeroDigit) = List.replicate (leadingOnes text) zeroDigit := by
    apply List.eq_replicate_of_mem
    intro b there
    exact LawfulBEq.eq_of_beq (List.all_eq_true.mp List.all_takeWhile b there)
  obtain ⟨ds, digits, small, value, fits⟩ := digits_of_numberFrom read (by decide)
  rw [rest] at digits
  refine ⟨ds, ?_, small, ?_, value, fits⟩
  · rw [← digits, ← ones, whole]
  · intro zero
    apply leading_dropped text zeroDigit
    rw [digits, List.head?_map, zero]
    rfl

theorem decode_ok_iff (text bytes : List UInt8) : decode text = .ok bytes ↔ ∃ n,
    number text = .ok n ∧ leadingOnes text + (numberBytes n).length ≤ capacity
      ∧ bytes = List.replicate (leadingOnes text) 0 ++ numberBytes n := by
  simp only [decode, bind_ok_iff, refuse_ok_iff, pure_ok_iff, number, leadingOnes, numberBytes,
    List.length_map, Nat.not_lt, eq_comm (b := bytes)]

/-- A text that is read is the one that is written for its bytes. -/
theorem encode_of_decode {text bytes : List UInt8} (read : decode text = .ok bytes) :
    utf8 (encode bytes) = text := by
  obtain ⟨_, digits, _, made⟩ := (decode_ok_iff text bytes).mp read
  obtain ⟨ds, whole, small, head, rfl, fits⟩ := digits_of_number digits
  obtain ⟨zeros, ds', body, split, bodyHead, small', head', value, written⟩ := encode_digits bytes
  have cut := made.symm.trans split
  have zerosSame := congrArg (fun bytes => (bytes.takeWhile (· == 0)).length) cut
  have bodySame := congrArg (List.dropWhile (· == 0)) cut
  simp only [(split_leading _ (head_numberBytes _)).1, (split_leading _ bodyHead).1,
    List.length_replicate] at zerosSame
  rw [(split_leading _ (head_numberBytes _)).2, (split_leading _ bodyHead).2] at bodySame
  have digitsSame : ds = ds' := by
    apply Radix.eq_of_value_eq (by decide) small small' head head'
    rw [value, ← bodySame, value_numberBytes fits]
  rw [written, utf8_digits (Radix.padded_small zeros small' (by decide)), List.map_append,
    List.map_replicate, ← digitsSame, ← zerosSame]
  exact whole.symm

theorem encode_of_decodeText {text : String} {bytes : List UInt8}
    (read : decodeText text = .ok bytes) : encode bytes = text := by
  rw [decodeText] at read
  split at read
  · contradiction
  · exact utf8_injective (encode_of_decode (mapError_ok_iff.mp read))

theorem eq_map_encode_of_read {n : Nat} {texts : List String} {values : List (FixedBytes n)}
    (read : List.Forall₂ (fun text value => decodeText text = .ok value.toList) texts values) :
    texts = values.map fun value => encode value.toList := by
  induction read with
  | nil => rfl
  | cons first _ ih => rw [List.map_cons, encode_of_decodeText first, ← ih]

end Base58

end SelectiveDisclosure
