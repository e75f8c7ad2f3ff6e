import SelectiveDisclosure.Proofs.DecimalRange
import SelectiveDisclosure.Proofs.StatementContents

namespace SelectiveDisclosure.Json

open Decimal

def Followed (rest : List Char) : Prop := ∀ c ∈ rest.head?, c ∈ [',', ']', '\x7d']

theorem followed_cons {c : Char} (mark : c ∈ [',', ']', '\x7d']) (rest : List Char) :
    Followed (c :: rest) := by
  intro d there
  rwa [← Option.some.inj there]

section Digits

theorem digitsValue_eq (ds : List Char) : digitsValue ds = Nat.ofDigitChars 10 ds 0 := by
  unfold digitsValue Nat.ofDigitChars
  congr 1
  funext n c
  rw [Nat.mul_comm]
  rfl

theorem digitsValue_toDigits (n : Nat) : digitsValue (Nat.toDigits 10 n) = n := by
  rw [digitsValue_eq, Nat.ofDigitChars_ten_toDigits]

theorem isDigit_toDigits (n : Nat) : ∀ c ∈ Nat.toDigits 10 n, isDigit c := by
  intro c there
  have digit := Nat.isDigit_of_mem_toDigits (by decide) (by decide) there
  exact digit

theorem head_toDigits {n : Nat} (positive : 0 < n) : ∀ c ∈ (Nat.toDigits 10 n).head?, c ≠ '0' := by
  induction n using Nat.strongRecOn with
  | ind n ih =>
    by_cases small : n < 10
    · have digits : ∀ d < 10, 0 < d → Nat.digitChar d ≠ '0' := by decide
      rw [Nat.toDigits_of_lt_base small]
      intro c there
      rw [← Option.some.inj there]
      exact digits n small positive
    · rw [Nat.toDigits_of_base_le (by decide) (by omega),
        List.head?_append_of_ne_nil _ Nat.toDigits_ne_nil]
      exact ih (n / 10) (by omega) (by omega)

end Digits

section Parts

theorem takeWhile_digits {ds rest : List Char} (digits : ∀ c ∈ ds, isDigit c)
    (ended : ∀ c ∈ rest.head?, isDigit c = false) : (ds ++ rest).takeWhile isDigit = ds := by
  rw [List.takeWhile_append_of_pos digits]
  cases rest with
  | nil => rw [List.takeWhile_nil, List.append_nil]
  | cons c rest =>
    have stop := ended c rfl
    rw [List.takeWhile_cons_of_neg (by simp [stop]), List.append_nil]

structure Whole (ds : List Char) : Prop where
  some : ds ≠ []
  digits : ∀ c ∈ ds, isDigit c
  head : ds = ['0'] ∨ ∀ c ∈ ds.head?, c ≠ '0'

theorem readWhole_append {ds rest : List Char} (whole : Whole ds)
    (ended : ∀ c ∈ rest.head?, isDigit c = false) : readWhole (ds ++ rest) = some (ds, rest) := by
  rw [readWhole, takeWhile_digits whole.digits ended]
  split
  · exact absurd rfl whole.some
  · rcases whole.head with zero | other
    · exact absurd (List.cons.inj zero).2 (List.cons_ne_nil _ _)
    · exact absurd rfl (other '0' rfl)
  · rw [List.drop_left]

def fractionText (ds : List Char) : List Char := if ds.isEmpty then [] else '.' :: ds

theorem readFraction_append {ds rest : List Char} (digits : ∀ c ∈ ds, isDigit c)
    (ended : ∀ c ∈ rest.head?, isDigit c = false ∧ c ≠ '.') :
    readFraction (fractionText ds ++ rest) = some (ds, rest) := by
  rw [fractionText]
  split
  · rename_i empty
    rw [List.isEmpty_iff.mp empty, List.nil_append, readFraction]
    rintro rest' rfl
    exact (ended '.' rfl).2 rfl
  · rename_i some
    rw [List.cons_append, readFraction, takeWhile_digits digits fun c there => (ended c there).1,
      if_neg some, List.drop_left]

def exponentText : Option Int → List Char
  | none => []
  | some e => 'e' :: (if e < 0 then '-' else '+') :: Nat.toDigits 10 e.natAbs

theorem readExponent_append {exponent : Option Int} {rest : List Char}
    (ended : ∀ c ∈ rest.head?, isDigit c = false ∧ c ≠ 'e' ∧ c ≠ 'E') :
    readExponent (exponentText exponent ++ rest) = some (exponent, rest) := by
  cases exponent with
  | none =>
    rw [exponentText, List.nil_append]
    cases rest with
    | nil => rfl
    | cons c rest =>
      obtain ⟨_, lower, upper⟩ := ended c rfl
      simp [readExponent, lower, upper]
  | some e =>
    have taken := takeWhile_digits (isDigit_toDigits e.natAbs) fun c there => (ended c there).1
    have some : (Nat.toDigits 10 e.natAbs).isEmpty = false := by
      simp [Nat.toDigits_ne_nil]
    by_cases negative : e < 0
    · have value : -(e.natAbs : Int) = e := by omega
      simp [exponentText, readExponent, negative, taken, some, digitsValue_toDigits,
        -Nat.cast_natAbs, value]
    · have value : (e.natAbs : Int) = e := by omega
      simp [exponentText, readExponent, negative, taken, some, digitsValue_toDigits,
        -Nat.cast_natAbs, value]

def numberChars (negative : Bool) (whole fraction : List Char) (exponent : Option Int) :
    List Char :=
  (if negative then ['-'] else []) ++ (whole ++ (fractionText fraction ++ exponentText exponent))

theorem readNumber_signed (negative : Bool) {c : Char} (unsigned : c ≠ '-') (cs : List Char) :
    readNumber ((if negative then ['-'] else []) ++ c :: cs) = (do
      let (whole, cs) ← readWhole (c :: cs)
      let (fraction, cs) ← readFraction cs
      let (exponent, cs) ← readExponent cs
      return (← numberOf negative whole fraction exponent, cs)) := by
  cases negative with
  | true => rfl
  | false =>
    rw [if_neg Bool.false_ne_true, List.nil_append]
    delta readNumber
    split
    rename_i sign
    split at sign
    · rename_i minus
      exact absurd (List.cons.inj minus).1 unsigned
    · obtain ⟨rfl, rfl⟩ := Prod.mk.inj sign
      rfl

def Apart (rest : List Char) : Prop :=
  ∀ c ∈ rest.head?, isDigit c = false ∧ c ≠ 'e' ∧ c ≠ 'E' ∧ c ≠ '.'

theorem Followed.apart {rest : List Char} (followed : Followed rest) : Apart rest := by
  intro c there
  have marks : ([',', ']', '\x7d'].all fun d =>
      isDigit d = false ∧ d ≠ 'e' ∧ d ≠ 'E' ∧ d ≠ '.') = true := by decide
  exact List.all_iff_forall_prop.mp marks c (followed c there)

theorem readNumber_append (negative : Bool) {whole fraction : List Char} (exponent : Option Int)
    {rest : List Char} (leading : Whole whole) (digits : ∀ c ∈ fraction, isDigit c)
    (ended : Apart rest) : readNumber (numberChars negative whole fraction exponent ++ rest)
      = (numberOf negative whole fraction exponent).map (·, rest) := by
  have behindFraction : ∀ c ∈ (exponentText exponent ++ rest).head?,
      isDigit c = false ∧ c ≠ '.' := by
    cases exponent with
    | none => exact fun c there => ⟨(ended c there).1, (ended c there).2.2.2⟩
    | some e =>
      intro c there
      rw [← Option.some.inj there]
      decide
  have behindWhole : ∀ c ∈ (fractionText fraction ++ (exponentText exponent ++ rest)).head?,
      isDigit c = false := by
    rw [fractionText]
    split
    · exact fun c there => (behindFraction c there).1
    · intro c there
      rw [← Option.some.inj there]
      decide
  have parts := readWhole_append leading behindWhole
  have rest₁ := readFraction_append digits behindFraction
  have rest₂ : readExponent (exponentText exponent ++ rest) = some (exponent, rest) := by
    refine readExponent_append fun c there => ?_
    obtain ⟨noDigit, lower, upper, _⟩ := ended c there
    exact ⟨noDigit, lower, upper⟩
  obtain ⟨c, cs, rfl⟩ := List.exists_cons_of_ne_nil leading.some
  have unsigned : c ≠ '-' := by
    intro same
    rw [same] at leading
    exact absurd (leading.digits '-' List.mem_cons_self) (by decide)
  rw [List.cons_append] at parts
  rw [numberChars, List.append_assoc, List.append_assoc, List.cons_append, List.append_assoc,
    readNumber_signed negative unsigned, parts]
  simp only [Option.bind_eq_bind, Option.bind_some, rest₁, rest₂]
  cases numberOf negative (c :: cs) fraction exponent <;> rfl

end Parts

section Amounts

def amount (whole fraction : List Char) (exponent : Option Int) : ℚ :=
  digitsValue (whole ++ fraction) * 10 ^ (exponent.getD 0 - fraction.length)

theorem exists_numberOf (negative : Bool) {whole fraction : List Char} {exponent : Option Int}
    (below : amount whole fraction exponent < ceiling) :
    ∃ j, numberOf negative whole fraction exponent = some j := by
  obtain ⟨x, read⟩ := Double.exists_ofDecimal? negative below
  rw [numberOf, read]
  split_ifs <;> exact ⟨_, rfl⟩

theorem digitsValue_append (ds es : List Char) :
    digitsValue (ds ++ es) = digitsValue ds * 10 ^ es.length + digitsValue es := by
  rw [digitsValue_eq, digitsValue_eq, digitsValue_eq, Nat.ofDigitChars_append,
    Nat.ofDigitChars_eq_ofDigitChars_zero, Nat.mul_comm]

theorem digitsValue_zeros (n : Int) : digitsValue (zeros n) = 0 := by
  rw [zeros]
  induction n.toNat with
  | zero => rfl
  | succ k ih =>
    rw [List.replicate_succ', digitsValue_append, ih]
    rfl

theorem isDigit_zeros (n : Int) : ∀ c ∈ zeros n, isDigit c := by
  intro c there
  rw [List.eq_of_mem_replicate there]
  decide

theorem cut_parts {ds : List Char} (digits : ∀ c ∈ ds, isDigit c) (head : ∀ c ∈ ds.head?, c ≠ '0')
    {k : Nat} (some : 0 < k) (within : k ≤ ds.length) (exponent : Option Int) :
    Whole (ds.take k) ∧ (∀ c ∈ ds.drop k, isDigit c)
      ∧ amount (ds.take k) (ds.drop k) exponent
        = digitsValue ds * 10 ^ (exponent.getD 0 + k - ds.length) := by
  have whole : Whole (ds.take k) := by
    constructor
    · exact List.length_pos_iff.mp (by rw [List.length_take]; omega)
    · exact fun c there => digits c (List.mem_of_mem_take there)
    · rw [List.head?_take, if_neg (by omega)]
      exact .inr head
  refine ⟨whole, fun c there => digits c (List.mem_of_mem_drop there), ?_⟩
  have power : exponent.getD 0 - ((ds.length - k : Nat) : Int)
      = exponent.getD 0 + k - ds.length := by omega
  rw [amount, List.take_append_drop, List.length_drop, power]

/-- Where the point stands and how many zeros are put in does not change the number. -/
theorem place_parts {ds : List Char} (digits : ∀ c ∈ ds, isDigit c) (some : ds ≠ [])
    (head : ∀ c ∈ ds.head?, c ≠ '0') (e : Int) : ∃ whole fraction exponent,
      Layout.canonical.place ds e = whole ++ (fractionText fraction ++ exponentText exponent)
      ∧ Whole whole ∧ (∀ c ∈ fraction, isDigit c)
      ∧ amount whole fraction exponent = digitsValue ds * 10 ^ (e + 1 - ds.length) := by
  have count : 0 < ds.length := List.length_pos_iff.mpr some
  rw [Layout.place]
  split
  · split
    · rename_i integral
      refine ⟨ds ++ zeros (e + 1 - ds.length), [], none, ?_, ⟨?_, ?_, ?_⟩,
        List.forall_mem_nil _, ?_⟩
      · rfl
      · exact List.append_ne_nil_of_left_ne_nil some _
      · exact List.forall_mem_append.mpr ⟨digits, isDigit_zeros _⟩
      · rw [List.head?_append_of_ne_nil _ some]
        exact .inr head
      · have exponent : ((e + 1 - ds.length).toNat : Int) = e + 1 - ds.length := by omega
        rw [amount, List.append_nil, digitsValue_append, digitsValue_zeros, zeros,
          List.length_replicate, ← exponent, zpow_natCast]
        simp
    · split
      · rename_i broken within
        have cut : (e + 1).toNat < ds.length := by omega
        have point : ((e + 1).toNat : Int) = e + 1 := by omega
        obtain ⟨whole, fraction, value⟩ := cut_parts digits head (by omega) cut.le none
        rw [Option.getD_none, point, zero_add] at value
        refine ⟨_, _, none, ?_, whole, fraction, value⟩
        simp [fractionText, exponentText, cut]
      · rename_i broken below
        refine ⟨['0'], zeros (-e - 1) ++ ds, none, ?_, ⟨?_, ?_, ?_⟩, ?_, ?_⟩
        · simp [fractionText, exponentText, some]
        · exact List.cons_ne_nil _ _
        · exact List.forall_mem_singleton.mpr rfl
        · exact .inl rfl
        · exact List.forall_mem_append.mpr ⟨isDigit_zeros _, digits⟩
        · have zero : digitsValue ['0'] = 0 := rfl
          rw [amount, digitsValue_append, digitsValue_append, digitsValue_zeros, zero, zeros,
            List.length_append, List.length_replicate]
          simp only [zero_mul, zero_add]
          congr 2
          rw [Option.getD_none]
          omega
  · obtain ⟨whole, fraction, value⟩ := cut_parts digits head Nat.one_pos count (.some e)
    refine ⟨_, _, .some e, ?_, whole, fraction, value⟩
    have single : ds.length ≤ 1 ↔ (ds.drop 1).isEmpty := by
      rw [List.isEmpty_iff, List.drop_eq_nil_iff]
    simp only [fractionText, exponentText, single, List.append_assoc]

theorem readNumber_writeInt {n : Int} (fits : fitsWord n) {rest : List Char}
    (ended : Apart rest) : readNumber (writeInt n ++ rest) = some (.int n, rest) := by
  have leading : Whole (Nat.toDigits 10 n.natAbs) := by
    refine ⟨Nat.toDigits_ne_nil, isDigit_toDigits _, ?_⟩
    by_cases zero : n.natAbs = 0
    · rw [zero]
      exact .inl rfl
    · exact .inr (head_toDigits (Nat.pos_of_ne_zero zero))
  have written : writeInt n = numberChars (n < 0) (Nat.toDigits 10 n.natAbs) [] none := by
    simp [writeInt, numberChars, fractionText, exponentText]
  have number : numberOf (n < 0) (Nat.toDigits 10 n.natAbs) [] none = some (.int n) := by
    have signed : (if decide (n < 0) then -(n.natAbs : Int) else n.natAbs) = n := by
      by_cases negative : n < 0
      · rw [if_pos (decide_eq_true negative)]
        omega
      · rw [if_neg (by simpa using negative)]
        omega
    have zero : (decide (n < 0) && n.natAbs == 0) = false := by
      simp
      omega
    rw [numberOf, List.append_nil, digitsValue_toDigits]
    simp only [signed, fits, zero]
    rfl
  rw [written, readNumber_append _ _ leading (List.forall_mem_nil _) ended, number,
    Option.map_some]

theorem readNumber_write (x : Double) : ∃ j, ∀ rest, Followed rest →
    readNumber (Layout.canonical.write x ++ rest) = some (j, rest) := by
  rw [Layout.write]
  split
  · have written : writeInt 0 = ['0'] := rfl
    refine ⟨.int 0, fun rest followed => ?_⟩
    have read := readNumber_writeInt (n := 0) rfl followed.apart
    rw [written] at read
    exact read
  · rename_i nonzero
    obtain ⟨positive, below⟩ := shortest_inRange (by simpa using nonzero)
    obtain ⟨whole, fraction, exponent, placed, leading, digits, value⟩ :=
      place_parts (isDigit_toDigits (shortest x).1) Nat.toDigits_ne_nil (head_toDigits positive)
        ((shortest x).2 + (Nat.toDigits 10 (shortest x).1).length - 1)
    rw [digitsValue_toDigits, sub_add_cancel, add_sub_cancel_right] at value
    obtain ⟨j, number⟩ := exists_numberOf x.negative (value ▸ below)
    refine ⟨j, fun rest followed => ?_⟩
    dsimp only
    rw [placed]
    have read := readNumber_append x.negative exponent leading digits followed.apart
    rw [number] at read
    exact read

/-- Every number is read back, and the reader stops behind it. -/
theorem readNumber_numberText {j : Json} {text : List Char} (number : j.numberText? = some text)
    (fits : ∀ n, j = .int n → fitsWord n) :
    ∃ v, ∀ rest, Followed rest → readNumber (text ++ rest) = some (v, rest) := by
  cases j with
  | int n =>
    obtain rfl := Option.some.inj number
    exact ⟨.int n, fun rest followed => readNumber_writeInt (fits n rfl) followed.apart⟩
  | float x =>
    obtain rfl := Option.some.inj number
    exact readNumber_write x
  | null | bool _ | str _ | arr _ | obj _ => contradiction

end Amounts

end SelectiveDisclosure.Json
