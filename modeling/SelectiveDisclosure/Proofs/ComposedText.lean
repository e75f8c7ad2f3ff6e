import Mathlib.Data.List.Basic
import SelectiveDisclosure.Text.Normalization

/-!
Canonical composition around characters that take no part in it. Such a character is never taken
apart or put together with another one, and it separates the marks on its two sides. Composition
therefore works on what stands in front of it and behind it separately. The delimiters of JSON
texts are of this kind.
-/

namespace SelectiveDisclosure.Text

/-- A character that composition leaves alone, and that composition of others never leads to. -/
structure Inert (c : Char) : Prop where
  whole : decompose c = [c]
  starter : combiningClass c = 0
  first : ∀ d, compose? c d = none
  second : ∀ d, compose? d c = none
  part : ∀ d, c ∈ decompose d → d = c
  result : ∀ a b, compose? a b ≠ some c

section Order

variable {c : Char} {before after : List Char}

theorem leadingMarks_append_starter (starter : combiningClass c = 0) :
    leadingMarks (before ++ c :: after) = leadingMarks before := by
  induction before with
  | nil => simp [leadingMarks, starter]
  | cons d before ih =>
    simp only [leadingMarks, List.cons_append, List.takeWhile_cons] at ih ⊢
    rw [ih]

theorem dropWhile_append_starter (starter : combiningClass c = 0) :
    (before ++ c :: after).dropWhile (fun d => combiningClass d != 0)
      = before.dropWhile (fun d => combiningClass d != 0) ++ c :: after := by
  induction before with
  | nil => simp [starter]
  | cons d before ih =>
    rw [List.cons_append, List.dropWhile_cons, List.dropWhile_cons, ih]
    split <;> rfl

theorem orderMarks_append_starter (starter : combiningClass c = 0) :
    orderMarks (before ++ c :: after) = orderMarks before ++ c :: orderMarks after := by
  fun_induction orderMarks before with
  | case1 => rw [List.nil_append, orderMarks, if_pos starter, List.nil_append]
  | case2 d before base ih => rw [List.cons_append, orderMarks, if_pos base, ih, List.cons_append]
  | case3 d before mark ih =>
    rw [List.cons_append, orderMarks, if_neg mark, leadingMarks_append_starter starter,
      dropWhile_append_starter starter, ih, List.append_assoc]

theorem orderMarks_perm (cs : List Char) : (orderMarks cs).Perm cs := by
  fun_induction orderMarks cs with
  | case1 => exact .refl _
  | case2 d cs base ih => exact ih.cons d
  | case3 d cs mark ih =>
    have split : leadingMarks cs ++ cs.dropWhile (fun d => combiningClass d != 0) = cs :=
      List.takeWhile_append_dropWhile
    have sorted := (List.mergeSort_perm (d :: leadingMarks cs)
      fun a b => combiningClass a ≤ combiningClass b).append ih
    rwa [List.cons_append, split] at sorted

end Order

section Composition

variable {c : Char}

theorem compose?_of_joined? {base d whole : Char} {marks : List Char}
    (made : joined? base marks d = some whole) : compose? base d = some whole := by
  unfold joined? at made
  split at made
  · exact made
  · split at made
    · contradiction
    · exact made

theorem joined?_eq_none {base d : Char} (apart : compose? base d = none) (marks : List Char) :
    joined? base marks d = none := by
  cases made : joined? base marks d with
  | none => rfl
  | some whole =>
    rw [compose?_of_joined? made] at apart
    contradiction

theorem composeOnto_inert (inert : Inert c) (marks cs : List Char) :
    composeOnto c marks cs = c :: (marks.reverse ++ composeAll cs) := by
  induction cs generalizing marks with
  | nil => simp [composeOnto, composeAll]
  | cons d cs ih =>
    rw [composeOnto, joined?_eq_none (inert.first d), composeAll]
    by_cases base : combiningClass d = 0
    · simp [base]
    · simp [base, ih]

theorem composeOnto_append_inert (inert : Inert c) (base : Char) (marks before after : List Char) :
    composeOnto base marks (before ++ c :: after)
      = composeOnto base marks before ++ c :: composeAll after := by
  induction before generalizing base marks with
  | nil =>
    have apart := joined?_eq_none (inert.second base) marks
    simp [composeOnto, apart, inert.starter, composeOnto_inert inert]
  | cons d before ih =>
    rw [List.cons_append, composeOnto, composeOnto]
    cases joined? base marks d with
    | some whole => exact ih whole marks
    | none =>
      by_cases starter : combiningClass d = 0
      · simp [starter, ih]
      · simp [starter, ih]

theorem composeAll_append_inert (inert : Inert c) (before after : List Char) :
    composeAll (before ++ c :: after) = composeAll before ++ c :: composeAll after := by
  induction before with
  | nil => simp [composeAll, inert.starter, composeOnto_inert inert]
  | cons d before ih =>
    rw [List.cons_append, composeAll, composeAll]
    by_cases starter : combiningClass d = 0
    · simp [starter, composeOnto_append_inert inert]
    · simp [starter, ih]

/-- Composition goes on to both sides of an inert character on its own. -/
theorem normalize_append_inert (inert : Inert c) (before after : List Char) :
    normalize (before ++ c :: after) = normalize before ++ c :: normalize after := by
  rw [normalize, List.flatMap_append, List.flatMap_cons, inert.whole, List.singleton_append,
    orderMarks_append_starter inert.starter, composeAll_append_inert inert, normalize, normalize]

theorem mem_composeOnto (inert : Inert c) {base : Char} {marks cs : List Char}
    (there : c ∈ composeOnto base marks cs) : c = base ∨ c ∈ marks ∨ c ∈ cs := by
  induction cs generalizing base marks with
  | nil => simpa [composeOnto] using there
  | cons d cs ih =>
    rw [composeOnto] at there
    cases made : joined? base marks d with
    | some whole =>
      rw [made] at there
      rcases ih there with same | kept | rest
      · rw [← same] at made
        exact absurd (compose?_of_joined? made) (inert.result base d)
      · exact .inr (.inl kept)
      · exact .inr (.inr (List.mem_cons_of_mem _ rest))
    | none =>
      rw [made] at there
      by_cases starter : combiningClass d = 0
      · simp only [starter, if_true, List.mem_cons, List.mem_append, List.mem_reverse] at there
        rcases there with same | kept | behind
        · exact .inl same
        · exact .inr (.inl kept)
        · rcases ih behind with rfl | none | rest
          · exact .inr (.inr List.mem_cons_self)
          · contradiction
          · exact .inr (.inr (List.mem_cons_of_mem _ rest))
      · simp only [starter, if_false] at there
        rcases ih there with same | kept | rest
        · exact .inl same
        · rcases List.mem_cons.mp kept with rfl | kept
          · exact .inr (.inr List.mem_cons_self)
          · exact .inr (.inl kept)
        · exact .inr (.inr (List.mem_cons_of_mem _ rest))

theorem mem_composeAll (inert : Inert c) {cs : List Char} (there : c ∈ composeAll cs) : c ∈ cs := by
  induction cs with
  | nil => contradiction
  | cons d cs ih =>
    rw [composeAll] at there
    split at there
    · rcases mem_composeOnto inert there with rfl | none | rest
      · exact List.mem_cons_self
      · contradiction
      · exact List.mem_cons_of_mem _ rest
    · rcases List.mem_cons.mp there with rfl | rest
      · exact List.mem_cons_self
      · exact List.mem_cons_of_mem _ (ih rest)

theorem mem_of_mem_normalize (inert : Inert c) {cs : List Char} (there : c ∈ normalize cs) :
    c ∈ cs := by
  have ordered := mem_composeAll inert there
  obtain ⟨d, member, part⟩ := List.mem_flatMap.mp ((orderMarks_perm _).mem_iff.mp ordered)
  rwa [← inert.part d part]

theorem composeOnto_ne_nil (base : Char) (marks cs : List Char) :
    composeOnto base marks cs ≠ [] := by
  induction cs generalizing base marks with
  | nil => simp [composeOnto]
  | cons d cs ih =>
    rw [composeOnto]
    split
    · exact ih _ _
    · split
      · exact List.cons_ne_nil _ _
      · exact ih _ _

theorem decomposeWithin_ne_nil (depth n : Nat) : decomposeWithin depth n ≠ [] := by
  induction depth generalizing n with
  | zero => exact List.cons_ne_nil _ _
  | succ depth ih =>
    rw [decomposeWithin]
    split
    · rename_i split
      rw [Hangul.parts?] at split
      split at split
      · rw [← Option.some.inj split]
        split <;> exact List.cons_ne_nil _ _
      · contradiction
    · split
      · simp
      · split
        · exact ih _
        · exact List.cons_ne_nil _ _

theorem normalize_nil : normalize [] = [] := by
  simp [normalize, orderMarks, composeAll]

theorem normalize_eq_nil_iff (cs : List Char) : normalize cs = [] ↔ cs = [] := by
  constructor
  · intro empty
    cases cs with
    | nil => rfl
    | cons d cs =>
      have parts : decompose d ≠ [] := by
        rw [decompose]
        split
        · exact List.cons_ne_nil _ _
        · simpa using decomposeWithin_ne_nil 4 d.toNat
      cases ordered : orderMarks ((d :: cs).flatMap decompose) with
      | nil =>
        have none := (orderMarks_perm ((d :: cs).flatMap decompose)).length_eq
        rw [ordered, List.flatMap_cons, List.length_append] at none
        have some := List.length_pos_iff.mpr parts
        simp only [List.length_nil] at none
        omega
      | cons e es =>
        rw [normalize, ordered, composeAll] at empty
        split at empty
        · exact absurd empty (composeOnto_ne_nil e [] es)
        · contradiction
  · rintro rfl
    exact normalize_nil

end Composition

section Tables

namespace Hangul

def syllable (lead vowel trail : Nat) : Nat :=
  syllableBase + (lead * vowelCount + vowel) * trailCount + trail

theorem whole?_cases {a b n : Nat} (made : whole? a b = some n) :
    ∃ lead vowel, lead < leadCount ∧ vowel < vowelCount
      ∧ ((a = leadBase + lead ∧ b = vowelBase + vowel ∧ n = syllable lead vowel 0)
        ∨ a = syllable lead vowel 0 ∧ ∃ trail, 0 < trail ∧ trail < trailCount
          ∧ b = trailBase + trail ∧ n = syllable lead vowel trail) := by
  rw [whole?] at made
  split at made
  · rename_i both
    simp only [Bool.and_eq_true, decide_eq_true_eq] at both
    obtain ⟨⟨⟨_, _⟩, _⟩, _⟩ := both
    obtain rfl := Option.some.inj made
    exact ⟨a - leadBase, b - vowelBase, by omega, by omega, .inl ⟨by omega, by omega,
      (Nat.add_zero _).symm⟩⟩
  · split at made
    · rename_i both
      simp only [Bool.and_eq_true, decide_eq_true_eq, beq_iff_eq] at both
      obtain ⟨⟨⟨⟨_, _⟩, _⟩, _⟩, _⟩ := both
      obtain rfl := Option.some.inj made
      refine ⟨(a - syllableBase) / (vowelCount * trailCount),
        (a - syllableBase) % (vowelCount * trailCount) / trailCount, ?_, ?_,
        .inr ⟨?_, b - trailBase, by omega, by omega, by omega, ?_⟩⟩
      all_goals
        simp only [syllable, syllableCount, leadCount, vowelCount, trailCount] at *
        omega
    · contradiction

theorem parts_single {n m : Nat} {parts : List Nat} (split : parts? n = some parts)
    (there : m ∈ parts) : 0x1100 ≤ m ∧ m < 0x1200 := by
  rw [parts?] at split
  split at split
  · rename_i syllable
    simp only [Bool.and_eq_true, decide_eq_true_eq] at syllable
    rw [← Option.some.inj split] at there
    split at there
    all_goals
      simp only [List.mem_cons, List.not_mem_nil, or_false] at there
      simp only [leadBase, vowelBase, trailBase, syllableBase, syllableCount, leadCount, vowelCount,
        trailCount] at there syllable
      omega
  · contradiction

end Hangul

theorem mem_of_partsOf? {n a b : Nat} (parts : partsOf? n = some (a, b)) :
    (n, a, b) ∈ primaryComposites ++ excludedComposites := by
  rw [partsOf?] at parts
  split at parts
  · contradiction
  · split at parts
    · rename_i found
      cases parts
      obtain rfl : _ = n := by simpa using List.find?_some found
      exact List.mem_append_left _ (List.mem_of_find?_eq_some found)
    · split at parts
      · rename_i found
        cases parts
        obtain rfl : _ = n := by simpa using List.find?_some found
        exact List.mem_append_right _ (List.mem_of_find?_eq_some found)
      · contradiction

theorem mem_of_wholeOf? {a b n : Nat} (made : wholeOf? a b = some n) :
    (n, a, b) ∈ primaryComposites := by
  rw [wholeOf?] at made
  split at made
  · contradiction
  · split at made
    · rename_i found
      cases made
      obtain ⟨rfl, rfl⟩ : _ = a ∧ _ = b := by simpa using List.find?_some found
      exact List.mem_of_find?_eq_some found
    · contradiction

theorem mem_of_equivalentOf? {n m : Nat} (same : equivalentOf? n = some m) :
    ∃ run ∈ equivalentRuns, run.1 ≤ n ∧ run.2[n - run.1]? = some m := by
  rw [equivalentOf?] at same
  split at same
  · contradiction
  · split at same
    · rename_i found
      have within := List.find?_some found
      simp only [Bool.and_eq_true, decide_eq_true_eq] at within
      exact ⟨_, List.mem_of_find?_eq_some found, within.1, same⟩
    · contradiction

theorem forall_mem_decomposeWithin {P : Nat → Prop}
    (syllable : ∀ n parts, Hangul.parts? n = some parts → ∀ m ∈ parts, P m)
    (pair : ∀ n a b, partsOf? n = some (a, b) → P a ∧ P b)
    (equivalent : ∀ n m, equivalentOf? n = some m → P m) {depth n : Nat} (own : P n) :
    ∀ m ∈ decomposeWithin depth n, P m := by
  induction depth generalizing n with
  | zero => exact List.forall_mem_singleton.mpr own
  | succ depth ih =>
    rw [decomposeWithin]
    split
    · rename_i split
      exact syllable n _ split
    · split
      · rename_i parts
        obtain ⟨first, second⟩ := pair n _ _ parts
        exact List.forall_mem_append.mpr ⟨ih first, List.forall_mem_singleton.mpr second⟩
      · split
        · rename_i same
          exact ih (equivalent n _ same)
        · exact List.forall_mem_singleton.mpr own

end Tables

section Delimiters

/-- The characters that decide where the strings and objects of a JSON text begin and end. -/
def delimiters : List Char := ['"', '\\', '\x7b', '\x7d']

def Apart (n : Nat) : Prop := n ∉ delimiters.map Char.toNat

instance (n : Nat) : Decidable (Apart n) := inferInstanceAs (Decidable (n ∉ _))

theorem delimiters_below : ∀ n ∈ delimiters.map Char.toNat, n < 0xC0 := by decide

theorem apart_of_le {n : Nat} (beyond : 0xC0 ≤ n) : Apart n :=
  fun there => absurd (delimiters_below n there) (Nat.not_lt.mpr beyond)

theorem apart_ofNat {n : Nat} (apart : Apart n) : Char.ofNat n ∉ delimiters := by
  intro there
  have code := List.mem_map_of_mem (f := Char.toNat) there
  by_cases valid : n.isValidChar
  · rw [Char.ofNat, dif_pos valid] at code
    exact apart code
  · rw [Char.ofNat, dif_neg valid] at code
    exact absurd code (by decide)

theorem composites_apart : ∀ e ∈ primaryComposites ++ excludedComposites,
    0xC0 ≤ e.1 ∧ Apart e.2.1 ∧ 0x300 ≤ e.2.2 := by
  decide +kernel

theorem equivalents_apart : ∀ run ∈ equivalentRuns, ∀ n ∈ run.2, Apart n := by
  decide +kernel

theorem not_mem_delimiters {c : Char} (apart : Apart c.toNat) : c ∉ delimiters :=
  fun there => apart (List.mem_map_of_mem there)

theorem Hangul.apart_of_parts? {n m : Nat} {parts : List Nat} (split : Hangul.parts? n = some parts)
    (there : m ∈ parts) : Apart m :=
  apart_of_le (Nat.le_trans (by decide) (parts_single split there).1)

theorem Hangul.apart_of_whole? {a b n : Nat} (made : Hangul.whole? a b = some n) :
    Apart a ∧ Apart b ∧ Apart n := by
  have beyond : 0xC0 ≤ a ∧ 0xC0 ≤ b ∧ 0xC0 ≤ n := by
    obtain ⟨lead, vowel, _, _, first | second⟩ := whole?_cases made
    · obtain ⟨rfl, rfl, rfl⟩ := first
      simp only [syllable, leadBase, vowelBase, syllableBase]
      omega
    · obtain ⟨rfl, trail, _, _, rfl, rfl⟩ := second
      simp only [syllable, trailBase, syllableBase]
      omega
  exact ⟨apart_of_le beyond.1, apart_of_le beyond.2.1, apart_of_le beyond.2.2⟩

theorem apart_of_composite {n a b : Nat}
    (there : (n, a, b) ∈ primaryComposites ++ excludedComposites) :
    Apart n ∧ Apart a ∧ Apart b := by
  obtain ⟨whole, first, second⟩ := composites_apart _ there
  exact ⟨apart_of_le whole, first, apart_of_le (Nat.le_trans (by decide) second)⟩

theorem apart_of_wholeOf? {a b n : Nat} (made : wholeOf? a b = some n) :
    Apart a ∧ Apart b ∧ Apart n := by
  obtain ⟨whole, first, second⟩ := apart_of_composite
    (List.mem_append_left excludedComposites (mem_of_wholeOf? made))
  exact ⟨first, second, whole⟩

theorem apart_of_decomposeWithin {depth n m : Nat} (apart : Apart n)
    (there : m ∈ decomposeWithin depth n) : Apart m := by
  refine forall_mem_decomposeWithin ?_ ?_ ?_ apart m there
  · exact fun _ _ split _ part => Hangul.apart_of_parts? split part
  · exact fun _ _ _ parts => (apart_of_composite (mem_of_partsOf? parts)).2
  · intro _ _ same
    obtain ⟨run, member, _, target⟩ := mem_of_equivalentOf? same
    exact equivalents_apart run member _ (List.mem_of_getElem? target)

theorem mem_decompose {c d : Char} (delimits : c ∈ delimiters) (there : c ∈ decompose d) :
    d = c := by
  rw [decompose] at there
  split at there
  · exact (List.mem_singleton.mp there).symm
  · rename_i beyond
    obtain ⟨n, part, rfl⟩ := List.mem_map.mp there
    have apart := apart_of_decomposeWithin (apart_of_le (Nat.not_lt.mp beyond)) part
    exact absurd delimits (apart_ofNat apart)

theorem not_delimits_of_compose? {c d e : Char} (made : compose? c d = some e) :
    c ∉ delimiters ∧ d ∉ delimiters ∧ e ∉ delimiters := by
  have codes : ∃ n, e = Char.ofNat n ∧ Apart c.toNat ∧ Apart d.toNat ∧ Apart n := by
    rw [compose?] at made
    split at made
    · rename_i syllable
      exact ⟨_, (Option.some.inj made).symm, Hangul.apart_of_whole? syllable⟩
    · obtain ⟨n, composite, rfl⟩ := Option.map_eq_some_iff.mp made
      exact ⟨n, rfl, apart_of_wholeOf? composite⟩
  obtain ⟨n, rfl, first, second, whole⟩ := codes
  exact ⟨not_mem_delimiters first, not_mem_delimiters second, apart_ofNat whole⟩

theorem inert_of_delimiter {c : Char} (delimits : c ∈ delimiters) : Inert c where
  whole := by
    rw [decompose, if_pos (delimiters_below _ (List.mem_map_of_mem delimits))]
  starter := by
    have low := delimiters_below _ (List.mem_map_of_mem delimits)
    rw [combiningClass, if_pos (Nat.lt_trans low (by decide))]
  first d := by
    cases made : compose? c d with
    | none => rfl
    | some e => exact absurd delimits (not_delimits_of_compose? made).1
  second d := by
    cases made : compose? d c with
    | none => rfl
    | some e => exact absurd delimits (not_delimits_of_compose? made).2.1
  part d := mem_decompose delimits
  result a b made := (not_delimits_of_compose? made).2.2 delimits

end Delimiters

end SelectiveDisclosure.Text
