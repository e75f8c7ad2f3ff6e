import Mathlib.Data.List.Nodup
import SelectiveDisclosure.Proofs.ComposedText

namespace SelectiveDisclosure.Text

section Steps

/-- What stands in place of a code point after one step, in front of what is split off. -/
def next? (n : Nat) : Option Nat :=
  match Hangul.parts? n, partsOf? n with
  | some _, _ => none
  | none, some (first, _) => some first
  | none, none => equivalentOf? n

def splitOff (n : Nat) : List Nat := ((partsOf? n).map Prod.snd).toList

theorem decomposeWithin_succ (depth n : Nat) : decomposeWithin (depth + 1) n
    = match next? n with
      | some m => decomposeWithin depth m ++ splitOff n
      | none => (Hangul.parts? n).getD [n] := by
  rw [decomposeWithin, next?, splitOff]
  cases Hangul.parts? n with
  | some parts => rfl
  | none =>
    cases partsOf? n with
    | some parts => rfl
    | none =>
      cases equivalentOf? n with
      | some other => exact (List.append_nil _).symm
      | none => rfl

def Ends : Nat → Nat → Prop
  | 0, n => next? n = none
  | depth + 1, n => ∀ m, next? n = some m → Ends depth m

structure Bare (n : Nat) : Prop where
  still : next? n = none
  other : Hangul.parts? n = none

theorem Bare.decomposeWithin {n : Nat} (bare : Bare n) (depth : Nat) :
    decomposeWithin depth n = [n] := by
  cases depth with
  | zero => rw [Text.decomposeWithin]
  | succ depth => rw [decomposeWithin_succ, bare.still, bare.other, Option.getD_none]

theorem decomposeWithin_of_ends {depth n : Nat} (ends : Ends depth n) (more : Nat) :
    decomposeWithin (depth + more + 1) n = decomposeWithin (depth + 1) n := by
  induction depth generalizing n with
  | zero => rw [decomposeWithin_succ, decomposeWithin_succ, show next? n = none from ends]
  | succ depth ih =>
    rw [decomposeWithin_succ, decomposeWithin_succ (depth + 1)]
    cases step : next? n with
    | none => rfl
    | some m =>
      dsimp only
      rw [Nat.add_right_comm depth, ih (ends m step)]

end Steps

section Checks

/-- Every code point that one of the tables takes a step from, with the one that it leads to. -/
def steps : List (Nat × Nat) :=
  (primaryComposites ++ excludedComposites).map (fun e => (e.1, e.2.1))
    ++ equivalentRuns.flatMap fun run => (run.2.zipIdx run.1).map Prod.swap

theorem mem_steps {n m : Nat} (step : next? n = some m) : (n, m) ∈ steps := by
  rw [next?] at step
  split at step
  · contradiction
  · rename_i parts
    obtain rfl := Option.some.inj step
    exact List.mem_append_left _ (List.mem_map_of_mem (mem_of_partsOf? parts))
  · obtain ⟨run, member, within, target⟩ := mem_of_equivalentOf? step
    refine List.mem_append_right _ (List.mem_flatMap.mpr ⟨run, member, ?_⟩)
    refine List.mem_map.mpr ⟨(m, n), ?_, rfl⟩
    rw [List.mk_mem_zipIdx_iff_le_and_getElem?_sub]
    exact ⟨within, target⟩

def bits (ns : List Nat) : Nat := ns.foldr (fun n m => 1 <<< n ||| m) 0

theorem testBit_bits {n : Nat} {ns : List Nat} (there : n ∈ ns) : (bits ns).testBit n = true := by
  induction ns with
  | nil => contradiction
  | cons m ns ih =>
    rw [bits, List.foldr_cons, Nat.testBit_or, Bool.or_eq_true]
    rcases List.mem_cons.mp there with rfl | rest
    · left
      rw [Nat.testBit_shiftLeft, Nat.sub_self]
      simp
    · exact .inr (ih rest)

def followed : Nat → List (Nat × Nat)
  | 0 => steps
  | more + 1 =>
    let sources := bits ((followed more).map Prod.fst)
    steps.filter fun s => sources.testBit s.2

theorem mem_followed {depth n : Nat} (goesOn : ¬Ends depth n) :
    ∃ m, next? n = some m ∧ (n, m) ∈ followed depth := by
  induction depth generalizing n with
  | zero =>
    obtain ⟨m, step⟩ := Option.ne_none_iff_exists'.mp goesOn
    exact ⟨m, step, mem_steps step⟩
  | succ depth ih =>
    obtain ⟨m, step, goesOn⟩ : ∃ m, next? n = some m ∧ ¬Ends depth m := by
      simpa only [Ends, not_forall, exists_prop] using goesOn
    obtain ⟨_, _, next⟩ := ih goesOn
    refine ⟨m, step, List.mem_filter.mpr ⟨mem_steps step, ?_⟩⟩
    exact testBit_bits (List.mem_map_of_mem next)

theorem followed_three : followed 3 = [] := by
  have none : (followed 3).isEmpty = true := by decide +kernel
  exact List.isEmpty_iff.mp none

theorem ends (n : Nat) : Ends 3 n := by
  by_contra goesOn
  obtain ⟨m, _, there⟩ := mem_followed goesOn
  rw [followed_three] at there
  contradiction

def laterParts : List Nat :=
  (primaryComposites ++ excludedComposites).map (fun e => e.2.2) ++ List.range' 0x1100 0x100

theorem laterParts_checked : ∀ n ∈ laterParts, (bits (steps.map Prod.fst)).testBit n = false
    ∧ (n < Hangul.syllableBase ∨ Hangul.syllableBase + Hangul.syllableCount ≤ n) := by
  intro n there
  have checked : (let sources := bits (steps.map Prod.fst)
      laterParts.all fun n => !sources.testBit n && (decide (n < Hangul.syllableBase)
        || decide (Hangul.syllableBase + Hangul.syllableCount ≤ n))) = true := by
    decide +kernel
  simpa using List.all_eq_true.mp checked n there

theorem Hangul.parts?_eq_none {n : Nat}
    (outside : n < syllableBase ∨ syllableBase + syllableCount ≤ n) : parts? n = none := by
  rw [parts?, if_neg]
  simp only [Bool.and_eq_true, decide_eq_true_eq]
  omega

theorem bare_of_laterPart {n : Nat} (there : n ∈ laterParts) : Bare n := by
  obtain ⟨source, outside⟩ := laterParts_checked n there
  refine ⟨?_, Hangul.parts?_eq_none outside⟩
  by_contra moves
  obtain ⟨m, step⟩ := Option.ne_none_iff_exists'.mp moves
  rw [testBit_bits (List.mem_map_of_mem (mem_steps step))] at source
  contradiction

theorem Hangul.bare_single {n : Nat} (single : 0x1100 ≤ n ∧ n < 0x1200) : Bare n :=
  bare_of_laterPart (List.mem_append_right _ (List.mem_range'_1.mpr single))

theorem bare_of_mem_decomposeWithin {depth n : Nat} (ends : Ends depth n) :
    ∀ m ∈ decomposeWithin (depth + 1) n, Bare m := by
  have splitOff_bare (n : Nat) : ∀ m ∈ splitOff n, Bare m := by
    intro m there
    obtain ⟨⟨a, b⟩, parts, rfl⟩ := Option.map_eq_some_iff.mp (Option.mem_toList.mp there)
    exact bare_of_laterPart (List.mem_append_left _ (List.mem_map_of_mem (mem_of_partsOf? parts)))
  have last_bare {n : Nat} (still : next? n = none) : ∀ m ∈ (Hangul.parts? n).getD [n], Bare m := by
    cases split : Hangul.parts? n with
    | none => exact List.forall_mem_singleton.mpr ⟨still, split⟩
    | some parts => exact fun m there => Hangul.bare_single (Hangul.parts_single split there)
  induction depth generalizing n with
  | zero =>
    rw [decomposeWithin_succ, show next? n = none from ends]
    exact last_bare ends
  | succ depth ih =>
    rw [decomposeWithin_succ]
    cases step : next? n with
    | none => exact last_bare step
    | some m => exact List.forall_mem_append.mpr ⟨ih (ends m step), splitOff_bare n⟩

end Checks

section Wholes

theorem wholes_ascend : (primaryComposites.map Prod.fst).IsChain (· < ·) := by
  decide +kernel

theorem composites_valid : ∀ e ∈ primaryComposites ++ excludedComposites,
    (e.1.isValidChar
        ∧ (e.1 < Hangul.syllableBase ∨ Hangul.syllableBase + Hangul.syllableCount ≤ e.1))
      ∧ (e.2.1.isValidChar ∧ 0x20 ≤ e.2.1) ∧ e.2.2.isValidChar := by
  decide +kernel

theorem partsOf?_of_wholeOf? {a b n : Nat} (made : wholeOf? a b = some n) :
    partsOf? n = some (a, b) := by
  have there := mem_of_wholeOf? made
  have beyond := (composites_apart _ (List.mem_append_left _ there)).1
  have distinct : (primaryComposites.map Prod.fst).Nodup :=
    (List.isChain_iff_pairwise.mp wholes_ascend).imp Nat.ne_of_lt
  rw [partsOf?, if_neg (Nat.not_lt.mpr beyond)]
  split
  · rename_i whole _ found
    have whole : whole = n := by simpa using List.find?_some found
    have same := List.inj_on_of_nodup_map distinct (List.mem_of_find?_eq_some found) there whole
    rw [(Prod.mk.inj same).2]
  · rename_i none
    simpa using List.find?_eq_none.mp none _ there

theorem decomposeWithin_of_wholeOf? {a b n : Nat} (made : wholeOf? a b = some n) :
    decomposeWithin 4 n = decomposeWithin 4 a ++ [b] := by
  have there := List.mem_append_left excludedComposites (mem_of_wholeOf? made)
  have outside := Hangul.parts?_eq_none (composites_valid _ there).1.2
  have parts := partsOf?_of_wholeOf? made
  have step : next? n = some a := by
    rw [next?, outside, parts]
  have behind : splitOff n = [b] := by
    rw [splitOff, parts]
    rfl
  have rest : Ends 2 a := ends n a step
  rw [decomposeWithin_succ, step, behind, decomposeWithin_of_ends rest 1]

theorem decomposeWithin_of_parts? {n : Nat} {parts : List Nat}
    (split : Hangul.parts? n = some parts) (depth : Nat) :
    decomposeWithin (depth + 1) n = parts := by
  have step : next? n = none := by
    rw [next?, split]
  rw [decomposeWithin_succ, step, split, Option.getD_some]

namespace Hangul

variable {lead vowel trail : Nat}

theorem syllable_lt (leadBound : lead < leadCount) (vowelBound : vowel < vowelCount)
    (trailBound : trail < trailCount) :
    syllable lead vowel trail < syllableBase + syllableCount := by
  simp only [syllable, syllableCount, leadCount, vowelCount, trailCount] at *
  omega

theorem valid_syllable (leadBound : lead < leadCount) (vowelBound : vowel < vowelCount)
    (trailBound : trail < trailCount) : (syllable lead vowel trail).isValidChar :=
  .inl (Nat.lt_trans (syllable_lt leadBound vowelBound trailBound) (by decide))

theorem parts?_syllable (leadBound : lead < leadCount) (vowelBound : vowel < vowelCount)
    (trailBound : trail < trailCount) : parts? (syllable lead vowel trail)
      = some ((leadBase + lead) :: (vowelBase + vowel)
        :: if trail = 0 then [] else [trailBase + trail]) := by
  have inside := syllable_lt leadBound vowelBound trailBound
  have beyond : syllableBase ≤ syllable lead vowel trail :=
    Nat.le_trans (Nat.le_add_right _ _) (Nat.le_add_right _ _)
  have index : syllable lead vowel trail - syllableBase
      = (lead * vowelCount + vowel) * trailCount + trail := by
    rw [syllable, Nat.add_assoc, Nat.add_sub_cancel_left]
  rw [parts?, if_pos (by simp only [beyond, inside, decide_true, Bool.and_self]), index]
  simp only [leadCount, vowelCount, trailCount] at *
  have leadPart : ((lead * 21 + vowel) * 28 + trail) / (21 * 28) = lead := by omega
  have vowelPart : ((lead * 21 + vowel) * 28 + trail) % (21 * 28) / 28 = vowel := by omega
  have trailPart : ((lead * 21 + vowel) * 28 + trail) % 28 = trail := by omega
  simp only [leadPart, vowelPart, trailPart]
  split <;> rfl

theorem decomposeWithin_of_whole? {a b n : Nat} (made : whole? a b = some n) :
    decomposeWithin 4 n = decomposeWithin 4 a ++ [b] := by
  obtain ⟨lead, vowel, leadBound, vowelBound, first | second⟩ := whole?_cases made
  all_goals have openSyllable :=
    parts?_syllable leadBound vowelBound (show 0 < trailCount by decide)
  · obtain ⟨rfl, rfl, rfl⟩ := first
    have bare : Bare (leadBase + lead) := by
      apply bare_single
      rw [leadBase]
      rw [leadCount] at leadBound
      omega
    rw [decomposeWithin_of_parts? openSyllable,
      bare.decomposeWithin]
    rfl
  · obtain ⟨rfl, trail, positive, trailBound, rfl, rfl⟩ := second
    rw [decomposeWithin_of_parts? openSyllable,
      decomposeWithin_of_parts? (parts?_syllable leadBound vowelBound trailBound),
      if_neg (Nat.ne_of_gt positive)]
    rfl

theorem valid_of_whole? {a b n : Nat} (made : whole? a b = some n) : n.isValidChar := by
  obtain ⟨lead, vowel, leadBound, vowelBound, first | second⟩ := whole?_cases made
  · obtain ⟨_, _, rfl⟩ := first
    exact valid_syllable leadBound vowelBound (by decide)
  · obtain ⟨_, trail, _, trailBound, _, rfl⟩ := second
    exact valid_syllable leadBound vowelBound trailBound

end Hangul

end Wholes

section Characters

theorem equivalents_valid : ∀ run ∈ equivalentRuns, ∀ n ∈ run.2, n.isValidChar ∧ 0x20 ≤ n := by
  decide +kernel

theorem valid_of_mem_decomposeWithin {depth n : Nat} : ∀ m ∈ decomposeWithin depth n,
    m = n ∨ m.isValidChar ∧ 0x20 ≤ m := by
  refine forall_mem_decomposeWithin ?_ ?_ ?_ (.inl rfl)
  · intro _ _ split m there
    obtain ⟨_, _⟩ := Hangul.parts_single split there
    exact .inr ⟨.inl (by omega), by omega⟩
  · intro _ _ _ parts
    have there := mem_of_partsOf? parts
    obtain ⟨_, first, second⟩ := composites_valid _ there
    have beyond := (composites_apart _ there).2.2
    exact ⟨.inr first, .inr ⟨second, Nat.le_trans (by decide) beyond⟩⟩
  · intro _ _ same
    obtain ⟨run, member, _, target⟩ := mem_of_equivalentOf? same
    exact .inr (equivalents_valid run member _ (List.mem_of_getElem? target))

theorem decompose_eq (c : Char) : decompose c = (decomposeWithin 4 c.toNat).map Char.ofNat := by
  rw [decompose]
  split
  · rename_i low
    have still : next? c.toNat = none := by
      rw [next?, Hangul.parts?_eq_none (.inl (Nat.lt_trans low (by decide))), partsOf?, if_pos low]
      exact if_pos (Nat.lt_trans low (by decide))
    have bare : Bare c.toNat :=
      ⟨still, Hangul.parts?_eq_none (.inl (Nat.lt_trans low (by decide)))⟩
    rw [bare.decomposeWithin, List.map_singleton, Char.ofNat_toNat]
  · rfl

theorem toNat_ofNat_valid {n : Nat} (valid : n.isValidChar) : (Char.ofNat n).toNat = n := by
  rw [Char.ofNat, dif_pos valid]
  rfl

theorem decompose_part {c d : Char} (there : d ∈ decompose c) : decompose d = [d] := by
  rw [decompose_eq] at there
  obtain ⟨m, part, rfl⟩ := List.mem_map.mp there
  have valid : m.isValidChar := by
    rcases valid_of_mem_decomposeWithin m part with rfl | other
    · exact c.valid
    · exact other.1
  rw [decompose_eq, toNat_ofNat_valid valid,
    (bare_of_mem_decomposeWithin (ends c.toNat) m part).decomposeWithin, List.map_singleton]

theorem control_of_mem_decompose {c d : Char} (there : d ∈ decompose c) (control : d.toNat < 0x20) :
    d = c := by
  rw [decompose_eq] at there
  obtain ⟨m, part, rfl⟩ := List.mem_map.mp there
  rcases valid_of_mem_decomposeWithin m part with rfl | other
  · exact Char.ofNat_toNat c
  · rw [toNat_ofNat_valid other.1] at control
    omega

/-- What two characters are put together into has just their parts. -/
theorem decompose_of_compose? {a b whole : Char} (made : compose? a b = some whole) :
    decompose whole = decompose a ++ [b] := by
  have codes : ∃ n, whole = Char.ofNat n ∧ n.isValidChar
      ∧ decomposeWithin 4 n = decomposeWithin 4 a.toNat ++ [b.toNat] := by
    rw [compose?] at made
    split at made
    · rename_i syllable
      exact ⟨_, (Option.some.inj made).symm, Hangul.valid_of_whole? syllable,
        Hangul.decomposeWithin_of_whole? syllable⟩
    · obtain ⟨n, composite, rfl⟩ := Option.map_eq_some_iff.mp made
      have there := List.mem_append_left excludedComposites (mem_of_wholeOf? composite)
      exact ⟨n, rfl, (composites_valid _ there).1.1, decomposeWithin_of_wholeOf? composite⟩
  obtain ⟨n, rfl, valid, parts⟩ := codes
  rw [decompose_eq, toNat_ofNat_valid valid, parts, List.map_append, ← decompose_eq,
    List.map_singleton, Char.ofNat_toNat]

end Characters

end SelectiveDisclosure.Text
