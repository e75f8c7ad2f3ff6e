import SelectiveDisclosure.Proofs.StatementContents

namespace SelectiveDisclosure.Text

section Low

variable {c d : Char}

theorem decompose_ne_nil (c : Char) : decompose c ≠ [] := by
  rw [decompose_eq]
  simpa using decomposeWithin_ne_nil 4 c.toNat

theorem high_of_compose? {whole : Char} (made : compose? c d = some whole) : ¬Low whole := by
  intro low
  have parts := decompose_of_compose? made
  rw [decompose_low low, ← List.nil_append [whole]] at parts
  exact decompose_ne_nil c (List.append_inj_left' parts rfl).symm

theorem compose?_low (low : Low d) (c : Char) : compose? c d = none := by
  have small : d.toNat < 0xC0 := low
  have syllable : Hangul.whole? c.toNat d.toNat = none := by
    cases made : Hangul.whole? c.toNat d.toNat with
    | none => rfl
    | some n =>
      obtain ⟨lead, vowel, _, _, ⟨_, second, _⟩ | ⟨_, trail, _, _, second, _⟩⟩ :=
        Hangul.whole?_cases made
      · rw [second, Hangul.vowelBase] at small
        omega
      · rw [second, Hangul.trailBase] at small
        omega
  have composite : wholeOf? c.toNat d.toNat = none := by
    cases made : wholeOf? c.toNat d.toNat with
    | none => rfl
    | some n =>
      have there := List.mem_append_left excludedComposites (mem_of_wholeOf? made)
      have beyond := (composites_apart _ there).2.2
      dsimp only at beyond
      omega
  rw [compose?, syllable, composite, Option.map_none]

theorem inert_of_low (low : Low c) (part : ∀ d, c ∈ decompose d → d = c) : Inert c where
  whole := decompose_low low
  starter := combiningClass_low low
  first d := by
    cases made : compose? c d with
    | none => rfl
    | some whole =>
      have parts := decompose_of_compose? made
      rw [decompose_low low] at parts
      have same := part whole (parts ▸ List.mem_cons_self)
      exact absurd (same ▸ low) (high_of_compose? made)
  second d := compose?_low low d
  part := part
  result a b made := high_of_compose? made low

def structural : List Char := [',', ':', '[', ']']

theorem structural_low : ∀ n ∈ structural.map Char.toNat, n < 0xC0 := by decide

theorem structural_apart :
    (∀ e ∈ primaryComposites ++ excludedComposites, e.2.1 ∉ structural.map Char.toNat)
      ∧ ∀ run ∈ equivalentRuns, ∀ n ∈ run.2, n ∉ structural.map Char.toNat := by
  decide +kernel

theorem structural_of_mem_decomposeWithin {depth n : Nat} :
    ∀ m ∈ decomposeWithin depth n, m ∈ structural.map Char.toNat → m = n := by
  refine forall_mem_decomposeWithin ?_ ?_ ?_ fun _ => rfl
  · intro _ _ split m there mark
    have small := structural_low m mark
    have single := (Hangul.parts_single split there).1
    omega
  · intro _ a b parts
    have there := mem_of_partsOf? parts
    refine ⟨fun mark => absurd mark (structural_apart.1 _ there), fun mark => ?_⟩
    have small := structural_low b mark
    have beyond := (composites_apart _ there).2.2
    dsimp only at beyond
    omega
  · intro _ _ same mark
    obtain ⟨run, member, _, target⟩ := mem_of_equivalentOf? same
    exact absurd mark (structural_apart.2 run member _ (List.mem_of_getElem? target))

theorem inert_of_structural (mark : c ∈ structural) : Inert c := by
  have code := List.mem_map_of_mem (f := Char.toNat) mark
  refine inert_of_low (structural_low _ code) fun d there => ?_
  rw [decompose_eq] at there
  obtain ⟨m, part, rfl⟩ := List.mem_map.mp there
  rcases valid_of_mem_decomposeWithin m part with rfl | other
  · exact (Char.ofNat_toNat d).symm
  · rw [toNat_ofNat_valid other.1] at code
    rw [structural_of_mem_decomposeWithin m part code, Char.ofNat_toNat]

theorem inert_of_escaped (escaped : Escaped c) : Inert c := by
  rcases escaped with control | rfl | rfl
  · exact inert_of_low (Nat.lt_trans control (by decide))
      fun d there => (control_of_mem_decompose there control).symm
  · exact inert_of_delimiter (by decide)
  · exact inert_of_delimiter (by decide)

end Low

section Joining

/-- Behind a base without parts everything stays as it would be without the base, unless something
is put together with it. -/
theorem composeOnto_cases (base : Char) (marks cs : List Char) :
    composeOnto base marks cs = base :: (marks.reverse ++ composeAll cs)
      ∨ ∃ whole rest, composeOnto base marks cs = whole :: rest ∧ ¬Low whole := by
  induction cs generalizing base marks with
  | nil =>
    left
    rw [composeOnto, composeAll, List.append_nil]
  | cons c cs ih =>
    rw [composeOnto, composeAll]
    cases made : joined? base marks c with
    | some whole =>
      have high := high_of_compose? (compose?_of_joined? made)
      right
      rcases ih whole marks with stays | joined
      · exact ⟨whole, _, stays, high⟩
      · exact joined
    | none =>
      by_cases starter : combiningClass c = 0
      · left
        simp only [if_pos starter]
      · rcases ih base (c :: marks) with stays | joined
        · left
          simp only [if_neg starter]
          rw [stays, List.reverse_cons, List.append_assoc, List.singleton_append]
        · right
          simpa only [if_neg starter] using joined

variable {c d : Char}

theorem normalize_cons_low (low : Low c) (cs : List Char) :
    normalize (c :: cs) = composeOnto c [] (separate cs) := by
  rw [normalize, List.flatMap_cons, decompose_low low, List.singleton_append, orderMarks_cons,
    insertMark_starter (combiningClass_low low), composeAll, if_pos (combiningClass_low low),
    separate]

theorem normalize_low_cases (low : Low c) (cs : List Char) :
    normalize (c :: cs) = c :: normalize cs
      ∨ ∃ whole rest, normalize (c :: cs) = whole :: rest ∧ ¬Low whole := by
  rw [normalize_cons_low low]
  exact composeOnto_cases c [] (separate cs)

theorem normalize_low_low (first : Low c) (second : Low d) (cs : List Char) :
    normalize (c :: d :: cs) = c :: normalize (d :: cs) := by
  have apart := joined?_eq_none (compose?_low second c) []
  rw [normalize_cons_low first, normalize_cons_low second, separate_cons_low second, composeOnto,
    apart]
  simp only [if_pos (combiningClass_low second)]
  rfl

theorem normalize_low {cs : List Char} (low : ∀ c ∈ cs, Low c) : normalize cs = cs := by
  induction cs with
  | nil => exact normalize_nil
  | cons c cs ih =>
    obtain ⟨first, others⟩ := List.forall_mem_cons.mp low
    cases cs with
    | nil =>
      rw [normalize_cons_low first, separate_nil, composeOnto, List.reverse_nil]
    | cons d cs =>
      rw [normalize_low_low first (others d List.mem_cons_self), ih others]

/-- Of several characters without parts only the last one can be put together with what follows. -/
theorem normalize_low_append {ds : List Char} (low : ∀ d ∈ ds, Low d) (cs : List Char) :
    normalize (ds ++ cs) = ds ++ normalize cs
      ∨ ∃ front last whole rest, ds = front ++ [last]
        ∧ normalize (ds ++ cs) = front ++ whole :: rest ∧ ¬Low whole := by
  induction ds with
  | nil => exact .inl rfl
  | cons d ds ih =>
    obtain ⟨first, others⟩ := List.forall_mem_cons.mp low
    cases ds with
    | nil =>
      rcases normalize_low_cases first cs with stays | ⟨whole, rest, joined, high⟩
      · exact .inl stays
      · exact .inr ⟨[], d, whole, rest, rfl, joined, high⟩
    | cons e ds =>
      have next := normalize_low_low first (others e List.mem_cons_self) (ds ++ cs)
      rw [List.cons_append, List.cons_append, next]
      rcases ih others with stays | ⟨front, last, whole, rest, split, joined, high⟩
      · rw [List.cons_append] at stays
        exact .inl (congrArg (d :: ·) stays)
      · rw [List.cons_append] at joined
        exact .inr ⟨d :: front, last, whole, rest, congrArg (d :: ·) split,
          congrArg (d :: ·) joined, high⟩

end Joining

/-- Marks put in order one after the other, last one first: the order of marks by recursion along
the text. -/
def insertMarks (cs : List Char) : List Char := cs.foldr insertMark []

theorem orderMarks_eq_insertMarks (cs : List Char) : orderMarks cs = insertMarks cs := by
  induction cs with
  | nil => rw [orderMarks, insertMarks, List.foldr_nil]
  | cons c cs ih => rw [orderMarks_cons, ih, insertMarks, insertMarks, List.foldr_cons]

theorem normalize_eq (cs : List Char) :
    normalize cs = composeAll (insertMarks (cs.flatMap decompose)) := by
  rw [normalize, orderMarks_eq_insertMarks]

end SelectiveDisclosure.Text

namespace SelectiveDisclosure.Json

open Text

section Strings

def composed (s : String) : String := String.ofList (normalize s.toList)

/-- Composition and escaping can be exchanged: composing the escaped string does the same as
escaping the composed one. -/
def KeepsEscapes (cs : List Char) : Prop :=
  normalize (cs.flatMap escape) = (normalize cs).flatMap escape

instance (cs : List Char) : Decidable (KeepsEscapes cs) :=
  decidable_of_iff (composeAll (insertMarks ((cs.flatMap escape).flatMap decompose))
    = (composeAll (insertMarks (cs.flatMap decompose))).flatMap escape)
    (by rw [KeepsEscapes, normalize_eq, normalize_eq])

variable {cs rest : List Char}

theorem plain_normalize (plain : ∀ c ∈ cs, ¬Escaped c) : ∀ c ∈ normalize cs, ¬Escaped c :=
  fun c there escaped => plain c (mem_of_mem_normalize (inert_of_escaped escaped) there) escaped

theorem flatMap_escape_plain (plain : ∀ c ∈ cs, ¬Escaped c) : cs.flatMap escape = cs := by
  rw [List.flatMap_congr fun c there => escape_plain (plain c there), List.flatMap_singleton']

theorem keepsEscapes_plain (plain : ∀ c ∈ cs, ¬Escaped c) : KeepsEscapes cs := by
  rw [KeepsEscapes, flatMap_escape_plain plain, flatMap_escape_plain (plain_normalize plain)]

/-- The first escape ends the part of a string that composition treats as if nothing was escaped. -/
theorem keepsEscapes_cut {before after : List Char} {c : Char} {ds : List Char}
    (plain : ∀ d ∈ before, ¬Escaped d) (escaped : Escaped c) (written : escape c = '\\' :: ds)
    (kept : normalize (ds ++ after.flatMap escape) = ds ++ normalize (after.flatMap escape))
    (others : KeepsEscapes after) : KeepsEscapes (before ++ c :: after) := by
  have backslash : Inert '\\' := inert_of_delimiter (by decide)
  rw [KeepsEscapes] at others ⊢
  rw [normalize_append_inert (inert_of_escaped escaped), List.flatMap_append, List.flatMap_append,
    List.flatMap_cons, List.flatMap_cons, written, flatMap_escape_plain plain,
    flatMap_escape_plain (plain_normalize plain), List.cons_append,
    normalize_append_inert backslash, kept, others, List.cons_append]

theorem readEscape_high {whole : Char} (high : ¬Low whole) (rest : List Char) :
    readEscape (whole :: rest) = none := by
  unfold readEscape
  split <;> simp_all [Low]

theorem hexValue?_high {whole : Char} (high : ¬Low whole) : hexValue? whole = none := by
  have beyond : ∀ d : Char, Low d → ¬whole ≤ d := by
    intro d low below
    exact high (Nat.lt_of_le_of_lt below low)
  have digit := beyond '9' (by decide)
  have lower := beyond 'f' (by decide)
  have upper := beyond 'F' (by decide)
  simp [hexValue?, digit, lower, upper]

theorem readEscape_joined {c last whole : Char} {front : List Char} (escaped : Escaped c)
    (written : escape c = '\\' :: (front ++ [last])) (high : ¬Low whole) (rest : List Char) :
    readEscape (front ++ whole :: rest) = none := by
  rcases escape_cases escaped with ⟨letter, _, short⟩ | ⟨_, long⟩
  · rw [short] at written
    have single : [] ++ [letter] = front ++ [last] := (List.cons.inj written).2
    rw [← (List.append_inj' single rfl).1]
    exact readEscape_high high rest
  · rw [long] at written
    have hex : ['u', '0', '0', Nat.digitChar (c.toNat / 16)] ++ [Nat.digitChar (c.toNat % 16)]
        = front ++ [last] := (List.cons.inj written).2
    rw [← (List.append_inj' hex rfl).1]
    simp [readEscape, readCodePoint, readUnit, hexValue?_high high]

theorem readString_plain {fuel : Nat} {read : List Char} {r : String × List Char}
    (plain : ∀ c ∈ cs, ¬Escaped c) (success : readString fuel read (cs ++ rest) = some r) :
    ∃ fuel read, readString fuel read rest = some r := by
  induction cs generalizing fuel read with
  | nil => exact ⟨fuel, read, success⟩
  | cons c cs ih =>
    obtain ⟨first, others⟩ := List.forall_mem_cons.mp plain
    simp only [Escaped, not_or] at first
    cases fuel with
    | zero =>
      rw [readString] at success
      contradiction
    | succ fuel =>
      rw [List.cons_append, readString, if_neg first.2.1, if_neg first.2.2, if_neg first.1]
        at success
      exact ih others success

/-- A composed string is read only if its escapes came through composition. -/
theorem keepsEscapes_of_readString {cs rest read : List Char} {fuel : Nat}
    {r : String × List Char}
    (success : readString fuel read (normalize (cs.flatMap escape) ++ '"' :: rest) = some r) :
    KeepsEscapes cs := by
  cases found : cs.find? fun c => Escaped c with
  | none =>
    rw [List.find?_eq_none] at found
    exact keepsEscapes_plain fun c there escaped => found c there (decide_eq_true escaped)
  | some c =>
    obtain ⟨escaped, before, after, split, plain⟩ := List.find?_eq_some_iff_append.mp found
    replace escaped := of_decide_eq_true escaped
    replace plain : ∀ d ∈ before, ¬Escaped d := by simpa using plain
    obtain ⟨ds, written, low⟩ := exists_escape escaped
    have backslash : Inert '\\' := inert_of_delimiter (by decide)
    rw [split, List.flatMap_append, List.flatMap_cons, written, flatMap_escape_plain plain,
      List.cons_append, normalize_append_inert backslash, List.append_assoc, List.cons_append]
      at success
    obtain ⟨fuel, read, success⟩ := readString_plain (plain_normalize plain) success
    cases fuel with
    | zero =>
      rw [readString] at success
      contradiction
    | succ fuel =>
      rw [readString, if_neg (by decide), if_pos rfl] at success
      rcases normalize_low_append low (after.flatMap escape) with
        stays | ⟨front, last, whole, more, parts, joined, high⟩
      · obtain ⟨ds', written', reads⟩ := readEscape_escape escaped
        obtain rfl : ds = ds' := (List.cons.inj (written.symm.trans written')).2
        rw [stays, List.append_assoc, reads] at success
        rw [split]
        exact keepsEscapes_cut plain escaped written stays (keepsEscapes_of_readString success)
      · rw [joined, List.append_assoc, List.cons_append,
          readEscape_joined escaped (parts ▸ written) high] at success
        contradiction
termination_by cs.length
decreasing_by
  rw [split, List.length_append, List.length_cons]
  omega

theorem length_le_escaped (cs : List Char) : cs.length ≤ (cs.flatMap escape).length := by
  induction cs with
  | nil => exact Nat.le_refl 0
  | cons c cs ih =>
    obtain ⟨e, es, written, _⟩ := head_escape c
    rw [List.flatMap_cons, written, List.length_append, List.length_cons, List.length_cons]
    omega

theorem readString_composed {fuel : Nat} (kept : KeepsEscapes cs)
    (enough : (normalize (cs.flatMap escape)).length < fuel) (rest : List Char) :
    readString fuel [] (normalize (cs.flatMap escape) ++ '"' :: rest)
      = some (String.ofList (normalize cs), rest) := by
  rw [KeepsEscapes] at kept
  rw [kept] at enough ⊢
  exact readString_escape _ rest fuel [] (Nat.lt_of_le_of_lt (length_le_escaped _) enough)

end Strings

end SelectiveDisclosure.Json
