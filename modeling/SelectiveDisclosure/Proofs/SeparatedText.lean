import SelectiveDisclosure.Json.Writer
import SelectiveDisclosure.Proofs.CharacterParts
import SelectiveDisclosure.Proofs.MarkOrder

/-!
Text taken apart: all characters as their parts, and the marks in order. Composition puts parts
together again and loses nothing, so two texts are composed to one text exactly when they come apart
into the same. Unlike composed text, text that is taken apart can be cut in front of or behind every
character that is no mark, and escapes can be put in before or after.
-/

namespace SelectiveDisclosure.Text

def separate (cs : List Char) : List Char := orderMarks (cs.flatMap decompose)

section Composition

theorem leadingMarks_cons {c : Char} (mark : combiningClass c ≠ 0) (cs : List Char) :
    leadingMarks (c :: cs) = c :: leadingMarks cs := by
  simp [leadingMarks, mark]

theorem Ordered.leadingMarks {cs : List Char} (ordered : Ordered cs) :
    (leadingMarks cs).Pairwise fun a b => combiningClass a ≤ combiningClass b := by
  have : Trans (fun a b : Char => combiningClass a ≤ combiningClass b)
      (fun a b => combiningClass a ≤ combiningClass b)
      (fun a b => combiningClass a ≤ combiningClass b) := ⟨Nat.le_trans⟩
  have chain := List.IsChain.prefix ordered
    (List.takeWhile_prefix fun c => combiningClass c != 0)
  refine List.isChain_iff_pairwise.mp (chain.imp_of_mem_imp ?_)
  intro a b _ there next
  have mark : combiningClass b ≠ 0 := by
    simpa using List.all_eq_true.mp List.all_takeWhile b there
  exact next.resolve_left mark

/-- What is known when the text `cs` is left behind a base with these marks, last one first: they
are marks, and no mark that follows belongs in front of one of them. -/
structure Kept (marks cs : List Char) : Prop where
  marked : ∀ m ∈ marks, combiningClass m ≠ 0
  run : (marks.reverse ++ leadingMarks cs).Pairwise fun a b => combiningClass a ≤ combiningClass b
  ordered : Ordered cs

namespace Kept

variable {marks cs : List Char} {base c whole : Char}

theorem start (ordered : Ordered cs) : Kept [] cs :=
  ⟨nofun, ordered.leadingMarks, ordered⟩

theorem keep (kept : Kept marks (c :: cs)) (mark : combiningClass c ≠ 0) :
    Kept (c :: marks) cs where
  marked := List.forall_mem_cons.mpr ⟨mark, kept.marked⟩
  run := by
    have run := kept.run
    rwa [leadingMarks_cons mark, List.append_cons, ← List.reverse_cons] at run
  ordered := kept.ordered.of_cons

/-- A character that joins the base in spite of the marks in between has a higher class than all of
them. -/
theorem above (kept : Kept marks (c :: cs)) (made : joined? base marks c = some whole) :
    marks = [] ∨ combiningClass c ≠ 0 ∧ ∀ m ∈ marks, combiningClass m < combiningClass c := by
  cases marks with
  | nil => exact .inl rfl
  | cons last marks =>
    rw [joined?] at made
    split at made
    · contradiction
    · rename_i higher
      have run := (List.pairwise_append.mp kept.run).1
      rw [List.pairwise_reverse, List.pairwise_cons] at run
      refine .inr ⟨by omega, List.forall_mem_cons.mpr ⟨Nat.not_le.mp higher, ?_⟩⟩
      intro m there
      exact Nat.lt_of_le_of_lt (run.1 m there) (Nat.not_le.mp higher)

theorem join (kept : Kept marks (c :: cs)) (made : joined? base marks c = some whole) :
    Kept marks cs := by
  rcases kept.above made with rfl | ⟨mark, _⟩
  · exact start kept.ordered.of_cons
  · have run := kept.run
    rw [leadingMarks_cons mark] at run
    have fewer : (marks.reverse ++ leadingMarks cs).Sublist
        (marks.reverse ++ c :: leadingMarks cs) :=
      (List.Sublist.refl _).append (List.sublist_cons_self ..)
    exact ⟨kept.marked, run.sublist fewer, kept.ordered.of_cons⟩

end Kept

theorem flatMap_decompose_parts {cs : List Char} (parts : ∀ c ∈ cs, decompose c = [c]) :
    cs.flatMap decompose = cs := by
  rw [List.flatMap_congr parts, List.flatMap_singleton']

/-- Whatever joins a base comes apart from it again, and goes back behind the marks that it was
taken over. -/
theorem orderMarks_composeOnto {base : Char} {marks cs : List Char} (kept : Kept marks cs)
    (marksParts : ∀ c ∈ marks, decompose c = [c]) (parts : ∀ c ∈ cs, decompose c = [c]) :
    orderMarks ((composeOnto base marks cs).flatMap decompose)
      = orderMarks (decompose base ++ (marks.reverse ++ cs)) := by
  induction cs generalizing base marks with
  | nil =>
    have reversed : ∀ c ∈ marks.reverse, decompose c = [c] := by
      simpa using marksParts
    rw [composeOnto, List.flatMap_cons, flatMap_decompose_parts reversed, List.append_nil]
  | cons c cs ih =>
    obtain ⟨own, others⟩ := List.forall_mem_cons.mp parts
    rw [composeOnto]
    cases made : joined? base marks c with
    | some whole =>
      dsimp only
      rw [ih (kept.join made) marksParts others,
        decompose_of_compose? (compose?_of_joined? made), List.append_assoc, List.singleton_append]
      apply orderMarks_append_congr
      rcases kept.above made with rfl | ⟨mark, lower⟩
      · rfl
      · refine (orderMarks_move mark ?_ cs).symm
        intro m there
        have member := List.mem_reverse.mp there
        exact ⟨kept.marked m member, Nat.ne_of_lt (lower m member)⟩
    | none =>
      by_cases starter : combiningClass c = 0
      · have reversed : ∀ c ∈ marks.reverse, decompose c = [c] := by
          simpa using marksParts
        simp only [if_pos starter]
        rw [List.flatMap_cons, List.flatMap_append, flatMap_decompose_parts reversed]
        refine orderMarks_append_congr (orderMarks_append_congr ?_ _) _
        rw [ih (Kept.start kept.ordered.of_cons) (List.forall_mem_nil _) others, own]
        rfl
      · simp only [if_neg starter]
        rw [ih (kept.keep starter) (List.forall_mem_cons.mpr ⟨own, marksParts⟩) others,
          List.reverse_cons, List.append_assoc, List.singleton_append]

theorem orderMarks_composeAll {cs : List Char} (ordered : Ordered cs)
    (parts : ∀ c ∈ cs, decompose c = [c]) :
    orderMarks ((composeAll cs).flatMap decompose) = orderMarks cs := by
  induction cs with
  | nil => rfl
  | cons c cs ih =>
    obtain ⟨own, others⟩ := List.forall_mem_cons.mp parts
    rw [composeAll]
    split
    · rw [orderMarks_composeOnto (Kept.start ordered.of_cons) (List.forall_mem_nil _) others, own]
      rfl
    · rw [List.flatMap_cons, own]
      exact orderMarks_append_congr (ih ordered.of_cons others) [c]

theorem separate_normalize (cs : List Char) : separate (normalize cs) = separate cs := by
  have parts : ∀ c ∈ separate cs, decompose c = [c] := by
    intro c there
    obtain ⟨d, _, part⟩ := List.mem_flatMap.mp ((orderMarks_perm _).mem_iff.mp there)
    exact decompose_part part
  calc separate (normalize cs)
    _ = orderMarks (separate cs) := orderMarks_composeAll (ordered_orderMarks _) parts
    _ = separate cs := orderMarks_of_ordered (ordered_orderMarks _)

/-- Texts are composed to one text exactly when they come apart into the same. -/
theorem normalize_eq_iff (cs ds : List Char) :
    normalize cs = normalize ds ↔ separate cs = separate ds := by
  constructor
  · intro same
    rw [← separate_normalize cs, same, separate_normalize]
  · intro same
    rw [normalize, normalize]
    exact congrArg composeAll same

end Composition

section Cuts

variable {c : Char}

def Low (c : Char) : Prop := c.toNat < 0xC0

instance (c : Char) : Decidable (Low c) := inferInstanceAs (Decidable (_ < _))

theorem decompose_low (low : Low c) : decompose c = [c] := if_pos low

theorem combiningClass_low (low : Low c) : combiningClass c = 0 := by
  rw [combiningClass, if_pos (Nat.lt_trans low (by decide))]

theorem separate_append_low (low : Low c) (before after : List Char) :
    separate (before ++ c :: after) = separate before ++ c :: separate after := by
  rw [separate, List.flatMap_append, List.flatMap_cons, decompose_low low, List.singleton_append,
    orderMarks_append_starter (combiningClass_low low), separate, separate]

theorem separate_nil : separate [] = [] := by
  rw [separate, List.flatMap_nil, orderMarks]

theorem separate_cons_low (low : Low c) (after : List Char) :
    separate (c :: after) = c :: separate after := by
  have cut := separate_append_low low [] after
  rwa [separate_nil] at cut

theorem separate_low {cs : List Char} (low : ∀ c ∈ cs, Low c) : separate cs = cs := by
  induction cs with
  | nil => exact separate_nil
  | cons c cs ih =>
    obtain ⟨first, others⟩ := List.forall_mem_cons.mp low
    rw [separate_cons_low first, ih others]

end Cuts

section Escapes

open Json (escape)

def Escaped (c : Char) : Prop := c.toNat < 0x20 ∨ c = '"' ∨ c = '\\'

instance (c : Char) : Decidable (Escaped c) := inferInstanceAs (Decidable (_ ∨ _))

theorem low_of_escaped {c : Char} (escaped : Escaped c) : Low c := by
  rcases escaped with control | rfl | rfl
  · exact Nat.lt_trans control (by decide)
  · decide
  · decide

theorem escape_plain {c : Char} (plain : ¬Escaped c) : escape c = [c] := by
  have letters : (Json.escapeLetters.all fun e => Escaped e.1) = true := by decide
  have none : Json.escapeLetters.lookup c = none := by
    rw [List.lookup_eq_none_iff]
    intro e there
    rw [bne_iff_ne]
    rintro rfl
    exact plain (of_decide_eq_true (List.all_eq_true.mp letters e there))
  rw [escape, none]
  exact if_neg fun control => plain (.inl control)

theorem escape_cases {c : Char} (escaped : Escaped c) :
    (∃ letter, (c, letter) ∈ Json.escapeLetters ∧ escape c = ['\\', letter])
      ∨ c.toNat < 0x20 ∧ escape c = ['\\', 'u', '0', '0', Nat.digitChar (c.toNat / 16),
        Nat.digitChar (c.toNat % 16)] := by
  rw [escape]
  split
  · rename_i letter found
    obtain ⟨_, _, split, _⟩ := List.lookup_eq_some_iff.mp found
    exact .inl ⟨letter, by simp [split], rfl⟩
  · have control : c.toNat < 0x20 := by
      rcases escaped with control | rfl | rfl
      · exact control
      all_goals contradiction
    exact .inr ⟨control, if_pos control⟩

theorem exists_escape {c : Char} (escaped : Escaped c) :
    ∃ ds, escape c = '\\' :: ds ∧ ∀ d ∈ ds, Low d := by
  have letters : (Json.escapeLetters.all fun e => Low e.2) = true := by decide
  have digits : ∀ n < 0x20, (['u', '0', '0', Nat.digitChar (n / 16),
      Nat.digitChar (n % 16)].all fun d => Low d) = true := by
    decide
  rcases escape_cases escaped with ⟨letter, there, written⟩ | ⟨control, written⟩
  · have low := List.all_eq_true.mp letters _ there
    exact ⟨_, written, List.forall_mem_singleton.mpr (of_decide_eq_true low)⟩
  · refine ⟨_, written, fun d there => ?_⟩
    exact of_decide_eq_true (List.all_eq_true.mp (digits _ control) d there)

theorem low_of_mem_escape {c d : Char} (escaped : Escaped c) (there : d ∈ escape c) : Low d := by
  obtain ⟨ds, written, low⟩ := exists_escape escaped
  rw [written, List.mem_cons] at there
  rcases there with rfl | rest
  · decide
  · exact low d rest

theorem escape_decompose (c : Char) :
    (escape c).flatMap decompose = (decompose c).flatMap escape := by
  by_cases escaped : Escaped c
  · rw [decompose_low (low_of_escaped escaped), List.flatMap_singleton]
    exact flatMap_decompose_parts fun d there => decompose_low (low_of_mem_escape escaped there)
  · have plain : ∀ d ∈ decompose c, escape d = [d] := by
      intro d there
      refine escape_plain fun within => escaped ?_
      have whole : c = d := by
        rcases within with control | rfl | rfl
        · exact (control_of_mem_decompose there control).symm
        · exact mem_decompose (by decide) there
        · exact mem_decompose (by decide) there
      exact whole ▸ within
    rw [escape_plain escaped, List.flatMap_singleton, List.flatMap_congr plain,
      List.flatMap_singleton']

theorem head_escape (c : Char) :
    ∃ d ds, escape c = d :: ds ∧ combiningClass d = combiningClass c := by
  by_cases escaped : Escaped c
  · obtain ⟨ds, written, _⟩ := exists_escape escaped
    exact ⟨_, ds, written, (combiningClass_low (low_of_escaped escaped)).symm⟩
  · exact ⟨c, [], escape_plain escaped, rfl⟩

theorem insertMark_escape {c : Char} (plain : ¬Escaped c) (ds : List Char) :
    insertMark c (ds.flatMap escape) = (insertMark c ds).flatMap escape := by
  induction ds with
  | nil => rw [List.flatMap_nil, insertMark, List.flatMap_singleton, escape_plain plain]
  | cons d ds ih =>
    rw [List.flatMap_cons, insertMark]
    split
    · rename_i lower
      have other : ¬Escaped d := fun escaped =>
        lower.1 (combiningClass_low (low_of_escaped escaped))
      rw [escape_plain other, List.singleton_append, insertMark, if_pos lower, ih,
        List.flatMap_cons, escape_plain other, List.singleton_append]
    · rename_i stays
      obtain ⟨e, es, written, same⟩ := head_escape d
      rw [List.flatMap_cons, List.flatMap_cons, written, List.cons_append, insertMark, same,
        if_neg stays, escape_plain plain, List.singleton_append]

theorem orderMarks_low_append {cs : List Char} (low : ∀ c ∈ cs, Low c)
    (after : List Char) : orderMarks (cs ++ after) = cs ++ orderMarks after := by
  induction cs with
  | nil => rfl
  | cons c cs ih =>
    obtain ⟨first, others⟩ := List.forall_mem_cons.mp low
    rw [List.cons_append, orderMarks_cons, ih others, insertMark_starter (combiningClass_low first),
      List.cons_append]

theorem orderMarks_escape (ds : List Char) :
    orderMarks (ds.flatMap escape) = (orderMarks ds).flatMap escape := by
  induction ds with
  | nil => rw [List.flatMap_nil, orderMarks, List.flatMap_nil]
  | cons d ds ih =>
    rw [List.flatMap_cons, orderMarks_cons]
    by_cases escaped : Escaped d
    · rw [orderMarks_low_append fun _ => low_of_mem_escape escaped, ih,
        insertMark_starter (combiningClass_low (low_of_escaped escaped)), List.flatMap_cons]
    · rw [escape_plain escaped, List.singleton_append, orderMarks_cons, ih,
        insertMark_escape escaped]

theorem separate_escape (cs : List Char) :
    separate (cs.flatMap escape) = (separate cs).flatMap escape := by
  have parts : (cs.flatMap escape).flatMap decompose = (cs.flatMap decompose).flatMap escape := by
    rw [List.flatMap_assoc, List.flatMap_assoc]
    exact List.flatMap_congr fun c _ => escape_decompose c
  rw [separate, parts, orderMarks_escape, separate]

end Escapes

end SelectiveDisclosure.Text
