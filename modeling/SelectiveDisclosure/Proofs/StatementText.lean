import SelectiveDisclosure.Proofs.ComposedText
import SelectiveDisclosure.Proofs.WrittenBytes
import SelectiveDisclosure.Statement.Basic

/-!
Where the text of a statement begins. It is one object in braces, with every string and every brace
inside it closed again, and composition does not change that. Such a text never ends in another one,
so a nonce can be told from the statement that it was put in front of, although nothing stands
between them.
-/

namespace SelectiveDisclosure

open Text

/-- Where a reader of a JSON text stands: between strings or within one, possibly right behind a
backslash, and how many braces are open. Beyond a backslash between strings, or a closing brace too
many, nothing is read. -/
inductive Reading where
  | outside (depth : Nat)
  | inside (depth : Nat)
  | escaped (depth : Nat)
  | broken

namespace Reading

def step : Reading → Char → Reading
  | outside depth, c =>
    if c = '"' then inside depth
    else if c = '\\' then broken
    else if c = '\x7b' then outside (depth + 1)
    else if c = '\x7d' then
      match depth with
      | 0 => broken
      | depth + 1 => outside depth
    else outside depth
  | inside depth, c =>
    if c = '"' then outside depth else if c = '\\' then escaped depth else inside depth
  | escaped depth, _ => inside depth
  | broken, _ => broken

def scan (r : Reading) (cs : List Char) : Reading := cs.foldl step r

def settle : Reading → Reading
  | escaped depth => inside depth
  | r => r

/-- Two readers of one text of which just one is between strings. -/
def Opposite : Reading → Reading → Prop
  | outside _, inside _ => True
  | inside _, outside _ => True
  | _, _ => False

theorem scan_nil (r : Reading) : r.scan [] = r := rfl

theorem scan_cons (r : Reading) (c : Char) (cs : List Char) :
    r.scan (c :: cs) = (r.step c).scan cs := rfl

theorem scan_append (r : Reading) (before after : List Char) :
    r.scan (before ++ after) = (r.scan before).scan after := List.foldl_append

theorem scan_broken (cs : List Char) : broken.scan cs = broken := by
  induction cs with
  | nil => rfl
  | cons c cs ih => exact ih

theorem step_opposite {r t : Reading} (opposite : Opposite r t) (c : Char) :
    Opposite (r.step c) (t.step c) ∨ r.step c = broken ∨ t.step c = broken := by
  have meets (outer inner : Nat) : Opposite ((outside outer).step c) ((inside inner).step c)
      ∨ (outside outer).step c = broken := by
    simp only [step]
    split_ifs
    · exact .inl trivial
    · exact .inr rfl
    · exact .inl trivial
    · cases outer with
      | zero => exact .inr rfl
      | succ outer => exact .inl trivial
    · exact .inl trivial
  match r, t, opposite with
  | outside outer, inside inner, _ => exact (meets outer inner).imp_right .inl
  | inside inner, outside outer, _ =>
    rcases meets outer inner with apart | stopped
    · left
      revert apart
      cases (outside outer).step c <;> cases (inside inner).step c <;> exact id
    · exact .inr (.inr stopped)

/-- A backslash ends the reading between strings, so both readers see every quotation mark as one,
and they never come to stand between strings together. -/
theorem not_both_outside {r t : Reading} (opposite : Opposite r t) {cs : List Char}
    {depth depth' : Nat} (first : r.scan cs = outside depth) : t.scan cs ≠ outside depth' := by
  intro second
  induction cs generalizing r t with
  | nil =>
    rw [scan_nil] at first second
    subst first second
    exact opposite
  | cons c cs ih =>
    rw [scan_cons] at first second
    rcases step_opposite opposite c with apart | stopped | stopped
    · exact ih apart first second
    · rw [stopped, scan_broken] at first
      contradiction
    · rw [stopped, scan_broken] at second
      contradiction

end Reading

open Reading

def Plain (cs : List Char) : Prop := ∀ c ∈ cs, c ∉ delimiters

instance (cs : List Char) : Decidable (Plain cs) := List.decidableBAll (fun c => c ∉ delimiters) cs

/-- Every string and every brace that these characters open is closed by them. -/
def Balanced (cs : List Char) : Prop := ∀ depth, (outside depth).scan cs = outside depth

namespace Reading

theorem step_plain {c : Char} (plain : c ∉ delimiters) (r : Reading) : r.step c = r.settle := by
  simp only [delimiters, List.mem_cons, List.not_mem_nil, or_false, not_or] at plain
  obtain ⟨quote, backslash, opening, closing⟩ := plain
  cases r <;> simp [step, settle, *]

theorem scan_plain {cs : List Char} (plain : Plain cs) (some : cs ≠ []) (r : Reading) :
    r.scan cs = r.settle := by
  induction cs generalizing r with
  | nil => contradiction
  | cons c cs ih =>
    obtain ⟨first, others⟩ := List.forall_mem_cons.mp plain
    rw [scan_cons, step_plain first]
    cases cs with
    | nil => rfl
    | cons d cs =>
      rw [ih others (List.cons_ne_nil d cs)]
      cases r <;> rfl

/-- Composition neither makes delimiters nor moves them, and between them it keeps something where
something was. -/
theorem scan_normalize (r : Reading) (cs : List Char) : r.scan (normalize cs) = r.scan cs := by
  by_cases plain : Plain cs
  · by_cases empty : cs = []
    · rw [empty, normalize_nil]
    · have composed : Plain (normalize cs) := by
        intro c there delimits
        exact plain c (mem_of_mem_normalize (inert_of_delimiter delimits) there) delimits
      have nonempty : normalize cs ≠ [] := by
        rwa [Ne, normalize_eq_nil_iff]
      rw [scan_plain plain empty, scan_plain composed nonempty]
  · obtain ⟨c, there, delimits⟩ : ∃ c ∈ cs, c ∈ delimiters := by
      simpa [Plain] using plain
    obtain ⟨before, after, split⟩ := List.append_of_mem there
    rw [split, normalize_append_inert (inert_of_delimiter delimits), scan_append, scan_append,
      scan_cons, scan_cons, scan_normalize r before, scan_normalize _ after]
termination_by cs.length
decreasing_by
  · rw [split, List.length_append, List.length_cons]
    omega
  · rw [split, List.length_append, List.length_cons]
    omega

end Reading

section Numbers

def isNumeric (c : Char) : Bool := c.isDigit || ['-', '+', '.', 'e'].contains c

def Numeric (cs : List Char) : Prop := ∀ c ∈ cs, isNumeric c

instance (cs : List Char) : Decidable (Numeric cs) := List.decidableBAll (fun c => isNumeric c) cs

variable {cs ds : List Char}

theorem Numeric.append (first : Numeric cs) (second : Numeric ds) : Numeric (cs ++ ds) :=
  List.forall_mem_append.mpr ⟨first, second⟩

theorem Numeric.cons {c : Char} (first : isNumeric c) (others : Numeric cs) : Numeric (c :: cs) :=
  List.forall_mem_cons.mpr ⟨first, others⟩

theorem Numeric.sublist (numeric : Numeric cs) (part : ds.Sublist cs) : Numeric ds :=
  fun c there => numeric c (part.subset there)

theorem Numeric.plain (numeric : Numeric cs) : Plain cs := by
  have others : (delimiters.all fun c => !isNumeric c) = true := by decide
  intro c there delimits
  have other := List.all_eq_true.mp others c delimits
  rw [numeric c there] at other
  contradiction

theorem numeric_digits (n : Nat) : Numeric (Nat.toDigits 10 n) := by
  intro c there
  have digit := Nat.isDigit_of_mem_toDigits (by decide) (by decide) there
  rw [isNumeric, digit, Bool.true_or]

theorem numeric_zeros (n : Int) : Numeric (Decimal.zeros n) := by
  intro c there
  rw [Decimal.zeros] at there
  rw [List.eq_of_mem_replicate there]
  decide

theorem Json.numeric_writeInt (n : Int) : Numeric (writeInt n) := by
  have sign : Numeric (if n < 0 then ['-'] else []) := by
    split <;> decide
  exact sign.append (numeric_digits n.natAbs)

theorem Decimal.numeric_place (layout : Layout) {ds : List Char} (digits : Numeric ds)
    (exponent : Int) : Numeric (layout.place ds exponent) := by
  have point : isNumeric '.' := by decide
  rw [Layout.place]
  dsimp only
  split
  · split
    · refine (digits.append (numeric_zeros _)).append ?_
      split <;> decide
    · split
      · exact (digits.sublist (List.take_sublist _ _)).append
          (.cons point (digits.sublist (List.drop_sublist _ _)))
      · refine Numeric.append (Numeric.append ?_ (numeric_zeros _)) digits
        decide
  · have fraction : Numeric (if ds.length ≤ 1 then [] else '.' :: ds.drop 1) := by
      split
      · exact nofun
      · exact .cons point (digits.sublist (List.drop_sublist _ _))
    have sign : isNumeric (if exponent < 0 then '-' else '+') := by
      split <;> decide
    exact ((digits.sublist (List.take_sublist _ _)).append fraction).append
      (.cons (by decide) (.cons sign (numeric_digits _)))

theorem Decimal.numeric_write (layout : Layout) (x : Double) : Numeric (layout.write x) := by
  rw [Layout.write]
  split
  · split <;> split <;> decide
  · have sign : Numeric (if x.negative then ['-'] else []) := by
      split <;> decide
    exact sign.append (numeric_place layout (numeric_digits _) _)

theorem Decimal.write_ne_nil (layout : Layout) (x : Double) : layout.write x ≠ [] := by
  have placed {ds : List Char} (some : ds ≠ []) (exponent : Int) :
      layout.place ds exponent ≠ [] := by
    rw [Layout.place]
    dsimp only
    split_ifs <;> simp [some]
  rw [Layout.write]
  split
  · simp
  · exact List.append_ne_nil_of_right_ne_nil _ (placed Nat.toDigits_ne_nil _)

end Numbers

section Balance

variable {cs ds : List Char}

theorem Plain.balanced (plain : Plain cs) : Balanced cs := by
  intro depth
  by_cases empty : cs = []
  · rw [empty, scan_nil]
  · exact scan_plain plain empty (outside depth)

theorem Balanced.append (first : Balanced cs) (second : Balanced ds) : Balanced (cs ++ ds) := by
  intro depth
  rw [scan_append, first, second]

theorem Balanced.braced (body : Balanced cs) : Balanced ('\x7b' :: (cs ++ ['\x7d'])) := by
  intro depth
  have opened : (outside depth).step '\x7b' = outside (depth + 1) := rfl
  rw [scan_cons, opened, scan_append, body]
  rfl

theorem Balanced.normalize (balanced : Balanced cs) : Balanced (normalize cs) := by
  intro depth
  rw [scan_normalize, balanced]

theorem Json.scan_escape (c : Char) (depth : Nat) :
    (inside depth).scan (escape c) = inside depth := by
  rw [escape]
  cases letter : escapeLetters.lookup c with
  | some letter => rfl
  | none =>
    dsimp only
    split
    · rename_i control
      have digits : ∀ n < 0x20, Plain [Nat.digitChar (n / 16), Nat.digitChar (n % 16)] := by
        decide
      exact scan_plain (digits c.toNat control) (List.cons_ne_nil _ _) (inside depth)
    · have other : c ≠ '"' ∧ c ≠ '\\' := by
        constructor <;> rintro rfl <;> contradiction
      simp [scan_cons, scan_nil, step, other]

theorem Json.balanced_quoted (s : String) : Balanced (quoted s) := by
  intro depth
  have within (cs : List Char) : (inside depth).scan (cs.flatMap escape) = inside depth := by
    induction cs with
    | nil => rfl
    | cons c cs ih => rw [List.flatMap_cons, scan_append, scan_escape, ih]
  have opened : (outside depth).step '"' = inside depth := rfl
  rw [quoted, scan_cons, opened, scan_append, within]
  rfl

theorem Json.balanced_commaSeparated {parts : List (List Char)}
    (each : ∀ part ∈ parts, Balanced part) : Balanced (commaSeparated parts) := by
  have comma : Balanced [','] := Plain.balanced (by decide)
  induction parts with
  | nil => exact fun _ => rfl
  | cons part parts ih =>
    obtain ⟨first, others⟩ := List.forall_mem_cons.mp each
    cases parts with
    | nil =>
      rw [commaSeparated, List.intercalate_singleton]
      exact first
    | cons next parts =>
      rw [commaSeparated, List.intercalate_cons_cons]
      exact (first.append comma).append (ih others)

theorem Json.balanced_scalar (j : Json) : Balanced (writeScalar .canonical j) := by
  have null : Balanced ['n', 'u', 'l', 'l'] := Plain.balanced (by decide)
  match j with
  | .bool true => exact (Plain.balanced (by decide) : Balanced ['t', 'r', 'u', 'e'])
  | .bool false => exact (Plain.balanced (by decide) : Balanced ['f', 'a', 'l', 's', 'e'])
  | .int n => exact (numeric_writeInt n).plain.balanced
  | .float x => exact (Decimal.numeric_write .canonical x).plain.balanced
  | .str s => exact balanced_quoted s
  | .null | .arr _ | .obj _ => exact null

theorem Json.balanced_writtenMember {m : List Char × List Char} (name : Balanced m.1)
    (value : Balanced m.2) : Balanced (writtenMember m) := by
  have colon : Balanced [':'] := Plain.balanced (by decide)
  exact name.append (colon.append value)

mutual

theorem Json.balanced_canonicalChars : ∀ j : Json, Balanced j.canonicalChars
  | .arr items => by
    have opening : Balanced ['['] := Plain.balanced (by decide)
    have closing : Balanced [']'] := Plain.balanced (by decide)
    rw [canonicalChars]
    exact opening.append ((balanced_commaSeparated (balanced_canonicalItems items)).append closing)
  | .obj members => by
    rw [canonicalChars]
    apply Balanced.braced
    apply balanced_commaSeparated
    intro part there
    obtain ⟨m, member, rfl⟩ := List.mem_map.mp there
    obtain ⟨name, value⟩ := balanced_canonicalMembers members m (List.mem_mergeSort.mp member)
    exact balanced_writtenMember name value
  | .null | .bool _ | .int _ | .float _ | .str _ => by
    rw [canonicalChars]
    · exact balanced_scalar _
    all_goals nofun

theorem Json.balanced_canonicalItems : ∀ (items : List Json),
    ∀ part ∈ canonicalItems items, Balanced part
  | [] => nofun
  | j :: rest => by
    rw [canonicalItems, List.forall_mem_cons]
    exact ⟨balanced_canonicalChars j, balanced_canonicalItems rest⟩

theorem Json.balanced_canonicalMembers : ∀ (members : List (String × Json)),
    ∀ m ∈ canonicalMembers members, Balanced m.1 ∧ Balanced m.2
  | [] => nofun
  | (k, j) :: rest => by
    rw [canonicalMembers, List.forall_mem_cons]
    exact ⟨⟨balanced_quoted k, balanced_canonicalChars j⟩, balanced_canonicalMembers rest⟩

end

end Balance

/-- A text in braces does not end in another one. If it did, the brace of the second would stand
inside the first: within a string the two would be read with opposite quotation marks, and
between strings it would never be closed. -/
theorem braced_suffix_free {body body' front : List Char} (balanced : Balanced body)
    (balanced' : Balanced body')
    (split : '\x7b' :: (body ++ ['\x7d']) = front ++ '\x7b' :: (body' ++ ['\x7d'])) :
    front = [] := by
  cases front with
  | nil => rfl
  | cons c front =>
    have rest : body ++ ['\x7d'] = (front ++ '\x7b' :: body') ++ ['\x7d'] := by
      simpa using (List.cons.inj split).2
    have whole := balanced 0
    rw [List.append_cancel_right rest, scan_append, scan_cons] at whole
    have opposite (depth : Nat) : (inside depth).scan body' ≠ outside 0 :=
      not_both_outside (r := outside 0) (t := inside depth) trivial (balanced' 0)
    cases reached : (outside 0).scan front with
    | outside depth =>
      have opened : (outside depth).step '\x7b' = outside (depth + 1) := rfl
      rw [reached, opened, balanced'] at whole
      exact absurd (Reading.outside.inj whole) (Nat.succ_ne_zero depth)
    | inside depth =>
      rw [reached] at whole
      exact absurd whole (opposite depth)
    | escaped depth =>
      rw [reached] at whole
      exact absurd whole (opposite depth)
    | broken =>
      have stays : broken.step '\x7b' = broken := rfl
      rw [reached, stays, scan_broken] at whole
      contradiction

namespace Statement

theorem exists_body (s : Statement) : ∃ body, Balanced body
    ∧ s.text.toList = '\x7b' :: (body ++ ['\x7d']) := by
  have single : (Json.obj [(s.key, s.value)]).canonicalChars
      = [] ++ '\x7b' :: (Json.writtenMember (Json.quoted s.key, s.value.canonicalChars)
        ++ '\x7d' :: []) := by
    simp [Json.canonicalChars, Json.canonicalMembers, Json.commaSeparated]
  have member := Json.balanced_writtenMember (m := (Json.quoted s.key, s.value.canonicalChars))
    (Json.balanced_quoted s.key) (Json.balanced_canonicalChars s.value)
  refine ⟨_, member.normalize, ?_⟩
  rw [text, String.toList_ofList, single, normalize_append_inert (inert_of_delimiter (by decide)),
    normalize_append_inert (inert_of_delimiter (by decide)), normalize_nil, List.nil_append]

theorem text_suffix_free {s t : Statement} {front : List Char}
    (split : s.text.toList = front ++ t.text.toList) : front = [] := by
  obtain ⟨body, balanced, written⟩ := s.exists_body
  obtain ⟨body', balanced', written'⟩ := t.exists_body
  rw [written, written'] at split
  exact braced_suffix_free balanced balanced' split

theorem nonce_split {nonce nonce' : String} {s t : Statement}
    (same : utf8 nonce ++ s.bytes = utf8 nonce' ++ t.bytes) :
    nonce = nonce' ∧ s.text = t.text := by
  rw [bytes, bytes, ← utf8_append, ← utf8_append] at same
  have chars := congrArg String.toList (utf8_injective same)
  rw [String.toList_append, String.toList_append] at chars
  rcases List.append_eq_append_iff.mp chars with ⟨front, first, second⟩ | ⟨front, first, second⟩
  · obtain rfl := text_suffix_free second
    rw [List.append_nil] at first
    exact ⟨(String.toList_inj.mp first).symm, String.toList_inj.mp second⟩
  · obtain rfl := text_suffix_free second
    rw [List.append_nil] at first
    exact ⟨String.toList_inj.mp first, (String.toList_inj.mp second).symm⟩

end Statement

end SelectiveDisclosure
