import Mathlib.Data.Bool.AllAny
import Mathlib.Data.List.Forall2
import SelectiveDisclosure.Json.Reader
import SelectiveDisclosure.Proofs.SeparatedText
import SelectiveDisclosure.Proofs.StatementText

/-!
What the text of a statement says. Composition works on the whole text, escapes included, and may
merge the letter of an escape with an accent behind it. Taken apart again, the text is that of the
value with all its strings taken apart, and such a text can be read from left to right in only one
way. Two statements therefore have one text exactly when they say the same, up to the spelling of
strings, the order of members and the kind of numbers.
-/

namespace SelectiveDisclosure

open Text

namespace Json

section Strings

theorem readEscape_escape {c : Char} (escaped : Escaped c) :
    ∃ ds, escape c = '\\' :: ds ∧ ∀ rest, readEscape (ds ++ rest) = some (c, rest) := by
  have letters : ∀ e ∈ escapeLetters, ∀ rest, readEscape ([e.2] ++ rest) = some (e.1, rest) := by
    simp [escapeLetters, readEscape]
  have digits : ∀ n < 0x20, hexValue? (Nat.digitChar (n / 16)) = some (n / 16)
      ∧ hexValue? (Nat.digitChar (n % 16)) = some (n % 16)
      ∧ isLowSurrogate n = false ∧ isHighSurrogate n = false := by
    decide
  rcases escape_cases escaped with ⟨letter, there, written⟩ | ⟨control, written⟩
  · exact ⟨_, written, letters _ there⟩
  · refine ⟨_, written, fun rest => ?_⟩
    obtain ⟨first, second, low, high⟩ := digits _ control
    have zero : hexValue? '0' = some 0 := by decide
    have whole : c.toNat / 16 * 16 + c.toNat % 16 = c.toNat := Nat.div_add_mod' _ _
    simp [readEscape, readCodePoint, readUnit, first, second, zero, whole, low, high]

theorem readString_escape (cs rest : List Char) (fuel : Nat) (read : List Char)
    (enough : cs.length < fuel) : readString fuel read (cs.flatMap escape ++ '"' :: rest)
      = some (String.ofList (read.reverse ++ cs), rest) := by
  induction cs generalizing fuel read with
  | nil =>
    obtain ⟨fuel, rfl⟩ : ∃ less, fuel = less + 1 := Nat.exists_eq_succ_of_ne_zero (by omega)
    rw [List.flatMap_nil, List.nil_append, readString, if_pos rfl, List.append_nil]
  | cons c cs ih =>
    obtain ⟨fuel, rfl⟩ : ∃ less, fuel = less + 1 := Nat.exists_eq_succ_of_ne_zero (by omega)
    have next := ih fuel (c :: read) (Nat.lt_of_succ_lt_succ enough)
    rw [List.reverse_cons, List.append_assoc, List.singleton_append] at next
    rw [List.flatMap_cons, List.append_assoc]
    by_cases escaped : Escaped c
    · obtain ⟨ds, written, reads⟩ := readEscape_escape escaped
      rw [written, List.cons_append, readString, if_neg (by decide), if_pos rfl, reads]
      exact next
    · have plain : c ≠ '"' ∧ c ≠ '\\' ∧ ¬c.toNat < 0x20 := by
        simp only [Escaped, not_or] at escaped
        exact ⟨escaped.2.1, escaped.2.2, escaped.1⟩
      rw [escape_plain escaped, List.singleton_append, readString, if_neg plain.1, if_neg plain.2.1,
        if_neg plain.2.2]
      exact next

def quotedChars (cs : List Char) : List Char := '"' :: (cs.flatMap escape ++ ['"'])

theorem quotedChars_cut {cs ds rest rest' : List Char}
    (same : quotedChars cs ++ rest = quotedChars ds ++ rest') : cs = ds ∧ rest = rest' := by
  have inner : cs.flatMap escape ++ '"' :: rest = ds.flatMap escape ++ '"' :: rest' := by
    simpa [quotedChars] using same
  have read := readString_escape cs rest (cs.length + ds.length + 1) [] (by omega)
  rw [inner, readString_escape ds rest' _ [] (by omega)] at read
  obtain ⟨strings, rests⟩ := Prod.mk.inj (Option.some.inj read)
  exact ⟨(String.ofList_injective strings).symm, rests.symm⟩

end Strings

section Parts

def Ended (rest : List Char) : Prop := ∀ c ∈ rest.head?, isNumeric c = false

theorem ended_nil : Ended [] := fun _ there => absurd there (Option.not_mem_none _)

theorem numeric_cut {cs ds rest rest' : List Char} (first : Numeric cs) (second : Numeric ds)
    (ended : Ended rest) (ended' : Ended rest') (same : cs ++ rest = ds ++ rest') :
    cs = ds ∧ rest = rest' := by
  have stops {more rest rest' : List Char} (numeric : Numeric more) (ended : Ended rest)
      (split : rest = more ++ rest') : more = [] := by
    cases more with
    | nil => rfl
    | cons c more =>
      have stopped := ended c (by rw [split]; rfl)
      rw [numeric c List.mem_cons_self] at stopped
      contradiction
  rcases List.append_eq_append_iff.mp same with ⟨more, rfl, split⟩ | ⟨more, rfl, split⟩
  · have none := stops (second.sublist (List.sublist_append_right _ _)) ended split
    subst none
    exact ⟨(List.append_nil _).symm, split⟩
  · have none := stops (first.sublist (List.sublist_append_right _ _)) ended' split
    subst none
    exact ⟨List.append_nil _, split.symm⟩

theorem commaSeparated_cons (part : List Char) (parts : List (List Char)) :
    commaSeparated (part :: parts) = part ++ parts.flatMap (',' :: ·) := by
  induction parts generalizing part with
  | nil => rw [commaSeparated, List.intercalate_singleton, List.flatMap_nil, List.append_nil]
  | cons next parts ih =>
    have rest := ih next
    rw [commaSeparated] at rest ⊢
    rw [List.intercalate_cons_cons, rest, List.flatMap_cons]
    simp

variable {α : Type} {write : α → List Char} {related : α → α → Prop}

/-- Whoever reads the text of `a` knows `a`, and where its text ends. -/
def Determines (write : α → List Char) (related : α → α → Prop) (a : α) : Prop :=
  ∀ b rest rest', Ended rest → Ended rest' → write a ++ rest = write b ++ rest' →
    related a b ∧ rest = rest'

theorem ended_tail {closing : Char} (ended : isNumeric closing = false) (parts : List (List Char))
    (rest : List Char) : Ended (parts.flatMap (',' :: ·) ++ closing :: rest) := by
  intro c there
  cases parts with
  | nil => exact Option.some.inj there ▸ ended
  | cons part parts => exact Option.some.inj there ▸ (by decide)

theorem cut_tail {closing : Char} (mark : closing ≠ ',') (ended : isNumeric closing = false)
    {rest rest' : List Char} {as bs : List α} (each : ∀ a ∈ as, Determines write related a)
    (same : (as.map write).flatMap (',' :: ·) ++ closing :: rest
      = (bs.map write).flatMap (',' :: ·) ++ closing :: rest') :
    List.Forall₂ related as bs ∧ rest = rest' := by
  induction as generalizing bs with
  | nil =>
    cases bs with
    | nil => exact ⟨.nil, (List.cons.inj same).2⟩
    | cons b bs => exact absurd (List.cons.inj same).1 mark
  | cons a as ih =>
    obtain ⟨first, others⟩ := List.forall_mem_cons.mp each
    cases bs with
    | nil => exact absurd (List.cons.inj same).1.symm mark
    | cons b bs =>
      simp only [List.map_cons, List.flatMap_cons, List.cons_append, List.append_assoc,
        List.cons.injEq, true_and] at same
      obtain ⟨related, same⟩ := first b _ _ (ended_tail ended _ _) (ended_tail ended _ _) same
      obtain ⟨all, rests⟩ := ih others same
      exact ⟨.cons related all, rests⟩

theorem cut_commaSeparated {closing : Char} (mark : closing ≠ ',')
    (ended : isNumeric closing = false) (opened : ∀ a, ∃ c cs, write a = c :: cs ∧ c ≠ closing)
    {rest rest' : List Char} {as bs : List α} (each : ∀ a ∈ as, Determines write related a)
    (same : commaSeparated (as.map write) ++ closing :: rest
      = commaSeparated (bs.map write) ++ closing :: rest') :
    List.Forall₂ related as bs ∧ rest = rest' := by
  have nonempty (a : α) (as : List α) (rest rest' : List Char) :
      commaSeparated ((a :: as).map write) ++ rest ≠ closing :: rest' := by
    obtain ⟨c, cs, written, other⟩ := opened a
    rw [List.map_cons, commaSeparated_cons, written]
    exact fun same => other (List.cons.inj same).1
  cases as with
  | nil =>
    cases bs with
    | nil => exact ⟨.nil, (List.cons.inj same).2⟩
    | cons b bs => exact absurd same.symm (nonempty b bs _ _)
  | cons a as =>
    cases bs with
    | nil => exact absurd same (nonempty a as _ _)
    | cons b bs =>
      obtain ⟨first, others⟩ := List.forall_mem_cons.mp each
      simp only [List.map_cons, commaSeparated_cons, List.append_assoc] at same
      obtain ⟨related, same⟩ := first b _ _ (ended_tail ended _ _) (ended_tail ended _ _) same
      obtain ⟨all, rests⟩ := cut_tail mark ended others same
      exact ⟨.cons related all, rests⟩

theorem map_eq_of_related {β : Type} {f : α → β} {as bs : List α}
    (all : List.Forall₂ related as bs) (each : ∀ a ∈ as, ∀ b, related a b → f a = f b) :
    as.map f = bs.map f := by
  induction all with
  | nil => rfl
  | cons first _ ih =>
    obtain ⟨own, others⟩ := List.forall_mem_cons.mp each
    rw [List.map_cons, List.map_cons, own _ first, ih others]

end Parts

section Values

def numberText? : Json → Option (List Char)
  | .int n => some (writeInt n)
  | .float x => some (Decimal.Layout.canonical.write x)
  | _ => none

def inWrittenOrder (members : List (String × Json)) : List (String × Json) :=
  members.mergeSort fun a b => !(quoted b.1 < quoted a.1)

/-- Two values that say the same: the values are built in the same way, strings and names stand for
the same, and numbers have one text. Members are compared in the order in which they are written. -/
inductive Alike (same : String → String → Prop) : Json → Json → Prop where
  | null : Alike same .null .null
  | bool (b : Bool) : Alike same (.bool b) (.bool b)
  | number {v w : Json} {text : List Char} (first : v.numberText? = some text)
      (second : w.numberText? = some text) : Alike same v w
  | str {s t : String} (spelled : same s t) : Alike same (.str s) (.str t)
  | arr {items items' : List Json} (each : List.Forall₂ (Alike same) items items') :
      Alike same (.arr items) (.arr items')
  | obj {members members' : List (String × Json)}
      (names : List.Forall₂ same ((inWrittenOrder members).map Prod.fst)
        ((inWrittenOrder members').map Prod.fst))
      (values : List.Forall₂ (Alike same) ((inWrittenOrder members).map Prod.snd)
        ((inWrittenOrder members').map Prod.snd)) : Alike same (.obj members) (.obj members')

def memberChars (spell : List Char → List Char) (write : Json → List Char) (m : String × Json) :
    List Char :=
  quotedChars (spell m.1.toList) ++ ':' :: write m.2

/-- Texts that differ from the canonical ones at most in the characters of strings. -/
structure Writes (spell : List Char → List Char) (write : Json → List Char) : Prop where
  null : write .null = ['n', 'u', 'l', 'l']
  bool (b : Bool) : write (.bool b)
    = if b then ['t', 'r', 'u', 'e'] else ['f', 'a', 'l', 's', 'e']
  number {j : Json} {text : List Char} (number : j.numberText? = some text) : write j = text
  str (s : String) : write (.str s) = quotedChars (spell s.toList)
  arr (items : List Json) : write (.arr items) = '[' :: (commaSeparated (items.map write) ++ [']'])
  obj (members : List (String × Json)) : write (.obj members)
    = '\x7b' :: (commaSeparated ((inWrittenOrder members).map (memberChars spell write))
      ++ ['\x7d'])

inductive Kind where
  | null
  | false
  | true
  | number
  | string
  | array
  | object

def kind : Json → Kind
  | .null => .null
  | .bool b => if b then .true else .false
  | .int _ | .float _ => .number
  | .str _ => .string
  | .arr _ => .array
  | .obj _ => .object

def kindAt? (c : Char) : Option Kind :=
  if isNumeric c then some .number
  else [('n', Kind.null), ('t', .true), ('f', .false), ('"', .string), ('[', .array),
    ('\x7b', .object)].lookup c

theorem form (j : Json) : match j.kind with
    | .null => j = .null
    | .false => j = .bool false
    | .true => j = .bool true
    | .number => ∃ text, j.numberText? = some text
    | .string => ∃ s, j = .str s
    | .array => ∃ items, j = .arr items
    | .object => ∃ members, j = .obj members := by
  cases j with
  | null => rfl
  | bool b => cases b <;> rfl
  | int _ | float _ | str _ | arr _ | obj _ => exact ⟨_, rfl⟩

theorem number_written {j : Json} {text : List Char} (number : j.numberText? = some text) :
    Numeric text ∧ text ≠ [] := by
  cases j with
  | int n =>
    obtain rfl := Option.some.inj number
    refine ⟨numeric_writeInt n, ?_⟩
    rw [writeInt]
    exact List.append_ne_nil_of_right_ne_nil _ Nat.toDigits_ne_nil
  | float x =>
    obtain rfl := Option.some.inj number
    exact ⟨Decimal.numeric_write .canonical x, Decimal.write_ne_nil .canonical x⟩
  | null | bool _ | str _ | arr _ | obj _ => contradiction

@[elab_as_elim]
theorem induct {P : Json → Prop} (scalar : ∀ j, j.kind ≠ .array → j.kind ≠ .object → P j)
    (arr : ∀ items, (∀ j ∈ items, P j) → P (.arr items))
    (obj : ∀ members, (∀ m ∈ members, P m.2) → P (.obj members)) : ∀ j, P j
  | .arr items => arr items fun j _ => induct scalar arr obj j
  | .obj members => obj members fun m _ => induct scalar arr obj m.2
  | .bool true | .bool false => scalar _ nofun nofun
  | .null | .int _ | .float _ | .str _ => scalar _ nofun nofun
termination_by j => sizeOf j
decreasing_by
  · rename_i there
    have smaller := List.sizeOf_lt_of_mem there
    rw [Json.arr.sizeOf_spec]
    omega
  · rename_i there
    have smaller := List.sizeOf_lt_of_mem there
    obtain ⟨name, value⟩ := m
    rw [Prod.mk.sizeOf_spec] at smaller
    change sizeOf value < sizeOf (Json.obj members)
    rw [Json.obj.sizeOf_spec]
    omega

namespace Writes

variable {spell : List Char → List Char} {write : Json → List Char} (writes : Writes spell write)

include writes

theorem kindAt?_first (j : Json) : ∃ c cs, write j = c :: cs ∧ kindAt? c = some j.kind := by
  have number {j : Json} {text : List Char} (known : j.numberText? = some text) :
      ∃ c cs, write j = c :: cs ∧ kindAt? c = some .number := by
    obtain ⟨numeric, nonempty⟩ := number_written known
    obtain ⟨c, cs, rfl⟩ := List.exists_cons_of_ne_nil nonempty
    exact ⟨c, cs, writes.number known, if_pos (numeric c List.mem_cons_self)⟩
  cases j with
  | null => exact ⟨_, _, writes.null, rfl⟩
  | bool b => cases b <;> exact ⟨_, _, writes.bool _, rfl⟩
  | int _ | float _ => exact number rfl
  | str s => exact ⟨_, _, writes.str s, rfl⟩
  | arr items => exact ⟨_, _, writes.arr items, rfl⟩
  | obj members => exact ⟨_, _, writes.obj members, rfl⟩

theorem kind_of_same {v w : Json} {rest rest' : List Char}
    (same : write v ++ rest = write w ++ rest') : v.kind = w.kind := by
  obtain ⟨c, cs, first, known⟩ := writes.kindAt?_first v
  obtain ⟨d, ds, second, known'⟩ := writes.kindAt?_first w
  rw [first, second] at same
  obtain rfl := (List.cons.inj same).1
  exact Option.some.inj (known.symm.trans known')

omit writes in
theorem determines_member {m : String × Json} (value : Determines write
    (Alike fun s t => spell s.toList = spell t.toList) m.2) :
    Determines (memberChars spell write) (fun m m' => spell m.1.toList = spell m'.1.toList
      ∧ Alike (fun s t => spell s.toList = spell t.toList) m.2 m'.2) m := by
  intro m' rest rest' ended ended' same
  simp only [memberChars, List.append_assoc, List.cons_append] at same
  obtain ⟨name, same⟩ := quotedChars_cut same
  obtain ⟨alike, rests⟩ := value m'.2 rest rest' ended ended' (List.cons.inj same).2
  exact ⟨⟨name, alike⟩, rests⟩

theorem determines (v : Json) :
    Determines write (Alike fun s t => spell s.toList = spell t.toList) v := by
  induction v using induct with
  | scalar v noArray noObject =>
    intro w rest rest' ended ended' same
    have form := w.form
    rw [← writes.kind_of_same same] at form
    have number {text : List Char} (first : v.numberText? = some text)
        (other : ∃ text, w.numberText? = some text) :
        Alike (fun s t => spell s.toList = spell t.toList) v w ∧ rest = rest' := by
      obtain ⟨text', second⟩ := other
      rw [writes.number first, writes.number second] at same
      obtain ⟨rfl, rests⟩ := numeric_cut (number_written first).1 (number_written second).1
        ended ended' same
      exact ⟨.number first second, rests⟩
    cases v with
    | null =>
      obtain rfl : w = .null := form
      exact ⟨.null, List.append_cancel_left same⟩
    | bool b =>
      obtain rfl : w = .bool b := by cases b <;> exact form
      exact ⟨.bool b, List.append_cancel_left same⟩
    | int _ | float _ => exact number rfl form
    | str s =>
      obtain ⟨t, rfl⟩ : ∃ t, w = .str t := form
      rw [writes.str, writes.str] at same
      obtain ⟨spelled, rests⟩ := quotedChars_cut same
      exact ⟨.str spelled, rests⟩
    | arr items => contradiction
    | obj members => contradiction
  | arr items ih =>
    intro w rest rest' _ _ same
    have form := w.form
    rw [← writes.kind_of_same same] at form
    obtain ⟨items', rfl⟩ : ∃ items', w = .arr items' := form
    have opened (j : Json) : ∃ c cs, write j = c :: cs ∧ c ≠ ']' := by
      obtain ⟨c, cs, first, known⟩ := writes.kindAt?_first j
      refine ⟨c, cs, first, ?_⟩
      rintro rfl
      contradiction
    simp only [writes.arr, List.cons_append, List.append_assoc, List.nil_append, List.cons.injEq,
      true_and] at same
    obtain ⟨each, rests⟩ := cut_commaSeparated (by decide) (by decide) opened ih same
    exact ⟨.arr each, rests⟩
  | obj members ih =>
    intro w rest rest' _ _ same
    have form := w.form
    rw [← writes.kind_of_same same] at form
    obtain ⟨members', rfl⟩ : ∃ members', w = .obj members' := form
    have opened (m : String × Json) : ∃ c cs, memberChars spell write m = c :: cs ∧ c ≠ '\x7d' :=
      ⟨'"', _, rfl, by decide⟩
    have each : ∀ m ∈ inWrittenOrder members, Determines (memberChars spell write) _ m :=
      fun m there => determines_member (ih m (List.mem_mergeSort.mp there))
    simp only [writes.obj, List.cons_append, List.append_assoc, List.nil_append, List.cons.injEq,
      true_and] at same
    obtain ⟨all, rests⟩ := cut_commaSeparated (by decide) (by decide) opened each same
    refine ⟨.obj ?_ ?_, rests⟩
    all_goals rw [List.forall₂_map_left_iff, List.forall₂_map_right_iff]
    · exact all.imp fun _ _ both => both.1
    · exact all.imp fun _ _ both => both.2

omit writes in
theorem map_memberChars (members : List (String × Json)) : members.map (memberChars spell write)
    = List.zipWith (fun name value => quotedChars name ++ ':' :: value)
      ((members.map Prod.fst).map fun s => spell s.toList) ((members.map Prod.snd).map write) := by
  rw [List.map_map, List.map_map, List.zipWith_map, List.zipWith_self]
  rfl

theorem eq_of_alike {v w : Json} (alike : Alike (fun s t => spell s.toList = spell t.toList) v w) :
    write v = write w := by
  induction v using induct generalizing w with
  | scalar v noArray noObject =>
    cases alike with
    | null => rfl
    | bool b => rfl
    | number first second => rw [writes.number first, writes.number second]
    | str spelled => rw [writes.str, writes.str, spelled]
    | arr each => contradiction
    | obj names values => contradiction
  | arr items ih =>
    cases alike with
    | number first second => contradiction
    | arr each => rw [writes.arr, writes.arr, map_eq_of_related each fun j there _ => ih j there]
  | obj members ih =>
    cases alike with
    | number first second => contradiction
    | obj names values =>
      have written : ∀ v ∈ (inWrittenOrder members).map Prod.snd, ∀ w,
          Alike (fun s t => spell s.toList = spell t.toList) v w → write v = write w := by
        intro v there w
        obtain ⟨m, member, rfl⟩ := List.mem_map.mp there
        exact ih m (List.mem_mergeSort.mp member)
      rw [writes.obj, writes.obj, map_memberChars, map_memberChars,
        map_eq_of_related names fun _ _ _ same => same, map_eq_of_related values written]

end Writes

theorem canonicalItems_eq (items : List Json) :
    canonicalItems items = items.map canonicalChars := by
  induction items with
  | nil => rw [canonicalItems, List.map_nil]
  | cons j items ih => rw [canonicalItems, ih, List.map_cons]

theorem canonicalMembers_eq (members : List (String × Json)) : canonicalMembers members
    = members.map fun m => (quoted m.1, canonicalChars m.2) := by
  induction members with
  | nil => rw [canonicalMembers, List.map_nil]
  | cons m members ih => rw [canonicalMembers, ih, List.map_cons]

theorem writtenMembers_eq (members : List (String × Json)) :
    ((canonicalMembers members).mergeSort canonicalOrder).map writtenMember
      = (inWrittenOrder members).map (memberChars id canonicalChars) := by
  have sorted : (inWrittenOrder members).map (fun m => (quoted m.1, canonicalChars m.2))
      = (members.map fun m => (quoted m.1, canonicalChars m.2)).mergeSort canonicalOrder :=
    List.map_mergeSort fun a _ b _ => by rw [canonicalOrder]
  rw [canonicalMembers_eq, ← sorted, List.map_map]
  rfl

theorem canonicalChars_scalar {j : Json} (noArray : j.kind ≠ .array) (noObject : j.kind ≠ .object) :
    canonicalChars j = writeScalar .canonical j := by
  cases j with
  | arr items => contradiction
  | obj members => contradiction
  | null | bool _ | int _ | float _ | str _ =>
    rw [canonicalChars]
    all_goals
      intro _ same
      contradiction

theorem writes_canonicalChars : Writes id canonicalChars where
  null := canonicalChars_scalar nofun nofun
  bool b := by
    cases b <;> exact canonicalChars_scalar nofun nofun
  number {j _} number := by
    cases j with
    | int _ | float _ =>
      refine Eq.trans (canonicalChars_scalar ?_ ?_) (Option.some.inj number)
      all_goals nofun
    | null | bool _ | str _ | arr _ | obj _ => contradiction
  str s := canonicalChars_scalar nofun nofun
  arr items := by
    rw [canonicalChars, canonicalItems_eq]
  obj members := by
    rw [canonicalChars, writtenMembers_eq]

theorem separate_quotedChars (cs : List Char) :
    separate (quotedChars cs) = quotedChars (separate cs) := by
  have low : Low '"' := by decide
  rw [quotedChars, separate_cons_low low, separate_append_low low, separate_escape, separate_nil,
    quotedChars]

theorem map_commaSeparated {f : List Char → List Char} (empty : f [] = [])
    (cut : ∀ before after, f (before ++ ',' :: after) = f before ++ ',' :: f after)
    (parts : List (List Char)) : f (commaSeparated parts) = commaSeparated (parts.map f) := by
  cases parts with
  | nil => exact empty
  | cons part parts =>
    induction parts generalizing part with
    | nil =>
      rw [List.map_singleton, commaSeparated, List.intercalate_singleton, commaSeparated,
        List.intercalate_singleton]
    | cons next parts ih =>
      have rest := ih next
      rw [List.map_cons, commaSeparated, commaSeparated] at rest
      rw [List.map_cons, List.map_cons, commaSeparated, commaSeparated, List.intercalate_cons_cons,
        List.intercalate_cons_cons, List.append_assoc, List.singleton_append, cut, rest,
        List.append_assoc, List.singleton_append]

theorem separate_commaSeparated (parts : List (List Char)) :
    separate (commaSeparated parts) = commaSeparated (parts.map separate) := by
  have low : Low ',' := by decide
  exact map_commaSeparated separate_nil (separate_append_low low) parts

theorem low_of_number {j : Json} {text : List Char} (number : j.numberText? = some text) :
    ∀ c ∈ text, Low c := by
  have others : (['-', '+', '.', 'e'].all fun c => Low c) = true := by decide
  intro c there
  rcases Bool.or_eq_true_iff.mp ((number_written number).1 c there) with digit | other
  · simp only [Char.isDigit, Bool.and_eq_true, decide_eq_true_eq] at digit
    exact Nat.lt_of_le_of_lt digit.2 (by decide)
  · exact List.all_iff_forall_prop.mp others c (List.contains_iff_mem.mp other)

theorem separate_word {cs : List Char} (low : (cs.all fun c => Low c) = true) : separate cs = cs :=
  separate_low (List.all_iff_forall_prop.mp low)

theorem writes_separated : Writes separate fun j => separate j.canonicalChars where
  null := by
    rw [writes_canonicalChars.null]
    exact separate_word rfl
  bool b := by
    rw [writes_canonicalChars.bool]
    cases b <;> exact separate_word rfl
  number known := by
    rw [writes_canonicalChars.number known, separate_low (low_of_number known)]
  str s := by
    rw [writes_canonicalChars.str, separate_quotedChars, id]
  arr items := by
    have opening : Low '[' := by decide
    have closing : Low ']' := by decide
    rw [writes_canonicalChars.arr, separate_cons_low opening, separate_append_low closing,
      separate_nil, separate_commaSeparated, List.map_map]
    rfl
  obj members := by
    have opening : Low '\x7b' := by decide
    have closing : Low '\x7d' := by decide
    have colon : Low ':' := by decide
    have member : separate ∘ memberChars id canonicalChars
        = memberChars separate fun j => separate j.canonicalChars := by
      funext m
      rw [Function.comp_apply, memberChars, separate_append_low colon, separate_quotedChars, id,
        memberChars]
    rw [writes_canonicalChars.obj, separate_cons_low opening, separate_append_low closing,
      separate_nil, separate_commaSeparated, List.map_map, member]

end Values

end Json

namespace Statement

def SameSpelling (s t : String) : Prop := normalize s.toList = normalize t.toList

/-- Two statements have one text exactly when they say the same: their names are spelled the same,
and their values are alike. -/
theorem text_eq_iff (s t : Statement) : s.text = t.text
    ↔ SameSpelling s.key t.key ∧ s.value.Alike SameSpelling t.value := by
  have single (m : String × Json) : Json.inWrittenOrder [m] = [m] := List.mergeSort_singleton m
  have spelling : (fun s t : String => separate s.toList = separate t.toList) = SameSpelling := by
    funext s t
    exact propext (normalize_eq_iff _ _).symm
  have texts : s.text = t.text ↔ separate (Json.obj [(s.key, s.value)]).canonicalChars
      = separate (Json.obj [(t.key, t.value)]).canonicalChars := by
    rw [← normalize_eq_iff]
    exact ⟨fun same => String.ofList_injective same, congrArg String.ofList⟩
  rw [texts, ← spelling]
  constructor
  · intro same
    obtain ⟨alike, _⟩ := Json.writes_separated.determines _ _ [] [] nofun nofun
      (congrArg (· ++ []) same)
    cases alike with
    | number first _ => contradiction
    | obj names values =>
      rw [single, single] at names values
      exact ⟨(List.forall₂_cons.mp names).1, (List.forall₂_cons.mp values).1⟩
  · rintro ⟨key, value⟩
    apply Json.writes_separated.eq_of_alike
    apply Json.Alike.obj
    all_goals
      rw [single, single]
    · exact .cons key .nil
    · exact .cons value .nil

end Statement

end SelectiveDisclosure
