import SelectiveDisclosure.Proofs.ComposedEscapes

namespace SelectiveDisclosure

open Text

namespace Json

section Contents

mutual

def levels : Json → Nat
  | .arr items => levelsOfItems items + 1
  | .obj members => levelsOfMembers members + 1
  | _ => 0

def levelsOfItems : List Json → Nat
  | [] => 0
  | j :: rest => max (levels j) (levelsOfItems rest)

def levelsOfMembers : List (String × Json) → Nat
  | [] => 0
  | (_, j) :: rest => max (levels j) (levelsOfMembers rest)

end

mutual

def parts : Json → List Json
  | .arr items => .arr items :: partsOfItems items
  | .obj members => .obj members :: partsOfMembers members
  | j => [j]

def partsOfItems : List Json → List Json
  | [] => []
  | j :: rest => parts j ++ partsOfItems rest

def partsOfMembers : List (String × Json) → List Json
  | [] => []
  | (_, j) :: rest => parts j ++ partsOfMembers rest

end

def ownTexts : Json → List String
  | .str s => [s]
  | .obj members => members.map Prod.fst
  | _ => []

def texts (j : Json) : List String := j.parts.flatMap ownTexts

def ownInteger? : Json → Option Int
  | .int n => some n
  | _ => none

def integers (j : Json) : List Int := j.parts.filterMap ownInteger?

variable {items : List Json} {members : List (String × Json)}

theorem partsOfItems_eq (items : List Json) : partsOfItems items = items.flatMap parts := by
  induction items with
  | nil => rw [partsOfItems, List.flatMap_nil]
  | cons j items ih => rw [partsOfItems, ih, List.flatMap_cons]

theorem partsOfMembers_eq (members : List (String × Json)) :
    partsOfMembers members = members.flatMap fun m => parts m.2 := by
  induction members with
  | nil => rw [partsOfMembers, List.flatMap_nil]
  | cons m members ih => rw [partsOfMembers, ih, List.flatMap_cons]

theorem levelsOfItems_le_iff {depth : Nat} : levelsOfItems items ≤ depth
    ↔ ∀ j ∈ items, j.levels ≤ depth := by
  induction items with
  | nil => simp [levelsOfItems]
  | cons j items ih => rw [levelsOfItems, Nat.max_le, ih, List.forall_mem_cons]

theorem levelsOfMembers_le_iff {depth : Nat} : levelsOfMembers members ≤ depth
    ↔ ∀ m ∈ members, m.2.levels ≤ depth := by
  induction members with
  | nil => simp [levelsOfMembers]
  | cons m members ih => rw [levelsOfMembers, Nat.max_le, ih, List.forall_mem_cons]

theorem texts_arr (items : List Json) : (Json.arr items).texts = items.flatMap texts := by
  have own : (Json.arr items).ownTexts = [] := rfl
  rw [texts, parts, partsOfItems_eq, List.flatMap_cons, own, List.nil_append, List.flatMap_assoc]
  rfl

theorem texts_obj (members : List (String × Json)) :
    (Json.obj members).texts = members.map Prod.fst ++ members.flatMap fun m => m.2.texts := by
  rw [texts, parts, partsOfMembers_eq, List.flatMap_cons, ownTexts, List.flatMap_assoc]
  rfl

theorem integers_arr (items : List Json) : (Json.arr items).integers = items.flatMap integers := by
  rw [integers, parts, partsOfItems_eq, List.filterMap_cons_none rfl, List.filterMap_flatMap]
  rfl

theorem integers_obj (members : List (String × Json)) :
    (Json.obj members).integers = members.flatMap fun m => m.2.integers := by
  rw [integers, parts, partsOfMembers_eq, List.filterMap_cons_none rfl, List.filterMap_flatMap]
  rfl

end Contents

section Text

def composedChars (j : Json) : List Char := normalize j.canonicalChars

def composedQuoted (s : String) : List Char := '"' :: (normalize (s.toList.flatMap escape) ++ ['"'])

def composedMember (m : String × Json) : List Char := composedQuoted m.1 ++ ':' :: composedChars m.2

theorem normalize_commaSeparated (parts : List (List Char)) :
    normalize (commaSeparated parts) = commaSeparated (parts.map normalize) := by
  have comma : Inert ',' := inert_of_structural (by decide)
  exact map_commaSeparated normalize_nil (normalize_append_inert comma) parts

theorem normalize_cons_inert {c : Char} (inert : Inert c) (cs : List Char) :
    normalize (c :: cs) = c :: normalize cs := by
  have cut := normalize_append_inert inert [] cs
  rwa [normalize_nil] at cut

theorem normalize_snoc_inert {c : Char} (inert : Inert c) (cs : List Char) :
    normalize (cs ++ [c]) = normalize cs ++ [c] := by
  rw [normalize_append_inert inert, normalize_nil]

theorem normalize_quotedChars (cs : List Char) :
    normalize (quotedChars cs) = '"' :: (normalize (cs.flatMap escape) ++ ['"']) := by
  have mark : Inert '"' := inert_of_delimiter (by decide)
  rw [quotedChars, normalize_cons_inert mark, normalize_snoc_inert mark]

theorem normalize_word {cs : List Char} (low : (cs.all fun c => Low c) = true) :
    normalize cs = cs :=
  normalize_low (List.all_iff_forall_prop.mp low)

theorem composedChars_null : composedChars .null = ['n', 'u', 'l', 'l'] := by
  rw [composedChars, writes_canonicalChars.null]
  exact normalize_word rfl

theorem composedChars_bool (b : Bool) : composedChars (.bool b)
    = if b then ['t', 'r', 'u', 'e'] else ['f', 'a', 'l', 's', 'e'] := by
  rw [composedChars, writes_canonicalChars.bool]
  cases b <;> exact normalize_word rfl

theorem composedChars_number {j : Json} {text : List Char} (number : j.numberText? = some text) :
    composedChars j = text := by
  rw [composedChars, writes_canonicalChars.number number, normalize_low (low_of_number number)]

theorem composedChars_str (s : String) : composedChars (.str s) = composedQuoted s := by
  rw [composedChars, writes_canonicalChars.str, normalize_quotedChars, id, composedQuoted]

theorem composedChars_arr (items : List Json) :
    composedChars (.arr items) = '[' :: (commaSeparated (items.map composedChars) ++ [']']) := by
  have opening : Inert '[' := inert_of_structural (by decide)
  have closing : Inert ']' := inert_of_structural (by decide)
  rw [composedChars, writes_canonicalChars.arr, normalize_cons_inert opening,
    normalize_snoc_inert closing, normalize_commaSeparated, List.map_map]
  rfl

theorem composedChars_obj (members : List (String × Json)) : composedChars (.obj members)
    = '\x7b' :: (commaSeparated ((inWrittenOrder members).map composedMember) ++ ['\x7d']) := by
  have opening : Inert '\x7b' := inert_of_delimiter (by decide)
  have closing : Inert '\x7d' := inert_of_delimiter (by decide)
  have colon : Inert ':' := inert_of_structural (by decide)
  have member : normalize ∘ memberChars id canonicalChars = composedMember := by
    funext m
    rw [Function.comp_apply, memberChars, normalize_append_inert colon, normalize_quotedChars, id,
      composedMember, composedQuoted, composedChars]
  rw [composedChars, writes_canonicalChars.obj, normalize_cons_inert opening,
    normalize_snoc_inert closing, normalize_commaSeparated, List.map_map, member]

end Text

end Json

namespace Statement

theorem text_eq (s : Statement) :
    s.text = String.ofList ('\x7b' :: (Json.composedMember (s.key, s.value) ++ ['\x7d'])) := by
  have single : Json.inWrittenOrder [(s.key, s.value)] = [(s.key, s.value)] :=
    List.mergeSort_singleton _
  have written := Json.composedChars_obj [(s.key, s.value)]
  rw [single, List.map_singleton, Json.commaSeparated, List.intercalate_singleton] at written
  exact congrArg String.ofList written

end Statement

end SelectiveDisclosure
