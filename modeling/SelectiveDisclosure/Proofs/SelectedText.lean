import SelectiveDisclosure.Document
import SelectiveDisclosure.Json.Selection
import SelectiveDisclosure.Proofs.StatementReading

namespace SelectiveDisclosure.Json

section Blanks

def Blank (cs : List Char) : Prop := ∀ c ∈ cs, isSpace c

theorem blank_nil : Blank [] := List.forall_mem_nil _

theorem blank_lineBreak (level : Nat) : Blank (lineBreak level) := by
  rw [lineBreak]
  refine List.forall_mem_cons.mpr ⟨rfl, ?_⟩
  intro c there
  rw [List.eq_of_mem_replicate there]
  rfl

variable {blank : List Char}

theorem skipSpace_append (all : Blank blank) (cs : List Char) :
    skipSpace (blank ++ cs) = skipSpace cs :=
  List.dropWhile_append_of_pos all

theorem select_append (all : Blank blank) (fuel : Nat) (σ : Selection) (cs : List Char) :
    select fuel σ (blank ++ cs) = select fuel σ cs := by
  cases fuel with
  | zero => rw [select, select]
  | succ fuel => simp only [select, skipSpace_append all]

theorem selectMembers_append (all : Blank blank) (fuel : Nat) (σ : Selection)
    (read : List (String × Json)) (cs : List Char) :
    selectMembers fuel σ read (blank ++ cs) = selectMembers fuel σ read cs := by
  cases fuel with
  | zero => rw [selectMembers, selectMembers]
  | succ fuel => simp only [selectMembers, skipSpace_append all]

theorem apart_append (all : Blank blank) {rest : List Char} (apart : Apart rest) :
    Apart (blank ++ rest) := by
  cases blank with
  | nil => exact apart
  | cons c blank =>
    intro d there
    obtain rfl := Option.some.inj there
    have space := all c List.mem_cons_self
    simp only [isSpace, Bool.or_eq_true, decide_eq_true_eq] at space
    rcases space with ((rfl | rfl) | rfl) | rfl <;> decide

end Blanks

/-- The text is read as the value, whatever may stand behind it. -/
def Selects (σ : Selection) (j : Json) (text : List Char) : Prop :=
  ∀ fuel rest, 3 * text.length ≤ fuel → Apart rest → select fuel σ (text ++ rest) = some (j, rest)

section Objects

variable {σ τ : Selection} {front gap back : List Char} {write : Json → List Char}

def spacedMember (gap : List Char) (write : Json → List Char) (m : String × Json) : List Char :=
  quoted m.1 ++ ':' :: (gap ++ write m.2)

theorem selectMembers_member {m : String × Json} (spaces : Blank gap)
    (asked : σ.member? m.1 = some τ) (reads : Selects τ m.2 (write m.2)) {fuel : Nat}
    (enough : 3 * (spacedMember gap write m).length ≤ fuel + 1) (read : List (String × Json))
    {rest : List Char} (apart : Apart rest) :
    selectMembers (fuel + 1) σ read (spacedMember gap write m ++ rest)
      = match skipSpace rest with
        | ',' :: rest => selectMembers fuel σ (m :: read) rest
        | '\x7d' :: rest => some ((m :: read).reverse, rest)
        | _ => none := by
  have name := length_le_escaped m.1.toList
  simp only [spacedMember, quoted, List.length_append, List.length_cons] at enough
  have text : spacedMember gap write m ++ rest
      = '"' :: (m.1.toList.flatMap escape ++ '"' :: (':' :: (gap ++ (write m.2 ++ rest)))) := by
    simp [spacedMember, quoted]
  have opened (cs : List Char) : skipSpace ('"' :: cs) = '"' :: cs := skipSpace_cons (by decide) cs
  have colon (cs : List Char) : skipSpace (':' :: cs) = ':' :: cs := skipSpace_cons (by decide) cs
  have named := readString_escape m.1.toList (':' :: (gap ++ (write m.2 ++ rest))) fuel []
    (by omega)
  have value := reads fuel rest (by omega) apart
  rw [text, selectMembers]
  simp only [opened, named, colon, asked, select_append spaces, value, Option.bind_eq_bind,
    Option.bind_some, Option.map_some, List.reverse_nil, List.nil_append, String.ofList_toList]
  rfl

def spacedMembers (front gap : List Char) (write : Json → List Char)
    (members : List (String × Json)) : List Char :=
  (',' :: front).intercalate (members.map (spacedMember gap write))

theorem selectMembers_written (lead : Blank front) (spaces : Blank gap) (trail : Blank back)
    {m : String × Json} {members : List (String × Json)}
    (each : ∀ n ∈ m :: members, ∃ τ, σ.member? n.1 = some τ ∧ Selects τ n.2 (write n.2))
    (fuel : Nat) (read : List (String × Json)) (rest : List Char)
    (enough : 3 * (spacedMembers front gap write (m :: members)).length ≤ fuel) :
    selectMembers fuel σ read
        (spacedMembers front gap write (m :: members) ++ (back ++ '\x7d' :: rest))
      = some (read.reverse ++ m :: members, rest) := by
  have nonempty (n : String × Json) : 0 < (spacedMember gap write n).length := Nat.succ_pos _
  -- The blanks behind a comma belong to the next call, which passes over them.
  induction members generalizing m fuel read with
  | nil =>
    obtain ⟨τ, asked, reads⟩ := each m List.mem_cons_self
    rw [spacedMembers, List.map_singleton, List.intercalate_singleton] at enough ⊢
    have some := nonempty m
    obtain ⟨fuel, rfl⟩ : ∃ less, fuel = less + 1 := Nat.exists_eq_succ_of_ne_zero (by omega)
    have ended : Apart (back ++ '\x7d' :: rest) :=
      apart_append trail (followed_cons (by decide) rest).apart
    rw [selectMembers_member spaces asked reads enough read ended, skipSpace_append trail,
      skipSpace_cons (by decide)]
    simp
  | cons next members ih =>
    obtain ⟨⟨τ, asked, reads⟩, others⟩ := List.forall_mem_cons.mp each
    have split : spacedMembers front gap write (m :: next :: members)
        = spacedMember gap write m ++ ',' :: (front
          ++ spacedMembers front gap write (next :: members)) := by
      simp [spacedMembers, List.intercalate_cons_cons]
    rw [split] at enough ⊢
    simp only [List.length_append, List.length_cons] at enough
    have some := nonempty m
    obtain ⟨fuel, rfl⟩ : ∃ less, fuel = less + 1 := Nat.exists_eq_succ_of_ne_zero (by omega)
    have ended (cs : List Char) : Apart (',' :: cs) := (followed_cons (by decide) cs).apart
    rw [List.append_assoc, List.cons_append, selectMembers_member spaces asked reads (by omega) read
      (ended _), skipSpace_cons (by decide), List.append_assoc]
    simp only [selectMembers_append lead]
    rw [ih others fuel (m :: read) (by omega)]
    simp

def spacedObject (front gap back : List Char) (write : Json → List Char)
    (members : List (String × Json)) : List Char :=
  if members.isEmpty then ['\x7b', '\x7d']
  else '\x7b' :: (front ++ (spacedMembers front gap write members ++ (back ++ ['\x7d'])))

theorem select_braces (inside : σ ≠ .whole) (fuel : Nat) (cs : List Char) :
    select (fuel + 1) σ ('\x7b' :: '\x7d' :: cs) = some (.obj [], cs) := by
  have opened : skipSpace ('\x7b' :: '\x7d' :: cs) = '\x7b' :: '\x7d' :: cs :=
    skipSpace_cons (by decide) _
  have closed : skipSpace ('\x7d' :: cs) = '\x7d' :: cs := skipSpace_cons (by decide) cs
  cases σ with
  | whole => contradiction
  | entries _ | fields _ => simp only [select, opened, closed]

theorem select_object (inside : σ ≠ .whole) (lead : Blank front) (fuel : Nat) (cs : List Char) :
    select (fuel + 1) σ ('\x7b' :: (front ++ '"' :: cs))
      = (selectMembers fuel σ [] ('"' :: cs)).map fun r => (.obj r.1, r.2) := by
  have opened : skipSpace ('\x7b' :: (front ++ '"' :: cs)) = '\x7b' :: (front ++ '"' :: cs) :=
    skipSpace_cons (by decide) _
  have name : skipSpace (front ++ '"' :: cs) = '"' :: cs := by
    rw [skipSpace_append lead, skipSpace_cons (by decide)]
  cases σ with
  | whole => contradiction
  | entries _ | fields _ =>
    simp only [select, opened, name]
    rfl

theorem selects_object (inside : σ ≠ .whole) (lead : Blank front) (spaces : Blank gap)
    (trail : Blank back) {members : List (String × Json)}
    (each : ∀ m ∈ members, ∃ τ, σ.member? m.1 = some τ ∧ Selects τ m.2 (write m.2)) :
    Selects σ (.obj members) (spacedObject front gap back write members) := by
  intro fuel rest enough _
  cases members with
  | nil =>
    rw [spacedObject, if_pos List.isEmpty_nil] at enough ⊢
    obtain ⟨fuel, rfl⟩ : ∃ less, fuel = less + 1 :=
      Nat.exists_eq_succ_of_ne_zero (by rintro rfl; contradiction)
    exact select_braces inside fuel rest
  | cons m members =>
    have text : spacedObject front gap back write (m :: members) ++ rest = '\x7b' :: (front
        ++ (spacedMembers front gap write (m :: members) ++ (back ++ '\x7d' :: rest))) := by
      simp [spacedObject]
    have length : (spacedMembers front gap write (m :: members)).length
        < (spacedObject front gap back write (m :: members)).length := by
      simp [spacedObject]
      omega
    obtain ⟨fuel, rfl⟩ : ∃ less, fuel = less + 1 := Nat.exists_eq_succ_of_ne_zero (by omega)
    obtain ⟨more, first⟩ : ∃ more, spacedMembers front gap write (m :: members)
        ++ (back ++ '\x7d' :: rest) = '"' :: more := by
      cases members <;> exact ⟨_, rfl⟩
    have read := selectMembers_written lead spaces trail each fuel [] rest (by omega)
    rw [first] at read
    rw [text, first, select_object inside lead, read]
    rfl

end Objects

section Scalars

theorem select_whole (fuel : Nat) (cs : List Char) :
    select (fuel + 1) .whole cs = readValue fuel depthLimit (skipSpace cs) := by
  rw [select]

theorem selects_scalar {j : Json} {c : Char} {cs : List Char} (other : isSpace c = false)
    (reads : ∀ fuel rest, 3 * (c :: cs).length ≤ fuel + 2 → Apart rest →
      readValue (fuel + 1) depthLimit (c :: cs ++ rest) = some (j, rest)) :
    Selects .whole j (c :: cs) := by
  intro fuel rest enough apart
  rw [List.length_cons] at enough
  obtain ⟨fuel, rfl⟩ : ∃ less, fuel = less + 2 := Nat.exists_eq_add_of_le' (by omega)
  rw [select_whole, List.cons_append, skipSpace_cons other, ← List.cons_append]
  exact reads fuel rest (by rwa [List.length_cons]) apart

theorem selects_null : Selects .whole .null ['n', 'u', 'l', 'l'] := by
  refine selects_scalar (by decide) fun fuel rest _ _ => ?_
  rw [List.cons_append, readValue, skipSpace_cons (by decide)]
  rfl

theorem selects_bool (b : Bool) : Selects .whole (.bool b) (writeScalar .document (.bool b)) := by
  cases b <;>
  · refine selects_scalar (by decide) fun fuel rest _ _ => ?_
    rw [List.cons_append, readValue, skipSpace_cons (by decide)]
    rfl

theorem selects_int {n : Int} (fits : fitsWord n) : Selects .whole (.int n) (writeInt n) := by
  obtain ⟨numeric, nonempty⟩ := number_written (j := .int n) rfl
  obtain ⟨c, cs, written⟩ := List.exists_cons_of_ne_nil nonempty
  rw [written] at numeric ⊢
  have first := numeric c List.mem_cons_self
  refine selects_scalar (isSpace_of_numeric first) fun fuel rest _ apart => ?_
  rw [List.cons_append, readValue_number first, ← List.cons_append, ← written]
  exact readNumber_writeInt fits apart

theorem selects_str (s : String) : Selects .whole (.str s) (quoted s) := by
  refine selects_scalar (by decide) fun fuel rest enough _ => ?_
  have length := length_le_escaped s.toList
  rw [List.length_cons, List.length_append] at enough
  have read := readString_escape s.toList rest fuel [] (by omega)
  rw [List.cons_append, List.append_assoc, List.singleton_append, readValue_string, read]
  simp

end Scalars

theorem Selection.member?_ofFields {names : List String} {name : String} (named : name ∈ names) :
    (ofFields names).member? name = some .whole := by
  have found : (names.find? fun n => n = name).isSome :=
    List.find?_isSome.mpr ⟨name, named, decide_eq_true rfl⟩
  obtain ⟨n, first⟩ := Option.isSome_iff_exists.mp found
  rw [ofFields, member?, List.find?_map, Function.comp_def, first]
  rfl

section Written

variable {σ : Selection} {j : Json} {members : List (String × Json)}

theorem compactMembers_eq (members : List (String × Json)) :
    compactMembers members = members.map (spacedMember [] compactChars) := by
  induction members with
  | nil => rfl
  | cons m members ih =>
    rw [compactMembers, ih]
    rfl

theorem indentedMembers_eq (level : Nat) (members : List (String × Json)) :
    indentedMembers level members = members.map (spacedMember [' '] (indentedChars level)) := by
  induction members with
  | nil => rfl
  | cons m members ih =>
    rw [indentedMembers, ih]
    rfl

theorem compactChars_obj (members : List (String × Json)) :
    compactChars (.obj members) = spacedObject [] [] [] compactChars members := by
  rw [compactChars, compactMembers_eq, commaSeparated]
  cases members with
  | nil => rfl
  | cons m members => rfl

theorem indentedChars_obj (level : Nat) (members : List (String × Json)) :
    indentedChars level (.obj members) = spacedObject (lineBreak (level + 1)) [' ']
      (lineBreak level) (indentedChars (level + 1)) members := by
  rw [indentedChars, indentedMembers_eq, block]
  cases members with
  | nil => rfl
  | cons m members => simp [spacedObject, spacedMembers]

/-- Both texts of the value are read as the value, with the indented one at any level. -/
structure ReadBack (σ : Selection) (j : Json) : Prop where
  compact : Selects σ j (compactChars j)
  indented : ∀ level, Selects σ j (indentedChars level j)

theorem readBack_null : ReadBack .whole .null := ⟨selects_null, fun _ => selects_null⟩

theorem readBack_bool (b : Bool) : ReadBack .whole (.bool b) :=
  ⟨selects_bool b, fun _ => selects_bool b⟩

theorem readBack_int {n : Int} (fits : fitsWord n) : ReadBack .whole (.int n) :=
  ⟨selects_int fits, fun _ => selects_int fits⟩

theorem readBack_str (s : String) : ReadBack .whole (.str s) :=
  ⟨selects_str s, fun _ => selects_str s⟩

theorem readBack_obj (inside : σ ≠ .whole)
    (each : ∀ m ∈ members, ∃ τ, σ.member? m.1 = some τ ∧ ReadBack τ m.2) :
    ReadBack σ (.obj members) := by
  constructor
  · rw [compactChars_obj]
    refine selects_object inside blank_nil blank_nil blank_nil fun m there => ?_
    obtain ⟨τ, asked, read⟩ := each m there
    exact ⟨τ, asked, read.compact⟩
  · intro level
    rw [indentedChars_obj]
    refine selects_object inside (blank_lineBreak _) ?_ (blank_lineBreak _) fun m there => ?_
    · exact List.forall_mem_singleton.mpr rfl
    · obtain ⟨τ, asked, read⟩ := each m there
      exact ⟨τ, asked, read.indented (level + 1)⟩

theorem readBack_option {α : Type} [ToString α] (value : Option α) :
    ReadBack .whole (.ofOption .ofText value) := by
  cases value with
  | none => exact readBack_null
  | some a => exact readBack_str (toString a)

theorem readBack_record {names : List String}
    (each : ∀ m ∈ members, m.1 ∈ names ∧ ReadBack .whole m.2) :
    ReadBack (.ofFields names) (.obj members) := by
  refine readBack_obj nofun fun m there => ?_
  obtain ⟨named, read⟩ := each m there
  exact ⟨.whole, Selection.member?_ofFields named, read⟩

theorem readBack_map {κ ν : Type} [LT κ] {name : κ → String} {write : ν → Json}
    (each : ∀ a, ReadBack σ (write a)) (m : OrderedMap κ ν) :
    ReadBack (.entries σ) (.ofMapWith name write m) := by
  refine readBack_obj nofun fun member there => ?_
  obtain ⟨e, _, rfl⟩ := List.mem_map.mp there
  exact ⟨σ, rfl, each e.2⟩

theorem parseSelected?_ofList {text : List Char} (selects : Selects σ j text) :
    parseSelected? σ (String.ofList text) = some j := by
  have read := selects (3 * text.length + 3) [] (by omega) nofun
  rw [List.append_nil] at read
  rw [parseSelected?, String.toList_ofList, read]
  rfl

theorem ReadBack.parse (read : ReadBack σ j) :
    parseSelected? σ j.compact = some j ∧ parseSelected? σ j.indented = some j :=
  ⟨parseSelected?_ofList read.compact, parseSelected?_ofList (read.indented 0)⟩

end Written

end SelectiveDisclosure.Json
