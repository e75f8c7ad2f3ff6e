import SelectiveDisclosure.Proofs.ComposedValues
import SelectiveDisclosure.Proofs.WrittenNumbers

/-!
Reading the text of a statement. The text is composed after it was written, and a reader takes it
for JSON exactly when no escape was lost by that and the value is not nested deeper than the reader
allows. What is read then is one object with one member. Its name is the composed key, and its value
is the value of the statement, with all strings composed and all members in the order of the text.
-/

namespace SelectiveDisclosure

open Text

namespace Json

section Legibility

/-- What a reader of composed text needs of a value: it is not nested deeper than the reader may go,
and all escapes have come through composition. -/
structure Legible (depth : Nat) (j : Json) : Prop where
  levels : j.levels ≤ depth
  texts : ∀ s ∈ j.texts, KeepsEscapes s.toList

variable {items : List Json} {members : List (String × Json)} {depth : Nat}

theorem legible_arr_iff : Legible (depth + 1) (.arr items) ↔ ∀ j ∈ items, Legible depth j := by
  constructor
  · intro legible j there
    have few := legible.levels
    have kept := legible.texts
    rw [levels, Nat.add_le_add_iff_right, levelsOfItems_le_iff] at few
    rw [texts_arr, List.forall_mem_flatMap] at kept
    exact ⟨few j there, kept j there⟩
  · intro each
    constructor
    · rw [levels, Nat.add_le_add_iff_right, levelsOfItems_le_iff]
      exact fun j there => (each j there).levels
    · rw [texts_arr, List.forall_mem_flatMap]
      exact fun j there => (each j there).texts

theorem legible_obj_iff : Legible (depth + 1) (.obj members)
    ↔ ∀ m ∈ members, KeepsEscapes m.1.toList ∧ Legible depth m.2 := by
  constructor
  · intro legible m there
    have few := legible.levels
    have kept := legible.texts
    rw [levels, Nat.add_le_add_iff_right, levelsOfMembers_le_iff] at few
    rw [texts_obj, List.forall_mem_append, List.forall_mem_map, List.forall_mem_flatMap] at kept
    exact ⟨kept.1 m there, few m there, kept.2 m there⟩
  · intro each
    constructor
    · rw [levels, Nat.add_le_add_iff_right, levelsOfMembers_le_iff]
      exact fun m there => (each m there).2.levels
    · rw [texts_obj, List.forall_mem_append, List.forall_mem_map, List.forall_mem_flatMap]
      exact ⟨fun m there => (each m there).1, fun m there => (each m there).2.texts⟩

theorem legible_str_iff {s : String} : Legible depth (.str s) ↔ KeepsEscapes s.toList :=
  ⟨fun legible => legible.texts s List.mem_cons_self,
    fun kept => ⟨Nat.zero_le depth, List.forall_mem_singleton.mpr kept⟩⟩

end Legibility

section Sequences

/-- What a reader makes of a text in front of `rest`: if the text is legible, something that echoes
what was written, with `rest` left, and nothing otherwise. -/
structure Reads {α : Type} (result : Option (α × List Char)) (rest : List Char) (legible : Prop)
    (echo : α → Prop) : Prop where
  read : legible → ∃ a, result = some (a, rest) ∧ echo a
  refused : ¬legible → result = none

variable {α β : Type} {closing : Char} {write : β → List Char}
  {answer : Nat → β → List Char → Option (α × List Char)}
  {loop : Nat → List α → List Char → Option (List α × List Char)}

/-- A loop over elements with commas between them. `answer` is what it makes of one element, given
the rest of the text. -/
structure Loops (closing : Char) (write : β → List Char)
    (answer : Nat → β → List Char → Option (α × List Char))
    (loop : Nat → List α → List Char → Option (List α × List Char)) : Prop where
  refused {fuel : Nat} {read : List α} {b : β} {rest : List Char}
    (failed : answer fuel b rest = none) :
    loop (fuel + 1) read (write b ++ rest) = none
  comma {fuel : Nat} {read : List α} {a : α} {b : β} {rest : List Char}
    (answered : answer fuel b (',' :: rest) = some (a, ',' :: rest)) :
    loop (fuel + 1) read (write b ++ ',' :: rest) = loop fuel (a :: read) rest
  closed {fuel : Nat} {read : List α} {a : α} {b : β} {rest : List Char}
    (answered : answer fuel b (closing :: rest) = some (a, closing :: rest)) :
    loop (fuel + 1) read (write b ++ closing :: rest) = some ((a :: read).reverse, rest)

theorem Loops.reads (loops : Loops closing write answer loop)
    (mark : closing ∈ [',', ']', '\x7d']) {ok : β → Prop} {echo : β → α → Prop} {b : β}
    {bs : List β}
    (each : ∀ c ∈ b :: bs, ∀ fuel rest, 2 * (write c).length ≤ fuel → Followed rest →
      Reads (answer fuel c rest) rest (ok c) (echo c))
    (fuel : Nat) (read : List α) (rest : List Char)
    (enough : 2 * (commaSeparated ((b :: bs).map write)).length < fuel) :
    Reads (loop fuel read (commaSeparated ((b :: bs).map write) ++ closing :: rest)) rest
      (∀ c ∈ b :: bs, ok c) fun as => ∃ more, as = read.reverse ++ more
        ∧ List.Forall₂ echo (b :: bs) more := by
  induction bs generalizing b fuel read with
  | nil =>
    obtain ⟨own, _⟩ := List.forall_mem_cons.mp each
    rw [List.map_singleton, commaSeparated, List.intercalate_singleton] at enough ⊢
    obtain ⟨fuel, rfl⟩ : ∃ less, fuel = less + 1 := Nat.exists_eq_succ_of_ne_zero (by omega)
    obtain ⟨legible, illegible⟩ := own fuel (closing :: rest) (by omega)
      (followed_cons mark rest)
    rw [List.forall_mem_singleton]
    constructor
    · intro ok
      obtain ⟨a, answered, echoed⟩ := legible ok
      refine ⟨_, loops.closed answered, [a], List.reverse_cons, .cons echoed .nil⟩
    · intro fault
      exact loops.refused (illegible fault)
  | cons next bs ih =>
    obtain ⟨own, others⟩ := List.forall_mem_cons.mp each
    have split : commaSeparated ((b :: next :: bs).map write)
        = write b ++ ',' :: commaSeparated ((next :: bs).map write) := by
      simp only [List.map_cons, commaSeparated, List.intercalate_cons_cons, List.append_assoc,
        List.singleton_append]
    rw [split] at enough ⊢
    rw [List.length_append, List.length_cons] at enough
    obtain ⟨fuel, rfl⟩ : ∃ less, fuel = less + 1 := Nat.exists_eq_succ_of_ne_zero (by omega)
    obtain ⟨legible, illegible⟩ := own fuel _ (by omega) (followed_cons List.mem_cons_self
      (commaSeparated ((next :: bs).map write) ++ closing :: rest))
    rw [List.append_assoc, List.cons_append, List.forall_mem_cons]
    by_cases ok : ok b
    · obtain ⟨a, answered, echoed⟩ := legible ok
      obtain ⟨read', refused⟩ := ih others fuel (a :: read) (by omega)
      rw [loops.comma answered]
      constructor
      · intro ok
        obtain ⟨as, result, more, rfl, all⟩ := read' ok.2
        refine ⟨_, result, a :: more, ?_, .cons echoed all⟩
        rw [List.reverse_cons, List.append_assoc, List.singleton_append]
      · intro fault
        exact refused fun all => fault ⟨ok, all⟩
    · constructor
      · intro all
        exact absurd all.1 ok
      · intro _
        exact loops.refused (illegible ok)

end Sequences

section Values

theorem skipSpace_cons {c : Char} (other : isSpace c = false) (cs : List Char) :
    skipSpace (c :: cs) = c :: cs := by
  rw [skipSpace, List.dropWhile_cons_of_neg (by simp [other])]

theorem readValue_string (fuel depth : Nat) (cs : List Char) :
    readValue (fuel + 1) depth ('"' :: cs)
      = (readString fuel [] cs).map fun r => (.str r.1, r.2) := by
  rw [readValue, skipSpace_cons (by decide)]
  rfl

theorem isSpace_of_numeric {c : Char} (numeric : isNumeric c) : isSpace c = false := by
  by_contra space
  simp only [isSpace, Bool.or_eq_true, decide_eq_true_eq, Bool.not_eq_false] at space
  rcases space with ((rfl | rfl) | rfl) | rfl <;> contradiction

theorem readValue_number {c : Char} (numeric : isNumeric c) (fuel depth : Nat) (cs : List Char) :
    readValue (fuel + 1) depth (c :: cs) = readNumber (c :: cs) := by
  rw [readValue, skipSpace_cons (isSpace_of_numeric numeric)]
  split
  all_goals
    rename_i same
    try
      obtain ⟨rfl, _⟩ := List.cons.inj same
      contradiction
  rfl

theorem readValue_array (fuel depth : Nat) {c : Char} (other : c ≠ ']') (space : isSpace c = false)
    (cs : List Char) : readValue (fuel + 1) (depth + 1) ('[' :: c :: cs)
      = (readItems fuel depth [] (c :: cs)).map fun r => (.arr r.1, r.2) := by
  have opened : skipSpace ('[' :: c :: cs) = '[' :: c :: cs := skipSpace_cons (by decide) _
  simp only [readValue, opened, skipSpace_cons space]
  split
  · rename_i same
    exact absurd (List.cons.inj same).1 other
  · rfl

theorem readValue_object (fuel depth : Nat) {c : Char} (other : c ≠ '\x7d')
    (space : isSpace c = false) (cs : List Char) :
    readValue (fuel + 1) (depth + 1) ('\x7b' :: c :: cs)
      = (readMembers fuel depth [] (c :: cs)).map fun r => (.obj r.1, r.2) := by
  have opened : skipSpace ('\x7b' :: c :: cs) = '\x7b' :: c :: cs := skipSpace_cons (by decide) _
  simp only [readValue, opened, skipSpace_cons space]
  split
  · rename_i same
    exact absurd (List.cons.inj same).1 other
  · rfl

theorem readValue_too_deep (fuel : Nat) {c : Char} (opening : c = '[' ∨ c = '\x7b')
    (cs : List Char) : readValue fuel 0 (c :: cs) = none := by
  cases fuel with
  | zero => rw [readValue]
  | succ fuel =>
    rcases opening with rfl | rfl
    all_goals
      rw [readValue, skipSpace_cons (by decide)]
      rfl

def readMember (fuel depth : Nat) (cs : List Char) : Option ((String × Json) × List Char) := do
  let (name, rest) ← readString fuel [] cs
  let ':' :: rest := skipSpace rest | none
  let (j, rest) ← readValue fuel depth rest
  return ((name, j), rest)

theorem readMembers_succ (fuel depth : Nat) (read : List (String × Json)) (cs : List Char) :
    readMembers (fuel + 1) depth read ('"' :: cs) = (do
      let (m, rest) ← readMember fuel depth cs
      match skipSpace rest with
      | ',' :: rest => readMembers fuel depth (m :: read) rest
      | '\x7d' :: rest => some ((m :: read).reverse, rest)
      | _ => none) := by
  have opened : skipSpace ('"' :: cs) = '"' :: cs := skipSpace_cons (by decide) cs
  simp only [readMembers, readMember, opened]
  cases readString fuel [] cs with
  | none => rfl
  | some r =>
    simp only [Option.bind_eq_bind, Option.bind_some]
    cases skipSpace r.2 with
    | nil => rfl
    | cons c rest =>
      by_cases colon : c = ':'
      · rw [colon]
        change (readValue fuel depth rest).bind _ = ((readValue fuel depth rest).bind _).bind _
        rw [Option.bind_assoc]
        rfl
      · simp [colon]

def memberTail (m : String × Json) : List Char :=
  normalize (m.1.toList.flatMap escape) ++ '"' :: ':' :: composedChars m.2

theorem composedMember_eq (m : String × Json) : composedMember m = '"' :: memberTail m := by
  simp [composedMember, composedQuoted, memberTail]

theorem loops_items (depth : Nat) : Loops ']' composedChars
    (fun fuel j rest => readValue fuel depth (composedChars j ++ rest))
    (fun fuel read cs => readItems fuel depth read cs) where
  refused failed := by
    rw [readItems, failed]
    rfl
  comma answered := by
    rw [readItems, answered]
    simp [skipSpace_cons (by decide : isSpace ',' = false)]
  closed answered := by
    rw [readItems, answered]
    simp [skipSpace_cons (by decide : isSpace ']' = false)]

theorem loops_members (depth : Nat) : Loops '\x7d' composedMember
    (fun fuel m rest => readMember fuel depth (memberTail m ++ rest))
    (fun fuel read cs => readMembers fuel depth read cs) where
  refused failed := by
    rw [composedMember_eq, List.cons_append, readMembers_succ, failed]
    rfl
  comma answered := by
    rw [composedMember_eq, List.cons_append, readMembers_succ, answered]
    simp [skipSpace_cons (by decide : isSpace ',' = false)]
  closed answered := by
    rw [composedMember_eq, List.cons_append, readMembers_succ, answered]
    simp [skipSpace_cons (by decide : isSpace '\x7d' = false)]

/-- What is read of a value: strings and names are composed, members stand in the order of the text,
and a number is what its text is read as. -/
inductive Echo : Json → Json → Prop where
  | null : Echo .null .null
  | bool (b : Bool) : Echo (.bool b) (.bool b)
  | number {v w : Json} {text : List Char} (written : v.numberText? = some text)
      (read : readNumber text = some (w, [])) : Echo v w
  | str (s : String) : Echo (.str s) (.str (composed s))
  | arr {items items' : List Json} (each : List.Forall₂ Echo items items') :
      Echo (.arr items) (.arr items')
  | obj {members members' : List (String × Json)}
      (names : members'.map Prod.fst = (inWrittenOrder members).map fun m => composed m.1)
      (values : List.Forall₂ Echo ((inWrittenOrder members).map Prod.snd)
        (members'.map Prod.snd)) : Echo (.obj members) (.obj members')

theorem Reads.of_read {α : Type} {result : Option (α × List Char)} {rest : List Char}
    {legible : Prop} {echo : α → Prop} {a : α} (known : result = some (a, rest)) (echoed : echo a)
    (ok : legible) : Reads result rest legible echo where
  read _ := ⟨a, known, echoed⟩
  refused fault := absurd ok fault

theorem Reads.map {α β : Type} {result : Option (α × List Char)} {rest : List Char}
    {legible : Prop} {echo : α → Prop} {echo' : β → Prop} (reads : Reads result rest legible echo)
    {f : α → β} (same : ∀ a, echo a → echo' (f a)) :
    Reads (result.map fun r => (f r.1, r.2)) rest legible echo' where
  read legible := by
    obtain ⟨a, read, echoed⟩ := reads.read legible
    exact ⟨f a, by rw [read, Option.map_some], same a echoed⟩
  refused illegible := by
    rw [reads.refused illegible, Option.map_none]

theorem Reads.congr {α : Type} {result : Option (α × List Char)} {rest : List Char}
    {legible legible' : Prop} {echo : α → Prop} (reads : Reads result rest legible echo)
    (same : legible ↔ legible') : Reads result rest legible' echo :=
  (propext same : legible = legible') ▸ reads

theorem reads_string (s : String) (fuel : Nat) (rest : List Char)
    (enough : (normalize (s.toList.flatMap escape)).length < fuel) :
    Reads (readString fuel [] (normalize (s.toList.flatMap escape) ++ '"' :: rest)) rest
      (KeepsEscapes s.toList) (· = composed s) where
  read kept := ⟨_, readString_composed kept enough rest, rfl⟩
  refused lost := by
    by_contra some
    obtain ⟨r, success⟩ := Option.ne_none_iff_exists'.mp some
    exact lost (keepsEscapes_of_readString success)

def ReadsValue (depth : Nat) (j : Json) : Prop :=
  ∀ fuel rest, 2 * (composedChars j).length ≤ fuel → Followed rest →
    Reads (readValue fuel depth (composedChars j ++ rest)) rest (Legible depth j) (Echo j)

theorem reads_member {depth : Nat} {m : String × Json} (value : ReadsValue depth m.2) (fuel : Nat)
    (rest : List Char) (enough : 2 * (composedMember m).length ≤ fuel) (followed : Followed rest) :
    Reads (readMember fuel depth (memberTail m ++ rest)) rest
      (KeepsEscapes m.1.toList ∧ Legible depth m.2)
      fun m' => m'.1 = composed m.1 ∧ Echo m.2 m'.2 := by
  have tail : memberTail m ++ rest = normalize (m.1.toList.flatMap escape)
      ++ '"' :: (':' :: (composedChars m.2 ++ rest)) := by
    simp [memberTail]
  rw [composedMember_eq, memberTail] at enough
  simp only [List.length_cons, List.length_append] at enough
  have name := reads_string m.1 fuel (':' :: (composedChars m.2 ++ rest)) (by omega)
  have colon : skipSpace (':' :: (composedChars m.2 ++ rest))
      = ':' :: (composedChars m.2 ++ rest) := skipSpace_cons (by decide) _
  have value := value fuel rest (by omega) followed
  rw [readMember, tail]
  by_cases kept : KeepsEscapes m.1.toList
  · obtain ⟨_, read, rfl⟩ := name.read kept
    simp only [read, colon, Option.bind_eq_bind, Option.bind_some]
    constructor
    · intro legible
      obtain ⟨w, result, echoed⟩ := value.read legible.2
      exact ⟨_, by rw [result]; rfl, rfl, echoed⟩
    · intro fault
      rw [value.refused fun legible => fault ⟨kept, legible⟩]
      rfl
  · rw [name.refused kept]
    exact ⟨fun legible => absurd legible.1 kept, fun _ => rfl⟩

theorem names_of_echoes {members members' : List (String × Json)}
    (all : List.Forall₂ (fun m m' : String × Json => m'.1 = composed m.1 ∧ Echo m.2 m'.2) members
      members') : members'.map Prod.fst = members.map fun m => composed m.1 := by
  induction all with
  | nil => rfl
  | cons first _ ih => rw [List.map_cons, List.map_cons, ih, first.1]

theorem legible_plain {j : Json} (noText : j.texts = []) (flat : j.levels = 0) (depth : Nat) :
    Legible depth j := by
  constructor
  · rw [flat]
    exact Nat.zero_le depth
  · rw [noText]
    exact List.forall_mem_nil _

theorem opens_composedChars (j : Json) :
    ∃ c cs, composedChars j = c :: cs ∧ isSpace c = false ∧ c ≠ ']' := by
  have number {j : Json} {text : List Char} (known : j.numberText? = some text) :
      ∃ c cs, composedChars j = c :: cs ∧ isSpace c = false ∧ c ≠ ']' := by
    obtain ⟨numeric, nonempty⟩ := number_written known
    obtain ⟨c, cs, rfl⟩ := List.exists_cons_of_ne_nil nonempty
    have first := numeric c List.mem_cons_self
    refine ⟨c, cs, composedChars_number known, isSpace_of_numeric first, ?_⟩
    intro same
    rw [same] at first
    contradiction
  cases j with
  | null => exact ⟨_, _, composedChars_null, by decide, by decide⟩
  | bool b => cases b <;> exact ⟨_, _, composedChars_bool _, by decide, by decide⟩
  | int _ | float _ => exact number rfl
  | str s => exact ⟨_, _, composedChars_str s, by decide, by decide⟩
  | arr items => exact ⟨_, _, composedChars_arr items, by decide, by decide⟩
  | obj members => exact ⟨_, _, composedChars_obj members, by decide, by decide⟩

theorem ReadsValue.of_succ {depth : Nat} {j : Json}
    (each : ∀ fuel rest, 2 * (composedChars j).length ≤ fuel + 1 → Followed rest →
      Reads (readValue (fuel + 1) depth (composedChars j ++ rest)) rest (Legible depth j)
        (Echo j)) :
    ReadsValue depth j := by
  intro fuel rest enough followed
  cases fuel with
  | zero =>
    obtain ⟨c, cs, opened, _⟩ := opens_composedChars j
    rw [opened, List.length_cons] at enough
    omega
  | succ fuel => exact each fuel rest enough followed

theorem reads_number {j : Json} {text : List Char} (number : j.numberText? = some text)
    (fits : ∀ n, j = .int n → fitsWord n) (legible : ∀ depth, Legible depth j) (depth : Nat) :
    ReadsValue depth j := by
  refine .of_succ fun fuel rest _ followed => ?_
  obtain ⟨numeric, nonempty⟩ := number_written number
  obtain ⟨v, read⟩ := readNumber_numberText number fits
  rw [composedChars_number number]
  obtain ⟨c, cs, rfl⟩ := List.exists_cons_of_ne_nil nonempty
  have alone := read [] (by intro c there; contradiction)
  rw [List.append_nil] at alone
  have behind := read rest followed
  rw [List.cons_append] at behind ⊢
  rw [readValue_number (numeric c List.mem_cons_self)]
  exact .of_read behind (.number number alone) (legible depth)

theorem reads_null (depth : Nat) : ReadsValue depth .null := by
  refine .of_succ fun fuel rest _ _ => .of_read ?_ .null (legible_plain rfl rfl depth)
  rw [composedChars_null, List.cons_append, readValue, skipSpace_cons (by decide)]
  rfl

theorem reads_bool (b : Bool) (depth : Nat) : ReadsValue depth (.bool b) := by
  refine .of_succ fun fuel rest _ _ => .of_read ?_ (.bool b) (legible_plain rfl rfl depth)
  rw [composedChars_bool]
  cases b with
  | true =>
    rw [if_pos rfl, List.cons_append, readValue, skipSpace_cons (by decide)]
    rfl
  | false =>
    rw [if_neg Bool.false_ne_true, List.cons_append, readValue, skipSpace_cons (by decide)]
    rfl

theorem reads_str (s : String) (depth : Nat) : ReadsValue depth (.str s) := by
  refine .of_succ fun fuel rest enough _ => ?_
  rw [composedChars_str, composedQuoted] at enough ⊢
  simp only [List.length_cons, List.length_append] at enough
  have text := reads_string s fuel rest (by omega)
  rw [List.cons_append, List.append_assoc, List.singleton_append, readValue_string]
  refine (text.map ?_).congr legible_str_iff.symm
  intro t same
  rw [same]
  exact .str s

theorem not_legible_zero {j : Json} (nested : 0 < j.levels) : ¬Legible 0 j :=
  fun legible => absurd legible.levels (Nat.not_le.mpr nested)

theorem reads_too_deep {j : Json} {c : Char} {cs : List Char} (written : composedChars j = c :: cs)
    (opening : c = '[' ∨ c = '\x7b') (nested : 0 < j.levels) : ReadsValue 0 j := by
  intro fuel rest _ _
  rw [written, List.cons_append, readValue_too_deep fuel opening]
  exact ⟨fun legible => absurd legible (not_legible_zero nested), fun _ => rfl⟩

theorem reads_arr {items : List Json} (each : ∀ j ∈ items, ∀ depth, ReadsValue depth j)
    (depth : Nat) : ReadsValue depth (.arr items) := by
  cases depth with
  | zero => exact reads_too_deep (composedChars_arr items) (.inl rfl) (Nat.succ_pos _)
  | succ depth =>
    refine .of_succ fun fuel rest enough _ => ?_
    rw [composedChars_arr] at enough ⊢
    simp only [List.length_cons, List.length_append] at enough
    rw [List.cons_append, List.append_assoc, List.singleton_append]
    refine Reads.congr ?_ legible_arr_iff.symm
    cases items with
    | nil =>
      refine .of_read ?_ (.arr .nil) (List.forall_mem_nil _)
      rw [readValue, skipSpace_cons (by decide)]
      rfl
    | cons first items =>
      obtain ⟨c, cs, opened, space, other⟩ := opens_composedChars first
      have loop := (loops_items depth).reads (by decide) (fun j there => each j there depth) fuel []
        rest (by omega)
      rw [List.map_cons, commaSeparated_cons, opened, List.cons_append, List.cons_append] at loop ⊢
      rw [readValue_array fuel depth other space]
      refine loop.map ?_
      intro js echoed
      obtain ⟨more, rfl, all⟩ := echoed
      exact .arr all

theorem reads_obj {members : List (String × Json)}
    (each : ∀ m ∈ members, ∀ depth, ReadsValue depth m.2) (depth : Nat) :
    ReadsValue depth (.obj members) := by
  cases depth with
  | zero => exact reads_too_deep (composedChars_obj members) (.inr rfl) (Nat.succ_pos _)
  | succ depth =>
    refine .of_succ fun fuel rest enough _ => ?_
    rw [composedChars_obj] at enough ⊢
    simp only [List.length_cons, List.length_append] at enough
    rw [List.cons_append, List.append_assoc, List.singleton_append]
    have legible : Legible (depth + 1) (.obj members)
        ↔ ∀ m ∈ inWrittenOrder members, KeepsEscapes m.1.toList ∧ Legible depth m.2 := by
      simp only [legible_obj_iff, inWrittenOrder, List.mem_mergeSort]
    refine Reads.congr ?_ legible.symm
    have each : ∀ m ∈ inWrittenOrder members, ReadsValue depth m.2 :=
      fun m there => each m (List.mem_mergeSort.mp there) depth
    have echo {members' : List (String × Json)} (all : List.Forall₂ (fun m m' : String × Json =>
        m'.1 = composed m.1 ∧ Echo m.2 m'.2) (inWrittenOrder members) members') :
        Echo (.obj members) (.obj members') := by
      refine .obj (names_of_echoes all) ?_
      rw [List.forall₂_map_left_iff, List.forall₂_map_right_iff]
      exact all.imp fun _ _ both => both.2
    cases ordered : inWrittenOrder members with
    | nil =>
      rw [ordered] at echo
      refine .of_read ?_ (echo .nil) (List.forall_mem_nil _)
      rw [readValue, skipSpace_cons (by decide)]
      rfl
    | cons first others =>
      rw [ordered] at enough each echo
      have loop := (loops_members depth).reads (by decide)
        (fun m there fuel rest => reads_member (each m there) fuel rest) fuel [] rest (by omega)
      rw [List.map_cons, commaSeparated_cons, composedMember_eq, List.cons_append,
        List.cons_append] at loop ⊢
      rw [readValue_object fuel depth (by decide) (by decide)]
      refine loop.map ?_
      intro ms echoed
      obtain ⟨more, rfl, all⟩ := echoed
      exact echo all

theorem readsValue (j : Json) (fits : ∀ n ∈ j.integers, fitsWord n) (depth : Nat) :
    ReadsValue depth j := by
  induction j using induct generalizing depth with
  | scalar j noArray noObject =>
    cases j with
    | arr items => contradiction
    | obj members => contradiction
    | null => exact reads_null depth
    | bool b => exact reads_bool b depth
    | str s => exact reads_str s depth
    | int n =>
      have fit := fits n List.mem_cons_self
      refine reads_number rfl ?_ (legible_plain rfl rfl) depth
      intro m same
      rwa [← Json.int.inj same]
    | float x =>
      refine reads_number rfl ?_ (legible_plain rfl rfl) depth
      intro m same
      contradiction
  | arr items ih =>
    refine reads_arr ?_ depth
    intro j there
    refine ih j there fun n own => fits n ?_
    rw [integers_arr]
    exact List.mem_flatMap_of_mem there own
  | obj members ih =>
    refine reads_obj ?_ depth
    intro m there
    refine ih m there fun n own => fits n ?_
    rw [integers_obj]
    exact List.mem_flatMap_of_mem there own

end Values

section Reader

def parseWithin? (limit : Nat) (text : String) : Option Json := do
  let cs := text.toList
  let (j, rest) ← readValue (2 * cs.length + 2) limit cs
  if (skipSpace rest).isEmpty then return j else none

theorem parse?_eq : parse? = parseWithin? depthLimit := rfl

theorem parseWithin?_composed {j : Json} (fits : ∀ n ∈ j.integers, fitsWord n) (limit : Nat) :
    (Legible limit j →
        ∃ w, parseWithin? limit (String.ofList (composedChars j)) = some w ∧ Echo j w)
      ∧ (¬Legible limit j → parseWithin? limit (String.ofList (composedChars j)) = none) := by
  have reads := readsValue j fits limit (2 * (composedChars j).length + 2) [] (by omega)
    (by intro c there; contradiction)
  rw [List.append_nil] at reads
  simp only [parseWithin?, String.toList_ofList]
  constructor
  · intro legible
    obtain ⟨w, read, echoed⟩ := reads.read legible
    exact ⟨w, by rw [read]; rfl, echoed⟩
  · intro illegible
    rw [reads.refused illegible]
    rfl

end Reader

end Json

namespace Statement

/-- What a reader that may open `limit` levels needs of a statement: the value leaves one level for
the object around it, and all escapes come through composition. -/
structure ReadableWithin (limit : Nat) (s : Statement) : Prop where
  levels : s.value.levels < limit
  escapes : ∀ t ∈ s.key :: s.value.texts, Json.KeepsEscapes t.toList

theorem readableWithin_iff (limit : Nat) (s : Statement) :
    s.ReadableWithin limit ↔ Json.Legible limit (.obj [(s.key, s.value)]) := by
  have deep : (Json.obj [(s.key, s.value)]).levels = s.value.levels + 1 := by
    simp [Json.levels, Json.levelsOfMembers]
  have texts : (Json.obj [(s.key, s.value)]).texts = s.key :: s.value.texts := by
    simp [Json.texts_obj]
  constructor
  · intro readable
    constructor
    · rw [deep]
      exact readable.levels
    · rw [texts]
      exact readable.escapes
  · intro legible
    obtain ⟨few, kept⟩ := legible
    rw [deep] at few
    rw [texts] at kept
    exact ⟨few, kept⟩

/-- The text of a statement is read as one object with one member, whose name is the composed key,
if the statement is readable, and not at all otherwise. -/
theorem text_read_back (s : Statement) (fits : ∀ n ∈ s.value.integers, Json.fitsWord n)
    (limit : Nat) :
    (s.ReadableWithin limit → ∃ v, Json.parseWithin? limit s.text
        = some (.obj [(Json.composed s.key, v)]) ∧ s.value.Echo v)
      ∧ (¬s.ReadableWithin limit → Json.parseWithin? limit s.text = none) := by
  have single : Json.inWrittenOrder [(s.key, s.value)] = [(s.key, s.value)] :=
    List.mergeSort_singleton _
  have whole : ∀ n ∈ (Json.obj [(s.key, s.value)]).integers, Json.fitsWord n := by
    rw [Json.integers_obj, List.flatMap_singleton]
    exact fits
  obtain ⟨read, refused⟩ := Json.parseWithin?_composed whole limit
  rw [readableWithin_iff]
  refine ⟨fun legible => ?_, refused⟩
  obtain ⟨w, parsed, echoed⟩ := read legible
  cases echoed with
  | number written _ => contradiction
  | obj names values =>
    rw [single] at names values
    obtain ⟨m, rfl, name⟩ := List.map_eq_singleton_iff.mp names
    replace name : m.1 = Json.composed s.key := name
    rw [← name]
    exact ⟨m.2, parsed, (List.forall₂_cons.mp values).1⟩

def accented : Statement :=
  ⟨"e\u0301\n", .obj [("b\t", .arr [.int 5, .null]), ("a", .str "o\u0308")]⟩

theorem accented_read_back : ∃ v, Json.parse? accented.text = some (.obj [("é\n", v)]) := by
  have readable : accented.ReadableWithin Json.depthLimit := ⟨by decide, by decide +kernel⟩
  have name : Json.composed accented.key = "é\n" := by
    rw [Json.composed, normalize_eq]
    decide +kernel
  obtain ⟨v, read, _⟩ := (text_read_back accented (by decide) Json.depthLimit).1 readable
  rw [name, ← Json.parse?_eq] at read
  exact ⟨v, read⟩

theorem tilde_breaks_escape : ¬∀ s : Statement, ∃ limit v,
    Json.parseWithin? limit s.text = some (.obj [(Json.composed s.key, v)]) := by
  intro all
  obtain ⟨limit, v, read⟩ := all ⟨"\n\u0303", .bool true⟩
  have lost : ¬Json.KeepsEscapes "\n\u0303".toList := by decide +kernel
  have fits : ∀ n ∈ (Json.obj [("\n\u0303", .bool true)]).integers, Json.fitsWord n := by decide
  have none := (Json.parseWithin?_composed fits limit).2 fun legible =>
    lost (legible.texts _ List.mem_cons_self)
  exact absurd (none.symm.trans read) nofun

end Statement

end SelectiveDisclosure
