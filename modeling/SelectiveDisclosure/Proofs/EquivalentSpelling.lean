import Mathlib.Data.List.Sort
import SelectiveDisclosure.Proofs.ComposedValues
import SelectiveDisclosure.Proofs.SchemaMeaning

/-!
Values that become equal when their strings and names are composed. The members of an object are put
in order before the text is composed, by their names as they were given. Two such values therefore
have one text exactly when their members come in one order by these names.
-/

namespace SelectiveDisclosure

open Text

namespace Json

section Spelling

mutual

def spelled : Json → Json
  | .str s => .str (composed s)
  | .arr items => .arr (spelledItems items)
  | .obj members => .obj (spelledMembers members)
  | j => j

def spelledItems : List Json → List Json
  | [] => []
  | j :: rest => spelled j :: spelledItems rest

def spelledMembers : List (String × Json) → List (String × Json)
  | [] => []
  | (k, j) :: rest => (composed k, spelled j) :: spelledMembers rest

end

mutual

def ordered : Json → Json
  | .arr items => .arr (orderedItems items)
  | .obj members => .obj (inWrittenOrder (orderedMembers members))
  | j => j

def orderedItems : List Json → List Json
  | [] => []
  | j :: rest => ordered j :: orderedItems rest

def orderedMembers : List (String × Json) → List (String × Json)
  | [] => []
  | (k, j) :: rest => (k, ordered j) :: orderedMembers rest

end

def names : Json → List String
  | .obj members => members.map Prod.fst
  | _ => []

/-- No two members of one object are spelled the same. -/
def DistinctNames (j : Json) : Prop := ∀ p ∈ j.spelled.parts, p.names.Nodup

instance (j : Json) : Decidable j.DistinctNames := inferInstanceAs (Decidable (∀ p ∈ _, _))

theorem spelledItems_eq (items : List Json) : spelledItems items = items.map spelled := by
  induction items with
  | nil => rw [spelledItems, List.map_nil]
  | cons j items ih => rw [spelledItems, ih, List.map_cons]

theorem spelledMembers_eq (members : List (String × Json)) :
    spelledMembers members = members.map fun m => (composed m.1, spelled m.2) := by
  induction members with
  | nil => rw [spelledMembers, List.map_nil]
  | cons m members ih => rw [spelledMembers, ih, List.map_cons]

theorem orderedItems_eq (items : List Json) : orderedItems items = items.map ordered := by
  induction items with
  | nil => rw [orderedItems, List.map_nil]
  | cons j items ih => rw [orderedItems, ih, List.map_cons]

theorem orderedMembers_eq (members : List (String × Json)) :
    orderedMembers members = members.map fun m => (m.1, ordered m.2) := by
  induction members with
  | nil => rw [orderedMembers, List.map_nil]
  | cons m members ih => rw [orderedMembers, ih, List.map_cons]

theorem inWrittenOrder_map (f : Json → Json) (members : List (String × Json)) :
    inWrittenOrder (members.map fun m => (m.1, f m.2))
      = (inWrittenOrder members).map fun m => (m.1, f m.2) := by
  have moved : (inWrittenOrder members).map (fun m => (m.1, f m.2))
      = inWrittenOrder (members.map fun m => (m.1, f m.2)) := List.map_mergeSort fun _ _ _ _ => rfl
  exact moved.symm

theorem inWrittenOrder_pair (a b : String × Json) :
    inWrittenOrder [a, b] = if quoted b.1 < quoted a.1 then [b, a] else [a, b] := by
  simp only [inWrittenOrder, List.mergeSort, List.MergeSort.Internal.splitInTwo]
  by_cases before : quoted b.1 < quoted a.1
  · simp [before]
  · simp [before]

theorem ordered_spelled_arr (items : List Json) :
    (Json.arr items).ordered.spelled = .arr (items.map fun j => j.ordered.spelled) := by
  rw [ordered, orderedItems_eq, spelled, spelledItems_eq, List.map_map]
  rfl

theorem ordered_spelled_obj (members : List (String × Json)) : (Json.obj members).ordered.spelled
    = .obj ((inWrittenOrder members).map fun m => (composed m.1, m.2.ordered.spelled)) := by
  rw [ordered, orderedMembers_eq, inWrittenOrder_map, spelled, spelledMembers_eq, List.map_map]
  rfl

theorem spelled_sorted_arr (items : List Json) :
    (Json.arr items).spelled.sorted = .arr (items.map fun j => j.spelled.sorted) := by
  rw [spelled, spelledItems_eq, sorted, sortedItems_eq_map, List.map_map]
  rfl

theorem spelled_sorted_obj (members : List (String × Json)) : (Json.obj members).spelled.sorted
    = .obj (OrderedMap.ofList
      (members.map fun m => (composed m.1, m.2.spelled.sorted))).entries := by
  rw [spelled, spelledMembers_eq, sorted, sortedMembers_eq_map, List.map_map]
  rfl

theorem DistinctNames.item {items : List Json} (distinct : (Json.arr items).DistinctNames) :
    ∀ j ∈ items, j.DistinctNames := by
  intro j there p within
  refine distinct p ?_
  rw [spelled, spelledItems_eq, parts, partsOfItems_eq, List.flatMap_map]
  exact List.mem_cons_of_mem _ (List.mem_flatMap_of_mem there within)

theorem DistinctNames.member {members : List (String × Json)}
    (distinct : (Json.obj members).DistinctNames) : ∀ m ∈ members, m.2.DistinctNames := by
  intro m there p within
  refine distinct p ?_
  rw [spelled, spelledMembers_eq, parts, partsOfMembers_eq, List.flatMap_map]
  exact List.mem_cons_of_mem _ (List.mem_flatMap_of_mem there within)

theorem DistinctNames.own {members : List (String × Json)}
    (distinct : (Json.obj members).DistinctNames) : (members.map fun m => composed m.1).Nodup := by
  have own := distinct (Json.obj members).spelled (by
    rw [spelled, parts]
    exact List.mem_cons_self)
  rwa [spelled, spelledMembers_eq, names, List.map_map] at own

end Spelling

section Pairs

variable {α β γ : Type} {related : α → β → Prop} {as : List α} {bs : List β}

theorem related_of_map_eq {f : α → γ} {g : β → γ} (same : as.map f = bs.map g) :
    List.Forall₂ (fun a b => f a = g b) as bs := by
  rwa [← List.forall₂_eq_eq_eq, List.forall₂_map_left_iff, List.forall₂_map_right_iff] at same

theorem related_within (all : List.Forall₂ related as bs) :
    List.Forall₂ (fun a b => a ∈ as ∧ related a b) as bs :=
  (List.forall₂_and_left as bs).mpr ⟨fun _ there => there, all⟩

theorem eq_of_same_names {es es' : List (α × β)} (names : es.map Prod.fst = es'.map Prod.fst)
    (distinct : (es.map Prod.fst).Nodup) (there : ∀ e ∈ es, e ∈ es') : es = es' := by
  induction es generalizing es' with
  | nil => exact (List.map_eq_nil_iff.mp names.symm).symm
  | cons e es ih =>
    obtain ⟨e', rest, rfl, name, names⟩ := List.map_eq_cons_iff.mp names.symm
    obtain ⟨fresh, distinct⟩ := List.nodup_cons.mp distinct
    obtain ⟨first, others⟩ := List.forall_mem_cons.mp there
    have same : e = e' := by
      rcases List.mem_cons.mp first with same | later
      · exact same
      · exact absurd (names ▸ List.mem_map_of_mem later) fresh
    rw [same, ih names.symm distinct]
    intro x later
    rcases List.mem_cons.mp (others x later) with rfl | rest
    · exact absurd (same ▸ List.mem_map_of_mem later) fresh
    · exact rest

end Pairs

section Text

def SpelledAlike (s t : String) : Prop := composed s = composed t

theorem composedChars_eq_iff (v w : Json) :
    composedChars v = composedChars w ↔ Alike SpelledAlike v w := by
  have spelling : (fun s t : String => separate s.toList = separate t.toList) = SpelledAlike := by
    funext s t
    rw [SpelledAlike, composed, composed, String.ofList_inj, normalize_eq_iff]
  rw [composedChars, composedChars, normalize_eq_iff, ← spelling]
  constructor
  · intro same
    have read := writes_separated.determines v w [] [] ended_nil ended_nil
    exact (read (congrArg (· ++ []) same)).1
  · exact writes_separated.eq_of_alike

theorem kind_ordered_spelled (j : Json) : j.ordered.spelled.kind = j.kind := by
  cases j <;> rfl

theorem numberText?_ordered_spelled (j : Json) :
    j.ordered.spelled.numberText? = j.numberText? := by
  cases j <;> rfl

theorem kind_of_same {v w : Json} (same : v.ordered.spelled = w.ordered.spelled) :
    v.kind = w.kind := by
  rw [← kind_ordered_spelled, same, kind_ordered_spelled]

theorem alike_of_same_scalar {v w : Json} (noArray : v.kind ≠ .array) (noObject : v.kind ≠ .object)
    (same : v.ordered.spelled = w.ordered.spelled) : Alike SpelledAlike v w := by
  have form := w.form
  rw [← kind_of_same same] at form
  have number {text : List Char} (known : v.numberText? = some text) : Alike SpelledAlike v w := by
    refine .number known ?_
    rw [← numberText?_ordered_spelled, ← same, numberText?_ordered_spelled, known]
  cases v with
  | arr items => contradiction
  | obj members => contradiction
  | null =>
    obtain rfl : w = .null := form
    exact .null
  | bool b =>
    obtain rfl : w = .bool b := by cases b <;> exact form
    exact .bool b
  | int _ | float _ => exact number rfl
  | str s =>
    obtain ⟨t, rfl⟩ : ∃ t, w = .str t := form
    exact .str (Json.str.inj same)

/-- Values that are the same with members in order and strings composed have one text. -/
theorem alike_of_same {v w : Json} (same : v.ordered.spelled = w.ordered.spelled) :
    Alike SpelledAlike v w := by
  induction v using induct generalizing w with
  | scalar v noArray noObject => exact alike_of_same_scalar noArray noObject same
  | arr items ih =>
    have form := w.form
    rw [← kind_of_same same] at form
    obtain ⟨items', rfl⟩ : ∃ items', w = .arr items' := form
    rw [ordered_spelled_arr, ordered_spelled_arr, arr.injEq] at same
    refine .arr ((related_within (related_of_map_eq same)).imp ?_)
    intro j _ both
    exact ih j both.1 both.2
  | obj members ih =>
    have form := w.form
    rw [← kind_of_same same] at form
    obtain ⟨members', rfl⟩ : ∃ members', w = .obj members' := form
    rw [ordered_spelled_obj, ordered_spelled_obj, obj.injEq] at same
    have members := related_within (related_of_map_eq same)
    refine .obj ?_ ?_
    all_goals
      rw [List.forall₂_map_left_iff, List.forall₂_map_right_iff]
      refine members.imp ?_
      intro m _ both
      obtain ⟨there, equal⟩ := both
      obtain ⟨name, value⟩ := Prod.mk.inj equal
    · exact name
    · exact ih m (List.mem_mergeSort.mp there) value

theorem spelled_sorted_scalar {j : Json} (noArray : j.kind ≠ .array) (noObject : j.kind ≠ .object) :
    j.spelled.sorted = j.ordered.spelled := by
  cases j with
  | arr items => contradiction
  | obj members => contradiction
  | null | bool _ | int _ | float _ | str _ => rfl

theorem Alike.kind_eq {same : String → String → Prop} {v w : Json} (alike : Alike same v w) :
    v.kind = w.kind := by
  have number {j : Json} {text : List Char} (known : j.numberText? = some text) :
      j.kind = .number := by
    cases j with
    | int _ | float _ => rfl
    | null | bool _ | str _ | arr _ | obj _ => contradiction
  cases alike with
  | number first second => rw [number first, number second]
  | null | bool _ | str _ | arr _ | obj _ _ => rfl

def settled (m : String × Json) : String × Json := (composed m.1, m.2.spelled.sorted)

theorem settled_of_equivalent {members members' : List (String × Json)}
    (distinct : (members.map fun m => composed m.1).Nodup)
    (equivalent : (Json.obj members).spelled.sorted = (Json.obj members').spelled.sorted)
    (names : List.Forall₂ SpelledAlike ((inWrittenOrder members).map Prod.fst)
      ((inWrittenOrder members').map Prod.fst)) :
    (inWrittenOrder members).map settled = (inWrittenOrder members').map settled := by
  have maps : OrderedMap.ofList (members.map settled)
      = OrderedMap.ofList (members'.map settled) := by
    rw [spelled_sorted_obj, spelled_sorted_obj, obj.injEq] at equivalent
    exact OrderedMap.ext equivalent
  have keys : ((members.map settled).map Prod.fst).Nodup := by
    rwa [List.map_map]
  have perm := (List.mergeSort_perm members fun a b => !(quoted b.1 < quoted a.1)).map settled
  apply eq_of_same_names
  · rw [List.map_map, List.map_map]
    rw [List.forall₂_map_left_iff, List.forall₂_map_right_iff] at names
    exact map_eq_of_related names fun _ _ _ same => same
  · exact (perm.map Prod.fst).nodup_iff.mpr keys
  · intro e there
    have found : (OrderedMap.ofList (members.map settled)).get? e.1 = some e.2 := by
      rw [OrderedMap.get?_ofList_of_distinct keys, OrderedMap.lookup_eq_some_iff_mem keys]
      exact perm.mem_iff.mp there
    rw [maps] at found
    obtain ⟨m, member, same⟩ := List.mem_map.mp (OrderedMap.mem_of_get?_ofList found)
    exact List.mem_map.mpr ⟨m, List.mem_mergeSort.mpr member, same⟩

theorem same_of_alike {v w : Json} (distinct : v.DistinctNames)
    (equivalent : v.spelled.sorted = w.spelled.sorted) (alike : Alike SpelledAlike v w) :
    v.ordered.spelled = w.ordered.spelled := by
  induction v using induct generalizing w with
  | scalar v noArray noObject =>
    rw [← spelled_sorted_scalar noArray noObject, equivalent]
    rw [alike.kind_eq] at noArray noObject
    exact spelled_sorted_scalar noArray noObject
  | arr items ih =>
    cases alike with
    | number first second => contradiction
    | arr each =>
      rw [spelled_sorted_arr, spelled_sorted_arr, arr.injEq] at equivalent
      rw [ordered_spelled_arr, ordered_spelled_arr, arr.injEq]
      have both := List.Forall₂.mp (fun _ _ equal alike => And.intro equal alike)
        (related_of_map_eq equivalent) each
      refine map_eq_of_related both ?_
      intro j there j' pair
      exact ih j there (distinct.item j there) pair.1 pair.2
  | obj members ih =>
    cases alike with
    | number first second => contradiction
    | obj names values =>
      have entries := related_of_map_eq (settled_of_equivalent distinct.own equivalent names)
      rw [List.forall₂_map_left_iff, List.forall₂_map_right_iff] at values
      rw [ordered_spelled_obj, ordered_spelled_obj, obj.injEq]
      have both := List.Forall₂.mp (fun _ _ equal alike => And.intro equal alike) entries values
      refine map_eq_of_related both ?_
      intro m there m' pair
      obtain ⟨name, value⟩ := Prod.mk.inj pair.1
      have member := List.mem_mergeSort.mp there
      rw [name, ih m member (distinct.member m member) value pair.2]

end Text

end Json

namespace Statement

theorem same_text_iff (key : String) (v w : Json) :
    (⟨key, v⟩ : Statement).text = (⟨key, w⟩ : Statement).text
      ↔ v.Alike Json.SpelledAlike w := by
  rw [← Json.composedChars_eq_iff, text_eq, text_eq]
  constructor
  · intro same
    have chars := String.ofList_injective same
    simpa [Json.composedMember] using chars
  · intro same
    rw [Json.composedMember, Json.composedMember, same]

/-- Two values that become equal when strings and names are composed have one text, and so one
digest, exactly when their members come in one order by the names as given. -/
theorem text_of_equivalent (key : String) {v w : Json} (distinct : v.DistinctNames)
    (equivalent : v.spelled.sorted = w.spelled.sorted) :
    ((⟨key, v⟩ : Statement).text = (⟨key, w⟩ : Statement).text
        ↔ v.ordered.spelled = w.ordered.spelled)
      ∧ (v.ordered.spelled = w.ordered.spelled →
        (⟨key, v⟩ : Statement).digest = (⟨key, w⟩ : Statement).digest) := by
  have texts : (⟨key, v⟩ : Statement).text = (⟨key, w⟩ : Statement).text
      ↔ v.ordered.spelled = w.ordered.spelled := by
    rw [same_text_iff]
    exact ⟨Json.same_of_alike distinct equivalent, Json.alike_of_same⟩
  refine ⟨texts, fun same => ?_⟩
  rw [digest, bytes, texts.mpr same, digest, bytes]

def accentApart (other : String) : Json := .obj [("e\u0301", .str "o\u0308"), (other, .int 2)]

def accentWithin (other : String) : Json := .obj [(other, .int 2), ("é", .str "ö")]

theorem accents_composed : Json.composed "e\u0301" = "é" ∧ Json.composed "é" = "é"
    ∧ Json.composed "o\u0308" = "ö" ∧ Json.composed "ö" = "ö" ∧ Json.composed "a" = "a"
    ∧ Json.composed "z" = "z" := by
  simp only [Json.composed, normalize_eq]
  decide +kernel

theorem accents_equivalent : (accentApart "a").spelled.sorted = (accentWithin "a").spelled.sorted
    ∧ (accentApart "z").spelled.sorted = (accentWithin "z").spelled.sorted := by
  simp only [accentApart, accentWithin, Json.spelled, Json.spelledMembers, accents_composed]
  exact ⟨rfl, rfl⟩

theorem accents_distinct : (accentApart "a").DistinctNames ∧ (accentApart "z").DistinctNames
    ∧ (accentWithin "z").DistinctNames := by
  simp only [accentApart, accentWithin, Json.DistinctNames, Json.spelled, Json.spelledMembers,
    accents_composed]
  decide

theorem accents_same_text : (⟨"k", accentApart "a"⟩ : Statement).text
    = (⟨"k", accentWithin "a"⟩ : Statement).text := by
  refine (text_of_equivalent "k" accents_distinct.1 accents_equivalent.1).1.mpr ?_
  rw [accentApart, accentWithin, Json.ordered_spelled_obj, Json.ordered_spelled_obj,
    Json.inWrittenOrder_pair, Json.inWrittenOrder_pair, if_pos (by decide), if_neg (by decide)]
  simp only [List.map_cons, List.map_nil, accents_composed, Json.ordered, Json.spelled]

theorem accent_moves_member : ¬∀ (key : String) (v w : Json), v.DistinctNames → w.DistinctNames →
    v.spelled.sorted = w.spelled.sorted →
      (⟨key, v⟩ : Statement).text = (⟨key, w⟩ : Statement).text := by
  intro all
  have same := all "k" _ _ accents_distinct.2.1 accents_distinct.2.2 accents_equivalent.2
  have alike := (same_text_iff _ _ _).mp same
  have ordered := Json.same_of_alike accents_distinct.2.1 accents_equivalent.2 alike
  rw [accentApart, accentWithin, Json.ordered_spelled_obj, Json.ordered_spelled_obj,
    Json.inWrittenOrder_pair, Json.inWrittenOrder_pair, if_neg (by decide), if_neg (by decide)]
    at ordered
  simp only [List.map_cons, List.map_nil, accents_composed, Json.ordered, Json.spelled] at ordered
  simp at ordered

end Statement

end SelectiveDisclosure
