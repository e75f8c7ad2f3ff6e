import SelectiveDisclosure.CType
import SelectiveDisclosure.Proofs.EquivalentSpelling
import SelectiveDisclosure.Proofs.Preimages

/-!
What the hash of a claim type says about its schema. Values without repeated names have one
canonical text exactly when they are the same, up to the order of members and the kind of numbers.
The hash is that of the text without the `$id` on the top level, and so it tells everything but this
member.
-/

namespace SelectiveDisclosure

namespace Json

section Values

def DistinctMembers (j : Json) : Prop := ∀ p ∈ j.parts, p.names.Nodup

instance (j : Json) : Decidable j.DistinctMembers := inferInstanceAs (Decidable (∀ p ∈ _, _))

/-- Two values are the same if they are built in the same way, with the same strings, and with
numbers that have one text. Objects have the same names, in whatever order, and the same value under
each. -/
inductive SameValue : Json → Json → Prop where
  | null : SameValue .null .null
  | bool (b : Bool) : SameValue (.bool b) (.bool b)
  | number {v w : Json} {text : List Char} (first : v.numberText? = some text)
      (second : w.numberText? = some text) : SameValue v w
  | str (s : String) : SameValue (.str s) (.str s)
  | arr {items items' : List Json} (each : List.Forall₂ SameValue items items') :
      SameValue (.arr items) (.arr items')
  | obj {members members' : List (String × Json)}
      (names : ∀ name, name ∈ members.map Prod.fst ↔ name ∈ members'.map Prod.fst)
      (values : ∀ name v v', (name, v) ∈ members → (name, v') ∈ members' → SameValue v v') :
      SameValue (.obj members) (.obj members')

variable {items : List Json} {members members' : List (String × Json)} {v w : Json}

theorem distinctMembers_arr_iff :
    (Json.arr items).DistinctMembers ↔ ∀ j ∈ items, j.DistinctMembers := by
  simp only [DistinctMembers, parts, partsOfItems_eq, List.forall_mem_cons, List.mem_flatMap, names,
    List.nodup_nil, true_and]
  constructor
  · intro all j there p within
    exact all p ⟨j, there, within⟩
  · rintro all p ⟨j, there, within⟩
    exact all j there p within

theorem distinctMembers_obj_iff : (Json.obj members).DistinctMembers
    ↔ (members.map Prod.fst).Nodup ∧ ∀ m ∈ members, m.2.DistinctMembers := by
  simp only [DistinctMembers, parts, partsOfMembers_eq, List.forall_mem_cons, List.mem_flatMap,
    names]
  refine and_congr_right fun _ => ⟨?_, ?_⟩
  · intro all m there p within
    exact all p ⟨m, there, within⟩
  · rintro all p ⟨m, there, within⟩
    exact all m there p within

theorem eq_of_same_name (distinct : (members.map Prod.fst).Nodup) {m m' : String × Json}
    (there : m ∈ members) (there' : m' ∈ members) (same : m.1 = m'.1) : m = m' :=
  List.inj_on_of_nodup_map distinct there there' same

theorem sorted_scalar (noArray : v.kind ≠ .array) (noObject : v.kind ≠ .object) :
    v.sorted = v := by
  cases v with
  | arr items => contradiction
  | obj members => contradiction
  | null | bool _ | int _ | float _ | str _ => rfl

theorem kind_sorted (v : Json) : v.sorted.kind = v.kind := by
  cases v <;> rfl

theorem distinctMembers_sorted (v : Json) : v.sorted.DistinctMembers := by
  induction v using induct with
  | scalar v noArray noObject =>
    rw [sorted_scalar noArray noObject]
    cases v with
    | arr items => contradiction
    | obj members => contradiction
    | null | bool _ | int _ | float _ | str _ => simp [DistinctMembers, parts, names]
  | arr items ih =>
    rw [sorted, sortedItems_eq_map, distinctMembers_arr_iff]
    intro j there
    obtain ⟨i, item, rfl⟩ := List.mem_map.mp there
    exact ih i item
  | obj members ih =>
    rw [sorted, sortedMembers_eq_map, distinctMembers_obj_iff]
    refine ⟨OrderedMap.nodup_keys _, fun m there => ?_⟩
    have found := (OrderedMap.get?_eq_some_iff _).mpr there
    obtain ⟨m', member, same⟩ := List.mem_map.mp (OrderedMap.mem_of_get?_ofList found)
    rw [← (Prod.mk.inj same).2]
    exact ih m' member

end Values

section Texts

variable {members members' : List (String × Json)} {v w : Json}

theorem quoted_injective : Function.Injective quoted := by
  intro s t same
  have chars : s.toList = t.toList := (quotedChars_cut (congrArg (· ++ []) same)).1
  exact String.toList_injective chars

theorem mergeSort_eq_of_perm {ps qs : List (List Char × List Char)} (perm : ps.Perm qs)
    (distinct : (ps.map Prod.fst).Nodup) :
    ps.mergeSort canonicalOrder = qs.mergeSort canonicalOrder := by
  have trans (a b c : List Char × List Char) (ab : canonicalOrder a b) (bc : canonicalOrder b c) :
      canonicalOrder a c := by
    simp only [canonicalOrder, Bool.not_eq_true', decide_eq_false_iff_not, List.not_lt] at ab bc ⊢
    exact List.le_trans ab bc
  have total (a b : List Char × List Char) : (canonicalOrder a b || canonicalOrder b a) = true := by
    simp only [canonicalOrder, Bool.or_eq_true, Bool.not_eq_true', decide_eq_false_iff_not,
      List.not_lt]
    exact List.le_total _ _
  have moved := (List.mergeSort_perm ps canonicalOrder).trans
    (perm.trans (List.mergeSort_perm qs canonicalOrder).symm)
  refine moved.eq_of_pairwise ?_ (List.pairwise_mergeSort trans total ps)
    (List.pairwise_mergeSort trans total qs)
  intro a b there there' ab ba
  simp only [canonicalOrder, Bool.not_eq_true', decide_eq_false_iff_not, List.not_lt] at ab ba
  exact List.inj_on_of_nodup_map distinct (List.mem_mergeSort.mp there)
    (perm.mem_iff.mpr (List.mem_mergeSort.mp there')) (List.le_antisymm ab ba)

def writtenParts (m : String × Json) : List Char × List Char := (quoted m.1, canonicalChars m.2)

theorem mem_writtenParts
    (names : ∀ name ∈ members.map Prod.fst, name ∈ members'.map Prod.fst)
    (values : ∀ name v v', (name, v) ∈ members → (name, v') ∈ members' →
      canonicalChars v = canonicalChars v') :
    ∀ e ∈ members.map writtenParts, e ∈ members'.map writtenParts := by
  intro e there
  obtain ⟨⟨name, v⟩, member, rfl⟩ := List.mem_map.mp there
  obtain ⟨⟨_, v'⟩, member', rfl⟩ := List.mem_map.mp (names name (List.mem_map_of_mem member))
  refine List.mem_map.mpr ⟨_, member', ?_⟩
  rw [writtenParts, writtenParts, values _ v v' member member']

theorem nodup_writtenParts (distinct : (members.map Prod.fst).Nodup) :
    ((members.map writtenParts).map Prod.fst).Nodup := by
  have names : (members.map writtenParts).map Prod.fst = (members.map Prod.fst).map quoted := by
    rw [List.map_map, List.map_map]
    rfl
  rw [names]
  exact distinct.map quoted_injective

theorem related_among {α β : Type} {related : α → β → Prop} {as : List α} {bs : List β}
    (all : List.Forall₂ related as bs) :
    List.Forall₂ (fun a b => (a ∈ as ∧ b ∈ bs) ∧ related a b) as bs := by
  have there := related_within (List.Forall₂.flip (related_within all))
  exact (List.Forall₂.flip there).imp fun _ _ both => ⟨⟨both.2.1, both.1⟩, both.2.2⟩

theorem canonicalChars_of_sameValue (distinct : v.DistinctMembers) (distinct' : w.DistinctMembers)
    (same : SameValue v w) : canonicalChars v = canonicalChars w := by
  induction v using induct generalizing w with
  | scalar v noArray noObject =>
    cases same with
    | null => rfl
    | bool b => rfl
    | number first second =>
      rw [writes_canonicalChars.number first, writes_canonicalChars.number second]
    | str s => rfl
    | arr each => contradiction
    | obj names values => contradiction
  | arr items ih =>
    cases same with
    | number first second => contradiction
    | @arr _ items' each =>
      rw [distinctMembers_arr_iff] at distinct distinct'
      have texts := map_eq_of_related (related_among each) fun j _ j' both =>
        ih j both.1.1 (distinct j both.1.1) (distinct' j' both.1.2) both.2
      rw [canonicalChars, canonicalChars, canonicalItems_eq, canonicalItems_eq, texts]
  | obj members ih =>
    cases same with
    | number first second => contradiction
    | @obj _ members' names values =>
      obtain ⟨own, inner⟩ := distinctMembers_obj_iff.mp distinct
      obtain ⟨own', inner'⟩ := distinctMembers_obj_iff.mp distinct'
      have texts (name : String) (v v' : Json) (there : (name, v) ∈ members)
          (there' : (name, v') ∈ members') : canonicalChars v = canonicalChars v' :=
        ih _ there (inner _ there) (inner' _ there') (values name v v' there there')
      have perm : (members.map writtenParts).Perm (members'.map writtenParts) := by
        rw [List.perm_ext_iff_of_nodup ((nodup_writtenParts own).of_map _)
          ((nodup_writtenParts own').of_map _)]
        intro e
        exact ⟨mem_writtenParts (fun name => (names name).mp) texts e,
          mem_writtenParts (fun name => (names name).mpr)
            (fun name v v' there there' => (texts name v' v there' there).symm) e⟩
      have parts (ms : List (String × Json)) : canonicalMembers ms = ms.map writtenParts :=
        canonicalMembers_eq ms
      rw [canonicalChars, canonicalChars, parts, parts,
        mergeSort_eq_of_perm perm (nodup_writtenParts own)]

theorem sameValue_of_alike (distinct : v.DistinctMembers) (distinct' : w.DistinctMembers)
    (alike : Alike (fun s t => id s.toList = id t.toList) v w) : SameValue v w := by
  induction v using induct generalizing w with
  | scalar v noArray noObject =>
    cases alike with
    | null => exact .null
    | bool b => exact .bool b
    | number first second => exact .number first second
    | @str s t spelled =>
      obtain rfl := String.toList_injective spelled
      exact .str s
    | arr each => contradiction
    | obj names values => contradiction
  | arr items ih =>
    cases alike with
    | number first second => contradiction
    | @arr _ items' each =>
      rw [distinctMembers_arr_iff] at distinct distinct'
      refine .arr ((related_among each).imp ?_)
      rintro j j' ⟨⟨there, there'⟩, alike⟩
      exact ih j there (distinct j there) (distinct' j' there') alike
  | obj members ih =>
    cases alike with
    | number first second => contradiction
    | @obj _ members' names values =>
      obtain ⟨own, inner⟩ := distinctMembers_obj_iff.mp distinct
      obtain ⟨own', inner'⟩ := distinctMembers_obj_iff.mp distinct'
      have ordered : (inWrittenOrder members).map Prod.fst
          = (inWrittenOrder members').map Prod.fst := by
        rw [← List.forall₂_eq_eq_eq]
        exact names.imp fun _ _ spelled => String.toList_injective spelled
      have known (ms : List (String × Json)) (name : String) :
          name ∈ (inWrittenOrder ms).map Prod.fst ↔ name ∈ ms.map Prod.fst :=
        ((List.mergeSort_perm ms _).map Prod.fst).mem_iff
      rw [List.forall₂_map_left_iff, List.forall₂_map_right_iff] at names values
      have pairs := List.Forall₂.mp (fun _ _ name value => And.intro name value) names values
      refine .obj (fun name => by rw [← known members, ordered, known]) ?_
      intro name v v' there there'
      obtain ⟨m, member, spelled, alike⟩ :=
        Outcome.exists_source pairs (List.mem_mergeSort.mpr there')
      have same := eq_of_same_name own (List.mem_mergeSort.mp member) there
        (String.toList_injective spelled)
      rw [same] at alike
      exact ih _ there (inner _ there) (inner' _ there') alike

/-- The canonical text tells a value from every other one. -/
theorem canonicalChars_eq_iff (distinct : v.DistinctMembers) (distinct' : w.DistinctMembers) :
    canonicalChars v = canonicalChars w ↔ SameValue v w := by
  constructor
  · intro same
    have read := writes_canonicalChars.determines v w [] [] ended_nil ended_nil
    exact sameValue_of_alike distinct distinct' (read (congrArg (· ++ []) same)).1
  · exact canonicalChars_of_sameValue distinct distinct'

theorem sameValue_scalar (noArray : v.kind ≠ .array) (noObject : v.kind ≠ .object) :
    SameValue v v := by
  cases v with
  | arr items => contradiction
  | obj members => contradiction
  | null => exact .null
  | bool b => exact .bool b
  | int _ | float _ => exact .number rfl rfl
  | str s => exact .str s

theorem sameValue_of_sorted (distinct : v.DistinctMembers) (distinct' : w.DistinctMembers)
    (equal : v.sorted = w.sorted) : SameValue v w := by
  have kinds : v.kind = w.kind := by rw [← kind_sorted, equal, kind_sorted]
  induction v using induct generalizing w with
  | scalar v noArray noObject =>
    rw [sorted_scalar noArray noObject, sorted_scalar (kinds ▸ noArray) (kinds ▸ noObject)] at equal
    rw [← equal]
    exact sameValue_scalar noArray noObject
  | arr items ih =>
    have form := w.form
    rw [← kinds] at form
    obtain ⟨items', rfl⟩ : ∃ items', w = .arr items' := form
    rw [distinctMembers_arr_iff] at distinct distinct'
    rw [sorted, sorted, sortedItems_eq_map, sortedItems_eq_map, arr.injEq] at equal
    refine .arr ((related_among (related_of_map_eq equal)).imp ?_)
    rintro j j' ⟨⟨there, there'⟩, same⟩
    refine ih j there (distinct j there) (distinct' j' there') same ?_
    rw [← kind_sorted, same, kind_sorted]
  | obj members ih =>
    have form := w.form
    rw [← kinds] at form
    obtain ⟨members', rfl⟩ : ∃ members', w = .obj members' := form
    obtain ⟨own, inner⟩ := distinctMembers_obj_iff.mp distinct
    obtain ⟨own', inner'⟩ := distinctMembers_obj_iff.mp distinct'
    rw [sorted, sorted, sortedMembers_eq_map, sortedMembers_eq_map, obj.injEq] at equal
    have names (ms : List (String × Json)) :
        (ms.map fun m => (m.1, m.2.sorted)).map Prod.fst = ms.map Prod.fst := by
      rw [List.map_map]
      rfl
    have perm := (OrderedMap.entries_ofList_perm (names members ▸ own)).symm.trans
      (equal ▸ OrderedMap.entries_ofList_perm (names members' ▸ own'))
    refine .obj (fun name => ?_) ?_
    · rw [← names members, ← names members']
      exact (perm.map Prod.fst).mem_iff
    · intro name v v' there there'
      obtain ⟨m, member, same⟩ := List.mem_map.mp
        (perm.mem_iff.mp (List.mem_map_of_mem there))
      obtain ⟨sameName, sameValue⟩ := Prod.mk.inj same
      rw [eq_of_same_name own' member there' sameName] at sameValue
      refine ih _ there (inner _ there) (inner' _ there') sameValue.symm ?_
      rw [← kind_sorted, ← sameValue, kind_sorted]

end Texts

end Json

open Json (DistinctMembers SameValue distinctMembers_obj_iff)

namespace CType

/-- One object of a value, at any depth, gets a member `$id`. -/
inductive GainsId : Json → Json → Prop where
  | own (before after : List (String × Json)) (id : Json) :
      GainsId (.obj (before ++ after)) (.obj (before ++ (idMember, id) :: after))
  | item (before after : List Json) {j j' : Json} (inside : GainsId j j') :
      GainsId (.arr (before ++ j :: after)) (.arr (before ++ j' :: after))
  | member (before after : List (String × Json)) (name : String) {j j' : Json}
      (inside : GainsId j j') :
      GainsId (.obj (before ++ (name, j) :: after)) (.obj (before ++ (name, j') :: after))

inductive GainsInnerId : Json → Json → Prop where
  | item (before after : List Json) {j j' : Json} (inside : GainsId j j') :
      GainsInnerId (.arr (before ++ j :: after)) (.arr (before ++ j' :: after))
  | member (before after : List (String × Json)) {name : String} (other : name ≠ idMember)
      {j j' : Json} (inside : GainsId j j') :
      GainsInnerId (.obj (before ++ (name, j) :: after)) (.obj (before ++ (name, j') :: after))

def hashedText (schema : Json) : List UInt8 :=
  utf8 (String.ofList (withoutId schema).canonicalChars)

theorem hashOf_eq (schema : Json) : hashOf schema = blake2b (hashedText schema) := rfl

section Identity

variable {a b : Json}

theorem distinctMembers_withoutId (distinct : a.DistinctMembers) :
    (withoutId a).DistinctMembers := by
  cases a with
  | obj members =>
    obtain ⟨own, inner⟩ := distinctMembers_obj_iff.mp distinct
    exact distinctMembers_obj_iff.mpr ⟨own.sublist (List.filter_sublist.map _),
      fun m there => inner m (List.mem_of_mem_filter there)⟩
  | null | bool _ | int _ | float _ | str _ | arr _ => exact distinct

theorem hashedText_eq_iff (distinct : a.DistinctMembers) (distinct' : b.DistinctMembers) :
    hashedText a = hashedText b ↔ SameValue (withoutId a) (withoutId b) := by
  rw [← Json.canonicalChars_eq_iff (distinctMembers_withoutId distinct)
    (distinctMembers_withoutId distinct'), hashedText, hashedText]
  constructor
  · intro same
    exact String.ofList_injective (utf8_injective same)
  · intro same
    rw [same]

theorem hashOf_insert_id (m : OrderedMap String Json) (id : Json) :
    hashOf (.ofMap (m.insert idMember id)) = hashOf (.ofMap m) := by
  have kept : (m.insert idMember id).filter (fun name _ => name != idMember)
      = m.filter (fun name _ => name != idMember) := by
    apply OrderedMap.ext_get?
    intro name
    rw [OrderedMap.get?_filter, OrderedMap.get?_filter, OrderedMap.get?_insert]
    by_cases same : name = idMember
    · simp [same]
    · rw [if_neg same]
  have entries := congrArg OrderedMap.entries kept
  rw [hashOf_eq, hashOf_eq, hashedText, hashedText]
  exact congrArg (fun es => blake2b (utf8 (String.ofList (Json.obj es).canonicalChars))) entries

theorem related_of_append {α β : Type} {related : α → β → Prop} {before after : List α}
    {x : α} {y : β} {before' after' : List β} (lengths : before.length = before'.length)
    (all : List.Forall₂ related (before ++ x :: after) (before' ++ y :: after')) : related x y := by
  induction before generalizing before' with
  | nil =>
    obtain rfl := List.length_eq_zero_iff.mp lengths.symm
    exact (List.forall₂_cons.mp all).1
  | cons first before ih =>
    obtain ⟨first', rest, rfl⟩ := List.exists_cons_of_length_eq_add_one lengths.symm
    exact ih (Nat.succ.inj lengths) (List.forall₂_cons.mp all).2

theorem not_sameValue_of_gainsId (gains : GainsId a b) (distinct : b.DistinctMembers) :
    ¬ SameValue a b := by
  intro same
  induction gains with
  | own before after id =>
    cases same with
    | number first second => contradiction
    | obj names values =>
      have there := (names idMember).mpr (by simp)
      obtain ⟨own, _⟩ := distinctMembers_obj_iff.mp distinct
      rw [List.map_append, List.map_cons, List.nodup_middle, List.nodup_cons] at own
      rw [List.map_append] at there
      exact own.1 there
  | item before after inside ih =>
    cases same with
    | number first second => contradiction
    | arr each =>
      exact ih (Json.distinctMembers_arr_iff.mp distinct _ (by simp)) (related_of_append rfl each)
  | member before after name inside ih =>
    cases same with
    | number first second => contradiction
    | obj names values =>
      refine ih ((distinctMembers_obj_iff.mp distinct).2 (name, _) (by simp)) ?_
      exact values name _ _ (by simp) (by simp)

theorem not_sameValue_of_gainsInnerId (gains : GainsInnerId a b) (distinct : b.DistinctMembers) :
    ¬ SameValue (withoutId a) (withoutId b) := by
  apply not_sameValue_of_gainsId _ (distinctMembers_withoutId distinct)
  cases gains with
  | item before after inside => exact .item before after inside
  | @member before after name other j j' inside =>
    have kept (v : Json) : withoutId (.obj (before ++ (name, v) :: after))
        = .obj (before.filter (fun m => m.1 != idMember)
          ++ (name, v) :: after.filter fun m => m.1 != idMember) := by
      rw [withoutId, List.filter_append, List.filter_cons_of_pos (by simpa using other)]
    rw [kept, kept]
    exact .member _ _ name inside

end Identity

/-- The hash of a claim type is that of its schema without the `$id` on the top level. An `$id` can
be put there without a change of the hash. Schemas with one hash are the same value up to this
member, if their two texts do not collide, and an `$id` further inside changes the hash. -/
theorem hash_identifies_schema :
    (∀ (m : OrderedMap String Json) (id : Json),
      hashOf (.ofMap (m.insert idMember id)) = hashOf (.ofMap m))
    ∧ ∀ a b : Json, a.DistinctMembers → b.DistinctMembers →
      ((withoutId a).sorted = (withoutId b).sorted → hashOf a = hashOf b)
      ∧ (SameValue (withoutId a) (withoutId b) → hashOf a = hashOf b)
      ∧ (CollisionFree (fun bytes => bytes = hashedText a ∨ bytes = hashedText b) →
        (hashOf a = hashOf b → SameValue (withoutId a) (withoutId b))
          ∧ (GainsInnerId a b → hashOf a ≠ hashOf b)) := by
  refine ⟨hashOf_insert_id, fun a b distinct distinct' => ?_⟩
  have hashed (same : SameValue (withoutId a) (withoutId b)) : hashOf a = hashOf b := by
    rw [hashOf_eq, hashOf_eq, (hashedText_eq_iff distinct distinct').mpr same]
  refine ⟨fun equal => hashed ?_, hashed, fun free => ?_⟩
  · exact Json.sameValue_of_sorted (distinctMembers_withoutId distinct)
      (distinctMembers_withoutId distinct') equal
  · have identified (same : hashOf a = hashOf b) : SameValue (withoutId a) (withoutId b) :=
      (hashedText_eq_iff distinct distinct').mp (free _ _ (.inl rfl) (.inr rfl) same)
    exact ⟨identified, fun gains same =>
      not_sameValue_of_gainsInnerId gains distinct' (identified same)⟩

def nested (members : List (String × Json)) : Json := .obj [("p", .obj members)]

def nestedTexts : List (List UInt8) :=
  [utf8 "\x7b\"p\":\x7b\x7d\x7d", utf8 "\x7b\"p\":\x7b\"$id\":null\x7d\x7d"]

theorem nestedTexts_eq :
    nestedTexts = [hashedText (nested []), hashedText (nested [(idMember, .null)])] := by
  have empty : (Json.obj []).canonicalChars = ['\x7b', '\x7d'] := by
    simp [Json.canonicalChars, Json.canonicalMembers, Json.commaSeparated]
  have single (name : String) (v : Json) : (Json.obj [(name, v)]).canonicalChars
      = '\x7b' :: (Json.quoted name ++ ':' :: (v.canonicalChars ++ ['\x7d'])) := by
    simp [Json.canonicalChars, Json.canonicalMembers, Json.commaSeparated, Json.writtenMember]
  have kept (v : Json) : withoutId (.obj [("p", v)]) = .obj [("p", v)] := rfl
  rw [hashedText, hashedText, nested, nested, kept, kept, single, single, empty, single]
  rfl

theorem nested_id_counts : hashOf (nested []) ≠ hashOf (nested [(idMember, .null)]) := by
  have different : ∀ a ∈ nestedTexts, ∀ b ∈ nestedTexts, blake2b a = blake2b b → a = b := by
    decide +kernel
  have free : CollisionFree fun bytes =>
      bytes = hashedText (nested []) ∨ bytes = hashedText (nested [(idMember, .null)]) := by
    refine collisionFree_of_listed (fun bytes hashed => ?_) different
    rw [nestedTexts_eq]
    simpa using hashed
  obtain ⟨_, _, identified⟩ := hash_identifies_schema.2 _ _
    (show (nested []).DistinctMembers by decide)
    (show (nested [(idMember, .null)]).DistinctMembers by decide)
  exact (identified free).2 (.member [] [] (by decide) (.own [] [] .null))

end CType

end SelectiveDisclosure
