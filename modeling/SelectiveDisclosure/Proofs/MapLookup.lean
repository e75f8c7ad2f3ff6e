import Mathlib.Data.List.Nodup
import Mathlib.Data.List.Perm.Basic
import SelectiveDisclosure.OrderedMap

namespace SelectiveDisclosure.OrderedMap

variable {κ ν μ : Type}

section Entries

variable [DecidableEq κ]

theorem lookup_cons_if (e : κ × ν) (es : List (κ × ν)) (k : κ) :
    (e :: es).lookup k = if k = e.1 then some e.2 else es.lookup k := by
  obtain ⟨k', v⟩ := e
  by_cases same : k = k'
  · subst same
    simp
  · have differs : (k == k') = false := by simpa using same
    simp [List.lookup_cons, differs, same]

theorem lookup_eq_some_iff_mem {es : List (κ × ν)} (distinct : (es.map Prod.fst).Nodup)
    {k : κ} {v : ν} : es.lookup k = some v ↔ (k, v) ∈ es := by
  induction es with
  | nil => simp
  | cons e es ih =>
    obtain ⟨fresh, rest⟩ := List.nodup_cons.mp distinct
    rw [lookup_cons_if, List.mem_cons]
    by_cases same : k = e.1
    · have absent : (k, v) ∉ es := by
        intro found
        exact fresh (List.mem_map.mpr ⟨_, found, same⟩)
      obtain ⟨k', v'⟩ := e
      simp_all [eq_comm]
    · have differs : (k, v) ≠ e := by
        intro whole
        exact same (congrArg Prod.fst whole)
      simp [same, differs, ih rest]

theorem lookup_map_values (f : κ → ν → μ) (es : List (κ × ν)) (k : κ) :
    (es.map fun e => (e.1, f e.1 e.2)).lookup k = (es.lookup k).map (f k) := by
  induction es with
  | nil => rfl
  | cons e es ih =>
    rw [List.map_cons, lookup_cons_if, lookup_cons_if, ih]
    split
    · rename_i same
      rw [same, Option.map_some]
    · rfl

end Entries

variable [LT κ]

section Lookup

variable [DecidableEq κ]

theorem get?_empty (k : κ) : (empty : OrderedMap κ ν).get? k = none := rfl

theorem contains_iff (m : OrderedMap κ ν) (k : κ) : m.contains k ↔ ∃ v, m.get? k = some v := by
  rw [contains, Option.isSome_iff_exists]

theorem get?_mapValues (m : OrderedMap κ ν) (f : κ → ν → μ) (k : κ) :
    (m.mapValues f).get? k = (m.get? k).map (f k) :=
  lookup_map_values f m.entries k

theorem get?_modify (m : OrderedMap κ ν) (k : κ) (f : ν → ν) (k' : κ) :
    (m.modify k f).get? k' = if k' = k then (m.get? k').map f else m.get? k' := by
  rw [modify, get?_mapValues]
  by_cases same : k' = k <;> simp [same]

end Lookup

variable [Std.Irrefl (α := κ) (· < ·)]

theorem nodup_keys (m : OrderedMap κ ν) : m.keys.Nodup := by
  rw [keys, List.nodup_iff_pairwise_ne, List.pairwise_map]
  apply m.ascending.imp
  intro a b below same
  rw [same] at below
  exact Std.Irrefl.irrefl _ below

theorem nodup_entries (m : OrderedMap κ ν) : m.entries.Nodup := m.nodup_keys.of_map Prod.fst

variable [DecidableEq κ]

theorem get?_eq_some_iff (m : OrderedMap κ ν) {k : κ} {v : ν} :
    m.get? k = some v ↔ (k, v) ∈ m.entries :=
  lookup_eq_some_iff_mem m.nodup_keys

theorem mem_keys_iff (m : OrderedMap κ ν) (k : κ) : k ∈ m.keys ↔ ∃ v, m.get? k = some v := by
  simp only [keys, List.mem_map, get?_eq_some_iff]
  constructor
  · rintro ⟨e, there, rfl⟩
    exact ⟨e.2, there⟩
  · rintro ⟨v, there⟩
    exact ⟨_, there, rfl⟩

theorem get?_filter (m : OrderedMap κ ν) (p : κ → ν → Bool) (k : κ) :
    (m.filter p).get? k = (m.get? k).filter (p k) := by
  apply Option.ext
  intro v
  rw [get?_eq_some_iff, Option.filter_eq_some_iff, get?_eq_some_iff]
  exact List.mem_filter

theorem get?_erase (m : OrderedMap κ ν) (k k' : κ) :
    (m.erase k).get? k' = if k' = k then none else m.get? k' := by
  rw [erase, get?_filter]
  by_cases same : k' = k
  · simp [same]
  · cases m.get? k' <;> simp [same]

theorem lookup_insertEntry [DecidableLT κ] [Std.Trichotomous (α := κ) (· < ·)] (k : κ) (v : ν)
    (es : List (κ × ν)) (k' : κ) :
    (insertEntry k v es).lookup k' = if k' = k then some v else es.lookup k' := by
  induction es with
  | nil => rw [insertEntry, lookup_cons_if]
  | cons e es ih =>
    obtain ⟨first, w⟩ := e
    simp only [insertEntry]
    split
    · rw [lookup_cons_if]
    · rename_i not_below
      split
      · rename_i above
        rw [lookup_cons_if, lookup_cons_if, ih]
        by_cases head : k' = first
        · have differs : k' ≠ k := by
            intro same
            rw [← head, same] at above
            exact Std.Irrefl.irrefl _ above
          rw [if_pos head, if_neg differs, if_pos head]
        · rw [if_neg head, if_neg head]
      · rename_i not_above
        have same : k = first :=
          Std.Trichotomous.trichotomous (r := (· < ·)) k first not_below not_above
        subst same
        rw [lookup_cons_if, lookup_cons_if]
        split <;> rfl

variable [Trans (α := κ) (· < ·) (· < ·) (· < ·)]

theorem ext_get? {m n : OrderedMap κ ν} (h : ∀ k, m.get? k = n.get? k) : m = n := by
  apply ext
  have perm : m.entries.Perm n.entries := by
    rw [List.perm_ext_iff_of_nodup m.nodup_entries n.nodup_entries]
    intro e
    rw [← get?_eq_some_iff, ← get?_eq_some_iff, h]
  refine perm.eq_of_pairwise ?_ m.ascending n.ascending
  intro a b _ _ below above
  exact absurd (Std.lt_trans below above) (Std.Irrefl.irrefl _)

variable [DecidableLT κ] [Std.Trichotomous (α := κ) (· < ·)]

theorem get?_insert (m : OrderedMap κ ν) (k : κ) (v : ν) (k' : κ) :
    (m.insert k v).get? k' = if k' = k then some v else m.get? k' :=
  lookup_insertEntry k v m.entries k'

theorem get?_foldl_insert (es : List (κ × ν)) (m : OrderedMap κ ν) (k : κ) :
    (es.foldl (fun m e => m.insert e.1 e.2) m).get? k = (es.reverse.lookup k).or (m.get? k) := by
  induction es generalizing m with
  | nil => simp
  | cons e es ih =>
    rw [List.foldl_cons, ih, get?_insert, List.reverse_cons, List.lookup_append, lookup_cons_if]
    cases es.reverse.lookup k with
    | some v => simp
    | none => by_cases same : k = e.1 <;> simp [same]

theorem get?_ofList (es : List (κ × ν)) (k : κ) : (ofList es).get? k = es.reverse.lookup k := by
  rw [ofList, get?_foldl_insert, get?_empty, Option.or_none]

theorem get?_ofList_of_distinct {es : List (κ × ν)} (distinct : (es.map Prod.fst).Nodup) (k : κ) :
    (ofList es).get? k = es.lookup k := by
  have reversed : (es.reverse.map Prod.fst).Nodup := by
    rw [List.map_reverse]
    exact List.nodup_reverse.mpr distinct
  apply Option.ext
  intro v
  rw [get?_ofList, lookup_eq_some_iff_mem reversed, lookup_eq_some_iff_mem distinct,
    List.mem_reverse]

theorem ofList_entries (m : OrderedMap κ ν) : ofList m.entries = m :=
  ext_get? fun k => get?_ofList_of_distinct m.nodup_keys k

theorem mem_of_get?_ofList {es : List (κ × ν)} {k : κ} {v : ν}
    (found : (ofList es).get? k = some v) : (k, v) ∈ es := by
  rw [get?_ofList, List.lookup_eq_some_iff] at found
  obtain ⟨before, after, split, _⟩ := found
  rw [← List.mem_reverse, split]
  exact List.mem_append_right _ List.mem_cons_self

theorem exists_get?_ofList_iff (es : List (κ × ν)) (k : κ) :
    (∃ v, (ofList es).get? k = some v) ↔ ∃ v, (k, v) ∈ es := by
  constructor
  · rintro ⟨v, found⟩
    exact ⟨v, mem_of_get?_ofList found⟩
  · rintro ⟨v, there⟩
    by_contra absent
    rw [← Option.isSome_iff_exists, Option.not_isSome_iff_eq_none, get?_ofList,
      List.lookup_eq_none_iff] at absent
    simpa using absent _ (List.mem_reverse.mpr there)

theorem entries_ofList_perm {es : List (κ × ν)} (distinct : (es.map Prod.fst).Nodup) :
    (ofList es).entries.Perm es := by
  rw [List.perm_ext_iff_of_nodup (ofList es).nodup_entries (distinct.of_map Prod.fst)]
  intro e
  rw [← get?_eq_some_iff, get?_ofList_of_distinct distinct, lookup_eq_some_iff_mem distinct]

theorem filter_ofList {es : List (κ × ν)} (distinct : (es.map Prod.fst).Nodup) (p : κ → ν → Bool) :
    (ofList es).filter p = ofList (es.filter fun e => p e.1 e.2) := by
  have kept : ((es.filter fun e => p e.1 e.2).map Prod.fst).Nodup :=
    distinct.sublist (List.filter_sublist.map _)
  apply ext_get?
  intro k
  apply Option.ext
  intro v
  rw [get?_filter, Option.filter_eq_some_iff, get?_ofList_of_distinct distinct,
    get?_ofList_of_distinct kept, lookup_eq_some_iff_mem distinct, lookup_eq_some_iff_mem kept,
    List.mem_filter]

end SelectiveDisclosure.OrderedMap
