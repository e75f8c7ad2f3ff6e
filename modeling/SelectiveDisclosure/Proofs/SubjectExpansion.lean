import Mathlib.Data.List.Pairwise
import SelectiveDisclosure.Attested.Commitment
import SelectiveDisclosure.Proofs.MapLookup
import SelectiveDisclosure.Proofs.Outcome
import SelectiveDisclosure.Proofs.StableSort

namespace SelectiveDisclosure

namespace Expanded

def properties (vocabulary : String) (entries : List (String × Json)) : List (String × Json) :=
  entries.filterMap fun e => (fullName? vocabulary e.1).map fun name => (name, e.2)

def names (vocabulary : String) (entries : List (String × Json)) : List String :=
  entries.filterMap fun e => fullName? vocabulary e.1

def sourced (vocabulary : String) (entries : List (String × Json)) :
    List (String × (String × Json)) :=
  entries.filterMap fun e => (fullName? vocabulary e.1).map fun name => (name, e)

theorem names_of_properties (vocabulary : String) (entries : List (String × Json)) :
    (properties vocabulary entries).map Prod.fst = names vocabulary entries := by
  simp [properties, names, List.map_filterMap, Function.comp_def]

theorem names_of_sourced (vocabulary : String) (entries : List (String × Json)) :
    (sourced vocabulary entries).map Prod.fst = names vocabulary entries := by
  simp [sourced, names, List.map_filterMap, Function.comp_def]

theorem properties_of_sourced (vocabulary : String) (entries : List (String × Json)) :
    (sourced vocabulary entries).map (fun e => (e.1, e.2.2)) = properties vocabulary entries := by
  simp [sourced, properties, List.map_filterMap, Function.comp_def]

theorem mem_statements_iff (expanded : Expanded) (s : Statement) :
    s ∈ expanded.statements ↔ expanded.get? s.key = some s.value := by
  rw [OrderedMap.get?_eq_some_iff, statements, List.mem_map]
  constructor
  · rintro ⟨e, there, rfl⟩
    exact there
  · intro there
    exact ⟨_, there, rfl⟩

theorem vocabulary_ok_iff {subject : OrderedMap String Json} {v : String} :
    vocabulary subject = .ok v ↔ vocabulary? subject = some v := by
  unfold vocabulary
  cases vocabulary? subject <;> simp

/-- Every name is added to those already there, so an expansion succeeds as long as names are new.
-/
theorem expandFrom_ok_iff (v : String) (es : List (String × Json))
    (done found : OrderedMap String (String × Json)) : expandFrom v done es = .ok found
      ↔ (names v es).Nodup ∧ (∀ name ∈ names v es, done.get? name = none)
        ∧ found = (sourced v es).foldl (fun m e => m.insert e.1 e.2) done := by
  -- The names that are taken grow with every entry, so `done` has to vary in the induction.
  induction es generalizing done with
  | nil => simp [expandFrom, names, sourced, eq_comm]
  | cons e es ih =>
    obtain ⟨key, value⟩ := e
    rw [expandFrom]
    cases named : fullName? v key with
    | none =>
      have skipped : names v ((key, value) :: es) = names v es
          ∧ sourced v ((key, value) :: es) = sourced v es := by
        simp [names, sourced, named]
      rw [skipped.1, skipped.2]
      exact ih done
    | some name =>
      have added : names v ((key, value) :: es) = name :: names v es
          ∧ sourced v ((key, value) :: es) = (name, (key, value)) :: sourced v es := by
        simp [names, sourced, named]
      rw [added.1, added.2, List.nodup_cons, List.forall_mem_cons, List.foldl_cons]
      dsimp only
      cases earlier : done.get? name with
      | some first => simp
      | none =>
        simp only [ih, OrderedMap.get?_insert]
        constructor
        · rintro ⟨distinct, fresh, rfl⟩
          refine ⟨⟨?_, distinct⟩, ⟨trivial, ?_⟩, rfl⟩
          · intro again
            have taken := fresh name again
            simp at taken
          · intro other there
            have free := fresh other there
            split at free
            · contradiction
            · exact free
        · rintro ⟨⟨once, distinct⟩, ⟨_, fresh⟩, rfl⟩
          refine ⟨distinct, ?_, rfl⟩
          intro other there
          have differs : other ≠ name := fun same => once (same ▸ there)
          rw [if_neg differs]
          exact fresh other there

theorem mapValues_ofList {es : List (String × (String × Json))}
    (distinct : (es.map Prod.fst).Nodup) :
    (OrderedMap.ofList es).mapValues (fun _ v => v.2)
      = OrderedMap.ofList (es.map fun e => (e.1, e.2.2)) := by
  have kept : ((es.map fun e => (e.1, e.2.2)).map Prod.fst).Nodup := by
    simpa [Function.comp_def] using distinct
  apply OrderedMap.ext_get?
  intro k
  rw [OrderedMap.get?_mapValues, OrderedMap.get?_ofList_of_distinct distinct,
    OrderedMap.get?_ofList_of_distinct kept]
  exact (OrderedMap.lookup_map_values (fun _ (e : String × Json) => e.2) es k).symm

theorem ofSubject_ok_iff (subject : OrderedMap String Json) (expanded : Expanded) :
    ofSubject subject = .ok expanded ↔ ∃ v, vocabulary? subject = some v
      ∧ (names v subject.entries).Nodup
      ∧ expanded = OrderedMap.ofList (properties v subject.entries) := by
  rw [ofSubject, Outcome.bind_ok_iff]
  apply exists_congr
  intro v
  rw [vocabulary_ok_iff, Outcome.bind_ok_iff]
  apply and_congr_right
  intro _
  have made (distinct : (names v subject.entries).Nodup) :
      (OrderedMap.ofList (sourced v subject.entries)).mapValues (fun _ e => e.2)
        = OrderedMap.ofList (properties v subject.entries) := by
    rw [mapValues_ofList (by rwa [names_of_sourced]), properties_of_sourced]
  simp only [expandFrom_ok_iff, Outcome.pure_ok_iff]
  constructor
  · rintro ⟨found, ⟨distinct, _, rfl⟩, rfl⟩
    exact ⟨distinct, made distinct⟩
  · rintro ⟨distinct, rfl⟩
    exact ⟨_, ⟨distinct, fun _ _ => rfl, rfl⟩, made distinct⟩

theorem entry_of_name {v name : String} {es : List (String × Json)} (distinct : (names v es).Nodup)
    {a b : String × Json} (ha : a ∈ es) (hb : b ∈ es)
    (name_a : fullName? v a.1 = some name) (name_b : fullName? v b.1 = some name) : a = b := by
  by_contra differ
  have apart : es.Pairwise fun a b => ∀ x, fullName? v a.1 = some x → ∀ y,
      fullName? v b.1 = some y → x ≠ y := List.pairwise_filterMap.mp distinct
  have symmetric : Std.Symm fun a b : String × Json => ∀ x, fullName? v a.1 = some x → ∀ y,
      fullName? v b.1 = some y → x ≠ y := by
    constructor
    intro a b h x hx y hy same
    exact h y hy x hx same.symm
  exact apart.forall ha hb differ name name_a name name_b rfl

theorem properties_filter {v : String} {es : List (String × Json)} (distinct : (names v es).Nodup)
    (p : String × Json → Bool) : properties v (es.filter p)
      = (properties v es).filter fun e => e.1 ∈ names v (es.filter p) := by
  have kept : ∀ e ∈ es, ∀ name, fullName? v e.1 = some name →
      (name ∈ names v (es.filter p) ↔ p e) := by
    intro e he name named
    rw [names, List.mem_filterMap]
    constructor
    · rintro ⟨other, there, same⟩
      obtain ⟨member, holds⟩ := List.mem_filter.mp there
      rwa [entry_of_name distinct he member named same]
    · intro holds
      exact ⟨e, List.mem_filter.mpr ⟨he, holds⟩, named⟩
  rw [properties, properties, List.filterMap_filter, List.filter_filterMap]
  apply List.filterMap_congr
  intro e he
  cases named : fullName? v e.1 with
  | none => simp
  | some name =>
    have decided := kept e he name named
    by_cases holds : p e <;> simp [Option.filter_some, holds, decided]

theorem names_filter_sublist (v : String) (es : List (String × Json)) (p : String × Json → Bool) :
    (names v (es.filter p)).Sublist (names v es) :=
  List.filter_sublist.filterMap _

end Expanded

namespace Commitment

def below (a b : Statement × Hash256) : Bool := !(b.2 < a.2)

theorem below_trans (a b c : Statement × Hash256) (ab : below a b) (bc : below b c) :
    below a c := by
  simp only [below, Bool.not_eq_true', decide_eq_false_iff_not] at ab bc ⊢
  exact FixedBytes.not_lt_trans ab bc

theorem below_total (a b : Statement × Hash256) : below a b || below b a := by
  simp only [below, Bool.or_eq_true, Bool.not_eq_true', decide_eq_false_iff_not]
  exact FixedBytes.not_lt_total a.2 b.2

theorem normalizeClaims_ok_iff (subject : OrderedMap String Json)
    (normalized : List (Statement × Hash256)) : normalizeClaims subject = .ok normalized
      ↔ ∃ expanded, Expanded.ofSubject subject = .ok expanded
        ∧ normalized = (expanded.statements.map fun s => (s, s.digest)).mergeSort below := by
  rw [normalizeClaims, Outcome.bind_ok_iff]
  apply exists_congr
  intro expanded
  rw [Outcome.pure_ok_iff, eq_comm (a := normalized)]
  rfl

theorem normalizeClaims_of_ascending {subject : OrderedMap String Json} {expanded : Expanded}
    (made : Expanded.ofSubject subject = .ok expanded)
    (ascending : (expanded.statements.map (·.digest)).Pairwise fun a b => ¬ b < a) :
    normalizeClaims subject = .ok (expanded.statements.map fun s => (s, s.digest)) := by
  refine (normalizeClaims_ok_iff _ _).mpr ⟨expanded, made, ?_⟩
  symm
  apply List.mergeSort_of_pairwise
  rw [List.pairwise_map] at ascending ⊢
  apply ascending.imp
  intro s t above
  simpa [below] using above

theorem digest_of_normalized {subject : OrderedMap String Json}
    {normalized : List (Statement × Hash256)} (made : normalizeClaims subject = .ok normalized)
    {s : Statement} {digest : Hash256} (h : (s, digest) ∈ normalized) : digest = s.digest := by
  obtain ⟨expanded, _, rfl⟩ := (normalizeClaims_ok_iff _ _).mp made
  obtain ⟨statement, _, pair⟩ := List.mem_map.mp (List.mem_mergeSort.mp h)
  rw [Prod.mk.injEq] at pair
  rw [← pair.1, ← pair.2]

theorem normalizeClaims_filter {subject : OrderedMap String Json} {v : String}
    {normalized : List (Statement × Hash256)} (named : Expanded.vocabulary? subject = some v)
    (made : normalizeClaims subject = .ok normalized) (p : String → Json → Bool)
    (context : Expanded.vocabulary? (subject.filter p) = some v) :
    normalizeClaims (subject.filter p)
      = .ok (normalized.filter fun e => e.1.key ∈ Expanded.names v (subject.filter p).entries) := by
  obtain ⟨expanded, expansion, rfl⟩ := (normalizeClaims_ok_iff _ _).mp made
  obtain ⟨v', named', distinct, rfl⟩ := (Expanded.ofSubject_ok_iff _ _).mp expansion
  obtain rfl : v = v' := Option.some.inj (named.symm.trans named')
  rw [normalizeClaims_ok_iff]
  refine ⟨_, (Expanded.ofSubject_ok_iff _ _).mpr ⟨v, context, ?_, rfl⟩, ?_⟩
  · exact distinct.sublist (Expanded.names_filter_sublist v _ _)
  · have entries : (subject.filter p).entries = subject.entries.filter fun e => p e.1 e.2 := rfl
    have properties : ((Expanded.properties v subject.entries).map Prod.fst).Nodup := by
      rwa [Expanded.names_of_properties]
    have remaining := OrderedMap.filter_ofList properties
      fun name _ => decide (name ∈ Expanded.names v (subject.filter p).entries)
    rw [StableSort.filter_mergeSort below_trans below_total, entries,
      Expanded.properties_filter distinct, ← entries, ← remaining]
    simp only [Expanded.statements, OrderedMap.filter, List.filter_map, List.map_map]
    rfl

end Commitment

end SelectiveDisclosure
