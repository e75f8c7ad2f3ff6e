import SelectiveDisclosure.Proofs.DocumentShape
import SelectiveDisclosure.Proofs.SubjectExpansion

namespace SelectiveDisclosure

namespace Expanded

/-- Two keys of a subject with one full name. The context has none. -/
structure Meet (v : String) (subject : OrderedMap String Json) (name first second : String) :
    Prop where
  different : first ≠ second
  firstPresent : first ∈ subject.keys
  secondPresent : second ∈ subject.keys
  firstNamed : fullName? v first = some name
  secondNamed : fullName? v second = some name

theorem fullName?_eq_none_iff (v key : String) : fullName? v key = none ↔ key = contextKey := by
  rw [fullName?]
  split_ifs <;> simp [*]

/-- What is looked at when a name turns out to be taken: the key that took it came earlier. -/
theorem expandFrom_fault {v : String} {fault : ExpansionError} (es seen : List (String × Json))
    (done : OrderedMap String (String × Json)) (distinct : ((seen ++ es).map Prod.fst).Nodup)
    (taken : ∀ name e, done.get? name = some e → e ∈ seen ∧ fullName? v e.1 = some name)
    (failed : expandFrom v done es = .error fault) :
    ∃ name, ∃ a ∈ seen ++ es, ∃ b ∈ seen ++ es, a.1 ≠ b.1 ∧ fullName? v a.1 = some name
      ∧ fullName? v b.1 = some name ∧ fault = .repeatedProperty name a.1 b.1 := by
  -- Every entry moves from those to come to those that were seen.
  induction es generalizing seen done with
  | nil => contradiction
  | cons e es ih =>
    obtain ⟨key, value⟩ := e
    have moved : seen ++ (key, value) :: es = (seen ++ [(key, value)]) ++ es := by simp
    rw [expandFrom] at failed
    cases named : fullName? v key with
    | none =>
      simp only [named] at failed
      rw [moved] at distinct ⊢
      refine ih _ done distinct ?_ failed
      intro name e found
      obtain ⟨there, full⟩ := taken name e found
      exact ⟨List.mem_append_left _ there, full⟩
    | some name =>
      simp only [named] at failed
      cases earlier : done.get? name with
      | some first =>
        simp only [earlier, Except.error.injEq] at failed
        obtain ⟨there, full⟩ := taken name first earlier
        refine ⟨name, first, List.mem_append_left _ there, (key, value), by simp, ?_, full, named,
          failed.symm⟩
        rw [List.map_append, List.nodup_append] at distinct
        exact distinct.2.2 _ (List.mem_map_of_mem there) _ (by simp)
      | none =>
        simp only [earlier] at failed
        rw [moved] at distinct ⊢
        refine ih _ _ distinct ?_ failed
        intro other e found
        rw [OrderedMap.get?_insert] at found
        split at found
        · rename_i same
          obtain rfl := Option.some.inj found
          exact ⟨by simp, same ▸ named⟩
        · obtain ⟨there, full⟩ := taken other e found
          exact ⟨List.mem_append_left _ there, full⟩

section Subject

variable {subject : OrderedMap String Json} {v : String}

theorem meet_of_fault {fault : ExpansionError}
    (failed : expandFrom v .empty subject.entries = .error fault) : ∃ name first second,
      fault = .repeatedProperty name first second ∧ Meet v subject name first second := by
  obtain ⟨name, a, present, b, present', different, full, full', rfl⟩ :=
    expandFrom_fault subject.entries [] .empty subject.nodup_keys
      (fun name e found => absurd found.symm (Option.some_ne_none e)) failed
  exact ⟨name, a.1, b.1, rfl, different, List.mem_map_of_mem present,
    List.mem_map_of_mem present', full, full'⟩

theorem ofSubject_missing_iff :
    ofSubject subject = .error .missingVocabulary ↔ vocabulary? subject = none := by
  rw [ofSubject, Outcome.bind_error_iff, vocabulary]
  cases vocabulary? subject with
  | none => simp
  | some v =>
    simp only [reduceCtorEq, false_or, iff_false, not_exists, not_and, Except.ok.injEq]
    rintro _ rfl failed
    rcases Outcome.bind_error_iff.mp failed with failed | ⟨_, _, failed⟩
    · obtain ⟨_, _, _, other, _⟩ := meet_of_fault failed
      contradiction
    · exact Outcome.pure_not_error failed

theorem ofSubject_fault (named : vocabulary? subject = some v) {fault : ExpansionError}
    (failed : ofSubject subject = .error fault) : ∃ name first second,
      fault = .repeatedProperty name first second ∧ Meet v subject name first second := by
  rw [ofSubject, vocabulary_ok_iff.mpr named, Outcome.ok_bind, Outcome.bind_error_iff] at failed
  rcases failed with failed | ⟨_, _, failed⟩
  · exact meet_of_fault failed
  · exact absurd failed Outcome.pure_not_error

theorem nodup_names_iff : (names v subject.entries).Nodup
    ↔ ¬∃ name first second, Meet v subject name first second := by
  constructor
  · rintro distinct ⟨name, first, second, meet⟩
    obtain ⟨a, present, rfl⟩ := List.mem_map.mp meet.firstPresent
    obtain ⟨b, present', rfl⟩ := List.mem_map.mp meet.secondPresent
    exact meet.different (congrArg Prod.fst
      (entry_of_name distinct present present' meet.firstNamed meet.secondNamed))
  · intro apart
    have keys := List.nodup_iff_pairwise_ne.mp subject.nodup_keys
    refine List.pairwise_filterMap.mpr ((List.pairwise_map.mp keys).imp_of_mem ?_)
    rintro a b present present' different name full _ full' rfl
    exact apart ⟨name, a.1, b.1, different, List.mem_map_of_mem present,
      List.mem_map_of_mem present', full, full'⟩

theorem ofSubject_of_distinct (named : vocabulary? subject = some v)
    (distinct : (names v subject.entries).Nodup) :
    ofSubject subject = .ok (OrderedMap.ofList (properties v subject.entries)) :=
  (ofSubject_ok_iff _ _).mpr ⟨v, named, distinct, rfl⟩

theorem get?_properties_iff (distinct : (names v subject.entries).Nodup) (name : String)
    (value : Json) : (OrderedMap.ofList (properties v subject.entries)).get? name = some value
      ↔ ∃ key, subject.get? key = some value ∧ fullName? v key = some name := by
  rw [← names_of_properties] at distinct
  rw [OrderedMap.get?_ofList_of_distinct distinct, OrderedMap.lookup_eq_some_iff_mem distinct,
    properties, List.mem_filterMap]
  constructor
  · rintro ⟨⟨key, _⟩, present, full⟩
    obtain ⟨_, named, same⟩ := Option.map_eq_some_iff.mp full
    obtain ⟨rfl, rfl⟩ := Prod.mk.inj same
    exact ⟨key, (OrderedMap.get?_eq_some_iff _).mpr present, named⟩
  · rintro ⟨key, found, named⟩
    exact ⟨(key, value), (OrderedMap.get?_eq_some_iff _).mp found, by rw [named]; rfl⟩

theorem size_properties (distinct : (names v subject.entries).Nodup) :
    (OrderedMap.ofList (properties v subject.entries)).size
      = (subject.keys.filter (· ≠ contextKey)).length := by
  rw [← names_of_properties] at distinct
  have counted (es : List (String × Json)) : (properties v es).length
      = ((es.map Prod.fst).filter (· ≠ contextKey)).length := by
    induction es with
    | nil => rfl
    | cons e es ih =>
      have context := fullName?_eq_none_iff v e.1
      rw [properties, List.filterMap_cons, List.map_cons, List.filter_cons]
      cases full : fullName? v e.1 with
      | none => simpa [properties, context.mp full] using ih
      | some name =>
        have other : e.1 ≠ contextKey := by
          intro same
          rw [context.mpr same] at full
          contradiction
        simpa [properties, other] using ih
  rw [OrderedMap.size, (OrderedMap.entries_ofList_perm distinct).length_eq, counted]
  rfl

end Subject

/-- Expansion loses nothing. It fails without a vocabulary and where two keys meet, and then it
names two of those; otherwise there is one property for each key but that of the context, with its
value. -/
theorem expansion_loses_nothing (subject : OrderedMap String Json) :
    (ofSubject subject = .error .missingVocabulary ↔ ¬∃ context v,
        subject.get? "@context" = some context ∧ context.get? "@vocab" = some (.str v))
      ∧ ∀ v, vocabulary? subject = some v →
        ((∃ name first second, ofSubject subject = .error (.repeatedProperty name first second))
            ↔ ∃ name first second, Meet v subject name first second)
        ∧ (∀ name first second, ofSubject subject = .error (.repeatedProperty name first second) →
          Meet v subject name first second)
        ∧ ((¬∃ name first second, Meet v subject name first second) → ∃ expanded,
          ofSubject subject = .ok expanded
            ∧ expanded.size = (subject.keys.filter (· ≠ contextKey)).length
            ∧ ∀ name value, expanded.get? name = some value
              ↔ ∃ key, subject.get? key = some value ∧ fullName? v key = some name) := by
  constructor
  · rw [ofSubject_missing_iff, Option.eq_none_iff_forall_ne_some, exists_comm, not_exists]
    exact forall_congr' fun v => not_congr (VerifiableCredential.vocabulary?_eq_some_iff subject v)
  · intro v named
    have faults : ∀ name first second,
        ofSubject subject = .error (.repeatedProperty name first second) →
          Meet v subject name first second := by
      intro name first second failed
      obtain ⟨_, _, _, same, meet⟩ := ofSubject_fault named failed
      obtain ⟨rfl, rfl, rfl⟩ := ExpansionError.repeatedProperty.inj same
      exact meet
    refine ⟨⟨?_, ?_⟩, faults, ?_⟩
    · rintro ⟨name, first, second, failed⟩
      exact ⟨name, first, second, faults name first second failed⟩
    · intro meeting
      cases outcome : ofSubject subject with
      | error fault =>
        obtain ⟨name, first, second, rfl, _⟩ := ofSubject_fault named outcome
        exact ⟨name, first, second, rfl⟩
      | ok expanded =>
        obtain ⟨_, named', distinct, _⟩ := (ofSubject_ok_iff _ _).mp outcome
        rw [Option.some.inj (named'.symm.trans named)] at distinct
        exact absurd meeting (nodup_names_iff.mp distinct)
    · intro apart
      have distinct := nodup_names_iff.mpr apart
      exact ⟨_, ofSubject_of_distinct named distinct, size_properties distinct,
        get?_properties_iff distinct⟩

def spellingSubject (vocabulary : String) : OrderedMap String Json := OrderedMap.ofList
  [("@context", .obj [("@vocab", .str vocabulary)]), ("d", .int 1), ("id", .str "did:kilt:holder")]

theorem spelled_identity_met : (∃ name first second,
      ofSubject (spellingSubject "@i") = .error (.repeatedProperty name first second)
        ∧ Meet "@i" (spellingSubject "@i") name first second)
    ∧ ∃ expanded, ofSubject (spellingSubject "#") = .ok expanded ∧ expanded.size = 2 := by
  constructor
  · obtain ⟨_, parts⟩ := expansion_loses_nothing (spellingSubject "@i")
    obtain ⟨refused, named, _⟩ := parts "@i" rfl
    obtain ⟨name, first, second, failed⟩ := refused.mpr
      ⟨"@id", "d", "id", by decide, by decide, by decide, by decide, by decide⟩
    exact ⟨name, first, second, failed, named name first second failed⟩
  · obtain ⟨_, parts⟩ := expansion_loses_nothing (spellingSubject "#")
    obtain ⟨_, _, expands⟩ := parts "#" rfl
    obtain ⟨expanded, made, size, _⟩ := expands (nodup_names_iff.mp (by decide))
    exact ⟨expanded, made, size⟩

end Expanded

end SelectiveDisclosure
