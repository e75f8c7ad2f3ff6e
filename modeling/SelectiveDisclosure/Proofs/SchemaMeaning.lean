import SelectiveDisclosure.Proofs.MapLookup
import SelectiveDisclosure.Schema.Documents

namespace SelectiveDisclosure

namespace Json

theorem sortedItems_eq_map (items : List Json) : sortedItems items = items.map sorted := by
  induction items with
  | nil => rfl
  | cons j items ih => rw [sortedItems, ih, List.map_cons]

theorem sortedMembers_eq_map (members : List (String × Json)) :
    sortedMembers members = members.map fun m => (m.1, sorted m.2) := by
  induction members with
  | nil => rfl
  | cons m members ih =>
    obtain ⟨name, j⟩ := m
    rw [sortedMembers, ih, List.map_cons]

theorem get?_obj (members : List (String × Json)) (name : String) :
    (obj members).get? name = members.reverse.lookup name :=
  OrderedMap.get?_ofList members name

theorem get?_sorted (j : Json) (name : String) : j.sorted.get? name = (j.get? name).map sorted := by
  cases j with
  | obj members =>
    rw [sorted, get?, OrderedMap.ofList_entries, OrderedMap.get?_ofList, get?_obj,
      sortedMembers_eq_map, ← List.map_reverse]
    exact OrderedMap.lookup_map_values (fun _ j => sorted j) members.reverse name
  | _ => rfl

theorem exists_members_of_get? {j : Json} {name : String} {value : Json}
    (found : j.get? name = some value) : ∃ members, j = .obj members := by
  cases j with
  | obj members => exact ⟨members, rfl⟩
  | _ => contradiction

theorem get?_ofMap (m : OrderedMap String Json) (name : String) :
    (ofMap m).get? name = m.get? name := by
  rw [ofMap, get?, OrderedMap.ofList_entries]

end Json

namespace Schema

def Ending.Admits : Ending → List Char → Prop
  | .anything, _ => True
  | .atLeastOne k, rest => rest ≠ [] ∧ ∀ c ∈ rest, k.holds c
  | .exactly count k, rest => rest.length = count ∧ ∀ c ∈ rest, k.holds c

def Pattern.Matches (p : Pattern) (s : String) : Prop :=
  ∃ rest, s.toList = p.head.toList ++ rest ∧ p.ending.Admits rest

mutual

/-- A value is as a rule wants it. Values of a kind that the rule does not speak of always are. -/
def Rule.Admits (j : Json) : Rule → Prop
  | .allOf schemas => AdmitsEach j schemas
  | .const value => value.holds j
  | .contains schema => ∀ items, j = .arr items → ∃ item ∈ items, Admits item schema
  | .enum values => ∃ value ∈ values, value.holds j
  | .items schema => ∀ items, j = .arr items → ∀ item ∈ items, Admits item schema
  | .minItems count => ∀ items, j = .arr items → count ≤ items.length
  | .minLength count => ∀ s, j = .str s → count ≤ s.length
  | .pattern p => ∀ s, j = .str s → p.Matches s
  | .leadingItems schemas => ∀ items, j = .arr items → AdmitsLeading items schemas
  | .properties members => AdmitsMembers j members
  | .required names => ∀ members, j = .obj members → ∀ name ∈ names, ∃ v, j.get? name = some v
  | .type kind => kind.holds j

def Admits (j : Json) : List Rule → Prop
  | [] => True
  | rule :: rest => rule.Admits j ∧ Admits j rest

def AdmitsEach (j : Json) : List (List Rule) → Prop
  | [] => True
  | schema :: rest => Admits j schema ∧ AdmitsEach j rest

def AdmitsLeading (items : List Json) : List (List Rule) → Prop
  | [] => True
  | schema :: rest =>
    ∀ first others, items = first :: others → Admits first schema ∧ AdmitsLeading others rest

def AdmitsMembers (j : Json) : List (String × List Rule) → Prop
  | [] => True
  | (name, schema) :: rest =>
    (∀ value, j.get? name = some value → Admits value schema) ∧ AdmitsMembers j rest

end

theorem report_ne_nil (p : Place) (message : String) : p.report message ≠ [] := by
  simp [Place.report]

theorem isPrefixOf?_eq_some_iff {head text rest : List Char} :
    head.isPrefixOf? text = some rest ↔ text = head ++ rest := by
  induction head generalizing text with
  | nil => simp [List.isPrefixOf?]
  | cons c head ih =>
    cases text with
    | nil => simp [List.isPrefixOf?]
    | cons d text =>
      simp only [List.isPrefixOf?, List.cons_append, List.cons.injEq]
      by_cases same : c = d
      · subst same
        simp [ih]
      · have differs : ¬ d = c := fun h => same h.symm
        simp [same, differs]

theorem pattern_holds_iff (p : Pattern) (s : String) : p.holds s ↔ p.Matches s := by
  unfold Pattern.holds Pattern.Matches
  constructor
  · intro h
    split at h
    · contradiction
    · rename_i rest cut
      refine ⟨rest, isPrefixOf?_eq_some_iff.mp cut, ?_⟩
      cases ending : p.ending with
      | anything => trivial
      | atLeastOne k => simpa [ending, Ending.Admits] using h
      | exactly count k => simpa [ending, Ending.Admits] using h
  · rintro ⟨rest, cut, admitted⟩
    rw [isPrefixOf?_eq_some_iff.mpr cut]
    cases ending : p.ending with
    | anything => rfl
    | atLeastOne k => simpa [ending, Ending.Admits] using admitted
    | exactly count k => simpa [ending, Ending.Admits] using admitted

theorem admitsMembers_of_no_member {j : Json} (none : ∀ name, j.get? name = none)
    (members : List (String × List Rule)) : AdmitsMembers j members := by
  induction members with
  | nil => trivial
  | cons m members ih =>
    obtain ⟨name, schema⟩ := m
    rw [AdmitsMembers]
    exact ⟨by simp [none], ih⟩

mutual

theorem Rule.check_eq_nil_iff (place : Place) (j : Json) (rule : Rule) :
    rule.check place j = [] ↔ rule.Admits j := by
  cases rule with
  | allOf schemas =>
    rw [Rule.check, Rule.Admits]
    exact checkEach_eq_nil_iff _ 0 j schemas
  | const value =>
    rw [Rule.check, Rule.Admits]
    by_cases h : value.holds j <;> simp [h, report_ne_nil]
  | contains schema =>
    cases j with
    | arr items =>
      have found : (items.any fun item => (check (place.rule "contains") item schema).isEmpty)
          ↔ ∃ item ∈ items, Admits item schema := by
        simp [List.any_eq_true, List.isEmpty_iff, check_eq_nil_iff _ _ schema]
      rw [Rule.check, Rule.Admits]
      simp only [Json.arr.injEq, forall_eq']
      split
      · rename_i h
        exact iff_of_true rfl (found.mp h)
      · rename_i h
        exact iff_of_false (report_ne_nil _ _) (mt found.mpr h)
    | _ => simp [Rule.check, Rule.Admits]
  | enum values =>
    rw [Rule.check, Rule.Admits, ← List.any_eq_true]
    split
    · rename_i h
      exact iff_of_true rfl h
    · rename_i h
      exact iff_of_false (report_ne_nil _ _) h
  | items schema =>
    cases j with
    | arr items =>
      rw [Rule.check, Rule.Admits]
      simp only [List.flatMap_eq_nil_iff, Json.arr.injEq, forall_eq', Prod.forall]
      constructor
      · intro h item member
        obtain ⟨i, bound, at_i⟩ := List.getElem_of_mem member
        have clean := h item i (List.mem_zipIdx_iff_getElem?.mpr (by simp [bound, at_i]))
        exact (check_eq_nil_iff _ item schema).mp clean
      · intro h item i member
        exact (check_eq_nil_iff _ item schema).mpr (h item (List.fst_mem_of_mem_zipIdx member))
    | _ => simp [Rule.check, Rule.Admits]
  | minItems count =>
    cases j with
    | arr items =>
      by_cases h : count ≤ items.length <;> simp [Rule.check, Rule.Admits, h, report_ne_nil]
    | _ => simp [Rule.check, Rule.Admits]
  | minLength count =>
    cases j with
    | str s => by_cases h : count ≤ s.length <;> simp [Rule.check, Rule.Admits, h, report_ne_nil]
    | _ => simp [Rule.check, Rule.Admits]
  | pattern p =>
    cases j with
    | str s =>
      rw [Rule.check, Rule.Admits]
      by_cases h : p.holds s <;> simp [h, report_ne_nil, ← pattern_holds_iff]
    | _ => simp [Rule.check, Rule.Admits]
  | leadingItems schemas =>
    cases j with
    | arr items => simp [Rule.check, Rule.Admits, checkLeading_eq_nil_iff _ 0 items schemas]
    | _ => simp [Rule.check, Rule.Admits]
  | properties members =>
    cases j with
    | obj ms =>
      rw [Rule.check, Rule.Admits]
      exact checkMembers_eq_nil_iff _ (.obj ms) members
    | _ =>
      rw [Rule.check, Rule.Admits]
      · exact iff_of_true rfl (admitsMembers_of_no_member (fun _ => rfl) members)
      · intro ms
        exact Json.noConfusion
  | required names =>
    cases j with
    | obj ms =>
      rw [Rule.check, Rule.Admits]
      simp only [List.flatMap_eq_nil_iff, Json.obj.injEq, forall_eq']
      apply forall₂_congr
      intro name _
      cases (Json.obj ms).get? name <;> simp [report_ne_nil]
    | _ => simp [Rule.check, Rule.Admits]
  | type kind =>
    rw [Rule.check, Rule.Admits]
    by_cases h : kind.holds j <;> simp [h, report_ne_nil]

theorem check_eq_nil_iff (place : Place) (j : Json) (schema : List Rule) :
    check place j schema = [] ↔ Admits j schema := by
  cases schema with
  | nil => simp [check, Admits]
  | cons rule rest =>
    rw [check, Admits, List.append_eq_nil_iff, Rule.check_eq_nil_iff place j rule,
      check_eq_nil_iff place j rest]

theorem checkEach_eq_nil_iff (place : Place) (position : Nat) (j : Json)
    (schemas : List (List Rule)) :
    checkEach place position j schemas = [] ↔ AdmitsEach j schemas := by
  cases schemas with
  | nil => simp [checkEach, AdmitsEach]
  | cons schema rest =>
    rw [checkEach, AdmitsEach, List.append_eq_nil_iff, check_eq_nil_iff _ j schema,
      checkEach_eq_nil_iff place (position + 1) j rest]

theorem checkLeading_eq_nil_iff (place : Place) (position : Nat) (items : List Json)
    (schemas : List (List Rule)) :
    checkLeading place position items schemas = [] ↔ AdmitsLeading items schemas := by
  cases schemas with
  | nil => simp [checkLeading, AdmitsLeading]
  | cons schema rest =>
    cases items with
    | nil => simp [checkLeading, AdmitsLeading]
    | cons first others =>
      rw [checkLeading, AdmitsLeading, List.append_eq_nil_iff, check_eq_nil_iff _ first schema,
        checkLeading_eq_nil_iff place (position + 1) others rest]
      simp

theorem checkMembers_eq_nil_iff (place : Place) (j : Json) (members : List (String × List Rule)) :
    checkMembers place j members = [] ↔ AdmitsMembers j members := by
  cases members with
  | nil => simp [checkMembers, AdmitsMembers]
  | cons m rest =>
    obtain ⟨name, schema⟩ := m
    rw [checkMembers, AdmitsMembers, List.append_eq_nil_iff, checkMembers_eq_nil_iff place j rest]
    cases found : j.get? name with
    | none => simp
    | some value => simp [check_eq_nil_iff _ value schema]

end

theorem string_holds_iff (j : Json) : Kind.string.holds j ↔ ∃ s, j = .str s := by
  cases j <;> simp [Kind.holds]

theorem object_holds_iff (j : Json) : Kind.object.holds j ↔ ∃ members, j = .obj members := by
  cases j <;> simp [Kind.holds]

theorem literal_holds_sorted (value : Literal) (j : Json) :
    value.holds j.sorted = value.holds j := by
  cases j with
  | _ => cases value <;> rfl

theorem kind_holds_sorted (kind : Kind) (j : Json) : kind.holds j.sorted = kind.holds j := by
  cases j with
  | _ => cases kind <;> rfl

mutual

theorem Rule.admits_sorted (j : Json) (rule : Rule) : rule.Admits j.sorted ↔ rule.Admits j := by
  cases rule with
  | allOf schemas =>
    rw [Rule.Admits, Rule.Admits]
    exact admitsEach_sorted j schemas
  | const value => rw [Rule.Admits, Rule.Admits, literal_holds_sorted]
  | contains schema =>
    cases j with
    | arr items =>
      simp only [Json.sorted, Json.sortedItems_eq_map, Rule.Admits, Json.arr.injEq, forall_eq',
        List.mem_map, exists_exists_and_eq_and, fun item => admits_sorted item schema]
    | _ => simp [Json.sorted, Rule.Admits]
  | enum values => simp only [Rule.Admits, literal_holds_sorted]
  | items schema =>
    cases j with
    | arr items =>
      simp only [Json.sorted, Json.sortedItems_eq_map, Rule.Admits, Json.arr.injEq, forall_eq',
        List.forall_mem_map, fun item => admits_sorted item schema]
    | _ => simp [Json.sorted, Rule.Admits]
  | minItems count =>
    cases j with
    | arr items => simp [Json.sorted, Json.sortedItems_eq_map, Rule.Admits]
    | _ => simp [Json.sorted, Rule.Admits]
  | minLength count => cases j <;> simp [Json.sorted, Rule.Admits]
  | pattern p => cases j <;> simp [Json.sorted, Rule.Admits]
  | leadingItems schemas =>
    cases j with
    | arr items =>
      simp only [Json.sorted, Json.sortedItems_eq_map, Rule.Admits, Json.arr.injEq, forall_eq']
      exact admitsLeading_sorted items schemas
    | _ => simp [Json.sorted, Rule.Admits]
  | properties members =>
    rw [Rule.Admits, Rule.Admits]
    exact admitsMembers_sorted j members
  | required names =>
    cases j with
    | obj members =>
      have there : ∀ name, (∃ v, (Json.obj members).sorted.get? name = some v)
          ↔ ∃ v, (Json.obj members).get? name = some v := by
        intro name
        simp [Json.get?_sorted]
      rw [Rule.Admits, Rule.Admits]
      simp only [there]
      simp [Json.sorted]
    | _ => simp [Json.sorted, Rule.Admits]
  | type kind => rw [Rule.Admits, Rule.Admits, kind_holds_sorted]

theorem admits_sorted (j : Json) (schema : List Rule) :
    Admits j.sorted schema ↔ Admits j schema := by
  cases schema with
  | nil => rw [Admits, Admits]
  | cons rule rest => rw [Admits, Admits, Rule.admits_sorted j rule, admits_sorted j rest]

theorem admitsEach_sorted (j : Json) (schemas : List (List Rule)) :
    AdmitsEach j.sorted schemas ↔ AdmitsEach j schemas := by
  cases schemas with
  | nil => rw [AdmitsEach, AdmitsEach]
  | cons schema rest =>
    rw [AdmitsEach, AdmitsEach, admits_sorted j schema, admitsEach_sorted j rest]

theorem admitsLeading_sorted (items : List Json) (schemas : List (List Rule)) :
    AdmitsLeading (items.map Json.sorted) schemas ↔ AdmitsLeading items schemas := by
  cases schemas with
  | nil => rw [AdmitsLeading, AdmitsLeading]
  | cons schema rest =>
    cases items with
    | nil => simp [AdmitsLeading]
    | cons first others =>
      have front := admits_sorted first schema
      have back := admitsLeading_sorted others rest
      simp [AdmitsLeading, front, back]

theorem admitsMembers_sorted (j : Json) (members : List (String × List Rule)) :
    AdmitsMembers j.sorted members ↔ AdmitsMembers j members := by
  cases members with
  | nil => rw [AdmitsMembers, AdmitsMembers]
  | cons m rest =>
    obtain ⟨name, schema⟩ := m
    rw [AdmitsMembers, AdmitsMembers, admitsMembers_sorted j rest, Json.get?_sorted]
    cases j.get? name with
    | none => simp
    | some value => simp [admits_sorted value schema]

end

/-- Validation succeeds exactly on the values that satisfy the schema. -/
theorem validate_ok_iff (schema : Named) (j : Json) :
    schema.validate j = .ok () ↔ Admits j schema.rules := by
  rw [← admits_sorted, ← check_eq_nil_iff ⟨"", ""⟩, Named.validate]
  split
  · rename_i clean
    exact iff_of_true rfl clean
  · rename_i broken
    exact iff_of_false (by simp) broken

end Schema

end SelectiveDisclosure
