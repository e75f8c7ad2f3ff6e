import Mathlib.Data.List.Find
import SelectiveDisclosure.Proofs.DisclosedStatements

namespace SelectiveDisclosure

section Companions

variable {α β : Type}

theorem companions_companions {keep keep' : α → Bool} {items : List α} {others : List β}
    (count : items.length = others.length) (fewer : ∀ a, keep' a → keep a) :
    companions keep' (items.filter keep) (companions keep items others)
      = companions keep' items others := by
  rw [companions, zip_companions count, List.filter_filter, companions]
  congr 1
  apply List.filter_congr
  intro e _
  by_cases kept : keep' e.1
  · rw [kept, fewer e.1 kept, Bool.and_self]
  · rw [Bool.eq_false_of_not_eq_true kept, Bool.false_and]

theorem companions_of_all {keep : α → Bool} {items : List α} {others : List β}
    (count : items.length = others.length) (all : ∀ a ∈ items, keep a) :
    companions keep items others = others := by
  have whole : ((items.zip others).filter fun e => keep e.1) = items.zip others := by
    apply List.filter_eq_self.mpr
    intro e there
    exact all e.1 (List.of_mem_zip there).1
  rw [companions, whole, List.map_snd_zip (Nat.le_of_eq count.symm)]

end Companions

namespace VerifiableCredential

theorem reducedSubject_reducedSubject {subject : OrderedMap String Json}
    {first second : List String} (covered : ∀ key ∈ second, discloses first key) :
    reducedSubject (reducedSubject subject first) second = reducedSubject subject second := by
  apply reducedSubject_congr
  intro key seen
  have before : discloses first key := by
    rcases (discloses_iff second key).mp seen with always | there
    · exact (discloses_iff first key).mpr (.inl always)
    · exact covered key there
  rw [get?_reducedSubject, if_pos before]

theorem reducedSubject_of_all {subject : OrderedMap String Json} {whole : List String}
    (all : ∀ key, subject.contains key → key ∈ whole) : reducedSubject subject whole = subject := by
  apply OrderedMap.ext_get?
  intro key
  rw [get?_reducedSubject]
  cases found : subject.get? key with
  | none => rw [ite_self]
  | some j =>
    have there := all key ((OrderedMap.contains_iff _ _).mpr ⟨j, found⟩)
    rw [if_pos ((discloses_iff whole key).mpr (.inr there))]

theorem remains_of_covered {v : String} {subject : OrderedMap String Json}
    {first second : List String} (covered : ∀ key ∈ second, discloses first key)
    {e : Statement × Hash256} (later : remains v (reducedSubject subject second) e) :
    remains v (reducedSubject subject first) e := by
  rw [← reducedSubject_reducedSubject covered] at later
  rw [remains, decide_eq_true_iff] at later ⊢
  exact (Expanded.names_filter_sublist v _ _).subset later

/-- What disclosure comes to once the salts stand beside the statements. It fails only for a key
that is no property, and then for the first one. -/
theorem disclose_eq {c : VerifiableCredential} {p : AttestationProof} {v : String}
    {statements : List (Statement × Hash256)} (named : Expanded.vocabulary? c.subject = some v)
    (made : Commitment.normalizeClaims c.subject = .ok statements)
    (count : statements.length = p.salts.length) (disclosed : List String) :
    c.disclose p disclosed = match disclosed.find? fun key => !c.subject.contains key with
      | some key => .error (.shape (.noSubjectProperty key))
      | none => .ok (c.reduce disclosed
          (derivedProof p v (reducedSubject c.subject disclosed) statements),
        derivedProof p v (reducedSubject c.subject disclosed) statements) := by
  cases absent : disclosed.find? fun key => !c.subject.contains key with
  | none =>
    refine (disclose_ok_iff ..).mpr ⟨?_, v, statements, named, made, count, rfl, rfl⟩
    intro key there
    simpa using List.find?_eq_none.mp absent key there
  | some key =>
    rw [disclose, absent]
    rfl

theorem derivedProof_derivedProof {p : AttestationProof} {v : String}
    {subject : OrderedMap String Json} {statements : List (Statement × Hash256)}
    (count : statements.length = p.salts.length) {first second : List String}
    (covered : ∀ key ∈ second, discloses first key) :
    derivedProof (derivedProof p v (reducedSubject subject first) statements) v
        (reducedSubject subject second)
        (statements.filter (remains v (reducedSubject subject first)))
      = derivedProof p v (reducedSubject subject second) statements := by
  have salts : companions (remains v (reducedSubject subject second))
      (statements.filter (remains v (reducedSubject subject first)))
      (companions (remains v (reducedSubject subject first)) statements p.salts) = _ :=
    companions_companions count fun _ => remains_of_covered covered
  rw [derivedProof, derivedProof, derivedProof]
  exact congrArg (AttestationProof.mk p.proofType p.block p.commitments) salts

theorem reduce_subject (c : VerifiableCredential) (disclosed : List String)
    (p : AttestationProof) : (c.reduce disclosed p).subject = reducedSubject c.subject disclosed :=
  rfl

theorem reduce_reduce (c : VerifiableCredential) {first second : List String}
    (covered : ∀ key ∈ second, discloses first key) (p q : AttestationProof) :
    (c.reduce first p).reduce second q = c.reduce second q := by
  rw [reduce, reduce_subject, reducedSubject_reducedSubject covered, reduce, reduce, Option.map_map]
  rfl

theorem disclose_disclosed {c c₁ : VerifiableCredential} {p p₁ : AttestationProof}
    {first second : List String} (covered : ∀ key ∈ second, discloses first key)
    (shown : c.disclose p first = .ok (c₁, p₁)) :
    c₁.disclose p₁ second = c.disclose p second := by
  obtain ⟨_, v, statements, named, made, count, rfl, rfl⟩ := (disclose_ok_iff ..).mp shown
  have context := (vocabulary?_reducedSubject c.subject first).trans named
  have remaining : Commitment.normalizeClaims (reducedSubject c.subject first)
      = .ok (statements.filter (remains v (reducedSubject c.subject first))) :=
    Commitment.normalizeClaims_filter named made _ context
  have missing : (second.find? fun key => !(reducedSubject c.subject first).contains key)
      = second.find? fun key => !c.subject.contains key := by
    apply List.find?_congr
    intro key there
    rw [OrderedMap.contains, get?_reducedSubject, if_pos (covered key there), OrderedMap.contains]
  rw [disclose_eq named made count, disclose_eq context remaining (length_companions count)]
  simp only [reduce_subject, missing, reducedSubject_reducedSubject covered,
    derivedProof_derivedProof count covered, reduce_reduce c covered]

theorem disclose_of_all {c c' : VerifiableCredential} {p p' : AttestationProof}
    {whole : List String} (all : ∀ key, c.subject.contains key → key ∈ whole)
    (embedded : ∀ inner, c.proof = some inner → inner = p)
    (shown : c.disclose p whole = .ok (c', p')) : c' = c ∧ p' = p := by
  obtain ⟨_, v, statements, named, made, count, rfl, rfl⟩ := (disclose_ok_iff ..).mp shown
  have remain : ∀ e ∈ statements, remains v (reducedSubject c.subject whole) e := by
    intro e there
    obtain ⟨key, source, found⟩ := Commitment.exists_sourceKey named made there
    have contained := all key ((OrderedMap.contains_iff _ _).mpr ⟨_, found⟩)
    rw [remains_eq named made whole there, source, Option.any_some]
    exact (discloses_iff whole key).mpr (.inr contained)
  have same : derivedProof p v (reducedSubject c.subject whole) statements = p := by
    rw [derivedProof, companions_of_all count remain]
  refine ⟨?_, same⟩
  have inside : (c.proof.map fun _ => p) = c.proof := by
    cases own : c.proof with
    | none => rfl
    | some inner => rw [Option.map_some, embedded inner own]
  rw [same, reduce, reducedSubject_of_all all, inside]
  cases c
  rfl

/-- Disclosing in two steps is disclosing at once, whether it succeeds or fails, and disclosing
everything changes nothing. -/
theorem disclosures_compose (c : VerifiableCredential) (p : AttestationProof) :
    (∀ (first second : List String) (c₁ : VerifiableCredential) (p₁ : AttestationProof),
      (∀ key ∈ second, key ∈ first ∨ key ∈ alwaysDisclosed) →
      c.disclose p first = .ok (c₁, p₁) → c₁.disclose p₁ second = c.disclose p second)
    ∧ ∀ (whole : List String) (c' : VerifiableCredential) (p' : AttestationProof),
      (∀ key, c.subject.contains key → key ∈ whole) → (∀ inner, c.proof = some inner → inner = p) →
      c.disclose p whole = .ok (c', p') → c' = c ∧ p' = p := by
  constructor
  · intro first second c₁ p₁ within shown
    refine disclose_disclosed ?_ shown
    intro key there
    exact (discloses_iff first key).mpr (within key there).symm
  · intro whole c' p' all embedded shown
    exact disclose_of_all all embedded shown

def aliasingWith (p : AttestationProof) : VerifiableCredential :=
  { aliasingCredential with proof := some p }

theorem aliased_disclosures_compose : ∃ (p p₁ : AttestationProof) (c c₁ : VerifiableCredential),
    c.subject = aliasingSubject ∧ c.proof = some p ∧ c.disclose p ["d", "x"] = .ok (c₁, p₁)
      ∧ c₁.disclose p₁ ["x", "type"] = c.disclose p ["x", "type"]
      ∧ c₁.disclose p₁ ["x", "id"] = .error (.shape (.noSubjectProperty "id"))
      ∧ c.disclose p ["x", "type", "d", "@context", "x"] = .ok (c, p) := by
  obtain ⟨statements, made⟩ := exists_normalizeClaims_aliasing
  have count : statements.length = (spellingProof statements).salts.length :=
    (List.length_map ..).symm
  have named : Expanded.vocabulary? aliasingSubject = some "@i" := rfl
  have disclosed (keys : List String) (present : ∀ key ∈ keys, aliasingSubject.contains key) :
      ∃ c' p', (aliasingWith (spellingProof statements)).disclose (spellingProof statements) keys
        = .ok (c', p') := exists_disclosed named made keys present
  obtain ⟨_, _, first⟩ := disclosed ["d", "x"] (by decide)
  obtain ⟨_, _, whole⟩ := disclosed ["x", "type", "d", "@context", "x"] (by decide)
  obtain ⟨steps, all⟩ := disclosures_compose (aliasingWith (spellingProof statements)) _
  have every (key : String) (there : aliasingSubject.contains key) :
      key ∈ ["x", "type", "d", "@context", "x"] := by
    have listed := (OrderedMap.mem_keys_iff _ _).mpr ((OrderedMap.contains_iff _ _).mp there)
    exact (by decide : ∀ key ∈ aliasingSubject.keys, key ∈ ["x", "type", "d", "@context", "x"])
      key listed
  obtain ⟨sameCredential, sameProof⟩ :=
    all _ _ _ every (fun _ inside => (Option.some.inj inside).symm) whole
  rw [sameCredential, sameProof] at whole
  refine ⟨_, _, _, _, rfl, rfl, first, steps _ _ _ _ (by decide) first, ?_, whole⟩
  rw [steps _ _ _ _ (by decide) first, disclose_eq named made count]
  rfl

end VerifiableCredential

end SelectiveDisclosure
