import SelectiveDisclosure.Proofs.ProofBinding

/-!
What a selection of properties leaves of a credential. Every statement comes from one key of the
subject, and it remains, beside the salt it had, exactly when that key is shown. What is left out
leaves no trace: two holders who show the same properties with the same salts show the same subject
and the same salts, whatever else their subjects hold.
-/

namespace SelectiveDisclosure

namespace Expanded

/-- The key that a statement of a subject comes from. -/
def sourceKey? (vocabulary : String) (subject : OrderedMap String Json) (s : Statement) :
    Option String :=
  subject.keys.find? fun key => fullName? vocabulary key = some s.key

theorem sourceKey?_eq_some_iff {v : String} {subject : OrderedMap String Json}
    (distinct : (names v subject.entries).Nodup) (s : Statement) (key : String) :
    sourceKey? v subject s = some key
      ↔ key ∈ subject.keys ∧ fullName? v key = some s.key := by
  constructor
  · intro found
    exact ⟨List.mem_of_find?_eq_some found, by simpa using List.find?_some found⟩
  · rintro ⟨there, named⟩
    cases found : sourceKey? v subject s with
    | none =>
      have unnamed := List.find?_eq_none.mp found key there
      simp [named] at unnamed
    | some first =>
      have firstNamed : fullName? v first = some s.key := by simpa using List.find?_some found
      obtain ⟨a, ha, rfl⟩ := List.mem_map.mp (List.mem_of_find?_eq_some found)
      obtain ⟨b, hb, rfl⟩ := List.mem_map.mp there
      rw [entry_of_name distinct ha hb firstNamed named]

end Expanded

namespace Commitment

variable {subject : OrderedMap String Json} {v : String} {statements : List (Statement × Hash256)}

theorem nodup_names_of_normalized (named : Expanded.vocabulary? subject = some v)
    (made : normalizeClaims subject = .ok statements) :
    (Expanded.names v subject.entries).Nodup := by
  obtain ⟨_, expansion, _⟩ := (normalizeClaims_ok_iff _ _).mp made
  obtain ⟨v', named', distinct, _⟩ := (Expanded.ofSubject_ok_iff _ _).mp expansion
  rwa [Option.some.inj (named.symm.trans named')]

theorem exists_sourceKey (named : Expanded.vocabulary? subject = some v)
    (made : normalizeClaims subject = .ok statements) {e : Statement × Hash256}
    (there : e ∈ statements) : ∃ key, Expanded.sourceKey? v subject e.1 = some key
      ∧ subject.get? key = some e.1.value := by
  have distinct := nodup_names_of_normalized named made
  obtain ⟨expanded, expansion, rfl⟩ := (normalizeClaims_ok_iff _ _).mp made
  obtain ⟨v', named', _, rfl⟩ := (Expanded.ofSubject_ok_iff _ _).mp expansion
  obtain rfl : v = v' := Option.some.inj (named.symm.trans named')
  obtain ⟨s, said, rfl⟩ := List.mem_map.mp (List.mem_mergeSort.mp there)
  have property := OrderedMap.mem_of_get?_ofList ((Expanded.mem_statements_iff _ s).mp said)
  obtain ⟨⟨key, value⟩, entry, whole⟩ := List.mem_filterMap.mp property
  obtain ⟨name, full, same⟩ := Option.map_eq_some_iff.mp whole
  obtain ⟨rfl, rfl⟩ := Prod.mk.inj same
  exact ⟨key, (Expanded.sourceKey?_eq_some_iff distinct s key).mpr
    ⟨List.mem_map.mpr ⟨_, entry, rfl⟩, full⟩, (OrderedMap.get?_eq_some_iff _).mpr entry⟩

end Commitment

namespace VerifiableCredential

theorem remains_eq {subject : OrderedMap String Json} {v : String}
    {statements : List (Statement × Hash256)} (named : Expanded.vocabulary? subject = some v)
    (made : Commitment.normalizeClaims subject = .ok statements) (disclosed : List String)
    {e : Statement × Hash256} (there : e ∈ statements) :
    remains v (reducedSubject subject disclosed) e
      = (Expanded.sourceKey? v subject e.1).any (discloses disclosed) := by
  have distinct := Commitment.nodup_names_of_normalized named made
  obtain ⟨key, source, found⟩ := Commitment.exists_sourceKey named made there
  have full := ((Expanded.sourceKey?_eq_some_iff distinct e.1 key).mp source).2
  rw [source, Option.any_some, Bool.eq_iff_iff, remains, decide_eq_true_iff, Expanded.names,
    List.mem_filterMap]
  constructor
  · rintro ⟨⟨other, value⟩, left, fullOther⟩
    obtain ⟨member, kept⟩ := List.mem_filter.mp left
    have sourceOther := (Expanded.sourceKey?_eq_some_iff distinct e.1 other).mpr
      ⟨List.mem_map.mpr ⟨_, member, rfl⟩, fullOther⟩
    rwa [Option.some.inj (source.symm.trans sourceOther)]
  · intro kept
    exact ⟨(key, e.1.value),
      List.mem_filter.mpr ⟨(OrderedMap.get?_eq_some_iff _).mp found, kept⟩, full⟩

theorem exists_remaining {c c' : VerifiableCredential} {p p' : AttestationProof}
    {disclosed : List String} (shown : c.disclose p disclosed = .ok (c', p')) :
    ∃ v statements remaining, Expanded.vocabulary? c.subject = some v
      ∧ Commitment.normalizeClaims c.subject = .ok statements
      ∧ statements.length = p.salts.length
      ∧ Commitment.normalizeClaims c'.subject = .ok remaining
      ∧ remaining.length = p'.salts.length
      ∧ remaining.zip p'.salts = (statements.zip p.salts).filter fun e =>
        (Expanded.sourceKey? v c.subject e.1.1).any (discloses disclosed) := by
  obtain ⟨_, v, statements, named, made, count, rfl, rfl⟩ := (disclose_ok_iff ..).mp shown
  have context := (vocabulary?_reducedSubject c.subject disclosed).trans named
  refine ⟨v, statements, _, named, made, count,
    Commitment.normalizeClaims_filter named made _ context, length_companions count, ?_⟩
  refine (zip_companions count).trans (List.filter_congr ?_)
  intro e there
  exact remains_eq named made disclosed (List.of_mem_zip there).1

/-- Disclosure keeps the salts beside their statements. The statements that remain, with their
salts, are those whose keys are shown, in the order they had; the subject has exactly the
properties that are shown; and nothing else changes, but for the proof inside the credential. -/
theorem salts_beside_statements (c c' : VerifiableCredential) (p p' : AttestationProof)
    (disclosed : List String) (shown : c.disclose p disclosed = .ok (c', p')) :
    (∃ v statements remaining, Expanded.vocabulary? c.subject = some v
      ∧ Commitment.normalizeClaims c.subject = .ok statements
      ∧ Commitment.normalizeClaims c'.subject = .ok remaining
      ∧ remaining.length = p'.salts.length
      ∧ (∀ e ∈ statements, ∃ key, Expanded.sourceKey? v c.subject e.1 = some key
        ∧ c.subject.get? key = some e.1.value)
      ∧ remaining.zip p'.salts = (statements.zip p.salts).filter fun e =>
        (Expanded.sourceKey? v c.subject e.1.1).any (discloses disclosed))
    ∧ (∀ key, c'.subject.get? key
      = if discloses disclosed key then c.subject.get? key else none)
    ∧ p' = { p with salts := p'.salts }
    ∧ c' = { c with subject := c'.subject, proof := c.proof.map fun _ => p' } := by
  obtain ⟨v, statements, remaining, named, made, _, madeOfRest, count, zipped⟩ :=
    exists_remaining shown
  obtain ⟨_, _, _, _, _, _, rfl, rfl⟩ := (disclose_ok_iff ..).mp shown
  refine ⟨⟨v, statements, remaining, named, made, madeOfRest, count, ?_, zipped⟩, ?_, rfl, rfl⟩
  · intro e there
    exact Commitment.exists_sourceKey named made there
  · intro key
    rw [reduce, get?_reducedSubject]

def spellingProof (statements : List (Statement × Hash256)) : AttestationProof where
  proofType := AttestationProof.typeName
  block := ""
  commitments := []
  salts := statements.map (·.1.key)

theorem salt_of_spellingProof {statements : List (Statement × Hash256)} {s : Statement}
    {digest : Hash256} {salt : String}
    (beside : ((s, digest), salt) ∈ statements.zip (spellingProof statements).salts) :
    salt = s.key := by
  obtain ⟨_, atStatement, atSalt⟩ := mem_zip_iff.mp beside
  rw [spellingProof, List.getElem?_map, atStatement] at atSalt
  exact (Option.some.inj atSalt).symm

theorem exists_disclosed {c : VerifiableCredential} {v : String}
    {statements : List (Statement × Hash256)} (named : Expanded.vocabulary? c.subject = some v)
    (made : Commitment.normalizeClaims c.subject = .ok statements) (disclosed : List String)
    (present : ∀ key ∈ disclosed, c.subject.contains key) :
    ∃ c' p', c.disclose (spellingProof statements) disclosed = .ok (c', p') :=
  ⟨_, _, (disclose_ok_iff ..).mpr
    ⟨present, v, statements, named, made, (List.length_map ..).symm, rfl, rfl⟩⟩

/-- A subject whose vocabulary makes the name of an identity out of another key. -/
def aliasingSubject : OrderedMap String Json := OrderedMap.ofList [
  ("@context", .obj [("@vocab", .str "@i")]),
  ("d", .str "did:kilt:holder"),
  ("type", .str "Person"),
  ("x", .int 1)]

def aliasingCredential : VerifiableCredential :=
  { (CredentialInput.sample .empty [] none).credential [] with subject := aliasingSubject }

theorem exists_normalizeClaims_aliasing :
    ∃ statements, Commitment.normalizeClaims aliasingSubject = .ok statements :=
  ⟨_, (Commitment.normalizeClaims_ok_iff _ _).mpr ⟨_, (Expanded.ofSubject_ok_iff _ _).mpr
    ⟨"@i", rfl, by decide, rfl⟩, rfl⟩⟩

theorem aliased_identity_left_out : ∃ (p p' : AttestationProof) (c' : VerifiableCredential)
    (remaining : List (Statement × Hash256)),
    aliasingCredential.disclose p ["x"] = .ok (c', p')
      ∧ Commitment.normalizeClaims c'.subject = .ok remaining
      ∧ p'.salts = remaining.map (·.1.key)
      ∧ c'.subject.get? "d" = none ∧ c'.subject.get? "type" = some (.str "Person") := by
  obtain ⟨statements, made⟩ := exists_normalizeClaims_aliasing
  obtain ⟨c', p', shown⟩ :=
    exists_disclosed (c := aliasingCredential) (v := "@i") rfl made ["x"] (by decide)
  obtain ⟨⟨_, _, remaining, _, again, rest, count, _, zipped⟩, properties, _⟩ :=
    salts_beside_statements _ _ _ _ _ shown
  obtain rfl := Except.ok.inj (made.symm.trans again)
  refine ⟨_, p', c', remaining, shown, rest, ?_, properties "d", properties "type"⟩
  refine eq_of_zip_unique count (List.length_map ..).symm ?_
  rintro ⟨s, digest⟩ salt name there spelled
  rw [zipped] at there
  have beside := salt_of_spellingProof (List.mem_of_mem_filter there)
  exact beside.trans (salt_of_spellingProof spelled).symm

def States (c : VerifiableCredential) (s : Statement) : Prop :=
  ∃ statements, Commitment.normalizeClaims c.subject = .ok statements ∧ (s, s.digest) ∈ statements

/-- The salt of a statement has the place among the salts that its digest has among the digests. -/
def SaltOf (c : VerifiableCredential) (p : AttestationProof) (s : Statement) (salt : String) :
    Prop :=
  ∃ (statements : List (Statement × Hash256)) (i : Nat),
    Commitment.normalizeClaims c.subject = .ok statements ∧ statements[i]? = some (s, s.digest)
      ∧ p.salts[i]? = some salt

theorem saltOf_of_mem_zip {c : VerifiableCredential} {p : AttestationProof}
    {statements : List (Statement × Hash256)}
    (made : Commitment.normalizeClaims c.subject = .ok statements) {s : Statement}
    {digest : Hash256} {salt : String} (there : ((s, digest), salt) ∈ statements.zip p.salts) :
    SaltOf c p s salt := by
  obtain rfl := Commitment.digest_of_normalized made (List.of_mem_zip there).1
  obtain ⟨i, atStatement, atSalt⟩ := mem_zip_iff.mp there
  exact ⟨statements, i, made, atStatement, atSalt⟩

theorem saltOf_spellingProof {c : VerifiableCredential} {statements : List (Statement × Hash256)}
    (made : Commitment.normalizeClaims c.subject = .ok statements) {s : Statement} {salt : String}
    (salted : SaltOf c (spellingProof statements) s salt) : salt = s.key := by
  obtain ⟨_, i, again, atStatement, atSalt⟩ := salted
  obtain rfl := Except.ok.inj (made.symm.trans again)
  exact salt_of_spellingProof (mem_zip_iff.mpr ⟨i, atStatement, atSalt⟩)

theorem reducedSubject_congr {first second : OrderedMap String Json} {disclosed : List String}
    (visible : ∀ key, discloses disclosed key → first.get? key = second.get? key) :
    reducedSubject first disclosed = reducedSubject second disclosed := by
  apply OrderedMap.ext_get?
  intro key
  rw [get?_reducedSubject, get?_reducedSubject]
  by_cases seen : discloses disclosed key
  · rw [if_pos seen, if_pos seen, visible key seen]
  · rw [if_neg seen, if_neg seen]

theorem subject_of_shown {c c' : VerifiableCredential} {p p' : AttestationProof}
    {disclosed : List String} (shown : c.disclose p disclosed = .ok (c', p')) :
    c'.subject = reducedSubject c.subject disclosed := by
  obtain ⟨_, _, _, _, _, _, _, rfl⟩ := (disclose_ok_iff ..).mp shown
  rfl

/-- What is hidden does not show. If two subjects agree on what is always shown and on what is
disclosed, and what remains has the same salts in both proofs, then the same subject and the same
salts are shown, and everything else that is shown belongs to the credential and its proof and not
to the subject or the salts. -/
theorem hidden_properties_leave_no_trace (c₁ c₂ c₁' c₂' : VerifiableCredential)
    (p₁ p₂ p₁' p₂' : AttestationProof) (disclosed : List String)
    (shown₁ : c₁.disclose p₁ disclosed = .ok (c₁', p₁'))
    (shown₂ : c₂.disclose p₂ disclosed = .ok (c₂', p₂'))
    (visible : ∀ key, key ∈ alwaysDisclosed ∨ key ∈ disclosed →
      c₁.subject.get? key = c₂.subject.get? key)
    (salted : ∀ s salt₁ salt₂, States c₁' s → SaltOf c₁ p₁ s salt₁ → SaltOf c₂ p₂ s salt₂ →
      salt₁ = salt₂) :
    c₁'.subject = c₂'.subject ∧ p₁'.salts = p₂'.salts
    ∧ p₁' = { p₁ with salts := p₂'.salts }
    ∧ c₁' = { c₁ with subject := c₂'.subject, proof := c₁.proof.map fun _ => p₁' } := by
  have subjects : c₁'.subject = c₂'.subject := by
    rw [subject_of_shown shown₁, subject_of_shown shown₂]
    apply reducedSubject_congr
    intro key seen
    exact visible key ((discloses_iff disclosed key).mp seen)
  obtain ⟨_, statements₁, remaining, _, made₁, _, rest₁, count₁, zipped₁⟩ :=
    exists_remaining shown₁
  obtain ⟨_, statements₂, remaining', _, made₂, _, rest₂, count₂, zipped₂⟩ :=
    exists_remaining shown₂
  obtain rfl : remaining = remaining' := by
    rw [subjects] at rest₁
    exact Except.ok.inj (rest₁.symm.trans rest₂)
  have salts : p₁'.salts = p₂'.salts := by
    refine eq_of_zip_unique count₁ count₂ ?_
    rintro ⟨s, digest⟩ salt₁ salt₂ there₁ there₂
    have stated : States c₁' s := by
      have member := (List.of_mem_zip there₁).1
      rw [Commitment.digest_of_normalized rest₁ member] at member
      exact ⟨remaining, rest₁, member⟩
    rw [zipped₁] at there₁
    rw [zipped₂] at there₂
    exact salted s salt₁ salt₂ stated (saltOf_of_mem_zip made₁ (List.mem_of_mem_filter there₁))
      (saltOf_of_mem_zip made₂ (List.mem_of_mem_filter there₂))
  refine ⟨subjects, salts, ?_⟩
  rw [← subjects, ← salts]
  obtain ⟨_, _, _, _, _, _, rfl, rfl⟩ := (disclose_ok_iff ..).mp shown₁
  exact ⟨rfl, rfl⟩

def privateClaims : OrderedMap String Json := OrderedMap.ofList [
  ("age", .int 36), ("city", .str "London"), ("name", .str "Ada")]

theorem name_shown_alike : ∃ c₁ c₂ p₁ p₂ c₁' c₂' p₁' p₂',
    disclose c₁ p₁ ["name"] = .ok (c₁', p₁') ∧ disclose c₂ p₂ ["name"] = .ok (c₂', p₂')
      ∧ c₁.subject.size = c₂.subject.size + 2
      ∧ c₁'.subject = c₂'.subject ∧ p₁'.salts = p₂'.salts := by
  have unreserved : (CredentialInput.sample privateClaims [] none).Unreserved := by
    show ∀ key ∈ privateClaims.keys, key ∉ CredentialInput.reservedKeys
    decide
  obtain ⟨statements₁, made₁⟩ := CredentialInput.exists_normalizeClaims unreserved
  obtain ⟨statements₂, made₂⟩ := CredentialInput.exists_normalizeClaims
    (CredentialInput.sampleClaims_unreserved [] none)
  obtain ⟨c₁', p₁', shown₁⟩ := exists_disclosed
    (c := (CredentialInput.sample privateClaims [] none).credential [])
    (CredentialInput.vocabulary?_credentialSubject _) made₁ ["name"] (by decide)
  obtain ⟨c₂', p₂', shown₂⟩ := exists_disclosed
    (c := (CredentialInput.sample CredentialInput.sampleClaims [] none).credential [])
    (CredentialInput.vocabulary?_credentialSubject _) made₂ ["name"] (by decide)
  have visible (key : String) (seen : key ∈ alwaysDisclosed ∨ key ∈ ["name"]) :
      (CredentialInput.sample privateClaims [] none).credentialSubject.get? key
        = (CredentialInput.sample CredentialInput.sampleClaims [] none).credentialSubject.get? key
      := by
    simp only [alwaysDisclosed, List.mem_cons, List.not_mem_nil, or_false] at seen
    rcases seen with (rfl | rfl | rfl | rfl | rfl) | rfl <;> rfl
  obtain ⟨subjects, salts, _⟩ := hidden_properties_leave_no_trace _ _ _ _ _ _ _ _ _ shown₁ shown₂
    visible fun _ _ _ _ salted₁ salted₂ =>
      (saltOf_spellingProof made₁ salted₁).trans (saltOf_spellingProof made₂ salted₂).symm
  exact ⟨_, _, _, _, _, _, _, _, shown₁, shown₂, rfl, subjects, salts⟩

end VerifiableCredential

end SelectiveDisclosure
