import SelectiveDisclosure.Proofs.Acceptance
import SelectiveDisclosure.Proofs.Issuance

namespace SelectiveDisclosure

section Companions

variable {α β γ : Type}

def companions (keep : α → Bool) (items : List α) (others : List β) : List β :=
  ((items.zip others).filter fun e => keep e.1).map (·.2)

theorem companions_cons (keep : α → Bool) (a : α) (items : List α) (b : β) (others : List β) :
    companions keep (a :: items) (b :: others)
      = if keep a then b :: companions keep items others else companions keep items others := by
  by_cases holds : keep a <;> simp [companions, holds]

theorem mem_of_mem_companions {keep : α → Bool} {items : List α} {others : List β} {b : β}
    (there : b ∈ companions keep items others) : b ∈ others := by
  obtain ⟨⟨a, _⟩, member, rfl⟩ := List.mem_map.mp there
  exact (List.of_mem_zip (List.mem_filter.mp member).1).2

theorem kept_of_zip {keep : α → Bool} {items : List α} {others : List β}
    (count : items.length = others.length) :
    ((items.zip others).filter fun e => keep e.1).map (·.1) = items.filter keep := by
  have filtered : ((items.zip others).map (·.1)).filter keep
      = ((items.zip others).filter fun e => keep e.1).map (·.1) := List.filter_map
  rw [← filtered, List.map_fst_zip (Nat.le_of_eq count)]

theorem length_companions {keep : α → Bool} {items : List α} {others : List β}
    (count : items.length = others.length) :
    (items.filter keep).length = (companions keep items others).length := by
  rw [← kept_of_zip count, companions, List.length_map, List.length_map]

theorem zip_companions {keep : α → Bool} {items : List α} {others : List β}
    (count : items.length = others.length) : (items.filter keep).zip (companions keep items others)
      = (items.zip others).filter fun e => keep e.1 :=
  (List.zip_of_prod (kept_of_zip count) rfl).symm

theorem eq_of_zip_unique {items : List α} {as bs : List β}
    (count : items.length = as.length) (count' : items.length = bs.length)
    (unique : ∀ x a b, (x, a) ∈ items.zip as → (x, b) ∈ items.zip bs → a = b) : as = bs := by
  induction items generalizing as bs with
  | nil =>
    rw [List.eq_nil_of_length_eq_zero count.symm, List.eq_nil_of_length_eq_zero count'.symm]
  | cons x items ih =>
    obtain ⟨a, as, rfl⟩ := List.exists_cons_of_length_eq_add_one count.symm
    obtain ⟨b, bs, rfl⟩ := List.exists_cons_of_length_eq_add_one count'.symm
    rw [unique x a b List.mem_cons_self List.mem_cons_self]
    rw [ih (Nat.succ.inj count) (Nat.succ.inj count')]
    intro y a' b' there there'
    exact unique y a' b' (List.mem_cons_of_mem _ there) (List.mem_cons_of_mem _ there')

theorem forall₂_companions {r : β → γ → Prop} (keep : α → Bool) (items : List α) {bs : List β}
    {cs : List γ} (related : List.Forall₂ r bs cs) :
    List.Forall₂ r (companions keep items bs) (companions keep items cs) := by
  induction related generalizing items with
  | nil => simp [companions]
  | cons first rest ih =>
    cases items with
    | nil => simp [companions]
    | cons a items =>
      rw [companions_cons, companions_cons]
      split
      · exact .cons first (ih items)
      · exact ih items

end Companions

namespace VerifiableCredential

/-- Whether a property is shown when some are disclosed: all of these, and those that always are. -/
def discloses (disclosed : List String) (key : String) : Bool :=
  key ∈ alwaysDisclosed || key ∈ disclosed

theorem discloses_iff (disclosed : List String) (key : String) :
    discloses disclosed key ↔ key ∈ alwaysDisclosed ∨ key ∈ disclosed := by
  simp [discloses]

theorem get?_reducedSubject (subject : OrderedMap String Json) (disclosed : List String)
    (key : String) : (reducedSubject subject disclosed).get? key
      = if discloses disclosed key then subject.get? key else none := by
  rw [reducedSubject, OrderedMap.get?_filter]
  cases subject.get? key with
  | none => simp
  | some j => simp [Option.filter_some, discloses]

theorem get?_of_always {subject : OrderedMap String Json} {key : String}
    (always : key ∈ alwaysDisclosed) (disclosed : List String) :
    (reducedSubject subject disclosed).get? key = subject.get? key := by
  rw [get?_reducedSubject, if_pos ((discloses_iff disclosed key).mpr (.inl always))]

theorem vocabulary?_reducedSubject (subject : OrderedMap String Json) (disclosed : List String) :
    Expanded.vocabulary? (reducedSubject subject disclosed) = Expanded.vocabulary? subject := by
  rw [Expanded.vocabulary?, Expanded.vocabulary?, get?_of_always (by decide)]

def remains (vocabulary : String) (reduced : OrderedMap String Json) (e : Statement × Hash256) :
    Bool :=
  e.1.key ∈ Expanded.names vocabulary reduced.entries

theorem keptSalts_eq (vocabulary : String) (reduced : OrderedMap String Json)
    (statements : List (Statement × Hash256)) (salts : List String) :
    keptSalts vocabulary reduced statements salts
      = companions (remains vocabulary reduced) statements salts := by
  rw [keptSalts, OrderedMap.keys, List.filterMap_map]
  rfl

def derivedProof (p : AttestationProof) (vocabulary : String) (reduced : OrderedMap String Json)
    (statements : List (Statement × Hash256)) : AttestationProof :=
  { p with salts := companions (remains vocabulary reduced) statements p.salts }

def reduce (c : VerifiableCredential) (disclosed : List String) (p : AttestationProof) :
    VerifiableCredential :=
  { c with subject := reducedSubject c.subject disclosed, proof := c.proof.map fun _ => p }

theorem disclose_ok_iff (c c' : VerifiableCredential) (p p' : AttestationProof)
    (disclosed : List String) : c.disclose p disclosed = .ok (c', p')
      ↔ (∀ key ∈ disclosed, c.subject.contains key) ∧ ∃ v statements,
        Expanded.vocabulary? c.subject = some v
        ∧ Commitment.normalizeClaims c.subject = .ok statements
        ∧ statements.length = p.salts.length
        ∧ p' = derivedProof p v (reducedSubject c.subject disclosed) statements
        ∧ c' = c.reduce disclosed p' := by
  rw [disclose]
  cases absent : disclosed.find? fun key => !c.subject.contains key with
  | none =>
    have present : ∀ key ∈ disclosed, c.subject.contains key := by
      intro key there
      simpa using List.find?_eq_none.mp absent key there
    simp only [Outcome.bind_ok_iff, Outcome.refuse_ok_iff, Outcome.pure_ok_iff, not_not,
      Outcome.mapError_ok_iff, Expanded.vocabulary_ok_iff, normalizedClaims_ok_iff, keptSalts_eq,
      Prod.mk.injEq]
    constructor
    · rintro ⟨v, named, statements, made, count, rfl, rfl⟩
      exact ⟨present, v, statements, named, made, count, rfl, rfl⟩
    · rintro ⟨_, v, statements, named, made, count, rfl, rfl⟩
      exact ⟨v, named, statements, made, count, rfl, rfl⟩
  | some key =>
    have missing : ¬ ∀ key ∈ disclosed, c.subject.contains key := by
      intro present
      have contained := present key (List.mem_of_find?_eq_some absent)
      simpa [contained] using List.find?_some absent
    simp [missing, Outcome.bind_ok_iff, Outcome.throw_not_ok]

end VerifiableCredential

def Opening.reduce (o : Opening) (keep : Statement × Hash256 → Bool) : Opening where
  statements := o.statements.filter keep
  salts := companions keep o.statements o.salts
  commitments := o.commitments

namespace AttestationProof

theorem wellShaped_derivedProof {p : AttestationProof} (shaped : p.WellShaped) (v : String)
    (reduced : OrderedMap String Json) (statements : List (Statement × Hash256)) :
    (VerifiableCredential.derivedProof p v reduced statements).WellShaped where
  proofType := shaped.proofType
  commitments := shaped.commitments
  salts := by
    intro text there
    exact shaped.salts text (mem_of_mem_companions there)

end AttestationProof

namespace VerifiableCredential

theorem wellShaped_reduce {c : VerifiableCredential} (shaped : c.WellShaped)
    (disclosed : List String) (p : AttestationProof) : (c.reduce disclosed p).WellShaped where
  contexts := shaped.contexts
  types := shaped.types
  vocabulary := by
    rw [reduce, vocabulary?_reducedSubject]
    exact shaped.vocabulary
  identity := by
    rw [reduce, get?_of_always (by decide)]
    exact shaped.identity
  schemaType := shaped.schemaType
  statusType := shaped.statusType
  nonTransferable := shaped.nonTransferable

theorem consistent_reduce {c : VerifiableCredential} {p : AttestationProof} {o : Opening}
    {root : Hash256} (consistent : Consistent c p o root) {v : String}
    (named : Expanded.vocabulary? c.subject = some v) (disclosed : List String) :
    Consistent
      (c.reduce disclosed (derivedProof p v (reducedSubject c.subject disclosed) o.statements))
      (derivedProof p v (reducedSubject c.subject disclosed) o.statements)
      (o.reduce (remains v (reducedSubject c.subject disclosed))) root := by
  have shaped := AttestationProof.wellShaped_derivedProof
    ((AttestationProof.proof_admitted_iff p).mp consistent.proofShape) v
    (reducedSubject c.subject disclosed) o.statements
  have saltCount : o.statements.length = o.salts.length :=
    consistent.count.trans consistent.salts.length_eq
  exact {
    proofShape := (AttestationProof.proof_admitted_iff _).mpr shaped
    shape := (credential_admitted_iff _).mpr
      (wellShaped_reduce ((credential_admitted_iff c).mp consistent.shape) disclosed _)
    innerShape := by
      intro inner there
      obtain ⟨_, _, rfl⟩ := Option.map_eq_some_iff.mp there
      exact (AttestationProof.proof_admitted_iff _).mpr shaped
    statements := by
      have context := (vocabulary?_reducedSubject c.subject disclosed).trans named
      exact Commitment.normalizeClaims_filter named consistent.statements _ context
    count := length_companions consistent.count
    salts := forall₂_companions _ o.statements consistent.salts
    commitments := consistent.commitments
    opened := by
      rw [← opened_iff, Opening.reduce, zip_companions saltCount]
      intro e there
      exact (opened_iff o).mpr consistent.opened e (List.mem_of_mem_filter there)
    identity := consistent.identity
    binding := consistent.binding }

/-- Disclosing some properties succeeds, and leads to the report that the whole credential leads
to. -/
theorem verify_disclosed (l : Ledger) (c : VerifiableCredential) (p : AttestationProof) (r : Report)
    (verified : verify l c p = .ok r) (disclosed : List String)
    (present : ∀ key ∈ disclosed, c.subject.contains key) :
    ∃ c' p', c.disclose p disclosed = .ok (c', p') ∧ verify l c' p' = .ok r := by
  obtain ⟨available, a, o, trust, consistent, attested, resolved, rfl⟩ :=
    (verify_halves_iff l c p r).mp verified
  obtain ⟨v, named⟩ := ((credential_admitted_iff c).mp consistent.shape).vocabulary
  refine ⟨_, _, (disclose_ok_iff ..).mpr
    ⟨present, v, o.statements, named, consistent.statements, consistent.count, rfl, rfl⟩, ?_⟩
  exact (verify_halves_iff ..).mpr ⟨available, a, _, trust,
    consistent_reduce consistent named disclosed, { attested with }, resolved, rfl⟩

theorem sample_without_name_accepted : ∃ l c p r c' p', verify l c p = .ok r
    ∧ c.disclose p ["id", "id"] = .ok (c', p') ∧ verify l c' p' = .ok r := by
  obtain ⟨statements, made⟩ := CredentialInput.exists_normalizeClaims
    (CredentialInput.sampleClaims_unreserved [] none)
  obtain ⟨l, r, verified⟩ := CredentialInput.verify_unbacked rfl rfl made (fun _ => 0)
    (CredentialInput.sample_dated 4) rfl
  obtain ⟨c', p', disclosed, again⟩ := verify_disclosed l _ _ r verified ["id", "id"] (by
    intro key there
    obtain rfl : key = "id" := by simpa using there
    exact (OrderedMap.contains_iff _ _).mpr ⟨_, CredentialInput.get?_credentialSubject_id _⟩)
  exact ⟨l, _, _, r, c', p', verified, disclosed, again⟩

end VerifiableCredential

end SelectiveDisclosure
