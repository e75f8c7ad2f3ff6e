import SelectiveDisclosure.Proofs.Disclosure

/-!
The vocabulary of what holders present. A credential keeps the vocabulary of its claim type through
issuance and disclosure. Verification itself never compares the two: all it sees of a subject are
the identity and the properties under their full names, so a name can be cut into vocabulary and
key at another place.
-/

namespace SelectiveDisclosure

open VerifiableCredential

/-- Credentials and proofs that come from an input: the issued pair, and every pair made from one of
these by disclosing less. -/
inductive CredentialInput.Presented (input : CredentialInput) :
    VerifiableCredential → AttestationProof → Prop where
  | issued {c vc : VerifiableCredential} {random : Nat → UInt8} {inclusion : Inclusion}
      {initialized proof : AttestationProof} {request : AttestationRequest}
      (built : input.toCredential = .ok c)
      (begun : c.initializeProof random = .ok (initialized, request))
      (ended : c.finalizeProof initialized inclusion = .ok (vc, proof)) :
      Presented input vc proof
  | disclosed {c c' : VerifiableCredential} {p p' : AttestationProof} {keys : List String}
      (before : Presented input c p) (shown : c.disclose p keys = .ok (c', p')) :
      Presented input c' p'

/-- What holders can show of an issued pair: the pair itself, and less of what was shown before. -/
inductive ShownOf (vc : VerifiableCredential) (q : AttestationProof) :
    VerifiableCredential → AttestationProof → Prop where
  | issued : ShownOf vc q vc q
  | disclosed {c c' : VerifiableCredential} {p p' : AttestationProof} {keys : List String}
      (before : ShownOf vc q c p) (shown : c.disclose p keys = .ok (c', p')) : ShownOf vc q c' p'

namespace Opening

/-- Fewer statements than in another opening, each with the salt that it has there, and the same
commitments. -/
structure Within (o whole : Opening) : Prop where
  pairs : ∀ e ∈ o.statements.zip o.salts, e ∈ whole.statements.zip whole.salts
  commitments : o.commitments = whole.commitments

theorem Within.reduce {o whole : Opening} (within : o.Within whole)
    (count : o.statements.length = o.salts.length) (keep : Statement × Hash256 → Bool) :
    (o.reduce keep).Within whole where
  pairs := by
    rw [Opening.reduce, zip_companions count]
    intro e there
    exact within.pairs e (List.mem_of_mem_filter there)
  commitments := within.commitments

end Opening

structure VerifiableCredential.Typed (c : VerifiableCredential) (input : CredentialInput) : Prop
    where
  schema : c.schema.id = ⟨input.ctypeHash⟩
  vocabulary : Expanded.vocabulary? c.subject = some (CTypeId.mk input.ctypeHash).vocabulary

namespace VerifiableCredential

/-- What a holder shows still agrees with its proof, and opens a part of what was issued. -/
theorem within_of_shown {vc c : VerifiableCredential} {q p : AttestationProof} {whole : Opening}
    {root : Hash256} (consistent : Consistent vc q whole root) (shown : ShownOf vc q c p) :
    ∃ o, Consistent c p o root ∧ o.Within whole ∧ c.trustModel = vc.trustModel := by
  induction shown with
  | issued => exact ⟨whole, consistent, ⟨fun _ there => there, rfl⟩, rfl⟩
  | disclosed _ shown ih =>
    obtain ⟨o, before, within, model⟩ := ih
    obtain ⟨_, v, statements, named, made, _, rfl, rfl⟩ := (disclose_ok_iff ..).mp shown
    obtain rfl := Except.ok.inj (before.statements.symm.trans made)
    exact ⟨_, consistent_reduce before named _,
      within.reduce (before.count.trans before.salts.length_eq) _, model⟩

theorem typed_of_built {input : CredentialInput} {c : VerifiableCredential}
    (built : input.toCredential = .ok c) : c.Typed input := by
  obtain ⟨_, entries, _, rfl⟩ := (CredentialInput.toCredential_ok_iff input c).mp built
  exact ⟨rfl, input.vocabulary?_credentialSubject⟩

theorem Typed.finalize {input : CredentialInput} {c vc : VerifiableCredential}
    (typed : c.Typed input) {p q : AttestationProof} {inclusion : Inclusion}
    (ended : c.finalizeProof p inclusion = .ok (vc, q)) : vc.Typed input := by
  obtain ⟨_, _, _, _, _, rfl⟩ := (finalizeProof_ok_iff ..).mp ended
  exact ⟨typed.schema, typed.vocabulary⟩

theorem Typed.disclose {input : CredentialInput} {c c' : VerifiableCredential}
    (typed : c.Typed input) {p p' : AttestationProof} {keys : List String}
    (shown : c.disclose p keys = .ok (c', p')) : c'.Typed input := by
  obtain ⟨_, _, _, _, _, _, _, rfl⟩ := (disclose_ok_iff ..).mp shown
  exact ⟨typed.schema, (vocabulary?_reducedSubject c.subject keys).trans typed.vocabulary⟩

theorem typed_of_presented {input : CredentialInput} {c : VerifiableCredential}
    {p : AttestationProof} (presented : input.Presented c p) : c.Typed input := by
  induction presented with
  | issued built _ ended => exact (typed_of_built built).finalize ended
  | disclosed _ shown ih => exact ih.disclose shown

theorem consistent_of_same_expansion {c : VerifiableCredential} {p : AttestationProof}
    {o : Opening} {root : Hash256} (consistent : Consistent c p o root)
    {subject : OrderedMap String Json} (identity : subject.get? "id" = c.subject.get? "id")
    (expansion : Expanded.ofSubject subject = Expanded.ofSubject c.subject) :
    Consistent { c with subject } p o root := by
  have shaped := (credential_admitted_iff c).mp consistent.shape
  have statements : Commitment.normalizeClaims subject = .ok o.statements := by
    rw [← consistent.statements, Commitment.normalizeClaims, expansion]
    rfl
  obtain ⟨_, expanded, _⟩ := (Commitment.normalizeClaims_ok_iff _ _).mp statements
  obtain ⟨v, named, _⟩ := (Expanded.ofSubject_ok_iff _ _).mp expanded
  exact { consistent with
    shape := (credential_admitted_iff _).mpr { shaped with
      vocabulary := ⟨v, named⟩
      identity := by
        rw [identity]
        exact shaped.identity }
    statements }

theorem verify_of_same_expansion {l : Ledger} {c : VerifiableCredential} {p : AttestationProof}
    {r : Report} (verified : verify l c p = .ok r) {subject : OrderedMap String Json}
    (identity : subject.get? "id" = c.subject.get? "id")
    (expansion : Expanded.ofSubject subject = Expanded.ofSubject c.subject) :
    verify l { c with subject } p = .ok r := by
  obtain ⟨available, a, o, trust, consistent, attested, resolved, rfl⟩ :=
    (verify_halves_iff l c p r).mp verified
  exact (verify_halves_iff ..).mpr ⟨available, a, o, trust,
    consistent_of_same_expansion consistent identity expansion, { attested with }, resolved, rfl⟩

theorem ctypeId_of_verified {l : Ledger} {c : VerifiableCredential} {p : AttestationProof}
    {r : Report} (verified : verify l c p = .ok r) : r.ctypeId = c.schema.id := by
  obtain ⟨_, _, _, _, _, _, _, rfl⟩ := (verify_halves_iff l c p r).mp verified
  rfl

/-- An accepted credential that was issued, and reduced any number of times, has the vocabulary of
the claim type that is reported. For any accepted credential the vocabulary is free as long as the
full names stay: another subject with the same expansion leads to the same report. -/
theorem vocabulary_of_accepted (l : Ledger) (c : VerifiableCredential) (p : AttestationProof)
    (r : Report) (verified : verify l c p = .ok r) :
    (∀ input q, CredentialInput.Presented input c q →
      Expanded.vocabulary? c.subject = some r.ctypeId.vocabulary)
    ∧ ∀ subject : OrderedMap String Json, subject.get? "id" = c.subject.get? "id" →
      Expanded.ofSubject subject = Expanded.ofSubject c.subject →
      verify l { c with subject } p = .ok r := by
  constructor
  · intro input q presented
    have typed := typed_of_presented presented
    rw [ctypeId_of_verified verified, typed.schema]
    exact typed.vocabulary
  · intro subject identity expansion
    exact verify_of_same_expansion verified identity expansion

section Sample

open CredentialInput

def sampleVocabulary : String :=
  (CTypeId.mk (sample sampleClaims [] none).ctypeHash).vocabulary

def recutSubject : OrderedMap String Json := OrderedMap.ofList [
  ("@context", .obj [("@vocab", .str (sampleVocabulary ++ "na"))]),
  ("id", .str "did:kilt:holder"),
  ("me", .str "Ada")]

theorem get?_recut_id :
    recutSubject.get? "id" = (sample sampleClaims [] none).credentialSubject.get? "id" := by
  rw [get?_credentialSubject_id]
  rfl

theorem vocabulary?_recut :
    Expanded.vocabulary? recutSubject = some (sampleVocabulary ++ "na") := by
  rw [vocabulary?_eq_some_iff]
  exact ⟨.obj [("@vocab", .str (sampleVocabulary ++ "na"))], rfl, by simp [Json.get?_obj]⟩

theorem properties_recut (v : String) : Expanded.properties (v ++ "na") recutSubject.entries
    = Expanded.properties v (sample sampleClaims [] none).credentialSubject.entries := by
  have recut : Expanded.properties (v ++ "na") recutSubject.entries
      = [("@id", .str "did:kilt:holder"), (v ++ "na" ++ "me", .str "Ada")] := rfl
  have issued : Expanded.properties v (sample sampleClaims [] none).credentialSubject.entries
      = [("@id", .str "did:kilt:holder"), (v ++ "name", .str "Ada")] := rfl
  have name : "na" ++ "me" = "name" := by decide
  rw [recut, issued, String.append_assoc, name]

theorem ofSubject_recut : Expanded.ofSubject recutSubject
    = Expanded.ofSubject (sample sampleClaims [] none).credentialSubject := by
  have distinct := names_distinct (sampleClaims_unreserved [] none)
  have whole := (Expanded.ofSubject_ok_iff _ _).mpr
    ⟨sampleVocabulary, vocabulary?_credentialSubject _, distinct, rfl⟩
  rw [whole, Expanded.ofSubject_ok_iff]
  refine ⟨_, vocabulary?_recut, ?_, by rw [properties_recut]⟩
  rw [← Expanded.names_of_properties, properties_recut, Expanded.names_of_properties]
  exact distinct

theorem exists_presented_sample : ∃ l c p r,
    c.subject = (sample sampleClaims [] none).credentialSubject
      ∧ Presented (sample sampleClaims [] none) c p ∧ verify l c p = .ok r := by
  obtain ⟨statements, made⟩ := exists_normalizeClaims (sampleClaims_unreserved [] none)
  have built := (toCredential_ok_iff (sample sampleClaims [] none) _).mpr
    ⟨sampleClaims_unreserved [] none, [], .nil, rfl⟩
  have begun := (initializeProof_ok_iff ((sample sampleClaims [] none).credential []) (fun _ => 0)
    _ _).mpr ⟨none, _, rfl, made, rfl, rfl⟩
  have ended := finalizeProof_toProof ((sample sampleClaims [] none).credential [])
    (Opening.drawn statements fun _ => 0) (sample_dated 4)
  obtain ⟨l, r, verified⟩ := verify_unbacked rfl rfl made (fun _ => 0) (sample_dated 4) rfl
  exact ⟨l, _, _, r, rfl, .issued built begun ended, verified⟩

theorem vocabulary_of_sample : ∃ l c p r, verify l c p = .ok r
    ∧ Expanded.vocabulary? c.subject = some r.ctypeId.vocabulary
    ∧ verify l { c with subject := recutSubject } p = .ok r := by
  obtain ⟨l, c, p, r, subject, presented, verified⟩ := exists_presented_sample
  obtain ⟨issued, free⟩ := vocabulary_of_accepted l c p r verified
  refine ⟨l, c, p, r, verified, issued _ p presented, free recutSubject ?_ ?_⟩
  · rw [subject, get?_recut_id]
  · rw [subject, ofSubject_recut]

/-- What is attested as `name` is shown as `me`, in a vocabulary of no claim type. -/
theorem vocabulary_not_bound : ¬ ∀ (l : Ledger) (c : VerifiableCredential) (p : AttestationProof)
    (r : Report), verify l c p = .ok r →
      Expanded.vocabulary? c.subject = some r.ctypeId.vocabulary := by
  intro bound
  obtain ⟨l, c, p, r, subject, presented, verified⟩ := exists_presented_sample
  have recut : verify l { c with subject := recutSubject } p = .ok r := by
    apply verify_of_same_expansion verified
    · rw [subject, get?_recut_id]
    · rw [subject, ofSubject_recut]
  have named := bound l _ p r recut
  rw [vocabulary?_recut, ctypeId_of_verified verified, (typed_of_presented presented).schema,
    Option.some.injEq] at named
  have lengths : (sampleVocabulary ++ "na").length = sampleVocabulary.length :=
    congrArg String.length named
  rw [String.length_append] at lengths
  have two : "na".length = 2 := by decide
  omega

end Sample

end VerifiableCredential

end SelectiveDisclosure
