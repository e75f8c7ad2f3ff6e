import SelectiveDisclosure.Proofs.Issuance
import SelectiveDisclosure.Proofs.SaltedIntegrity

namespace SelectiveDisclosure

namespace CredentialInput

def claim (input : CredentialInput) : Claim :=
  { ctypeHash := input.ctypeHash, contents := input.claims, owner := input.subject }

variable {input : CredentialInput}

theorem get?_credentialSubject_of_unreserved {key : String} (free : key ∉ reservedKeys) :
    input.credentialSubject.get? key = input.claim.contents.get? key := by
  simp only [reservedKeys, List.mem_cons, not_or] at free
  rw [credentialSubject, OrderedMap.get?_insert, OrderedMap.get?_insert, if_neg free.2.1,
    if_neg free.1, claim]

theorem unreserved_of_get? (unreserved : input.Unreserved) {key : String} {value : Json}
    (found : input.claim.contents.get? key = some value) : key ∉ reservedKeys :=
  unreserved key ((OrderedMap.mem_keys_iff _ _).mpr ⟨value, found⟩)

/-- A subject says who its owner is, and one thing for each of the claims it was made from. -/
theorem mem_properties_iff (unreserved : input.Unreserved) (s : Statement) :
    (s.key, s.value) ∈ Expanded.properties input.claim.ctypeId.vocabulary
        input.credentialSubject.entries ↔ s ∈ input.claim.statements := by
  rw [Claim.said_iff, Expanded.properties, List.mem_filterMap]
  obtain ⟨name, value⟩ := s
  constructor
  · intro there
    obtain ⟨⟨key, v⟩, member, named⟩ := there
    obtain ⟨name', full, same⟩ := Option.map_eq_some_iff.mp named
    obtain ⟨rfl, rfl⟩ := Prod.mk.inj same
    have found := (OrderedMap.get?_eq_some_iff _).mpr member
    rcases name_of_property unreserved member full with ⟨rfl, rfl⟩ | rfl
    · rw [get?_credentialSubject_id] at found
      rw [← Option.some.inj found]
      exact .inl rfl
    · refine .inr ⟨key, ?_, rfl⟩
      rcases mem_credentialSubject member with rfl | rfl | claimed
      · contradiction
      · exact absurd (Option.some.inj full).symm (vocabulary_append_ne _ _)
      · rwa [← get?_credentialSubject_of_unreserved (unreserved key claimed)]
  · intro said
    rcases said with identity | ⟨key, found, rfl⟩
    · obtain ⟨rfl, rfl⟩ := Statement.mk.inj identity
      exact ⟨("id", .str input.subject.text),
        (OrderedMap.get?_eq_some_iff _).mp input.get?_credentialSubject_id, rfl⟩
    · have free := unreserved_of_get? unreserved found
      rw [← get?_credentialSubject_of_unreserved free] at found
      refine ⟨(key, value), (OrderedMap.get?_eq_some_iff _).mp found, ?_⟩
      rw [fullName?_of_unreserved free]
      rfl

theorem ofSubject_credentialSubject (unreserved : input.Unreserved) :
    Expanded.ofSubject input.credentialSubject = .ok (Expanded.ofClaim
      input.claim.ctypeId.vocabulary (some input.claim.owner.text) input.claim.contents) := by
  have distinct := names_distinct unreserved
  refine (Expanded.ofSubject_ok_iff _ _).mpr ⟨_, vocabulary?_credentialSubject input, distinct, ?_⟩
  rw [← Expanded.names_of_properties] at distinct
  apply OrderedMap.ext_get?
  intro name
  apply Option.ext
  intro value
  have said := mem_properties_iff unreserved ⟨name, value⟩
  rw [Claim.statements, Expanded.mem_statements_iff] at said
  rw [OrderedMap.get?_ofList_of_distinct distinct, OrderedMap.lookup_eq_some_iff_mem distinct]
  exact said.symm

/-- A claim and the credential made from it have the same statements: the two expansions are equal,
and the statements of the subject are those of the claim in the order of their digests. -/
theorem claim_and_subject_agree (input : CredentialInput) (c : VerifiableCredential)
    (built : input.toCredential = .ok c) :
    Expanded.ofSubject c.subject = .ok (Expanded.ofClaim (CTypeId.mk input.ctypeHash).vocabulary
        (some input.subject.text) input.claims)
      ∧ ∃ normalized, Commitment.normalizeClaims c.subject = .ok normalized
        ∧ normalized.Perm (input.claim.statements.map fun s => (s, s.digest))
        ∧ normalized.Pairwise fun a b => ¬b.2 < a.2 := by
  obtain ⟨unreserved, _, _, rfl⟩ := (toCredential_ok_iff input c).mp built
  have expansion := ofSubject_credentialSubject unreserved
  refine ⟨expansion, _, (Commitment.normalizeClaims_ok_iff _ _).mpr ⟨_, expansion, rfl⟩,
    List.mergeSort_perm _ _, ?_⟩
  have sorted := List.pairwise_mergeSort Commitment.below_trans Commitment.below_total
    (input.claim.statements.map fun s => (s, s.digest))
  refine sorted.imp fun below => ?_
  simpa [Commitment.below] using below

def oddlyNamedClaims : OrderedMap String Json :=
  OrderedMap.ofList [("@vocab", .null), ("kilt:ctype:", .bool true), ("", .int 1)]

theorem oddly_named_claims_agree : ∃ (c : VerifiableCredential)
    (normalized : List (Statement × Hash256)),
    (sample oddlyNamedClaims [] none).toCredential = .ok c
      ∧ Commitment.normalizeClaims c.subject = .ok normalized
      ∧ normalized.Perm
        ((sample oddlyNamedClaims [] none).claim.statements.map fun s => (s, s.digest)) := by
  have unreserved : (sample oddlyNamedClaims [] none).Unreserved := by
    show ∀ key ∈ oddlyNamedClaims.keys, key ∉ reservedKeys
    decide
  have built := (toCredential_ok_iff (sample oddlyNamedClaims [] none) _).mpr
    ⟨unreserved, [], .nil, rfl⟩
  obtain ⟨_, normalized, made, same, _⟩ := claim_and_subject_agree _ _ built
  exact ⟨_, normalized, built, made, same⟩

end CredentialInput

end SelectiveDisclosure
