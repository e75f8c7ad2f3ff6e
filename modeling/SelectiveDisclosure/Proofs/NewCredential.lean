import SelectiveDisclosure.Proofs.DocumentShape
import SelectiveDisclosure.Proofs.SubjectExpansion

namespace SelectiveDisclosure

theorem Legitimation.toEntry_ok_iff (g : Legitimation) (e : TrustEntry VerifiableCredential) :
    g.toEntry = .ok e ↔ (∃ c id, g = .embedded c ∧ c.id = some id ∧ e = .legitimation id (some c))
      ∨ ∃ id, g = .named id ∧ e = .legitimation id none := by
  cases g with
  | embedded c =>
    rw [toEntry]
    cases identity : c.id with
    | none => simp [identity]
    | some id => simp [identity, eq_comm]
  | named id => simp [toEntry, eq_comm]

namespace CredentialInput

def Unreserved (input : CredentialInput) : Prop := ∀ key ∈ input.claims.keys, key ∉ reservedKeys

def delegations (input : CredentialInput) : List (TrustEntry VerifiableCredential) :=
  input.delegationId.toList.map fun id => .delegation ⟨id⟩ none

def credential (input : CredentialInput) (entries : List (TrustEntry VerifiableCredential)) :
    VerifiableCredential where
  contexts := [VerifiableCredential.w3cContext, VerifiableCredential.kiltContext]
  types := [VerifiableCredential.genericType, VerifiableCredential.kiltType]
  id := none
  subject := input.credentialSubject
  schema := ⟨⟨input.ctypeHash⟩, VerifiableCredential.schemaType⟩
  status := none
  issuer := input.issuer
  issuanceDate := none
  nonTransferable := true
  trustModel := entries ++ input.delegations
  proof := none

theorem toCredential_ok_iff (input : CredentialInput) (c : VerifiableCredential) :
    input.toCredential = .ok c ↔ input.Unreserved ∧ ∃ entries,
      List.Forall₂ (fun g e => g.toEntry = .ok e) input.legitimations entries
        ∧ c = input.credential entries := by
  have made : ∀ entries, input.credential entries = c ↔ c = input.credential entries :=
    fun _ => eq_comm
  rw [toCredential]
  cases taken : input.claims.keys.find? (· ∈ reservedKeys) with
  | none =>
    have unreserved : input.Unreserved := by
      intro key there
      simpa using List.find?_eq_none.mp taken key there
    simp only [Outcome.bind_ok_iff, Outcome.mapM_ok_iff, Outcome.pure_ok_iff, unreserved, true_and]
    exact exists_congr fun entries => and_congr_right fun _ => made entries
  | some key =>
    have reserved : ¬ input.Unreserved := by
      intro unreserved
      have there := List.mem_of_find?_eq_some taken
      exact unreserved key there (by simpa using List.find?_some taken)
    simp [reserved, Outcome.bind_ok_iff, Outcome.throw_not_ok]

theorem mem_credentialSubject {input : CredentialInput} {e : String × Json}
    (there : e ∈ input.credentialSubject.entries) :
    e.1 = "@context" ∨ e.1 = "id" ∨ e.1 ∈ input.claims.keys := by
  have found := (OrderedMap.get?_eq_some_iff _).mpr there
  rw [credentialSubject, OrderedMap.get?_insert, OrderedMap.get?_insert] at found
  by_cases identity : e.1 = "id"
  · exact Or.inr (Or.inl identity)
  · by_cases context : e.1 = "@context"
    · exact Or.inl context
    · rw [if_neg identity, if_neg context] at found
      exact Or.inr (Or.inr (List.mem_map.mpr ⟨e, (OrderedMap.get?_eq_some_iff _).mp found, rfl⟩))

theorem get?_credentialSubject_id (input : CredentialInput) :
    input.credentialSubject.get? "id" = some (.str input.subject.text) := by
  rw [credentialSubject, OrderedMap.get?_insert, if_pos rfl]

theorem vocabulary?_credentialSubject (input : CredentialInput) :
    Expanded.vocabulary? input.credentialSubject
      = some (CTypeId.mk input.ctypeHash).vocabulary := by
  rw [VerifiableCredential.vocabulary?_eq_some_iff]
  refine ⟨.obj [("@vocab", .str (CTypeId.mk input.ctypeHash).vocabulary)], ?_, ?_⟩
  · rw [credentialSubject, OrderedMap.get?_insert, OrderedMap.get?_insert, if_neg (by decide),
      if_pos rfl]
  · simp [Json.get?_obj]

theorem fullName?_of_unreserved {v key : String} (free : key ∉ reservedKeys) :
    Expanded.fullName? v key = some (v ++ key) := by
  simp only [reservedKeys, List.mem_cons, List.not_mem_nil, or_false, not_or] at free
  obtain ⟨context, id, atId, type, atType⟩ := free
  simp [Expanded.fullName?, Expanded.contextKey, Expanded.idKey, Expanded.typeKey, *]

theorem vocabulary_append_ne (id : CTypeId) (key : String) :
    id.vocabulary ++ key ≠ Expanded.idKey := by
  intro same
  have first := congrArg (fun s => s.toList.head?) same
  simp [CTypeId.vocabulary, CTypeId.toString, CTypeId.head, Expanded.idKey] at first

theorem name_of_property {input : CredentialInput} (unreserved : input.Unreserved)
    {e : String × Json} (there : e ∈ input.credentialSubject.entries) {v name : String}
    (named : Expanded.fullName? v e.1 = some name) :
    e.1 = "id" ∧ name = Expanded.idKey ∨ name = v ++ e.1 := by
  rcases mem_credentialSubject there with context | identity | claim
  · rw [context] at named
    contradiction
  · rw [identity] at named
    exact Or.inl ⟨identity, (Option.some.inj named).symm⟩
  · rw [fullName?_of_unreserved (unreserved e.1 claim)] at named
    exact Or.inr (Option.some.inj named).symm

theorem names_distinct {input : CredentialInput} (unreserved : input.Unreserved) :
    (Expanded.names (CTypeId.mk input.ctypeHash).vocabulary
      input.credentialSubject.entries).Nodup := by
  rw [Expanded.names, List.nodup_iff_pairwise_ne, List.pairwise_filterMap]
  apply input.credentialSubject.ascending.imp_of_mem
  intro a b ha hb below x hx y hy same
  have keys : a.1 ≠ b.1 := by
    intro equal
    rw [equal] at below
    exact Std.Irrefl.irrefl _ below
  rcases name_of_property unreserved ha hx with ⟨first, rfl⟩ | rfl
  · rcases name_of_property unreserved hb hy with ⟨second, rfl⟩ | rfl
    · exact keys (first.trans second.symm)
    · exact vocabulary_append_ne _ _ same.symm
  · rcases name_of_property unreserved hb hy with ⟨_, rfl⟩ | rfl
    · exact vocabulary_append_ne _ _ same
    · exact keys (String.append_right_inj _ |>.mp same)

theorem exists_normalizeClaims {input : CredentialInput} (unreserved : input.Unreserved) :
    ∃ normalized, Commitment.normalizeClaims input.credentialSubject = .ok normalized :=
  ⟨_, (Commitment.normalizeClaims_ok_iff _ _).mpr ⟨_, (Expanded.ofSubject_ok_iff _ _).mpr
    ⟨_, input.vocabulary?_credentialSubject, names_distinct unreserved, rfl⟩, rfl⟩⟩

end CredentialInput

end SelectiveDisclosure
