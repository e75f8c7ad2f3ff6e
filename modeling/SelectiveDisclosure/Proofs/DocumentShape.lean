import SelectiveDisclosure.Attested.Issuance
import SelectiveDisclosure.Proofs.Outcome
import SelectiveDisclosure.Proofs.SchemaMeaning
import SelectiveDisclosure.Proofs.WrittenBytes

namespace SelectiveDisclosure

open Schema

theorem Json.lookup_optionalMember {α : Type} (member : String) (write : α → Json)
    (value : Option α) (name : String) : (optionalMember member write value).reverse.lookup name
      = if name = member then value.map write else none := by
  cases value with
  | none => simp [optionalMember]
  | some a => simp [optionalMember, OrderedMap.lookup_cons_if]

theorem hex_digits_admitted (h : Hash256) : ∃ digits, h.toHex.toList = '0' :: 'x' :: digits
    ∧ digits.length = 64 ∧ ∀ c ∈ digits, hexClass.holds c := by
  have pairs : ∀ n < 256, (Hex.pair (UInt8.ofNat n)).all hexClass.holds := by decide +kernel
  refine ⟨h.toList.flatMap Hex.pair, by simp [Hash256.toHex, Hex.encodeMarked, Hex.encode], ?_, ?_⟩
  · rw [Hex.length_pairs, h.length_eq]
  · intro c hc
    obtain ⟨b, _, hb⟩ := List.mem_flatMap.mp hc
    have all := pairs b.toNat b.toNat_lt
    rw [List.all_eq_true, UInt8.ofNat_toNat] at all
    exact all c hb

theorem base58_digits_admitted (h : Hash256) :
    h.toBase58.toList ≠ [] ∧ ∀ c ∈ h.toBase58.toList, base58Class.holds c := by
  have digit : ∀ d < 58, base58Class.holds (Base58.digitChar d) := by decide +kernel
  have bytes : h.toList ≠ [] := by
    intro empty
    have length := h.length_eq
    rw [empty] at length
    contradiction
  constructor
  · have some := Base58.encode_ne_empty (by rw [h.length_eq]; decide) bytes
    intro empty
    rw [Hash256.toBase58, String.toList_eq_nil_iff] at empty
    rw [empty] at some
    contradiction
  · obtain ⟨zeros, ds, body, _, _, small, _, _, written⟩ := Base58.encode_digits h.toList
    rw [Hash256.toBase58, written, String.toList_ofList]
    intro c hc
    obtain ⟨d, hd, rfl⟩ := List.mem_map.mp hc
    exact digit d (Radix.padded_small zeros small (by decide) d hd)

theorem ctypeId_matches (id : CTypeId) : ctypeIdPattern.Matches id.toString := by
  obtain ⟨digits, written, length, hex⟩ := hex_digits_admitted id.hash
  exact ⟨digits, by simp [CTypeId.toString, CTypeId.head, ctypeIdPattern, written], length, hex⟩

theorem credentialId_matches (id : CredentialId) : credentialIdPattern.Matches id.toString := by
  obtain ⟨some, digits⟩ := base58_digits_admitted id.rootHash
  exact ⟨id.rootHash.toBase58.toList,
    by simp [CredentialId.toString, CredentialId.head, credentialIdPattern], some, digits⟩

theorem did_matches (d : Did) : didPattern.Matches d.text := by
  have formed := d.wellFormed
  unfold Did.isWellFormed at formed
  split at formed
  · rename_i method id parts
    unfold Did.parts? at parts
    split at parts
    · rename_i rest chars
      exact ⟨rest, chars, trivial⟩
    · contradiction
  · contradiction

theorem Schema.admitsMembers_iff (j : Json) (members : List (String × List Rule)) :
    AdmitsMembers j members
      ↔ ∀ m ∈ members, ∀ value, j.get? m.1 = some value → Admits value m.2 := by
  induction members with
  | nil => simp [AdmitsMembers]
  | cons m members ih =>
    obtain ⟨name, schema⟩ := m
    rw [AdmitsMembers, ih, List.forall_mem_cons]

namespace AttestationProof

structure WellShaped (p : AttestationProof) : Prop where
  proofType : p.proofType = typeName
  commitments : ∀ t ∈ p.commitments, t ≠ ""
  salts : ∀ t ∈ p.salts, t ≠ ""

theorem one_le_length_iff (s : String) : 1 ≤ s.length ↔ s ≠ "" := by
  rw [Nat.one_le_iff_ne_zero]
  exact not_congr String.length_eq_zero_iff

theorem texts_admitted_iff (ts : List String) :
    Admits (.arr (ts.map .str)) Schema.texts ↔ ∀ t ∈ ts, t ≠ "" := by
  simp [Schema.texts, Admits, Rule.Admits, Kind.holds, one_le_length_iff]

theorem proof_admitted_iff (p : AttestationProof) :
    Admits p.toJson proof.rules ↔ p.WellShaped := by
  have admitted : Admits p.toJson proof.rules ↔ (∀ t ∈ p.commitments, t ≠ "")
      ∧ (∀ t ∈ p.salts, t ≠ "") ∧ "KiltAttestationProofV1" = p.proofType := by
    simp [proof, Admits, Rule.Admits, AdmitsMembers, toJson, Json.get?_obj,
      OrderedMap.lookup_cons_if, Kind.holds, Literal.holds, texts_admitted_iff]
  rw [admitted]
  constructor
  · rintro ⟨commitments, salts, proofType⟩
    exact ⟨proofType.symm, commitments, salts⟩
  · intro shaped
    exact ⟨shaped.commitments, shaped.salts, shaped.proofType.symm⟩

end AttestationProof

namespace VerifiableCredential

def member? (c : VerifiableCredential) : String → Option Json
  | "@context" => some (.arr (c.contexts.map .str))
  | "type" => some (.arr (c.types.map .str))
  | "id" => c.id.map .ofText
  | "credentialSubject" => some (.ofMap c.subject)
  | "credentialSchema" => some c.schema.toJson
  | "credentialStatus" => c.status.map (·.toJson)
  | "issuer" => some (.ofText c.issuer)
  | "issuanceDate" => c.issuanceDate.map .ofText
  | "nonTransferable" => some (.bool c.nonTransferable)
  | "federatedTrustModel" => some (.arr (entriesToJson c.trustModel))
  | "proof" => c.proof.map (·.toJson)
  | _ => none

theorem get?_toJson (c : VerifiableCredential) (name : String) :
    c.toJson.get? name = c.member? name := by
  obtain ⟨contexts, types, id, subject, schema, status, issuer, issuanceDate, nonTransferable,
    trustModel, proof⟩ := c
  rw [toJson, Json.get?_obj]
  simp only [List.reverse_append, List.lookup_append, Json.lookup_optionalMember, List.reverse_cons,
    List.reverse_nil, List.nil_append, OrderedMap.lookup_cons_if, List.lookup_nil]
  fun_cases member? <;> simp_all

theorem entry_admitted (e : TrustEntry VerifiableCredential) :
    Admits (entryToJson e) Schema.trustEntry := by
  cases e with
  | legitimation id c =>
    cases c <;> simp [entryToJson, Schema.trustEntry, Admits, Rule.Admits, AdmitsMembers,
      Json.get?_obj, OrderedMap.lookup_cons_if, Kind.holds, Literal.holds, Json.ofText,
      TrustEntry.legitimationType]
  | delegation id delegators =>
    cases delegators <;> simp [entryToJson, Schema.trustEntry, Admits, Rule.Admits, AdmitsMembers,
      Json.get?_obj, OrderedMap.lookup_cons_if, Kind.holds, Literal.holds, Json.ofText,
      TrustEntry.delegationType, Json.optionalMember]

theorem entries_admitted (es : List (TrustEntry VerifiableCredential)) :
    ∀ j ∈ entriesToJson es, Admits j Schema.trustEntry := by
  induction es with
  | nil => simp [entriesToJson]
  | cons e es ih =>
    intro j hj
    rw [entriesToJson] at hj
    rcases List.mem_cons.mp hj with rfl | hj
    · exact entry_admitted e
    · exact ih j hj

theorem vocabulary?_eq_some_iff (subject : OrderedMap String Json) (v : String) :
    Expanded.vocabulary? subject = some v ↔ ∃ context,
      subject.get? "@context" = some context ∧ context.get? "@vocab" = some (.str v) := by
  have text : ∀ j : Json, j.asString? = some v ↔ j = .str v := by
    intro j
    cases j <;> simp [Json.asString?]
  simp [Expanded.vocabulary?, Expanded.contextKey, Expanded.vocabularyKey, Option.bind_eq_some_iff,
    text]

theorem subject_admitted_iff (m : OrderedMap String Json) : Admits (.ofMap m) Schema.subject
    ↔ (∃ v, Expanded.vocabulary? m = some v)
      ∧ ∃ s, m.get? "id" = some (.str s) ∧ didPattern.Matches s := by
  simp only [Schema.subject, Admits, Rule.Admits, AdmitsMembers, Json.get?_ofMap, string_holds_iff,
    object_holds_iff, and_true, List.mem_cons, List.not_mem_nil, or_false, forall_eq_or_imp,
    forall_eq, vocabulary?_eq_some_iff]
  constructor
  · rintro ⟨⟨contextRule, idRule⟩, required, members, isObject⟩
    obtain ⟨⟨context, foundContext⟩, id, foundId⟩ := required members isObject
    obtain ⟨vocabularyRule, vocabularyRequired, contextMembers, rfl⟩ :=
      contextRule context foundContext
    obtain ⟨vocabulary, foundVocabulary⟩ := vocabularyRequired contextMembers rfl
    obtain ⟨v, rfl⟩ := vocabularyRule vocabulary foundVocabulary
    obtain ⟨matched, s, rfl⟩ := idRule id foundId
    exact ⟨⟨v, _, foundContext, foundVocabulary⟩, s, foundId, matched s rfl⟩
  · rintro ⟨⟨v, context, foundContext, foundVocabulary⟩, s, foundId, matched⟩
    refine ⟨⟨?_, ?_⟩, ?_, m.entries, rfl⟩
    · intro other found
      obtain rfl : context = other := Option.some.inj (foundContext.symm.trans found)
      refine ⟨?_, ?_, Json.exists_members_of_get? foundVocabulary⟩
      · intro value found
        exact ⟨v, Option.some.inj (found.symm.trans foundVocabulary)⟩
      · exact fun _ _ => ⟨_, foundVocabulary⟩
    · intro other found
      obtain rfl : .str s = other := Option.some.inj (foundId.symm.trans found)
      refine ⟨?_, s, rfl⟩
      intro t same
      rw [← Json.str.inj same]
      exact matched
    · exact fun _ _ => ⟨⟨_, foundContext⟩, _, foundId⟩

/-- What the schema of credentials asks of a credential, its proof aside. -/
structure WellShaped (c : VerifiableCredential) : Prop where
  contexts : [w3cContext, kiltContext] <+: c.contexts
  types : genericType ∈ c.types ∧ kiltType ∈ c.types
  vocabulary : ∃ v, Expanded.vocabulary? c.subject = some v
  identity : ∃ s, c.subject.get? "id" = some (.str s) ∧ didPattern.Matches s
  schemaType : c.schema.schemaType = VerifiableCredential.schemaType
  statusType : ∀ status, c.status = some status →
    status.statusType = VerifiableCredential.statusType
  nonTransferable : c.nonTransferable = true

theorem contexts_admitted_iff (contexts : List String) :
    Admits (.arr (contexts.map .str)) [
      .minItems 2,
      .leadingItems [
        [.const (.text "https://www.w3.org/2018/credentials/v1")],
        [.const (.text "https://www.kilt.io/contexts/credentials")]],
      .type .array] ↔ [w3cContext, kiltContext] <+: contexts := by
  match contexts with
  | [] => simp [Admits, Rule.Admits]
  | [first] => simp [Admits, Rule.Admits]
  | first :: second :: rest =>
    simp [Admits, Rule.Admits, AdmitsLeading, Kind.holds, Literal.holds, w3cContext, kiltContext]

theorem types_admitted_iff (types : List String) :
    Admits (.arr (types.map .str)) [
      .allOf [
        [.contains [.const (.text "VerifiableCredential")]],
        [.contains [.const (.text "KiltCredentialV1")]]],
      .type .array] ↔ genericType ∈ types ∧ kiltType ∈ types := by
  simp [Admits, Rule.Admits, AdmitsEach, Kind.holds, Literal.holds, genericType, kiltType]

theorem schema_admitted_iff (r : SchemaReference) :
    Admits r.toJson [
      .properties [
        ("id", [.pattern ctypeIdPattern, .type .string]),
        ("type", [.const (.text "JsonSchema2023")])],
      .required ["id", "type"],
      .type .object] ↔ r.schemaType = VerifiableCredential.schemaType := by
  have matched : ctypeIdPattern.Matches (toString r.id) := ctypeId_matches r.id
  rw [eq_comm (a := r.schemaType)]
  simp [SchemaReference.toJson, Admits, Rule.Admits, AdmitsMembers, Json.get?_obj,
    OrderedMap.lookup_cons_if, Kind.holds, Literal.holds, Json.ofText, schemaType, matched]

theorem status_admitted_iff (r : StatusReference) :
    Admits r.toJson [
      .properties [
        ("id", [.type .string]),
        ("type", [.const (.text "KiltRevocationStatusV1")])],
      .required ["id", "type"],
      .type .object] ↔ r.statusType = VerifiableCredential.statusType := by
  rw [eq_comm (a := r.statusType)]
  simp [StatusReference.toJson, Admits, Rule.Admits, AdmitsMembers, Json.get?_obj,
    OrderedMap.lookup_cons_if, Kind.holds, Literal.holds, Json.ofText, statusType]

theorem pattern_admitted_iff (p : Pattern) (s : String) :
    Admits (.str s) [.pattern p, .type .string] ↔ p.Matches s := by
  simp [Admits, Rule.Admits, Kind.holds]

theorem credential_admitted_iff (c : VerifiableCredential) :
    Admits c.toJson credential.rules ↔ c.WellShaped := by
  have required : (Rule.required ["@context", "type", "credentialSubject", "credentialSchema",
      "issuer", "nonTransferable"]).Admits c.toJson := by
    simp [Rule.Admits, get?_toJson, member?]
  have isObject : (Rule.type .object).Admits c.toJson := by
    rw [Rule.Admits]
    obtain ⟨⟩ := c
    rfl
  have trust : Admits (.arr (entriesToJson c.trustModel)) [.items trustEntry, .type .array] := by
    simpa [Admits, Rule.Admits, Kind.holds] using entries_admitted c.trustModel
  have identifier (id : CredentialId) :
      Admits (.ofText id) [.pattern credentialIdPattern, .type .string] :=
    (pattern_admitted_iff _ _).mpr (credentialId_matches id)
  have date (t : Timestamp) : Admits (.ofText t) [.type .string] := by
    simp [Admits, Rule.Admits, Kind.holds, Json.ofText]
  have issuer : Admits (.ofText c.issuer) [.pattern didPattern, .type .string] :=
    (pattern_admitted_iff _ _).mpr (did_matches c.issuer)
  have nonTransferable : Admits (.bool c.nonTransferable) [.const (.truth true)]
      ↔ c.nonTransferable = true := by
    rw [Admits, Admits, and_true, Rule.Admits]
    cases c.nonTransferable <;> simp [Literal.holds]
  have proof (p : AttestationProof) : Admits p.toJson [.required ["type"], .type .object] := by
    simp [Admits, Rule.Admits, Kind.holds, AttestationProof.toJson, Json.get?_obj,
      OrderedMap.lookup_cons_if]
  simp only [credential]
  rw [Admits, Admits, Admits, Admits, and_iff_left ⟨required, isObject, trivial⟩, Rule.Admits,
    admitsMembers_iff]
  simp only [List.forall_mem_cons, get?_toJson, member?, Option.some.injEq, forall_eq',
    Option.map_eq_some_iff, forall_exists_index, and_imp, forall_apply_eq_imp_iff₂,
    contexts_admitted_iff, schema_admitted_iff, status_admitted_iff, subject_admitted_iff, trust,
    identifier, date, issuer, nonTransferable, proof, types_admitted_iff, List.not_mem_nil,
    IsEmpty.forall_iff, implies_true, true_and, and_true]
  constructor
  · rintro ⟨contexts, schemaType, statusType, ⟨vocabulary, identity⟩, nonTransferable, types⟩
    exact ⟨contexts, types, vocabulary, identity, schemaType, statusType, nonTransferable⟩
  · intro shaped
    exact ⟨shaped.contexts, shaped.schemaType, shaped.statusType,
      ⟨shaped.vocabulary, shaped.identity⟩, shaped.nonTransferable, shaped.types⟩

theorem validateCredential_ok_iff (c : VerifiableCredential) :
    validateCredential c.toJson = .ok () ↔ Admits c.toJson credential.rules
      ∧ ∀ inner, c.proof = some inner → Admits inner.toJson Schema.proof.rules := by
  rw [validateCredential, Outcome.check_bind_ok_iff, Schema.validate_ok_iff, get?_toJson, member?]
  cases c.proof with
  | none => simp [Outcome.pure_ok_iff]
  | some p => simp [validateProof, Schema.validate_ok_iff]

end VerifiableCredential

end SelectiveDisclosure
