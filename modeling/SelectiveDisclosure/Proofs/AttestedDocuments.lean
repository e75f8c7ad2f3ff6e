import SelectiveDisclosure.Proofs.DocumentDecoding
import SelectiveDisclosure.Proofs.Issuance
import SelectiveDisclosure.Proofs.WrittenDates
import SelectiveDisclosure.Proofs.WrittenFields

/-!
Verifiable credentials as documents. What is written is decoded as it was, with the proof, the trust
model and the credentials inside it at every depth, as long as their dates are in the years 0 to
9999. Outside of these years a date is written with a sign, and the loose form refuses what it ends
with.
-/

namespace SelectiveDisclosure

open Json (RecordForm Setting)
open Json.Decoder (fill)
open Decoder (fill_free fill_written)

theorem SchemaReference.decode_toJson (setting : Setting) (r : SchemaReference) :
    SchemaReference.decode setting r.toJson = .ok r := by
  have id (d : Option CTypeId × Option String) (free : d.1 = none) :
      put d "id" (.ofText r.id) = .ok (some r.id, d.2) :=
    fill_free free (Decoder.ctypeId_written r.id) _ fun o => (o, d.2)
  have type (d : Option CTypeId × Option String) (free : d.2 = none) :
      put d "type" (.str r.schemaType) = .ok (d.1, some r.schemaType) :=
    fill_free free (Decoder.string_written r.schemaType) _ fun o => (d.1, o)
  rw [decode, toJson, RecordForm.decode]
  simp only [List.foldlM_cons, id, type, Outcome.ok_bind]
  rfl

theorem StatusReference.decode_toJson (setting : Setting) (r : StatusReference) :
    StatusReference.decode setting r.toJson = .ok r := by
  have id (d : Option AttestationStatusId × Option String) (free : d.1 = none) :
      put d "id" (.ofText r.id) = .ok (some r.id, d.2) :=
    fill_free free (Decoder.statusId_written r.id) _ fun o => (o, d.2)
  have type (d : Option AttestationStatusId × Option String) (free : d.2 = none) :
      put d "type" (.str r.statusType) = .ok (d.1, some r.statusType) :=
    fill_free free (Decoder.string_written r.statusType) _ fun o => (d.1, o)
  rw [decode, toJson, RecordForm.decode]
  simp only [List.foldlM_cons, id, type, Outcome.ok_bind]
  rfl

theorem Decoder.timestamp_written {t : Timestamp} (low : 0 ≤ t.year) (high : t.year ≤ 9999) :
    timestamp (.ofText t) = .ok t :=
  read_written (Outcome.mapError_ok_iff.mpr (t.parse_toIso8601 low high))

namespace VerifiableCredential

/-- A credential and every credential in its trust model, at any depth. -/
inductive Embeds : VerifiableCredential → VerifiableCredential → Prop where
  | self (c : VerifiableCredential) : Embeds c c
  | legitimation {c e e' : VerifiableCredential} {id : CredentialId}
      (there : .legitimation id (some e) ∈ c.trustModel) (below : Embeds e e') : Embeds c e'

/-- The date of a credential, if it has one, is in the years that are written without a sign. -/
def PlainlyDated (c : VerifiableCredential) : Prop :=
  ∀ t ∈ c.issuanceDate, 0 ≤ t.year ∧ t.year ≤ 9999

section Members

variable (setting : Setting) {α : Type} {d d' : Draft} {name : String} {rest : List (String × Json)}

theorem decodeMembers_cons {j : Json} (ordinary : name ≠ "federatedTrustModel")
    (decoded : d.put setting name j = .ok d') :
    decodeMembers setting d ((name, j) :: rest) = decodeMembers setting d' rest := by
  rw [decodeMembers, if_neg ordinary, decoded, Outcome.ok_bind]

theorem decodeMembers_optional {write : α → Json} {value : Option α}
    (ordinary : name ≠ "federatedTrustModel")
    (present : ∀ a, value = some a → d.put setting name (write a) = .ok d')
    (missing : value = none → d' = d) :
    decodeMembers setting d (Json.optionalMember name write value ++ rest)
      = decodeMembers setting d' rest := by
  cases value with
  | none => rw [missing rfl]; rfl
  | some a => exact decodeMembers_cons setting ordinary (present a rfl)

end Members

section Fields

variable (setting : Setting) (d : Draft)

theorem put_contexts (free : d.contexts = none) (ts : List String) :
    d.put setting "@context" (.arr (ts.map .str)) = .ok { d with contexts := some ts } :=
  fill_free free (AttestationProof.texts_written ts) _ fun o => ({ d with contexts := o } : Draft)

theorem put_types (free : d.types = none) (ts : List String) :
    d.put setting "type" (.arr (ts.map .str)) = .ok { d with types := some ts } :=
  fill_free free (AttestationProof.texts_written ts) _ fun o => ({ d with types := o } : Draft)

theorem put_id (free : d.id = none) (id : CredentialId) :
    d.put setting "id" (.ofText id) = .ok { d with id := some (some id) } :=
  fill_free free (Decoder.optional_written (Decoder.credentialId_written id) nofun) _
    fun o => ({ d with id := o } : Draft)

theorem put_subject (free : d.subject = none) (subject : OrderedMap String Json) :
    d.put setting "credentialSubject" (.ofMap subject)
      = .ok { d with subject := some subject } :=
  fill_free free (Decoder.members_written subject) _ fun o => ({ d with subject := o } : Draft)

theorem put_schema (free : d.schema = none) (r : SchemaReference) :
    d.put setting "credentialSchema" r.toJson = .ok { d with schema := some r } :=
  fill_free free (r.decode_toJson setting) _ fun o => ({ d with schema := o } : Draft)

theorem put_status (free : d.status = none) (r : StatusReference) :
    d.put setting "credentialStatus" r.toJson = .ok { d with status := some (some r) } :=
  fill_free free (Decoder.optional_written (r.decode_toJson setting) nofun) _
    fun o => ({ d with status := o } : Draft)

theorem put_issuer (free : d.issuer = none) (issuer : Did) :
    d.put setting "issuer" (.ofText issuer) = .ok { d with issuer := some issuer } :=
  fill_free free (Decoder.did_written issuer) _ fun o => ({ d with issuer := o } : Draft)

theorem put_issuanceDate (free : d.issuanceDate = none) {t : Timestamp} (low : 0 ≤ t.year)
    (high : t.year ≤ 9999) : d.put setting "issuanceDate" (.ofText t)
      = .ok { d with issuanceDate := some (some t) } :=
  fill_free free (Decoder.optional_written (Decoder.timestamp_written low high) nofun) _
    fun o => ({ d with issuanceDate := o } : Draft)

theorem put_nonTransferable (free : d.nonTransferable = none) (b : Bool) :
    d.put setting "nonTransferable" (.bool b) = .ok { d with nonTransferable := some b } :=
  fill_free free (Decoder.boolean_written b) _ fun o => ({ d with nonTransferable := o } : Draft)

theorem put_proof (free : d.proof = none) (p : AttestationProof) :
    d.put setting "proof" p.toJson = .ok { d with proof := some (some p) } :=
  fill_free free (Decoder.optional_written (p.decode_toJson setting) nofun) _
    fun o => ({ d with proof := o } : Draft)

theorem decodeMembers_id (free : d.id = none) (id : Option CredentialId)
    (rest : List (String × Json)) :
    decodeMembers setting d (Json.optionalMember "id" .ofText id ++ rest)
      = decodeMembers setting { d with id := id.map some } rest := by
  refine decodeMembers_optional setting (by decide) ?_ ?_
  · rintro a rfl
    exact put_id setting d free a
  · rintro rfl
    rw [Option.map_none, ← free]

theorem decodeMembers_status (free : d.status = none) (status : Option StatusReference)
    (rest : List (String × Json)) :
    decodeMembers setting d
        (Json.optionalMember "credentialStatus" StatusReference.toJson status ++ rest)
      = decodeMembers setting { d with status := status.map some } rest := by
  refine decodeMembers_optional setting (by decide) ?_ ?_
  · rintro r rfl
    exact put_status setting d free r
  · rintro rfl
    rw [Option.map_none, ← free]

theorem decodeMembers_issuanceDate (free : d.issuanceDate = none) {date : Option Timestamp}
    (plain : ∀ t ∈ date, 0 ≤ t.year ∧ t.year ≤ 9999) (rest : List (String × Json)) :
    decodeMembers setting d (Json.optionalMember "issuanceDate" .ofText date ++ rest)
      = decodeMembers setting { d with issuanceDate := date.map some } rest := by
  refine decodeMembers_optional setting (by decide) ?_ ?_
  · rintro t rfl
    obtain ⟨low, high⟩ := plain t rfl
    exact put_issuanceDate setting d free low high
  · rintro rfl
    rw [Option.map_none, ← free]

theorem decodeMembers_proof (free : d.proof = none) (proof : Option AttestationProof)
    (rest : List (String × Json)) :
    decodeMembers setting d (Json.optionalMember "proof" AttestationProof.toJson proof ++ rest)
      = decodeMembers setting { d with proof := proof.map some } rest := by
  refine decodeMembers_optional setting (by decide) ?_ ?_
  · rintro p rfl
    exact put_proof setting d free p
  · rintro rfl
    rw [Option.map_none, ← free]

theorem putTrustModel_ok (free : d.trustModel = none)
    (es : List (TrustEntry VerifiableCredential)) :
    d.putTrustModel (.ok es) = .ok { d with trustModel := some es } := by
  rw [Draft.putTrustModel, free]
  rfl

end Fields

theorem decodeIn_of_entries (setting : Setting) {c : VerifiableCredential} (dated : c.PlainlyDated)
    (entries : decodeAllEntries setting (entriesToJson c.trustModel) = .ok c.trustModel) :
    decodeIn setting c.toJson = .ok c := by
  obtain ⟨contexts, types, id, subject, schema, status, issuer, issuanceDate, nonTransferable,
    trustModel, proof⟩ := c
  have filled {α : Type} (o : Option α) : (o.map some).getD none = o := by cases o <;> rfl
  rw [toJson, decodeIn]
  simp only [List.append_assoc, List.cons_append, List.nil_append]
  rw [← List.append_nil (Json.optionalMember "proof" AttestationProof.toJson proof)]
  simp only [decodeMembers, String.reduceEq, ↓reduceIte, Outcome.ok_bind, put_contexts, put_types,
    decodeMembers_id, put_subject, put_schema, decodeMembers_status, put_issuer,
    decodeMembers_issuanceDate setting _ _ dated, put_nonTransferable, decodeEntries, entries,
    putTrustModel_ok, decodeMembers_proof]
  simp only [Draft.finish, RecordForm.require, Outcome.ok_bind, filled, Option.getD_some]
  rfl

section Entries

variable (setting : Setting)

theorem findKind_written (kind : EntryKind) {text : String} {rest : List (String × Json)}
    (decoded : decodeKind setting (.str text) = .ok kind) (once : ∀ m ∈ rest, m.1 ≠ "type") :
    findKind setting none (("type", .str text) :: rest) = .ok kind := by
  have found (ms : List (String × Json)) (none : ∀ m ∈ ms, m.1 ≠ "type") :
      findKind setting (some kind) ms = .ok kind := by
    induction ms with
    | nil => rfl
    | cons m ms ih =>
      obtain ⟨first, others⟩ := List.forall_mem_cons.mp none
      rw [findKind, if_neg first, ih others]
  rw [findKind, if_pos rfl, decoded]
  exact found rest once

theorem decodeEntry_named (id : CredentialId) :
    decodeEntry setting (entryToJson (.legitimation id none)) = .ok (.legitimation id none) := by
  rw [entryToJson, decodeEntry, findKind_written setting .legitimation rfl (by simp)]
  simp only [Outcome.ok_bind, decodeLegitimationMembers, String.reduceEq, ↓reduceIte,
    fill_written (Decoder.credentialId_written id), pure, Except.pure]
  rfl

theorem decodeEntry_embedded (id : CredentialId) {c : VerifiableCredential}
    (decoded : decodeIn .setAside c.toJson = .ok c) :
    decodeEntry setting (entryToJson (.legitimation id (some c)))
      = .ok (.legitimation id (some c)) := by
  have present : nullOr c.toJson (.ok c) = .ok (some c) := by
    obtain ⟨⟩ := c
    rfl
  rw [entryToJson, decodeEntry, findKind_written setting .legitimation rfl (by simp)]
  simp only [Outcome.ok_bind, decodeLegitimationMembers, String.reduceEq, ↓reduceIte,
    fill_written (Decoder.credentialId_written id), decoded, present, pure, Except.pure,
    LegitimationDraft.putCredential]
  rfl

theorem decodeEntry_delegation (id : DelegationId) (delegators : Option (List Did)) :
    decodeEntry setting (entryToJson (.delegation id delegators))
      = .ok (.delegation id delegators) := by
  have putId (d : DelegationDraft) (free : d.id = none) :
      d.put "id" (.ofText id) = .ok { d with id := some id } :=
    fill_free free (Decoder.delegationId_written id) _
      fun o => ({ d with id := o } : DelegationDraft)
  have putDelegators (d : DelegationDraft) (free : d.delegators = none) (ds : List Did) :
      d.put "delegators" (.arr (ds.map .ofText)) = .ok { d with delegators := some (some ds) } := by
    have read := Decoder.list_written fun d (_ : d ∈ ds) => Decoder.did_written d
    exact fill_free free (Decoder.optional_written read nofun) _
      fun o => ({ d with delegators := o } : DelegationDraft)
  cases delegators with
  | none =>
    have kept : ([("type", .str TrustEntry.delegationType), ("id", .ofText id)]
        : List (String × Json)).filter (fun m => m.1 != "type") = [("id", .ofText id)] := rfl
    simp only [entryToJson, Json.optionalMember, List.append_nil]
    rw [decodeEntry, findKind_written setting .delegation rfl (by simp), Outcome.ok_bind]
    simp only [kept, List.foldlM_cons, putId, Outcome.ok_bind]
    rfl
  | some ds =>
    have kept : ([("type", .str TrustEntry.delegationType), ("id", .ofText id),
        ("delegators", .arr (ds.map .ofText))] : List (String × Json)).filter
          (fun m => m.1 != "type")
        = [("id", .ofText id), ("delegators", .arr (ds.map .ofText))] := rfl
    simp only [entryToJson, Json.optionalMember, List.cons_append, List.nil_append]
    rw [decodeEntry, findKind_written setting .delegation rfl (by simp), Outcome.ok_bind]
    simp only [kept, List.foldlM_cons, putId, putDelegators, Outcome.ok_bind]
    rfl

end Entries

mutual

theorem decodeIn_toJson (setting : Setting) : ∀ c : VerifiableCredential,
    (∀ e, c.Embeds e → e.PlainlyDated) → decodeIn setting c.toJson = .ok c
  | ⟨contexts, types, id, subject, schema, status, issuer, issuanceDate, nonTransferable,
      trustModel, proof⟩ => by
    intro dated
    refine decodeIn_of_entries setting (dated _ (.self _))
      (decodeAllEntries_toJson setting trustModel ?_)
    intro id e e' there below
    exact dated e' (.legitimation there below)

theorem decodeAllEntries_toJson (setting : Setting) : ∀ es : List (TrustEntry VerifiableCredential),
    (∀ id e e', .legitimation id (some e) ∈ es → e.Embeds e' → e'.PlainlyDated) →
      decodeAllEntries setting (entriesToJson es) = .ok es
  | [] => fun _ => rfl
  | e :: rest => by
    intro dated
    have first := decodeEntry_toJson setting e fun id c c' same below =>
      dated id c c' (same ▸ List.mem_cons_self) below
    have others := decodeAllEntries_toJson setting rest fun id c c' there below =>
      dated id c c' (List.mem_cons_of_mem e there) below
    rw [entriesToJson, decodeAllEntries, first, others]
    rfl

theorem decodeEntry_toJson (setting : Setting) : ∀ e : TrustEntry VerifiableCredential,
    (∀ id c c', e = .legitimation id (some c) → c.Embeds c' → c'.PlainlyDated) →
      decodeEntry setting (entryToJson e) = .ok e
  | .legitimation id none => fun _ => decodeEntry_named setting id
  | .legitimation id (some c) => by
    intro dated
    have inner := decodeIn_toJson .setAside c fun c' below => dated id c c' rfl below
    exact decodeEntry_embedded setting id inner
  | .delegation id delegators => fun _ => decodeEntry_delegation setting id delegators

end

/-- What the schema admits is read as it was written: no field, no entry of a trust model and no
credential inside it is lost or changed. -/
theorem parse_of_admitted (c : VerifiableCredential)
    (admitted : Schema.validateCredential c.toJson = .ok ())
    (dated : ∀ e, c.Embeds e → e.PlainlyDated) : parse c.toJson = .ok c := by
  rw [parse, admitted]
  exact Outcome.mapError_ok_iff.mpr (decodeIn_toJson .direct c dated)

section Sample

open CredentialInput

variable (entries : List (TrustEntry VerifiableCredential))

def writtenSample (delegationId : Option Hash256) : VerifiableCredential :=
  ((sample sampleClaims [] delegationId).credential entries).finalized sampleNode
    ((Opening.mk [] [] []).toProof "") sampleNode sampleDate

theorem writtenSample_admitted (delegationId : Option Hash256) :
    Schema.validateCredential (writtenSample entries delegationId).toJson = .ok () := by
  refine (validateCredential_ok_iff _).mpr
    ⟨(credential_admitted_iff _).mpr (wellShaped_finalized ..), ?_⟩
  intro inner there
  rw [← Option.some.inj there]
  exact (AttestationProof.proof_admitted_iff _).mpr (Opening.wellShaped_toProof _ _)

theorem writtenSample_plainlyDated (delegationId : Option Hash256) :
    (writtenSample entries delegationId).PlainlyDated := by
  intro t there
  rw [← Option.some.inj there]
  decide

theorem nested_sample_read_back : ∃ c inner id node, parse c.toJson = .ok c
    ∧ c.trustModel = [.legitimation id (some inner), .delegation node none]
    ∧ c.proof.isSome ∧ inner.issuanceDate = some sampleDate := by
  refine ⟨writtenSample [.legitimation ⟨sampleNode⟩ (some (writtenSample [] none))]
      (some sampleNode), writtenSample [] none, ⟨sampleNode⟩, ⟨sampleNode⟩,
    parse_of_admitted _ (writtenSample_admitted _ _) ?_, rfl, rfl, rfl⟩
  intro e embedded
  cases embedded with
  | self => exact writtenSample_plainlyDated _ _
  | legitimation there below =>
    obtain ⟨-, rfl⟩ : _ ∧ _ = writtenSample [] none := by
      simpa [writtenSample, finalized, credential, delegations] using there
    cases below with
    | self => exact writtenSample_plainlyDated _ _
    | legitimation there _ => exact absurd there List.not_mem_nil

end Sample

end VerifiableCredential

end SelectiveDisclosure
