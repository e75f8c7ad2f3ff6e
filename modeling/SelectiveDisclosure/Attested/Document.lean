import SelectiveDisclosure.Attested.Credential

namespace SelectiveDisclosure

open Json (RecordForm Setting)
open Json.Decoder (fill)

namespace AttestationProof

def toJson (p : AttestationProof) : Json := .obj [
  ("type", .str p.proofType),
  ("block", .str p.block),
  ("commitments", .arr (p.commitments.map .str)),
  ("salt", .arr (p.salts.map .str))]

def form : RecordForm :=
  ⟨"struct KiltAttestationProofV1", ["type", "block", "commitments", "salt"]⟩

structure Draft where
  proofType : Option String := none
  block : Option String := none
  commitments : Option (List String) := none
  salts : Option (List String) := none

def texts : Decoder (List String) := Json.Decoder.list Json.Decoder.string

def Draft.put (d : Draft) (name : String) (j : Json) : Except DocumentError Draft :=
  match name with
  | "type" => return { d with proofType := ← fill name d.proofType Json.Decoder.string j }
  | "block" => return { d with block := ← fill name d.block Json.Decoder.string j }
  | "commitments" => return { d with commitments := ← fill name d.commitments texts j }
  | "salt" => return { d with salts := ← fill name d.salts texts j }
  | _ => return d

def Draft.finish (absent : String → DocumentError) (d : Draft) :
    Except DocumentError AttestationProof := do
  let proofType ← RecordForm.require absent "type" d.proofType
  let block ← RecordForm.require absent "block" d.block
  let commitments ← RecordForm.require absent "commitments" d.commitments
  let salts ← RecordForm.require absent "salt" d.salts
  return { proofType, block, commitments, salts }

def decode (setting : Setting) : Decoder AttestationProof :=
  form.decode setting {} Draft.put Draft.finish

end AttestationProof

namespace SchemaReference

def toJson (r : SchemaReference) : Json := .obj [("id", .ofText r.id), ("type", .str r.schemaType)]

def form : RecordForm := ⟨"struct CredentialSchema", ["id", "type"]⟩

def put (d : Option CTypeId × Option String) (name : String) (j : Json) :
    Except DocumentError (Option CTypeId × Option String) :=
  match name with
  | "id" => return { d with fst := ← fill name d.1 Decoder.ctypeId j }
  | "type" => return { d with snd := ← fill name d.2 Json.Decoder.string j }
  | _ => return d

def finish (absent : String → DocumentError) (d : Option CTypeId × Option String) :
    Except DocumentError SchemaReference := do
  let id ← RecordForm.require absent "id" d.1
  let schemaType ← RecordForm.require absent "type" d.2
  return { id, schemaType }

def decode (setting : Setting) : Decoder SchemaReference :=
  form.decode setting (none, none) put finish

end SchemaReference

namespace StatusReference

def toJson (r : StatusReference) : Json := .obj [("id", .ofText r.id), ("type", .str r.statusType)]

def form : RecordForm := ⟨"struct CredentialStatus", ["id", "type"]⟩

def put (d : Option AttestationStatusId × Option String) (name : String) (j : Json) :
    Except DocumentError (Option AttestationStatusId × Option String) :=
  match name with
  | "id" => return { d with fst := ← fill name d.1 Decoder.statusId j }
  | "type" => return { d with snd := ← fill name d.2 Json.Decoder.string j }
  | _ => return d

def finish (absent : String → DocumentError) (d : Option AttestationStatusId × Option String) :
    Except DocumentError StatusReference := do
  let id ← RecordForm.require absent "id" d.1
  let statusType ← RecordForm.require absent "type" d.2
  return { id, statusType }

def decode (setting : Setting) : Decoder StatusReference :=
  form.decode setting (none, none) put finish

end StatusReference

namespace TrustEntry

def legitimationType : String := "KiltAttesterLegitimationV1"

def delegationType : String := "KiltAttesterDelegationV1"

end TrustEntry

namespace VerifiableCredential

mutual

def toJson : VerifiableCredential → Json
  | ⟨contexts, types, id, subject, schema, status, issuer, issuanceDate, nonTransferable,
      trustModel, proof⟩ => .obj (
    [("@context", .arr (contexts.map .str)), ("type", .arr (types.map .str))]
      ++ Json.optionalMember "id" .ofText id
      ++ [("credentialSubject", .ofMap subject), ("credentialSchema", schema.toJson)]
      ++ Json.optionalMember "credentialStatus" StatusReference.toJson status
      ++ [("issuer", .ofText issuer)]
      ++ Json.optionalMember "issuanceDate" .ofText issuanceDate
      ++ [("nonTransferable", .bool nonTransferable),
        ("federatedTrustModel", .arr (entriesToJson trustModel))]
      ++ Json.optionalMember "proof" AttestationProof.toJson proof)

def entriesToJson : List (TrustEntry VerifiableCredential) → List Json
  | [] => []
  | e :: rest => entryToJson e :: entriesToJson rest

def entryToJson : TrustEntry VerifiableCredential → Json
  | .legitimation id none =>
    .obj [("type", .str TrustEntry.legitimationType), ("id", .ofText id)]
  | .legitimation id (some c) =>
    .obj [("type", .str TrustEntry.legitimationType), ("id", .ofText id),
      ("verifiableCredential", toJson c)]
  | .delegation id delegators =>
    .obj ([("type", .str TrustEntry.delegationType), ("id", .ofText id)]
      ++ Json.optionalMember "delegators" (fun ds => .arr (ds.map .ofText)) delegators)

end

def form : RecordForm :=
  ⟨"struct KiltCredentialV1",
    ["@context", "type", "id", "credentialSubject", "credentialSchema", "credentialStatus",
      "issuer", "issuanceDate", "nonTransferable", "federatedTrustModel", "proof"]⟩

structure Draft where
  contexts : Option (List String) := none
  types : Option (List String) := none
  id : Option (Option CredentialId) := none
  subject : Option (OrderedMap String Json) := none
  schema : Option SchemaReference := none
  status : Option (Option StatusReference) := none
  issuer : Option Did := none
  issuanceDate : Option (Option Timestamp) := none
  nonTransferable : Option Bool := none
  trustModel : Option (List (TrustEntry VerifiableCredential)) := none
  proof : Option (Option AttestationProof) := none

def Draft.put (setting : Setting) (d : Draft) (name : String) (j : Json) :
    Except DocumentError Draft :=
  match name with
  | "@context" => return { d with contexts := ← fill name d.contexts AttestationProof.texts j }
  | "type" => return { d with types := ← fill name d.types AttestationProof.texts j }
  | "id" => return { d with id := ← fill name d.id (Json.Decoder.optional Decoder.credentialId) j }
  | "credentialSubject" => return { d with subject := ← fill name d.subject Json.Decoder.members j }
  | "credentialSchema" =>
    return { d with schema := ← fill name d.schema (SchemaReference.decode setting) j }
  | "credentialStatus" =>
    return { d with
      status := ← fill name d.status (Json.Decoder.optional (StatusReference.decode setting)) j }
  | "issuer" => return { d with issuer := ← fill name d.issuer Decoder.did j }
  | "issuanceDate" =>
    return { d with
      issuanceDate := ← fill name d.issuanceDate (Json.Decoder.optional Decoder.timestamp) j }
  | "nonTransferable" =>
    return { d with nonTransferable := ← fill name d.nonTransferable Json.Decoder.boolean j }
  | "proof" =>
    return { d with
      proof := ← fill name d.proof (Json.Decoder.optional (AttestationProof.decode setting)) j }
  | _ => return d

def Draft.putTrustModel (d : Draft)
    (r : Except DocumentError (List (TrustEntry VerifiableCredential))) :
    Except DocumentError Draft :=
  match d.trustModel with
  | some _ => .error (.repeatedField "federatedTrustModel")
  | none => return { d with trustModel := some (← r) }

def Draft.finish (absent : String → DocumentError) (d : Draft) :
    Except DocumentError VerifiableCredential := do
  let contexts ← RecordForm.require absent "@context" d.contexts
  let types ← RecordForm.require absent "type" d.types
  let subject ← RecordForm.require absent "credentialSubject" d.subject
  let schema ← RecordForm.require absent "credentialSchema" d.schema
  let issuer ← RecordForm.require absent "issuer" d.issuer
  let nonTransferable ← RecordForm.require absent "nonTransferable" d.nonTransferable
  return {
    contexts, types, subject, schema, issuer, nonTransferable
    id := d.id.getD none
    status := d.status.getD none
    issuanceDate := d.issuanceDate.getD none
    trustModel := d.trustModel.getD []
    proof := d.proof.getD none }

inductive EntryKind where
  | legitimation
  | delegation

def EntryKind.form : EntryKind → RecordForm
  | .legitimation =>
    ⟨"struct variant TrustModelEntry::KiltAttesterLegitimationV1", ["id", "verifiableCredential"]⟩
  | .delegation =>
    ⟨"struct variant TrustModelEntry::KiltAttesterDelegationV1", ["id", "delegators"]⟩

/-- The kind of an entry by its name. Inside an entry that was set aside, a number will do. -/
def decodeKind (setting : Setting) : Decoder EntryKind
  | .str s =>
    if s = TrustEntry.legitimationType then .ok .legitimation
    else if s = TrustEntry.delegationType then .ok .delegation
    else .error (.unknownVariant s TrustEntry.legitimationType TrustEntry.delegationType)
  | .int n =>
    match setting with
    | .direct => .error (.wrongType (.int n) "variant identifier")
    | .setAside =>
      if n = 0 then .ok .legitimation
      else if n = 1 then .ok .delegation
      else if n < 0 then .error (.wrongType (.int n) "variant identifier")
      else .error (.wrongValue (.int n) "variant index 0 <= i < 2")
  | j => .error (.wrongType j "variant identifier")

def findKind (setting : Setting) (kind : Option EntryKind) :
    List (String × Json) → Except DocumentError EntryKind
  | [] =>
    match kind with
    | some kind => .ok kind
    | none => .error (.missingField "type")
  | (name, j) :: rest =>
    if name = "type" then
      match kind with
      | some _ => .error (.repeatedField "type")
      | none => do findKind setting (some (← decodeKind setting j)) rest
    else findKind setting kind rest

structure LegitimationDraft where
  id : Option CredentialId := none
  credential : Option (Option VerifiableCredential) := none

def LegitimationDraft.putCredential (d : LegitimationDraft)
    (r : Except DocumentError (Option VerifiableCredential)) :
    Except DocumentError LegitimationDraft :=
  match d.credential with
  | some _ => .error (.repeatedField "verifiableCredential")
  | none => return { d with credential := some (← r) }

def nullOr {α : Type} (j : Json) (r : Except DocumentError α) : Except DocumentError (Option α) :=
  match j with
  | .null => .ok none
  | _ => r.map some

def LegitimationDraft.finish (absent : String → DocumentError) (d : LegitimationDraft) :
    Except DocumentError (TrustEntry VerifiableCredential) :=
  return .legitimation (← RecordForm.require absent "id" d.id) (d.credential.getD none)

structure DelegationDraft where
  id : Option DelegationId := none
  delegators : Option (Option (List Did)) := none

def DelegationDraft.put (d : DelegationDraft) (name : String) (j : Json) :
    Except DocumentError DelegationDraft :=
  match name with
  | "id" => return { d with id := ← fill name d.id Decoder.delegationId j }
  | "delegators" =>
    return { d with
      delegators := ← fill name d.delegators
        (Json.Decoder.optional (Json.Decoder.list Decoder.did)) j }
  | _ => return d

def DelegationDraft.finish (absent : String → DocumentError) (d : DelegationDraft) :
    Except DocumentError (TrustEntry VerifiableCredential) :=
  return .delegation (← RecordForm.require absent "id" d.id) (d.delegators.getD none)

mutual

def decodeIn (setting : Setting) : Json → Except DocumentError VerifiableCredential
  | .obj members => do (← decodeMembers setting {} members).finish RecordForm.absentMember
  | .arr items => do
    let c ← (← decodeItems setting {} form.fields items).finish form.absentItem
    form.checkCount setting items.length
    return c
  | j => .error (.wrongType j form.title)

def decodeMembers (setting : Setting) (d : Draft) :
    List (String × Json) → Except DocumentError Draft
  | [] => .ok d
  | (name, j) :: rest => do
    let d ← if name = "federatedTrustModel" then d.putTrustModel (decodeEntries setting j)
      else d.put setting name j
    decodeMembers setting d rest

def decodeItems (setting : Setting) (d : Draft) :
    List String → List Json → Except DocumentError Draft
  | name :: names, j :: rest => do
    let d ← if name = "federatedTrustModel" then d.putTrustModel (decodeEntries setting j)
      else d.put setting name j
    decodeItems setting d names rest
  | _, _ => .ok d

def decodeEntries (setting : Setting) :
    Json → Except DocumentError (List (TrustEntry VerifiableCredential))
  | .arr items => decodeAllEntries setting items
  | j => .error (.wrongType j "a sequence")

def decodeAllEntries (setting : Setting) :
    List Json → Except DocumentError (List (TrustEntry VerifiableCredential))
  | [] => .ok []
  | j :: rest => do return (← decodeEntry setting j) :: (← decodeAllEntries setting rest)

/-- Decodes an entry of a trust model: an object with a kind among its members, or an array that
starts with the kind. -/
def decodeEntry (setting : Setting) :
    Json → Except DocumentError (TrustEntry VerifiableCredential)
  | .obj members => do
    match ← findKind setting none members with
    | .legitimation =>
      (← decodeLegitimationMembers {} members).finish RecordForm.absentMember
    | .delegation =>
      (← (members.filter fun m => m.1 != "type").foldlM (fun d m => d.put m.1 m.2)
        ({} : DelegationDraft)).finish RecordForm.absentMember
  | .arr [] => .error (.missingField "type")
  | .arr (kind :: items) => do
    match ← decodeKind setting kind with
    | .legitimation =>
      let e ← (← decodeLegitimationItems items).finish EntryKind.legitimation.form.absentItem
      EntryKind.legitimation.form.checkCount .setAside items.length
      return e
    | .delegation =>
      EntryKind.delegation.form.decode .setAside ({} : DelegationDraft) DelegationDraft.put
        DelegationDraft.finish (.arr items)
  | j => .error (.wrongType j "internally tagged enum TrustModelEntry")

def decodeLegitimationMembers (d : LegitimationDraft) :
    List (String × Json) → Except DocumentError LegitimationDraft
  | [] => .ok d
  | (name, j) :: rest => do
    let d ← if name = "id" then
        pure { d with id := ← fill name d.id Decoder.credentialId j }
      else if name = "verifiableCredential" then d.putCredential (nullOr j (decodeIn .setAside j))
      else pure d
    decodeLegitimationMembers d rest

def decodeLegitimationItems : List Json → Except DocumentError LegitimationDraft
  | [] => .ok {}
  | [id] => do return { id := some (← Decoder.credentialId id) }
  | id :: c :: _ => do
    return {
      id := some (← Decoder.credentialId id)
      credential := some (← nullOr c (decodeIn .setAside c)) }

end

def decode : Decoder VerifiableCredential := decodeIn .direct

end VerifiableCredential

namespace TrustEntry

def toJson (e : TrustEntry VerifiableCredential) : Json := VerifiableCredential.entryToJson e

def decode : Decoder (TrustEntry VerifiableCredential) := VerifiableCredential.decodeEntry .direct

end TrustEntry

end SelectiveDisclosure
