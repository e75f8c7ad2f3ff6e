import SelectiveDisclosure.Salted.Attestation

namespace SelectiveDisclosure

open Json (RecordForm)
open Json.Decoder (fill)

namespace Claim

def toJson (c : Claim) : Json := .obj [
  ("cTypeHash", .ofText c.ctypeHash),
  ("contents", .ofMap c.contents),
  ("owner", .ofText c.owner)]

def form : RecordForm := ⟨"struct Claim", ["cTypeHash", "contents", "owner"]⟩

structure Draft where
  ctypeHash : Option Hash256 := none
  contents : Option (OrderedMap String Json) := none
  owner : Option Did := none

def Draft.put (d : Draft) (name : String) (j : Json) : Except DocumentError Draft :=
  match name with
  | "cTypeHash" => return { d with ctypeHash := ← fill name d.ctypeHash Decoder.hash j }
  | "contents" => return { d with contents := ← fill name d.contents Json.Decoder.members j }
  | "owner" => return { d with owner := ← fill name d.owner Decoder.did j }
  | _ => return d

def Draft.finish (absent : String → DocumentError) (d : Draft) : Except DocumentError Claim := do
  let ctypeHash ← RecordForm.require absent "cTypeHash" d.ctypeHash
  let contents ← RecordForm.require absent "contents" d.contents
  let owner ← RecordForm.require absent "owner" d.owner
  return { ctypeHash, contents, owner }

def decode : Decoder Claim := form.decode .direct {} Draft.put Draft.finish

end Claim

namespace NonceMap

def toJson (m : NonceMap) : Json := .ofMapWith Hash256.toHex .str m

def decode : Decoder NonceMap := Json.Decoder.map Hash256.ofText Json.Decoder.string

end NonceMap

namespace SaltedCredential

mutual

def toJson : SaltedCredential → Json
  | ⟨claim, claimHashes, nonces, legitimations, delegationId, rootHash⟩ => .obj [
    ("claim", claim.toJson),
    ("claimHashes", .arr (claimHashes.map .ofText)),
    ("claimNonceMap", nonces.toJson),
    ("legitimations", .arr (toJsonAll legitimations)),
    ("delegationId", .ofOption .ofText delegationId),
    ("rootHash", .ofText rootHash)]

def toJsonAll : List SaltedCredential → List Json
  | [] => []
  | c :: rest => toJson c :: toJsonAll rest

end

def form : RecordForm :=
  ⟨"struct Credential",
    ["claim", "claimHashes", "claimNonceMap", "legitimations", "delegationId", "rootHash"]⟩

structure Draft where
  claim : Option Claim := none
  claimHashes : Option (List Hash256) := none
  nonces : Option NonceMap := none
  legitimations : Option (List SaltedCredential) := none
  delegationId : Option (Option Hash256) := none
  rootHash : Option Hash256 := none

def Draft.put (d : Draft) (name : String) (j : Json) : Except DocumentError Draft :=
  match name with
  | "claim" => return { d with claim := ← fill name d.claim Claim.decode j }
  | "claimHashes" =>
    return { d with claimHashes := ← fill name d.claimHashes (Json.Decoder.list Decoder.hash) j }
  | "claimNonceMap" => return { d with nonces := ← fill name d.nonces NonceMap.decode j }
  | "delegationId" =>
    return { d with
      delegationId := ← fill name d.delegationId (Json.Decoder.optional Decoder.hash) j }
  | "rootHash" => return { d with rootHash := ← fill name d.rootHash Decoder.hash j }
  | _ => return d

def Draft.putLegitimations (d : Draft) (r : Except DocumentError (List SaltedCredential)) :
    Except DocumentError Draft :=
  match d.legitimations with
  | some _ => .error (.repeatedField "legitimations")
  | none => return { d with legitimations := some (← r) }

def Draft.finish (absent : String → DocumentError) (d : Draft) :
    Except DocumentError SaltedCredential := do
  let claim ← RecordForm.require absent "claim" d.claim
  let claimHashes ← RecordForm.require absent "claimHashes" d.claimHashes
  let nonces ← RecordForm.require absent "claimNonceMap" d.nonces
  let rootHash ← RecordForm.require absent "rootHash" d.rootHash
  return {
    claim, claimHashes, nonces, rootHash
    legitimations := d.legitimations.getD []
    delegationId := d.delegationId.getD none }

mutual

def decode : Json → Except DocumentError SaltedCredential
  | .obj members => do (← decodeMembers {} members).finish RecordForm.absentMember
  | .arr items => do
    let c ← (← decodeItems {} form.fields items).finish form.absentItem
    form.checkCount .direct items.length
    return c
  | j => .error (.wrongType j form.title)

def decodeMembers (d : Draft) : List (String × Json) → Except DocumentError Draft
  | [] => .ok d
  | (name, j) :: rest => do
    let d ← if name = "legitimations" then d.putLegitimations (decodeLegitimations j)
      else d.put name j
    decodeMembers d rest

def decodeItems (d : Draft) : List String → List Json → Except DocumentError Draft
  | name :: names, j :: rest => do
    let d ← if name = "legitimations" then d.putLegitimations (decodeLegitimations j)
      else d.put name j
    decodeItems d names rest
  | _, _ => .ok d

def decodeLegitimations : Json → Except DocumentError (List SaltedCredential)
  | .arr items => decodeAll items
  | j => .error (.wrongType j "a sequence")

def decodeAll : List Json → Except DocumentError (List SaltedCredential)
  | [] => .ok []
  | j :: rest => do return (← decode j) :: (← decodeAll rest)

end

def parse (j : Json) : Verified SaltedCredential := do
  let c ← (decode j).mapError fun e => .shape (.notSaltedCredential e)
  c.verifyStructure
  return c

end SaltedCredential

namespace Attestation

def toJson (a : Attestation) : Json := .obj [
  ("claimHash", .ofText a.claimHash),
  ("cTypeHash", .ofText a.ctypeHash),
  ("owner", .ofText a.owner),
  ("delegationId", .ofOption .ofText a.delegationId),
  ("revoked", .bool a.revoked)]

def form : RecordForm :=
  ⟨"struct Attestation", ["claimHash", "cTypeHash", "owner", "delegationId", "revoked"]⟩

structure Draft where
  claimHash : Option Hash256 := none
  ctypeHash : Option Hash256 := none
  owner : Option Did := none
  delegationId : Option (Option Hash256) := none
  revoked : Option Bool := none

def Draft.put (d : Draft) (name : String) (j : Json) : Except DocumentError Draft :=
  match name with
  | "claimHash" => return { d with claimHash := ← fill name d.claimHash Decoder.hash j }
  | "cTypeHash" => return { d with ctypeHash := ← fill name d.ctypeHash Decoder.hash j }
  | "owner" => return { d with owner := ← fill name d.owner Decoder.did j }
  | "delegationId" =>
    return { d with
      delegationId := ← fill name d.delegationId (Json.Decoder.optional Decoder.hash) j }
  | "revoked" => return { d with revoked := ← fill name d.revoked Json.Decoder.boolean j }
  | _ => return d

def Draft.finish (absent : String → DocumentError) (d : Draft) :
    Except DocumentError Attestation := do
  let claimHash ← RecordForm.require absent "claimHash" d.claimHash
  let ctypeHash ← RecordForm.require absent "cTypeHash" d.ctypeHash
  let owner ← RecordForm.require absent "owner" d.owner
  return {
    claimHash, ctypeHash, owner
    delegationId := d.delegationId.getD none
    revoked := d.revoked.getD false }

def decode : Decoder Attestation := form.decode .direct {} Draft.put Draft.finish

end Attestation

end SelectiveDisclosure
