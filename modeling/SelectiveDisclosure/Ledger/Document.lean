import SelectiveDisclosure.Json.Selection
import SelectiveDisclosure.Ledger.Basic
import SelectiveDisclosure.Salted.Document

namespace SelectiveDisclosure

open Json (RecordForm Selection)
open Json.Decoder (fill)

namespace AttestationEvent

def toJson (e : AttestationEvent) : Json := .obj [
  ("attester", .ofText e.attester),
  ("ctypeHash", .ofText e.ctypeHash),
  ("authorizationId", .ofOption .ofText e.authorizationId),
  ("timestamp", .int e.timestamp.toNat)]

def form : RecordForm :=
  ⟨"struct AttestationEvent", ["attester", "ctypeHash", "authorizationId", "timestamp"]⟩

structure Draft where
  attester : Option Did := none
  ctypeHash : Option Hash256 := none
  authorizationId : Option (Option Hash256) := none
  timestamp : Option UInt64 := none

def Draft.put (d : Draft) (name : String) (j : Json) : Except DocumentError Draft :=
  match name with
  | "attester" => return { d with attester := ← fill name d.attester Decoder.did j }
  | "ctypeHash" => return { d with ctypeHash := ← fill name d.ctypeHash Decoder.hash j }
  | "authorizationId" =>
    return { d with
      authorizationId := ← fill name d.authorizationId (Json.Decoder.optional Decoder.hash) j }
  | "timestamp" => return { d with timestamp := ← fill name d.timestamp Json.Decoder.word j }
  | _ => return d

def Draft.finish (absent : String → DocumentError) (d : Draft) :
    Except DocumentError AttestationEvent := do
  let attester ← RecordForm.require absent "attester" d.attester
  let ctypeHash ← RecordForm.require absent "ctypeHash" d.ctypeHash
  let timestamp ← RecordForm.require absent "timestamp" d.timestamp
  return { attester, ctypeHash, timestamp, authorizationId := d.authorizationId.getD none }

def decode : Decoder AttestationEvent := form.decode .direct {} Draft.put Draft.finish

end AttestationEvent

namespace DelegationNode

def toJson (n : DelegationNode) : Json := .obj [
  ("owner", .ofText n.owner),
  ("parent", .ofOption .ofText n.parent),
  ("revoked", .bool n.revoked)]

def form : RecordForm := ⟨"struct DelegationNode", ["owner", "parent", "revoked"]⟩

structure Draft where
  owner : Option Did := none
  parent : Option (Option Hash256) := none
  revoked : Option Bool := none

def Draft.put (d : Draft) (name : String) (j : Json) : Except DocumentError Draft :=
  match name with
  | "owner" => return { d with owner := ← fill name d.owner Decoder.did j }
  | "parent" =>
    return { d with parent := ← fill name d.parent (Json.Decoder.optional Decoder.hash) j }
  | "revoked" => return { d with revoked := ← fill name d.revoked Json.Decoder.boolean j }
  | _ => return d

def Draft.finish (absent : String → DocumentError) (d : Draft) :
    Except DocumentError DelegationNode := do
  let owner ← RecordForm.require absent "owner" d.owner
  return { owner, parent := d.parent.getD none, revoked := d.revoked.getD false }

def decode : Decoder DelegationNode := form.decode .direct {} Draft.put Draft.finish

end DelegationNode

namespace Ledger

def toJson (l : Ledger) : Json := .obj [
  ("genesisHash", .ofText l.genesis),
  ("events", .ofMapWith Hash256.toHex (.ofMapWith Hash256.toHex AttestationEvent.toJson) l.events),
  ("attestations", .ofMapWith Hash256.toHex Attestation.toJson l.attestations),
  ("delegations", .ofMapWith Hash256.toHex DelegationNode.toJson l.delegations)]

def form : RecordForm :=
  ⟨"struct MemoryChain", ["genesisHash", "events", "attestations", "delegations"]⟩

structure Draft where
  genesis : Option Hash256 := none
  events : Option (OrderedMap Hash256 (OrderedMap Hash256 AttestationEvent)) := none
  attestations : Option (OrderedMap Hash256 Attestation) := none
  delegations : Option (OrderedMap Hash256 DelegationNode) := none

def byHash {α : Type} (item : Decoder α) : Decoder (OrderedMap Hash256 α) :=
  Json.Decoder.map Hash256.ofText item

def Draft.put (d : Draft) (name : String) (j : Json) : Except DocumentError Draft :=
  match name with
  | "genesisHash" => return { d with genesis := ← fill name d.genesis Decoder.hash j }
  | "events" =>
    return { d with events := ← fill name d.events (byHash (byHash AttestationEvent.decode)) j }
  | "attestations" =>
    return { d with attestations := ← fill name d.attestations (byHash Attestation.decode) j }
  | "delegations" =>
    return { d with delegations := ← fill name d.delegations (byHash DelegationNode.decode) j }
  | _ => return d

def Draft.finish (absent : String → DocumentError) (d : Draft) : Except DocumentError Ledger := do
  let genesis ← RecordForm.require absent "genesisHash" d.genesis
  return {
    genesis
    events := d.events.getD .empty
    attestations := d.attestations.getD .empty
    delegations := d.delegations.getD .empty
    unavailable := none }

def decode : Decoder Ledger := form.decode .direct {} Draft.put Draft.finish

def notJson : String := "<json>"

def selection : Selection := .fields [
  ("genesisHash", .whole),
  ("events", .entries (.entries (.ofFields AttestationEvent.form.fields))),
  ("attestations", .entries (.ofFields Attestation.form.fields)),
  ("delegations", .entries (.ofFields DelegationNode.form.fields))]

/-- The ledger of a snapshot. Members are taken as the text has them: a field must not stand there
twice, while of two entries for one digest the later stays. -/
def ofText (text : String) : Except LedgerError Ledger :=
  match (Json.parseSelected? selection text).map decode with
  | some (.ok l) => .ok l
  | _ => .error ⟨s!"invalid chain snapshot: {notJson}"⟩

end Ledger

end SelectiveDisclosure
