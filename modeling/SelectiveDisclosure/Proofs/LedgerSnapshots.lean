import SelectiveDisclosure.Ledger.Document
import SelectiveDisclosure.Proofs.LedgerHistory
import SelectiveDisclosure.Proofs.SelectedText
import SelectiveDisclosure.Proofs.WrittenFields

namespace SelectiveDisclosure

open Decoder (fill_free)
open Json (ReadBack Selection)

theorem AttestationEvent.decode_toJson (e : AttestationEvent) : decode e.toJson = .ok e := by
  have attester (d : Draft) (free : d.attester = none) :
      d.put "attester" (.ofText e.attester) = .ok { d with attester := some e.attester } :=
    fill_free free (Decoder.did_written _) _ fun o => ({ d with attester := o } : Draft)
  have ctypeHash (d : Draft) (free : d.ctypeHash = none) :
      d.put "ctypeHash" (.ofText e.ctypeHash) = .ok { d with ctypeHash := some e.ctypeHash } :=
    fill_free free (Decoder.hash_written _) _ fun o => ({ d with ctypeHash := o } : Draft)
  have authorizationId (d : Draft) (free : d.authorizationId = none) :
      d.put "authorizationId" (.ofOption .ofText e.authorizationId)
        = .ok { d with authorizationId := some e.authorizationId } :=
    fill_free free (Decoder.optionalHash_written _) _
      fun o => ({ d with authorizationId := o } : Draft)
  have timestamp (d : Draft) (free : d.timestamp = none) :
      d.put "timestamp" (.int e.timestamp.toNat) = .ok { d with timestamp := some e.timestamp } :=
    fill_free free (Decoder.word_written _) _ fun o => ({ d with timestamp := o } : Draft)
  rw [decode, toJson, Json.RecordForm.decode]
  simp only [List.foldlM_cons]
  -- One field after the other, so that the bound of the timestamp is not computed in between.
  rw [attester _ rfl, Outcome.ok_bind, ctypeHash _ rfl, Outcome.ok_bind, authorizationId _ rfl,
    Outcome.ok_bind, timestamp _ rfl, Outcome.ok_bind]
  rfl

theorem DelegationNode.decode_toJson (n : DelegationNode) : decode n.toJson = .ok n := by
  have owner (d : Draft) (free : d.owner = none) :
      d.put "owner" (.ofText n.owner) = .ok { d with owner := some n.owner } :=
    fill_free free (Decoder.did_written _) _ fun o => ({ d with owner := o } : Draft)
  have parent (d : Draft) (free : d.parent = none) :
      d.put "parent" (.ofOption .ofText n.parent) = .ok { d with parent := some n.parent } :=
    fill_free free (Decoder.optionalHash_written _) _ fun o => ({ d with parent := o } : Draft)
  have revoked (d : Draft) (free : d.revoked = none) :
      d.put "revoked" (.bool n.revoked) = .ok { d with revoked := some n.revoked } :=
    fill_free free (Decoder.boolean_written _) _ fun o => ({ d with revoked := o } : Draft)
  rw [decode, toJson, Json.RecordForm.decode]
  simp only [List.foldlM_cons, owner, parent, revoked, Outcome.ok_bind]
  rfl

theorem Attestation.decode_toJson (a : Attestation) : decode a.toJson = .ok a := by
  have claimHash (d : Draft) (free : d.claimHash = none) :
      d.put "claimHash" (.ofText a.claimHash) = .ok { d with claimHash := some a.claimHash } :=
    fill_free free (Decoder.hash_written _) _ fun o => ({ d with claimHash := o } : Draft)
  have ctypeHash (d : Draft) (free : d.ctypeHash = none) :
      d.put "cTypeHash" (.ofText a.ctypeHash) = .ok { d with ctypeHash := some a.ctypeHash } :=
    fill_free free (Decoder.hash_written _) _ fun o => ({ d with ctypeHash := o } : Draft)
  have owner (d : Draft) (free : d.owner = none) :
      d.put "owner" (.ofText a.owner) = .ok { d with owner := some a.owner } :=
    fill_free free (Decoder.did_written _) _ fun o => ({ d with owner := o } : Draft)
  have delegationId (d : Draft) (free : d.delegationId = none) :
      d.put "delegationId" (.ofOption .ofText a.delegationId)
        = .ok { d with delegationId := some a.delegationId } :=
    fill_free free (Decoder.optionalHash_written _) _
      fun o => ({ d with delegationId := o } : Draft)
  have revoked (d : Draft) (free : d.revoked = none) :
      d.put "revoked" (.bool a.revoked) = .ok { d with revoked := some a.revoked } :=
    fill_free free (Decoder.boolean_written _) _ fun o => ({ d with revoked := o } : Draft)
  rw [decode, toJson, Json.RecordForm.decode]
  simp only [List.foldlM_cons, claimHash, ctypeHash, owner, delegationId, revoked, Outcome.ok_bind]
  rfl

namespace Ledger

theorem byHash_written {α : Type} {item : Decoder α} {write : α → Json}
    (values : ∀ a, item (write a) = .ok a) (m : OrderedMap Hash256 α) :
    byHash item (.ofMapWith Hash256.toHex write m) = .ok m :=
  Decoder.map_written Hash256.ofText_toHex values m

def restored (l : Ledger) : Ledger := { l with unavailable := none }

theorem decode_toJson (l : Ledger) : decode l.toJson = .ok l.restored := by
  have genesis (d : Draft) (free : d.genesis = none) :
      d.put "genesisHash" (.ofText l.genesis) = .ok { d with genesis := some l.genesis } :=
    fill_free free (Decoder.hash_written _) _ fun o => ({ d with genesis := o } : Draft)
  have events (d : Draft) (free : d.events = none) :
      d.put "events" (.ofMapWith Hash256.toHex
          (.ofMapWith Hash256.toHex AttestationEvent.toJson) l.events)
        = .ok { d with events := some l.events } :=
    fill_free free (byHash_written (byHash_written AttestationEvent.decode_toJson) _) _
      fun o => ({ d with events := o } : Draft)
  have attestations (d : Draft) (free : d.attestations = none) :
      d.put "attestations" (.ofMapWith Hash256.toHex Attestation.toJson l.attestations)
        = .ok { d with attestations := some l.attestations } :=
    fill_free free (byHash_written Attestation.decode_toJson _) _
      fun o => ({ d with attestations := o } : Draft)
  have delegations (d : Draft) (free : d.delegations = none) :
      d.put "delegations" (.ofMapWith Hash256.toHex DelegationNode.toJson l.delegations)
        = .ok { d with delegations := some l.delegations } :=
    fill_free free (byHash_written DelegationNode.decode_toJson _) _
      fun o => ({ d with delegations := o } : Draft)
  rw [decode, toJson, Json.RecordForm.decode]
  simp only [List.foldlM_cons, genesis, events, attestations, delegations, Outcome.ok_bind]
  rfl

theorem readBack_event (e : AttestationEvent) :
    ReadBack (.ofFields AttestationEvent.form.fields) e.toJson := by
  have fits : Json.fitsWord e.timestamp.toNat := by
    have above : -Int.pow 2 63 ≤ (e.timestamp.toNat : Int) :=
      Int.le_trans (by decide) (Int.natCast_nonneg _)
    have below : (e.timestamp.toNat : Int) < Int.pow 2 64 := Int.ofNat_lt.mpr e.timestamp.toNat_lt
    rw [Json.fitsWord, decide_eq_true above, decide_eq_true below, Bool.and_self]
  apply Json.readBack_record
  simp only [List.forall_mem_cons]
  exact ⟨⟨by decide, Json.readBack_str _⟩, ⟨by decide, Json.readBack_str _⟩,
    ⟨by decide, Json.readBack_option _⟩, ⟨by decide, Json.readBack_int fits⟩, nofun⟩

theorem readBack_attestation (a : Attestation) :
    ReadBack (.ofFields Attestation.form.fields) a.toJson := by
  apply Json.readBack_record
  simp only [List.forall_mem_cons]
  exact ⟨⟨by decide, Json.readBack_str _⟩, ⟨by decide, Json.readBack_str _⟩,
    ⟨by decide, Json.readBack_str _⟩, ⟨by decide, Json.readBack_option _⟩,
    ⟨by decide, Json.readBack_bool _⟩, nofun⟩

theorem readBack_node (n : DelegationNode) :
    ReadBack (.ofFields DelegationNode.form.fields) n.toJson := by
  apply Json.readBack_record
  simp only [List.forall_mem_cons]
  exact ⟨⟨by decide, Json.readBack_str _⟩, ⟨by decide, Json.readBack_option _⟩,
    ⟨by decide, Json.readBack_bool _⟩, nofun⟩

theorem readBack_toJson (l : Ledger) : ReadBack selection l.toJson := by
  have inside : selection ≠ .whole := by
    rw [selection]
    exact nofun
  apply Json.readBack_obj inside
  simp only [List.forall_mem_cons]
  exact ⟨⟨_, rfl, Json.readBack_str _⟩,
    ⟨_, rfl, Json.readBack_map (Json.readBack_map readBack_event) _⟩,
    ⟨_, rfl, Json.readBack_map readBack_attestation _⟩,
    ⟨_, rfl, Json.readBack_map readBack_node _⟩, nofun⟩

theorem ofText_of_parsed {l : Ledger} {text : String}
    (parsed : Json.parseSelected? selection text = some l.toJson) :
    ofText text = .ok l.restored := by
  rw [ofText, parsed, Option.map_some, decode_toJson]

/-- A snapshot is read back from its value and from both of its texts. The ledger that comes of it
answers, and each answer is what the first one holds. -/
theorem snapshot_read_back (l : Ledger) :
    decode l.toJson = .ok l.restored
    ∧ ofText l.toJson.compact = .ok l.restored
    ∧ ofText l.toJson.indented = .ok l.restored
    ∧ (l.unavailable = none → l.restored = l)
    ∧ l.restored.genesis = l.genesis
    ∧ (∀ block claimHash, l.restored.eventAt block claimHash = .ok (l.event? block claimHash))
    ∧ (∀ id, l.restored.delegationNode id = .ok (l.delegations.get? id))
    ∧ ∀ claimHash, l.restored.attestation claimHash = .ok (l.attestations.get? claimHash) := by
  obtain ⟨compact, indented⟩ := (readBack_toJson l).parse
  refine ⟨decode_toJson l, ofText_of_parsed compact, ofText_of_parsed indented, ?_, rfl,
    fun _ _ => rfl, fun _ => rfl, fun _ => rfl⟩
  intro available
  rw [restored, ← available]

end Ledger

end SelectiveDisclosure
