import SelectiveDisclosure.Proofs.SaltedRoots
import SelectiveDisclosure.Proofs.WrittenFields
import SelectiveDisclosure.Salted.Document

namespace SelectiveDisclosure

open Json.Decoder (fill)
open Decoder (fill_free)

theorem Claim.decode_toJson (c : Claim) : Claim.decode c.toJson = .ok c := by
  have ctypeHash (d : Draft) (free : d.ctypeHash = none) :
      d.put "cTypeHash" (.ofText c.ctypeHash) = .ok { d with ctypeHash := some c.ctypeHash } :=
    fill_free free (Decoder.hash_written c.ctypeHash) _ fun o => ({ d with ctypeHash := o } : Draft)
  have contents (d : Draft) (free : d.contents = none) :
      d.put "contents" (.ofMap c.contents) = .ok { d with contents := some c.contents } :=
    fill_free free (Decoder.members_written c.contents) _
      fun o => ({ d with contents := o } : Draft)
  have owner (d : Draft) (free : d.owner = none) :
      d.put "owner" (.ofText c.owner) = .ok { d with owner := some c.owner } :=
    fill_free free (Decoder.did_written c.owner) _ fun o => ({ d with owner := o } : Draft)
  rw [decode, toJson, Json.RecordForm.decode]
  simp only [List.foldlM_cons, ctypeHash, contents, owner, Outcome.ok_bind]
  rfl

theorem NonceMap.decode_toJson (m : NonceMap) : NonceMap.decode m.toJson = .ok m :=
  Decoder.map_written Hash256.ofText_toHex Decoder.string_written m

namespace SaltedCredential

section Fields

variable (d : Draft)

theorem put_claim (free : d.claim = none) (c : Claim) :
    d.put "claim" c.toJson = .ok { d with claim := some c } :=
  fill_free free c.decode_toJson _ fun o => ({ d with claim := o } : Draft)

theorem put_claimHashes (free : d.claimHashes = none) (hashes : List Hash256) :
    d.put "claimHashes" (.arr (hashes.map .ofText)) = .ok { d with claimHashes := some hashes } :=
  fill_free free (Decoder.list_written fun h _ => Decoder.hash_written h) _
    fun o => ({ d with claimHashes := o } : Draft)

theorem put_nonces (free : d.nonces = none) (nonces : NonceMap) :
    d.put "claimNonceMap" nonces.toJson = .ok { d with nonces := some nonces } :=
  fill_free free nonces.decode_toJson _ fun o => ({ d with nonces := o } : Draft)

theorem putLegitimations_ok (free : d.legitimations = none) (cs : List SaltedCredential) :
    d.putLegitimations (.ok cs) = .ok { d with legitimations := some cs } := by
  rw [Draft.putLegitimations, free]
  rfl

theorem put_delegationId (free : d.delegationId = none) (id : Option Hash256) :
    d.put "delegationId" (.ofOption .ofText id) = .ok { d with delegationId := some id } :=
  fill_free free (Decoder.optionalHash_written id) _
    fun o => ({ d with delegationId := o } : Draft)

theorem put_rootHash (free : d.rootHash = none) (h : Hash256) :
    d.put "rootHash" (.ofText h) = .ok { d with rootHash := some h } :=
  fill_free free (Decoder.hash_written h) _ fun o => ({ d with rootHash := o } : Draft)

end Fields

mutual

theorem decode_toJson : ∀ c : SaltedCredential, decode c.toJson = .ok c
  | ⟨claim, claimHashes, nonces, legitimations, delegationId, rootHash⟩ => by
    have all := decodeAll_toJsonAll legitimations
    rw [toJson, decode]
    simp only [decodeMembers, String.reduceEq, ↓reduceIte, put_claim, put_claimHashes, put_nonces,
      decodeLegitimations, all, putLegitimations_ok, put_delegationId, put_rootHash,
      Outcome.ok_bind]
    rfl

theorem decodeAll_toJsonAll : ∀ cs : List SaltedCredential, decodeAll (toJsonAll cs) = .ok cs
  | [] => rfl
  | c :: rest => by
    have first := decode_toJson c
    have others := decodeAll_toJsonAll rest
    rw [toJsonAll, decodeAll, first, others]
    rfl

end

theorem parse_toJson (c : SaltedCredential) :
    parse c.toJson = c.verifyStructure.map fun _ => c := by
  rw [parse, decode_toJson, Except.mapError, Outcome.ok_bind]
  cases c.verifyStructure <;> rfl

theorem structured_of_parsed {j : Json} {c : SaltedCredential} (parsed : parse j = .ok c) :
    c.verifyStructure = .ok () := by
  rw [parse] at parsed
  simp only [Outcome.bind_ok_iff, Outcome.pure_ok_iff] at parsed
  obtain ⟨_, _, _, structured, rfl⟩ := parsed
  exact structured

/-- A credential that is written is read as it was if its structure is in order, and is refused for
its structure otherwise. What was once read is in order. -/
theorem parse_written (c : SaltedCredential) :
    (parse c.toJson = .ok c ↔ c.verifyStructure = .ok ())
      ∧ (∀ e, parse c.toJson = .error e ↔ c.verifyStructure = .error e)
      ∧ ∀ j, parse j = .ok c → parse c.toJson = .ok c := by
  have whole : parse c.toJson = .ok c ↔ c.verifyStructure = .ok () := by
    rw [parse_toJson]
    cases c.verifyStructure <;> simp [Except.map]
  refine ⟨whole, ?_, ?_⟩
  · intro e
    rw [parse_toJson]
    cases c.verifyStructure <;> simp [Except.map]
  · intro j parsed
    exact whole.mpr (structured_of_parsed parsed)

section Sample

def hashlessBare : SaltedCredential := { groupedBare with claimHashes := [] }

theorem grouped_read_back : ∃ j, parse j = .ok groupedBare
    ∧ parse groupedBare.toJson = .ok groupedBare ∧ groupedBare.legitimations ≠ []
    ∧ groupedBare.delegationId.isSome
    ∧ parse hashlessBare.toJson = .error (.shape .noClaimHashes) := by
  obtain ⟨whole, _, again⟩ := parse_written groupedBare
  have read := whole.mpr grouped_structured
  exact ⟨_, read, again _ read, nofun, rfl, ((parse_written hashlessBare).2.1 _).mpr rfl⟩

end Sample

end SaltedCredential

end SelectiveDisclosure
