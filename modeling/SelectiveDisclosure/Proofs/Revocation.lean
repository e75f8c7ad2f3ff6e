import SelectiveDisclosure.Proofs.Acceptance
import SelectiveDisclosure.Proofs.Issuance

namespace SelectiveDisclosure

def LedgerStep.Attests (claimHash : Hash256) : LedgerStep → Prop
  | record _ _ a => a.claimHash = claimHash
  | _ => False

namespace Ledger

/-- If the ledger has a record of the claim at all, it is a revoked one. -/
def Withdrawn (l : Ledger) (claimHash : Hash256) : Prop :=
  ∀ a, l.attestations.get? claimHash = some a → a.revoked = true

theorem withdrawn_of_revoked (l : Ledger) (claimHash : Hash256) :
    (l.revoke claimHash).1.Withdrawn claimHash := by
  intro a found
  simp only [revoke, OrderedMap.get?_modify, if_true, Option.map_eq_some_iff] at found
  obtain ⟨_, _, rfl⟩ := found
  rfl

theorem withdrawn_apply {l : Ledger} {claimHash : Hash256} (withdrawn : l.Withdrawn claimHash)
    {step : LedgerStep} (other : ¬ step.Attests claimHash) :
    (l.apply step).Withdrawn claimHash := by
  intro a found
  cases step with
  | record block timestamp a' =>
    have differs : claimHash ≠ a'.claimHash := fun same => other same.symm
    simp only [apply, Ledger.record, OrderedMap.get?_insert, if_neg differs] at found
    exact withdrawn a found
  | revoke claimHash' =>
    simp only [apply, revoke, OrderedMap.get?_modify] at found
    split at found
    · obtain ⟨_, _, rfl⟩ := Option.map_eq_some_iff.mp found
      rfl
    · exact withdrawn a found
  | removeAttestation claimHash' =>
    simp only [apply, removeAttestation, OrderedMap.get?_erase] at found
    split at found
    · contradiction
    · exact withdrawn a found
  | addDelegation id node => exact withdrawn a found
  | revokeDelegation id => exact withdrawn a found
  | setUnavailable reason => exact withdrawn a found

theorem withdrawn_run {l : Ledger} {claimHash : Hash256} (withdrawn : l.Withdrawn claimHash)
    {steps : List LedgerStep} (others : ∀ step ∈ steps, ¬ step.Attests claimHash) :
    (l.run steps).Withdrawn claimHash := by
  induction steps generalizing l with
  | nil => exact withdrawn
  | cons step steps ih =>
    obtain ⟨other, others⟩ := List.forall_mem_cons.mp others
    exact ih (withdrawn_apply withdrawn other) others

theorem get?_eq_none_apply_iff {l : Ledger} {claimHash : Hash256} {step : LedgerStep}
    (other : ¬ step.Attests claimHash) : (l.apply step).attestations.get? claimHash = none
      ↔ l.attestations.get? claimHash = none ∨ step = .removeAttestation claimHash := by
  cases step with
  | record block timestamp a =>
    have differs : claimHash ≠ a.claimHash := fun same => other same.symm
    simp [apply, Ledger.record, OrderedMap.get?_insert, differs]
  | revoke claimHash' =>
    simp only [apply, revoke, OrderedMap.get?_modify, reduceCtorEq, or_false]
    split <;> simp
  | removeAttestation claimHash' =>
    simp only [apply, removeAttestation, OrderedMap.get?_erase, LedgerStep.removeAttestation.injEq]
    by_cases same : claimHash = claimHash'
    · simp [same]
    · simp [same, Ne.symm same]
  | addDelegation id node => simp [apply, addDelegation]
  | revokeDelegation id => simp [apply, revokeDelegation]
  | setUnavailable reason => simp [apply, setUnavailable]

theorem get?_eq_none_run_iff {l : Ledger} {claimHash : Hash256} {steps : List LedgerStep}
    (others : ∀ step ∈ steps, ¬ step.Attests claimHash) :
    (l.run steps).attestations.get? claimHash = none
      ↔ l.attestations.get? claimHash = none ∨ .removeAttestation claimHash ∈ steps := by
  induction steps generalizing l with
  | nil => simp [run]
  | cons step steps ih =>
    obtain ⟨other, others⟩ := List.forall_mem_cons.mp others
    rw [run, List.foldl_cons, ← run, ih others, get?_eq_none_apply_iff other, List.mem_cons,
      or_assoc, eq_comm (a := step)]

theorem ask_attestation {l : Ledger} (available : l.unavailable = none) (claimHash : Hash256) :
    ask (l.attestation claimHash) = .ok (l.attestations.get? claimHash) := by
  rw [attestation, ask_answer_ok_iff]
  exact ⟨available, rfl⟩

end Ledger

namespace VerifiableCredential

section Status

variable {c : VerifiableCredential} {l : Ledger} {root : Hash256}

theorem checkStatus_absent (identity : c.id = some ⟨root⟩) (available : l.unavailable = none)
    (absent : l.attestations.get? root = none) :
    c.checkStatus l = .error (.notFound (.attestation root)) := by
  rw [checkStatus, (rootHash_ok_iff c root).mpr identity]
  simp only [Outcome.ok_bind, Ledger.ask_attestation available, absent]
  rfl

theorem checkStatus_revoked (identity : c.id = some ⟨root⟩) (available : l.unavailable = none)
    {a : Attestation} (found : l.attestations.get? root = some a) (revoked : a.revoked = true) :
    c.checkStatus l = .error (.revoked (.attestation root)) := by
  rw [checkStatus, (rootHash_ok_iff c root).mpr identity]
  simp only [Outcome.ok_bind, Ledger.ask_attestation available, found, revoked, if_true]
  rfl

theorem checkStatus_unavailable (identity : c.id = some ⟨root⟩) {reason : String}
    (unavailable : l.unavailable = some reason) : c.checkStatus l = .error (.ledger ⟨reason⟩) := by
  rw [checkStatus, (rootHash_ok_iff c root).mpr identity]
  simp only [Outcome.ok_bind, Ledger.attestation, Ledger.answer, unavailable]
  rfl

theorem checkStatus_not_ok_of_withdrawn (identity : c.id = some ⟨root⟩)
    (withdrawn : l.Withdrawn root) (record : Attestation) : c.checkStatus l ≠ .ok record := by
  intro passed
  cases available : l.unavailable with
  | some reason =>
    rw [checkStatus_unavailable identity available] at passed
    contradiction
  | none =>
    cases found : l.attestations.get? root with
    | none =>
      rw [checkStatus_absent identity available found] at passed
      contradiction
    | some a =>
      rw [checkStatus_revoked identity available found (withdrawn a found)] at passed
      contradiction

theorem checkStatus_of_verifyCurrent {r : Report} (verified : c.verifyCurrent l = .ok r) :
    ∃ record, c.checkStatus l = .ok record := by
  rw [verifyCurrent] at verified
  cases inside : c.proof with
  | none =>
    rw [inside] at verified
    exact absurd verified Outcome.throw_not_ok
  | some p =>
    simp only [inside, Outcome.bind_ok_iff] at verified
    obtain ⟨_, _, record, passed, _⟩ := verified
    exact ⟨record, passed⟩

end Status

/-- After a record was revoked, and until the claim is attested anew, no credential with that root
hash passes the check of its status or verifies as current, whatever else happens on the ledger.
While the ledger answers, the status is revoked as long as the record is there, and not found when
it was removed. -/
theorem revoked_never_verifies (l : Ledger) (root : Hash256) (revoked : (l.revoke root).2 = true)
    (steps : List LedgerStep) (others : ∀ step ∈ steps, ¬ step.Attests root) (later : Ledger)
    (reached : later = (l.revoke root).1.run steps) (c : VerifiableCredential)
    (identity : c.id = some ⟨root⟩) :
    (∀ r, c.verifyCurrent later ≠ .ok r) ∧ (∀ record, c.checkStatus later ≠ .ok record)
      ∧ (later.attestations.contains root ↔ .removeAttestation root ∉ steps)
      ∧ (later.unavailable = none → later.attestations.contains root →
        c.checkStatus later = .error (.revoked (.attestation root)))
      ∧ (later.unavailable = none → ¬ later.attestations.contains root →
        c.checkStatus later = .error (.notFound (.attestation root))) := by
  subst reached
  have withdrawn := Ledger.withdrawn_run (l.withdrawn_of_revoked root) others
  have notOk := checkStatus_not_ok_of_withdrawn identity withdrawn
  refine ⟨?_, notOk, ?_, ?_, ?_⟩
  · intro r verified
    obtain ⟨record, passed⟩ := checkStatus_of_verifyCurrent verified
    exact notOk record passed
  · have there : (l.revoke root).1.attestations.get? root ≠ none := by
      obtain ⟨a, found⟩ := (OrderedMap.contains_iff _ _).mp revoked
      simp [Ledger.revoke, OrderedMap.get?_modify, found]
    have gone := Ledger.get?_eq_none_run_iff others (l := (l.revoke root).1)
    rw [OrderedMap.contains, Option.isSome_iff_ne_none, ne_eq, gone, not_or]
    exact and_iff_right there
  · intro available present
    obtain ⟨a, found⟩ := (OrderedMap.contains_iff _ _).mp present
    exact checkStatus_revoked identity available found (withdrawn a found)
  · intro available absent
    rw [OrderedMap.contains, Bool.not_eq_true, Option.isSome_eq_false_iff,
      Option.isNone_iff_eq_none] at absent
    exact checkStatus_absent identity available absent

section Sample

open CredentialInput

def sampleRoot : Hash256 := ⟨List.replicate 32 9, rfl⟩

def attestationOf (claimHash : Hash256) : Attestation where
  claimHash
  ctypeHash := (sample .empty [] none).ctypeHash
  owner := (sample .empty [] none).issuer
  delegationId := none
  revoked := false

def attestedLedger : Ledger :=
  (Ledger.new (sampleInclusion 4).genesis).record (sampleInclusion 4).block 0
    (attestationOf sampleRoot)

def stepsAfterRevocation : List LedgerStep := [
  .record (sampleInclusion 5).block 0 (attestationOf sampleNode),
  .revoke sampleRoot,
  .removeAttestation sampleRoot]

theorem sample_never_verifies_again : (attestedLedger.revoke sampleRoot).2 = true
    ∧ (∀ step ∈ stepsAfterRevocation, ¬ step.Attests sampleRoot)
    ∧ ∃ c : VerifiableCredential, c.id = some ⟨sampleRoot⟩
      ∧ (∀ r, c.verifyCurrent ((attestedLedger.revoke sampleRoot).1.run stepsAfterRevocation)
        ≠ .ok r)
      ∧ c.checkStatus ((attestedLedger.revoke sampleRoot).1.run (stepsAfterRevocation.take 2))
        = .error (.revoked (.attestation sampleRoot))
      ∧ c.checkStatus ((attestedLedger.revoke sampleRoot).1.run stepsAfterRevocation)
        = .error (.notFound (.attestation sampleRoot)) := by
  have revoked : (attestedLedger.revoke sampleRoot).2 = true := by decide
  have others : ∀ step ∈ stepsAfterRevocation, ¬ step.Attests sampleRoot := by
    intro step there
    simp only [stepsAfterRevocation, List.mem_cons, List.not_mem_nil, or_false] at there
    obtain rfl | rfl | rfl := there
    · show ¬ sampleNode = sampleRoot
      decide
    · exact not_false
    · exact not_false
  have early : ∀ step ∈ stepsAfterRevocation.take 2, ¬ step.Attests sampleRoot :=
    fun step there => others step (List.mem_of_mem_take there)
  let c := ((sample .empty [] none).credential []).finalized sampleRoot ⟨"", "", [], []⟩
    (sampleInclusion 4).genesis sampleDate
  obtain ⟨_, _, _, stillThere, _⟩ :=
    revoked_never_verifies attestedLedger sampleRoot revoked _ early _ rfl c rfl
  obtain ⟨never, _, _, _, gone⟩ :=
    revoked_never_verifies attestedLedger sampleRoot revoked _ others _ rfl c rfl
  exact ⟨revoked, others, c, rfl, never, stillThere rfl (by decide), gone rfl (by decide)⟩

end Sample

end VerifiableCredential

end SelectiveDisclosure
