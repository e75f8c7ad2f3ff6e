import SelectiveDisclosure.Ledger.Basic
import SelectiveDisclosure.Proofs.MapLookup
import SelectiveDisclosure.Proofs.StableSort

/-!
What becomes of an event once it is written. Records can be revoked and removed, delegations
changed, and other attestations written; the event in its block is replaced only by another
attestation of the same claim in the same block.
-/

namespace SelectiveDisclosure

inductive LedgerStep where
  | record (block : Hash256) (timestamp : UInt64) (attestation : Attestation)
  | revoke (claimHash : Hash256)
  | removeAttestation (claimHash : Hash256)
  | addDelegation (id : Hash256) (node : DelegationNode)
  | revokeDelegation (id : Hash256)
  | setUnavailable (reason : String)

namespace LedgerStep

def Writes (block claimHash : Hash256) : LedgerStep → Prop
  | record block' _ a => block' = block ∧ a.claimHash = claimHash
  | _ => False

end LedgerStep

namespace Ledger

def apply (l : Ledger) : LedgerStep → Ledger
  | .record block timestamp a => l.record block timestamp a
  | .revoke claimHash => (l.revoke claimHash).1
  | .removeAttestation claimHash => (l.removeAttestation claimHash).1
  | .addDelegation id node => l.addDelegation id node
  | .revokeDelegation id => (l.revokeDelegation id).1
  | .setUnavailable reason => l.setUnavailable reason

def run (l : Ledger) (steps : List LedgerStep) : Ledger := steps.foldl apply l

/-- The event of a claim in a block, whether or not the ledger answers queries. -/
def event? (l : Ledger) (block claimHash : Hash256) : Option AttestationEvent :=
  (l.events.get? block).bind (·.get? claimHash)

/-- An attestation was written, and nothing that came later replaced its event. -/
def LastRecorded (l : Ledger) (block : Hash256) (timestamp : UInt64) (a : Attestation) : Prop :=
  ∃ (before : Ledger) (later : List LedgerStep), l = (before.record block timestamp a).run later
    ∧ ∀ step ∈ later, ¬ step.Writes block a.claimHash

theorem event?_record (l : Ledger) (block : Hash256) (timestamp : UInt64) (a : Attestation)
    (block' claimHash : Hash256) : (l.record block timestamp a).event? block' claimHash
      = if block = block' ∧ a.claimHash = claimHash
        then some ⟨a.owner, a.ctypeHash, a.delegationId, timestamp⟩
        else l.event? block' claimHash := by
  simp only [event?, record, OrderedMap.get?_insert]
  by_cases sameBlock : block' = block
  · subst sameBlock
    rw [if_pos rfl, Option.bind_some, OrderedMap.get?_insert]
    by_cases sameClaim : claimHash = a.claimHash
    · rw [if_pos sameClaim, if_pos ⟨rfl, sameClaim.symm⟩]
    · rw [if_neg sameClaim, if_neg fun both => sameClaim both.2.symm]
      cases l.events.get? block' <;> rfl
  · rw [if_neg sameBlock, if_neg fun both => sameBlock both.1.symm]

theorem event?_apply {l : Ledger} {step : LedgerStep} {block claimHash : Hash256}
    (other : ¬ step.Writes block claimHash) :
    (l.apply step).event? block claimHash = l.event? block claimHash := by
  cases step with
  | record block' timestamp a =>
    rw [apply, event?_record]
    exact if_neg other
  | revoke claimHash => rfl
  | removeAttestation claimHash => rfl
  | addDelegation id node => rfl
  | revokeDelegation id => rfl
  | setUnavailable reason => rfl

theorem event?_run {l : Ledger} {steps : List LedgerStep} {block claimHash : Hash256}
    (others : ∀ step ∈ steps, ¬ step.Writes block claimHash) :
    (l.run steps).event? block claimHash = l.event? block claimHash := by
  induction steps generalizing l with
  | nil => rfl
  | cons step steps ih =>
    obtain ⟨other, others⟩ := List.forall_mem_cons.mp others
    rw [run, List.foldl_cons, ← run, ih others, event?_apply other]

theorem event?_of_lastRecorded {l : Ledger} {block : Hash256} {timestamp : UInt64}
    {a : Attestation} (recorded : l.LastRecorded block timestamp a) :
    l.event? block a.claimHash = some ⟨a.owner, a.ctypeHash, a.delegationId, timestamp⟩ := by
  obtain ⟨before, later, rfl, others⟩ := recorded
  rw [event?_run others, event?_record, if_pos ⟨rfl, rfl⟩]

end Ledger

end SelectiveDisclosure
