import SelectiveDisclosure.Proofs.LedgerHistory

namespace SelectiveDisclosure

structure AttestationEvent.Backs (event : AttestationEvent) (a : Attestation) : Prop where
  attester : event.attester = a.owner
  ctypeHash : event.ctypeHash = a.ctypeHash
  authorizationId : event.authorizationId = a.delegationId

namespace Ledger

/-- Every current record stands under its own claim hash, and some block has an event behind it. -/
def Backed (l : Ledger) : Prop :=
  ∀ claimHash a, l.attestations.get? claimHash = some a → a.claimHash = claimHash
    ∧ ∃ block event, l.event? block claimHash = some event ∧ event.Backs a

variable {l : Ledger}

theorem backed_new (genesis : Hash256) : (new genesis).Backed := by
  intro claimHash a found
  contradiction

theorem backed_apply (backed : l.Backed) (step : LedgerStep) : (l.apply step).Backed := by
  intro claimHash a found
  cases step with
  | record block timestamp a' =>
    simp only [apply, record, OrderedMap.get?_insert] at found
    by_cases same : claimHash = a'.claimHash
    · rw [if_pos same, Option.some.injEq] at found
      subst found same
      have written : (l.apply (.record block timestamp a')).event? block a'.claimHash
          = some ⟨a'.owner, a'.ctypeHash, a'.delegationId, timestamp⟩ := by
        rw [apply, event?_record, if_pos ⟨rfl, rfl⟩]
      exact ⟨rfl, block, _, written, rfl, rfl, rfl⟩
    · rw [if_neg same] at found
      obtain ⟨key, block', event, there, backs⟩ := backed claimHash a found
      have apart : ¬(block = block' ∧ a'.claimHash = claimHash) := fun both => same both.2.symm
      refine ⟨key, block', event, ?_, backs⟩
      rw [apply, event?_record, if_neg apart, there]
  | revoke claimHash' =>
    simp only [apply, revoke, OrderedMap.get?_modify] at found
    split at found
    · obtain ⟨a', there, rfl⟩ := Option.map_eq_some_iff.mp found
      obtain ⟨key, block, event, there, backs⟩ := backed claimHash a' there
      exact ⟨key, block, event, there, backs.attester, backs.ctypeHash, backs.authorizationId⟩
    · exact backed claimHash a found
  | removeAttestation claimHash' =>
    simp only [apply, removeAttestation, OrderedMap.get?_erase] at found
    split at found
    · contradiction
    · exact backed claimHash a found
  | addDelegation id node => exact backed claimHash a found
  | revokeDelegation id => exact backed claimHash a found
  | setUnavailable reason => exact backed claimHash a found

theorem backed_run (backed : l.Backed) (steps : List LedgerStep) : (l.run steps).Backed := by
  induction steps generalizing l with
  | nil => exact backed
  | cons step steps ih => exact ih (backed_apply backed step)

variable {block claimHash : Hash256}

theorem exists_event_apply_iff (step : LedgerStep) :
    (∃ event, (l.apply step).event? block claimHash = some event)
      ↔ step.Writes block claimHash ∨ ∃ event, l.event? block claimHash = some event := by
  by_cases writes : step.Writes block claimHash
  · cases step with
    | record block' timestamp a =>
      obtain ⟨rfl, rfl⟩ := writes
      simp [apply, event?_record, LedgerStep.Writes]
    | _ => contradiction
  · simp [event?_apply writes, writes]

theorem exists_event_run_iff (steps : List LedgerStep) :
    (∃ event, (l.run steps).event? block claimHash = some event)
      ↔ (∃ step ∈ steps, step.Writes block claimHash)
        ∨ ∃ event, l.event? block claimHash = some event := by
  induction steps generalizing l with
  | nil => simp [run]
  | cons step steps ih =>
    rw [run, List.foldl_cons, ← run, ih, exists_event_apply_iff, List.exists_mem_cons_iff,
      ← or_assoc, or_comm (a := ∃ step ∈ steps, step.Writes block claimHash)]

/-- In every state of a ledger its current records are backed by events, and there is an event of a
claim in a block exactly if one was ever written there. -/
theorem records_backed_by_events (genesis : Hash256) (steps : List LedgerStep) :
    ((new genesis).run steps).Backed
      ∧ ∀ block claimHash, (∃ event, ((new genesis).run steps).event? block claimHash = some event)
        ↔ ∃ step ∈ steps, step.Writes block claimHash := by
  refine ⟨backed_run (backed_new genesis) steps, ?_⟩
  intro block claimHash
  have fresh : ¬∃ event, (new genesis).event? block claimHash = some event := by
    rintro ⟨event, there⟩
    contradiction
  rw [exists_event_run_iff, or_iff_left fresh]

end Ledger

end SelectiveDisclosure
