import SelectiveDisclosure.Proofs.Issuance
import SelectiveDisclosure.Proofs.Refusals

/-!
What is found out about a credential before its ledger is asked, and what only afterwards. An id and
a status are looked for on the way to the place of the attestation. The date and the number of
delegation nodes are looked at when its event is there, so a ledger without an answer comes before a
defect of these.
-/

namespace SelectiveDisclosure

def VerificationError.isFromLedger : VerificationError → Bool
  | ledger _ => true
  | notFound _ => true
  | _ => false

abbrev NotFromLedger {α : Type} (r : Verified α) : Prop :=
  BreaksOnlyIf VerificationError.isFromLedger False r

namespace VerifiableCredential

def undated (c : VerifiableCredential) : VerifiableCredential := { c with issuanceDate := none }

def delegationNodes (c : VerifiableCredential) : List DelegationId :=
  c.trustModel.filterMap (·.delegationId?)

section Offline

variable (c : VerifiableCredential) (p : AttestationProof)

theorem isFromLedger_of_refusal (e : VerificationError) (refusal : e.isRefusal = true) :
    e.isFromLedger = false := by
  cases e with
  | shape _ | unverifiable _ | mismatch _ _ _ => rfl
  | malformed _ | notFound _ | revoked _ | ledger _ => contradiction

theorem soughtEvent_offline (genesis : Hash256) : NotFromLedger (c.soughtEvent p genesis) := by
  have texts {α : Type} (read : String → Except EncodingError α) (ts : List String) :
      NotFromLedger (ts.mapM fun t => Verified.ofEncoding (read t)) :=
    .mapM fun _ _ => .passOn fun _ => rfl
  exact c.soughtEvent_breaks isFromLedger_of_refusal (.passOn fun _ => rfl) (texts _ p.salts)
    (texts _ p.commitments) genesis

theorem compareEvent_offline (block rootHash : Hash256) (event : AttestationEvent) :
    NotFromLedger (c.compareEvent block rootHash event) :=
  c.compareEvent_breaks isFromLedger_of_refusal block rootHash event

end Offline

/-- What can be seen without the ledger is in order: the credential and the proof agree, and they
name a block and the chain of the ledger. -/
structure InOrder (c : VerifiableCredential) (p : AttestationProof) (genesis block root : Hash256) :
    Prop where
  consistent : ∃ o, Consistent c p o root
  block : p.blockHash = .ok block
  status : ∃ statusType, c.status = some ⟨⟨ChainId.ofGenesis genesis, root⟩, statusType⟩

/-- A verification ends in one error on all ledgers of a chain, whatever they hold and whether they
answer or not. -/
def FailsOffline (c : VerifiableCredential) (p : AttestationProof) (genesis : Hash256) : Prop :=
  ∃ e : VerificationError, e.isFromLedger = false
    ∧ ∀ l : Ledger, l.genesis = genesis → verify l c p = .error e

/-- The answer of the ledger comes first. What the comparison finds afterwards is no matter of the
ledger any more, and depends on the event alone. -/
def FailsByAnswer (c : VerifiableCredential) (p : AttestationProof) (genesis block root : Hash256) :
    Prop :=
  ∃ fault : AttestationEvent → VerificationError, (∀ event, (fault event).isFromLedger = false)
    ∧ ∀ l : Ledger, l.genesis = genesis → verify l c p = match l.eventAt block root with
      | .error cause => .error (.ledger cause)
      | .ok none => .error (.notFound (.event root p.block))
      | .ok (some event) => .error (fault event)

section Defects

variable {c : VerifiableCredential} {p : AttestationProof} {genesis block root : Hash256}

theorem verify_of_fault {l : Ledger} {e : VerificationError}
    (failed : c.findAttestation p l = .error e) : verify l c p = .error e := by
  obtain ⟨⟩ := c
  rw [verify, failed]
  rfl

theorem findAttestation_of_sought {l : Ledger}
    (sought : c.soughtEvent p l.genesis = .ok (block, root)) :
    c.findAttestation p l = match l.eventAt block root with
      | .error cause => .error (.ledger cause)
      | .ok none => .error (.notFound (.event root p.block))
      | .ok (some event) => c.compareEvent block root event := by
  rw [findAttestation_eq, sought, Outcome.ok_bind]
  cases l.eventAt block root with
  | error cause => rfl
  | ok event? =>
    cases event? with
    | none => rfl
    | some event => rfl

theorem verify_of_offline_fault {l : Ledger} {e : VerificationError}
    (failed : c.soughtEvent p l.genesis = .error e) : verify l c p = .error e := by
  apply verify_of_fault
  rw [findAttestation_eq, failed]
  rfl

theorem soughtEvent_ok_iff :
    c.soughtEvent p genesis = .ok (block, root) ↔ InOrder c p genesis block root := by
  simp only [soughtEvent, Outcome.bind_ok_iff, Outcome.pure_ok_iff, verifyOffline_ok_iff,
    Prod.mk.injEq]
  constructor
  · rintro ⟨_, ⟨o, consistent⟩, _, found, _, chain, rfl, rfl⟩
    exact ⟨⟨o, consistent⟩, found, (c.checkChain_ok_iff _ consistent.identity).mp chain⟩
  · rintro ⟨⟨o, consistent⟩, found, status⟩
    exact ⟨root, ⟨o, consistent⟩, block, found, (),
      (c.checkChain_ok_iff (Ledger.new genesis) consistent.identity).mpr status, rfl, rfl⟩

theorem not_inOrder (missing : c.id = none ∨ c.status = none) :
    ¬ InOrder c p genesis block root := by
  rintro ⟨⟨o, consistent⟩, _, _, status⟩
  rcases missing with none | none
  · rw [consistent.identity] at none
    contradiction
  · rw [status] at none
    contradiction

theorem compareEvent_not_ok (defect : c.issuanceDate = none ∨ 1 < c.delegationNodes.length)
    (event : AttestationEvent) (a : Attested) : c.compareEvent block root event ≠ .ok a := by
  intro compared
  rw [compareEvent] at compared
  simp only [Outcome.bind_ok_iff, Outcome.refuse_ok_iff] at compared
  obtain ⟨_, _, _, _, rest⟩ := compared
  cases date : c.issuanceDate with
  | none =>
    rw [date] at rest
    exact Outcome.throw_not_ok rest
  | some issued =>
    simp only [date, Outcome.bind_ok_iff, Outcome.refuse_ok_iff, delegation_ok_iff] at rest
    obtain ⟨_, id, single, _⟩ := rest
    rcases defect with none | several
    · rw [none] at date
      contradiction
    · rw [delegationNodes, single] at several
      cases id with
      | none => exact absurd several (by simp)
      | some id => exact absurd several (by simp)

theorem failsOffline_of_disorder (disorder : ¬∃ block root, InOrder c p genesis block root) :
    FailsOffline c p genesis := by
  cases sought : c.soughtEvent p genesis with
  | ok place => exact absurd ⟨place.1, place.2, soughtEvent_ok_iff.mp sought⟩ disorder
  | error e =>
    refine ⟨e, ?_, ?_⟩
    · rw [Bool.eq_false_iff]
      exact c.soughtEvent_offline p genesis e sought
    · rintro l rfl
      exact verify_of_offline_fault sought

theorem failsByAnswer_of_order (defect : c.issuanceDate = none ∨ 1 < c.delegationNodes.length)
    (order : InOrder c p genesis block root) : FailsByAnswer c p genesis block root := by
  have refused (event : AttestationEvent) :
      ∃ e, c.compareEvent block root event = .error e := by
    cases compared : c.compareEvent block root event with
    | error e => exact ⟨e, rfl⟩
    | ok a => exact absurd compared (compareEvent_not_ok defect event a)
  choose fault failed using refused
  refine ⟨fault, ?_, ?_⟩
  · intro event
    rw [Bool.eq_false_iff]
    exact c.compareEvent_offline block root event _ (failed event)
  · rintro l rfl
    have found := findAttestation_of_sought (soughtEvent_ok_iff.mpr order)
    cases answer : l.eventAt block root with
    | error cause =>
      rw [answer] at found
      exact verify_of_fault found
    | ok event? =>
      rw [answer] at found
      cases event? with
      | none => exact verify_of_fault found
      | some event => exact verify_of_fault (found.trans (failed event))

theorem verify_unrecorded (order : InOrder c p genesis block root) :
    verify (Ledger.new genesis) c p = .error (.notFound (.event root p.block)) :=
  verify_of_fault
    (findAttestation_of_sought (l := Ledger.new genesis) (soughtEvent_ok_iff.mpr order))

theorem verify_silent (order : InOrder c p genesis block root) (reason : String) :
    verify ((Ledger.new genesis).setUnavailable reason) c p = .error (.ledger ⟨reason⟩) :=
  verify_of_fault (findAttestation_of_sought (l := (Ledger.new genesis).setUnavailable reason)
    (soughtEvent_ok_iff.mpr order))

theorem not_failsOffline (order : InOrder c p genesis block root) : ¬ FailsOffline c p genesis := by
  rintro ⟨e, offline, failed⟩
  have unrecorded := (failed (Ledger.new genesis) rfl).symm.trans (verify_unrecorded order)
  rw [Except.error.inj unrecorded] at offline
  contradiction

theorem InOrder.undated (order : InOrder c p genesis block root) :
    InOrder c.undated p genesis block root := by
  obtain ⟨o, consistent⟩ := order.consistent
  have shape := (credential_admitted_iff c).mp consistent.shape
  exact ⟨⟨o, { consistent with
    shape := (credential_admitted_iff c.undated).mpr { shape with } }⟩, order.block, order.status⟩

end Defects

end VerifiableCredential

namespace CredentialInput

theorem exists_inOrder {input : CredentialInput} (unreserved : input.Unreserved)
    (entries : List (TrustEntry VerifiableCredential)) (inclusion : Inclusion)
    (issued : Timestamp) : ∃ p root, VerifiableCredential.InOrder
      ((input.credential entries).finalized root p inclusion.genesis issued) p inclusion.genesis
      inclusion.block root := by
  obtain ⟨statements, made⟩ := exists_normalizeClaims unreserved
  exact ⟨_, _,
    ⟨_, VerifiableCredential.consistent_finalized made (fun _ => 0) inclusion.block _ issued rfl⟩,
    Verified.ofEncoding_ok_iff.mpr inclusion.block.ofBase58_toBase58, _, rfl⟩

theorem exists_undated :
    ∃ (c : VerifiableCredential) (p : AttestationProof) (genesis block root : Hash256),
      c.issuanceDate = none ∧ c.InOrder p genesis block root := by
  obtain ⟨p, root, order⟩ := exists_inOrder (sampleClaims_unreserved [] none) []
    (sampleInclusion 4) sampleDate
  exact ⟨_, p, _, _, root, rfl, order.undated⟩

theorem exists_twice_delegated :
    ∃ (c : VerifiableCredential) (p : AttestationProof) (genesis block root : Hash256),
      1 < c.delegationNodes.length ∧ c.InOrder p genesis block root := by
  obtain ⟨p, root, order⟩ := exists_inOrder (sampleClaims_unreserved [] (some sampleNode))
    [.delegation ⟨sampleNode⟩ none] (sampleInclusion 4) sampleDate
  refine ⟨_, p, _, _, root, ?_, order⟩
  exact Nat.one_lt_two

end CredentialInput

namespace VerifiableCredential

/-- A credential without an id or a status fails before its ledger is asked. One without a date or
with several delegation nodes does so exactly if something else is out of order, too. Otherwise the
error is that of the ledger if it has no event, and depends on the event if it has one. -/
theorem defects_and_ledger (c : VerifiableCredential) (p : AttestationProof) (genesis : Hash256) :
    (c.id = none ∨ c.status = none → FailsOffline c p genesis)
      ∧ (c.issuanceDate = none ∨ 1 < c.delegationNodes.length →
        (FailsOffline c p genesis ↔ ¬∃ block root, InOrder c p genesis block root)
        ∧ ∀ block root, InOrder c p genesis block root →
          FailsByAnswer c p genesis block root) := by
  constructor
  · intro missing
    apply failsOffline_of_disorder
    rintro ⟨block, root, order⟩
    exact not_inOrder missing order
  · refine fun defect => ⟨⟨?_, failsOffline_of_disorder⟩, fun block root order => ?_⟩
    · rintro offline ⟨block, root, order⟩
      exact not_failsOffline order offline
    · exact failsByAnswer_of_order defect order

theorem undated_waits_for_event :
    (∃ c : VerifiableCredential, c.id = none ∧ ∀ p genesis, FailsOffline c p genesis)
    ∧ ∃ (c : VerifiableCredential) (p : AttestationProof) (genesis block root : Hash256),
      c.issuanceDate = none ∧ ¬ FailsOffline c p genesis
        ∧ FailsByAnswer c p genesis block root := by
  constructor
  · exact ⟨(CredentialInput.sample .empty [] none).credential [], rfl,
      fun p genesis => (defects_and_ledger _ p genesis).1 (.inl rfl)⟩
  · obtain ⟨c, p, genesis, block, root, undated, order⟩ := CredentialInput.exists_undated
    obtain ⟨offline, byAnswer⟩ := (defects_and_ledger c p genesis).2 (.inl undated)
    exact ⟨c, p, genesis, block, root, undated, fun fails => offline.mp fails ⟨_, _, order⟩,
      byAnswer _ _ order⟩

theorem ledger_hides_defects :
    (∃ (c : VerifiableCredential) (p : AttestationProof) (genesis root : Hash256),
      c.issuanceDate = none
        ∧ verify (Ledger.new genesis) c p = .error (.notFound (.event root p.block))
        ∧ verify ((Ledger.new genesis).setUnavailable "node down") c p
          = .error (.ledger ⟨"node down"⟩))
    ∧ ∃ (c : VerifiableCredential) (p : AttestationProof) (genesis root : Hash256),
      1 < c.delegationNodes.length
        ∧ verify (Ledger.new genesis) c p = .error (.notFound (.event root p.block))
        ∧ verify ((Ledger.new genesis).setUnavailable "node down") c p
          = .error (.ledger ⟨"node down"⟩) := by
  obtain ⟨c, p, genesis, _, root, undated, order⟩ := CredentialInput.exists_undated
  obtain ⟨c', p', genesis', _, root', twice, order'⟩ := CredentialInput.exists_twice_delegated
  exact ⟨⟨c, p, genesis, root, undated, verify_unrecorded order, verify_silent order _⟩,
    c', p', genesis', root', twice, verify_unrecorded order', verify_silent order' _⟩

end VerifiableCredential

end SelectiveDisclosure
