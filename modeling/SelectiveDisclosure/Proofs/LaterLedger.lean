import SelectiveDisclosure.Proofs.Acceptance
import SelectiveDisclosure.Proofs.Issuance

/-!
Verification and time. What is verified is that an attestation was written in a block, so the
current records of a ledger have no part in it, and what is written later elsewhere does not take
back what was found.
-/

namespace SelectiveDisclosure

namespace VerifiableCredential

/-- A verification goes through a credential with a proof: it is the one that was asked about, or it
is embedded in the trust model of one on the way and comes with the proof inside it. -/
inductive Involves :
    VerifiableCredential → AttestationProof → VerifiableCredential → AttestationProof → Prop where
  | self {c : VerifiableCredential} {p : AttestationProof} : Involves c p c p
  | embedded {c e e' : VerifiableCredential} {p q q' : AttestationProof} {id : CredentialId}
      (there : .legitimation id (some e) ∈ c.trustModel) (inside : e.proof = some q)
      (below : Involves e q e' q') : Involves c p e' q'

def AsksFor (c : VerifiableCredential) (p : AttestationProof) (block claimHash : Hash256) : Prop :=
  ∃ e q, Involves c p e q ∧ q.blockHash = .ok block ∧ e.rootHash = .ok claimHash

end VerifiableCredential

namespace LedgerStep

def Withdraws : LedgerStep → Prop
  | revoke _ => True
  | removeAttestation _ => True
  | _ => False

/-- A step that leaves alone what a verification found: it takes back records, adds delegation nodes
that are not there yet, or writes attestations elsewhere than in the places that matter. -/
def Spares (found : Hash256 → Hash256 → Prop) (l : Ledger) : LedgerStep → Prop
  | record block _ a => ¬ found block a.claimHash
  | revoke _ => True
  | removeAttestation _ => True
  | addDelegation id _ => l.delegations.get? id = none
  | revokeDelegation _ => False
  | setUnavailable _ => False

end LedgerStep

namespace Ledger

def SparedBy (found : Hash256 → Hash256 → Prop) : Ledger → List LedgerStep → Prop
  | _, [] => True
  | l, step :: rest => step.Spares found l ∧ SparedBy found (l.apply step) rest

section Records

variable (l : Ledger) (records : OrderedMap Hash256 Attestation)

def withRecords : Ledger := { l with attestations := records }

theorem fetchNode_withRecords (id : Hash256) :
    (l.withRecords records).fetchNode id = l.fetchNode id := rfl

theorem ownersUpward_withRecords (remaining : Nat) (start : Option Hash256) :
    (l.withRecords records).ownersUpward remaining start = l.ownersUpward remaining start := by
  induction remaining generalizing start with
  | zero => cases start <;> rfl
  | succ remaining ih =>
    cases start with
    | none => rfl
    | some id => simp only [ownersUpward, fetchNode_withRecords, ih]

theorem ancestorOwners_withRecords (node : DelegationNode) :
    (l.withRecords records).ancestorOwners node = l.ancestorOwners node := by
  simp only [ancestorOwners, ownersUpward_withRecords]

end Records

theorem exists_records_of_withdrawals {l : Ledger} {steps : List LedgerStep}
    (withdrawals : ∀ step ∈ steps, step.Withdraws) :
    ∃ records, l.run steps = l.withRecords records := by
  induction steps generalizing l with
  | nil => exact ⟨l.attestations, rfl⟩
  | cons step steps ih =>
    obtain ⟨first, others⟩ := List.forall_mem_cons.mp withdrawals
    obtain ⟨records, same⟩ := ih (l := l.apply step) others
    refine ⟨records, ?_⟩
    rw [run, List.foldl_cons, ← run, same]
    cases step with
    | revoke claimHash => rfl
    | removeAttestation claimHash => rfl
    | record _ _ _ => contradiction
    | addDelegation _ _ => contradiction
    | revokeDelegation _ => contradiction
    | setUnavailable _ => contradiction

end Ledger

theorem TrustEntry.resolveDelegation_withRecords (l : Ledger)
    (records : OrderedMap Hash256 Attestation) (event : AttestationEvent) (id : DelegationId)
    (delegators : Option (List Did)) : resolveDelegation (l.withRecords records) event id delegators
      = resolveDelegation l event id delegators := by
  simp only [resolveDelegation, Ledger.fetchNode_withRecords, Ledger.ancestorOwners_withRecords]

namespace VerifiableCredential

theorem findAttestation_withRecords (l : Ledger) (records : OrderedMap Hash256 Attestation)
    (c : VerifiableCredential) (p : AttestationProof) :
    c.findAttestation p (l.withRecords records) = c.findAttestation p l := rfl

mutual

theorem verify_withRecords (l : Ledger) (records : OrderedMap Hash256 Attestation) :
    ∀ (c : VerifiableCredential) (p : AttestationProof),
      verify (l.withRecords records) c p = verify l c p
  | ⟨contexts, types, id, subject, schema, status, issuer, issuanceDate, nonTransferable,
      trustModel, embedded⟩, p => by
    simp only [verify, findAttestation_withRecords,
      fun event => resolveAll_withRecords l records event trustModel]

theorem resolveAll_withRecords (l : Ledger) (records : OrderedMap Hash256 Attestation)
    (event : AttestationEvent) : ∀ es : List (TrustEntry VerifiableCredential),
      resolveAll (l.withRecords records) event es = resolveAll l event es
  | [] => rfl
  | e :: rest => by
    simp only [resolveAll, resolveEntry_withRecords l records event e,
      resolveAll_withRecords l records event rest]

theorem resolveEntry_withRecords (l : Ledger) (records : OrderedMap Hash256 Attestation)
    (event : AttestationEvent) : ∀ e : TrustEntry VerifiableCredential,
      resolveEntry (l.withRecords records) event e = resolveEntry l event e
  | .legitimation id (some c) => by
    simp only [resolveEntry, fun p => verify_withRecords l records c p]
  | .legitimation id none => rfl
  | .delegation id delegators => by
    simp only [resolveEntry, TrustEntry.resolveDelegation_withRecords]

end

end VerifiableCredential

/-- A later state of a ledger that still has what was found in an earlier one: the events in the
places that matter, and all delegation nodes. -/
structure Ledger.Keeps (found : Hash256 → Hash256 → Prop) (l l' : Ledger) : Prop where
  genesis : l'.genesis = l.genesis
  unavailable : l'.unavailable = l.unavailable
  events : ∀ block claimHash, found block claimHash →
    l'.event? block claimHash = l.event? block claimHash
  delegations : ∀ id node, l.delegations.get? id = some node → l'.delegations.get? id = some node

namespace Ledger

variable {found : Hash256 → Hash256 → Prop} {l l' l'' : Ledger}

theorem Keeps.refl (found : Hash256 → Hash256 → Prop) (l : Ledger) : l.Keeps found l :=
  ⟨rfl, rfl, fun _ _ _ => rfl, fun _ _ there => there⟩

theorem Keeps.trans (first : l.Keeps found l') (second : l'.Keeps found l'') :
    l.Keeps found l'' where
  genesis := second.genesis.trans first.genesis
  unavailable := second.unavailable.trans first.unavailable
  events := fun block claimHash asked =>
    (second.events block claimHash asked).trans (first.events block claimHash asked)
  delegations := fun id node there => second.delegations id node (first.delegations id node there)

theorem keeps_apply {step : LedgerStep} (spares : step.Spares found l) :
    l.Keeps found (l.apply step) := by
  cases step with
  | record block timestamp a =>
    refine ⟨rfl, rfl, ?_, fun _ _ there => there⟩
    intro block' claimHash asked
    rw [apply, event?_record, if_neg]
    rintro ⟨rfl, rfl⟩
    exact spares asked
  | revoke claimHash => exact ⟨rfl, rfl, fun _ _ _ => rfl, fun _ _ there => there⟩
  | removeAttestation claimHash => exact ⟨rfl, rfl, fun _ _ _ => rfl, fun _ _ there => there⟩
  | addDelegation id node =>
    refine ⟨rfl, rfl, fun _ _ _ => rfl, ?_⟩
    intro id' node' there
    have differs : id' ≠ id := by
      rintro rfl
      rw [LedgerStep.Spares, there] at spares
      contradiction
    rw [apply, addDelegation, OrderedMap.get?_insert, if_neg differs, there]
  | revokeDelegation id => contradiction
  | setUnavailable reason => contradiction

theorem keeps_run {steps : List LedgerStep} (spared : l.SparedBy found steps) :
    l.Keeps found (l.run steps) := by
  induction steps generalizing l with
  | nil => exact .refl found l
  | cons step steps ih => exact (keeps_apply spared.1).trans (ih spared.2)

theorem Keeps.ancestry (keeps : l.Keeps found l') {start : Option Hash256} {owners : List Did}
    (above : Ancestry l start owners) : Ancestry l' start owners := by
  induction above with
  | top => exact .top
  | up there _ ih => exact .up (keeps.delegations _ _ there) ih

theorem Keeps.attestedBy (keeps : l.Keeps found l') {c : VerifiableCredential}
    {p : AttestationProof} {a : VerifiableCredential.Attested} (attested : AttestedBy l c p a)
    (asked : found a.block a.rootHash) : AttestedBy l' c p a := by
  have recorded : l'.event? a.block a.rootHash = some a.event := by
    rw [keeps.events _ _ asked]
    exact Option.bind_eq_some_iff.mpr attested.recorded
  exact { attested with
    status := by
      rw [keeps.genesis]
      exact attested.status
    recorded := Option.bind_eq_some_iff.mp recorded }

end Ledger

mutual

theorem Accepts.keep {found : Hash256 → Hash256 → Prop} {l l' : Ledger}
    (keeps : l.Keeps found l') {c : VerifiableCredential} {p : AttestationProof} {r : Report} :
    Accepts l c p r → (∀ block claimHash, c.AsksFor p block claimHash → found block claimHash) →
      Accepts l' c p r
  | .verified consistent attested resolved, asked => by
    have block := AttestationProof.ofBase58_ok_iff.mpr attested.block
    have own := asked _ _ ⟨c, p, .self, Verified.ofEncoding_ok_iff.mpr block,
      (VerifiableCredential.rootHash_ok_iff c _).mpr consistent.identity⟩
    refine .verified consistent (keeps.attestedBy attested own) (resolved.keep keeps ?_)
    rintro id e q there inside block claimHash ⟨e', q', below, finalized, named⟩
    exact asked block claimHash ⟨e', q', .embedded there inside below, finalized, named⟩

theorem ResolvesAll.keep {found : Hash256 → Hash256 → Prop} {l l' : Ledger}
    (keeps : l.Keeps found l') {event : AttestationEvent}
    {es : List (TrustEntry VerifiableCredential)} {outcomes : List TrustOutcome} :
    ResolvesAll l event es outcomes →
      (∀ id e q, .legitimation id (some e) ∈ es → e.proof = some q →
        ∀ block claimHash, e.AsksFor q block claimHash → found block claimHash) →
      ResolvesAll l' event es outcomes
  | .nil, _ => .nil
  | .cons first others, asked => by
    refine .cons (first.keep keeps ?_) (others.keep keeps ?_)
    · intro id e q same
      exact asked id e q (same ▸ List.mem_cons_self)
    · intro id e q there
      exact asked id e q (List.mem_cons_of_mem _ there)

theorem Resolves.keep {found : Hash256 → Hash256 → Prop} {l l' : Ledger}
    (keeps : l.Keeps found l') {event : AttestationEvent} {entry : TrustEntry VerifiableCredential}
    {outcome : TrustOutcome} :
    Resolves l event entry outcome →
      (∀ id e q, entry = .legitimation id (some e) → e.proof = some q →
        ∀ block claimHash, e.AsksFor q block claimHash → found block claimHash) →
      Resolves l' event entry outcome
  | .assumed, _ => .assumed
  | .embedded identity inside accepted, asked =>
    .embedded identity inside (accepted.keep keeps (asked _ _ _ rfl inside))
  | .delegated there active authorized ancestors, _ => by
    refine .delegated (keeps.delegations _ _ there) active authorized ?_
    intro expected given
    obtain ⟨short, above⟩ := ancestors expected given
    exact ⟨short, keeps.ancestry above⟩

end

namespace VerifiableCredential

/-- Verification does not see revoked and removed records at all. And what it has accepted it
accepts in every later state in which no attestation was written over the events that it asked for,
no delegation node was replaced or revoked, and the ledger still answers. -/
theorem verify_in_later_state (l : Ledger) (c : VerifiableCredential) (p : AttestationProof) :
    (∀ steps : List LedgerStep, (∀ step ∈ steps, step.Withdraws) →
      verify (l.run steps) c p = verify l c p)
    ∧ ∀ r, verify l c p = .ok r → ∀ steps : List LedgerStep, l.SparedBy (c.AsksFor p) steps →
      verify (l.run steps) c p = .ok r := by
  constructor
  · intro steps withdrawals
    obtain ⟨records, same⟩ := l.exists_records_of_withdrawals withdrawals
    rw [same, verify_withRecords]
  · intro r verified steps spared
    obtain ⟨available, accepted⟩ := (verify_ok_iff l c p r).mp verified
    have keeps := Ledger.keeps_run spared
    exact (verify_ok_iff _ c p r).mpr ⟨keeps.unavailable.trans available,
      accepted.keep keeps fun _ _ asked => asked⟩

section Sample

open CredentialInput

theorem blockHash_of_asksFor {c : VerifiableCredential} (unbacked : c.trustModel = [])
    {p : AttestationProof} {block claimHash : Hash256} (asked : c.AsksFor p block claimHash) :
    p.blockHash = .ok block := by
  obtain ⟨e, q, involved, finalized, _⟩ := asked
  cases involved with
  | self => exact finalized
  | embedded there =>
    rw [unbacked] at there
    contradiction

def stepsAfter (a : Attestation) : List LedgerStep := [
  .revoke a.claimHash,
  .removeAttestation a.claimHash,
  .addDelegation sampleNode ⟨a.owner, none, false⟩,
  .record (sampleInclusion 5).block (sampleInclusion 5).timestamp a]

theorem exists_recorded_sample : ∃ (a : Attestation) (c : VerifiableCredential)
    (p : AttestationProof) (r : Report), c.id = some ⟨a.claimHash⟩ ∧ c.trustModel = []
      ∧ p.blockHash = .ok (sampleInclusion 4).block
      ∧ verify ((Ledger.new (sampleInclusion 4).genesis).record (sampleInclusion 4).block
        (sampleInclusion 4).timestamp a) c p = .ok r := by
  obtain ⟨statements, made⟩ := exists_normalizeClaims (sampleClaims_unreserved [] none)
  obtain ⟨root, binding⟩ : ∃ root, root = Commitment.rootHashOf
    (Opening.drawn statements fun _ => 0).commitments
    ((sample sampleClaims [] none).credential []).trustInputs := ⟨_, rfl⟩
  have event := Ledger.event?_record (.new (sampleInclusion 4).genesis) (sampleInclusion 4).block
    (sampleInclusion 4).timestamp ⟨root, (sample sampleClaims [] none).ctypeHash,
      (sample sampleClaims [] none).issuer, none, false⟩ (sampleInclusion 4).block root
  rw [if_pos ⟨rfl, rfl⟩] at event
  obtain ⟨_, verified⟩ := verify_issued .nil made (fun _ => 0) (sample_dated 4) binding rfl rfl
    event ⟨nofun, nofun⟩
  refine ⟨_, _, _, _, rfl, rfl, ?_, verified⟩
  exact Verified.ofEncoding_ok_iff.mpr (sampleInclusion 4).block.ofBase58_toBase58

theorem sample_in_later_state : ∃ (l : Ledger) (a : Attestation) (c : VerifiableCredential)
    (p : AttestationProof) (r : Report), c.id = some ⟨a.claimHash⟩
      ∧ (∀ step ∈ (stepsAfter a).take 2, step.Withdraws)
      ∧ verify (l.run ((stepsAfter a).take 2)) c p = verify l c p
      ∧ verify l c p = .ok r ∧ l.SparedBy (c.AsksFor p) (stepsAfter a)
      ∧ verify (l.run (stepsAfter a)) c p = .ok r := by
  obtain ⟨a, c, p, r, identity, unbacked, finalized, verified⟩ := exists_recorded_sample
  obtain ⟨withdrawn, kept⟩ := verify_in_later_state
    ((Ledger.new (sampleInclusion 4).genesis).record (sampleInclusion 4).block
      (sampleInclusion 4).timestamp a) c p
  have withdraws : ∀ step ∈ (stepsAfter a).take 2, step.Withdraws :=
    List.forall_mem_cons.mpr ⟨trivial, List.forall_mem_singleton.mpr trivial⟩
  have spared : Ledger.SparedBy (c.AsksFor p) ((Ledger.new (sampleInclusion 4).genesis).record
      (sampleInclusion 4).block (sampleInclusion 4).timestamp a) (stepsAfter a) := by
    refine ⟨trivial, trivial, rfl, ?_, trivial⟩
    intro asked
    have same := finalized.symm.trans (blockHash_of_asksFor unbacked asked)
    exact absurd (Except.ok.inj same) (by decide)
  exact ⟨_, a, c, p, r, identity, withdraws, withdrawn _ withdraws, verified, spared,
    kept r verified _ spared⟩

end Sample

end VerifiableCredential

end SelectiveDisclosure
