import SelectiveDisclosure.Proofs.Acceptance
import SelectiveDisclosure.Proofs.Issuance

/-!
What a root hash says of a trust model. It stands for one list, the commitments and behind them the
inputs of the trust model, and nothing in it marks where the second part begins. Two credentials
with one root hash can therefore differ in that place, and in nothing else: legitimations at the
front of a trust model may be passed off as commitments, and stay in the proof as such.
-/

namespace SelectiveDisclosure

open VerifiableCredential

/-- The byte string whose digest is compared with the root hash of a credential. -/
inductive RootHashed (c : VerifiableCredential) (p : AttestationProof) : List UInt8 → Prop where
  | root {commitments : List Hash256} (read : p.decodedCommitments = .ok commitments) :
      RootHashed c p (Commitment.rootPreimage commitments c.trustInputs)

/-- A proof that takes entries of a trust model for commitments. -/
def AttestationProof.absorb (p : AttestationProof) (es : List (TrustEntry VerifiableCredential)) :
    AttestationProof :=
  { p with commitments := p.commitments ++ es.map fun e => e.rootHashInput.toBase58 }

namespace VerifiableCredential

theorem length_trustInputs (c : VerifiableCredential) :
    c.trustInputs.length = c.trustModel.length := List.length_map ..

theorem leaves_of_same_root {c c' : VerifiableCredential} {p p' : AttestationProof}
    {o o' : Opening} {root root' : Hash256} (consistent : Consistent c p o root)
    (consistent' : Consistent c' p' o' root') (sameRoot : root = root')
    (free : CollisionFree fun bytes => RootHashed c p bytes ∨ RootHashed c' p' bytes) :
    o.commitments ++ c.trustInputs = o'.commitments ++ c'.trustInputs := by
  have read := AttestationProof.decodedCommitments_ok_iff.mpr consistent.commitments
  have read' := AttestationProof.decodedCommitments_ok_iff.mpr consistent'.commitments
  rw [consistent.binding, consistent'.binding] at sameRoot
  exact Commitment.flatMap_toList_injective
    (free _ _ (.inl (.root read)) (.inr (.root read')) sameRoot)

theorem delegations_of_same_block {l : Ledger} {c c' : VerifiableCredential}
    {p p' : AttestationProof} {a a' : Attested} (attested : AttestedBy l c p a)
    (attested' : AttestedBy l c' p' a') (sameBlock : a.block = a'.block)
    (sameRoot : a.rootHash = a'.rootHash) :
    c.trustModel.filterMap (·.delegationId?) = c'.trustModel.filterMap (·.delegationId?) := by
  obtain ⟨inBlock, foundBlock, found⟩ := attested.recorded
  obtain ⟨inBlock', foundBlock', found'⟩ := attested'.recorded
  rw [sameBlock, foundBlock'] at foundBlock
  obtain rfl := Option.some.inj foundBlock
  rw [sameRoot, found'] at found
  rw [attested.authorization, attested'.authorization, Option.some.inj found]

section Absorption

variable {es rest : List (TrustEntry VerifiableCredential)}

theorem decodedCommitments_absorb {p : AttestationProof} {commitments : List Hash256}
    (read : p.decodedCommitments = .ok commitments) :
    (p.absorb es).decodedCommitments = .ok (commitments ++ es.map (·.rootHashInput)) := by
  rw [AttestationProof.decodedCommitments_ok_iff] at read ⊢
  refine List.rel_append read ?_
  rw [List.forall₂_map_left_iff, List.forall₂_map_right_iff, List.forall₂_same]
  intro e _
  exact AttestationProof.ofBase58_ok_iff.mp e.rootHashInput.ofBase58_toBase58

theorem wellShaped_absorb {p : AttestationProof} (shaped : p.WellShaped) :
    (p.absorb es).WellShaped where
  proofType := shaped.proofType
  commitments := by
    intro text there
    rcases List.mem_append.mp there with own | absorbed
    · exact shaped.commitments text own
    · obtain ⟨e, _, rfl⟩ := List.mem_map.mp absorbed
      exact Base58.encode_fixed_ne (by decide) (by decide) e.rootHashInput
  salts := shaped.salts

theorem consistent_absorb {c : VerifiableCredential} {p : AttestationProof} {o : Opening}
    {root : Hash256} (consistent : Consistent c p o root) (split : c.trustModel = es ++ rest) :
    Consistent { c with trustModel := rest } (p.absorb es)
      { o with commitments := o.commitments ++ es.map (·.rootHashInput) } root where
  proofShape := (AttestationProof.proof_admitted_iff _).mpr
    (wellShaped_absorb ((AttestationProof.proof_admitted_iff p).mp consistent.proofShape))
  shape := (credential_admitted_iff _).mpr
    { (credential_admitted_iff c).mp consistent.shape with }
  innerShape := consistent.innerShape
  statements := consistent.statements
  count := consistent.count
  salts := consistent.salts
  commitments := AttestationProof.decodedCommitments_ok_iff.mp (decodedCommitments_absorb
    (AttestationProof.decodedCommitments_ok_iff.mpr consistent.commitments))
  opened := by
    intro i statement digest salt atStatement atSalt
    exact List.mem_append_left _ (consistent.opened i statement digest salt atStatement atSalt)
  identity := consistent.identity
  binding := by
    rw [consistent.binding, Commitment.rootPreimage, Commitment.rootPreimage, trustInputs, split,
      trustInputs, List.map_append, List.append_assoc]

theorem resolveAll_suffix {l : Ledger} {event : AttestationEvent} {outcomes : List TrustOutcome}
    (resolved : resolveAll l event (es ++ rest) = .ok outcomes) :
    ∃ others, resolveAll l event rest = .ok others := by
  induction es generalizing outcomes with
  | nil => exact ⟨outcomes, resolved⟩
  | cons e es ih =>
    rw [List.cons_append, resolveAll] at resolved
    simp only [Outcome.bind_ok_iff] at resolved
    obtain ⟨_, _, others, remaining, _⟩ := resolved
    exact ih remaining

theorem collisionFree_absorb {c : VerifiableCredential} {p : AttestationProof}
    {commitments : List Hash256} (read : p.decodedCommitments = .ok commitments)
    (split : c.trustModel = es ++ rest) :
    CollisionFree fun bytes => RootHashed { c with trustModel := rest } (p.absorb es) bytes
      ∨ RootHashed c p bytes := by
  have single : ∀ bytes, RootHashed { c with trustModel := rest } (p.absorb es) bytes
      ∨ RootHashed c p bytes → bytes = Commitment.rootPreimage commitments c.trustInputs := by
    rintro bytes (absorbed | own)
    · cases absorbed with
      | root taken =>
        rw [decodedCommitments_absorb read] at taken
        rw [← Except.ok.inj taken, Commitment.rootPreimage, Commitment.rootPreimage, trustInputs,
          trustInputs, split, List.map_append, List.append_assoc]
    · cases own with
      | root given => rw [Except.ok.inj (given.symm.trans read)]
  intro a b hashed hashed' _
  rw [single a hashed, single b hashed']

theorem verify_absorb {l : Ledger} {c : VerifiableCredential} {p : AttestationProof} {r : Report}
    (verified : verify l c p = .ok r) (split : c.trustModel = es ++ rest)
    (legitimations : es.filterMap (·.delegationId?) = []) :
    ∃ r', verify l { c with trustModel := rest } (p.absorb es) = .ok r'
      ∧ r'.rootHash = r.rootHash ∧ r'.block = r.block
      ∧ CollisionFree fun bytes => RootHashed { c with trustModel := rest } (p.absorb es) bytes
        ∨ RootHashed c p bytes := by
  obtain ⟨available, a, o, trust, consistent, attested, resolved, rfl⟩ :=
    (verify_halves_iff l c p r).mp verified
  rw [split] at resolved
  obtain ⟨others, remaining⟩ := resolveAll_suffix resolved
  have absorbed := consistent_absorb consistent split
  refine ⟨_, (verify_halves_iff ..).mpr ⟨available, a, _, others, absorbed, ?_, remaining, rfl⟩,
    rfl, rfl, collisionFree_absorb
      (AttestationProof.decodedCommitments_ok_iff.mpr consistent.commitments) split⟩
  exact { attested with
    authorization := by
      rw [← attested.authorization, split, List.filterMap_append, legitimations, List.nil_append] }

end Absorption

/-- Two accepted credentials with one root hash have the same commitments and trust inputs, one
behind the other. The two parts agree when the trust models are of one length; otherwise the inputs
that the shorter one lacks are the first of the longer one, and the last commitments of its own
proof. In one block the delegation node is the same. -/
theorem trust_model_of_same_root (l : Ledger) (c c' : VerifiableCredential)
    (p p' : AttestationProof) (r r' : Report) (verified : verify l c p = .ok r)
    (verified' : verify l c' p' = .ok r') (sameRoot : r.rootHash = r'.rootHash)
    (free : CollisionFree fun bytes => RootHashed c p bytes ∨ RootHashed c' p' bytes) :
    ∃ commitments commitments', p.decodedCommitments = .ok commitments
      ∧ p'.decodedCommitments = .ok commitments'
      ∧ commitments ++ c.trustInputs = commitments' ++ c'.trustInputs
      ∧ (c.trustModel.length = c'.trustModel.length →
        c.trustInputs = c'.trustInputs ∧ commitments = commitments')
      ∧ (c.trustModel.length ≤ c'.trustModel.length → ∃ moved,
        c'.trustInputs = moved ++ c.trustInputs ∧ commitments = commitments' ++ moved)
      ∧ (r.block = r'.block →
        c.trustModel.filterMap (·.delegationId?) = c'.trustModel.filterMap (·.delegationId?)) := by
  obtain ⟨_, a, o, _, consistent, attested, _, rfl⟩ := (verify_halves_iff l c p r).mp verified
  obtain ⟨_, a', o', _, consistent', attested', _, rfl⟩ :=
    (verify_halves_iff l c' p' r').mp verified'
  have leaves := leaves_of_same_root consistent consistent' sameRoot free
  refine ⟨o.commitments, o'.commitments,
    AttestationProof.decodedCommitments_ok_iff.mpr consistent.commitments,
    AttestationProof.decodedCommitments_ok_iff.mpr consistent'.commitments, leaves, ?_, ?_, ?_⟩
  · intro count
    rw [← length_trustInputs, ← length_trustInputs] at count
    obtain ⟨front, back⟩ := List.append_inj' leaves count
    exact ⟨back, front⟩
  · intro shorter
    rw [← length_trustInputs, ← length_trustInputs] at shorter
    exact exists_between_cuts leaves shorter
  · intro sameBlock
    exact delegations_of_same_block attested attested' sameBlock sameRoot

section Sample

open CredentialInput

/-- A legitimation by id alone. Its hash is above all others, so that commitments stay sorted when
it is put behind them. -/
def sampleBacker : CredentialId := ⟨⟨List.replicate 32 255, rfl⟩⟩

def backedInput : CredentialInput := sample sampleClaims [.named sampleBacker] none

theorem exists_verified_backed : ∃ l c p r, verify l c p = .ok r
    ∧ c.trustModel = [.legitimation sampleBacker none] := by
  have read : List.Forall₂ (fun g (e : TrustEntry VerifiableCredential) => g.toEntry = .ok e)
      backedInput.legitimations [.legitimation sampleBacker none] := .cons rfl .nil
  have backed (l : Ledger) : backedInput.BackedBy l := by
    constructor
    · intro id given
      contradiction
    · intro c given
      cases List.mem_singleton.mp given
  obtain ⟨statements, made⟩ := exists_normalizeClaims
    (sampleClaims_unreserved [.named sampleBacker] none)
  obtain ⟨l, r, verified⟩ := verify_recorded read backed made (fun _ => 0) (sample_dated 4) rfl
  exact ⟨l, _, _, r, verified, rfl⟩

theorem legitimation_of_sample_dropped : ∃ l c c' p p' r r', verify l c p = .ok r
    ∧ verify l c' p' = .ok r' ∧ r.rootHash = r'.rootHash ∧ c.trustInputs = []
    ∧ c'.trustInputs = [sampleBacker.rootHash] ∧ ∃ commitments commitments',
      p.decodedCommitments = .ok commitments ∧ p'.decodedCommitments = .ok commitments'
      ∧ commitments = commitments' ++ [sampleBacker.rootHash] := by
  obtain ⟨l, c, p, r, verified, single⟩ := exists_verified_backed
  have whole : c.trustModel = [.legitimation sampleBacker none] ++ [] := single
  obtain ⟨r', dropped, sameRoot, _, free⟩ := verify_absorb verified whole rfl
  have inputs : c.trustInputs = [sampleBacker.rootHash] := by
    rw [trustInputs, single]
    rfl
  obtain ⟨commitments, commitments', read, read', _, _, between, _⟩ :=
    trust_model_of_same_root l _ c _ p r' r dropped verified sameRoot free
  obtain ⟨moved, lacking, cut⟩ := between (Nat.zero_le _)
  have only : moved = [sampleBacker.rootHash] := by
    rw [inputs] at lacking
    exact (lacking.trans (List.append_nil moved)).symm
  rw [only] at cut
  exact ⟨l, _, c, _, p, r', r, dropped, verified, sameRoot, rfl, inputs, commitments, commitments',
    read, read', cut⟩

theorem trust_model_not_bound : ¬ ∀ (l : Ledger) (c c' : VerifiableCredential)
    (p p' : AttestationProof) (r r' : Report), verify l c p = .ok r → verify l c' p' = .ok r' →
    r.rootHash = r'.rootHash →
    (CollisionFree fun bytes => RootHashed c p bytes ∨ RootHashed c' p' bytes) →
    c.trustInputs = c'.trustInputs ∧ p.decodedCommitments = p'.decodedCommitments := by
  intro bound
  obtain ⟨l, c, p, r, verified, single⟩ := exists_verified_backed
  have whole : c.trustModel = [.legitimation sampleBacker none] ++ [] := single
  obtain ⟨r', dropped, sameRoot, _, free⟩ := verify_absorb verified whole rfl
  obtain ⟨inputs, _⟩ := bound l _ c _ p r' r dropped verified sameRoot free
  rw [trustInputs, trustInputs, single] at inputs
  contradiction

end Sample

end VerifiableCredential

end SelectiveDisclosure
