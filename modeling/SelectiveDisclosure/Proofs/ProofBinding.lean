import SelectiveDisclosure.Proofs.OneSpelling
import SelectiveDisclosure.Proofs.Presentation
import SelectiveDisclosure.Proofs.StatementBinding
import SelectiveDisclosure.Proofs.TrustBinding

/-!
A proof cannot be rewritten. Its commitments are settled by the id of the credential, its salts by
the commitments, and its texts by the bytes that they stand for, so every proof that is accepted
with a credential has the commitments and the salts that its holder was given. Only the block is
left open: a ledger may have the same attestation in several blocks.
-/

namespace SelectiveDisclosure

open VerifiableCredential

/-- The byte strings whose digests are compared with the commitments of a proof. -/
inductive CommitmentHashed (c : VerifiableCredential) (p : AttestationProof) : List UInt8 → Prop
    where
  | commitment {statements : List (Statement × Hash256)} {salts : List Entropy} {s : Statement}
      {digest : Hash256} {salt : Entropy} (made : c.normalizedClaims = .ok statements)
      (read : p.decodedSalts = .ok salts) (opened : ((s, digest), salt) ∈ statements.zip salts) :
      CommitmentHashed c p (Commitment.commitmentPreimage salt digest)

def ProofHashed (c : VerifiableCredential) (p : AttestationProof) (bytes : List UInt8) : Prop :=
  RootHashed c p bytes ∨ CommitmentHashed c p bytes

namespace Opening

/-- Among different digests, a commitment is opened for each with one salt only. -/
theorem salt_of_drawn_commitment {hashed : List UInt8 → Prop} (free : CollisionFree hashed)
    {statements : List (Statement × Hash256)} (distinct : (statements.map (·.2)).Nodup)
    {random : Nat → UInt8} {s : Statement} {digest : Hash256} {salt salt' : Entropy}
    (own : ((s, digest), salt) ∈ (drawn statements random).statements.zip
      (drawn statements random).salts)
    (there : Commitment.commitment salt' digest ∈ (drawn statements random).commitments)
    (preimages : ∀ s digest salt, ((s, digest), salt) ∈ statements.zip
      (drawn statements random).salts → hashed (Commitment.commitmentPreimage salt digest))
    (preimage : hashed (Commitment.commitmentPreimage salt' digest)) : salt' = salt := by
  obtain ⟨k, atOwn, atOwnSalt⟩ := mem_zip_iff.mp own
  obtain ⟨j, t, digest', salt'', atStatement, atSalt, same⟩ :=
    (mem_commitments_drawn _ _ _).mp there
  rw [Commitment.commitment_eq, Commitment.commitment_eq] at same
  obtain ⟨rfl, rfl⟩ := Commitment.commitmentPreimage_injective
    (free _ _ (preimages t _ _ (mem_zip_iff.mpr ⟨j, atStatement, atSalt⟩)) preimage same)
  have place : k = j := by
    obtain ⟨short, _⟩ := List.getElem?_eq_some_iff.mp atOwn
    refine (List.getElem?_inj (by rwa [List.length_map]) distinct).mp ?_
    rw [List.getElem?_map, List.getElem?_map, atStatement]
    exact congrArg (Option.map (·.2)) atOwn
  subst place
  exact Option.some.inj (atSalt.symm.trans atOwnSalt)

end Opening

namespace VerifiableCredential

theorem exists_opening_of_issued {input : CredentialInput} {c vc : VerifiableCredential}
    {random : Nat → UInt8} {initialized q : AttestationProof} {request : AttestationRequest}
    {inclusion : Inclusion} (built : input.toCredential = .ok c)
    (begun : c.initializeProof random = .ok (initialized, request))
    (ended : c.finalizeProof initialized inclusion = .ok (vc, q)) :
    ∃ statements root, Consistent vc q (Opening.drawn statements random) root := by
  obtain ⟨_, entries, _, rfl⟩ := (CredentialInput.toCredential_ok_iff input c).mp built
  obtain ⟨statements, issued, made, rfl, rfl⟩ := exists_of_issued begun ended
  have binding : Commitment.rootHashOf (Opening.drawn statements random).commitments
      (input.credential entries).trustInputs = _ := rfl
  exact ⟨statements, _, consistent_finalized made random _ _ issued binding⟩

theorem commitments_of_same_id {c c' : VerifiableCredential} {p p' : AttestationProof}
    {o o' : Opening} {root root' : Hash256} (own : Consistent c p o root)
    (other : Consistent c' p' o' root') (sameId : c'.id = c.id)
    (model : c'.trustModel = c.trustModel)
    (free : CollisionFree fun bytes => RootHashed c p bytes ∨ RootHashed c' p' bytes) :
    o'.commitments = o.commitments := by
  have ids : some (CredentialId.mk root') = some ⟨root⟩ :=
    (other.identity.symm.trans sameId).trans own.identity
  have leaves := leaves_of_same_root own other (CredentialId.mk.inj (Option.some.inj ids)).symm free
  rw [trustInputs, trustInputs, model] at leaves
  exact (List.append_cancel_right leaves).symm

theorem commitmentHashed_of_opened {c : VerifiableCredential} {p : AttestationProof} {o : Opening}
    {root : Hash256} (consistent : Consistent c p o root) {s : Statement} {digest : Hash256}
    {salt : Entropy} (opened : ((s, digest), salt) ∈ o.statements.zip o.salts) :
    CommitmentHashed c p (Commitment.commitmentPreimage salt digest) :=
  .commitment ((normalizedClaims_ok_iff ..).mpr consistent.statements)
    (AttestationProof.decodedSalts_ok_iff.mpr consistent.salts) opened

/-- Every proof that is accepted with an issued credential, or with what its holder shows of it, has
the commitments and the salts of the proof that belongs to it, text by text. -/
theorem commitments_and_salts_of_accepted (input : CredentialInput) (c₀ vc : VerifiableCredential)
    (random : Nat → UInt8) (initialized q : AttestationProof) (request : AttestationRequest)
    (inclusion : Inclusion) (built : input.toCredential = .ok c₀)
    (begun : c₀.initializeProof random = .ok (initialized, request))
    (ended : c₀.finalizeProof initialized inclusion = .ok (vc, q))
    (distinct : ∀ issued, vc.normalizedClaims = .ok issued → (issued.map (·.2)).Nodup)
    (c : VerifiableCredential) (p : AttestationProof) (shown : ShownOf vc q c p)
    (l : Ledger) (p' : AttestationProof) (r : Report) (verified : verify l c p' = .ok r)
    (free : CollisionFree fun bytes => ProofHashed vc q bytes ∨ ProofHashed c p' bytes) :
    p'.commitments = p.commitments ∧ p'.salts = p.salts := by
  obtain ⟨statements, root, whole⟩ := exists_opening_of_issued built begun ended
  obtain ⟨o, own, within, model⟩ := within_of_shown whole shown
  obtain ⟨_, a, o', _, other, _, _, _⟩ := (verify_halves_iff l c p' r).mp verified
  have sameCommitments : o'.commitments = (Opening.drawn statements random).commitments :=
    commitments_of_same_id whole other (own.identity.trans whole.identity.symm) model
      (free.mono fun _ hashed => hashed.imp .inl .inl)
  have sameSalts : o'.salts = o.salts := by
    have sameStatements := Except.ok.inj (other.statements.symm.trans own.statements)
    refine eq_of_zip_unique (other.count.trans other.salts.length_eq)
      (sameStatements ▸ own.count.trans own.salts.length_eq) ?_
    rintro ⟨s, digest⟩ salt' salt there' there
    rw [sameStatements] at there
    have opened := (opened_iff o').mpr other.opened _ there'
    rw [sameCommitments] at opened
    exact Opening.salt_of_drawn_commitment free
      (distinct _ ((normalizedClaims_ok_iff ..).mpr whole.statements)) (within.pairs _ there)
      opened (fun _ _ _ drawn => .inl (.inr (commitmentHashed_of_opened whole drawn)))
      (.inr (.inr (commitmentHashed_of_opened other there')))
  constructor
  · rw [Base58.eq_map_encode_of_read own.commitments,
      Base58.eq_map_encode_of_read other.commitments, sameCommitments, within.commitments]
  · rw [Base58.eq_map_encode_of_read own.salts, Base58.eq_map_encode_of_read other.salts,
      sameSalts]

theorem verify_in_other_block {l : Ledger} {c : VerifiableCredential} {p : AttestationProof}
    {r : Report} (verified : verify l c p = .ok r) {block : Hash256}
    (event : l.event? block r.rootHash = l.event? r.block r.rootHash) :
    verify l c { p with block := block.toBase58 } = .ok { r with block } := by
  obtain ⟨available, a, o, trust, consistent, attested, resolved, rfl⟩ :=
    (verify_halves_iff l c p r).mp verified
  have shaped := (AttestationProof.proof_admitted_iff p).mp consistent.proofShape
  refine (verify_halves_iff ..).mpr ⟨available, { a with block }, o, trust, { consistent with
    proofShape := (AttestationProof.proof_admitted_iff _).mpr { shaped with } }, ?_, resolved, rfl⟩
  exact { attested with
    block := AttestationProof.ofBase58_ok_iff.mp block.ofBase58_toBase58
    recorded := Option.bind_eq_some_iff.mp
      (event.trans (Option.bind_eq_some_iff.mpr attested.recorded)) }

theorem hashed_of_proofHashed {c : VerifiableCredential} {p : AttestationProof}
    {bytes : List UInt8} (hashed : ProofHashed c p bytes) : Hashed c p bytes := by
  rcases hashed with @⟨_, read⟩ | @⟨_, _, _, _, _, made, read, opened⟩
  · exact .root read
  · obtain ⟨_, atStatement, atSalt⟩ := mem_zip_iff.mp opened
    exact .commitment ((normalizedClaims_ok_iff ..).mp made) read atStatement atSalt

theorem hashed_of_other_block {c : VerifiableCredential} {p : AttestationProof} {block : String}
    {bytes : List UInt8} (hashed : Hashed c { p with block } bytes) : Hashed c p bytes := by
  cases hashed with
  | statement made there => exact .statement made there
  | commitment made read atStatement atSalt => exact .commitment made read atStatement atSalt
  | root read => exact .root read

section Sample

open CredentialInput

def twiceRecorded (request : AttestationRequest) : Ledger :=
  ((Ledger.new (sampleInclusion 4).genesis).record (sampleInclusion 4).block
    (sampleInclusion 4).timestamp (sampleAttestation request)).record (sampleInclusion 5).block
    (sampleInclusion 5).timestamp (sampleAttestation request)

theorem event?_twiceRecorded (request : AttestationRequest) {block : Hash256}
    (either : block = (sampleInclusion 4).block ∨ block = (sampleInclusion 5).block) :
    (twiceRecorded request).event? block request.rootHash
      = some ⟨(sample .empty [] none).issuer, request.ctypeHash,
        request.authorization.map (·.nodeId), (sampleInclusion 4).timestamp⟩ := by
  rw [twiceRecorded, Ledger.event?_record, Ledger.event?_record]
  rcases either with rfl | rfl
  · rw [if_neg fun both => absurd both.1 (by decide), if_pos ⟨rfl, rfl⟩]
    rfl
  · rw [if_pos ⟨rfl, rfl⟩]
    rfl

def portraitRequest : AttestationRequest where
  rootHash := Commitment.rootHashOf portraitOpening.commitments []
  ctypeHash := portrait.ctypeHash
  authorization := none

theorem exists_verified_portrait : ∃ r,
    verify (twiceRecorded portraitRequest) issuedPortrait (portraitProof 4) = .ok r
      ∧ r.block = (sampleInclusion 4).block ∧ r.rootHash = portraitRequest.rootHash := by
  have binding : portraitRequest.rootHash = Commitment.rootHashOf portraitOpening.commitments
      (portrait.credential []).trustInputs := rfl
  obtain ⟨_, verified⟩ := verify_issued .nil portrait_statements portraitRandom (sample_dated 4)
    binding rfl rfl (event?_twiceRecorded portraitRequest (.inl rfl)) ⟨nofun, nofun⟩
  exact ⟨_, verified, rfl, rfl⟩

theorem nodup_portrait_digests (issued : List (Statement × Hash256))
    (made : issuedPortrait.normalizedClaims = .ok issued) : (issued.map (·.2)).Nodup := by
  obtain rfl := Except.ok.inj
    (portrait_statements.symm.trans ((normalizedClaims_ok_iff ..).mp made))
  rw [List.map_map]
  exact nodup_of_leading leading_portrait_digests (by decide)

theorem portrait_proof_for_other_block : ∃ c p p' r,
    ShownOf issuedPortrait (portraitProof 4) c p ∧ c.subject.keys = ["@context", "age", "id"]
      ∧ p'.block ≠ p.block ∧ verify (twiceRecorded portraitRequest) c p' = .ok r
      ∧ p'.commitments = p.commitments ∧ p'.salts = p.salts := by
  obtain ⟨r, verified, inBlock, root⟩ := exists_verified_portrait
  obtain ⟨c, p, shownOf, shown, _, keys, block⟩ := exists_shown_portrait verified
  have event : (twiceRecorded portraitRequest).event? (sampleInclusion 5).block r.rootHash
      = (twiceRecorded portraitRequest).event? r.block r.rootHash := by
    rw [inBlock, root, event?_twiceRecorded portraitRequest (.inr rfl),
      event?_twiceRecorded portraitRequest (.inl rfl)]
  have other := verify_in_other_block shown event
  have different : (sampleInclusion 5).block.toBase58 ≠ p.block := by
    intro same
    have blocks := congrArg Hash256.ofBase58 (same.trans block)
    rw [portraitProof, Opening.toProof, Hash256.ofBase58_toBase58, Hash256.ofBase58_toBase58]
      at blocks
    exact absurd (Except.ok.inj blocks) (by decide)
  obtain ⟨_, _, consistent⟩ := exists_opening_of_issued portrait_built portrait_begun portrait_ended
  have free : CollisionFree fun bytes => ProofHashed issuedPortrait (portraitProof 4) bytes
      ∨ ProofHashed c { p with block := (sampleInclusion 5).block.toBase58 } bytes := by
    refine collisionFree_of_nodup ?_ nodup_portraitHashed
    rintro bytes (own | shown)
    · exact mem_portraitHashed rfl rfl (hashed_of_proofHashed own)
    · exact mem_portraitHashed rfl rfl (hashed_of_shown consistent shownOf
        (hashed_of_other_block (hashed_of_proofHashed shown)))
  obtain ⟨commitments, salts⟩ := commitments_and_salts_of_accepted portrait _ _ _ _ _ _ _
    portrait_built portrait_begun portrait_ended nodup_portrait_digests c p shownOf _ _ _ other free
  exact ⟨c, p, _, _, shownOf, keys, different, other, commitments, salts⟩

end Sample

end VerifiableCredential

end SelectiveDisclosure
