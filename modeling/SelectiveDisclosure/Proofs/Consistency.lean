import SelectiveDisclosure.Proofs.DocumentShape
import SelectiveDisclosure.Proofs.Preimages
import SelectiveDisclosure.Proofs.SubjectExpansion
import SelectiveDisclosure.Verification

namespace SelectiveDisclosure

open Schema

theorem mem_zip_iff {α β : Type} {as : List α} {bs : List β} {a : α} {b : β} :
    (a, b) ∈ as.zip bs ↔ ∃ i : Nat, as[i]? = some a ∧ bs[i]? = some b := by
  rw [List.mem_iff_getElem?]
  exact exists_congr fun _ => List.getElem?_zip_eq_some

/-- What a proof opens: the statements of a subject, a salt for each, and all commitments. -/
structure Opening where
  statements : List (Statement × Hash256)
  salts : List Entropy
  commitments : List Hash256

/-- A credential and its proof agree with each other and name a root hash. -/
structure Consistent (c : VerifiableCredential) (p : AttestationProof) (o : Opening)
    (root : Hash256) : Prop where
  proofShape : Admits p.toJson Schema.proof.rules
  shape : Admits c.toJson Schema.credential.rules
  innerShape : ∀ inner, c.proof = some inner → Admits inner.toJson Schema.proof.rules
  statements : Commitment.normalizeClaims c.subject = .ok o.statements
  count : o.statements.length = p.salts.length
  salts : List.Forall₂ (fun text salt => Base58.decodeText text = .ok salt.toList) p.salts o.salts
  commitments : List.Forall₂ (fun text hash => Base58.decodeText text = .ok hash.toList)
    p.commitments o.commitments
  opened : ∀ (i : Nat) statement digest salt, o.statements[i]? = some (statement, digest) →
    o.salts[i]? = some salt → Commitment.commitment salt digest ∈ o.commitments
  identity : c.id = some ⟨root⟩
  binding : root = blake2b (Commitment.rootPreimage o.commitments c.trustInputs)

theorem Verified.ofEncoding_ok_iff {α : Type} {r : Except EncodingError α} {a : α} :
    Verified.ofEncoding r = .ok a ↔ r = .ok a :=
  Outcome.mapError_ok_iff

namespace AttestationProof

theorem entropyOfText_ok_iff {text : String} {salt : Entropy} :
    entropyOfText text = .ok salt ↔ Base58.decodeText text = .ok salt.toList := by
  rw [entropyOfText, Outcome.bind_ok_iff]
  simp [FixedBytes.ofList_ok_iff]

theorem ofBase58_ok_iff {text : String} {hash : Hash256} :
    Hash256.ofBase58 text = .ok hash ↔ Base58.decodeText text = .ok hash.toList := by
  rw [Hash256.ofBase58, Outcome.bind_ok_iff]
  simp [Hash256.ofBytes, FixedBytes.ofList_ok_iff]

theorem decodedSalts_ok_iff {p : AttestationProof} {salts : List Entropy} :
    p.decodedSalts = .ok salts
      ↔ List.Forall₂ (fun text salt => Base58.decodeText text = .ok salt.toList) p.salts salts := by
  simp only [decodedSalts, Outcome.mapM_ok_iff, Verified.ofEncoding_ok_iff, entropyOfText_ok_iff]

theorem decodedCommitments_ok_iff {p : AttestationProof} {commitments : List Hash256} :
    p.decodedCommitments = .ok commitments ↔ List.Forall₂
      (fun text hash => Base58.decodeText text = .ok hash.toList) p.commitments commitments := by
  simp only [decodedCommitments, Outcome.mapM_ok_iff, Verified.ofEncoding_ok_iff, ofBase58_ok_iff]

end AttestationProof

namespace VerifiableCredential

theorem checkCommitments_ok_iff (commitments : List Hash256)
    (es : List ((Statement × Hash256) × Entropy)) : checkCommitments commitments es = .ok ()
      ↔ ∀ e ∈ es, Commitment.commitment e.2 e.1.2 ∈ commitments := by
  induction es with
  | nil => simp [checkCommitments]
  | cons e es ih =>
    obtain ⟨⟨s, digest⟩, salt⟩ := e
    rw [checkCommitments, List.forall_mem_cons]
    by_cases member : Commitment.commitment salt digest ∈ commitments <;> simp [member, ih]

theorem rootHash_ok_iff (c : VerifiableCredential) (root : Hash256) :
    c.rootHash = .ok root ↔ c.id = some ⟨root⟩ := by
  unfold rootHash
  cases c.id with
  | none => simp
  | some id =>
    obtain ⟨hash⟩ := id
    simp

theorem normalizedClaims_ok_iff (c : VerifiableCredential)
    (normalized : List (Statement × Hash256)) :
    c.normalizedClaims = .ok normalized ↔ Commitment.normalizeClaims c.subject = .ok normalized :=
  Outcome.mapError_ok_iff

theorem opened_iff (o : Opening) : (∀ e ∈ o.statements.zip o.salts,
      Commitment.commitment e.2 e.1.2 ∈ o.commitments)
    ↔ ∀ (i : Nat) statement digest salt, o.statements[i]? = some (statement, digest) →
      o.salts[i]? = some salt → Commitment.commitment salt digest ∈ o.commitments := by
  constructor
  · intro opened i statement digest salt atStatement atSalt
    exact opened ((statement, digest), salt) (mem_zip_iff.mpr ⟨i, atStatement, atSalt⟩)
  · rintro opened ⟨⟨statement, digest⟩, salt⟩ member
    obtain ⟨i, atStatement, atSalt⟩ := mem_zip_iff.mp member
    exact opened i statement digest salt atStatement atSalt

/-- The checks without a ledger pass exactly when credential and proof agree. -/
theorem verifyOffline_ok_iff (c : VerifiableCredential) (p : AttestationProof) (root : Hash256) :
    c.verifyOffline p = .ok root ↔ ∃ o, Consistent c p o root := by
  rw [verifyOffline]
  simp only [Outcome.bind_ok_iff, Outcome.refuse_ok_iff, Outcome.pure_ok_iff,
    Outcome.mapError_ok_iff, normalizedClaims_ok_iff, rootHash_ok_iff, Commitment.rootHashOf_eq,
    AttestationProof.decodedSalts_ok_iff, AttestationProof.decodedCommitments_ok_iff, not_not]
  constructor
  · rintro ⟨_, proofShape, _, shape, statements, made, count, salts, readSalts, commitments,
      readCommitments, _, opened, _, identity, binding, rfl⟩
    obtain ⟨shape, innerShape⟩ := (validateCredential_ok_iff c).mp shape
    exact ⟨⟨statements, salts, commitments⟩, {
      proofShape := (Schema.validate_ok_iff _ _).mp proofShape
      shape
      innerShape
      statements := made
      count
      salts := readSalts
      commitments := readCommitments
      opened := (opened_iff _).mp ((checkCommitments_ok_iff _ _).mp opened)
      identity
      binding := binding.symm }⟩
  · rintro ⟨o, consistent⟩
    refine ⟨(), (Schema.validate_ok_iff _ _).mpr consistent.proofShape, (),
      (validateCredential_ok_iff c).mpr ⟨consistent.shape, consistent.innerShape⟩, o.statements,
      consistent.statements, consistent.count, o.salts, consistent.salts, o.commitments,
      consistent.commitments, (), ?_, root, consistent.identity, consistent.binding.symm, rfl⟩
    exact (checkCommitments_ok_iff _ _).mpr ((opened_iff o).mpr consistent.opened)

end VerifiableCredential

end SelectiveDisclosure
