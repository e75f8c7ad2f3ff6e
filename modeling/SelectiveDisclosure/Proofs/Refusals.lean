import SelectiveDisclosure.Proofs.Consistency

namespace SelectiveDisclosure

/-- An error of a check, in contrast to those of decoders and of the ledger. -/
def VerificationError.isRefusal : VerificationError → Bool
  | shape (.notSaltedCredential _) => false
  | shape (.notCredential _) => false
  | shape (.notProof _) => false
  | shape _ => true
  | unverifiable _ => true
  | mismatch _ _ _ => true
  | _ => false

namespace VerifiableCredential

def soughtEvent (c : VerifiableCredential) (p : AttestationProof) (genesis : Hash256) :
    Verified (Hash256 × Hash256) := do
  let rootHash ← c.verifyOffline p
  let block ← p.blockHash
  c.checkChain (Ledger.new genesis)
  return (block, rootHash)

def compareEvent (c : VerifiableCredential) (block rootHash : Hash256) (event : AttestationEvent) :
    Verified Attested := do
  if event.attester ≠ c.issuer then
    throw (.mismatch .issuer c.issuer.text event.attester.text)
  if event.ctypeHash ≠ c.schema.id.hash then
    throw (.mismatch .schemaId c.schema.id.toString (CTypeId.mk event.ctypeHash).toString)
  let timestamp ← Timestamp.ofBlock event.timestamp (.eventOutOfRange event.timestamp)
  let some issued := c.issuanceDate | throw (.shape .credentialWithoutDate)
  if issued.roundedSeconds ≠ timestamp.roundedSeconds then
    throw (.mismatch .issuanceDate timestamp.toIso8601 issued.toIso8601)
  let delegation := (← c.delegation).map (·.nodeId)
  if event.authorizationId ≠ delegation then
    throw (.mismatch .authorizationId (Attestation.show? delegation)
      (Attestation.show? event.authorizationId))
  return { rootHash, block, event, timestamp }

theorem findAttestation_eq (c : VerifiableCredential) (p : AttestationProof) (l : Ledger) :
    c.findAttestation p l = (do
      let sought ← c.soughtEvent p l.genesis
      match ← Ledger.ask (l.eventAt sought.1 sought.2) with
      | some event => c.compareEvent sought.1 sought.2 event
      | none => throw (.notFound (.event sought.2 p.block))) := by
  have chain : c.checkChain l = c.checkChain (Ledger.new l.genesis) := rfl
  rw [findAttestation, soughtEvent, chain]
  simp only [bind_assoc, pure_bind]
  refine bind_congr fun root => bind_congr fun block => bind_congr fun _ => ?_
  refine bind_congr fun found => ?_
  cases found with
  | none => rfl
  | some event => rfl

end VerifiableCredential

section Refusals

variable {broken : VerificationError → Bool} {cause : Prop}
  (refused : ∀ e : VerificationError, e.isRefusal = true → broken e = false)
include refused

theorem Timestamp.ofBlock_breaks (millis : UInt64) {fault : ShapeFault}
    (refusal : (VerificationError.shape fault).isRefusal = true) :
    BreaksOnlyIf broken cause (Timestamp.ofBlock millis fault) := by
  rw [Timestamp.ofBlock]
  split
  · split
    · exact .ok _
    · exact .error (refused _ rfl)
  · exact .error (refused _ refusal)

namespace VerifiableCredential

theorem checkCommitments_breaks (commitments : List Hash256)
    (es : List ((Statement × Hash256) × Entropy)) :
    BreaksOnlyIf broken cause (checkCommitments commitments es) := by
  induction es with
  | nil => exact .ok ()
  | cons e es ih =>
    obtain ⟨⟨s, digest⟩, salt⟩ := e
    rw [checkCommitments]
    split
    · exact ih
    · exact .error (refused _ rfl)

variable (c : VerifiableCredential) {p : AttestationProof}

theorem rootHash_breaks : BreaksOnlyIf broken cause c.rootHash := by
  unfold rootHash
  cases c.id with
  | none => exact .error (refused _ rfl)
  | some id => exact .ok _

theorem delegation_breaks : BreaksOnlyIf broken cause c.delegation := by
  unfold delegation
  split
  · exact .ok _
  · exact .ok _
  · exact .error (refused _ rfl)

theorem verifyOffline_breaks (salts : BreaksOnlyIf broken cause p.decodedSalts)
    (commitments : BreaksOnlyIf broken cause p.decodedCommitments) :
    BreaksOnlyIf broken cause (c.verifyOffline p) := by
  rw [verifyOffline]
  exact .bind (.passOn fun _ => refused _ rfl) fun _ _ =>
    .bind (.passOn fun _ => refused _ rfl) fun _ _ =>
      .bind (.passOn fun _ => refused _ rfl) fun _ _ => .refuse (refused _ rfl)
        (.bind salts fun _ _ => .bind commitments fun commitments _ =>
          .bind (checkCommitments_breaks refused commitments _) fun _ _ =>
            .bind (c.rootHash_breaks refused) fun _ _ => .refuse (refused _ rfl) (.ok _))

theorem checkChain_breaks (l : Ledger) : BreaksOnlyIf broken cause (c.checkChain l) := by
  rw [checkChain]
  cases c.status with
  | none => exact .error (refused _ rfl)
  | some status =>
    refine .refuse (refused _ rfl) (.bind (c.rootHash_breaks refused) fun root _ => ?_)
    split
    · exact .error (refused _ rfl)
    · exact .ok ()

theorem soughtEvent_breaks (block : BreaksOnlyIf broken cause p.blockHash)
    (salts : BreaksOnlyIf broken cause p.decodedSalts)
    (commitments : BreaksOnlyIf broken cause p.decodedCommitments) (genesis : Hash256) :
    BreaksOnlyIf broken cause (c.soughtEvent p genesis) :=
  .bind (c.verifyOffline_breaks refused salts commitments) fun _ _ => .bind block fun _ _ =>
    .bind (c.checkChain_breaks refused _) fun _ _ => .ok _

theorem compareEvent_breaks (block rootHash : Hash256) (event : AttestationEvent) :
    BreaksOnlyIf broken cause (c.compareEvent block rootHash event) := by
  rw [compareEvent]
  refine .refuse (refused _ rfl) (.refuse (refused _ rfl)
    (.bind (Timestamp.ofBlock_breaks refused _ rfl) fun timestamp _ => ?_))
  cases c.issuanceDate with
  | none => exact .error (refused _ rfl)
  | some issued =>
    exact .refuse (refused _ rfl)
      (.bind (c.delegation_breaks refused) fun _ _ => .refuse (refused _ rfl) (.ok _))

end VerifiableCredential

end Refusals

end SelectiveDisclosure
