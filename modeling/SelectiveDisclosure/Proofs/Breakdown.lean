import SelectiveDisclosure.Proofs.DocumentDecoding
import SelectiveDisclosure.Proofs.LaterLedger
import SelectiveDisclosure.Proofs.Refusals
import SelectiveDisclosure.Proofs.StatementBinding

/-!
Where parsing, verifying and finalizing break down instead of refusing. Nobody measures the texts of
a proof before they are read in base 58, so a single text with too many ones in front is enough; and
nothing else is. Whoever is shown a credential can be shown such a proof along with it.
-/

namespace SelectiveDisclosure

namespace AttestationProof

def Overruns (p : AttestationProof) : Prop :=
  ∃ text ∈ p.block :: (p.commitments ++ p.salts), Base58.Overruns text

theorem blockHash_breaks (p : AttestationProof) :
    BreaksOnlyIf VerificationError.isBreakdown (Base58.Overruns p.block) p.blockHash :=
  (Hash256.ofBase58_breaks p.block).mapError fun _ bad => bad

theorem decodedCommitments_breaks (p : AttestationProof) :
    BreaksOnlyIf VerificationError.isBreakdown (∃ text ∈ p.commitments, Base58.Overruns text)
      p.decodedCommitments := by
  refine .mapM fun text there => .mapError ?_ fun _ bad => bad
  exact (Hash256.ofBase58_breaks text).mono fun overruns => ⟨text, there, overruns⟩

theorem entropyOfText_breaks (text : String) :
    BreaksOnlyIf EncodingError.isBreakdown (Base58.Overruns text) (entropyOfText text) :=
  (decodeText_breaks text).bind fun bytes _ => FixedBytes.ofList_breaks 36 bytes

theorem decodedSalts_breaks (p : AttestationProof) :
    BreaksOnlyIf VerificationError.isBreakdown (∃ text ∈ p.salts, Base58.Overruns text)
      p.decodedSalts := by
  refine .mapM fun text there => .mapError ?_ fun _ bad => bad
  exact (entropyOfText_breaks text).mono fun overruns => ⟨text, there, overruns⟩

theorem Overruns.ofBlock {p : AttestationProof} (overruns : Base58.Overruns p.block) :
    p.Overruns := ⟨p.block, List.mem_cons_self, overruns⟩

theorem Overruns.ofCommitment {p : AttestationProof}
    (overruns : ∃ text ∈ p.commitments, Base58.Overruns text) : p.Overruns :=
  overruns.imp fun _ held => ⟨List.mem_cons_of_mem _ (List.mem_append_left _ held.1), held.2⟩

theorem Overruns.ofSalt {p : AttestationProof}
    (overruns : ∃ text ∈ p.salts, Base58.Overruns text) : p.Overruns :=
  overruns.imp fun _ held => ⟨List.mem_cons_of_mem _ (List.mem_append_right _ held.1), held.2⟩

theorem parse_breaks (j : Json) : BreaksOnlyIf VerificationError.isBreakdown
    (∃ p, decode .direct j = .ok p ∧ p.Overruns) (parse j) := by
  rw [parse]
  refine .bind (.passOn fun _ => rfl) fun _ _ =>
    .bind (.mapError (decode_breaks .direct j) fun _ bad => bad) fun p read => ?_
  refine .mono (?_ : BreaksOnlyIf _ p.Overruns _) fun overruns =>
    ⟨p, Outcome.mapError_ok_iff.mp read, overruns⟩
  have rest : BreaksOnlyIf VerificationError.isBreakdown p.Overruns (do
      let _ ← p.decodedCommitments
      let _ ← p.decodedSalts
      return p) :=
    .bind (p.decodedCommitments_breaks.mono .ofCommitment) fun _ _ =>
      .bind (p.decodedSalts_breaks.mono .ofSalt) fun _ _ => .ok p
  dsimp only
  split
  · exact .bind (p.blockHash_breaks.mono .ofBlock) fun _ _ => rest
  · exact rest

end AttestationProof

theorem isBreakdown_of_refusal (e : VerificationError) (refusal : e.isRefusal = true) :
    e.isBreakdown = false := by
  cases e with
  | shape fault => cases fault <;> first | rfl | contradiction
  | unverifiable _ | mismatch _ _ _ => rfl
  | malformed _ | notFound _ | revoked _ | ledger _ => contradiction

namespace Ledger

variable {cause : Prop}

theorem fetchNode_breaks (l : Ledger) (id : Hash256) :
    BreaksOnlyIf VerificationError.isBreakdown cause (l.fetchNode id) := by
  refine .bind (.passOn fun _ => rfl) fun found _ => ?_
  cases found with
  | none => exact .error rfl
  | some node => exact .ok node

theorem ownersUpward_breaks (l : Ledger) (remaining : Nat) (start : Option Hash256) :
    BreaksOnlyIf VerificationError.isBreakdown cause (l.ownersUpward remaining start) := by
  induction remaining generalizing start with
  | zero => cases start <;> first | exact .ok _ | exact .error rfl
  | succ remaining ih =>
    cases start with
    | none => exact .ok []
    | some id =>
      exact .bind (l.fetchNode_breaks id) fun node _ => .bind (ih node.parent) fun _ _ => .ok _

theorem ancestorOwners_breaks (l : Ledger) (node : DelegationNode) :
    BreaksOnlyIf VerificationError.isBreakdown cause (l.ancestorOwners node) :=
  .bind (l.ownersUpward_breaks hierarchyLimit node.parent) fun _ _ => .ok _

end Ledger

namespace TrustEntry

variable {cause : Prop}

theorem resolveDelegation_breaks (l : Ledger) (event : AttestationEvent) (id : DelegationId)
    (delegators : Option (List Did)) :
    BreaksOnlyIf VerificationError.isBreakdown cause (resolveDelegation l event id delegators) := by
  refine .bind (l.fetchNode_breaks id.nodeId) fun node _ => .refuse rfl (.refuse rfl ?_)
  cases delegators with
  | none => exact .ok _
  | some expected => exact .bind (l.ancestorOwners_breaks node) fun _ _ => .refuse rfl (.ok _)

theorem embeddedProof_breaks (id : CredentialId) (c : VerifiableCredential) :
    BreaksOnlyIf VerificationError.isBreakdown cause (embeddedProof id c) := by
  rw [embeddedProof]
  refine .refuse rfl ?_
  cases c.proof with
  | none => exact .error rfl
  | some p => exact .ok p

end TrustEntry

namespace VerifiableCredential

theorem findAttestation_breaks (c : VerifiableCredential) (p : AttestationProof) (l : Ledger) :
    BreaksOnlyIf VerificationError.isBreakdown p.Overruns (c.findAttestation p l) := by
  have sought : BreaksOnlyIf VerificationError.isBreakdown p.Overruns
      (c.soughtEvent p l.genesis) :=
    c.soughtEvent_breaks isBreakdown_of_refusal (p.blockHash_breaks.mono .ofBlock)
      (p.decodedSalts_breaks.mono .ofSalt) (p.decodedCommitments_breaks.mono .ofCommitment) _
  rw [findAttestation_eq]
  refine .bind sought fun place _ => .bind (.passOn fun _ => rfl) fun found _ => ?_
  cases found with
  | none => exact .error rfl
  | some event => exact c.compareEvent_breaks isBreakdown_of_refusal _ _ event

mutual

theorem verify_breaks (l : Ledger) : ∀ (c : VerifiableCredential) (p : AttestationProof),
    BreaksOnlyIf VerificationError.isBreakdown (∃ e q, Involves c p e q ∧ q.Overruns)
      (verify l c p)
  | ⟨contexts, types, id, subject, schema, status, issuer, issuanceDate, nonTransferable,
      trustModel, embedded⟩, p => by
    rw [verify]
    refine .bind ((findAttestation_breaks _ p l).mono fun overruns => ⟨_, p, .self, overruns⟩)
      fun found _ => .bind ((resolveAll_breaks l found.event trustModel).mono ?_) fun _ _ => .ok _
    rintro ⟨id, e, q, there, inside, e', q', below, overruns⟩
    exact ⟨e', q', .embedded there inside below, overruns⟩

theorem resolveAll_breaks (l : Ledger) (event : AttestationEvent) :
    ∀ es : List (TrustEntry VerifiableCredential),
      BreaksOnlyIf VerificationError.isBreakdown (∃ id e q, .legitimation id (some e) ∈ es
        ∧ e.proof = some q ∧ ∃ e' q', Involves e q e' q' ∧ q'.Overruns) (resolveAll l event es)
  | [] => .ok []
  | entry :: rest => by
    rw [resolveAll]
    refine .bind ((resolveEntry_breaks l event entry).mono ?_) fun _ _ =>
      .bind ((resolveAll_breaks l event rest).mono ?_) fun _ _ => .ok _
    · rintro ⟨id, e, q, rfl, below⟩
      exact ⟨id, e, q, List.mem_cons_self, below⟩
    · rintro ⟨id, e, q, there, below⟩
      exact ⟨id, e, q, List.mem_cons_of_mem _ there, below⟩

theorem resolveEntry_breaks (l : Ledger) (event : AttestationEvent) :
    ∀ entry : TrustEntry VerifiableCredential,
      BreaksOnlyIf VerificationError.isBreakdown (∃ id e q, entry = .legitimation id (some e)
        ∧ e.proof = some q ∧ ∃ e' q', Involves e q e' q' ∧ q'.Overruns) (resolveEntry l event entry)
  | .legitimation id (some e) => by
    rw [resolveEntry]
    refine .bind (TrustEntry.embeddedProof_breaks id e) fun q inside =>
      .bind ((verify_breaks l e q).mono fun below => ?_) fun _ _ => .ok _
    exact ⟨id, e, q, rfl, ((TrustEntry.embeddedProof_ok_iff id e q).mp inside).2, below⟩
  | .legitimation id none => by
    rw [resolveEntry]
    exact .ok _
  | .delegation id delegators => by
    rw [resolveEntry]
    exact TrustEntry.resolveDelegation_breaks l event id delegators

end

theorem finalizeProof_breaks (c : VerifiableCredential) (p : AttestationProof)
    (inclusion : Inclusion) : BreaksOnlyIf VerificationError.isBreakdown
      (∃ text ∈ p.commitments, Base58.Overruns text) (c.finalizeProof p inclusion) := by
  rw [finalizeProof]
  exact .bind p.decodedCommitments_breaks fun _ _ =>
    .bind (Timestamp.ofBlock_breaks isBreakdown_of_refusal _ rfl) fun _ _ => .ok _

theorem parse_breaks (j : Json) :
    BreaksOnlyIf VerificationError.isBreakdown (j.Mentions IdOverruns) (parse j) := by
  rw [parse]
  exact .bind (.passOn fun _ => rfl) fun _ _ =>
    .mapError (decodeIn_sturdy .direct j) fun _ bad => bad

end VerifiableCredential

/-- Neither a result nor a refusal. -/
def Verified.BreaksDown {α : Type} (r : Verified α) : Prop :=
  ∃ e, r = .error e ∧ e.isBreakdown = true

namespace Verified

variable {α β : Type}

instance : (r : Verified α) → Decidable r.BreaksDown
  | .error e => decidable_of_iff (e.isBreakdown = true) ⟨fun bad => ⟨e, rfl, bad⟩,
    fun ⟨_, same, bad⟩ => Except.error.inj same ▸ bad⟩
  | .ok _ => .isFalse nofun

theorem BreaksDown.cause {cause : Prop} {r : Verified α} (broke : r.BreaksDown)
    (only : BreaksOnlyIf VerificationError.isBreakdown cause r) : cause := by
  obtain ⟨e, failed, bad⟩ := broke
  exact only e failed bad

theorem BreaksDown.bind {x : Verified α} (broke : x.BreaksDown) (f : α → Verified β) :
    BreaksDown (x >>= f) := by
  obtain ⟨e, rfl, bad⟩ := broke
  exact ⟨e, rfl, bad⟩

end Verified

/-- Parsing, verifying and finalizing do not break down where no base 58 text overruns the work
area: no text of the proofs that are looked at, and for a credential that is parsed the digits of no
id. A text that does has more than 132 bytes, and a one in front. -/
theorem breaks_down_only_on_overrun (j : Json) (l : Ledger) (c : VerifiableCredential)
    (p : AttestationProof) (inclusion : Inclusion) (text : String) :
    ((∀ q, AttestationProof.decode .direct j = .ok q → ¬ q.Overruns) →
      ¬ (AttestationProof.parse j).BreaksDown)
    ∧ (¬ j.Mentions IdOverruns → ¬ (VerifiableCredential.parse j).BreaksDown)
    ∧ ((∀ e q, VerifiableCredential.Involves c p e q → ¬ q.Overruns) →
      ¬ (VerifiableCredential.verify l c p).BreaksDown)
    ∧ ((∀ t ∈ p.commitments, ¬ Base58.Overruns t) → ¬ (c.finalizeProof p inclusion).BreaksDown)
    ∧ (Base58.Overruns text → 132 < (utf8 text).length
      ∧ 0 < Base58.leadingOnes (utf8 text)) := by
  refine ⟨fun clean broke => ?_, fun clean broke => ?_, fun clean broke => ?_,
    fun clean broke => ?_, fun overruns => ⟨overruns.long, overruns.leading⟩⟩
  · obtain ⟨q, read, overruns⟩ := broke.cause (AttestationProof.parse_breaks j)
    exact clean q read overruns
  · exact clean (broke.cause (VerifiableCredential.parse_breaks j))
  · obtain ⟨e, q, involved, overruns⟩ := broke.cause (VerifiableCredential.verify_breaks l c p)
    exact clean e q involved overruns
  · obtain ⟨t, there, overruns⟩ := broke.cause (c.finalizeProof_breaks p inclusion)
    exact clean t there overruns

def AttestationProof.prepend (p : AttestationProof) (text : String) : AttestationProof :=
  { p with commitments := text :: p.commitments }

section Overrun

variable {text : String} (overruns : Base58.Overruns text)
include overruns

theorem ofBase58_breaksDown : (Verified.ofEncoding (Hash256.ofBase58 text)).BreaksDown := by
  obtain ⟨e, failed, bad⟩ := (Base58.decodeText_breaks_iff text).mpr overruns
  refine ⟨.malformed (.encoding e), ?_, bad⟩
  rw [Hash256.ofBase58, failed]
  rfl

theorem decodedCommitments_breaksDown {p : AttestationProof} {rest : List String}
    (first : p.commitments = text :: rest) : p.decodedCommitments.BreaksDown := by
  rw [AttestationProof.decodedCommitments, first, List.mapM_cons]
  exact (ofBase58_breaksDown overruns).bind _

theorem validateProof_prepend {p : AttestationProof} (shaped : p.WellShaped) :
    Schema.validateProof (p.prepend text).toJson = .ok () := by
  have filled : text ≠ "" := by
    rintro rfl
    exact Base58.not_overruns_empty overruns
  exact (Schema.validate_ok_iff _ _).mpr ((AttestationProof.proof_admitted_iff _).mpr { shaped with
    commitments := List.forall_mem_cons.mpr ⟨filled, shaped.commitments⟩ })

theorem finalizeProof_breaksDown (c : VerifiableCredential) (p : AttestationProof)
    (inclusion : Inclusion) : (c.finalizeProof (p.prepend text) inclusion).BreaksDown :=
  (decodedCommitments_breaksDown overruns rfl).bind _

theorem parse_breaksDown {p : AttestationProof} (shaped : p.WellShaped)
    (unfinished : p.block = "") : (AttestationProof.parse (p.prepend text).toJson).BreaksDown := by
  have empty : (!(p.prepend text).block.isEmpty) = false := by
    rw [AttestationProof.prepend, unfinished]
    rfl
  rw [AttestationProof.parse, validateProof_prepend overruns shaped, AttestationProof.decode_toJson]
  simp only [Except.mapError, Outcome.ok_bind, empty]
  exact (decodedCommitments_breaksDown overruns rfl).bind _

theorem verifyOffline_breaksDown {c : VerifiableCredential} {p : AttestationProof} {o : Opening}
    {root : Hash256} (consistent : Consistent c p o root) :
    (c.verifyOffline (p.prepend text)).BreaksDown := by
  have shaped := (AttestationProof.proof_admitted_iff p).mp consistent.proofShape
  have valid := (VerifiableCredential.validateCredential_ok_iff c).mpr
    ⟨consistent.shape, consistent.innerShape⟩
  have made := (VerifiableCredential.normalizedClaims_ok_iff c _).mpr consistent.statements
  have salts : (p.prepend text).decodedSalts = .ok o.salts :=
    AttestationProof.decodedSalts_ok_iff.mpr consistent.salts
  rw [VerifiableCredential.verifyOffline, validateProof_prepend overruns shaped, valid, made]
  have count : ¬ o.statements.length ≠ (p.prepend text).salts.length := not_not.mpr consistent.count
  simp only [Except.mapError, Outcome.ok_bind, salts, if_neg count]
  exact (decodedCommitments_breaksDown overruns rfl).bind _

theorem verify_breaksDown {l : Ledger} {c : VerifiableCredential} {p : AttestationProof}
    {r : Report} (verified : VerifiableCredential.verify l c p = .ok r) (l' : Ledger) :
    (VerifiableCredential.verify l' c (p.prepend text)).BreaksDown := by
  obtain ⟨_, _, _, _, consistent, _⟩ := (VerifiableCredential.verify_halves_iff l c p r).mp verified
  obtain ⟨⟩ := c
  rw [VerifiableCredential.verify]
  exact ((verifyOffline_breaksDown overruns consistent).bind _).bind _

end Overrun

section Sample

def overrunCredential : Json := .obj [
  ("@context", .arr [.str VerifiableCredential.w3cContext, .str VerifiableCredential.kiltContext]),
  ("type", .arr [.str VerifiableCredential.genericType, .str VerifiableCredential.kiltType]),
  ("id", .str (CredentialId.head ++ Base58.ones 133)),
  ("credentialSubject", .obj [
    ("@context", .obj [("@vocab", .str "")]),
    ("id", .str "did:kilt:holder")]),
  ("credentialSchema", .obj [
    ("id", .ofText (CTypeId.mk (CredentialInput.sample .empty [] none).ctypeHash)),
    ("type", .str VerifiableCredential.schemaType)]),
  ("issuer", .str "did:kilt:issuer"),
  ("nonTransferable", .bool true),
  ("federatedTrustModel", .arr [])]

theorem parse_overrunCredential : (VerifiableCredential.parse overrunCredential).BreaksDown := by
  decide +kernel

def onesProof (count : Nat) : AttestationProof :=
  AttestationProof.prepend ⟨AttestationProof.typeName, "", [], []⟩ (Base58.ones count)

theorem onesProof_overruns_iff (count : Nat) :
    (onesProof count).Overruns ↔ Base58.capacity < count := by
  have texts : (onesProof count).Overruns
      ↔ ∃ text ∈ ["", Base58.ones count], Base58.Overruns text := Iff.rfl
  rw [texts, ← Base58.overruns_ones_iff]
  simp [Base58.not_overruns_empty]

theorem sample_at_limit :
    ¬ (AttestationProof.parse (onesProof 132).toJson).BreaksDown
    ∧ ¬ (VerifiableCredential.verify (.new (CredentialInput.sampleInclusion 4).genesis)
      ((CredentialInput.sample .empty [] none).credential []) (onesProof 132)).BreaksDown
    ∧ ¬ (((CredentialInput.sample .empty [] none).credential []).finalizeProof (onesProof 132)
      (CredentialInput.sampleInclusion 4)).BreaksDown := by
  obtain ⟨parses, _, verifies, finalizes, _⟩ := breaks_down_only_on_overrun (onesProof 132).toJson
    (.new (CredentialInput.sampleInclusion 4).genesis)
    ((CredentialInput.sample .empty [] none).credential []) (onesProof 132)
    (CredentialInput.sampleInclusion 4) ""
  have limit : ¬ (onesProof 132).Overruns := fun overruns =>
    absurd ((onesProof_overruns_iff 132).mp overruns) (by decide)
  refine ⟨parses ?_, verifies ?_, finalizes ?_⟩
  · intro q read
    rw [AttestationProof.decode_toJson] at read
    exact Except.ok.inj read ▸ limit
  · intro e q involved
    cases involved with
    | self => exact limit
    | embedded there => exact absurd there List.not_mem_nil
  · intro text there overruns
    exact limit (.ofCommitment ⟨text, there, overruns⟩)

theorem entry_points_break_down : (¬ ∀ j, ¬ (AttestationProof.parse j).BreaksDown)
    ∧ (¬ ∀ j, ¬ (VerifiableCredential.parse j).BreaksDown)
    ∧ (¬ ∀ l c p, ¬ (VerifiableCredential.verify l c p).BreaksDown)
    ∧ ¬ ∀ (c : VerifiableCredential) p inclusion, ¬ (c.finalizeProof p inclusion).BreaksDown := by
  have overruns := (Base58.overruns_ones_iff 133).mpr (by decide)
  refine ⟨fun never => ?_, fun never => never _ parse_overrunCredential, fun never => ?_,
    fun never => ?_⟩
  · exact never _ (parse_breaksDown overruns (p := ⟨AttestationProof.typeName, "", [], []⟩)
      ⟨rfl, nofun, nofun⟩ rfl)
  · have unreserved : (CredentialInput.sample .empty [] none).Unreserved := nofun
    obtain ⟨_, made⟩ := CredentialInput.exists_normalizeClaims unreserved
    obtain ⟨l, _, verified⟩ := CredentialInput.verify_unbacked rfl rfl made (fun _ => 0)
      (CredentialInput.sample_dated 4) rfl
    exact never _ _ _ (verify_breaksDown overruns verified l)
  · exact never _ _ _ (finalizeProof_breaksDown overruns
      ((CredentialInput.sample .empty [] none).credential []) (onesProof 133)
      (CredentialInput.sampleInclusion 4))

end Sample

end SelectiveDisclosure
