import SelectiveDisclosure.Proofs.Acceptance
import SelectiveDisclosure.Proofs.LedgerHistory
import SelectiveDisclosure.Proofs.NewCredential

namespace SelectiveDisclosure

namespace Opening

def drawn (statements : List (Statement × Hash256)) (random : Nat → UInt8) : Opening where
  statements
  salts := (Commitment.commit (statements.map (·.2)) random).salts
  commitments := (Commitment.commit (statements.map (·.2)) random).commitments

def toProof (o : Opening) (block : String) : AttestationProof where
  proofType := AttestationProof.typeName
  block
  commitments := o.commitments.map (·.toBase58)
  salts := o.salts.map fun s => Base58.encode s.toList

theorem length_salts_drawn (statements : List (Statement × Hash256)) (random : Nat → UInt8) :
    (drawn statements random).salts.length = statements.length := by
  simp [drawn, Commitment.commit]

theorem salt_drawn {statements : List (Statement × Hash256)} {random : Nat → UInt8} {i : Nat}
    {salt : Entropy} (there : (drawn statements random).salts[i]? = some salt) :
    salt = Commitment.entropyAt random i := by
  simp only [drawn, Commitment.commit, List.getElem?_map, Option.map_eq_some_iff] at there
  obtain ⟨position, at_i, rfl⟩ := there
  obtain ⟨_, rfl⟩ := List.getElem?_eq_some_iff.mp at_i
  rw [List.getElem_range]

theorem mem_commitments_drawn (statements : List (Statement × Hash256)) (random : Nat → UInt8)
    (hash : Hash256) : hash ∈ (drawn statements random).commitments
      ↔ ∃ (i : Nat) (statement : Statement) (digest : Hash256) (salt : Entropy),
        statements[i]? = some (statement, digest)
        ∧ (drawn statements random).salts[i]? = some salt
        ∧ Commitment.commitment salt digest = hash := by
  simp only [drawn, Commitment.commit, FixedBytes.mem_sort]
  rw [List.mem_iff_getElem?]
  simp only [List.getElem?_zipWith_eq_some]
  constructor
  · rintro ⟨i, salt, digest, atSalt, atDigest, made⟩
    rw [List.getElem?_map, Option.map_eq_some_iff] at atDigest
    obtain ⟨⟨statement, digest⟩, atStatement, rfl⟩ := atDigest
    exact ⟨i, statement, digest, salt, atStatement, atSalt, made⟩
  · rintro ⟨i, statement, digest, salt, atStatement, atSalt, made⟩
    exact ⟨i, salt, digest, atSalt, by rw [List.getElem?_map, atStatement]; rfl, made⟩

theorem salts_toProof (o : Opening) (block : String) : List.Forall₂
    (fun text (salt : Entropy) => Base58.decodeText text = .ok salt.toList)
      (o.toProof block).salts o.salts := by
  rw [toProof, List.forall₂_map_left_iff, List.forall₂_same]
  intro salt _
  exact AttestationProof.entropyOfText_ok_iff.mp (Base58.decode_fixed (by decide) (by decide) salt)

theorem commitments_toProof (o : Opening) (block : String) : List.Forall₂
    (fun text (hash : Hash256) => Base58.decodeText text = .ok hash.toList)
      (o.toProof block).commitments o.commitments := by
  rw [toProof, List.forall₂_map_left_iff, List.forall₂_same]
  intro hash _
  exact AttestationProof.ofBase58_ok_iff.mp hash.ofBase58_toBase58

theorem wellShaped_toProof (o : Opening) (block : String) : (o.toProof block).WellShaped where
  proofType := rfl
  commitments := by
    intro text there
    obtain ⟨hash, _, rfl⟩ := List.mem_map.mp there
    exact Base58.encode_fixed_ne (by decide) (by decide) hash
  salts := by
    intro text there
    obtain ⟨salt, _, rfl⟩ := List.mem_map.mp there
    exact Base58.encode_fixed_ne (by decide) (by decide) salt

end Opening

namespace VerifiableCredential

theorem initializeProof_ok_iff (c : VerifiableCredential) (random : Nat → UInt8)
    (p : AttestationProof) (request : AttestationRequest) :
    c.initializeProof random = .ok (p, request) ↔ ∃ authorization statements,
      c.delegation = .ok authorization ∧ Commitment.normalizeClaims c.subject = .ok statements
      ∧ p = (Opening.drawn statements random).toProof ""
      ∧ request = ⟨Commitment.rootHashOf (Opening.drawn statements random).commitments
          c.trustInputs, c.schema.id.hash, authorization⟩ := by
  rw [initializeProof]
  simp only [Outcome.bind_ok_iff, Outcome.pure_ok_iff, normalizedClaims_ok_iff, Prod.mk.injEq]
  constructor
  · rintro ⟨authorization, single, statements, made, rfl, rfl⟩
    exact ⟨authorization, statements, single, made, rfl, rfl⟩
  · rintro ⟨authorization, statements, single, made, rfl, rfl⟩
    exact ⟨authorization, single, statements, made, rfl, rfl⟩

def finalized (c : VerifiableCredential) (root : Hash256) (p : AttestationProof)
    (genesis : Hash256) (issued : Timestamp) : VerifiableCredential :=
  { c with
    id := some ⟨root⟩
    status := some ⟨⟨ChainId.ofGenesis genesis, root⟩, statusType⟩
    issuanceDate := some issued
    proof := some p }

theorem finalizeProof_ok_iff (c vc : VerifiableCredential) (p q : AttestationProof)
    (inclusion : Inclusion) : c.finalizeProof p inclusion = .ok (vc, q) ↔ ∃ commitments issued,
      p.decodedCommitments = .ok commitments
      ∧ Timestamp.ofMillis? inclusion.timestamp.toNat = some issued
      ∧ q = { p with block := inclusion.block.toBase58 }
      ∧ vc = c.finalized (Commitment.rootHashOf commitments c.trustInputs) q inclusion.genesis
        issued := by
  rw [finalizeProof]
  simp only [Outcome.bind_ok_iff, Outcome.pure_ok_iff, Prod.mk.injEq, Timestamp.ofBlock_ok_iff]
  constructor
  · rintro ⟨commitments, read, issued, dated, rfl, rfl⟩
    exact ⟨commitments, issued, read, dated, rfl, rfl⟩
  · rintro ⟨commitments, issued, read, dated, rfl, rfl⟩
    exact ⟨commitments, read, issued, dated, rfl, rfl⟩

theorem finalizeProof_toProof (c : VerifiableCredential) (o : Opening) {inclusion : Inclusion}
    {issued : Timestamp} (dated : Timestamp.ofMillis? inclusion.timestamp.toNat = some issued) :
    c.finalizeProof (o.toProof "") inclusion
      = .ok (c.finalized (Commitment.rootHashOf o.commitments c.trustInputs)
        (o.toProof inclusion.block.toBase58) inclusion.genesis issued,
        o.toProof inclusion.block.toBase58) :=
  (finalizeProof_ok_iff ..).mpr ⟨o.commitments, issued,
    AttestationProof.decodedCommitments_ok_iff.mpr (o.commitments_toProof ""), dated, rfl, rfl⟩

/-- What an issuer ends up with is made of the statements and of the random source. -/
theorem exists_of_issued {c vc : VerifiableCredential} {random : Nat → UInt8}
    {inclusion : Inclusion} {initialized p : AttestationProof} {request : AttestationRequest}
    (begun : c.initializeProof random = .ok (initialized, request))
    (ended : c.finalizeProof initialized inclusion = .ok (vc, p)) :
    ∃ statements issued, Commitment.normalizeClaims c.subject = .ok statements
      ∧ p = (Opening.drawn statements random).toProof inclusion.block.toBase58
      ∧ vc = c.finalized (Commitment.rootHashOf (Opening.drawn statements random).commitments
        c.trustInputs) p inclusion.genesis issued := by
  obtain ⟨_, statements, _, made, rfl, _⟩ := (initializeProof_ok_iff ..).mp begun
  obtain ⟨commitments, issued, read, _, rfl, rfl⟩ := (finalizeProof_ok_iff ..).mp ended
  rw [AttestationProof.decodedCommitments_ok_iff.mpr (Opening.commitments_toProof _ _)] at read
  rw [← Except.ok.inj read]
  exact ⟨statements, issued, made, rfl, rfl⟩

theorem wellShaped_finalized {input : CredentialInput}
    (entries : List (TrustEntry VerifiableCredential)) (root : Hash256) (p : AttestationProof)
    (genesis : Hash256) (issued : Timestamp) :
    ((input.credential entries).finalized root p genesis issued).WellShaped where
  contexts := List.prefix_rfl
  types := by simp [finalized, CredentialInput.credential]
  vocabulary := ⟨_, input.vocabulary?_credentialSubject⟩
  identity := ⟨_, input.get?_credentialSubject_id, did_matches input.subject⟩
  schemaType := rfl
  statusType := by
    intro status there
    rw [← Option.some.inj there]
  nonTransferable := rfl

theorem consistent_finalized {input : CredentialInput}
    {entries : List (TrustEntry VerifiableCredential)} {statements : List (Statement × Hash256)}
    (made : Commitment.normalizeClaims input.credentialSubject = .ok statements)
    (random : Nat → UInt8) (block genesis : Hash256) (issued : Timestamp) {root : Hash256}
    (binding : root = Commitment.rootHashOf (Opening.drawn statements random).commitments
      (input.credential entries).trustInputs) :
    Consistent ((input.credential entries).finalized root
        ((Opening.drawn statements random).toProof block.toBase58) genesis issued)
      ((Opening.drawn statements random).toProof block.toBase58) (Opening.drawn statements random)
      root where
  proofShape := (AttestationProof.proof_admitted_iff _).mpr (Opening.wellShaped_toProof _ _)
  shape := (credential_admitted_iff _).mpr (wellShaped_finalized ..)
  innerShape := by
    intro inner there
    rw [← Option.some.inj there]
    exact (AttestationProof.proof_admitted_iff _).mpr (Opening.wellShaped_toProof _ _)
  statements := made
  count := by
    rw [Opening.toProof, List.length_map, Opening.length_salts_drawn]
    rfl
  salts := Opening.salts_toProof _ _
  commitments := Opening.commitments_toProof _ _
  opened := by
    intro i statement digest salt atStatement atSalt
    exact (Opening.mem_commitments_drawn statements random _).mpr
      ⟨i, statement, digest, salt, atStatement, atSalt, rfl⟩
  identity := rfl
  binding := by rw [binding, Commitment.rootHashOf_eq]; rfl

theorem exists_resolveAll {l : Ledger} {event : AttestationEvent}
    {es : List (TrustEntry VerifiableCredential)}
    (each : ∀ e ∈ es, ∃ outcome, resolveEntry l event e = .ok outcome) :
    ∃ outcomes, resolveAll l event es = .ok outcomes := by
  induction es with
  | nil => exact ⟨[], rfl⟩
  | cons e es ih =>
    obtain ⟨⟨outcome, first⟩, others⟩ := List.forall_mem_cons.mp each
    obtain ⟨outcomes, resolved⟩ := ih others
    refine ⟨outcome :: outcomes, ?_⟩
    rw [resolveAll]
    simp only [Outcome.bind_ok_iff, Outcome.pure_ok_iff]
    exact ⟨outcome, first, outcomes, resolved, rfl⟩

end VerifiableCredential

structure Attestation.Answers (a : Attestation) (request : AttestationRequest) (issuer : Did) :
    Prop where
  claimHash : a.claimHash = request.rootHash
  ctypeHash : a.ctypeHash = request.ctypeHash
  owner : a.owner = issuer
  delegation : a.delegationId = request.authorization.map (·.nodeId)

/-- A ledger backs the trust model that an input asks for: its delegation node is active there, and
the credentials embedded in it are accepted. -/
structure CredentialInput.BackedBy (input : CredentialInput) (l : Ledger) : Prop where
  delegation : ∀ id, input.delegationId = some id →
    ∃ node, l.delegations.get? id = some node ∧ node.revoked = false
  embedded : ∀ c, .embedded c ∈ input.legitimations →
    ∃ p r, c.proof = some p ∧ VerifiableCredential.verify l c p = .ok r

namespace CredentialInput

theorem delegationIds {input : CredentialInput} {entries : List (TrustEntry VerifiableCredential)}
    (read : List.Forall₂ (fun g e => g.toEntry = .ok e) input.legitimations entries) :
    (input.credential entries).trustModel.filterMap (·.delegationId?)
      = (input.delegationId.map DelegationId.mk).toList := by
  have none : entries.filterMap (·.delegationId?) = [] := by
    rw [List.filterMap_eq_nil_iff]
    intro e there
    obtain ⟨g, _, made⟩ := Outcome.exists_source read there
    rcases (Legitimation.toEntry_ok_iff g e).mp made with ⟨_, _, _, _, rfl⟩ | ⟨_, _, rfl⟩ <;> rfl
  rw [credential, List.filterMap_append, none, List.nil_append, delegations]
  cases input.delegationId <;> rfl

theorem exists_trust {input : CredentialInput} {entries : List (TrustEntry VerifiableCredential)}
    (read : List.Forall₂ (fun g e => g.toEntry = .ok e) input.legitimations entries) {l : Ledger}
    (available : l.unavailable = none) (backed : input.BackedBy l) {event : AttestationEvent}
    (authorized : event.authorizationId = input.delegationId) :
    ∃ trust, VerifiableCredential.resolveAll l event (input.credential entries).trustModel
      = .ok trust := by
  apply VerifiableCredential.exists_resolveAll
  intro e there
  rcases List.mem_append.mp there with legitimation | delegation
  · obtain ⟨g, member, made⟩ := Outcome.exists_source read legitimation
    rcases (Legitimation.toEntry_ok_iff g e).mp made with ⟨c, id, rfl, identity, rfl⟩ | ⟨id, _, rfl⟩
    · obtain ⟨p, r, inside, accepted⟩ := backed.embedded c member
      refine ⟨.legitimationVerified id r.attester, ?_⟩
      rw [VerifiableCredential.resolveEntry]
      simp only [Outcome.bind_ok_iff, Outcome.pure_ok_iff, TrustEntry.embeddedProof_ok_iff]
      exact ⟨p, ⟨identity, inside⟩, r, accepted, rfl⟩
    · exact ⟨.legitimationAssumed id, by rw [VerifiableCredential.resolveEntry]⟩
  · obtain ⟨id, member, rfl⟩ := List.mem_map.mp delegation
    have named := Option.mem_toList.mp member
    obtain ⟨node, found, active⟩ := backed.delegation id named
    refine ⟨.delegationVerified ⟨id⟩ node.owner, ?_⟩
    rw [VerifiableCredential.resolveEntry, TrustEntry.resolveDelegation_ok_iff available]
    refine .delegated found active (authorized.trans named) ?_
    intro expected given
    contradiction

theorem verify_issued {input : CredentialInput} {entries : List (TrustEntry VerifiableCredential)}
    (read : List.Forall₂ (fun g e => g.toEntry = .ok e) input.legitimations entries)
    {statements : List (Statement × Hash256)}
    (made : Commitment.normalizeClaims input.credentialSubject = .ok statements)
    (random : Nat → UInt8) {inclusion : Inclusion} {issued : Timestamp}
    (dated : Timestamp.ofMillis? inclusion.timestamp.toNat = some issued) {root : Hash256}
    (binding : root = Commitment.rootHashOf (Opening.drawn statements random).commitments
      (input.credential entries).trustInputs)
    {l : Ledger} (available : l.unavailable = none) (genesis : l.genesis = inclusion.genesis)
    (recorded : l.event? inclusion.block root = some ⟨input.issuer, input.ctypeHash,
      input.delegationId, inclusion.timestamp⟩) (backed : input.BackedBy l) :
    ∃ trust, VerifiableCredential.verify l ((input.credential entries).finalized root
        ((Opening.drawn statements random).toProof inclusion.block.toBase58) inclusion.genesis
        issued)
      ((Opening.drawn statements random).toProof inclusion.block.toBase58)
      = .ok ⟨root, input.issuer, ⟨input.ctypeHash⟩, inclusion.block, issued, trust⟩ := by
  obtain ⟨instant, representable⟩ := (Timestamp.ofMillis?_eq_some_iff _ _).mp dated
  have authorized : (AttestationEvent.mk input.issuer input.ctypeHash input.delegationId
    inclusion.timestamp).authorizationId = input.delegationId := rfl
  obtain ⟨trust, resolved⟩ := exists_trust read available backed authorized
  refine ⟨trust, (VerifiableCredential.verify_halves_iff _ _ _ _).mpr ⟨available,
    ⟨root, inclusion.block, _, issued⟩, Opening.drawn statements random, trust,
    VerifiableCredential.consistent_finalized made random _ _ _ binding, ?_, resolved, rfl⟩⟩
  exact {
    status := ⟨VerifiableCredential.statusType, by rw [genesis]; rfl⟩
    block := AttestationProof.ofBase58_ok_iff.mp inclusion.block.ofBase58_toBase58
    recorded := Option.bind_eq_some_iff.mp recorded
    issuer := rfl
    ctype := rfl
    instant
    representable
    date := ⟨issued, rfl, rfl⟩
    authorization := by
      refine (delegationIds read).trans ?_
      cases input.delegationId <;> rfl }

theorem verify_recorded {input : CredentialInput} {entries : List (TrustEntry VerifiableCredential)}
    (read : List.Forall₂ (fun g e => g.toEntry = .ok e) input.legitimations entries)
    (backed : ∀ l, input.BackedBy l) {statements : List (Statement × Hash256)}
    (made : Commitment.normalizeClaims input.credentialSubject = .ok statements)
    (random : Nat → UInt8) {inclusion : Inclusion} {issued : Timestamp}
    (dated : Timestamp.ofMillis? inclusion.timestamp.toNat = some issued) {root : Hash256}
    (binding : root = Commitment.rootHashOf (Opening.drawn statements random).commitments
      (input.credential entries).trustInputs) :
    ∃ l r, VerifiableCredential.verify l ((input.credential entries).finalized root
        ((Opening.drawn statements random).toProof inclusion.block.toBase58) inclusion.genesis
        issued)
      ((Opening.drawn statements random).toProof inclusion.block.toBase58) = .ok r := by
  obtain ⟨trust, verified⟩ := verify_issued read made random dated binding
    (l := (Ledger.new inclusion.genesis).record inclusion.block inclusion.timestamp
      ⟨root, input.ctypeHash, input.issuer, input.delegationId, false⟩) rfl rfl
    (by rw [Ledger.event?_record, if_pos ⟨rfl, rfl⟩]) (backed _)
  exact ⟨_, _, verified⟩

theorem verify_unbacked {input : CredentialInput} (unbacked : input.legitimations = [])
    (undelegated : input.delegationId = none) {statements : List (Statement × Hash256)}
    (made : Commitment.normalizeClaims input.credentialSubject = .ok statements)
    (random : Nat → UInt8) {inclusion : Inclusion} {issued : Timestamp}
    (dated : Timestamp.ofMillis? inclusion.timestamp.toNat = some issued) {root : Hash256}
    (binding : root = Commitment.rootHashOf (Opening.drawn statements random).commitments
      (input.credential []).trustInputs) :
    ∃ l r, VerifiableCredential.verify l ((input.credential []).finalized root
        ((Opening.drawn statements random).toProof inclusion.block.toBase58) inclusion.genesis
        issued)
      ((Opening.drawn statements random).toProof inclusion.block.toBase58) = .ok r := by
  have read : List.Forall₂ (fun g (e : TrustEntry VerifiableCredential) => g.toEntry = .ok e)
      input.legitimations [] := by
    rw [unbacked]
    exact .nil
  have backed (l : Ledger) : input.BackedBy l := by
    constructor
    · intro id given
      rw [undelegated] at given
      contradiction
    · intro c given
      rw [unbacked] at given
      contradiction
  exact verify_recorded read backed made random dated binding

/-- Issuance is complete. Every accepted input can be committed to and finalized, the id and the
status name the root hash that was asked for, and with the attestation on a ledger the result is
accepted. -/
theorem issued_is_accepted (input : CredentialInput) (c : VerifiableCredential)
    (built : input.toCredential = .ok c) (random : Nat → UInt8) (inclusion : Inclusion)
    (issued : Timestamp) (dated : Timestamp.ofMillis? inclusion.timestamp.toNat = some issued) :
    ∃ initialized request vc proof, c.initializeProof random = .ok (initialized, request)
      ∧ c.finalizeProof initialized inclusion = .ok (vc, proof)
      ∧ vc.id = some ⟨request.rootHash⟩
      ∧ vc.status = some ⟨⟨ChainId.ofGenesis inclusion.genesis, request.rootHash⟩,
        VerifiableCredential.statusType⟩
      ∧ ∀ (l : Ledger) (a : Attestation), l.unavailable = none → l.genesis = inclusion.genesis →
        a.Answers request input.issuer → l.LastRecorded inclusion.block inclusion.timestamp a →
        input.BackedBy l → ∃ trust, VerifiableCredential.verify l vc proof
          = .ok ⟨request.rootHash, input.issuer, ⟨input.ctypeHash⟩, inclusion.block, issued,
            trust⟩ := by
  obtain ⟨unreserved, entries, read, rfl⟩ := (toCredential_ok_iff input c).mp built
  obtain ⟨statements, made⟩ := exists_normalizeClaims unreserved
  have single : (input.credential entries).delegation
      = .ok (input.delegationId.map DelegationId.mk) :=
    (VerifiableCredential.delegation_ok_iff _ _).mpr (delegationIds read)
  refine ⟨_, _, _, _, (VerifiableCredential.initializeProof_ok_iff _ _ _ _).mpr
    ⟨_, statements, single, made, rfl, rfl⟩,
    VerifiableCredential.finalizeProof_toProof _ _ dated, rfl, rfl, ?_⟩
  intro l a available genesis answers recorded backed
  have event := Ledger.event?_of_lastRecorded recorded
  rw [answers.claimHash, answers.ctypeHash, answers.owner, answers.delegation] at event
  refine verify_issued read made random dated rfl available genesis ?_ backed
  rw [event]
  cases input.delegationId <;> rfl

def sample (claims : OrderedMap String Json) (legitimations : List Legitimation)
    (delegationId : Option Hash256) : CredentialInput where
  subject := ⟨"did:kilt:holder", by decide⟩
  claims
  ctypeHash := ⟨List.replicate 32 1, rfl⟩
  issuer := ⟨"did:kilt:issuer", by decide⟩
  legitimations
  delegationId

def sampleClaims : OrderedMap String Json := OrderedMap.ofList [("name", .str "Ada")]

def sampleNode : Hash256 := ⟨List.replicate 32 7, rfl⟩

def sampleDate : Timestamp := ⟨1700000000000, by decide⟩

def sampleInclusion (block : UInt8) : Inclusion where
  block := ⟨List.replicate 32 block, rfl⟩
  timestamp := 1700000000000
  genesis := ⟨List.replicate 32 2, rfl⟩

def sampleAttestation (request : AttestationRequest) : Attestation where
  claimHash := request.rootHash
  ctypeHash := request.ctypeHash
  owner := (sample .empty [] none).issuer
  delegationId := request.authorization.map (·.nodeId)
  revoked := false

def sampleSteps (second : AttestationRequest) : List LedgerStep := [
  .addDelegation sampleNode ⟨(sample .empty [] none).issuer, none, false⟩,
  .record (sampleInclusion 5).block (sampleInclusion 5).timestamp (sampleAttestation second)]

def sampleLedger (first second : AttestationRequest) : Ledger :=
  ((Ledger.new (sampleInclusion 4).genesis).record (sampleInclusion 4).block
    (sampleInclusion 4).timestamp (sampleAttestation first)).run (sampleSteps second)

theorem sample_dated (block : UInt8) :
    Timestamp.ofMillis? (sampleInclusion block).timestamp.toNat = some sampleDate := rfl

theorem sampleClaims_unreserved (legitimations : List Legitimation)
    (delegationId : Option Hash256) :
    (sample sampleClaims legitimations delegationId).Unreserved := by
  show ∀ key ∈ sampleClaims.keys, key ∉ reservedKeys
  decide

theorem backed_sample_is_accepted : ∃ (id : CredentialId) (backing vc : VerifiableCredential)
    (proof : AttestationProof) (l : Ledger) (r : Report),
    vc.trustModel = [.legitimation id (some backing), .delegation ⟨sampleNode⟩ none]
      ∧ VerifiableCredential.verify l vc proof = .ok r := by
  have plain : (sample .empty [] none).toCredential = .ok ((sample .empty [] none).credential []) :=
    (toCredential_ok_iff _ _).mpr ⟨nofun, [], .nil, rfl⟩
  obtain ⟨_, first, backing, backingProof, _, ended, identity, _, backingAccepted⟩ :=
    issued_is_accepted _ _ plain (fun _ => 0) (sampleInclusion 4) sampleDate (sample_dated 4)
  have inside : backing.proof = some backingProof := by
    obtain ⟨_, _, _, _, _, rfl⟩ := (VerifiableCredential.finalizeProof_ok_iff ..).mp ended
    rfl
  have backed : (sample sampleClaims [.embedded backing] (some sampleNode)).toCredential
      = .ok ((sample sampleClaims [.embedded backing] (some sampleNode)).credential
        [.legitimation ⟨first.rootHash⟩ (some backing)]) := by
    refine (toCredential_ok_iff _ _).mpr ⟨sampleClaims_unreserved _ _, _, .cons ?_ .nil, rfl⟩
    exact (Legitimation.toEntry_ok_iff _ _).mpr (.inl ⟨backing, _, rfl, identity, rfl⟩)
  obtain ⟨_, second, vc, proof, _, ended, _, _, accepted⟩ := issued_is_accepted _ _ backed
    (fun i => UInt8.ofNat i) (sampleInclusion 5) sampleDate (sample_dated 5)
  have trustModel : vc.trustModel = [.legitimation ⟨first.rootHash⟩ (some backing),
      .delegation ⟨sampleNode⟩ none] := by
    obtain ⟨_, _, _, _, _, rfl⟩ := (VerifiableCredential.finalizeProof_ok_iff ..).mp ended
    rfl
  have others : ∀ step ∈ sampleSteps second,
      ¬ step.Writes (sampleInclusion 4).block (sampleAttestation first).claimHash := by
    intro step there
    rcases List.mem_cons.mp there with rfl | there
    · exact id
    · rw [List.mem_singleton.mp there]
      rintro ⟨sameBlock, _⟩
      exact absurd sameBlock (by decide)
  obtain ⟨_, backingVerified⟩ := backingAccepted (sampleLedger first second)
    (sampleAttestation first) rfl rfl ⟨rfl, rfl, rfl, rfl⟩ ⟨_, sampleSteps second, rfl, others⟩
    ⟨nofun, nofun⟩
  obtain ⟨_, verified⟩ := accepted (sampleLedger first second) (sampleAttestation second) rfl rfl
    ⟨rfl, rfl, rfl, rfl⟩ ⟨_, [], rfl, nofun⟩ {
      delegation := by
        rintro _ ⟨⟩
        exact ⟨⟨(sample .empty [] none).issuer, none, false⟩,
          (OrderedMap.get?_insert ..).trans (if_pos rfl), rfl⟩
      embedded := by
        intro c there
        obtain rfl : c = backing := by
          cases List.mem_singleton.mp there
          rfl
        exact ⟨backingProof, _, inside, backingVerified⟩ }
  exact ⟨_, backing, vc, proof, _, _, trustModel, verified⟩

end CredentialInput

end SelectiveDisclosure
