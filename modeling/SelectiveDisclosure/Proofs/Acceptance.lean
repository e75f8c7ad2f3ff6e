import SelectiveDisclosure.Proofs.Consistency

/-!
What a verification establishes. A credential is accepted when it agrees with its proof, when a
ledger has an attestation that agrees with it, and when every entry of its trust model is
resolved, which for an embedded credential means that it is accepted in turn. These rules have no
order and no errors.
-/

namespace SelectiveDisclosure

/-- The owners that are met on the way from a node up to the top of its hierarchy. -/
inductive Ancestry (l : Ledger) : Option Hash256 → List Did → Prop where
  | top : Ancestry l none []
  | up {id : Hash256} {node : DelegationNode} {owners : List Did}
      (found : l.delegations.get? id = some node) (above : Ancestry l node.parent owners) :
      Ancestry l (some id) (node.owner :: owners)

structure AttestedBy (l : Ledger) (c : VerifiableCredential) (p : AttestationProof)
    (a : VerifiableCredential.Attested) : Prop where
  status : ∃ statusType, c.status = some ⟨⟨ChainId.ofGenesis l.genesis, a.rootHash⟩, statusType⟩
  block : Base58.decodeText p.block = .ok a.block.toList
  recorded : ∃ inBlock, l.events.get? a.block = some inBlock
    ∧ inBlock.get? a.rootHash = some a.event
  issuer : a.event.attester = c.issuer
  ctype : CTypeId.mk a.event.ctypeHash = c.schema.id
  instant : a.timestamp.millis = a.event.timestamp.toNat
  representable : (a.event.timestamp.toNat : Int) ≤ Timestamp.latest
  date : ∃ issued, c.issuanceDate = some issued
    ∧ issued.roundedSeconds = a.timestamp.roundedSeconds
  authorization : c.trustModel.filterMap (·.delegationId?)
    = a.event.authorizationId.toList.map DelegationId.mk

mutual

/-- A credential is accepted with a proof, and a report says what was established. -/
inductive Accepts (l : Ledger) : VerifiableCredential → AttestationProof → Report → Prop where
  | verified {c : VerifiableCredential} {p : AttestationProof} {o : Opening}
      {a : VerifiableCredential.Attested} {trust : List TrustOutcome}
      (consistent : Consistent c p o a.rootHash) (attested : AttestedBy l c p a)
      (resolved : ResolvesAll l a.event c.trustModel trust) :
      Accepts l c p ⟨a.rootHash, c.issuer, c.schema.id, a.block, a.timestamp, trust⟩

inductive ResolvesAll (l : Ledger) : AttestationEvent → List (TrustEntry VerifiableCredential) →
    List TrustOutcome → Prop where
  | nil {event : AttestationEvent} : ResolvesAll l event [] []
  | cons {event : AttestationEvent} {e : TrustEntry VerifiableCredential}
      {rest : List (TrustEntry VerifiableCredential)} {outcome : TrustOutcome}
      {outcomes : List TrustOutcome} (first : Resolves l event e outcome)
      (others : ResolvesAll l event rest outcomes) :
      ResolvesAll l event (e :: rest) (outcome :: outcomes)

inductive Resolves (l : Ledger) : AttestationEvent → TrustEntry VerifiableCredential →
    TrustOutcome → Prop where
  | assumed {event : AttestationEvent} {id : CredentialId} :
      Resolves l event (.legitimation id none) (.legitimationAssumed id)
  | embedded {event : AttestationEvent} {id : CredentialId} {c : VerifiableCredential}
      {p : AttestationProof} {r : Report} (identity : c.id = some id) (inside : c.proof = some p)
      (accepted : Accepts l c p r) :
      Resolves l event (.legitimation id (some c)) (.legitimationVerified id r.attester)
  | delegated {event : AttestationEvent} {id : DelegationId} {delegators : Option (List Did)}
      {node : DelegationNode} (found : l.delegations.get? id.nodeId = some node)
      (active : node.revoked = false) (authorized : event.authorizationId = some id.nodeId)
      (ancestors : ∀ expected, delegators = some expected → expected.length ≤ 64
        ∧ Ancestry l node.parent expected.reverse) :
      Resolves l event (.delegation id delegators) (.delegationVerified id node.owner)

end

namespace Ledger

theorem ask_answer_ok_iff {α : Type} (l : Ledger) {found value : Option α} :
    ask (l.answer found) = .ok value ↔ l.unavailable = none ∧ found = value := by
  rw [ask, Outcome.mapError_ok_iff, answer]
  cases l.unavailable <;> simp

theorem fetchNode_ok_iff {l : Ledger} (available : l.unavailable = none) (id : Hash256)
    (node : DelegationNode) : l.fetchNode id = .ok node ↔ l.delegations.get? id = some node := by
  rw [fetchNode, Outcome.bind_ok_iff]
  simp only [delegationNode, ask_answer_ok_iff, available, true_and, exists_eq_left']
  cases l.delegations.get? id with
  | none => simp [Outcome.throw_not_ok]
  | some found => simp [Outcome.pure_ok_iff]

theorem ancestry_top_iff (l : Ledger) (owners : List Did) :
    Ancestry l none owners ↔ owners = [] := by
  constructor
  · rintro ⟨⟩
    rfl
  · rintro rfl
    exact .top

theorem ownersUpward_ok_iff {l : Ledger} (available : l.unavailable = none) (remaining : Nat)
    (start : Option Hash256) (owners : List Did) : l.ownersUpward remaining start = .ok owners
      ↔ Ancestry l start owners ∧ owners.length ≤ remaining := by
  induction remaining generalizing start owners with
  | zero =>
    cases start with
    | none =>
      rw [ownersUpward, ancestry_top_iff]
      cases owners <;> simp
    | some id =>
      rw [ownersUpward]
      constructor
      · intro h
        contradiction
      · rintro ⟨⟨⟩, short⟩
        exact absurd short (Nat.not_succ_le_zero _)
  | succ remaining ih =>
    cases start with
    | none =>
      rw [ownersUpward, ancestry_top_iff]
      cases owners <;> simp
    | some id =>
      rw [ownersUpward]
      simp only [Outcome.bind_ok_iff, Outcome.pure_ok_iff, fetchNode_ok_iff available, ih]
      constructor
      · rintro ⟨node, found, above, ⟨ancestry, short⟩, rfl⟩
        exact ⟨.up found ancestry, Nat.succ_le_succ short⟩
      · rintro ⟨ancestry, short⟩
        cases ancestry with
        | up found above => exact ⟨_, found, _, ⟨above, Nat.le_of_succ_le_succ short⟩, rfl⟩

theorem ancestorOwners_ok_iff {l : Ledger} (available : l.unavailable = none)
    (node : DelegationNode) (owners : List Did) : l.ancestorOwners node = .ok owners
      ↔ Ancestry l node.parent owners.reverse ∧ owners.length ≤ 64 := by
  rw [ancestorOwners, Outcome.bind_ok_iff]
  simp only [ownersUpward_ok_iff available, Outcome.pure_ok_iff, hierarchyLimit]
  constructor
  · rintro ⟨upward, ⟨ancestry, short⟩, rfl⟩
    rw [List.reverse_reverse, List.length_reverse]
    exact ⟨ancestry, short⟩
  · rintro ⟨ancestry, short⟩
    rw [← List.length_reverse] at short
    exact ⟨_, ⟨ancestry, short⟩, List.reverse_reverse owners⟩

end Ledger

theorem Timestamp.ofMillis?_eq_some_iff (millis : Nat) (t : Timestamp) :
    Timestamp.ofMillis? millis = some t
      ↔ t.millis = millis ∧ (millis : Int) ≤ Timestamp.latest := by
  have early : Timestamp.earliest ≤ 0 := by decide
  rw [Timestamp.ofMillis?]
  by_cases range : Timestamp.earliest ≤ (millis : Int) ∧ (millis : Int) ≤ Timestamp.latest
  · rw [dif_pos range]
    simp only [Option.some.injEq, range.2, and_true]
    constructor
    · rintro rfl
      rfl
    · intro same
      exact Timestamp.ext same.symm
  · rw [dif_neg range]
    simp only [reduceCtorEq, false_iff, not_and]
    omega

theorem Timestamp.ofBlock_ok_iff (millis : UInt64) (fault : ShapeFault) (t : Timestamp) :
    Timestamp.ofBlock millis fault = .ok t ↔ Timestamp.ofMillis? millis.toNat = some t := by
  rw [Timestamp.ofBlock]
  by_cases fits : millis.toNat < Nat.pow 2 63
  · rw [if_pos fits]
    cases Timestamp.ofMillis? millis.toNat <;> simp
  · have bound : Timestamp.latest < Nat.pow 2 63 := by decide
    rw [if_neg fits, Timestamp.ofMillis?_eq_some_iff]
    simp only [reduceCtorEq, false_iff, not_and]
    omega

namespace TrustEntry

theorem resolveDelegation_ok_iff {l : Ledger} (available : l.unavailable = none)
    (event : AttestationEvent) (id : DelegationId) (delegators : Option (List Did))
    (outcome : TrustOutcome) : resolveDelegation l event id delegators = .ok outcome
      ↔ Resolves l event (.delegation id delegators) outcome := by
  have opened : resolveDelegation l event id delegators = .ok outcome ↔ ∃ node,
      l.delegations.get? id.nodeId = some node ∧ node.revoked = false
      ∧ event.authorizationId = some id.nodeId
      ∧ (∀ expected, delegators = some expected → expected.length ≤ 64
        ∧ Ancestry l node.parent expected.reverse)
      ∧ .delegationVerified id node.owner = outcome := by
    rw [resolveDelegation, Outcome.bind_ok_iff]
    simp only [Outcome.refuse_ok_iff, Ledger.fetchNode_ok_iff available, not_not,
      Bool.not_eq_true]
    apply exists_congr
    intro node
    apply and_congr_right
    intro _
    apply and_congr_right
    intro _
    apply and_congr_right
    intro _
    cases delegators with
    | none => simp [Outcome.pure_ok_iff]
    | some expected =>
      simp only [Outcome.bind_ok_iff, Outcome.refuse_ok_iff, Outcome.pure_ok_iff, not_not,
        Ledger.ancestorOwners_ok_iff available, Option.some.injEq, forall_eq']
      constructor
      · rintro ⟨_, ⟨ancestry, short⟩, rfl, made⟩
        exact ⟨⟨short, ancestry⟩, made⟩
      · rintro ⟨⟨short, ancestry⟩, made⟩
        exact ⟨expected, ⟨ancestry, short⟩, rfl, made⟩
  rw [opened]
  constructor
  · rintro ⟨node, found, active, authorized, ancestors, rfl⟩
    exact .delegated found active authorized ancestors
  · intro resolved
    cases resolved with
    | delegated found active authorized ancestors =>
      exact ⟨_, found, active, authorized, ancestors, rfl⟩

theorem embeddedProof_ok_iff (id : CredentialId) (c : VerifiableCredential) (p : AttestationProof) :
    embeddedProof id c = .ok p ↔ c.id = some id ∧ c.proof = some p := by
  rw [embeddedProof]
  simp only [Outcome.refuse_ok_iff, not_not]
  cases c.proof with
  | none => simp [Outcome.throw_not_ok]
  | some inside => simp [Outcome.pure_ok_iff]

end TrustEntry

namespace VerifiableCredential

theorem checkChain_ok_iff (c : VerifiableCredential) (l : Ledger) {root : Hash256}
    (identity : c.id = some ⟨root⟩) : c.checkChain l = .ok ()
      ↔ ∃ statusType, c.status = some ⟨⟨ChainId.ofGenesis l.genesis, root⟩, statusType⟩ := by
  rw [checkChain]
  cases c.status with
  | none => simp [Outcome.throw_not_ok]
  | some status =>
    obtain ⟨⟨chain, named⟩, statusType⟩ := status
    have same : (if named ≠ root then
        throw (.mismatch .statusId root.toHex named.toHex) else pure () : Verified Unit) = .ok ()
          ↔ named = root := by
      by_cases h : named = root <;> simp [h, Outcome.pure_ok_iff, Outcome.throw_not_ok]
    simp only [Outcome.refuse_ok_iff, Outcome.bind_ok_iff, rootHash_ok_iff, identity, not_not,
      Option.some.injEq, CredentialId.mk.injEq, StatusReference.mk.injEq,
      AttestationStatusId.mk.injEq, exists_eq_left', same, exists_and_left, exists_eq', and_true]

theorem delegation_ok_iff (c : VerifiableCredential) (id : Option DelegationId) :
    c.delegation = .ok id ↔ c.trustModel.filterMap (·.delegationId?) = id.toList := by
  unfold delegation
  generalize c.trustModel.filterMap (·.delegationId?) = delegations
  match delegations with
  | [] => cases id <;> simp
  | [only] => cases id <;> simp
  | first :: second :: rest => cases id <;> simp

theorem findAttestation_ok_iff (c : VerifiableCredential) (p : AttestationProof) (l : Ledger)
    (a : Attested) : c.findAttestation p l = .ok a
      ↔ l.unavailable = none ∧ (∃ o, Consistent c p o a.rootHash) ∧ AttestedBy l c p a := by
  rw [findAttestation]
  simp only [Outcome.bind_ok_iff, verifyOffline_ok_iff, AttestationProof.blockHash,
    Verified.ofEncoding_ok_iff, AttestationProof.ofBase58_ok_iff, Ledger.eventAt,
    Ledger.ask_answer_ok_iff]
  constructor
  · rintro ⟨root, ⟨o, consistent⟩, block, blockText, _, chain, found, ⟨available, recorded⟩, rest⟩
    cases found with
    | none => exact absurd rest Outcome.throw_not_ok
    | some event =>
      simp only [Outcome.bind_ok_iff, Outcome.refuse_ok_iff, not_not, Timestamp.ofBlock_ok_iff,
        Timestamp.ofMillis?_eq_some_iff] at rest
      obtain ⟨issuer, ctype, timestamp, ⟨instant, representable⟩, rest⟩ := rest
      cases date : c.issuanceDate with
      | none =>
        rw [date] at rest
        exact absurd rest Outcome.throw_not_ok
      | some issued =>
        simp only [date, Outcome.bind_ok_iff, Outcome.refuse_ok_iff, not_not, delegation_ok_iff,
          Outcome.pure_ok_iff] at rest
        obtain ⟨rounded, delegation, authorization, authorized, rfl⟩ := rest
        exact ⟨available, ⟨o, consistent⟩, {
          status := (c.checkChain_ok_iff l consistent.identity).mp chain
          block := blockText
          recorded := Option.bind_eq_some_iff.mp recorded
          issuer
          ctype := congrArg CTypeId.mk ctype
          instant
          representable
          date := ⟨issued, date, rounded⟩
          authorization := by
            rw [authorization, authorized]
            cases delegation <;> rfl }⟩
  · rintro ⟨available, ⟨o, consistent⟩, attested⟩
    refine ⟨a.rootHash, ⟨o, consistent⟩, a.block, attested.block, (),
      (c.checkChain_ok_iff l consistent.identity).mpr attested.status, some a.event,
      ⟨available, Option.bind_eq_some_iff.mpr attested.recorded⟩, ?_⟩
    obtain ⟨issued, date, rounded⟩ := attested.date
    have delegation : c.delegation = .ok (a.event.authorizationId.map DelegationId.mk) := by
      rw [delegation_ok_iff, attested.authorization]
      cases a.event.authorizationId <;> rfl
    simp only [Outcome.bind_ok_iff, Outcome.refuse_ok_iff, not_not, Timestamp.ofBlock_ok_iff,
      Timestamp.ofMillis?_eq_some_iff, date, Outcome.pure_ok_iff]
    refine ⟨attested.issuer, congrArg CTypeId.hash attested.ctype, a.timestamp,
      ⟨attested.instant, attested.representable⟩, rounded, _, delegation, ?_, rfl⟩
    cases a.event.authorizationId <;> rfl

theorem verify_halves_iff (l : Ledger) (c : VerifiableCredential) (p : AttestationProof)
    (r : Report) : verify l c p = .ok r ↔ l.unavailable = none ∧ ∃ a o trust,
      Consistent c p o a.rootHash ∧ AttestedBy l c p a
      ∧ resolveAll l a.event c.trustModel = .ok trust
      ∧ r = ⟨a.rootHash, c.issuer, c.schema.id, a.block, a.timestamp, trust⟩ := by
  obtain ⟨⟩ := c
  rw [verify]
  simp only [Outcome.bind_ok_iff, Outcome.pure_ok_iff, findAttestation_ok_iff]
  constructor
  · rintro ⟨a, ⟨available, ⟨o, consistent⟩, attested⟩, trust, resolved, rfl⟩
    refine ⟨available, a, o, trust, consistent, attested, resolved, ?_⟩
    rw [attested.issuer, attested.ctype]
  · rintro ⟨available, a, o, trust, consistent, attested, resolved, rfl⟩
    refine ⟨a, ⟨available, ⟨o, consistent⟩, attested⟩, trust, resolved, ?_⟩
    rw [attested.issuer, attested.ctype]

mutual

theorem verify_accepts_iff {l : Ledger} (available : l.unavailable = none) :
    ∀ (c : VerifiableCredential) (p : AttestationProof) (r : Report),
      verify l c p = .ok r ↔ Accepts l c p r
  | ⟨contexts, types, id, subject, schema, status, issuer, issuanceDate, nonTransferable,
      trustModel, embedded⟩, p, r => by
    rw [verify_halves_iff]
    constructor
    · rintro ⟨_, a, o, trust, consistent, attested, resolved, rfl⟩
      exact .verified consistent attested
        ((resolveAll_resolves_iff available a.event trustModel trust).mp resolved)
    · intro accepted
      cases accepted with
      | verified consistent attested resolved =>
        exact ⟨available, _, _, _, consistent, attested,
          (resolveAll_resolves_iff available _ trustModel _).mpr resolved, rfl⟩

theorem resolveAll_resolves_iff {l : Ledger} (available : l.unavailable = none)
    (event : AttestationEvent) : ∀ (es : List (TrustEntry VerifiableCredential))
      (outcomes : List TrustOutcome),
      resolveAll l event es = .ok outcomes ↔ ResolvesAll l event es outcomes
  | [], outcomes => by
    rw [resolveAll]
    constructor
    · intro h
      obtain rfl := Except.ok.inj h
      exact .nil
    · rintro ⟨⟩
      rfl
  | e :: rest, outcomes => by
    rw [resolveAll]
    simp only [Outcome.bind_ok_iff, Outcome.pure_ok_iff]
    constructor
    · rintro ⟨outcome, resolved, others, resolvedOthers, rfl⟩
      exact .cons ((resolveEntry_resolves_iff available event e outcome).mp resolved)
        ((resolveAll_resolves_iff available event rest others).mp resolvedOthers)
    · intro resolved
      cases resolved with
      | cons first others =>
        exact ⟨_, (resolveEntry_resolves_iff available event e _).mpr first, _,
          (resolveAll_resolves_iff available event rest _).mpr others, rfl⟩

theorem resolveEntry_resolves_iff {l : Ledger} (available : l.unavailable = none)
    (event : AttestationEvent) : ∀ (e : TrustEntry VerifiableCredential) (outcome : TrustOutcome),
      resolveEntry l event e = .ok outcome ↔ Resolves l event e outcome
  | .legitimation id (some c), outcome => by
    rw [resolveEntry]
    simp only [Outcome.bind_ok_iff, Outcome.pure_ok_iff, TrustEntry.embeddedProof_ok_iff]
    constructor
    · rintro ⟨p, ⟨identity, inside⟩, r, verified, rfl⟩
      exact .embedded identity inside ((verify_accepts_iff available c p r).mp verified)
    · intro resolved
      cases resolved with
      | embedded identity inside accepted =>
        exact ⟨_, ⟨identity, inside⟩, _, (verify_accepts_iff available c _ _).mpr accepted, rfl⟩
  | .legitimation id none, outcome => by
    rw [resolveEntry]
    constructor
    · intro h
      obtain rfl := Except.ok.inj h
      exact .assumed
    · rintro ⟨⟩
      rfl
  | .delegation id delegators, outcome => by
    rw [resolveEntry]
    exact TrustEntry.resolveDelegation_ok_iff available event id delegators outcome

end

/-- Verification accepts exactly what the rules accept, with the report that they give. A ledger
that answers no query accepts nothing. -/
theorem verify_ok_iff (l : Ledger) (c : VerifiableCredential) (p : AttestationProof) (r : Report) :
    verify l c p = .ok r ↔ l.unavailable = none ∧ Accepts l c p r := by
  constructor
  · intro verified
    obtain ⟨available, _⟩ := (verify_halves_iff l c p r).mp verified
    exact ⟨available, (verify_accepts_iff available c p r).mp verified⟩
  · rintro ⟨available, accepted⟩
    exact (verify_accepts_iff available c p r).mpr accepted

end VerifiableCredential

end SelectiveDisclosure
