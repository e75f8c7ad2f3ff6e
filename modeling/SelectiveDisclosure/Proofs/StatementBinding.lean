import SelectiveDisclosure.Proofs.Presentation

/-!
Whoever shows a credential under an id that was issued can only show what was issued. The id
stands for one list of digests, commitments first and the inputs of the trust model behind them.
Nothing says where the first end, so a shown commitment may also be one of these inputs, but it is
never anything else.
-/

namespace SelectiveDisclosure

/-- The byte strings that are hashed when a proof is made for a credential, or is checked with it.
-/
inductive Hashed (c : VerifiableCredential) (p : AttestationProof) : List UInt8 → Prop where
  | statement {statements : List (Statement × Hash256)} {s : Statement} {digest : Hash256}
      (made : Commitment.normalizeClaims c.subject = .ok statements)
      (there : (s, digest) ∈ statements) : Hashed c p s.bytes
  | commitment {statements : List (Statement × Hash256)} {salts : List Entropy} {i : Nat}
      {s : Statement} {digest : Hash256} {salt : Entropy}
      (made : Commitment.normalizeClaims c.subject = .ok statements)
      (read : p.decodedSalts = .ok salts) (atStatement : statements[i]? = some (s, digest))
      (atSalt : salts[i]? = some salt) : Hashed c p (Commitment.commitmentPreimage salt digest)
  | root {commitments : List Hash256} (read : p.decodedCommitments = .ok commitments) :
      Hashed c p (Commitment.rootPreimage commitments c.trustInputs)

namespace VerifiableCredential

theorem leaves_of_same_id {c c' : VerifiableCredential} {p p' : AttestationProof} {o' : Opening}
    {commitments : List Hash256} {root root' : Hash256}
    (read : p.decodedCommitments = .ok commitments) (identity : c.id = some ⟨root⟩)
    (binding : root = Commitment.rootHashOf commitments c.trustInputs)
    (consistent : Consistent c' p' o' root') (sameId : c'.id = c.id)
    (free : CollisionFree fun bytes => Hashed c p bytes ∨ Hashed c' p' bytes) :
    o'.commitments ++ c'.trustInputs = commitments ++ c.trustInputs := by
  have sameRoot : root' = root := by
    have ids := (consistent.identity.symm.trans sameId).trans identity
    simpa using ids
  rw [consistent.binding, binding, Commitment.rootHashOf_eq] at sameRoot
  have read' := AttestationProof.decodedCommitments_ok_iff.mpr consistent.commitments
  exact Commitment.flatMap_toList_injective
    (free _ _ (.inr (.root read')) (.inl (.root read)) sameRoot)

/-- A commitment that was drawn for some statement is opened only with its salt and its text. -/
theorem statement_of_drawn_commitment {hashed : List UInt8 → Prop} (free : CollisionFree hashed)
    {statements : List (Statement × Hash256)} {random : Nat → UInt8} {s : Statement}
    {salt : Entropy}
    (drawn : Commitment.commitment salt s.digest ∈ (Opening.drawn statements random).commitments)
    (digests : ∀ t digest, (t, digest) ∈ statements → digest = t.digest)
    (texts : ∀ t digest, (t, digest) ∈ statements → hashed t.bytes)
    (preimages : ∀ (j : Nat) t digest salt, statements[j]? = some (t, digest) →
      (Opening.drawn statements random).salts[j]? = some salt →
      hashed (Commitment.commitmentPreimage salt digest))
    (text : hashed s.bytes) (preimage : hashed (Commitment.commitmentPreimage salt s.digest)) :
    ∃ (j : Nat) (issued : Statement), statements[j]? = some (issued, issued.digest)
      ∧ s.text = issued.text ∧ salt = Commitment.entropyAt random j := by
  obtain ⟨j, issued, digest, own, atStatement, atSalt, same⟩ :=
    (Opening.mem_commitments_drawn _ _ _).mp drawn
  have member := List.mem_of_getElem? atStatement
  obtain rfl := digests issued digest member
  rw [Commitment.commitment_eq, Commitment.commitment_eq] at same
  -- The commitments tell salt and digest apart, and only then the digest tells the text.
  obtain ⟨rfl, sameDigest⟩ := Commitment.commitmentPreimage_injective
    (free _ _ (preimages j _ _ _ atStatement atSalt) preimage same)
  exact ⟨j, issued, atStatement, text_of_digest free text (texts _ _ member) sameDigest.symm,
    Opening.salt_drawn atSalt⟩

/-- Under the id of an issued credential, every statement that is accepted was issued, with the
entropy that was drawn for it, unless its commitment is one of the inputs of the trust model. -/
theorem accepted_statement_was_issued (c vc : VerifiableCredential) (random : Nat → UInt8)
    (initialized proof : AttestationProof) (request : AttestationRequest) (inclusion : Inclusion)
    (begun : c.initializeProof random = .ok (initialized, request))
    (ended : c.finalizeProof initialized inclusion = .ok (vc, proof))
    (l : Ledger) (c' : VerifiableCredential) (p' : AttestationProof) (r : Report)
    (accepted : verify l c' p' = .ok r) (sameId : c'.id = vc.id)
    (free : CollisionFree fun bytes => Hashed vc proof bytes ∨ Hashed c' p' bytes) :
    ∃ issued shown salts, vc.normalizedClaims = .ok issued ∧ c'.normalizedClaims = .ok shown
      ∧ p'.decodedSalts = .ok salts ∧ shown.length = salts.length
      ∧ ∀ (i : Nat) s digest salt, shown[i]? = some (s, digest) → salts[i]? = some salt →
        (∃ (j : Nat) (t : Statement), issued[j]? = some (t, t.digest) ∧ s.text = t.text
          ∧ salt = Commitment.entropyAt random j)
        ∨ Commitment.commitment salt s.digest ∈ vc.trustInputs := by
  obtain ⟨issued, t, made, rfl, rfl⟩ := exists_of_issued begun ended
  obtain ⟨_, a, o, _, consistent, _, _, _⟩ := (verify_halves_iff ..).mp accepted
  have readSalts := AttestationProof.decodedSalts_ok_iff.mpr consistent.salts
  have issuedSalts := AttestationProof.decodedSalts_ok_iff.mpr
    (Opening.salts_toProof (Opening.drawn issued random) inclusion.block.toBase58)
  have issuedCommitments := AttestationProof.decodedCommitments_ok_iff.mpr
    (Opening.commitments_toProof (Opening.drawn issued random) inclusion.block.toBase58)
  refine ⟨issued, o.statements, o.salts, (normalizedClaims_ok_iff ..).mpr made,
    (normalizedClaims_ok_iff ..).mpr consistent.statements, readSalts,
    consistent.count.trans consistent.salts.length_eq, ?_⟩
  intro i s digest salt atStatement atSalt
  have there := List.mem_of_getElem? atStatement
  obtain rfl := Commitment.digest_of_normalized consistent.statements there
  have member := List.mem_append_left c'.trustInputs
    (consistent.opened i s _ salt atStatement atSalt)
  rw [leaves_of_same_id issuedCommitments rfl rfl consistent sameId free] at member
  rcases List.mem_append.mp member with drawn | input
  · exact Or.inl (statement_of_drawn_commitment free drawn
      (fun _ _ => Commitment.digest_of_normalized made)
      (fun _ _ there => .inl (.statement made there))
      (fun _ _ _ _ atStatement atSalt => .inl (.commitment made issuedSalts atStatement atSalt))
      (.inr (.statement consistent.statements there))
      (.inr (.commitment consistent.statements readSalts atStatement atSalt)))
  · exact Or.inr input

theorem hashed_of_shown {vc c : VerifiableCredential} {q p : AttestationProof} {whole : Opening}
    {root : Hash256} (consistent : Consistent vc q whole root) (shown : ShownOf vc q c p)
    {bytes : List UInt8} (hashed : Hashed c p bytes) : Hashed vc q bytes := by
  obtain ⟨o, own, within, model⟩ := within_of_shown consistent shown
  have readWhole := AttestationProof.decodedSalts_ok_iff.mpr consistent.salts
  cases hashed with
  | statement made there =>
    obtain rfl := Except.ok.inj (own.statements.symm.trans made)
    obtain ⟨i, atStatement⟩ := List.mem_iff_getElem?.mp there
    obtain ⟨short, _⟩ := List.getElem?_eq_some_iff.mp atStatement
    rw [own.count.trans own.salts.length_eq] at short
    have pair := within.pairs _
      (mem_zip_iff.mpr ⟨i, atStatement, List.getElem?_eq_some_iff.mpr ⟨short, rfl⟩⟩)
    exact .statement consistent.statements (List.of_mem_zip pair).1
  | commitment made read atStatement atSalt =>
    obtain rfl := Except.ok.inj (own.statements.symm.trans made)
    obtain rfl :=
      Except.ok.inj ((AttestationProof.decodedSalts_ok_iff.mpr own.salts).symm.trans read)
    obtain ⟨j, atOwn, atOwnSalt⟩ :=
      mem_zip_iff.mp (within.pairs _ (mem_zip_iff.mpr ⟨_, atStatement, atSalt⟩))
    exact .commitment consistent.statements readWhole atOwn atOwnSalt
  | root read =>
    obtain rfl := Except.ok.inj
      ((AttestationProof.decodedCommitments_ok_iff.mpr own.commitments).symm.trans read)
    rw [trustInputs, model, within.commitments]
    exact .root (AttestationProof.decodedCommitments_ok_iff.mpr consistent.commitments)

theorem hashed_of_drawn {vc : VerifiableCredential} {statements : List (Statement × Hash256)}
    {random : Nat → UInt8} {block : String} {bytes : List UInt8}
    (made : Commitment.normalizeClaims vc.subject = .ok statements)
    (hashed : Hashed vc ((Opening.drawn statements random).toProof block) bytes) :
    (∃ e ∈ statements, bytes = e.1.bytes)
      ∨ (∃ e ∈ statements.zipIdx, bytes
        = Commitment.commitmentPreimage (Commitment.entropyAt random e.2) e.1.2)
      ∨ bytes = Commitment.rootPreimage (Opening.drawn statements random).commitments
        vc.trustInputs := by
  cases hashed with
  | statement made' there =>
    obtain rfl := Except.ok.inj (made.symm.trans made')
    exact .inl ⟨_, there, rfl⟩
  | commitment made' read atStatement atSalt =>
    obtain rfl := Except.ok.inj (made.symm.trans made')
    rw [AttestationProof.decodedSalts_ok_iff.mpr (Opening.salts_toProof _ _)] at read
    obtain rfl := Except.ok.inj read
    rw [Opening.salt_drawn atSalt]
    exact .inr (.inl ⟨(_, _), List.mk_mem_zipIdx_iff_getElem?.mpr atStatement, rfl⟩)
  | root read =>
    rw [AttestationProof.decodedCommitments_ok_iff.mpr (Opening.commitments_toProof _ _)] at read
    obtain rfl := Except.ok.inj read
    exact .inr (.inr rfl)

section Sample

open CredentialInput

def portrait : CredentialInput :=
  sample (OrderedMap.ofList [("age", .int 33), ("name", .str "Edna")]) [] none

def portraitProperty (key : String) (value : Json) : Statement :=
  ⟨(CTypeId.mk portrait.ctypeHash).vocabulary ++ key, value⟩

def portraitStatements : List Statement := [
  ⟨"@id", .str "did:kilt:holder"⟩,
  portraitProperty "age" (.int 33),
  portraitProperty "name" (.str "Edna")]

def portraitRandom (i : Nat) : UInt8 := UInt8.ofNat (8 + i)

def portraitCommitments : List Hash256 := portraitStatements.zipIdx.map fun e =>
  Commitment.commitment (Commitment.entropyAt portraitRandom e.2) e.1.digest

theorem leading_portrait : (portraitStatements.map (·.digest) ++ portraitCommitments
    ++ [Commitment.rootHashOf portraitCommitments []]).map leadingByte
      = [218, 222, 248, 81, 89, 155, 154] := by
  decide +kernel

theorem portrait_unreserved : portrait.Unreserved := by
  show ∀ key ∈ ["age", "name"], key ∉ reservedKeys
  decide

theorem expanded_portrait : ∃ expanded,
    Expanded.ofSubject portrait.credentialSubject = .ok expanded
      ∧ expanded.statements = portraitStatements :=
  ⟨_, (Expanded.ofSubject_ok_iff _ _).mpr ⟨_, vocabulary?_credentialSubject _,
    names_distinct portrait_unreserved, rfl⟩, rfl⟩

theorem leading_portrait_digests :
    (portraitStatements.map (·.digest)).map leadingByte = [218, 222, 248] := by
  have leading := congrArg (List.take 3) leading_portrait
  rwa [← List.map_take] at leading

theorem portrait_statements : Commitment.normalizeClaims portrait.credentialSubject
    = .ok (portraitStatements.map fun s => (s, s.digest)) := by
  obtain ⟨expanded, made, named⟩ := expanded_portrait
  rw [← named]
  apply Commitment.normalizeClaims_of_ascending made
  rw [named]
  exact pairwise_of_leading leading_portrait_digests (by decide)

def portraitOpening : Opening :=
  Opening.drawn (portraitStatements.map fun s => (s, s.digest)) portraitRandom

theorem portrait_commitments : portraitOpening.commitments = portraitCommitments := by
  have leading := congrArg (fun l => (l.drop 3).take 3) leading_portrait
  simp only [← List.map_take, ← List.map_drop] at leading
  have drawn : portraitCommitments.map leadingByte = [81, 89, 155] := leading
  exact FixedBytes.sort_of_pairwise (pairwise_of_leading drawn (by decide))

def portraitHashed : List (List UInt8) :=
  portraitStatements.map (·.bytes)
    ++ portraitStatements.zipIdx.map (fun e =>
      Commitment.commitmentPreimage (Commitment.entropyAt portraitRandom e.2) e.1.digest)
    ++ [Commitment.rootPreimage portraitCommitments []]

theorem nodup_portraitHashed : (portraitHashed.map blake2b).Nodup := by
  have digests : portraitHashed.map blake2b = portraitStatements.map (·.digest)
      ++ portraitCommitments ++ [Commitment.rootHashOf portraitCommitments []] := by
    simp only [portraitHashed, portraitCommitments, List.map_append, List.map_map,
      Commitment.commitment_eq, Commitment.rootHashOf_eq]
    rfl
  rw [digests]
  exact nodup_of_leading leading_portrait (by decide)

theorem mem_portraitHashed {vc : VerifiableCredential} {block : String} {bytes : List UInt8}
    (subject : vc.subject = portrait.credentialSubject) (untrusted : vc.trustModel = [])
    (hashed : Hashed vc (portraitOpening.toProof block) bytes) : bytes ∈ portraitHashed := by
  rw [portraitHashed, List.mem_append, List.mem_append, or_assoc]
  rcases hashed_of_drawn (subject ▸ portrait_statements) hashed with
    ⟨e, there, rfl⟩ | ⟨⟨e, i⟩, there, rfl⟩ | rfl
  · left
    obtain ⟨s, said, rfl⟩ := List.mem_map.mp there
    exact List.mem_map_of_mem said
  · right
    left
    rw [List.mk_mem_zipIdx_iff_getElem?, List.getElem?_map, Option.map_eq_some_iff] at there
    obtain ⟨s, atStatement, rfl⟩ := there
    exact List.mem_map.mpr ⟨(s, i), List.mk_mem_zipIdx_iff_getElem?.mpr atStatement, rfl⟩
  · right
    right
    rw [trustInputs, untrusted, ← portrait_commitments]
    exact List.mem_singleton_self _

def portraitProof (block : UInt8) : AttestationProof :=
  portraitOpening.toProof (sampleInclusion block).block.toBase58

def issuedPortrait : VerifiableCredential :=
  (portrait.credential []).finalized (Commitment.rootHashOf portraitOpening.commitments [])
    (portraitProof 4) (sampleInclusion 4).genesis sampleDate

theorem portrait_built : portrait.toCredential = .ok (portrait.credential []) :=
  (toCredential_ok_iff portrait _).mpr ⟨portrait_unreserved, [], .nil, rfl⟩

theorem portrait_begun : (portrait.credential []).initializeProof portraitRandom
    = .ok (portraitOpening.toProof "", ⟨Commitment.rootHashOf portraitOpening.commitments [],
      portrait.ctypeHash, none⟩) :=
  (initializeProof_ok_iff (portrait.credential []) portraitRandom _ _).mpr
    ⟨none, _, rfl, portrait_statements, rfl, rfl⟩

theorem portrait_ended : (portrait.credential []).finalizeProof (portraitOpening.toProof "")
    (sampleInclusion 4) = .ok (issuedPortrait, portraitProof 4) :=
  finalizeProof_toProof (portrait.credential []) portraitOpening (sample_dated 4)

/-- The holder first discloses all there is, and then everything but the name. -/
theorem exists_shown_portrait {l : Ledger} {r : Report}
    (verified : verify l issuedPortrait (portraitProof 4) = .ok r) :
    ∃ c p, ShownOf issuedPortrait (portraitProof 4) c p ∧ verify l c p = .ok r
      ∧ c.id = issuedPortrait.id ∧ c.subject.keys = ["@context", "age", "id"]
      ∧ p.block = (portraitProof 4).block := by
  have present : ∀ key ∈ ["age", "name"], issuedPortrait.subject.contains key := by
    show ∀ key ∈ ["age", "name"], portrait.credentialSubject.contains key
    decide
  obtain ⟨c, p, first, again⟩ := verify_disclosed l _ _ r verified ["age", "name"] present
  obtain ⟨_, _, _, _, _, _, firstProof, whole⟩ := (disclose_ok_iff ..).mp first
  have left : ∀ key ∈ ["age"], c.subject.contains key := by
    rw [whole]
    show ∀ key ∈ ["age"],
      (reducedSubject portrait.credentialSubject ["age", "name"]).contains key
    decide
  obtain ⟨d, q, second, shown⟩ := verify_disclosed l c p r again ["age"] left
  obtain ⟨_, _, _, _, _, _, secondProof, reduced⟩ := (disclose_ok_iff ..).mp second
  refine ⟨d, q, .disclosed (.disclosed .issued first) second, shown, ?_, ?_, ?_⟩
  · rw [reduced, whole]
    rfl
  · rw [reduced, whole]
    rfl
  · rw [secondProof, firstProof]
    rfl

theorem portrait_shown_without_name : ∃ l c r issued shown salts, ∃ p : AttestationProof,
    verify l c p = .ok r ∧ c.subject.keys = ["@context", "age", "id"]
      ∧ issuedPortrait.normalizedClaims = .ok issued ∧ c.normalizedClaims = .ok shown
      ∧ p.decodedSalts = .ok salts ∧ shown.length = salts.length
      ∧ ∀ (i : Nat) s digest salt, shown[i]? = some (s, digest) → salts[i]? = some salt →
        (∃ (j : Nat) (t : Statement), issued[j]? = some (t, t.digest) ∧ s.text = t.text
          ∧ salt = Commitment.entropyAt portraitRandom j)
        ∨ Commitment.commitment salt s.digest ∈ issuedPortrait.trustInputs := by
  obtain ⟨l, r, verified⟩ := verify_unbacked rfl rfl portrait_statements portraitRandom
    (sample_dated 4) rfl
  have binding : Commitment.rootHashOf portraitOpening.commitments
      (portrait.credential []).trustInputs = _ := rfl
  have consistent := consistent_finalized portrait_statements portraitRandom
    (sampleInclusion 4).block (sampleInclusion 4).genesis sampleDate binding
  obtain ⟨c, p, shownOf, shown, sameId, keys, _⟩ := exists_shown_portrait verified
  have free : CollisionFree fun bytes => Hashed issuedPortrait (portraitProof 4) bytes
      ∨ Hashed c p bytes := by
    refine collisionFree_of_nodup ?_ nodup_portraitHashed
    rintro bytes (own | other)
    · exact mem_portraitHashed rfl rfl own
    · exact mem_portraitHashed rfl rfl (hashed_of_shown consistent shownOf other)
  obtain ⟨issued, statements, salts, conclusion⟩ := accepted_statement_was_issued _ _ _ _ _ _ _
    portrait_begun portrait_ended l c p r shown sameId free
  exact ⟨l, c, r, issued, statements, salts, p, shown, keys, conclusion⟩

end Sample

end VerifiableCredential

end SelectiveDisclosure
