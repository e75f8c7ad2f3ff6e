import SelectiveDisclosure.Proofs.Preimages
import SelectiveDisclosure.Proofs.PropertyRemoval
import SelectiveDisclosure.Proofs.StatementText

/-!
Whoever shows a salted credential under a root hash that was built can only show what was salted
then. The root hash stands for one list of digests: claim hashes, root hashes of legitimations and
the delegation node. Nothing says where the claim hashes end, so a statement may also be opened by
one of the others, but by nothing else.
-/

namespace SelectiveDisclosure

theorem saltedHash_eq (nonce : String) (s : Statement) :
    saltedHash nonce s = blake2b (utf8 nonce ++ s.bytes) := by
  simp [saltedHash, blake2bConcat]

/-- What is hashed tells the nonce from the statement behind it: no text of a statement ends in
another one. -/
theorem salted_preimage_unambiguous (nonce nonce' : String) (s t : Statement) :
    saltedHash nonce s = blake2b (utf8 nonce ++ s.bytes)
      ∧ (utf8 nonce ++ s.bytes = utf8 nonce' ++ t.bytes ↔ nonce = nonce' ∧ s.text = t.text)
      ∧ (s.text.toList <:+ t.text.toList ↔ s.text = t.text) := by
  refine ⟨saltedHash_eq nonce s, ⟨Statement.nonce_split, ?_⟩, ?_, ?_⟩
  · intro same
    obtain ⟨rfl, texts⟩ := same
    rw [Statement.bytes, Statement.bytes, texts]
  · intro ending
    obtain ⟨front, split⟩ := ending
    obtain rfl := Statement.text_suffix_free split.symm
    exact String.toList_inj.mp split
  · intro same
    exact same ▸ List.suffix_rfl

namespace SaltedCredential

def leaves (c : SaltedCredential) : List Hash256 :=
  c.claimHashes ++ c.legitimations.map (·.rootHash) ++ c.delegationId.toList

def rootPreimage (c : SaltedCredential) : List UInt8 := c.leaves.flatMap (·.toList)

theorem rootHashOf_eq (c : SaltedCredential) :
    rootHashOf c.claimHashes (c.legitimations.map (·.rootHash)) c.delegationId
      = blake2b c.rootPreimage := by
  rw [rootHashOf, blake2bConcat, rootPreimage, leaves, List.flatMap_def]

/-- The byte strings that are hashed when a credential is built with nonces from a source. -/
inductive BuildHashes (source : NonceSource) (c : SaltedCredential) : List UInt8 → Prop where
  | statement {i : Nat} {s : Statement} {nonce : String} (there : c.claim.statements[i]? = some s)
      (given : source.nonceFor i s s.digest = .ok nonce) :
      BuildHashes source c (utf8 nonce ++ s.bytes)
  | root : BuildHashes source c c.rootPreimage

/-- The byte strings that are hashed when the integrity of a credential is checked. -/
inductive CheckHashes (c : SaltedCredential) : List UInt8 → Prop where
  | statement {s : Statement} {nonce : String} (there : s ∈ c.claim.statements)
      (known : c.nonces.get? s.digest = some nonce) : CheckHashes c (utf8 nonce ++ s.bytes)
  | root : CheckHashes c c.rootPreimage

theorem root_of_built {claim : Claim} {legitimations : List SaltedCredential}
    {delegationId : Option Hash256} {source : NonceSource} {c : SaltedCredential}
    (built : build claim legitimations delegationId source = .ok c) :
    c.rootHash = blake2b c.rootPreimage := by
  rw [← rootHashOf_eq]
  obtain ⟨_, _, rfl⟩ := (build_ok_iff ..).mp built
  rfl

theorem exists_statement_of_claimHash {claim : Claim} {legitimations : List SaltedCredential}
    {delegationId : Option Hash256} {source : NonceSource} {c : SaltedCredential}
    (built : build claim legitimations delegationId source = .ok c) {h : Hash256}
    (published : h ∈ c.claimHashes) : ∃ (i : Nat) (s : Statement) (nonce : String),
      c.claim.statements[i]? = some s ∧ source.nonceFor i s s.digest = .ok nonce
      ∧ saltedHash nonce s = h := by
  obtain ⟨_, made, rfl⟩ := (build_ok_iff ..).mp built
  exact (HashedStatements.mem_hashes_iff made h).mp published

theorem leaves_of_same_rootHash {hashed : List UInt8 → Prop} (free : CollisionFree hashed)
    {c c' : SaltedCredential} (root : c.rootHash = blake2b c.rootPreimage)
    (root' : c'.rootHash = blake2b c'.rootPreimage) (same : c'.rootHash = c.rootHash)
    (there : hashed c.rootPreimage) (there' : hashed c'.rootPreimage) : c'.leaves = c.leaves := by
  rw [root, root'] at same
  exact Commitment.flatMap_toList_injective (free _ _ there' there same)

/-- Under the root hash of a credential that was built, every statement that passes the check was
salted then, with the nonce that opens it now, unless its salted hash is the root hash of a
legitimation or the delegation node. -/
theorem shown_statement_was_salted (claim : Claim) (legitimations : List SaltedCredential)
    (delegationId : Option Hash256) (source : NonceSource) (c : SaltedCredential)
    (built : build claim legitimations delegationId source = .ok c) (c' : SaltedCredential)
    (checked : c'.verifyIntegrity = .ok ()) (same : c'.rootHash = c.rootHash)
    (free : CollisionFree fun bytes => BuildHashes source c bytes ∨ CheckHashes c' bytes) :
    ∀ s ∈ c'.claim.statements, ∃ nonce, c'.nonces.get? s.digest = some nonce
      ∧ ((∃ (i : Nat) (t : Statement), claim.statements[i]? = some t ∧ s.text = t.text
          ∧ source.nonceFor i t t.digest = .ok nonce)
        ∨ saltedHash nonce s ∈ legitimations.map (·.rootHash)
        ∨ delegationId = some (saltedHash nonce s)) := by
  intro s said
  have intact := (verifyIntegrity_ok_iff c').mp checked
  obtain ⟨nonce, known, member⟩ := intact.opened s said
  refine ⟨nonce, known, ?_⟩
  have leaves := leaves_of_same_rootHash free (root_of_built built)
    (intact.root.symm.trans c'.rootHashOf_eq) same (.inl .root) (.inr .root)
  have leaf : saltedHash nonce s ∈ c.leaves := by
    rw [← leaves]
    exact List.mem_append_left _ (List.mem_append_left _ member)
  rw [SaltedCredential.leaves, List.mem_append, List.mem_append] at leaf
  rcases leaf with (published | backing) | delegated
  · left
    obtain ⟨i, t, given, there, drawn, equal⟩ := exists_statement_of_claimHash built published
    rw [saltedHash_eq, saltedHash_eq] at equal
    obtain ⟨rfl, text⟩ := Statement.nonce_split
      (free _ _ (.inl (.statement there drawn)) (.inr (.statement said known)) equal)
    obtain ⟨_, _, rfl⟩ := (build_ok_iff ..).mp built
    exact ⟨i, t, there, text.symm, drawn⟩
  · obtain ⟨_, _, rfl⟩ := (build_ok_iff ..).mp built
    exact .inr (.inl backing)
  · obtain ⟨_, _, rfl⟩ := (build_ok_iff ..).mp built
    exact .inr (.inr (Option.mem_toList.mp delegated))

theorem buildHashes_of_checkHashes {claim : Claim} {legitimations : List SaltedCredential}
    {delegationId : Option Hash256} {source : NonceSource} {c r : SaltedCredential}
    (built : build claim legitimations delegationId source = .ok c) (narrows : c.Narrows r)
    (free : CollisionFree (DigestHashes claim)) {bytes : List UInt8}
    (hashed : CheckHashes r bytes) : BuildHashes source c bytes := by
  obtain ⟨_, made, rfl⟩ := (build_ok_iff ..).mp built
  cases hashed with
  | @statement s _ there known =>
    have said := narrows.statements s there
    rw [narrows.nonces s there] at known
    obtain ⟨i, t, at_i, same, given⟩ := HashedStatements.given_of_kept made known
    have text := text_of_digest free ⟨t, List.mem_of_getElem? at_i, rfl⟩ ⟨s, said, rfl⟩ same
    rw [Statement.bytes, ← text]
    exact .statement at_i given
  | root =>
    rw [rootPreimage, leaves, narrows.claimHashes, narrows.legitimations, narrows.delegationId]
    exact .root

theorem buildHashes_of_drawn {random : Nat → UInt8} {c : SaltedCredential} {bytes : List UInt8}
    (hashed : BuildHashes (.generate random) c bytes) :
    (∃ e ∈ HashedStatements.drawn random c.claim.statements, bytes = utf8 e.2 ++ e.1.bytes)
      ∨ bytes = c.rootPreimage := by
  cases hashed with
  | statement there given =>
    obtain rfl := Except.ok.inj given
    exact .inl ⟨_, List.mem_map_of_mem (List.mk_mem_zipIdx_iff_getElem?.mpr there), rfl⟩
  | root => exact .inr rfl

section Sample

open HashedStatements (drawn accentStatement)

def bareCredential : SaltedCredential where
  claim := { sampleClaim with contents := .empty }
  claimHashes := [saltedHash "salt" ownerStatement]
  nonces := OrderedMap.ofList [(ownerStatement.digest, "salt")]
  legitimations := []
  delegationId := none
  rootHash := rootHashOf [saltedHash "salt" ownerStatement] [] none

theorem mem_bare_statements {s : Statement} :
    s ∈ bareCredential.claim.statements ↔ s = ownerStatement := List.mem_singleton

theorem get?_bare_nonces : bareCredential.nonces.get? ownerStatement.digest = some "salt" := by
  rw [bareCredential, OrderedMap.get?_ofList]
  simp [OrderedMap.lookup_cons_if]

theorem bare_checked : bareCredential.verifyIntegrity = .ok () := by
  refine (verifyIntegrity_ok_iff _).mpr ⟨rfl, ?_, nofun⟩
  intro s said
  rw [mem_bare_statements.mp said]
  exact ⟨"salt", get?_bare_nonces, List.mem_cons_self⟩

def spelledRandom (i : Nat) : UInt8 := UInt8.ofNat (5 + i)

def spelledDrawn : List (Statement × String) :=
  drawn spelledRandom (spelledClaim spelledContents).statements

def spelledHashes : List Hash256 := spelledDrawn.map fun e => saltedHash e.2 e.1

/-- The claim hashes are drawn in ascending order. -/
def spelledCredential : SaltedCredential where
  claim := spelledClaim spelledContents
  claimHashes := spelledHashes
  nonces := OrderedMap.ofList (spelledDrawn.map fun e => (e.1.digest, e.2))
  legitimations := [bareCredential]
  delegationId := some spelledNode
  rootHash := rootHashOf spelledHashes [bareCredential.rootHash] (some spelledNode)

theorem leading_spelled : (spelledHashes ++ [spelledCredential.rootHash]).map leadingByte
    = [70, 137, 253, 255, 134] := by
  decide +kernel

theorem sort_spelledHashes : FixedBytes.sort spelledHashes = spelledHashes := by
  have leading := congrArg (List.take 4) leading_spelled
  rw [← List.map_take] at leading
  have hashes : spelledHashes.map leadingByte = [70, 137, 253, 255] := leading
  exact FixedBytes.sort_of_pairwise (pairwise_of_leading hashes (by decide))

theorem build_spelled : build (spelledClaim spelledContents) [bareCredential]
    (some spelledNode) (.generate spelledRandom) = .ok spelledCredential := by
  refine (build_ok_iff ..).mpr ⟨_, HashedStatements.ofClaim_generate _ spelledRandom, ?_⟩
  show _ = SaltedCredential.mk _ (FixedBytes.sort spelledHashes) _ _ _
    (rootHashOf (FixedBytes.sort spelledHashes) _ _)
  rw [sort_spelledHashes]
  rfl

theorem nodup_spelledHashed : ((spelledDrawn.map (fun e => utf8 e.2 ++ e.1.bytes)
    ++ [spelledCredential.rootPreimage]).map blake2b).Nodup := by
  have digests : (spelledDrawn.map (fun e => utf8 e.2 ++ e.1.bytes)
      ++ [spelledCredential.rootPreimage]).map blake2b
        = spelledHashes ++ [spelledCredential.rootHash] := by
    rw [List.map_append, List.map_map, List.map_singleton, ← root_of_built build_spelled]
    simp only [spelledHashes, saltedHash_eq]
    rfl
  rw [digests]
  exact nodup_of_leading leading_spelled (by decide)

theorem spelled_shown_as_salted : ∃ c' : SaltedCredential,
    c'.claim.statements = [ownerStatement, accentStatement "e\u0301", nameStatement]
    ∧ c'.verifyIntegrity = .ok () ∧ c'.rootHash = spelledCredential.rootHash
    ∧ ∀ s ∈ c'.claim.statements, ∃ nonce, c'.nonces.get? s.digest = some nonce
      ∧ ((∃ (i : Nat) (t : Statement), spelledCredential.claim.statements[i]? = some t
          ∧ s.text = t.text
          ∧ (NonceSource.generate spelledRandom).nonceFor i t t.digest = .ok nonce)
        ∨ saltedHash nonce s ∈ spelledCredential.legitimations.map (·.rootHash)
        ∨ spelledCredential.delegationId = some (saltedHash nonce s)) := by
  have intact := intact_of_built build_spelled (List.forall_mem_singleton.mpr bare_checked)
    fun _ => digestHashes_spelled
  have without : spelledCredential.claim.without ["é"]
      = .ok (spelledClaim (spelledContents.take 2)) := rfl
  obtain ⟨r, removed, left⟩ := exists_removed intact without
  have narrows := narrows_of_removed removed
  have checked := (verifyIntegrity_ok_iff r).mpr (intact.narrow narrows)
  have free : CollisionFree fun bytes =>
      BuildHashes (.generate spelledRandom) spelledCredential bytes ∨ CheckHashes r bytes := by
    refine collisionFree_of_nodup ?_ nodup_spelledHashed
    intro bytes hashed
    have hashed : BuildHashes (.generate spelledRandom) spelledCredential bytes :=
      hashed.elim id (buildHashes_of_checkHashes build_spelled narrows digestHashes_spelled)
    rcases buildHashes_of_drawn hashed with ⟨e, there, rfl⟩ | rfl
    · exact List.mem_append_left _ (List.mem_map_of_mem there)
    · exact List.mem_append_right _ (List.mem_singleton_self _)
  refine ⟨r, ?_, checked, narrows.rootHash, shown_statement_was_salted _ _ _ _ _ build_spelled r
    checked narrows.rootHash free⟩
  rw [left]
  rfl

end Sample

end SaltedCredential

end SelectiveDisclosure
