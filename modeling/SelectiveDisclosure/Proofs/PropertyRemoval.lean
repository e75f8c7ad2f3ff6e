import SelectiveDisclosure.Proofs.Preimages
import SelectiveDisclosure.Proofs.SaltedIntegrity
import SelectiveDisclosure.Salted.Attestation

/-!
Credentials from which properties are removed again and again. What was published stays, the
statements that remain keep their nonces, and the nonces of the others are gone. So whatever
passed every check when it was built passes them after any number of removals.
-/

namespace SelectiveDisclosure

/-- The byte strings whose digests the nonces of a claim are kept by. -/
def DigestHashes (claim : Claim) (bytes : List UInt8) : Prop :=
  ∃ s ∈ claim.statements, s.bytes = bytes

/-- Nonces are kept by digest. Those that are drawn at random rest on `blake2b` giving different
texts of the claim different digests. Those of a map or of a function do not. -/
def NonceSource.KeepsApart (source : NonceSource) (claim : Claim) : Prop :=
  (∃ random, source = .generate random) → CollisionFree (DigestHashes claim)

theorem Attestation.verifyAgainst_ok_iff (a : Attestation) (c : SaltedCredential) :
    a.verifyAgainst c = .ok () ↔ a.claimHash = c.rootHash ∧ a.ctypeHash = c.claim.ctypeHash
      ∧ a.delegationId = c.delegationId := by
  rw [verifyAgainst]
  split_ifs <;> simp_all

namespace SaltedCredential

def removeEach (c : SaltedCredential) (steps : List (List String)) : Verified SaltedCredential :=
  steps.foldlM removeProperties c

/-- The second credential says no more than the first one, and whatever both say is opened by the
same nonce. All else is the same, whether it was hashed or not. -/
structure Narrows (c r : SaltedCredential) : Prop where
  statements : ∀ s ∈ r.claim.statements, s ∈ c.claim.statements
  nonces : ∀ s ∈ r.claim.statements, r.nonces.get? s.digest = c.nonces.get? s.digest
  owner : r.claim.owner = c.claim.owner
  ctypeHash : r.claim.ctypeHash = c.claim.ctypeHash
  claimHashes : r.claimHashes = c.claimHashes
  legitimations : r.legitimations = c.legitimations
  delegationId : r.delegationId = c.delegationId
  rootHash : r.rootHash = c.rootHash

def Keyed (c : SaltedCredential) : Prop :=
  ∀ h, h ∈ c.nonces.keys ↔ ∃ s ∈ c.claim.statements, s.digest = h

section Steps

variable {c r : SaltedCredential} {keys : List String} {steps : List (List String)}

theorem Narrows.refl (c : SaltedCredential) : c.Narrows c :=
  ⟨fun _ => id, fun _ _ => rfl, rfl, rfl, rfl, rfl, rfl, rfl⟩

theorem Narrows.trans {d : SaltedCredential} (first : c.Narrows d) (second : d.Narrows r) :
    c.Narrows r where
  statements s said := first.statements s (second.statements s said)
  nonces s said := (second.nonces s said).trans (first.nonces s (second.statements s said))
  owner := second.owner.trans first.owner
  ctypeHash := second.ctypeHash.trans first.ctypeHash
  claimHashes := second.claimHashes.trans first.claimHashes
  legitimations := second.legitimations.trans first.legitimations
  delegationId := second.delegationId.trans first.delegationId
  rootHash := second.rootHash.trans first.rootHash

theorem nonce_kept {nonces : NonceMap} {claim : Claim} {hashed : HashedStatements}
    (made : HashedStatements.ofClaim claim (.fixed nonces) = .ok hashed) {s : Statement}
    (said : s ∈ claim.statements) : hashed.nonces.get? s.digest = nonces.get? s.digest := by
  obtain ⟨salted, names, gives, rfl⟩ := (HashedStatements.ofClaim_ok_iff ..).mp made
  rw [← names] at said
  obtain ⟨t, nonce, there, same, found⟩ := HashedStatements.exists_nonce said
  obtain ⟨i, there⟩ := List.mem_iff_getElem?.mp there
  have known := (NonceSource.nonceFor_fixed_ok_iff ..).mp (gives i t nonce there)
  rw [found, ← same, known]

theorem keyed_of_hashed {claim : Claim} {source : NonceSource} {hashed : HashedStatements}
    (made : HashedStatements.ofClaim claim source = .ok hashed) (h : Hash256) :
    h ∈ hashed.nonces.keys ↔ ∃ s ∈ claim.statements, s.digest = h := by
  obtain ⟨salted, names, _, rfl⟩ := (HashedStatements.ofClaim_ok_iff ..).mp made
  rw [← names]
  exact HashedStatements.mem_keys_nonces salted h

theorem narrows_of_removed (removed : c.removeProperties keys = .ok r) : c.Narrows r := by
  obtain ⟨claim, hashed, without, made, rfl⟩ := (removeProperties_ok_iff c r keys).mp removed
  obtain ⟨_, _, same⟩ := (Claim.without_ok_iff c.claim claim keys).mp without
  exact {
    statements := fun _ => Claim.mem_statements_of_without without
    nonces := fun _ => nonce_kept made
    owner := by rw [same]
    ctypeHash := by rw [same]
    claimHashes := rfl
    legitimations := rfl
    delegationId := rfl
    rootHash := rfl }

theorem keyed_of_removed (removed : c.removeProperties keys = .ok r) : r.Keyed := by
  obtain ⟨_, _, _, made, rfl⟩ := (removeProperties_ok_iff c r keys).mp removed
  exact keyed_of_hashed made

theorem exists_removed (intact : c.Intact) {claim : Claim}
    (without : c.claim.without keys = .ok claim) :
    ∃ r, c.removeProperties keys = .ok r ∧ r.claim = claim := by
  have total : ∀ s ∈ claim.statements, ∀ i, ∃ nonce,
      (NonceSource.fixed c.nonces).nonceFor i s s.digest = .ok nonce := by
    intro s said i
    obtain ⟨nonce, known, _⟩ := intact.opened s (Claim.mem_statements_of_without without said)
    exact ⟨nonce, (NonceSource.nonceFor_fixed_ok_iff ..).mpr known⟩
  obtain ⟨hashed, made⟩ := HashedStatements.exists_ofClaim total
  exact ⟨_, (removeProperties_ok_iff ..).mpr ⟨claim, hashed, without, made, rfl⟩, rfl⟩

/-- A removal forgets how the nonces were given, so the second fact holds of its result alone. -/
theorem narrows_of_removedEach (removed : c.removeEach steps = .ok r) (keyed : c.Keyed) :
    c.Narrows r ∧ r.Keyed := by
  induction steps generalizing c with
  | nil =>
    obtain rfl := Outcome.pure_ok_iff.mp removed
    exact ⟨Narrows.refl c, keyed⟩
  | cons keys steps ih =>
    rw [removeEach, List.foldlM_cons, Outcome.bind_ok_iff] at removed
    obtain ⟨d, first, others⟩ := removed
    obtain ⟨narrows, keyed⟩ := ih others (keyed_of_removed first)
    exact ⟨(narrows_of_removed first).trans narrows, keyed⟩

theorem Intact.narrow (intact : c.Intact) (narrows : c.Narrows r) : r.Intact where
  root := by
    rw [narrows.claimHashes, narrows.legitimations, narrows.delegationId, narrows.rootHash]
    exact intact.root
  opened := by
    intro s said
    rw [narrows.nonces s said, narrows.claimHashes]
    exact intact.opened s (narrows.statements s said)
  legitimations := by
    rw [narrows.legitimations]
    exact intact.legitimations

theorem Narrows.attested (narrows : c.Narrows r) (attester : Did) :
    (Attestation.ofCredential c attester).verifyAgainst r = .ok () :=
  (Attestation.verifyAgainst_ok_iff _ _).mpr
    ⟨narrows.rootHash.symm, narrows.ctypeHash.symm, narrows.delegationId.symm⟩

end Steps

section Built

variable {claim : Claim} {legitimations : List SaltedCredential} {delegationId : Option Hash256}
  {source : NonceSource} {c : SaltedCredential}

/-- The statement that a nonce was given for may be another one with the same digest. Then it has
the same text, or the nonce is known from the digest. -/
theorem opened_of_hashed {hashed : HashedStatements}
    (made : HashedStatements.ofClaim claim source = .ok hashed) (apart : source.KeepsApart claim)
    {s : Statement} (said : s ∈ claim.statements) :
    ∃ nonce, hashed.nonces.get? s.digest = some nonce ∧ saltedHash nonce s ∈ hashed.hashes := by
  obtain ⟨salted, names, gives, rfl⟩ := (HashedStatements.ofClaim_ok_iff ..).mp made
  have published {t : Statement} {nonce : String} (there : (t, nonce) ∈ salted) :
      saltedHash nonce t ∈ FixedBytes.sort (salted.map fun e => saltedHash e.2 e.1) :=
    FixedBytes.mem_sort.mpr (List.mem_map.mpr ⟨(t, nonce), there, rfl⟩)
  obtain ⟨t, nonce, there, same, found⟩ := HashedStatements.exists_nonce (names ▸ said)
  -- The map has the nonce of `t`. With the text of `s` that makes no difference, and otherwise `s`
  -- was given the same nonce, because it was looked up by the same digest.
  by_cases text : s.text = t.text
  · have equal : saltedHash nonce s = saltedHash nonce t := by
      rw [saltedHash, saltedHash, Statement.bytes, Statement.bytes, text]
    refine ⟨nonce, found, ?_⟩
    rw [equal]
    exact published there
  · by_cases drawn : ∃ random, source = .generate random
    · have other : t ∈ claim.statements := names ▸ List.mem_map_of_mem there
      exact absurd (text_of_digest (apart drawn) ⟨s, said, rfl⟩ ⟨t, other, rfl⟩ same.symm) text
    · rw [← names] at said
      obtain ⟨⟨_, own⟩, member, rfl⟩ := List.mem_map.mp said
      obtain ⟨i, atOwn⟩ := List.mem_iff_getElem?.mp member
      obtain ⟨j, atOther⟩ := List.mem_iff_getElem?.mp there
      have given := gives j t nonce atOther
      rw [same] at given
      obtain rfl := NonceSource.nonce_of_digest drawn given (gives i _ own atOwn)
      exact ⟨_, found, published member⟩

theorem exists_built_custom (claim : Claim) (legitimations : List SaltedCredential)
    (delegationId : Option Hash256) (choose : Hash256 → String) :
    ∃ c, build claim legitimations delegationId (.custom choose) = .ok c := by
  obtain ⟨hashed, made⟩ := HashedStatements.exists_ofClaim_custom claim choose
  exact ⟨_, (build_ok_iff ..).mpr ⟨hashed, made, rfl⟩⟩

theorem intact_of_built (built : build claim legitimations delegationId source = .ok c)
    (backed : ∀ l ∈ legitimations, l.verifyIntegrity = .ok ()) (apart : source.KeepsApart claim) :
    c.Intact := by
  obtain ⟨_, made, rfl⟩ := (build_ok_iff ..).mp built
  exact ⟨rfl, fun s said => opened_of_hashed made apart said, backed⟩

end Built

def sampleClaim : Claim where
  ctypeHash := ⟨List.replicate 32 3, rfl⟩
  contents := OrderedMap.ofList [("name", .str "Ada")]
  owner := ⟨"did:kilt:owner", by decide⟩

def sampleSource : NonceSource := .custom fun _ => "salt"

theorem sampleSource_known : ¬ ∃ random, sampleSource = .generate random := by
  rintro ⟨_, ⟨⟩⟩

theorem exists_sample_without_name {legitimations : List SaltedCredential}
    (backed : ∀ l ∈ legitimations, l.verifyIntegrity = .ok ()) : ∃ c r,
    build sampleClaim legitimations none sampleSource = .ok c ∧ c.Intact
      ∧ c.removeProperties ["name"] = .ok r := by
  obtain ⟨c, built⟩ := exists_built_custom sampleClaim legitimations none fun _ => "salt"
  have intact := intact_of_built built backed fun drawn => absurd drawn sampleSource_known
  have nameless : c.claim.without ["name"] = .ok { sampleClaim with contents := .empty } := by
    obtain ⟨_, _, rfl⟩ := (build_ok_iff ..).mp built
    rfl
  obtain ⟨r, removed, _⟩ := exists_removed intact nameless
  exact ⟨c, r, built, intact, removed⟩

end SaltedCredential

namespace HashedStatements

open SaltedCredential (sampleClaim)

def accentClaim : Claim :=
  { sampleClaim with contents := OrderedMap.ofList [("é", .int 1), ("e\u0301", .int 1)] }

def accentStatement (key : String) : Statement :=
  ⟨accentClaim.ctypeId.vocabulary ++ key, .int 1⟩

theorem accents_alike : (accentStatement "e\u0301").text = (accentStatement "é").text := by
  decide +kernel

def countingBytes (i : Nat) : UInt8 := UInt8.ofNat i

end HashedStatements

namespace SaltedCredential

open HashedStatements (accentClaim accentStatement accents_alike countingBytes)

def ownerStatement : Statement := ⟨"@id", .str "did:kilt:owner"⟩

def nameStatement : Statement := ⟨sampleClaim.ctypeId.vocabulary ++ "name", .str "Ada"⟩

def spelledClaim (contents : List (String × Json)) : Claim :=
  { sampleClaim with contents := OrderedMap.ofList contents }

def spelledContents : List (String × Json) :=
  [("e\u0301", .int 1), ("name", .str "Ada"), ("é", .int 1)]

def spelledNode : Hash256 := ⟨List.replicate 32 6, rfl⟩

theorem spelled_statements : (spelledClaim spelledContents).statements
    = [ownerStatement, accentStatement "e\u0301", nameStatement, accentStatement "é"] := rfl

theorem nodup_spelled_digests : ([ownerStatement, accentStatement "é", nameStatement].map
    (·.digest)).Nodup := by
  have leading : ([ownerStatement, accentStatement "é", nameStatement].map
      (·.digest)).map leadingByte = [232, 217, 81] := by decide +kernel
  exact nodup_of_leading leading (by decide)

theorem digestHashes_spelled : CollisionFree (DigestHashes (spelledClaim spelledContents)) := by
  have distinct : (([ownerStatement, accentStatement "é", nameStatement].map (·.bytes)).map
      blake2b).Nodup := by
    rw [List.map_map]
    exact nodup_spelled_digests
  refine collisionFree_of_nodup ?_ distinct
  rintro bytes ⟨s, said, rfl⟩
  have bytes_alike : (accentStatement "e\u0301").bytes = (accentStatement "é").bytes :=
    congrArg utf8 accents_alike
  rw [spelled_statements] at said
  simp only [List.map_cons, List.map_nil, List.mem_cons, List.not_mem_nil, or_false] at said ⊢
  rcases said with rfl | rfl | rfl | rfl
  · exact .inl rfl
  · exact .inr (.inl bytes_alike)
  · exact .inr (.inr rfl)
  · exact .inr (.inl rfl)

end SaltedCredential

end SelectiveDisclosure
