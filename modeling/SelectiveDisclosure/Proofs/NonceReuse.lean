import SelectiveDisclosure.Proofs.RemovalOrder
import SelectiveDisclosure.Proofs.SaltedBinding

namespace SelectiveDisclosure

/-- Statements of a claim that have one digest are given one nonce. -/
def NonceSource.AgreesOn (source : NonceSource) (claim : Claim) : Prop :=
  ∀ (i j : Nat) (s t : Statement) (nonce other : String),
    claim.statements[i]? = some s → claim.statements[j]? = some t → s.digest = t.digest →
    source.nonceFor i s s.digest = .ok nonce → source.nonceFor j t t.digest = .ok other →
    nonce = other

/-- The byte strings that are hashed when a claim is salted with nonces from a source: every
statement, alone and behind its nonce. -/
inductive SaltingHashes (claim : Claim) (source : NonceSource) : List UInt8 → Prop where
  | statement {s : Statement} (said : s ∈ claim.statements) : SaltingHashes claim source s.bytes
  | salted {i : Nat} {s : Statement} {nonce : String} (there : claim.statements[i]? = some s)
      (given : source.nonceFor i s s.digest = .ok nonce) :
      SaltingHashes claim source (utf8 nonce ++ s.bytes)

namespace NonceSource

variable {claim : Claim} {source : NonceSource}

theorem agreesOn_of_known (known : ¬ ∃ random, source = .generate random) :
    source.AgreesOn claim := by
  intro i j s t nonce other _ _ same here there
  rw [same] at here
  exact nonce_of_digest known here there

theorem agreesOn_of_distinct (distinct : (claim.statements.map (·.digest)).Nodup) :
    source.AgreesOn claim := by
  intro i j s t nonce other at_i at_j same here there
  have digests : (claim.statements.map (·.digest))[i]? = (claim.statements.map (·.digest))[j]? := by
    rw [List.getElem?_map, List.getElem?_map, at_i, at_j, Option.map_some, Option.map_some, same]
  have inside : i < (claim.statements.map (·.digest)).length := by
    rw [List.length_map]
    exact (List.getElem?_eq_some_iff.mp at_i).1
  obtain rfl := (List.getElem?_inj inside distinct).mp digests
  obtain rfl := Option.some.inj (at_i.symm.trans at_j)
  exact Except.ok.inj (here.symm.trans there)

end NonceSource

namespace HashedStatements

open SaltedCredential (sampleClaim)

variable {claim : Claim} {source : NonceSource} {hashed again : HashedStatements}

theorem exists_again (made : ofClaim claim source = .ok hashed) :
    ∃ again, ofClaim claim (.fixed hashed.nonces) = .ok again := by
  apply exists_ofClaim
  intro s said i
  obtain ⟨nonce, known⟩ := (OrderedMap.mem_keys_iff _ _).mp
    ((SaltedCredential.keyed_of_hashed made s.digest).mpr ⟨s, said, rfl⟩)
  exact ⟨nonce, (NonceSource.nonceFor_fixed_ok_iff ..).mpr known⟩

theorem nonces_of_again (made : ofClaim claim source = .ok hashed)
    (remade : ofClaim claim (.fixed hashed.nonces) = .ok again) : again.nonces = hashed.nonces := by
  rw [nonces_of_fixed remade, NonceMap.limitedTo_eq_self fun digest =>
    (SaltedCredential.keyed_of_hashed made digest).mp]

theorem agreesOn_iff (made : ofClaim claim source = .ok hashed) : source.AgreesOn claim
    ↔ ∀ (i : Nat) (s : Statement) (nonce : String), claim.statements[i]? = some s →
      source.nonceFor i s s.digest = .ok nonce → hashed.nonces.get? s.digest = some nonce := by
  constructor
  · intro agrees i s nonce at_i given
    obtain ⟨kept, found⟩ := (OrderedMap.mem_keys_iff _ _).mp
      ((SaltedCredential.keyed_of_hashed made _).mpr ⟨s, List.mem_of_getElem? at_i, rfl⟩)
    obtain ⟨j, t, at_j, same, keptGiven⟩ := given_of_kept made found
    rw [agrees i j s t nonce kept at_i at_j same.symm given keptGiven]
    exact found
  · intro own i j s t nonce other at_i at_j same given otherGiven
    have here := own i s nonce at_i given
    rw [same, own j t other at_j otherGiven] at here
    exact (Option.some.inj here).symm

theorem again_of_agreement (made : ofClaim claim source = .ok hashed)
    (agrees : source.AgreesOn claim) : ofClaim claim (.fixed hashed.nonces) = .ok hashed := by
  have kept := (agreesOn_iff made).mp agrees
  obtain ⟨salted, names, gives, rfl⟩ := (ofClaim_ok_iff ..).mp made
  refine (ofClaim_ok_iff ..).mpr ⟨salted, names, ?_, rfl⟩
  intro i s nonce there
  obtain ⟨j, at_j, given⟩ := (mem_salted_iff names gives s nonce).mp (List.mem_of_getElem? there)
  exact (NonceSource.nonceFor_fixed_ok_iff ..).mpr (kept j s nonce at_j given)

/-- A salted hash tells the nonce and the text that it was made of, and the text tells the digest
that the nonce is looked up by. -/
theorem agreement_of_again (made : ofClaim claim source = .ok hashed)
    (remade : ofClaim claim (.fixed hashed.nonces) = .ok again)
    (same : again.hashes = hashed.hashes) (free : CollisionFree (SaltingHashes claim source)) :
    source.AgreesOn claim := by
  refine (agreesOn_iff made).mpr fun i s nonce at_i given => ?_
  have published := (mem_hashes_iff made _).mpr ⟨i, s, nonce, at_i, given, rfl⟩
  rw [← same] at published
  obtain ⟨j, t, kept, at_j, found, equal⟩ := (mem_hashes_iff remade _).mp published
  have found := (NonceSource.nonceFor_fixed_ok_iff ..).mp found
  -- The nonce that is kept for `t` was given to a statement with the text of `t`.
  obtain ⟨k, u, at_k, digests, keptGiven⟩ := given_of_kept made found
  have texts := text_of_digest free (.statement (List.mem_of_getElem? at_k))
    (.statement (List.mem_of_getElem? at_j)) digests
  have preimage : SaltingHashes claim source (utf8 kept ++ t.bytes) := by
    rw [Statement.bytes, ← texts]
    exact .salted at_k keptGiven
  rw [saltedHash_eq, saltedHash_eq] at equal
  obtain ⟨rfl, text⟩ := Statement.nonce_split (free _ _ preimage (.salted at_i given) equal)
  rw [Statement.digest, Statement.bytes, ← text]
  exact found

theorem not_nodup_of_fixed {nonces : NonceMap} (made : ofClaim claim (.fixed nonces) = .ok hashed)
    {i j : Nat} {s t : Statement} (at_i : claim.statements[i]? = some s)
    (at_j : claim.statements[j]? = some t) (apart : i ≠ j) (same : s.text = t.text) :
    ¬ hashed.hashes.Nodup := by
  obtain ⟨salted, names, gives, rfl⟩ := (ofClaim_ok_iff ..).mp made
  rw [(FixedBytes.perm_sort _).nodup_iff]
  intro distinct
  rw [← names, List.getElem?_map, Option.map_eq_some_iff] at at_i at_j
  obtain ⟨⟨s, nonce⟩, there_i, rfl⟩ := at_i
  obtain ⟨⟨t, other⟩, there_j, rfl⟩ := at_j
  have bytes : s.bytes = t.bytes := congrArg utf8 same
  have known := (NonceSource.nonceFor_fixed_ok_iff ..).mp (gives i s nonce there_i)
  have known' := (NonceSource.nonceFor_fixed_ok_iff ..).mp (gives j t other there_j)
  rw [Statement.digest, bytes] at known
  obtain rfl : nonce = other := Option.some.inj (known.symm.trans known')
  have twice : (salted.map fun e => saltedHash e.2 e.1)[i]?
      = (salted.map fun e => saltedHash e.2 e.1)[j]? := by
    rw [List.getElem?_map, List.getElem?_map, there_i, there_j, Option.map_some, Option.map_some,
      saltedHash, saltedHash, bytes]
  have inside : i < (salted.map fun e => saltedHash e.2 e.1).length := by
    rw [List.length_map]
    exact (List.getElem?_eq_some_iff.mp there_i).1
  exact apart ((List.getElem?_inj inside distinct).mp twice)

/-- A claim is salted again with the nonces that were kept from the first time, and they are kept
again. The salted hashes are the same if statements with one digest were given one nonce, and, as
far as hashes tell what was hashed, only then. Nonces that are drawn at random for statements with
one digest are what can differ. -/
theorem salted_again (claim : Claim) (source : NonceSource) (hashed : HashedStatements)
    (made : ofClaim claim source = .ok hashed) :
    (∃ again, ofClaim claim (.fixed hashed.nonces) = .ok again ∧ again.nonces = hashed.nonces
      ∧ (source.AgreesOn claim → again.hashes = hashed.hashes)
      ∧ (CollisionFree (SaltingHashes claim source) → again.hashes = hashed.hashes →
        source.AgreesOn claim))
    ∧ ((¬ ∃ random, source = .generate random) ∨ (claim.statements.map (·.digest)).Nodup →
      source.AgreesOn claim) := by
  obtain ⟨again, remade⟩ := exists_again made
  refine ⟨⟨again, remade, nonces_of_again made remade, ?_, ?_⟩, ?_⟩
  · intro agrees
    obtain rfl := Except.ok.inj (remade.symm.trans (again_of_agreement made agrees))
    rfl
  · intro free same
    exact agreement_of_again made remade same free
  · rintro (known | distinct)
    · exact NonceSource.agreesOn_of_known known
    · exact NonceSource.agreesOn_of_distinct distinct

section Sample

theorem accents_said : accentClaim.statements[1]? = some (accentStatement "e\u0301")
    ∧ accentClaim.statements[2]? = some (accentStatement "é") := ⟨rfl, rfl⟩

theorem accents_salted_again : ∃ hashed again,
    ofClaim accentClaim (.custom Hash256.toHex) = .ok hashed
      ∧ ofClaim accentClaim (.fixed hashed.nonces) = .ok again ∧ again.nonces = hashed.nonces
      ∧ again.hashes = hashed.hashes := by
  obtain ⟨hashed, made⟩ := exists_ofClaim_custom accentClaim Hash256.toHex
  obtain ⟨⟨again, remade, kept, equal, _⟩, agrees⟩ := salted_again _ _ _ made
  have known : ¬ ∃ random, NonceSource.custom Hash256.toHex = .generate random := by
    rintro ⟨_, ⟨⟩⟩
  exact ⟨hashed, again, made, remade, kept, equal (agrees (.inl known))⟩

/-- Both spellings are drawn a nonce, and only one of the two is kept. -/
theorem accents_salted_differently : ∃ hashed again,
    ofClaim accentClaim (.generate countingBytes) = .ok hashed
      ∧ ofClaim accentClaim (.fixed hashed.nonces) = .ok again ∧ again.nonces = hashed.nonces
      ∧ again.hashes ≠ hashed.hashes := by
  have made := ofClaim_generate accentClaim countingBytes
  obtain ⟨again, remade⟩ := exists_again made
  refine ⟨_, again, made, remade, nonces_of_again made remade, ?_⟩
  have leading : ((drawn countingBytes accentClaim.statements).map
      fun e => saltedHash e.2 e.1).map leadingByte = [11, 199, 248] := by decide +kernel
  intro same
  refine not_nodup_of_fixed remade accents_said.1 accents_said.2 (by decide) accents_alike ?_
  rw [same]
  exact (FixedBytes.perm_sort _).nodup_iff.mpr (nodup_of_leading leading (by decide))

end Sample

end HashedStatements

end SelectiveDisclosure
