import SelectiveDisclosure.Proofs.NonceReuse
import SelectiveDisclosure.Proofs.SaltedDocuments

namespace SelectiveDisclosure

namespace Nonce

theorem joined_ne_empty (a b : String) (parts : List String) :
    "-".intercalate (a :: b :: parts) ≠ "" := by
  rw [Ne, ← String.toList_inj]
  simp

theorem uuid_ne_empty (random : Fin 16 → UInt8) : uuid random ≠ "" :=
  joined_ne_empty _ _ _

end Nonce

namespace NonceSource

theorem given_ne_empty_of_drawn {source : NonceSource}
    (drawn : ∃ random, source = .generate random) (i : Nat) (s : Statement) (digest : Hash256) :
    source.nonceFor i s digest ≠ .ok "" := by
  obtain ⟨random, rfl⟩ := drawn
  intro given
  exact Nonce.uuid_ne_empty _ (Except.ok.inj given)

end NonceSource

theorem Claim.owner_said (claim : Claim) :
    ⟨Expanded.idKey, .str claim.owner.text⟩ ∈ claim.statements :=
  (claim.said_iff _).mpr (.inl rfl)

namespace HashedStatements

variable {claim : Claim} {source : NonceSource} {hashed : HashedStatements}

theorem exists_given (made : ofClaim claim source = .ok hashed) {i : Nat} {s : Statement}
    (there : claim.statements[i]? = some s) :
    ∃ nonce, source.nonceFor i s s.digest = .ok nonce := by
  obtain ⟨salted, names, gives, _⟩ := (ofClaim_ok_iff ..).mp made
  rw [← names, List.getElem?_map, Option.map_eq_some_iff] at there
  obtain ⟨⟨s, nonce⟩, at_i, rfl⟩ := there
  have given := gives i s nonce at_i
  rw [Nat.zero_add] at given
  exact ⟨nonce, given⟩

/-- The nonce that is kept for a digest may have been given to another statement. For the empty one
this makes no difference. -/
theorem empty_kept_iff (made : ofClaim claim source = .ok hashed) {i : Nat} {s : Statement}
    (there : claim.statements[i]? = some s) :
    hashed.nonces.get? s.digest = some "" ↔ source.nonceFor i s s.digest = .ok "" := by
  by_cases drawn : ∃ random, source = .generate random
  · have never := NonceSource.given_ne_empty_of_drawn drawn
    constructor
    · intro kept
      obtain ⟨j, t, _, _, given⟩ := given_of_kept made kept
      exact absurd given (never j t t.digest)
    · intro given
      exact absurd given (never i s s.digest)
  · have agrees := (agreesOn_iff made).mp (NonceSource.agreesOn_of_known drawn)
    constructor
    · intro kept
      obtain ⟨nonce, given⟩ := exists_given made there
      have same := agrees i s nonce there given
      obtain rfl := Option.some.inj (kept.symm.trans same)
      exact given
    · exact agrees i s "" there

theorem hashes_ne_nil (made : ofClaim claim source = .ok hashed) : hashed.hashes ≠ [] := by
  obtain ⟨i, there⟩ := List.mem_iff_getElem?.mp claim.owner_said
  obtain ⟨nonce, given⟩ := exists_given made there
  exact List.ne_nil_of_mem ((mem_hashes_iff made _).mpr ⟨i, _, nonce, there, given, rfl⟩)

end HashedStatements

namespace SaltedCredential

section Structure

variable {c r : SaltedCredential} {keys : List String} {steps : List (List String)}

theorem Structured.removed (structured : c.Structured) (removed : c.removeProperties keys = .ok r) :
    r.Structured := by
  have narrows := narrows_of_removed removed
  constructor
  case published =>
    rw [narrows.claimHashes]
    exact structured.published
  case ascending =>
    rw [narrows.claimHashes]
    exact structured.ascending
  case legitimations =>
    rw [narrows.legitimations]
    exact structured.legitimations
  case nonces =>
    intro e there
    have kept := r.nonces.get?_eq_some_iff.mpr there
    obtain ⟨s, said, same⟩ := (keyed_of_removed removed e.1).mp (List.mem_map_of_mem there)
    rw [← same, narrows.nonces s said, same] at kept
    exact structured.nonces e (c.nonces.get?_eq_some_iff.mp kept)

theorem Structured.removedEach (structured : c.Structured) (removed : c.removeEach steps = .ok r) :
    r.Structured := by
  induction steps generalizing c with
  | nil =>
    obtain rfl := Outcome.pure_ok_iff.mp removed
    exact structured
  | cons keys steps ih =>
    rw [removeEach, List.foldlM_cons, Outcome.bind_ok_iff] at removed
    obtain ⟨d, first, others⟩ := removed
    exact ih (structured.removed first) others

/-- If all else is in order, the check is a search for an empty nonce. -/
theorem verifyStructure_eq (published : c.claimHashes ≠ [])
    (ascending : c.claimHashes.Pairwise fun a b => ¬ b < a)
    (backed : ∀ l ∈ c.legitimations, l.verifyStructure = .ok ()) :
    c.verifyStructure = match c.nonces.entries.find? fun e => e.2.isEmpty with
      | some e => .error (.shape (.emptyNonce e.1))
      | none => .ok () := by
  obtain ⟨claim, claimHashes, nonces, legitimations, delegationId, rootHash⟩ := c
  have sorted := (firstDescent?_eq_none_iff claimHashes).mpr ascending
  have all := (verifyStructureAll_ok_iff legitimations).mpr backed
  rw [verifyStructure, if_neg (mt List.isEmpty_iff.mp published), sorted, all]
  cases nonces.entries.find? fun e => e.2.isEmpty <;> rfl

end Structure

section Built

variable {claim : Claim} {legitimations : List SaltedCredential} {delegationId : Option Hash256}
  {source : NonceSource} {c r : SaltedCredential}

theorem verifyStructure_of_narrowed
    (built : build claim legitimations delegationId source = .ok c) (narrows : c.Narrows r)
    (backed : ∀ l ∈ legitimations, l.verifyStructure = .ok ()) :
    r.verifyStructure = match r.nonces.entries.find? fun e => e.2.isEmpty with
      | some e => .error (.shape (.emptyNonce e.1))
      | none => .ok () := by
  obtain ⟨hashed, made, rfl⟩ := (build_ok_iff ..).mp built
  apply verifyStructure_eq
  · rw [narrows.claimHashes]
    exact HashedStatements.hashes_ne_nil made
  · obtain ⟨_, _, _, rfl⟩ := (HashedStatements.ofClaim_ok_iff ..).mp made
    rw [narrows.claimHashes]
    exact FixedBytes.pairwise_sort _
  · rw [narrows.legitimations]
    exact backed

theorem empty_given_iff (built : build claim legitimations delegationId source = .ok c)
    (narrows : c.Narrows r) {i : Nat} {s : Statement} (there : claim.statements[i]? = some s)
    (said : s ∈ r.claim.statements) :
    r.nonces.get? s.digest = some "" ↔ source.nonceFor i s s.digest = .ok "" := by
  obtain ⟨hashed, made, rfl⟩ := (build_ok_iff ..).mp built
  rw [narrows.nonces s said]
  exact HashedStatements.empty_kept_iff made there

theorem empty_given_of_refused (built : build claim legitimations delegationId source = .ok c)
    (narrows : c.Narrows r) (keyed : r.Keyed)
    (backed : ∀ l ∈ legitimations, l.verifyStructure = .ok ()) {e : VerificationError}
    (refused : r.verifyStructure = .error e) : ∃ (i : Nat) (s : Statement),
      claim.statements[i]? = some s ∧ s ∈ r.claim.statements
        ∧ source.nonceFor i s s.digest = .ok "" ∧ e = .shape (.emptyNonce s.digest) := by
  rw [verifyStructure_of_narrowed built narrows backed] at refused
  cases empty : r.nonces.entries.find? fun e => e.2.isEmpty with
  | none =>
    rw [empty] at refused
    contradiction
  | some entry =>
    rw [empty] at refused
    obtain ⟨digest, nonce⟩ := entry
    have there := List.mem_of_find?_eq_some empty
    have blank := List.find?_some empty
    obtain rfl : nonce = "" := String.isEmpty_iff.mp blank
    obtain ⟨s, said, same⟩ := (keyed digest).mp (List.mem_map_of_mem there)
    have kept : r.nonces.get? s.digest = some "" := by
      rw [same]
      exact r.nonces.get?_eq_some_iff.mpr there
    obtain rfl := claim_of_built built
    obtain ⟨i, at_i⟩ := List.mem_iff_getElem?.mp (narrows.statements s said)
    have given := (empty_given_iff built narrows at_i said).mp kept
    refine ⟨i, s, at_i, said, given, ?_⟩
    rw [same]
    exact (Except.error.inj refused).symm

theorem verifyStructure_iff_of_built
    (built : build claim legitimations delegationId source = .ok c) (narrows : c.Narrows r)
    (keyed : r.Keyed) (backed : ∀ l ∈ legitimations, l.verifyStructure = .ok ()) :
    r.verifyStructure = .ok () ↔ ∀ (i : Nat) (s : Statement), claim.statements[i]? = some s →
      s ∈ r.claim.statements → source.nonceFor i s s.digest ≠ .ok "" := by
  constructor
  · intro passes i s there said given
    have kept := (empty_given_iff built narrows there said).mpr given
    have structured := (verifyStructure_ok_iff r).mp passes
    exact structured.nonces _ (r.nonces.get?_eq_some_iff.mp kept) rfl
  · intro filled
    cases result : r.verifyStructure with
    | ok => rfl
    | error e =>
      obtain ⟨i, s, there, said, given, _⟩ :=
        empty_given_of_refused built narrows keyed backed result
      exact absurd given (filled i s there said)

end Built

/-- What was built, and what any removals leave of it, passes the check of its structure exactly if
no statement that is left was given the empty nonce, as is always so for nonces drawn at random. The
check reports such a statement otherwise. Once it passes it does so after every removal, and what
passes is read back as it was written. -/
theorem structure_of_built (claim : Claim) (legitimations : List SaltedCredential)
    (delegationId : Option Hash256) (source : NonceSource) (c : SaltedCredential)
    (built : build claim legitimations delegationId source = .ok c)
    (backed : ∀ l ∈ legitimations, l.verifyStructure = .ok ()) (steps : List (List String))
    (r : SaltedCredential) (removed : c.removeEach steps = .ok r) :
    (r.verifyStructure = .ok () ↔ ∀ (i : Nat) (s : Statement), claim.statements[i]? = some s →
      s ∈ r.claim.statements → source.nonceFor i s s.digest ≠ .ok "")
    ∧ (∀ e, r.verifyStructure = .error e → ∃ (i : Nat) (s : Statement),
      claim.statements[i]? = some s ∧ s ∈ r.claim.statements
        ∧ source.nonceFor i s s.digest = .ok "" ∧ e = .shape (.emptyNonce s.digest))
    ∧ ((∃ random, source = .generate random) → r.verifyStructure = .ok ())
    ∧ (c.verifyStructure = .ok () → r.verifyStructure = .ok ())
    ∧ parse r.toJson = r.verifyStructure.map fun _ => r := by
  obtain ⟨narrows, keyed⟩ := narrows_of_removedEach removed (keyed_of_built built)
  have passes := verifyStructure_iff_of_built built narrows keyed backed
  refine ⟨passes, ?_, ?_, ?_, parse_toJson r⟩
  · intro e refused
    exact empty_given_of_refused built narrows keyed backed refused
  · intro drawn
    apply passes.mpr
    intro i s _ _
    exact NonceSource.given_ne_empty_of_drawn drawn i s s.digest
  · intro whole
    have structured := (verifyStructure_ok_iff c).mp whole
    exact (verifyStructure_ok_iff r).mpr (structured.removedEach removed)

theorem sample_structured_without_name : ∃ backing c r,
    build sampleClaim [backing] none sampleSource = .ok c ∧ c.verifyStructure = .ok ()
      ∧ parse c.toJson = .ok c ∧ c.removeEach [["name"]] = .ok r ∧ r.verifyStructure = .ok ()
      ∧ parse r.toJson = .ok r := by
  have salted (i : Nat) (s : Statement) : sampleSource.nonceFor i s s.digest ≠ .ok "" := by
    have filled : "salt" ≠ "" := by decide
    exact mt Except.ok.inj filled
  obtain ⟨backing, _, founded, intact, _⟩ := exists_sample_without_name (List.forall_mem_nil _)
  have intactBacking : ∀ l ∈ [backing], l.verifyIntegrity = .ok () :=
    List.forall_mem_singleton.mpr ((verifyIntegrity_ok_iff backing).mpr intact)
  have backed : ∀ l ∈ [backing], l.verifyStructure = .ok () := by
    obtain ⟨passes, _⟩ :=
      structure_of_built sampleClaim [] none _ backing founded nofun [] backing rfl
    exact List.forall_mem_singleton.mpr (passes.mpr fun i s _ _ => salted i s)
  obtain ⟨c, r, built, _, step⟩ := exists_sample_without_name intactBacking
  have removed : c.removeEach [["name"]] = .ok r := by
    rw [removeEach, List.foldlM_cons, Outcome.bind_ok_iff]
    exact ⟨r, step, rfl⟩
  obtain ⟨passes, _, _, _, read⟩ :=
    structure_of_built sampleClaim [backing] none _ c built backed [] c rfl
  obtain ⟨_, _, _, kept, readReduced⟩ :=
    structure_of_built sampleClaim [backing] none _ c built backed [["name"]] r removed
  have whole := passes.mpr fun i s _ _ => salted i s
  have reduced := kept whole
  rw [whole] at read
  rw [reduced] at readReduced
  exact ⟨backing, c, r, built, whole, read, removed, reduced, readReduced⟩

theorem built_with_empty_nonces : ∃ c s,
    build sampleClaim [] none (.custom fun _ => "") = .ok c ∧ s ∈ c.claim.statements
      ∧ c.verifyStructure = .error (.shape (.emptyNonce s.digest))
      ∧ parse c.toJson = .error (.shape (.emptyNonce s.digest)) := by
  obtain ⟨c, built⟩ := exists_built_custom sampleClaim [] none fun _ => ""
  have narrows := Narrows.refl c
  have keyed := keyed_of_built built
  cases result : c.verifyStructure with
  | ok =>
    have filled := (verifyStructure_iff_of_built built narrows keyed nofun).mp result
    obtain ⟨i, there⟩ := List.mem_iff_getElem?.mp sampleClaim.owner_said
    have said := List.mem_of_getElem? there
    rw [← congrArg Claim.statements (claim_of_built built)] at said
    exact absurd rfl (filled i _ there said)
  | error e =>
    obtain ⟨_, s, _, said, _, rfl⟩ := empty_given_of_refused built narrows keyed nofun result
    refine ⟨c, s, built, said, result, ?_⟩
    rw [parse_toJson, result]
    rfl

end SaltedCredential

end SelectiveDisclosure
