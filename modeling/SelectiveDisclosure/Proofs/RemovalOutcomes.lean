import SelectiveDisclosure.Proofs.RemovalOrder

namespace SelectiveDisclosure

namespace Claim

section Keys

variable {contents rest : OrderedMap String Json} {keys : List String} {key first : String}

theorem contains_erase (contents : OrderedMap String Json) (first key : String) :
    (contents.erase first).contains key ↔ key ≠ first ∧ contents.contains key := by
  rw [OrderedMap.contains, OrderedMap.get?_erase, OrderedMap.contains]
  by_cases same : key = first <;> simp [same]

theorem keys_of_dropped (dropped : dropKeys contents keys = .ok rest) :
    keys.Nodup ∧ ∀ key ∈ keys, contents.contains key := by
  induction keys generalizing contents with
  | nil => simp
  | cons first keys ih =>
    rw [dropKeys] at dropped
    split at dropped
    · rename_i here
      obtain ⟨distinct, present⟩ := ih dropped
      simp only [contains_erase] at present
      constructor
      · apply List.nodup_cons.mpr
        refine ⟨?_, distinct⟩
        intro twice
        exact (present first twice).1 rfl
      · intro key there
        rcases List.mem_cons.mp there with rfl | later
        · exact here
        · exact (present key later).2
    · contradiction

theorem key_of_refused (refused : dropKeys contents keys = .error key) :
    key ∈ keys ∧ (contents.contains key → 2 ≤ keys.count key) := by
  induction keys generalizing contents with
  | nil => contradiction
  | cons first keys ih =>
    rw [dropKeys] at refused
    split at refused
    · obtain ⟨there, twice⟩ := ih refused
      refine ⟨List.mem_cons_of_mem first there, ?_⟩
      intro here
      by_cases same : key = first
      · subst same
        have again := List.count_pos_iff.mpr there
        rw [List.count_cons_self]
        omega
      · rw [List.count_cons_of_ne (Ne.symm same)]
        exact twice ((contains_erase contents first key).mpr ⟨same, here⟩)
    · rename_i absent
      obtain rfl := Except.error.inj refused
      exact ⟨List.mem_cons_self, fun here => absurd here absent⟩

end Keys

variable {c r : Claim} {keys : List String} {key : String}

theorem without_eq_ok_iff : c.without keys = .ok r
    ↔ keys.Nodup ∧ (∀ key ∈ keys, c.contents.contains key) ∧ r = c.lacking keys := by
  constructor
  · intro removed
    obtain ⟨rest, dropped, _⟩ := (without_ok_iff c r keys).mp removed
    obtain ⟨distinct, present⟩ := keys_of_dropped dropped
    rw [without_eq distinct present] at removed
    exact ⟨distinct, present, (Except.ok.inj removed).symm⟩
  · rintro ⟨distinct, present, rfl⟩
    exact without_eq distinct present

theorem key_of_without (refused : c.without keys = .error key) :
    key ∈ keys ∧ (c.contents.contains key → 2 ≤ keys.count key) :=
  key_of_refused (Outcome.map_error_iff.mp refused)

end Claim

namespace HashedStatements

variable {claim : Claim} {nonces : NonceMap}

theorem known_of_fixed {hashed : HashedStatements}
    (made : ofClaim claim (.fixed nonces) = .ok hashed) :
    ∀ s ∈ claim.statements, ∃ nonce, nonces.get? s.digest = some nonce := by
  intro s said
  rw [← SaltedCredential.nonce_kept made said, ← OrderedMap.mem_keys_iff]
  exact (SaltedCredential.keyed_of_hashed made s.digest).mpr ⟨s, said, rfl⟩

theorem unknown_of_saltFrom {statements : List Statement} {position : Nat} {e : StatementError}
    (failed : saltFrom (.fixed nonces) position statements = .error e) :
    ∃ s ∈ statements, nonces.get? s.digest = none ∧ e = .noProof s.key s.digest := by
  induction statements generalizing position with
  | nil => contradiction
  | cons s rest ih =>
    cases known : nonces.get? s.digest with
    | none =>
      simp only [saltFrom, NonceSource.nonceFor, known] at failed
      exact ⟨s, List.mem_cons_self, known, (Except.error.inj failed).symm⟩
    | some nonce =>
      simp only [saltFrom, NonceSource.nonceFor, known, Outcome.ok_bind, Outcome.bind_error_iff,
        Outcome.pure_not_error, and_false, exists_false, or_false] at failed
      obtain ⟨t, there, unknown⟩ := ih failed
      exact ⟨t, List.mem_cons_of_mem s there, unknown⟩

theorem unknown_of_fixed {e : VerificationError}
    (failed : ofClaim claim (.fixed nonces) = .error e) :
    ∃ s ∈ claim.statements, nonces.get? s.digest = none
      ∧ e = .unverifiable (.statements [.noProof s.key s.digest]) := by
  rw [ofClaim, ofStatements] at failed
  cases salted : saltFrom (.fixed nonces) 0 claim.statements with
  | ok salted' =>
    rw [salted] at failed
    contradiction
  | error cause =>
    rw [salted] at failed
    obtain ⟨s, said, unknown, rfl⟩ := unknown_of_saltFrom salted
    exact ⟨s, said, unknown, (Except.error.inj failed).symm⟩

end HashedStatements

namespace SaltedCredential

variable {c r : SaltedCredential} {keys : List String}

theorem removeProperties_eq_ok_iff : c.removeProperties keys = .ok r
    ↔ keys.Nodup ∧ (∀ key ∈ keys, c.claim.contents.contains key) ∧ (c.lacking keys).Covered
      ∧ r = c.lacking keys := by
  constructor
  · intro removed
    obtain ⟨claim, hashed, without, made, _⟩ := (removeProperties_ok_iff c r keys).mp removed
    obtain ⟨distinct, present, rfl⟩ := Claim.without_eq_ok_iff.mp without
    have rest := covered_lacking_iff.mpr (HashedStatements.known_of_fixed made)
    rw [removeProperties_of_rest rest distinct present] at removed
    exact ⟨distinct, present, rest, (Except.ok.inj removed).symm⟩
  · rintro ⟨distinct, present, rest, rfl⟩
    exact removeProperties_of_rest rest distinct present

theorem error_of_removal {e : VerificationError} (failed : c.removeProperties keys = .error e) :
    (∃ key ∈ keys, (c.claim.contents.contains key → 2 ≤ keys.count key)
        ∧ e = .shape (.noProperty key))
      ∨ keys.Nodup ∧ (∀ key ∈ keys, c.claim.contents.contains key)
        ∧ ∃ s ∈ (c.claim.lacking keys).statements, c.nonces.get? s.digest = none
          ∧ e = .unverifiable (.statements [.noProof s.key s.digest]) := by
  rw [removeProperties] at failed
  cases without : c.claim.without keys with
  | error key =>
    rw [without] at failed
    obtain ⟨there, twice⟩ := Claim.key_of_without without
    exact .inl ⟨key, there, twice, (Except.error.inj failed).symm⟩
  | ok claim =>
    obtain ⟨distinct, present, rfl⟩ := Claim.without_eq_ok_iff.mp without
    rw [without, Except.mapError, Outcome.ok_bind, Outcome.bind_error_iff] at failed
    rcases failed with failed | ⟨_, _, impossible⟩
    · exact .inr ⟨distinct, present, HashedStatements.unknown_of_fixed failed⟩
    · contradiction

theorem faulty_of_key {key : String} (there : key ∈ keys)
    (twice : c.claim.contents.contains key → 2 ≤ keys.count key) :
    (∃ key ∈ keys, ¬c.claim.contents.contains key) ∨ ¬keys.Nodup := by
  by_cases here : c.claim.contents.contains key
  · right
    intro distinct
    have once := List.nodup_iff_count_le_one.mp distinct key
    have more := twice here
    omega
  · exact .inl ⟨key, there, here⟩

theorem not_faulty (distinct : keys.Nodup)
    (present : ∀ key ∈ keys, c.claim.contents.contains key) :
    ¬((∃ key ∈ keys, ¬c.claim.contents.contains key) ∨ ¬keys.Nodup) := by
  rintro (⟨key, there, absent⟩ | repeated)
  · exact absent (present key there)
  · exact repeated distinct

theorem removeProperties_shape_iff :
    (∃ fault, c.removeProperties keys = .error (.shape fault))
      ↔ (∃ key ∈ keys, ¬c.claim.contents.contains key) ∨ ¬keys.Nodup := by
  constructor
  · rintro ⟨fault, failed⟩
    rcases error_of_removal failed with ⟨key, there, twice, _⟩ | ⟨_, _, s, _, _, impossible⟩
    · exact faulty_of_key there twice
    · contradiction
  · intro faulty
    cases result : c.removeProperties keys with
    | ok r =>
      obtain ⟨distinct, present, _⟩ := removeProperties_eq_ok_iff.mp result
      exact absurd faulty (not_faulty distinct present)
    | error e =>
      rcases error_of_removal result with ⟨key, _, _, rfl⟩ | ⟨distinct, present, _⟩
      · exact ⟨_, rfl⟩
      · exact absurd faulty (not_faulty distinct present)

theorem removeProperties_unverifiable_iff :
    (∃ cause, c.removeProperties keys = .error (.unverifiable cause))
      ↔ (∀ key ∈ keys, c.claim.contents.contains key) ∧ keys.Nodup
        ∧ ∃ s ∈ (c.claim.lacking keys).statements, c.nonces.get? s.digest = none := by
  constructor
  · rintro ⟨cause, failed⟩
    rcases error_of_removal failed with
      ⟨_, _, _, impossible⟩ | ⟨distinct, present, s, said, unknown, _⟩
    · contradiction
    · exact ⟨present, distinct, s, said, unknown⟩
  · rintro ⟨present, distinct, s, said, unknown⟩
    cases result : c.removeProperties keys with
    | ok r =>
      obtain ⟨_, _, rest, _⟩ := removeProperties_eq_ok_iff.mp result
      obtain ⟨nonce, known⟩ := covered_lacking_iff.mp rest s said
      rw [unknown] at known
      contradiction
    | error e =>
      rcases error_of_removal result with ⟨key, there, twice, _⟩ | ⟨_, _, t, _, _, rfl⟩
      · exact absurd (faulty_of_key there twice) (not_faulty distinct present)
      · exact ⟨_, rfl⟩

theorem exists_removed_iff : (∃ r, c.removeProperties keys = .ok r)
    ↔ (∀ key ∈ keys, c.claim.contents.contains key) ∧ keys.Nodup
      ∧ ∀ s ∈ (c.claim.lacking keys).statements, c.nonces.get? s.digest ≠ none := by
  simp only [removeProperties_eq_ok_iff, covered_lacking_iff, ← Option.isSome_iff_exists,
    Option.isSome_iff_ne_none]
  tauto

/-- A removal is refused for its shape exactly if the claim lacks a key or a key is named twice, and
then over such a key. It cannot be verified exactly if the keys are in order and a statement that is
left has no nonce, and it reports such a statement. Otherwise the properties that were not named are
left. -/
theorem removal_outcomes (c : SaltedCredential) (keys : List String) :
    ((∃ fault, c.removeProperties keys = .error (.shape fault))
      ↔ (∃ key ∈ keys, ¬c.claim.contents.contains key) ∨ ¬keys.Nodup)
    ∧ ((∃ cause, c.removeProperties keys = .error (.unverifiable cause))
      ↔ (∀ key ∈ keys, c.claim.contents.contains key) ∧ keys.Nodup
        ∧ ∃ s ∈ (c.claim.lacking keys).statements, c.nonces.get? s.digest = none)
    ∧ ((∃ r, c.removeProperties keys = .ok r)
      ↔ (∀ key ∈ keys, c.claim.contents.contains key) ∧ keys.Nodup
        ∧ ∀ s ∈ (c.claim.lacking keys).statements, c.nonces.get? s.digest ≠ none)
    ∧ (∀ e, c.removeProperties keys = .error e →
      (∃ key ∈ keys, (c.claim.contents.contains key → 2 ≤ keys.count key)
        ∧ e = .shape (.noProperty key))
      ∨ ∃ s ∈ (c.claim.lacking keys).statements, c.nonces.get? s.digest = none
        ∧ e = .unverifiable (.statements [.noProof s.key s.digest]))
    ∧ ∀ r, c.removeProperties keys = .ok r → r = c.lacking keys ∧ ∀ key,
      r.claim.contents.get? key = if key ∈ keys then none else c.claim.contents.get? key := by
  refine ⟨removeProperties_shape_iff, removeProperties_unverifiable_iff, exists_removed_iff, ?_, ?_⟩
  · intro e failed
    rcases error_of_removal failed with overKey | ⟨_, _, overStatement⟩
    · exact .inl overKey
    · exact .inr overStatement
  · intro r removed
    obtain ⟨_, _, _, rfl⟩ := removeProperties_eq_ok_iff.mp removed
    refine ⟨rfl, fun key => ?_⟩
    rw [lacking, Claim.lacking, OrderedMap.get?_filter]
    by_cases named : key ∈ keys <;> cases c.claim.contents.get? key <;> simp [named]

theorem named_twice_refused : ∃ c, build sampleClaim [] none sampleSource = .ok c
    ∧ (∀ key ∈ ["name", "name"], c.claim.contents.contains key)
    ∧ (∀ s ∈ (c.claim.lacking ["name", "name"]).statements, c.nonces.get? s.digest ≠ none)
    ∧ c.removeProperties ["name", "name"] = .error (.shape (.noProperty "name")) := by
  obtain ⟨c, built⟩ := exists_built_custom sampleClaim [] none fun _ => "salt"
  have covered := covered_of_keyed (keyed_of_built built)
  have present : ∀ key ∈ ["name", "name"], c.claim.contents.contains key := by
    rw [claim_of_built built]
    decide
  have refused : c.claim.without ["name", "name"] = .error "name" := by
    rw [claim_of_built built]
    rfl
  refine ⟨c, built, present, ?_, ?_⟩
  · intro s said
    obtain ⟨nonce, known⟩ := covered s (Claim.mem_statements_of_lacking said)
    simp [known]
  · rw [removeProperties, refused]
    rfl

end SaltedCredential

end SelectiveDisclosure
