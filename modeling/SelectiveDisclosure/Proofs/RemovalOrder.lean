import SelectiveDisclosure.Proofs.PropertyRemoval

/-!
Removals in steps. What a removal leaves is decided by the keys that are gone, and by nothing else:
the claim is filtered by them, and the nonce map by the digests that the claim still has. So several
removals are one, whatever their order.
-/

namespace SelectiveDisclosure

namespace OrderedMap

variable {κ ν : Type} [LT κ] {m : OrderedMap κ ν} {p q : κ → ν → Bool}

theorem filter_filter : (m.filter p).filter q = m.filter fun k v => q k v && p k v :=
  ext List.filter_filter

theorem filter_congr (same : ∀ k v, (k, v) ∈ m.entries → p k v = q k v) :
    m.filter p = m.filter q :=
  ext (List.filter_congr fun e there => same e.1 e.2 there)

theorem filter_eq_self (all : ∀ k v, (k, v) ∈ m.entries → p k v) : m.filter p = m :=
  ext (List.filter_eq_self.mpr fun e there => all e.1 e.2 there)

end OrderedMap

namespace Claim

def lacking (c : Claim) (keys : List String) : Claim :=
  { c with contents := c.contents.filter fun key _ => !keys.contains key }

variable {c : Claim} {keys : List String}

theorem dropKeys_eq {contents : OrderedMap String Json} (distinct : keys.Nodup)
    (present : ∀ key ∈ keys, contents.contains key) :
    dropKeys contents keys = .ok (contents.filter fun key _ => !keys.contains key) := by
  induction keys generalizing contents with
  | nil => exact congrArg Except.ok (OrderedMap.filter_eq_self fun _ _ _ => rfl).symm
  | cons first keys ih =>
    obtain ⟨fresh, distinct⟩ := List.nodup_cons.mp distinct
    obtain ⟨here, others⟩ := List.forall_mem_cons.mp present
    have left : ∀ key ∈ keys, (contents.erase first).contains key := by
      intro key there
      have differs : key ≠ first := ne_of_mem_of_not_mem there fresh
      rw [OrderedMap.contains, OrderedMap.get?_erase, if_neg differs]
      exact others key there
    rw [dropKeys, if_pos here, ih distinct left, OrderedMap.erase, OrderedMap.filter_filter]
    congr 1
    apply OrderedMap.filter_congr
    intro key _ _
    rw [List.contains_cons, Bool.not_or, Bool.and_comm, bne]

theorem without_eq (distinct : keys.Nodup) (present : ∀ key ∈ keys, c.contents.contains key) :
    c.without keys = .ok (c.lacking keys) := by
  rw [without, dropKeys_eq distinct present]
  rfl

theorem lacking_lacking (c : Claim) (first second : List String) :
    (c.lacking first).lacking second = c.lacking (first ++ second) := by
  rw [lacking, lacking, lacking, OrderedMap.filter_filter]
  congr 1
  apply OrderedMap.filter_congr
  intro key _ _
  rw [List.contains_append, Bool.not_or, Bool.and_comm]

theorem lacking_congr {keys' : List String} (same : ∀ key, key ∈ keys ↔ key ∈ keys') :
    c.lacking keys = c.lacking keys' := by
  rw [lacking, lacking]
  congr 1
  apply OrderedMap.filter_congr
  intro key _ _
  rw [List.contains_eq_mem, List.contains_eq_mem, decide_eq_decide.mpr (same key)]

theorem lacking_nil (c : Claim) : c.lacking [] = c := by
  have all : (c.contents.filter fun key _ => !([] : List String).contains key) = c.contents :=
    OrderedMap.filter_eq_self fun _ _ _ => rfl
  rw [lacking, all]

theorem contains_lacking {key : String} (apart : key ∉ keys) :
    (c.lacking keys).contents.contains key = c.contents.contains key := by
  rw [OrderedMap.contains, lacking, OrderedMap.get?_filter, OrderedMap.contains]
  cases c.contents.get? key <;> simp [apart]

theorem mem_statements_of_lacking {s : Statement} (said : s ∈ (c.lacking keys).statements) :
    s ∈ c.statements := by
  rw [said_iff] at said ⊢
  refine said.imp id ?_
  rintro ⟨key, found, named⟩
  rw [lacking, OrderedMap.get?_filter, Option.filter_eq_some_iff] at found
  exact ⟨key, found.1, named⟩

end Claim

def NonceMap.limitedTo (nonces : NonceMap) (claim : Claim) : NonceMap :=
  nonces.filter fun digest _ => (claim.statements.map (·.digest)).contains digest

namespace NonceMap

variable {nonces : NonceMap} {claim : Claim}

theorem get?_limitedTo {s : Statement} (said : s ∈ claim.statements) :
    (nonces.limitedTo claim).get? s.digest = nonces.get? s.digest := by
  have there : (claim.statements.map (·.digest)).contains s.digest :=
    List.contains_iff_mem.mpr (List.mem_map_of_mem said)
  rw [limitedTo, OrderedMap.get?_filter]
  cases nonces.get? s.digest with
  | none => rfl
  | some nonce => rw [Option.filter_some, if_pos there]

theorem limitedTo_eq_self
    (said : ∀ digest ∈ nonces.keys, ∃ s ∈ claim.statements, s.digest = digest) :
    nonces.limitedTo claim = nonces := by
  apply OrderedMap.filter_eq_self
  intro digest nonce there
  rw [List.contains_iff_mem, List.mem_map]
  exact said digest (List.mem_map_of_mem there)

theorem limitedTo_limitedTo {less : Claim}
    (within : ∀ s ∈ less.statements, s ∈ claim.statements) :
    (nonces.limitedTo claim).limitedTo less = nonces.limitedTo less := by
  rw [limitedTo, limitedTo, limitedTo, OrderedMap.filter_filter]
  apply OrderedMap.filter_congr
  intro digest _ _
  by_cases there : (less.statements.map (·.digest)).contains digest
  · obtain ⟨s, said, rfl⟩ := List.mem_map.mp (List.contains_iff_mem.mp there)
    rw [there, List.contains_iff_mem.mpr (List.mem_map_of_mem (within s said)), Bool.and_self]
  · rw [Bool.not_eq_true] at there
    rw [there, Bool.false_and]

end NonceMap

theorem HashedStatements.nonces_of_fixed {claim : Claim} {nonces : NonceMap}
    {hashed : HashedStatements} (made : ofClaim claim (.fixed nonces) = .ok hashed) :
    hashed.nonces = nonces.limitedTo claim := by
  apply OrderedMap.ext_get?
  intro digest
  by_cases there : ∃ s ∈ claim.statements, s.digest = digest
  · obtain ⟨s, said, rfl⟩ := there
    rw [NonceMap.get?_limitedTo said]
    exact SaltedCredential.nonce_kept made said
  · have unknown : hashed.nonces.get? digest = none := by
      rw [Option.eq_none_iff_forall_not_mem]
      intro nonce found
      exact there ((SaltedCredential.keyed_of_hashed made digest).mp
        ((OrderedMap.mem_keys_iff _ _).mpr ⟨nonce, found⟩))
    have unsaid : (claim.statements.map (·.digest)).contains digest = false := by
      rw [Bool.eq_false_iff, Ne, List.contains_iff_mem, List.mem_map]
      exact there
    rw [unknown, NonceMap.limitedTo, OrderedMap.get?_filter, unsaid]
    cases nonces.get? digest <;> rfl

namespace SaltedCredential

/-- There is a nonce for every statement, whether it opens a claim hash or not. -/
def Covered (c : SaltedCredential) : Prop :=
  ∀ s ∈ c.claim.statements, ∃ nonce, c.nonces.get? s.digest = some nonce

def lacking (c : SaltedCredential) (keys : List String) : SaltedCredential :=
  { c with claim := c.claim.lacking keys, nonces := c.nonces.limitedTo (c.claim.lacking keys) }

variable {c : SaltedCredential} {keys : List String}

theorem covered_lacking_iff : (c.lacking keys).Covered ↔ ∀ s ∈ (c.claim.lacking keys).statements,
    ∃ nonce, c.nonces.get? s.digest = some nonce := by
  apply forall₂_congr
  intro s said
  have kept : (c.lacking keys).nonces.get? s.digest = c.nonces.get? s.digest :=
    NonceMap.get?_limitedTo said
  rw [kept]

theorem Covered.lacking (covered : c.Covered) (keys : List String) : (c.lacking keys).Covered :=
  covered_lacking_iff.mpr fun s said => covered s (Claim.mem_statements_of_lacking said)

/-- Only the statements that remain need their nonces. -/
theorem removeProperties_of_rest (rest : (c.lacking keys).Covered) (distinct : keys.Nodup)
    (present : ∀ key ∈ keys, c.claim.contents.contains key) :
    c.removeProperties keys = .ok (c.lacking keys) := by
  have total : ∀ s ∈ (c.claim.lacking keys).statements, ∀ i, ∃ nonce,
      (NonceSource.fixed c.nonces).nonceFor i s s.digest = .ok nonce := by
    intro s said i
    obtain ⟨nonce, known⟩ := covered_lacking_iff.mp rest s said
    exact ⟨nonce, (NonceSource.nonceFor_fixed_ok_iff ..).mpr known⟩
  obtain ⟨hashed, made⟩ := HashedStatements.exists_ofClaim total
  refine (removeProperties_ok_iff ..).mpr
    ⟨_, hashed, Claim.without_eq distinct present, made, ?_⟩
  rw [HashedStatements.nonces_of_fixed made, lacking]

theorem removeProperties_eq (covered : c.Covered) (distinct : keys.Nodup)
    (present : ∀ key ∈ keys, c.claim.contents.contains key) :
    c.removeProperties keys = .ok (c.lacking keys) :=
  removeProperties_of_rest (covered.lacking keys) distinct present

theorem lacking_lacking (c : SaltedCredential) (first second : List String) :
    (c.lacking first).lacking second = c.lacking (first ++ second) := by
  rw [lacking, lacking, lacking, Claim.lacking_lacking, ← Claim.lacking_lacking,
    NonceMap.limitedTo_limitedTo fun _ => Claim.mem_statements_of_lacking]

theorem lacking_congr {keys' : List String} (same : ∀ key, key ∈ keys ↔ key ∈ keys') :
    c.lacking keys = c.lacking keys' := by
  rw [lacking, lacking, Claim.lacking_congr same]

theorem lacking_nil (keyed : c.Keyed) : c.lacking [] = c := by
  rw [lacking, Claim.lacking_nil, NonceMap.limitedTo_eq_self fun digest => (keyed digest).mp]
  cases c
  rfl

theorem covered_of_shown (shown : c.verifyDisclosed = .ok ()) : c.Covered := by
  intro s said
  obtain ⟨nonce, known, _⟩ := (verifyDisclosed_ok_iff ..).mp shown s said
  exact ⟨nonce, known⟩

theorem covered_of_keyed (keyed : c.Keyed) : c.Covered := by
  intro s said
  exact (OrderedMap.mem_keys_iff _ _).mp ((keyed s.digest).mpr ⟨s, said, rfl⟩)

section Built

variable {claim : Claim} {legitimations : List SaltedCredential} {delegationId : Option Hash256}
  {source : NonceSource}

theorem claim_of_built (built : build claim legitimations delegationId source = .ok c) :
    c.claim = claim := by
  obtain ⟨_, _, rfl⟩ := (build_ok_iff ..).mp built
  rfl

theorem keyed_of_built (built : build claim legitimations delegationId source = .ok c) :
    c.Keyed := by
  obtain ⟨_, made, rfl⟩ := (build_ok_iff ..).mp built
  exact keyed_of_hashed made

end Built

/-- Removing some properties and then others succeeds, and comes to the same as removing all of
them at once in any order. Removing none changes nothing that was built. -/
theorem removals_compose (c : SaltedCredential) :
    (∀ first second : List String, c.verifyDisclosed = .ok () → (first ++ second).Nodup →
      (∀ key ∈ first ++ second, c.claim.contents.contains key) →
      ∃ r, (c.removeProperties first >>= fun d => d.removeProperties second) = .ok r
        ∧ ∀ keys, keys.Perm (first ++ second) → c.removeProperties keys = .ok r)
    ∧ ∀ claim legitimations delegationId source,
      build claim legitimations delegationId source = .ok c → c.removeProperties [] = .ok c := by
  constructor
  · intro first second shown distinct present
    have covered := covered_of_shown shown
    obtain ⟨distinctFirst, distinctSecond, apart⟩ := List.nodup_append.mp distinct
    obtain ⟨presentFirst, presentSecond⟩ := List.forall_mem_append.mp present
    have left : ∀ key ∈ second, (c.lacking first).claim.contents.contains key := by
      intro key there
      have kept : key ∉ first := fun gone => apart key gone key there rfl
      exact (Claim.contains_lacking kept).trans (presentSecond key there)
    refine ⟨c.lacking (first ++ second), ?_, ?_⟩
    · rw [removeProperties_eq covered distinctFirst presentFirst, Outcome.ok_bind,
        removeProperties_eq (covered.lacking first) distinctSecond left, lacking_lacking]
    · intro keys perm
      rw [← lacking_congr fun _ => perm.mem_iff]
      exact removeProperties_eq covered (perm.nodup_iff.mpr distinct)
        fun key there => present key (perm.mem_iff.mp there)
  · intro claim legitimations delegationId source built
    have keyed := keyed_of_built built
    rw [removeProperties_eq (covered_of_keyed keyed) List.nodup_nil (List.forall_mem_nil _),
      lacking_nil keyed]

def personClaim : Claim :=
  { sampleClaim with contents := OrderedMap.ofList [("age", .int 36), ("name", .str "Ada")] }

theorem person_without_name_and_age : ∃ c r,
    build personClaim [] none sampleSource = .ok c ∧ c.removeProperties [] = .ok c
      ∧ (c.removeProperties ["name"] >>= fun d => d.removeProperties ["age"]) = .ok r
      ∧ c.removeProperties ["age", "name"] = .ok r := by
  obtain ⟨c, built⟩ := exists_built_custom personClaim [] none fun _ => "salt"
  have intact := intact_of_built built (List.forall_mem_nil _)
    fun drawn => absurd drawn sampleSource_known
  have shown : c.verifyDisclosed = .ok () := (verifyDisclosed_ok_iff ..).mpr intact.opened
  have present : ∀ key ∈ ["name"] ++ ["age"], c.claim.contents.contains key := by
    rw [claim_of_built built]
    decide
  obtain ⟨steps, nothing⟩ := removals_compose c
  obtain ⟨r, removed, all⟩ := steps ["name"] ["age"] shown (by decide) present
  exact ⟨c, r, built, nothing _ _ _ _ built, removed, all ["age", "name"] (by decide)⟩

end SaltedCredential

end SelectiveDisclosure
