import SelectiveDisclosure.Proofs.NewCredential
import SelectiveDisclosure.Salted.Credential

namespace SelectiveDisclosure

namespace Expanded

theorem nodup_names (vocabulary : String) (contents : OrderedMap String Json) :
    ((contents.entries.map fun e => (vocabulary ++ e.1, e.2)).map Prod.fst).Nodup := by
  have injective : Function.Injective (vocabulary ++ ·) :=
    fun _ _ same => String.append_right_inj _ |>.mp same
  have renamed := (List.nodup_map_iff injective).mpr contents.nodup_keys
  rw [OrderedMap.keys, List.map_map] at renamed
  rwa [List.map_map]

end Expanded

namespace Claim

theorem said_iff (c : Claim) (s : Statement) : s ∈ c.statements
    ↔ s = ⟨Expanded.idKey, .str c.owner.text⟩
      ∨ ∃ key, c.contents.get? key = some s.value ∧ s.key = c.ctypeId.vocabulary ++ key := by
  have distinct := Expanded.nodup_names c.ctypeId.vocabulary c.contents
  obtain ⟨name, value⟩ := s
  rw [statements, Expanded.mem_statements_iff, Expanded.ofClaim, OrderedMap.get?_insert,
    OrderedMap.get?_ofList_of_distinct distinct]
  by_cases identity : name = Expanded.idKey
  · subst identity
    simp only [ite_true, Option.some.injEq, Statement.mk.injEq, true_and]
    constructor
    · intro same
      exact .inl same.symm
    · rintro (same | ⟨key, _, named⟩)
      · exact same.symm
      · exact absurd named.symm (CredentialInput.vocabulary_append_ne _ _)
  · rw [if_neg identity, OrderedMap.lookup_eq_some_iff_mem distinct, List.mem_map]
    simp only [Prod.mk.injEq, Statement.mk.injEq, identity, false_and, false_or]
    constructor
    · rintro ⟨⟨key, value⟩, there, rfl, rfl⟩
      exact ⟨key, (OrderedMap.get?_eq_some_iff _).mpr there, rfl⟩
    · rintro ⟨key, found, rfl⟩
      exact ⟨_, (OrderedMap.get?_eq_some_iff _).mp found, rfl, rfl⟩

theorem get?_dropKeys {contents rest : OrderedMap String Json} {keys : List String}
    (dropped : dropKeys contents keys = .ok rest) (key : String) :
    rest.get? key = if key ∈ keys then none else contents.get? key := by
  induction keys generalizing contents with
  | nil =>
    obtain rfl := Except.ok.inj dropped
    rw [if_neg List.not_mem_nil]
  | cons first keys ih =>
    rw [dropKeys] at dropped
    split at dropped
    · rw [ih dropped, OrderedMap.erase, OrderedMap.get?_filter]
      by_cases same : key = first
      · subst same
        simp
      · have unequal : (key != first) = true := bne_iff_ne.mpr same
        simp only [List.mem_cons, same, false_or, unequal]
        cases contents.get? key <;> rfl
    · contradiction

theorem without_ok_iff (c r : Claim) (keys : List String) : c.without keys = .ok r
    ↔ ∃ contents, dropKeys c.contents keys = .ok contents ∧ r = { c with contents } := by
  rw [without, Outcome.map_ok_iff]
  exact exists_congr fun contents => and_congr_right fun _ => eq_comm

theorem mem_statements_of_without {c r : Claim} {keys : List String}
    (removed : c.without keys = .ok r) {s : Statement} (said : s ∈ r.statements) :
    s ∈ c.statements := by
  obtain ⟨contents, dropped, rfl⟩ := (without_ok_iff c r keys).mp removed
  rw [said_iff] at said ⊢
  refine said.imp id ?_
  rintro ⟨key, found, named⟩
  refine ⟨key, ?_, named⟩
  rw [get?_dropKeys dropped] at found
  split at found
  · contradiction
  · exact found

end Claim

namespace NonceSource

/-- Each of these statements has the nonce that a source gives it. The first one stands at
`position`. -/
def GivesFrom (source : NonceSource) (position : Nat) (salted : List (Statement × String)) : Prop :=
  ∀ (i : Nat) s nonce, salted[i]? = some (s, nonce) →
    source.nonceFor (position + i) s s.digest = .ok nonce

theorem givesFrom_cons (source : NonceSource) (position : Nat) (s : Statement) (nonce : String)
    (salted : List (Statement × String)) : source.GivesFrom position ((s, nonce) :: salted)
      ↔ source.nonceFor position s s.digest = .ok nonce
        ∧ source.GivesFrom (position + 1) salted := by
  constructor
  · intro gives
    refine ⟨gives 0 s nonce rfl, ?_⟩
    intro i t other there
    rw [Nat.add_assoc, Nat.add_comm 1 i]
    exact gives (i + 1) t other there
  · rintro ⟨first, others⟩ i t other there
    cases i with
    | zero =>
      cases Option.some.inj there
      exact first
    | succ i =>
      rw [Nat.add_comm i 1, ← Nat.add_assoc]
      exact others i t other there

theorem nonceFor_fixed_ok_iff (nonces : NonceMap) (i : Nat) (s : Statement) (digest : Hash256)
    (nonce : String) : (fixed nonces).nonceFor i s digest = .ok nonce
      ↔ nonces.get? digest = some nonce := by
  rw [nonceFor]
  cases nonces.get? digest <;> simp

theorem nonce_of_digest {source : NonceSource} (known : ¬ ∃ random, source = .generate random)
    {i j : Nat} {s t : Statement} {digest : Hash256} {nonce other : String}
    (here : source.nonceFor i s digest = .ok nonce)
    (there : source.nonceFor j t digest = .ok other) : nonce = other := by
  cases source with
  | generate random => exact absurd ⟨random, rfl⟩ known
  | fixed nonces =>
    rw [nonceFor_fixed_ok_iff] at here there
    exact Option.some.inj (here.symm.trans there)
  | custom choose => exact (Except.ok.inj here).symm.trans (Except.ok.inj there)

end NonceSource

namespace HashedStatements

open NonceSource (givesFrom_cons)

theorem saltFrom_ok_iff (source : NonceSource) (position : Nat) (statements : List Statement)
    (hashed : List (Hash256 × String × Hash256)) :
    saltFrom source position statements = .ok hashed ↔ ∃ salted,
      salted.map Prod.fst = statements ∧ source.GivesFrom position salted
      ∧ hashed = salted.map fun e => (e.1.digest, e.2, saltedHash e.2 e.1) := by
  induction statements generalizing position hashed with
  | nil =>
    simp only [saltFrom, Except.ok.injEq, List.map_eq_nil_iff, exists_eq_left, List.map_nil]
    constructor
    · rintro rfl
      exact ⟨nofun, rfl⟩
    · rintro ⟨_, rfl⟩
      rfl
  | cons s rest ih =>
    simp only [saltFrom, Outcome.bind_ok_iff, Outcome.pure_ok_iff, ih]
    constructor
    · rintro ⟨nonce, given, _, ⟨salted, rfl, gives, rfl⟩, rfl⟩
      exact ⟨(s, nonce) :: salted, rfl, (givesFrom_cons ..).mpr ⟨given, gives⟩, rfl⟩
    · rintro ⟨_ | ⟨⟨s, nonce⟩, salted⟩, names, gives, rfl⟩
      · contradiction
      · obtain ⟨rfl, rfl⟩ := List.cons.inj names
        obtain ⟨given, gives⟩ := (givesFrom_cons ..).mp gives
        exact ⟨nonce, given, _, ⟨salted, rfl, gives, rfl⟩, rfl⟩

theorem exists_salted {source : NonceSource} {statements : List Statement}
    (total : ∀ s ∈ statements, ∀ i, ∃ nonce, source.nonceFor i s s.digest = .ok nonce)
    (position : Nat) : ∃ salted, salted.map Prod.fst = statements
      ∧ source.GivesFrom position salted := by
  induction statements generalizing position with
  | nil => exact ⟨[], rfl, nofun⟩
  | cons s rest ih =>
    obtain ⟨first, others⟩ := List.forall_mem_cons.mp total
    obtain ⟨nonce, given⟩ := first position
    obtain ⟨salted, rfl, gives⟩ := ih others (position + 1)
    exact ⟨(s, nonce) :: salted, rfl, (givesFrom_cons ..).mpr ⟨given, gives⟩⟩

theorem ofClaim_ok_iff (claim : Claim) (source : NonceSource) (hashed : HashedStatements) :
    ofClaim claim source = .ok hashed ↔ ∃ salted, salted.map Prod.fst = claim.statements
      ∧ source.GivesFrom 0 salted
      ∧ hashed = ⟨FixedBytes.sort (salted.map fun e => saltedHash e.2 e.1),
        OrderedMap.ofList (salted.map fun e => (e.1.digest, e.2))⟩ := by
  rw [ofClaim, Outcome.mapError_ok_iff, ofStatements]
  simp only [Outcome.bind_ok_iff, Outcome.pure_ok_iff, saltFrom_ok_iff]
  constructor
  · rintro ⟨_, ⟨salted, names, gives, rfl⟩, rfl⟩
    refine ⟨salted, names, gives, ?_⟩
    rw [List.map_map, List.map_map]
    rfl
  · rintro ⟨salted, names, gives, rfl⟩
    refine ⟨_, ⟨salted, names, gives, rfl⟩, ?_⟩
    rw [List.map_map, List.map_map]
    rfl

theorem mem_salted_iff {claim : Claim} {source : NonceSource} {salted : List (Statement × String)}
    (names : salted.map Prod.fst = claim.statements) (gives : source.GivesFrom 0 salted)
    (s : Statement) (nonce : String) : (s, nonce) ∈ salted
      ↔ ∃ i : Nat, claim.statements[i]? = some s ∧ source.nonceFor i s s.digest = .ok nonce := by
  rw [← names, List.mem_iff_getElem?]
  apply exists_congr
  intro i
  rw [List.getElem?_map, Option.map_eq_some_iff]
  constructor
  · intro at_i
    have given := gives i s nonce at_i
    rw [Nat.zero_add] at given
    exact ⟨⟨_, at_i, rfl⟩, given⟩
  · rintro ⟨⟨⟨_, own⟩, at_i, rfl⟩, given⟩
    have ownGiven := gives i _ own at_i
    rw [Nat.zero_add] at ownGiven
    obtain rfl := Except.ok.inj (ownGiven.symm.trans given)
    exact at_i

theorem mem_hashes_iff {claim : Claim} {source : NonceSource} {hashed : HashedStatements}
    (made : ofClaim claim source = .ok hashed) (h : Hash256) : h ∈ hashed.hashes
      ↔ ∃ (i : Nat) (s : Statement) (nonce : String), claim.statements[i]? = some s
        ∧ source.nonceFor i s s.digest = .ok nonce ∧ saltedHash nonce s = h := by
  obtain ⟨salted, names, gives, rfl⟩ := (ofClaim_ok_iff ..).mp made
  rw [FixedBytes.mem_sort, List.mem_map]
  constructor
  · rintro ⟨⟨s, nonce⟩, there, rfl⟩
    obtain ⟨i, at_i, given⟩ := (mem_salted_iff names gives s nonce).mp there
    exact ⟨i, s, nonce, at_i, given, rfl⟩
  · rintro ⟨i, s, nonce, at_i, given, rfl⟩
    exact ⟨(s, nonce), (mem_salted_iff names gives s nonce).mpr ⟨i, at_i, given⟩, rfl⟩

theorem exists_ofClaim {claim : Claim} {source : NonceSource}
    (total : ∀ s ∈ claim.statements, ∀ i, ∃ nonce, source.nonceFor i s s.digest = .ok nonce) :
    ∃ hashed, ofClaim claim source = .ok hashed := by
  obtain ⟨salted, names, gives⟩ := exists_salted total 0
  exact ⟨_, (ofClaim_ok_iff ..).mpr ⟨salted, names, gives, rfl⟩⟩

theorem exists_ofClaim_custom (claim : Claim) (choose : Hash256 → String) :
    ∃ hashed, ofClaim claim (.custom choose) = .ok hashed :=
  exists_ofClaim fun s _ _ => ⟨choose s.digest, rfl⟩

def drawn (random : Nat → UInt8) (statements : List Statement) : List (Statement × String) :=
  statements.zipIdx.map fun e => (e.1, Nonce.uuid fun i => random (16 * e.2 + i.val))

theorem ofClaim_generate (claim : Claim) (random : Nat → UInt8) :
    ofClaim claim (.generate random) = .ok
      ⟨FixedBytes.sort ((drawn random claim.statements).map fun e => saltedHash e.2 e.1),
        OrderedMap.ofList ((drawn random claim.statements).map fun e => (e.1.digest, e.2))⟩ := by
  refine (ofClaim_ok_iff ..).mpr ⟨_, ?_, ?_, rfl⟩
  · rw [drawn, List.map_map]
    exact List.zipIdx_map_fst 0 claim.statements
  · intro i s nonce there
    rw [drawn, List.getElem?_map, List.getElem?_zipIdx, Option.map_map,
      Option.map_eq_some_iff] at there
    obtain ⟨_, _, pair⟩ := there
    obtain ⟨rfl, rfl⟩ := Prod.mk.inj pair
    rfl

/-- Of statements with one digest the last one has its nonce in the map. -/
theorem exists_nonce {salted : List (Statement × String)} {s : Statement}
    (there : s ∈ salted.map Prod.fst) : ∃ t nonce, (t, nonce) ∈ salted ∧ t.digest = s.digest
      ∧ (OrderedMap.ofList (salted.map fun e => (e.1.digest, e.2))).get? s.digest = some nonce := by
  obtain ⟨⟨s, own⟩, member, rfl⟩ := List.mem_map.mp there
  obtain ⟨nonce, found⟩ := (OrderedMap.exists_get?_ofList_iff
    (salted.map fun e => (e.1.digest, e.2)) s.digest).mpr ⟨own, List.mem_map_of_mem member⟩
  obtain ⟨⟨t, _⟩, given, same⟩ := List.mem_map.mp (OrderedMap.mem_of_get?_ofList found)
  obtain ⟨digests, rfl⟩ := Prod.mk.inj same
  exact ⟨t, _, given, digests, found⟩

theorem given_of_kept {claim : Claim} {source : NonceSource} {hashed : HashedStatements}
    (made : ofClaim claim source = .ok hashed) {digest : Hash256} {nonce : String}
    (found : hashed.nonces.get? digest = some nonce) : ∃ (i : Nat) (s : Statement),
      claim.statements[i]? = some s ∧ s.digest = digest
        ∧ source.nonceFor i s s.digest = .ok nonce := by
  obtain ⟨salted, names, gives, rfl⟩ := (ofClaim_ok_iff ..).mp made
  obtain ⟨⟨s, kept⟩, there, pair⟩ := List.mem_map.mp (OrderedMap.mem_of_get?_ofList found)
  obtain ⟨same, rfl⟩ : s.digest = digest ∧ kept = nonce := Prod.mk.inj pair
  obtain ⟨i, at_i, given⟩ := (mem_salted_iff names gives s kept).mp there
  exact ⟨i, s, at_i, same, given⟩

theorem mem_keys_nonces (salted : List (Statement × String)) (h : Hash256) :
    h ∈ (OrderedMap.ofList (salted.map fun e => (e.1.digest, e.2))).keys
      ↔ ∃ s ∈ salted.map Prod.fst, s.digest = h := by
  rw [OrderedMap.mem_keys_iff, OrderedMap.exists_get?_ofList_iff]
  constructor
  · rintro ⟨nonce, there⟩
    obtain ⟨e, member, same⟩ := List.mem_map.mp there
    exact ⟨e.1, List.mem_map_of_mem member, congrArg Prod.fst same⟩
  · rintro ⟨s, there, rfl⟩
    obtain ⟨e, member, rfl⟩ := List.mem_map.mp there
    exact ⟨e.2, List.mem_map.mpr ⟨e, member, rfl⟩⟩

end HashedStatements

namespace SaltedCredential

theorem build_ok_iff (claim : Claim) (legitimations : List SaltedCredential)
    (delegationId : Option Hash256) (source : NonceSource) (c : SaltedCredential) :
    build claim legitimations delegationId source = .ok c ↔ ∃ hashed,
      HashedStatements.ofClaim claim source = .ok hashed
      ∧ c = ⟨claim, hashed.hashes, hashed.nonces, legitimations, delegationId,
        rootHashOf hashed.hashes (legitimations.map (·.rootHash)) delegationId⟩ := by
  rw [build, Outcome.bind_ok_iff]
  simp only [Outcome.pure_ok_iff]
  exact exists_congr fun hashed => and_congr_right fun _ => eq_comm

theorem removeProperties_ok_iff (c r : SaltedCredential) (keys : List String) :
    c.removeProperties keys = .ok r ↔ ∃ claim hashed, c.claim.without keys = .ok claim
      ∧ HashedStatements.ofClaim claim (.fixed c.nonces) = .ok hashed
      ∧ r = { c with claim, nonces := hashed.nonces } := by
  rw [removeProperties]
  simp only [Outcome.bind_ok_iff, Outcome.mapError_ok_iff, Outcome.pure_ok_iff]
  constructor
  · rintro ⟨claim, removed, hashed, made, rfl⟩
    exact ⟨claim, hashed, removed, made, rfl⟩
  · rintro ⟨claim, hashed, removed, made, rfl⟩
    exact ⟨claim, removed, hashed, made, rfl⟩

/-- The root hash fits, every statement is opened by its nonce, and so it is in all legitimations.
-/
structure Intact (c : SaltedCredential) : Prop where
  root : rootHashOf c.claimHashes (c.legitimations.map (·.rootHash)) c.delegationId = c.rootHash
  opened : ∀ s ∈ c.claim.statements, ∃ nonce, c.nonces.get? s.digest = some nonce
    ∧ saltedHash nonce s ∈ c.claimHashes
  legitimations : ∀ l ∈ c.legitimations, l.verifyIntegrity = .ok ()

theorem fault?_eq_none_iff (nonces : NonceMap) (hashes : List Hash256) (s : Statement) :
    Claim.fault? nonces hashes s = none
      ↔ ∃ nonce, nonces.get? s.digest = some nonce ∧ saltedHash nonce s ∈ hashes := by
  rw [Claim.fault?]
  cases nonces.get? s.digest <;> simp

theorem verifyDisclosed_ok_iff (claim : Claim) (nonces : NonceMap) (hashes : List Hash256) :
    claim.verifyDisclosed nonces hashes = .ok () ↔ ∀ s ∈ claim.statements,
      ∃ nonce, nonces.get? s.digest = some nonce ∧ saltedHash nonce s ∈ hashes := by
  simp only [← fault?_eq_none_iff, ← List.filterMap_eq_nil_iff, Claim.verifyDisclosed]
  cases claim.statements.filterMap (Claim.fault? nonces hashes) <;> simp

theorem verifyIntegrityAll_ok_iff (cs : List SaltedCredential) :
    verifyIntegrityAll cs = .ok () ↔ ∀ c ∈ cs, c.verifyIntegrity = .ok () := by
  induction cs with
  | nil => simp [verifyIntegrityAll]
  | cons c cs ih => rw [verifyIntegrityAll, Outcome.check_bind_ok_iff, ih, List.forall_mem_cons]

theorem verifyIntegrity_ok_iff (c : SaltedCredential) : c.verifyIntegrity = .ok () ↔ c.Intact := by
  obtain ⟨⟩ := c
  simp only [verifyIntegrity, Outcome.check_bind_ok_iff, verifyDisclosed_ok_iff,
    verifyIntegrityAll_ok_iff, verifyRootHash]
  constructor
  · rintro ⟨root, opened, legitimations⟩
    split at root
    · exact ⟨‹_›, opened, legitimations⟩
    · contradiction
  · rintro ⟨root, opened, legitimations⟩
    exact ⟨if_pos root, opened, legitimations⟩

end SaltedCredential

end SelectiveDisclosure
