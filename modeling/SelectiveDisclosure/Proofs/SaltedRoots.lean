import SelectiveDisclosure.Proofs.SaltedBinding

/-!
What the root hash of a salted credential says of its legitimations and its delegation node. It
stands for one list: the claim hashes, then the root hashes of the legitimations, then the
delegation node if there is one. Neither a length nor a mark tells where a group ends. All three
groups are known once two of the boundaries are; otherwise digests may change from one group to the
next as long as the claim hashes ascend.
-/

namespace SelectiveDisclosure

namespace SaltedCredential

def backing (c : SaltedCredential) : List Hash256 :=
  c.legitimations.map (·.rootHash) ++ c.delegationId.toList

theorem leaves_eq (c : SaltedCredential) : c.leaves = c.claimHashes ++ c.backing :=
  List.append_assoc ..

/-- The two byte strings whose digests are compared when two root hashes are. -/
def RootHashed (a b : SaltedCredential) (bytes : List UInt8) : Prop :=
  bytes = a.rootPreimage ∨ bytes = b.rootPreimage

section Structure

structure Structured (c : SaltedCredential) : Prop where
  published : c.claimHashes ≠ []
  ascending : c.claimHashes.Pairwise fun a b => ¬ b < a
  nonces : ∀ e ∈ c.nonces.entries, ¬ e.2.isEmpty
  legitimations : ∀ l ∈ c.legitimations, l.verifyStructure = .ok ()

theorem firstDescent?_eq_none_iff (hashes : List Hash256) :
    firstDescent? hashes = none ↔ hashes.Pairwise fun a b => ¬ b < a := by
  fun_induction firstDescent? hashes with
  | case1 a b rest descends =>
    simp [descends]
  | case2 a b rest level ih =>
    rw [ih, List.pairwise_cons (a := a)]
    constructor
    · intro ascending
      refine ⟨?_, ascending⟩
      intro c later
      rcases List.mem_cons.mp later with rfl | later
      · exact level
      · exact FixedBytes.not_lt_trans level (List.rel_of_pairwise_cons ascending later)
    · exact And.right
  | case3 hashes short =>
    match hashes with
    | [] => simp
    | [a] => simp
    | a :: b :: rest => exact absurd rfl (short a b rest)

theorem verifyStructureAll_ok_iff (cs : List SaltedCredential) :
    verifyStructureAll cs = .ok () ↔ ∀ c ∈ cs, c.verifyStructure = .ok () := by
  induction cs with
  | nil => simp [verifyStructureAll]
  | cons c cs ih => rw [verifyStructureAll, Outcome.check_bind_ok_iff, ih, List.forall_mem_cons]

theorem verifyStructure_ok_iff (c : SaltedCredential) :
    c.verifyStructure = .ok () ↔ c.Structured := by
  obtain ⟨claim, claimHashes, nonces, legitimations, delegationId, rootHash⟩ := c
  have structured : Structured ⟨claim, claimHashes, nonces, legitimations, delegationId, rootHash⟩
      ↔ claimHashes ≠ [] ∧ firstDescent? claimHashes = none
        ∧ nonces.entries.find? (fun e => e.2.isEmpty) = none
        ∧ ∀ l ∈ legitimations, l.verifyStructure = .ok () := by
    rw [firstDescent?_eq_none_iff, List.find?_eq_none]
    constructor
    · rintro ⟨published, ascending, filled, all⟩
      exact ⟨published, ascending, filled, all⟩
    · rintro ⟨published, ascending, filled, all⟩
      exact ⟨published, ascending, filled, all⟩
  rw [verifyStructure, structured]
  simp only [Outcome.refuse_ok_iff, List.isEmpty_iff, ← verifyStructureAll_ok_iff]
  cases firstDescent? claimHashes with
  | some descent => simp [Outcome.bind_ok_iff, Outcome.throw_not_ok]
  | none =>
    cases nonces.entries.find? (fun e => e.2.isEmpty) with
    | some e => simp [Outcome.bind_ok_iff, Outcome.throw_not_ok]
    | none => simp

end Structure

section Boundary

variable {a b : SaltedCredential}

theorem leaves_of_checked (checked : a.verifyIntegrity = .ok ())
    (checked' : b.verifyIntegrity = .ok ()) (same : a.rootHash = b.rootHash)
    (free : CollisionFree (RootHashed a b)) :
    a.claimHashes ++ a.backing = b.claimHashes ++ b.backing := by
  have root := ((verifyIntegrity_ok_iff a).mp checked).root.symm.trans a.rootHashOf_eq
  have root' := ((verifyIntegrity_ok_iff b).mp checked').root.symm.trans b.rootHashOf_eq
  rw [← leaves_eq, ← leaves_eq]
  exact (leaves_of_same_rootHash free root root' same.symm (.inl rfl) (.inr rfl)).symm

/-- The claim hashes show their own end: the digest behind the last of them, if there is one, lies
below it. -/
def Ended (c : SaltedCredential) : Prop :=
  ∀ last ∈ c.claimHashes.getLast?, ∀ next ∈ c.backing.head?, next < last

theorem moved_eq_nil {moved : List Hash256} (ended : a.Ended) (published : a.claimHashes ≠ [])
    (ascending : (a.claimHashes ++ moved).Pairwise fun x y => ¬ y < x)
    (behind : a.backing = moved ++ b.backing) : moved = [] := by
  cases moved with
  | nil => rfl
  | cons next moved =>
    have atLast := List.getLast?_eq_getLast_of_ne_nil published
    have below : next < a.claimHashes.getLast published :=
      ended _ atLast next (by rw [behind]; rfl)
    have order := (List.pairwise_append.mp ascending).2.2 _ (List.getLast_mem published) next
      List.mem_cons_self
    exact absurd below order

/-- Of two cuts of one list the one in front is where digests go over to the claim hashes. -/
theorem exists_moved (leaves : a.claimHashes ++ a.backing = b.claimHashes ++ b.backing)
    (fewer : a.claimHashes.length ≤ b.claimHashes.length) :
    ∃ moved, b.claimHashes = a.claimHashes ++ moved ∧ a.backing = moved ++ b.backing := by
  have shorter : b.backing.length ≤ a.backing.length := by
    have length := congrArg List.length leaves
    rw [List.length_append, List.length_append] at length
    omega
  obtain ⟨moved, behind, front⟩ := exists_between_cuts leaves.symm shorter
  exact ⟨moved, front, behind⟩

theorem cut_of_ended (leaves : a.claimHashes ++ a.backing = b.claimHashes ++ b.backing)
    (structured : b.Structured) (published : a.claimHashes ≠ []) (ended : a.Ended)
    (fewer : a.claimHashes.length ≤ b.claimHashes.length) :
    a.claimHashes = b.claimHashes ∧ a.backing = b.backing := by
  obtain ⟨moved, front, behind⟩ := exists_moved leaves fewer
  have ascending := structured.ascending
  rw [front] at ascending
  obtain rfl := moved_eq_nil ended published ascending behind
  rw [List.append_nil] at front
  exact ⟨front.symm, behind⟩

theorem cut_of_both_ended (leaves : a.claimHashes ++ a.backing = b.claimHashes ++ b.backing)
    (structured : a.Structured) (structured' : b.Structured) (ended : a.Ended) (ended' : b.Ended) :
    a.claimHashes = b.claimHashes ∧ a.backing = b.backing := by
  rcases Nat.le_total a.claimHashes.length b.claimHashes.length with fewer | fewer
  · exact cut_of_ended leaves structured' structured.published ended fewer
  · obtain ⟨front, back⟩ := cut_of_ended leaves.symm structured structured'.published ended' fewer
    exact ⟨front.symm, back.symm⟩

theorem delegation_of_backing (back : a.backing = b.backing)
    (both : a.delegationId.isSome = b.delegationId.isSome) :
    a.legitimations.map (·.rootHash) = b.legitimations.map (·.rootHash)
      ∧ a.delegationId = b.delegationId := by
  have count : a.delegationId.toList.length = b.delegationId.toList.length := by
    rw [Option.length_toList, Option.length_toList, both]
  obtain ⟨roots, nodes⟩ := List.append_inj' back count
  refine ⟨roots, Option.ext ?_⟩
  intro node
  rw [← Option.mem_toList, ← Option.mem_toList, nodes]

theorem cut_of_backing_length (leaves : a.claimHashes ++ a.backing = b.claimHashes ++ b.backing)
    (both : a.delegationId.isSome = b.delegationId.isSome)
    (count : a.legitimations.length = b.legitimations.length) :
    a.claimHashes = b.claimHashes ∧ a.backing = b.backing := by
  refine List.append_inj' leaves ?_
  rw [backing, backing, List.length_append, List.length_append, List.length_map, List.length_map,
    count, Option.length_toList, Option.length_toList, both]

end Boundary

/-- Two salted credentials that pass both checks under one root hash are made of the same digests in
the same order. If one has fewer claim hashes, then those it lacks are the first digests behind
them. The claim hashes agree, and with them the list behind them, if they are equally many or if
both show their own end. If moreover both name a delegation node or neither does, the root hashes of
the legitimations and the delegation node agree; equally many legitimations do for that as well. -/
theorem groups_of_same_root (a b : SaltedCredential) (structured : a.verifyStructure = .ok ())
    (structured' : b.verifyStructure = .ok ()) (checked : a.verifyIntegrity = .ok ())
    (checked' : b.verifyIntegrity = .ok ()) (same : a.rootHash = b.rootHash)
    (free : CollisionFree (RootHashed a b)) :
    a.claimHashes ++ a.backing = b.claimHashes ++ b.backing
      ∧ (a.claimHashes.length ≤ b.claimHashes.length → ∃ moved,
        b.claimHashes = a.claimHashes ++ moved ∧ a.backing = moved ++ b.backing)
      ∧ (a.claimHashes.length = b.claimHashes.length ∨ a.Ended ∧ b.Ended →
        a.claimHashes = b.claimHashes ∧ a.backing = b.backing)
      ∧ (a.delegationId.isSome = b.delegationId.isSome →
        a.legitimations.length = b.legitimations.length
          ∨ a.claimHashes.length = b.claimHashes.length ∨ a.Ended ∧ b.Ended →
        a.claimHashes = b.claimHashes
          ∧ a.legitimations.map (·.rootHash) = b.legitimations.map (·.rootHash)
          ∧ a.delegationId = b.delegationId) := by
  have shape := (verifyStructure_ok_iff a).mp structured
  have shape' := (verifyStructure_ok_iff b).mp structured'
  have leaves := leaves_of_checked checked checked' same free
  have cut : a.claimHashes.length = b.claimHashes.length ∨ a.Ended ∧ b.Ended →
      a.claimHashes = b.claimHashes ∧ a.backing = b.backing := by
    rintro (count | ⟨ended, ended'⟩)
    · exact List.append_inj leaves count
    · exact cut_of_both_ended leaves shape shape' ended ended'
  refine ⟨leaves, exists_moved leaves, cut, ?_⟩
  intro both known
  obtain ⟨front, back⟩ : a.claimHashes = b.claimHashes ∧ a.backing = b.backing := by
    rcases known with count | known
    · exact cut_of_backing_length leaves both count
    · exact cut known
  exact ⟨front, delegation_of_backing back both⟩

section Sample

def highestNode : Hash256 := ⟨255 :: List.replicate 31 255, rfl⟩

def bareHash : Hash256 := saltedHash "salt" ownerStatement

def bareWith (further : List Hash256) (legitimations : List SaltedCredential)
    (delegationId : Option Hash256) : SaltedCredential :=
  { bareCredential with
    claimHashes := bareHash :: further
    legitimations
    delegationId
    rootHash := rootHashOf (bareHash :: further) (legitimations.map (·.rootHash)) delegationId }

theorem bareWith_checked {further : List Hash256} {legitimations : List SaltedCredential}
    {delegationId : Option Hash256} (backed : ∀ l ∈ legitimations, l.verifyIntegrity = .ok ()) :
    (bareWith further legitimations delegationId).verifyIntegrity = .ok () := by
  refine (verifyIntegrity_ok_iff _).mpr ⟨rfl, ?_, backed⟩
  intro s said
  rw [mem_bare_statements.mp said]
  exact ⟨"salt", get?_bare_nonces, List.mem_cons_self⟩

theorem bareWith_structured {further : List Hash256} {legitimations : List SaltedCredential}
    {delegationId : Option Hash256}
    (ascending : (bareHash :: further).Pairwise fun a b => ¬ b < a)
    (backed : ∀ l ∈ legitimations, l.verifyStructure = .ok ()) :
    (bareWith further legitimations delegationId).verifyStructure = .ok () := by
  refine (verifyStructure_ok_iff _).mpr ⟨nofun, ascending, ?_, backed⟩
  rintro ⟨digest, nonce⟩ there
  obtain ⟨_, rfl⟩ := Prod.mk.inj (List.mem_singleton.mp there)
  simp

def highBacker : SaltedCredential := bareWith [] [] (some highestNode)

theorem high_ascending :
    [bareHash, highBacker.rootHash, highestNode].Pairwise fun a b => ¬ b < a := by
  decide +kernel

theorem highBacker_checked : highBacker.verifyIntegrity = .ok () := bareWith_checked nofun

theorem highBacker_structured : highBacker.verifyStructure = .ok () :=
  bareWith_structured (List.pairwise_singleton ..) nofun

def groupedBare : SaltedCredential := bareWith [] [highBacker] (some highestNode)

def ungroupedBare : SaltedCredential := bareWith [highBacker.rootHash, highestNode] [] none

theorem grouped_checked : groupedBare.verifyIntegrity = .ok () :=
  bareWith_checked (List.forall_mem_singleton.mpr highBacker_checked)

theorem grouped_structured : groupedBare.verifyStructure = .ok () :=
  bareWith_structured (List.pairwise_singleton ..)
    (List.forall_mem_singleton.mpr highBacker_structured)

theorem ungrouped_checked : ungroupedBare.verifyIntegrity = .ok () := bareWith_checked nofun

theorem ungrouped_structured : ungroupedBare.verifyStructure = .ok () :=
  bareWith_structured high_ascending nofun

theorem grouped_rootHash : groupedBare.rootHash = ungroupedBare.rootHash := rfl

theorem grouped_collisionFree : CollisionFree (RootHashed groupedBare ungroupedBare) := by
  have one : groupedBare.rootPreimage = ungroupedBare.rootPreimage := rfl
  rintro bytes bytes' (rfl | rfl) (rfl | rfl) _
  · rfl
  · exact one
  · exact one.symm
  · rfl

theorem grouped_digests_moved : ∃ a b : SaltedCredential, a.verifyStructure = .ok ()
    ∧ b.verifyStructure = .ok () ∧ a.verifyIntegrity = .ok () ∧ b.verifyIntegrity = .ok ()
    ∧ a.rootHash = b.rootHash ∧ a.legitimations.length = 1 ∧ a.delegationId.isSome
    ∧ b.claimHashes = a.claimHashes ++ a.backing := by
  obtain ⟨_, moved, _⟩ := groups_of_same_root groupedBare ungroupedBare grouped_structured
    ungrouped_structured grouped_checked ungrouped_checked grouped_rootHash grouped_collisionFree
  obtain ⟨between, front, back⟩ := moved (by decide)
  have all : groupedBare.backing = between := back.trans (List.append_nil _)
  rw [← all] at front
  exact ⟨_, _, grouped_structured, ungrouped_structured, grouped_checked, ungrouped_checked,
    grouped_rootHash, rfl, rfl, front⟩

theorem groups_not_bound : groupedBare.verifyStructure = .ok ()
    ∧ ungroupedBare.verifyStructure = .ok () ∧ groupedBare.verifyIntegrity = .ok ()
    ∧ ungroupedBare.verifyIntegrity = .ok () ∧ groupedBare.rootHash = ungroupedBare.rootHash
    ∧ CollisionFree (RootHashed groupedBare ungroupedBare)
    ∧ groupedBare.claimHashes ≠ ungroupedBare.claimHashes
    ∧ groupedBare.legitimations.map (·.rootHash) ≠ ungroupedBare.legitimations.map (·.rootHash)
    ∧ groupedBare.delegationId ≠ ungroupedBare.delegationId := by
  refine ⟨grouped_structured, ungrouped_structured, grouped_checked, ungrouped_checked,
    grouped_rootHash, grouped_collisionFree, ?_, ?_, nofun⟩
  · intro same
    exact absurd (congrArg List.length same) (by decide)
  · intro same
    exact absurd (congrArg List.length same) (by decide)

end Sample

end SaltedCredential

end SelectiveDisclosure
