import SelectiveDisclosure.Proofs.Acceptance

/-!
Walking up a delegation hierarchy. Parents may be missing and may form cycles. A walk visits a
limited number of nodes, and either it ends at the top, or it fails: at a missing node, or because
the nodes that it may visit do not lead to the top. A named list of delegators is confirmed only by
a walk that ends at the top and meets exactly these owners.
-/

namespace SelectiveDisclosure

/-- The nodes that are met on the way up from a place in a hierarchy, and the place they lead to. -/
inductive Climbs (l : Ledger) : Option Hash256 → List DelegationNode → Option Hash256 → Prop where
  | stay {place : Option Hash256} : Climbs l place [] place
  | up {id : Hash256} {node : DelegationNode} {nodes : List DelegationNode}
      {place : Option Hash256} (found : l.delegations.get? id = some node)
      (above : Climbs l node.parent nodes place) : Climbs l (some id) (node :: nodes) place

namespace Climbs

variable {l : Ledger}

theorem append {start middle stop : Option Hash256} {nodes others : List DelegationNode}
    (first : Climbs l start nodes middle) (second : Climbs l middle others stop) :
    Climbs l start (nodes ++ others) stop := by
  induction first with
  | stay => exact second
  | up found _ ih => exact .up found (ih second)

theorem exists_above {id : Hash256} {loop : List DelegationNode}
    (cycle : Climbs l (some id) loop (some id)) (nonempty : loop ≠ []) :
    ∃ node next others, l.delegations.get? id = some node ∧ node.parent = some next
      ∧ Climbs l (some next) others (some next) ∧ others ≠ [] := by
  cases cycle with
  | stay => contradiction
  | @up _ node nodes _ found above =>
    cases parent : node.parent with
    | none =>
      rw [parent] at above
      cases above
    | some next =>
      have around := above.append (.up found .stay)
      rw [parent] at around
      exact ⟨node, next, nodes ++ [node], found, parent, around, by simp⟩

theorem exists_on_cycle {id : Hash256} {loop : List DelegationNode}
    (cycle : Climbs l (some id) loop (some id)) (nonempty : loop ≠ []) (count : Nat) :
    ∃ nodes next, nodes.length = count ∧ Climbs l (some id) nodes (some next) := by
  induction count generalizing id loop with
  | zero => exact ⟨[], id, rfl, .stay⟩
  | succ count ih =>
    obtain ⟨node, above, others, found, parent, around, more⟩ := exists_above cycle nonempty
    obtain ⟨nodes, next, length, climb⟩ := ih around more
    rw [← parent] at climb
    exact ⟨node :: nodes, next, congrArg (· + 1) length, .up found climb⟩

theorem exists_into_cycle {start : Option Hash256} {id : Hash256}
    {before loop : List DelegationNode} (approach : Climbs l start before (some id))
    (cycle : Climbs l (some id) loop (some id)) (nonempty : loop ≠ []) (count : Nat) :
    ∃ nodes next, nodes.length = count ∧ Climbs l start nodes (some next) := by
  induction before generalizing start count with
  | nil =>
    cases approach
    exact exists_on_cycle cycle nonempty count
  | cons node before ih =>
    cases approach with
    | @up first _ _ _ found above =>
      cases count with
      | zero => exact ⟨[], first, rfl, .stay⟩
      | succ count =>
        obtain ⟨nodes, next, length, climb⟩ := ih above count
        exact ⟨node :: nodes, next, congrArg (· + 1) length, .up found climb⟩

end Climbs

inductive WalkFails (l : Ledger) (limit : Nat) (start : Option Hash256) : VerificationError → Prop
    where
  | missing {nodes : List DelegationNode} {id : Hash256} (climb : Climbs l start nodes (some id))
      (near : nodes.length < limit) (absent : l.delegations.get? id = none) :
      WalkFails l limit start (.notFound (.delegationNode id))
  | tooDeep {nodes : List DelegationNode} {id : Hash256} (climb : Climbs l start nodes (some id))
      (far : nodes.length = limit) : WalkFails l limit start (.unverifiable (.hierarchyTooDeep 64))

theorem WalkFails.up {l : Ledger} {limit : Nat} {id : Hash256} {node : DelegationNode}
    {e : VerificationError} (found : l.delegations.get? id = some node)
    (fails : WalkFails l limit node.parent e) : WalkFails l (limit + 1) (some id) e := by
  cases fails with
  | missing climb near absent => exact .missing (.up found climb) (Nat.succ_lt_succ near) absent
  | tooDeep climb far => exact .tooDeep (.up found climb) (congrArg (· + 1) far)

namespace Ledger

variable {l : Ledger}

theorem ancestry_iff (start : Option Hash256) (owners : List Did) :
    Ancestry l start owners ↔ ∃ nodes, Climbs l start nodes none
      ∧ nodes.map (·.owner) = owners := by
  constructor
  · intro ancestry
    induction ancestry with
    | top => exact ⟨[], .stay, rfl⟩
    | up found _ ih =>
      obtain ⟨nodes, climb, rfl⟩ := ih
      exact ⟨_, .up found climb, rfl⟩
  · rintro ⟨nodes, climb, rfl⟩
    induction nodes generalizing start with
    | nil =>
      cases climb
      exact .top
    | cons node nodes ih =>
      cases climb with
      | up found above => exact .up found (ih _ above)

theorem limited_ancestry_iff (start : Option Hash256) (owners : List Did) :
    Ancestry l start owners.reverse ∧ owners.length ≤ 64 ↔ ∃ nodes, Climbs l start nodes none
      ∧ nodes.length ≤ 64 ∧ (nodes.map (·.owner)).reverse = owners := by
  rw [ancestry_iff]
  constructor
  · rintro ⟨⟨nodes, climb, same⟩, short⟩
    refine ⟨nodes, climb, ?_, ?_⟩
    · rwa [← List.length_reverse, ← same, List.length_map] at short
    · rw [same, List.reverse_reverse]
  · rintro ⟨nodes, climb, short, rfl⟩
    rw [List.reverse_reverse, List.length_reverse, List.length_map]
    exact ⟨⟨nodes, climb, rfl⟩, short⟩

theorem fetchNode_missing (available : l.unavailable = none) {id : Hash256}
    (absent : l.delegations.get? id = none) :
    l.fetchNode id = .error (.notFound (.delegationNode id)) := by
  have asked := (ask_answer_ok_iff l).mpr ⟨available, absent⟩
  rw [fetchNode, delegationNode, asked]
  rfl

theorem ownersUpward_up (available : l.unavailable = none) {id : Hash256} {node : DelegationNode}
    (found : l.delegations.get? id = some node) (remaining : Nat) :
    l.ownersUpward (remaining + 1) (some id)
      = (l.ownersUpward remaining node.parent).map (node.owner :: ·) := by
  rw [ownersUpward, (fetchNode_ok_iff available id node).mpr found, Outcome.ok_bind]
  cases l.ownersUpward remaining node.parent <;> rfl

theorem ownersUpward_climb (available : l.unavailable = none) {start place : Option Hash256}
    {nodes : List DelegationNode} (climb : Climbs l start nodes place) (remaining : Nat) :
    l.ownersUpward (nodes.length + remaining) start
      = (l.ownersUpward remaining place).map (nodes.map (·.owner) ++ ·) := by
  induction climb with
  | stay =>
    rw [List.length_nil, Nat.zero_add]
    cases l.ownersUpward remaining _ <;> rfl
  | @up _ _ nodes _ found _ ih =>
    rw [List.length_cons, Nat.add_right_comm, ownersUpward_up available found, ih]
    cases l.ownersUpward remaining _ <;> rfl

theorem ownersUpward_error_iff (available : l.unavailable = none) (limit : Nat)
    (start : Option Hash256) (e : VerificationError) :
    l.ownersUpward limit start = .error e ↔ WalkFails l limit start e := by
  constructor
  · intro failed
    induction limit generalizing start with
    | zero =>
      cases start with
      | none => cases failed
      | some id =>
        cases failed
        exact .tooDeep .stay rfl
    | succ limit ih =>
      cases start with
      | none => cases failed
      | some id =>
        cases found : l.delegations.get? id with
        | none =>
          rw [ownersUpward, fetchNode_missing available found] at failed
          cases failed
          exact .missing .stay (Nat.succ_pos limit) found
        | some node =>
          rw [ownersUpward_up available found, Outcome.map_error_iff] at failed
          exact (ih node.parent failed).up found
  · intro fails
    cases fails with
    | @missing nodes id climb near absent =>
      obtain ⟨more, rfl⟩ := Nat.exists_eq_add_of_lt near
      have walk := ownersUpward_climb available climb (more + 1)
      rw [ownersUpward, fetchNode_missing available absent] at walk
      exact walk
    | @tooDeep nodes id climb far =>
      have walk := ownersUpward_climb available climb 0
      rw [Nat.add_zero, far] at walk
      exact walk

theorem ancestorOwners_error_iff (available : l.unavailable = none) (node : DelegationNode)
    (e : VerificationError) :
    l.ancestorOwners node = .error e ↔ WalkFails l 64 node.parent e := by
  rw [ancestorOwners, Outcome.bind_error_iff, ownersUpward_error_iff available, hierarchyLimit]
  simp only [Outcome.pure_not_error, and_false, exists_false, or_false]

end Ledger

namespace TrustEntry

theorem delegators_confirmed_iff {l : Ledger} (available : l.unavailable = none)
    (event : AttestationEvent) (id : DelegationId) (expected : List Did) (outcome : TrustOutcome) :
    resolveDelegation l event id (some expected) = .ok outcome
      ↔ ∃ node nodes, l.delegations.get? id.nodeId = some node ∧ node.revoked = false
        ∧ event.authorizationId = some id.nodeId ∧ Climbs l node.parent nodes none
        ∧ nodes.length ≤ 64 ∧ (nodes.map (·.owner)).reverse = expected
        ∧ outcome = .delegationVerified id node.owner := by
  rw [resolveDelegation_ok_iff available]
  constructor
  · rintro (_ | _ | @⟨_, _, _, node, found, active, authorized, ancestors⟩)
    obtain ⟨short, ancestry⟩ := ancestors expected rfl
    obtain ⟨nodes, climb, near, owners⟩ :=
      (Ledger.limited_ancestry_iff _ _).mp ⟨ancestry, short⟩
    exact ⟨node, nodes, found, active, authorized, climb, near, owners, rfl⟩
  · rintro ⟨node, nodes, found, active, authorized, climb, near, owners, rfl⟩
    obtain ⟨ancestry, short⟩ :=
      (Ledger.limited_ancestry_iff _ _).mpr ⟨nodes, climb, near, owners⟩
    refine .delegated found active authorized ?_
    rintro _ ⟨⟩
    exact ⟨short, ancestry⟩

theorem delegators_refused_iff {l : Ledger} (available : l.unavailable = none)
    {event : AttestationEvent} {id : DelegationId} {node : DelegationNode}
    (found : l.delegations.get? id.nodeId = some node) (active : node.revoked = false)
    (authorized : event.authorizationId = some id.nodeId) (expected : List Did)
    (e : VerificationError) : resolveDelegation l event id (some expected) = .error e
      ↔ WalkFails l 64 node.parent e
        ∨ ∃ nodes, Climbs l node.parent nodes none ∧ nodes.length ≤ 64
          ∧ (nodes.map (·.owner)).reverse ≠ expected
          ∧ e = .mismatch .delegators (showDids expected)
            (showDids (nodes.map (·.owner)).reverse) := by
  rw [resolveDelegation, (Ledger.fetchNode_ok_iff available _ node).mpr found, Outcome.ok_bind]
  simp only [Outcome.refuse_error_iff, Outcome.bind_error_iff, Outcome.pure_not_error, active,
    authorized, Bool.false_eq_true, ne_eq, not_true_eq_false, not_false_eq_true, false_and,
    true_and, false_or, and_false, or_false, Ledger.ancestorOwners_error_iff available,
    Ledger.ancestorOwners_ok_iff available, Ledger.limited_ancestry_iff]
  refine or_congr Iff.rfl ⟨?_, ?_⟩
  · rintro ⟨_, ⟨nodes, climb, near, rfl⟩, others, rfl⟩
    exact ⟨nodes, climb, near, others, rfl⟩
  · rintro ⟨nodes, climb, near, others, rfl⟩
    exact ⟨_, ⟨nodes, climb, near, rfl⟩, others, rfl⟩

end TrustEntry

namespace VerifiableCredential

/-- The delegators that an entry names are confirmed exactly when the node stands, authorized the
attestation, and leads to the top through at most 64 nodes that belong to the delegators, the top
first. For a node that stands and authorized the attestation, everything else is refused for one
of three reasons: an ancestor among the first 64 is missing, the 64th has a parent, as on every
cycle, or the owners are others. -/
theorem delegators_confirmed_exactly (l : Ledger) (available : l.unavailable = none)
    (event : AttestationEvent) (id : DelegationId) (expected : List Did) :
    (∀ outcome, resolveEntry l event (.delegation id (some expected)) = .ok outcome
      ↔ ∃ node nodes, l.delegations.get? id.nodeId = some node ∧ node.revoked = false
        ∧ event.authorizationId = some id.nodeId ∧ Climbs l node.parent nodes none
        ∧ nodes.length ≤ 64 ∧ (nodes.map (·.owner)).reverse = expected
        ∧ outcome = .delegationVerified id node.owner)
    ∧ ∀ node, l.delegations.get? id.nodeId = some node → node.revoked = false →
      event.authorizationId = some id.nodeId →
      (∀ e, resolveEntry l event (.delegation id (some expected)) = .error e
        ↔ WalkFails l 64 node.parent e
          ∨ ∃ nodes, Climbs l node.parent nodes none ∧ nodes.length ≤ 64
            ∧ (nodes.map (·.owner)).reverse ≠ expected
            ∧ e = .mismatch .delegators (TrustEntry.showDids expected)
              (TrustEntry.showDids (nodes.map (·.owner)).reverse))
      ∧ ∀ before loop place, Climbs l node.parent before (some place) →
        Climbs l (some place) loop (some place) → loop ≠ [] →
        resolveEntry l event (.delegation id (some expected))
          = .error (.unverifiable (.hierarchyTooDeep 64)) := by
  rw [resolveEntry]
  constructor
  · exact TrustEntry.delegators_confirmed_iff available event id expected
  · intro node found active authorized
    have refused := TrustEntry.delegators_refused_iff available found active authorized expected
    refine ⟨refused, ?_⟩
    intro before loop place approach cycle nonempty
    obtain ⟨nodes, next, far, climb⟩ := approach.exists_into_cycle cycle nonempty 64
    exact (refused _).mpr (.inl (.tooDeep climb far))

def nodeAt (number : UInt8) : Hash256 := ⟨number :: List.replicate 31 0, rfl⟩

def rootDid : Did := ⟨"did:kilt:root", by decide⟩

def middleDid : Did := ⟨"did:kilt:middle", by decide⟩

def leafDid : Did := ⟨"did:kilt:leaf", by decide⟩

/-- A hierarchy of three nodes, a cycle of two, and a node without its parent. -/
def delegationGraph : Ledger :=
  { Ledger.new (nodeAt 0) with
    delegations := OrderedMap.ofList [
      (nodeAt 1, ⟨rootDid, none, false⟩),
      (nodeAt 2, ⟨middleDid, some (nodeAt 1), false⟩),
      (nodeAt 3, ⟨leafDid, some (nodeAt 2), false⟩),
      (nodeAt 4, ⟨leafDid, some (nodeAt 5), false⟩),
      (nodeAt 5, ⟨middleDid, some (nodeAt 4), false⟩),
      (nodeAt 6, ⟨leafDid, some (nodeAt 9), false⟩)] }

def authorizedBy (number : UInt8) : AttestationEvent where
  attester := leafDid
  ctypeHash := nodeAt 0
  authorizationId := some (nodeAt number)
  timestamp := 0

theorem climb_in_hierarchy : Climbs delegationGraph (some (nodeAt 2))
    [⟨middleDid, some (nodeAt 1), false⟩, ⟨rootDid, none, false⟩] none :=
  .up rfl (.up rfl .stay)

theorem climb_on_cycle : Climbs delegationGraph (some (nodeAt 5))
    [⟨middleDid, some (nodeAt 4), false⟩, ⟨leafDid, some (nodeAt 5), false⟩] (some (nodeAt 5)) :=
  .up rfl (.up rfl .stay)

theorem walks_in_delegationGraph :
    resolveEntry delegationGraph (authorizedBy 3)
          (.delegation ⟨nodeAt 3⟩ (some [rootDid, middleDid]))
        = .ok (.delegationVerified ⟨nodeAt 3⟩ leafDid)
      ∧ resolveEntry delegationGraph (authorizedBy 3)
          (.delegation ⟨nodeAt 3⟩ (some [middleDid, rootDid]))
        = .error (.mismatch .delegators "[did:kilt:middle, did:kilt:root]"
          "[did:kilt:root, did:kilt:middle]")
      ∧ resolveEntry delegationGraph (authorizedBy 4) (.delegation ⟨nodeAt 4⟩ (some []))
        = .error (.unverifiable (.hierarchyTooDeep 64))
      ∧ resolveEntry delegationGraph (authorizedBy 6) (.delegation ⟨nodeAt 6⟩ (some []))
        = .error (.notFound (.delegationNode (nodeAt 9))) := by
  refine ⟨?_, ?_, ?_, ?_⟩
  · exact ((delegators_confirmed_exactly delegationGraph rfl _ _ _).1 _).mpr
      ⟨_, _, rfl, rfl, rfl, climb_in_hierarchy, by decide, rfl, rfl⟩
  · exact (((delegators_confirmed_exactly delegationGraph rfl _ _ _).2 _ rfl rfl rfl).1 _).mpr
      (.inr ⟨_, climb_in_hierarchy, by decide, by decide, rfl⟩)
  · exact ((delegators_confirmed_exactly delegationGraph rfl _ _ _).2 _ rfl rfl rfl).2 [] _ _ .stay
      climb_on_cycle nofun
  · exact (((delegators_confirmed_exactly delegationGraph rfl _ _ _).2 _ rfl rfl rfl).1 _).mpr
      (.inl (.missing .stay (by decide) rfl))

end VerifiableCredential

end SelectiveDisclosure
