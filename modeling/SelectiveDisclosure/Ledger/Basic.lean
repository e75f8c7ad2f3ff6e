import SelectiveDisclosure.Salted.Attestation

/-!
A ledger of attestations in memory. An attestation is an event in a block, which stays, and a
current record, which can be revoked or removed. Delegation nodes form hierarchies through their
parents.
-/

namespace SelectiveDisclosure

structure AttestationEvent where
  attester : Did
  ctypeHash : Hash256
  authorizationId : Option Hash256
  timestamp : UInt64
  deriving DecidableEq

structure DelegationNode where
  owner : Did
  parent : Option Hash256
  revoked : Bool
  deriving DecidableEq

/-- Events by block and claim hash, current records by claim hash, and delegation nodes. A ledger
that is unavailable keeps its contents and answers no query. -/
structure Ledger where
  genesis : Hash256
  events : OrderedMap Hash256 (OrderedMap Hash256 AttestationEvent)
  attestations : OrderedMap Hash256 Attestation
  delegations : OrderedMap Hash256 DelegationNode
  unavailable : Option String
  deriving DecidableEq

namespace Ledger

def new (genesis : Hash256) : Ledger := ⟨genesis, .empty, .empty, .empty, none⟩

def record (l : Ledger) (block : Hash256) (timestamp : UInt64) (a : Attestation) : Ledger :=
  let event : AttestationEvent := {
    attester := a.owner
    ctypeHash := a.ctypeHash
    authorizationId := a.delegationId
    timestamp }
  let inBlock := (l.events.get? block).getD .empty
  { l with
    events := l.events.insert block (inBlock.insert a.claimHash event)
    attestations := l.attestations.insert a.claimHash a }

def revoke (l : Ledger) (claimHash : Hash256) : Ledger × Bool :=
  ({ l with attestations := l.attestations.modify claimHash fun a => { a with revoked := true } },
    l.attestations.contains claimHash)

/-- Removes the current record. Its event stays. -/
def removeAttestation (l : Ledger) (claimHash : Hash256) : Ledger × Option Attestation :=
  ({ l with attestations := l.attestations.erase claimHash }, l.attestations.get? claimHash)

def addDelegation (l : Ledger) (id : Hash256) (node : DelegationNode) : Ledger :=
  { l with delegations := l.delegations.insert id node }

def revokeDelegation (l : Ledger) (id : Hash256) : Ledger × Bool :=
  ({ l with delegations := l.delegations.modify id fun n => { n with revoked := true } },
    l.delegations.contains id)

def setUnavailable (l : Ledger) (reason : String) : Ledger := { l with unavailable := some reason }

def answer {α : Type} (l : Ledger) (found : Option α) : Except LedgerError (Option α) :=
  match l.unavailable with
  | some reason => .error ⟨reason⟩
  | none => .ok found

def eventAt (l : Ledger) (block claimHash : Hash256) :
    Except LedgerError (Option AttestationEvent) :=
  l.answer ((l.events.get? block).bind (·.get? claimHash))

def delegationNode (l : Ledger) (id : Hash256) : Except LedgerError (Option DelegationNode) :=
  l.answer (l.delegations.get? id)

def attestation (l : Ledger) (claimHash : Hash256) : Except LedgerError (Option Attestation) :=
  l.answer (l.attestations.get? claimHash)

end Ledger

end SelectiveDisclosure
