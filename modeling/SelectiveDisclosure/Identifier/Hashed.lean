import SelectiveDisclosure.Digest.Hash256
import SelectiveDisclosure.Identifier.Error
import SelectiveDisclosure.Text.Cut

namespace SelectiveDisclosure

structure CTypeId where
  hash : Hash256
  deriving DecidableEq

namespace CTypeId

def head : String := "kilt:ctype:"

def toString (id : CTypeId) : String := head ++ id.hash.toHex

def parse (value : String) : Except IdentifierError CTypeId :=
  match Text.behind? head value with
  | some hex => ((Hash256.ofHex hex).map CTypeId.mk).mapError .encoding
  | none => .error (.ctypeId value)

def vocabulary (id : CTypeId) : String := id.toString ++ "#"

instance : ToString CTypeId := ⟨toString⟩

end CTypeId

structure CredentialId where
  rootHash : Hash256
  deriving DecidableEq

namespace CredentialId

def head : String := "kilt:credential:"

def toString (id : CredentialId) : String := head ++ id.rootHash.toBase58

def parse (value : String) : Except IdentifierError CredentialId :=
  match Text.behind? head value with
  | some digits => ((Hash256.ofBase58 digits).map CredentialId.mk).mapError .encoding
  | none => .error (.credentialId value)

instance : ToString CredentialId := ⟨toString⟩

end CredentialId

structure DelegationId where
  nodeId : Hash256
  deriving DecidableEq

namespace DelegationId

def head : String := "kilt:delegation/"

def toString (id : DelegationId) : String := head ++ id.nodeId.toBase58

def parse (value : String) : Except IdentifierError DelegationId :=
  match Text.behind? head value with
  | some digits => ((Hash256.ofBase58 digits).map DelegationId.mk).mapError .encoding
  | none => .error (.delegationId value)

instance : ToString DelegationId := ⟨toString⟩

end DelegationId

end SelectiveDisclosure
