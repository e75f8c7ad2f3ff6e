import SelectiveDisclosure.Digest.Hash256
import SelectiveDisclosure.Identifier.Error
import SelectiveDisclosure.Text.Cut

namespace SelectiveDisclosure

namespace ChainId

def byteCount (cs : List Char) : Nat := (String.ofList cs).utf8ByteSize

def spaceFault? (cs : List Char) : Option IdentifierRule :=
  if byteCount cs < 3 then some .spaceTooShort
  else if 8 < byteCount cs then some .spaceTooLong
  else if cs.all fun c => c.isLower || c.isDigit || c = '-' then none
  else some .spaceCharacters

def referenceFault? (most : Nat) (isAllowed : Char → Bool) (cs : List Char) :
    Option IdentifierRule :=
  if byteCount cs < 1 then some .referenceTooShort
  else if most < byteCount cs then some .referenceTooLong
  else if cs.all isAllowed then none
  else some .referenceCharacters

def isReferenceChar (c : Char) : Bool := c.isAlphanum || c = '-' || c = '_'

def fault? (space reference : List Char) : Option IdentifierRule :=
  (spaceFault? space).or (referenceFault? 32 isReferenceChar reference)

end ChainId

structure ChainId where
  space : String
  reference : String
  faultless : ChainId.fault? space.toList reference.toList = none
  deriving DecidableEq

namespace ChainId

def toString (id : ChainId) : String := id.space ++ ":" ++ id.reference

instance : ToString ChainId := ⟨toString⟩

theorem ext {a b : ChainId} (h : a.space = b.space) (k : a.reference = b.reference) : a = b := by
  cases a; cases b; simp_all

def parse (value : String) : Except IdentifierError ChainId :=
  match Text.cutAt? ':' value.toList with
  | none => .error (.chainId value .chainSeparator)
  | some (space, reference) =>
    match h : fault? space reference with
    | some rule => .error (.chainId value rule)
    | none => .ok ⟨String.ofList space, String.ofList reference, by simpa using h⟩

theorem pair_allowed (b : UInt8) :
    (Hex.pair b).all isReferenceChar ∧ byteCount (Hex.pair b) = 2 := by
  have small : ∀ n < 256, (Hex.pair (UInt8.ofNat n)).all isReferenceChar
      ∧ byteCount (Hex.pair (UInt8.ofNat n)) = 2 := by decide +kernel
  simpa using small b.toNat b.toNat_lt

theorem flatMap_pair_allowed (bytes : List UInt8) :
    (bytes.flatMap Hex.pair).all isReferenceChar
      ∧ byteCount (bytes.flatMap Hex.pair) = 2 * bytes.length := by
  induction bytes with
  | nil => simp [byteCount]
  | cons b bytes ih =>
    obtain ⟨allowed, count⟩ := pair_allowed b
    refine ⟨by simp only [List.flatMap_cons, List.all_append, allowed, ih.1, Bool.and_self], ?_⟩
    have split : byteCount (Hex.pair b ++ bytes.flatMap Hex.pair)
        = byteCount (Hex.pair b) + byteCount (bytes.flatMap Hex.pair) := by
      simp [byteCount]
    rw [List.flatMap_cons, split, count, ih.2, List.length_cons]
    omega

theorem genesis_faultless (genesis : Hash256) :
    fault? "polkadot".toList (Hex.encode (genesis.toList.take 16)).toList = none := by
  obtain ⟨allowed, count⟩ := flatMap_pair_allowed (genesis.toList.take 16)
  have length : (genesis.toList.take 16).length = 16 := by
    rw [List.length_take, genesis.length_eq]; rfl
  have space : spaceFault? "polkadot".toList = none := by decide +kernel
  have reference : referenceFault? 32 isReferenceChar
      ((genesis.toList.take 16).flatMap Hex.pair) = none := by
    simp only [referenceFault?, count, length, allowed]
    decide
  simp only [fault?, space, Hex.encode, String.toList_ofList, Option.none_or, reference]

def ofGenesis (genesis : Hash256) : ChainId :=
  ⟨"polkadot", Hex.encode (genesis.toList.take 16), genesis_faultless genesis⟩

end ChainId

structure AttestationStatusId where
  chain : ChainId
  rootHash : Hash256
  deriving DecidableEq

namespace AttestationStatusId

def assetSpace : String := "kilt"

def assetReference : String := "attestation"

def toString (id : AttestationStatusId) : String :=
  id.chain.toString ++ "/" ++ assetSpace ++ ":" ++ assetReference ++ "/" ++ id.rootHash.toBase58

instance : ToString AttestationStatusId := ⟨toString⟩

def isAssetChar (c : Char) : Bool := c.isAlphanum || c = '-' || c = '.' || c = '%'

def assetFault? (space reference : List Char) : Option IdentifierRule :=
  (ChainId.spaceFault? space).or
    ((ChainId.referenceFault? 64 isAssetChar reference).or
      (if space = assetSpace.toList && reference = assetReference.toList then none
        else some .otherAsset))

/-- The chain part is read before the asset part, and the asset part before the root hash. -/
def parse (value : String) : Except IdentifierError AttestationStatusId := do
  let refuse (rule : IdentifierRule) : Except IdentifierError AttestationStatusId :=
    .error (.assetId value rule)
  match Text.partsAt '/' value.toList with
  | [chain, asset, token] =>
    let chain ← ChainId.parse (String.ofList chain)
    match Text.cutAt? ':' asset with
    | none => refuse .assetSeparator
    | some (space, reference) =>
      match (assetFault? space reference).or (ChainId.referenceFault? 78 isAssetChar token) with
      | some rule => refuse rule
      | none =>
        let rootHash ← (Hash256.ofBase58 (String.ofList token)).mapError .encoding
        return ⟨chain, rootHash⟩
  | _ => refuse .assetShape

end AttestationStatusId

end SelectiveDisclosure
