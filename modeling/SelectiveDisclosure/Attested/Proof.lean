import SelectiveDisclosure.Attested.Commitment
import SelectiveDisclosure.Document

namespace SelectiveDisclosure

structure AttestationProof where
  proofType : String
  block : String
  commitments : List String
  salts : List String
  deriving DecidableEq

namespace AttestationProof

def typeName : String := "KiltAttestationProofV1"

def blockHash (p : AttestationProof) : Verified Hash256 :=
  Verified.ofEncoding (Hash256.ofBase58 p.block)

def decodedCommitments (p : AttestationProof) : Verified (List Hash256) :=
  p.commitments.mapM fun c => Verified.ofEncoding (Hash256.ofBase58 c)

def entropyOfText (s : String) : Except EncodingError Entropy :=
  Base58.decodeText s >>= FixedBytes.ofList 36

def decodedSalts (p : AttestationProof) : Verified (List Entropy) :=
  p.salts.mapM fun s => Verified.ofEncoding (entropyOfText s)

end AttestationProof

end SelectiveDisclosure
