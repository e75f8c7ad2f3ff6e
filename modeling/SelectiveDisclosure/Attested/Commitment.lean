import SelectiveDisclosure.Statement.Expansion

namespace SelectiveDisclosure

abbrev Entropy := FixedBytes 36

namespace Commitment

/-- The statements of a subject with their digests, in ascending order of these. -/
def normalizeClaims (subject : OrderedMap String Json) :
    Except ExpansionError (List (Statement × Hash256)) := do
  let expanded ← Expanded.ofSubject subject
  let digested := expanded.statements.map fun s => (s, s.digest)
  return digested.mergeSort fun a b => !(b.2 < a.2)

/-- Entropy is hashed together with the hexadecimal text of the digest. -/
def commitment (entropy : Entropy) (digest : Hash256) : Hash256 :=
  blake2bConcat [entropy.toList, utf8 digest.toHex]

def entropyAt (random : Nat → UInt8) (position : Nat) : Entropy :=
  ⟨List.ofFn fun i : Fin 36 => random (36 * position + i.val), List.length_ofFn⟩

/-- Entropy in the order of the digests, and the commitments in ascending order. -/
structure Committed where
  salts : List Entropy
  commitments : List Hash256

def commit (digests : List Hash256) (random : Nat → UInt8) : Committed :=
  let salts := (List.range digests.length).map (entropyAt random)
  { salts
    commitments := FixedBytes.sort (List.zipWith commitment salts digests) }

def rootHashOf (commitments trustInputs : List Hash256) : Hash256 :=
  blake2bConcat ((commitments ++ trustInputs).map (·.toList))

end Commitment

end SelectiveDisclosure
