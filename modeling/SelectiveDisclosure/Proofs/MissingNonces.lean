import SelectiveDisclosure.Proofs.NonceReuse

namespace SelectiveDisclosure.SaltedCredential

section Sample

open HashedStatements (accentStatement accents_alike countingBytes)

end Sample

end SelectiveDisclosure.SaltedCredential
