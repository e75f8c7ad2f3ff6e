import SelectiveDisclosure.Schema.Basic

namespace SelectiveDisclosure.Schema

def base58Class : CharClass :=
  [('1', '9'), ('A', 'H'), ('J', 'N'), ('P', 'Z'), ('a', 'k'), ('m', 'z')]

def hexClass : CharClass := [('0', '9'), ('a', 'f'), ('A', 'F')]

def didPattern : Pattern := ⟨"did:", .anything⟩

def credentialIdPattern : Pattern := ⟨"kilt:credential:", .atLeastOne base58Class⟩

def ctypeIdPattern : Pattern := ⟨"kilt:ctype:0x", .exactly 64 hexClass⟩

def texts : List Rule := [.items [.minLength 1, .type .string], .type .array]

def proof : Named where
  name := "kilt-attestation-proof-v1.schema.json"
  rules := [
    .properties [
      ("block", [.type .string]),
      ("commitments", texts),
      ("salt", texts),
      ("type", [.const (.text "KiltAttestationProofV1")])],
    .required ["type", "block", "commitments", "salt"],
    .type .object]

def subject : List Rule := [
  .properties [
    ("@context", [
      .properties [("@vocab", [.type .string])],
      .required ["@vocab"],
      .type .object]),
    ("id", [.pattern didPattern, .type .string])],
  .required ["@context", "id"],
  .type .object]

def trustEntry : List Rule := [
  .properties [
    ("id", [.type .string]),
    ("type", [.enum [.text "KiltAttesterLegitimationV1", .text "KiltAttesterDelegationV1"]])],
  .required ["type", "id"],
  .type .object]

def credential : Named where
  name := "kilt-credential-v1.schema.json"
  rules := [
    .properties [
      ("@context", [
        .minItems 2,
        .leadingItems [
          [.const (.text "https://www.w3.org/2018/credentials/v1")],
          [.const (.text "https://www.kilt.io/contexts/credentials")]],
        .type .array]),
      ("credentialSchema", [
        .properties [
          ("id", [.pattern ctypeIdPattern, .type .string]),
          ("type", [.const (.text "JsonSchema2023")])],
        .required ["id", "type"],
        .type .object]),
      ("credentialStatus", [
        .properties [
          ("id", [.type .string]),
          ("type", [.const (.text "KiltRevocationStatusV1")])],
        .required ["id", "type"],
        .type .object]),
      ("credentialSubject", subject),
      ("federatedTrustModel", [.items trustEntry, .type .array]),
      ("id", [.pattern credentialIdPattern, .type .string]),
      ("issuanceDate", [.type .string]),
      ("issuer", [.pattern didPattern, .type .string]),
      ("nonTransferable", [.const (.truth true)]),
      ("proof", [.required ["type"], .type .object]),
      ("type", [
        .allOf [
          [.contains [.const (.text "VerifiableCredential")]],
          [.contains [.const (.text "KiltCredentialV1")]]],
        .type .array])],
    .required ["@context", "type", "credentialSubject", "credentialSchema", "issuer",
      "nonTransferable"],
    .type .object]

def validateProof (j : Json) : Except SchemaError Unit := proof.validate j

/-- The proof inside a credential is looked at when the credential itself is valid. -/
def validateCredential (j : Json) : Except SchemaError Unit := do
  credential.validate j
  match j.get? "proof" with
  | some p => validateProof p
  | none => return ()

end SelectiveDisclosure.Schema
