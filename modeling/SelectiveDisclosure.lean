import SelectiveDisclosure.Attested.Commitment
import SelectiveDisclosure.Attested.Credential
import SelectiveDisclosure.Attested.Document
import SelectiveDisclosure.Attested.Issuance
import SelectiveDisclosure.Attested.Proof
import SelectiveDisclosure.Bytes.Base58
import SelectiveDisclosure.Bytes.Fixed
import SelectiveDisclosure.Bytes.Hex
import SelectiveDisclosure.Bytes.Radix
import SelectiveDisclosure.CType
import SelectiveDisclosure.Claim
import SelectiveDisclosure.Command.Arguments
import SelectiveDisclosure.Command.Attested
import SelectiveDisclosure.Command.Config
import SelectiveDisclosure.Command.Host
import SelectiveDisclosure.Command.Program
import SelectiveDisclosure.Command.Salted
import SelectiveDisclosure.Command.Workspace
import SelectiveDisclosure.Decimal.Double
import SelectiveDisclosure.Decimal.Layout
import SelectiveDisclosure.Decimal.Shortest
import SelectiveDisclosure.Digest.Blake2b
import SelectiveDisclosure.Digest.Hash256
import SelectiveDisclosure.Document
import SelectiveDisclosure.Encoding
import SelectiveDisclosure.Error
import SelectiveDisclosure.Identifier.Chain
import SelectiveDisclosure.Identifier.Did
import SelectiveDisclosure.Identifier.Error
import SelectiveDisclosure.Identifier.Hashed
import SelectiveDisclosure.Json.Basic
import SelectiveDisclosure.Json.Decoder
import SelectiveDisclosure.Json.Reader
import SelectiveDisclosure.Json.Selection
import SelectiveDisclosure.Json.Writer
import SelectiveDisclosure.Ledger.Basic
import SelectiveDisclosure.Ledger.Document
import SelectiveDisclosure.Main
import SelectiveDisclosure.OrderedMap
import SelectiveDisclosure.Salted.Attestation
import SelectiveDisclosure.Salted.Credential
import SelectiveDisclosure.Salted.Document
import SelectiveDisclosure.Salted.Hashing
import SelectiveDisclosure.Salted.Nonce
import SelectiveDisclosure.Schema.Basic
import SelectiveDisclosure.Schema.Documents
import SelectiveDisclosure.Statement.Basic
import SelectiveDisclosure.Statement.Expansion
import SelectiveDisclosure.Text.Blank
import SelectiveDisclosure.Text.CombiningClass
import SelectiveDisclosure.Text.Composition
import SelectiveDisclosure.Text.Cut
import SelectiveDisclosure.Text.Extending
import SelectiveDisclosure.Text.Normalization
import SelectiveDisclosure.Text.Printable
import SelectiveDisclosure.Text.Quoted
import SelectiveDisclosure.Timestamp.Basic
import SelectiveDisclosure.Timestamp.Calendar
import SelectiveDisclosure.Timestamp.Reader
import SelectiveDisclosure.Verification
import SelectiveDisclosure.Proofs.MapLookup
import SelectiveDisclosure.Proofs.Outcome
import SelectiveDisclosure.Proofs.StableSort
import SelectiveDisclosure.Proofs.WrittenBytes
import SelectiveDisclosure.Proofs.SchemaMeaning
import SelectiveDisclosure.Proofs.DocumentShape
import SelectiveDisclosure.Proofs.Acceptance
import SelectiveDisclosure.Proofs.Disclosure
import SelectiveDisclosure.Proofs.StatementBinding
import SelectiveDisclosure.Proofs.Presentation
import SelectiveDisclosure.Proofs.TrustBinding
import SelectiveDisclosure.Proofs.SaltedIntegrity
import SelectiveDisclosure.Proofs.PropertyRemoval
import SelectiveDisclosure.Proofs.ComposedText
import SelectiveDisclosure.Proofs.StatementText
import SelectiveDisclosure.Proofs.SaltedBinding
import SelectiveDisclosure.Proofs.SaltedRoots
import SelectiveDisclosure.Proofs.Revocation
import SelectiveDisclosure.Proofs.LaterLedger
import SelectiveDisclosure.Proofs.OneSpelling
import SelectiveDisclosure.Proofs.ProofBinding
import SelectiveDisclosure.Proofs.WorkArea
import SelectiveDisclosure.Proofs.DocumentDecoding
import SelectiveDisclosure.Proofs.Breakdown
import SelectiveDisclosure.Proofs.SaltedDocuments
import SelectiveDisclosure.Proofs.CalendarDays
import SelectiveDisclosure.Proofs.WrittenDates
import SelectiveDisclosure.Proofs.AttestedDocuments
import SelectiveDisclosure.Proofs.CharacterParts
import SelectiveDisclosure.Proofs.MarkOrder
import SelectiveDisclosure.Proofs.SeparatedText
import SelectiveDisclosure.Proofs.StatementContents
import SelectiveDisclosure.Proofs.ClaimAndSubject
import SelectiveDisclosure.Proofs.DecimalRange
import SelectiveDisclosure.Proofs.WrittenNumbers
import SelectiveDisclosure.Proofs.ComposedEscapes
import SelectiveDisclosure.Proofs.ComposedValues
import SelectiveDisclosure.Proofs.StatementReading
import SelectiveDisclosure.Proofs.EquivalentSpelling
import SelectiveDisclosure.Proofs.DisclosedStatements
import SelectiveDisclosure.Proofs.RepeatedDisclosure
import SelectiveDisclosure.Proofs.DelegationWalk
import SelectiveDisclosure.Proofs.RemovalOrder
import SelectiveDisclosure.Proofs.NonceReuse
import SelectiveDisclosure.Proofs.MissingNonces
import SelectiveDisclosure.Proofs.IdentifierSpelling
import SelectiveDisclosure.Proofs.ExpansionFaults
import SelectiveDisclosure.Proofs.QueryOrder
import SelectiveDisclosure.Proofs.SignedYears
import SelectiveDisclosure.Proofs.SchemaIdentity
import SelectiveDisclosure.Proofs.BackedRecords
import SelectiveDisclosure.Proofs.RemovalOutcomes
import SelectiveDisclosure.Proofs.FilledNonces
import SelectiveDisclosure.Proofs.SelectedText
import SelectiveDisclosure.Proofs.LedgerSnapshots
import SelectiveDisclosure.Proofs.IdentifierGrammar
import SelectiveDisclosure.Proofs.QuietCommands
import SelectiveDisclosure.Proofs.UndeliveredCredential
