import DidRegistry.Biography.Basic
import DidRegistry.Biography.Draft
import DidRegistry.Biography.Entry
import DidRegistry.Crypto.Edwards
import DidRegistry.Crypto.Keccak
import DidRegistry.Crypto.Modular
import DidRegistry.Crypto.Rsa
import DidRegistry.Crypto.Sha2
import DidRegistry.Crypto.Weierstrass
import DidRegistry.Document.Basic
import DidRegistry.Document.Current
import DidRegistry.Document.PublicKey
import DidRegistry.Identifier
import DidRegistry.Json.Basic
import DidRegistry.Json.Canonical
import DidRegistry.Json.Entries
import DidRegistry.Json.Equality
import DidRegistry.Json.Literal
import DidRegistry.Json.Reader
import DidRegistry.Json.Whole
import DidRegistry.Ledger.Address
import DidRegistry.Ledger.Answer
import DidRegistry.Ledger.Basic
import DidRegistry.Ledger.Call
import DidRegistry.Ledger.CallData
import DidRegistry.Ledger.Dialogue
import DidRegistry.Ledger.Http
import DidRegistry.Ledger.Quantity
import DidRegistry.Ledger.Rpc
import DidRegistry.Ledger.Standing
import DidRegistry.Number.Basic
import DidRegistry.Number.Binary64
import DidRegistry.Number.Shortest
import DidRegistry.Operation.Basic
import DidRegistry.Operation.Payload
import DidRegistry.Operation.Variety
import DidRegistry.Platform
import DidRegistry.Platform.Usual
import DidRegistry.Publisher.Basic
import DidRegistry.Registry.Basic
import DidRegistry.Registry.Resolver
import DidRegistry.Report
import DidRegistry.Schema
import DidRegistry.Session
import DidRegistry.Settings.Basic
import DidRegistry.Settings.Fees
import DidRegistry.Text.Base58
import DidRegistry.Text.Base64
import DidRegistry.Text.Basic
import DidRegistry.Text.Blank
import DidRegistry.Text.Digit
import DidRegistry.Text.Hex
import DidRegistry.Text.Numeral
import DidRegistry.Text.Pieces
import DidRegistry.Text.Printable
import DidRegistry.Text.Quoted
import DidRegistry.Text.Utf8
import DidRegistry.Text.Wide
import DidRegistry.Time.Calendar
import DidRegistry.Time.Reader
import DidRegistry.Time.Timestamp
import DidRegistry.Token.Algorithm
import DidRegistry.Token.Claims
import DidRegistry.Token.Jws
import DidRegistry.Token.Keys
import DidRegistry.Token.Policy
import DidRegistry.Unicode.CombiningClass
import DidRegistry.Unicode.Composite
import DidRegistry.Unicode.Direction
import DidRegistry.Unicode.Joining
import DidRegistry.Unicode.LowerCase
import DidRegistry.Unicode.Mark
import DidRegistry.Unicode.Normal
import DidRegistry.Unicode.Script
import DidRegistry.Unicode.Table
import DidRegistry.Url.Basic
import DidRegistry.Url.Domain
import DidRegistry.Url.Escape
import DidRegistry.Url.Host
import DidRegistry.Url.Label
import DidRegistry.Url.Numeric
import DidRegistry.Url.Permitted
import DidRegistry.Url.Punycode
import DidRegistry.Proofs.Ledger.Transcript
import DidRegistry.Proofs.Ledger.Submission
import DidRegistry.Proofs.Publisher.Course
import DidRegistry.Proofs.Publisher.Recall
import DidRegistry.Proofs.Outcome
import DidRegistry.Proofs.Number
import DidRegistry.Proofs.Schema
import DidRegistry.Proofs.Settings
import DidRegistry.Proofs.Registry.Resolver
import DidRegistry.Proofs.Session.Turn
import DidRegistry.Proofs.Registry.Guards
import DidRegistry.Proofs.Publisher.Gate
import DidRegistry.Proofs.Session.LastHash
import DidRegistry.Proofs.Session.Admission
import DidRegistry.Proofs.Biography.WellFormed
import DidRegistry.Proofs.Biography.HandedOut
import DidRegistry.Proofs.Token.SigningKey
import DidRegistry.Proofs.Publisher.Documented
import DidRegistry.Proofs.Json.Writable
import DidRegistry.Proofs.Json.RoundTrip
import DidRegistry.Proofs.Ledger.CallData
import DidRegistry.Proofs.Operation.Published
import DidRegistry.Proofs.Biography.Extension
import DidRegistry.Proofs.Biography.Status
import DidRegistry.Proofs.Registry.Writes
import DidRegistry.Proofs.Time.Calendar
import DidRegistry.Proofs.Time.WireText
import DidRegistry.Proofs.Biography.RoundTrip
import DidRegistry.Proofs.Biography.NormalForm
import DidRegistry.Proofs.Biography.Construction
import DidRegistry.Proofs.Ledger.Answer
import DidRegistry.Proofs.Ledger.Quantity
import DidRegistry.Proofs.Publisher.Quantities
import DidRegistry.Proofs.Biography.Refusal
import DidRegistry.Proofs.Registry.Resolution
import DidRegistry.Proofs.Token.Acceptance
import DidRegistry.Proofs.Ledger.Spelling
import DidRegistry.Proofs.Publisher.Publishable
import DidRegistry.Proofs.Ledger.Interleaving
import DidRegistry.Proofs.Ledger.Reported
import DidRegistry.Proofs.Registry.Phases
import DidRegistry.Proofs.Registry.Overlap
import DidRegistry.Proofs.Session.Numbering
import DidRegistry.Proofs.Text.Utf8
import DidRegistry.Proofs.Ledger.Layout
import DidRegistry.Proofs.Json.Order
import DidRegistry.Proofs.Json.Unambiguous
import DidRegistry.Proofs.Json.Nesting
import DidRegistry.Proofs.Text.Base64
import DidRegistry.Proofs.Operation.Documents
import DidRegistry.Proofs.Text.Unpadded
import DidRegistry.Proofs.Biography.Paging
import DidRegistry.Proofs.Biography.CurrentDocument
import DidRegistry.Proofs.Biography.Freezing
import DidRegistry.Proofs.Biography.TransactionHash
import DidRegistry.Proofs.Document.Lookup
import DidRegistry.Proofs.Token.KeyMaterial
import DidRegistry.Proofs.Identifier.Grammar
import DidRegistry.Proofs.Biography.Subject
import DidRegistry.Proofs.Text.Padding
import DidRegistry.Proofs.Json.Room
import DidRegistry.Proofs.Json.Edit
import DidRegistry.Proofs.Biography.Payload
import DidRegistry.Proofs.Biography.Corruption
import DidRegistry.Proofs.Token.Warrant
import DidRegistry.Proofs.Json.Keys
import DidRegistry.Proofs.Json.Equality
import DidRegistry.Proofs.Token.RequiredClaims
import DidRegistry.Proofs.Number.Range
import DidRegistry.Proofs.Settings.Closed
import DidRegistry.Proofs.Document.Reading
import DidRegistry.Proofs.Text.Numeral
import DidRegistry.Proofs.Ledger.Quantity.Forms
import DidRegistry.Proofs.Ledger.Quantity.Shortest
import DidRegistry.Proofs.Document.KeyNumbers
