import Casebook.Call
import Casebook.Call.Embedded
import Casebook.Call.Printer
import Casebook.Call.Reader
import Casebook.Candidate
import Casebook.Date
import Casebook.Decimal
import Casebook.Decimal.Reader
import Casebook.Document
import Casebook.Domain
import Casebook.Domain.Standard
import Casebook.DomainError
import Casebook.Double
import Casebook.Entity
import Casebook.Failure
import Casebook.Generator
import Casebook.Guard
import Casebook.Json
import Casebook.Json.Reader
import Casebook.Machine
import Casebook.Office
import Casebook.Pattern
import Casebook.Pattern.Library
import Casebook.Pattern.Reader
import Casebook.Planner
import Casebook.Proofs.Access
import Casebook.Proofs.Store
import Casebook.Registry
import Casebook.Routing
import Casebook.Routing.Keywords
import Casebook.Routing.SwitchPhrase
import Casebook.Session
import Casebook.SessionError
import Casebook.Settings
import Casebook.StateError
import Casebook.Store
import Casebook.Submission
import Casebook.Table
import Casebook.Tally
import Casebook.Text.Alphanumeric
import Casebook.Text.Blank
import Casebook.Text.Casing
import Casebook.Text.CharClass
import Casebook.Text.Literal
import Casebook.Text.Location
import Casebook.Text.Similarity
import Casebook.Text.WordChar
import Casebook.Timer
import Casebook.Uuid
import Casebook.Value
import Casebook.Version
import Casebook.Violation
import Casebook.Vocabulary
import Casebook.Vocabulary.Reference
import Casebook.Vocabulary.Validation
import Casebook.Writer
import Casebook.Yaml
import Casebook.Yaml.Block
import Casebook.Yaml.Cursor
import Casebook.Yaml.Lexer
import Casebook.Yaml.Reader
import Casebook.Yaml.Scalar
import Casebook.Yaml.Tag
import Casebook.Yaml.Token
import Casebook.Proofs.Submission
import Casebook.Proofs.Desk
import Casebook.Proofs.Rejection
import Casebook.Proofs.History
import Casebook.Proofs.Trail
import Casebook.Proofs.Office
import Casebook.Proofs.Approval
import Casebook.Proofs.Replay
import Casebook.Proofs.Routing
import Casebook.Proofs.Dependencies
import Casebook.Proofs.Numeral
import Casebook.Proofs.Tokens
import Casebook.Proofs.Legible
import Casebook.Proofs.Layout
import Casebook.Proofs.RoundTrip
import Casebook.Proofs.Normal
import Casebook.Proofs.Readback
import Casebook.Proofs.Planning
import Casebook.Proofs.Routing.Outcomes
import Casebook.Proofs.Routing.Restriction
import Casebook.Proofs.Fragments
import Casebook.Proofs.Validity
import Casebook.Proofs.Replica
import Casebook.Proofs.Nested
import Casebook.Proofs.Attributes
import Casebook.Proofs.Literals
import Casebook.Proofs.Mirror
import Casebook.Proofs.Mirror.Agreement
import Casebook.Proofs.Registration
import Casebook.Proofs.Commutation
import Casebook.Proofs.Opening
import Casebook.Proofs.Direct
import Casebook.Proofs.Stages
import Casebook.Proofs.Provenance
import Casebook.Proofs.Balance
import Casebook.Proofs.Planning.Feasible
import Casebook.Proofs.Finality
import Casebook.Proofs.Validity.Report
import Casebook.Proofs.Validity.WellFormed
import Casebook.Proofs.Registration.Verdict
import Casebook.Proofs.ShortestPath
import Casebook.Proofs.Planning.Requirements
import Casebook.Proofs.Leftovers
import Casebook.Proofs.Extraction
import Casebook.Proofs.Mentions
import Casebook.Proofs.Routing.Phrases
import Casebook.Proofs.Routing.Switching
import Casebook.Proofs.Runs
import Casebook.Proofs.Routing.Aliases
import Casebook.Proofs.Routing.Keywords
import Casebook.Proofs.TokenEnds
import Casebook.Proofs.TokenRuns
import Casebook.Proofs.Overrides
import Casebook.Proofs.Versions
import Casebook.Proofs.Idleness
import Casebook.Proofs.Faults
import Casebook.Proofs.Concatenation
import Casebook.Proofs.Matching
import Casebook.Proofs.Matching.Search
import Casebook.Proofs.Matching.Constraints
import Casebook.Proofs.Sweeps
