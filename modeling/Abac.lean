import Abac.Attribute
import Abac.Bag
import Abac.CharSet
import Abac.Combining.Algorithm
import Abac.Combining.Child
import Abac.Combining.SoleMatch
import Abac.Combining.Standard
import Abac.Combining.Standing
import Abac.Combining.Survey
import Abac.Combining.Surveys
import Abac.Context
import Abac.DataType
import Abac.Decision
import Abac.Document.Basic
import Abac.Document.Config
import Abac.Document.Request
import Abac.Document.Result
import Abac.Document.Status
import Abac.Document.Summary
import Abac.Double
import Abac.Double.Printer
import Abac.Double.Reader
import Abac.Engine
import Abac.Expression
import Abac.Expression.Eval
import Abac.Function
import Abac.Function.Arguments
import Abac.Function.Complaint
import Abac.Function.FirstOrder
import Abac.Function.PatternCache
import Abac.Function.Quantified
import Abac.Function.Registered
import Abac.Function.Sets
import Abac.Identifier
import Abac.Json
import Abac.Json.Printer
import Abac.Json.Reader
import Abac.Json.Record
import Abac.Name.Distinguished
import Abac.Name.Mailbox
import Abac.Network.Address
import Abac.Network.Endpoint
import Abac.Network.Port
import Abac.Obligation
import Abac.Outcome
import Abac.Pattern
import Abac.Pattern.Build
import Abac.Pattern.Compile
import Abac.Pattern.Encoding
import Abac.Pattern.Form
import Abac.Pattern.Meaning
import Abac.Pattern.Property
import Abac.Pattern.ReadError
import Abac.Pattern.Reader
import Abac.Pattern.Search
import Abac.Pattern.Size
import Abac.Policy.Frame
import Abac.Policy.Node
import Abac.Policy.Policy
import Abac.Policy.PolicySet
import Abac.Policy.Report
import Abac.Policy.Rule
import Abac.Proofs.Contribution
import Abac.Proofs.Evaluation
import Abac.Proofs.Grounds
import Abac.Proofs.Merging
import Abac.Proofs.Overrides
import Abac.Proofs.Provenance
import Abac.Proofs.Related
import Abac.Proofs.Reports
import Abac.Proofs.Resolution
import Abac.Proofs.Tree
import Abac.Registry
import Abac.Result
import Abac.Run
import Abac.Status
import Abac.Surroundings
import Abac.Target
import Abac.Temporal.Calendar
import Abac.Temporal.Duration
import Abac.Temporal.Field
import Abac.Temporal.Offset
import Abac.Temporal.Zoned
import Abac.Text.Base64
import Abac.Text.Blank
import Abac.Text.Cut
import Abac.Text.Hex
import Abac.Text.Numeral
import Abac.Text.Octets
import Abac.Unicode.Break
import Abac.Unicode.Case
import Abac.Unicode.Category
import Abac.Unicode.Edition
import Abac.Unicode.Folding
import Abac.Unicode.Letter
import Abac.Unicode.Property
import Abac.Unicode.PropertyTable
import Abac.Unicode.Script
import Abac.Unicode.ScriptExtension
import Abac.Unicode.Table
import Abac.Unicode.Word
import Abac.Value
import Abac.Value.Text
import Abac.Version
import Abac.Word
import Abac.Proofs.Targets
import Abac.Proofs.Ends
import Abac.Proofs.Returns
import Abac.Proofs.Typing
import Abac.Proofs.Combination
import Abac.Proofs.Coherence
import Abac.Proofs.Listing
import Abac.Proofs.Untracked
import Abac.Proofs.Flattening
import Abac.Proofs.Numerals
import Abac.Proofs.Fields
import Abac.Proofs.TemporalText
import Abac.Proofs.CanonicalText
import Abac.Proofs.Addresses
import Abac.Proofs.Encodings
import Abac.Proofs.Endpoints
import Abac.Proofs.Symmetry
import Abac.Proofs.Variables
import Abac.Proofs.Safety
import Abac.Proofs.Surroundings
import Abac.Proofs.Agreement
import Abac.Proofs.Relevance
import Abac.Proofs.Observation
import Abac.Proofs.Tracing
import Abac.Policy.Call
import Abac.Proofs.Transparency
import Abac.Proofs.Definedness
import Abac.Proofs.Comparing
import Abac.Proofs.Signatures
import Abac.Proofs.Discipline
import Abac.Proofs.Likeness
import Abac.Proofs.Changes
import Abac.Proofs.History
import Abac.Proofs.Overruling
import Abac.Proofs.EarlierPolicies
import Abac.Proofs.Denotation
import Abac.Proofs.BagSets
import Abac.Proofs.BagOrder
import Abac.Proofs.Multisets
import Abac.Proofs.Orders
import Abac.Proofs.DayNumbers
import Abac.Proofs.Instants
import Abac.Proofs.ClockArcs
import Abac.Proofs.ZoneText
import Abac.Proofs.ZoneSuffixes
import Abac.Proofs.Quantifiers
import Abac.Proofs.DurationGrammar
import Abac.Proofs.DayTimeGrammar
import Abac.Proofs.DurationText
import Abac.Proofs.Spans
import Abac.Proofs.Versions
import Abac.Proofs.EscapedPieces
import Abac.Proofs.NameGrammar
import Abac.Proofs.LetterCase
import Abac.Proofs.NameNormalForm
import Abac.Proofs.NameTexts
import Abac.Proofs.NameEquality
import Abac.Proofs.PortRanges
import Abac.Proofs.MailboxPatterns
import Abac.Proofs.SoleMatches
import Abac.Proofs.FirstDecisions
import Abac.Proofs.Sources
import Abac.Proofs.PatternMemory
import Abac.Proofs.Scanners
