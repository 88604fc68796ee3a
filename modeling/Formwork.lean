import Formwork.Calendar.Date
import Formwork.Calendar.DateTime
import Formwork.Calendar.Epoch
import Formwork.DateText.Clues
import Formwork.DateText.Parts
import Formwork.DateText.Reader
import Formwork.DateText.Token
import Formwork.DateText.Words
import Formwork.Digest.Sha256
import Formwork.Document.Fault
import Formwork.Document.IntegerText
import Formwork.Document.Reading
import Formwork.Export.JsonSchema
import Formwork.Export.Sample
import Formwork.Form.Basic
import Formwork.Form.Canonical
import Formwork.Form.Check
import Formwork.Form.Cycles
import Formwork.Form.Expectation
import Formwork.Form.Reader
import Formwork.Form.References
import Formwork.Form.Visibility
import Formwork.Form.Words
import Formwork.Http.Basic
import Formwork.Http.Payload
import Formwork.Http.Server
import Formwork.Http.Target
import Formwork.Message.Catalog
import Formwork.Message.Template
import Formwork.Number.Binary64
import Formwork.Number.Count
import Formwork.Number.Literal
import Formwork.Number.Power
import Formwork.Number.Rounding
import Formwork.Number.Shortest
import Formwork.Service.Basic
import Formwork.Service.Cache
import Formwork.Service.Error
import Formwork.Service.Measurement
import Formwork.Service.Metrics
import Formwork.Service.Settings
import Formwork.Submission.Entry
import Formwork.Submission.Format
import Formwork.Submission.Item
import Formwork.Submission.Validator
import Formwork.Submission.Violation
import Formwork.Text.Alphabet
import Formwork.Text.Blank
import Formwork.Text.Digit
import Formwork.Text.Percent
import Formwork.Text.Printable
import Formwork.Text.Quoted
import Formwork.Text.Ranges
import Formwork.Text.Search
import Formwork.Text.Table
import Formwork.Url.Address
import Formwork.Url.Basic
import Formwork.Url.Host
import Formwork.Url.Label
import Formwork.Url.Punycode
import Formwork.Url.Script.Composition
import Formwork.Url.Script.Direction
import Formwork.Url.Script.Excluded
import Formwork.Url.Script.Folding
import Formwork.Url.Script.Joining
import Formwork.Url.Script.Marks
import Formwork.Value.Basic
import Formwork.Value.Entries
import Formwork.Value.Equality
import Formwork.Value.Json
import Formwork.Value.Members
import Formwork.Value.Text
import Formwork.Proofs.Circuits
import Formwork.Proofs.References
import Formwork.Proofs.Tests
import Formwork.Proofs.SearchInvariant
import Formwork.Proofs.CycleSearch
import Formwork.Proofs.Equality
import Formwork.Proofs.WellFormed
import Formwork.Proofs.Attempts
import Formwork.Proofs.Naming
import Formwork.Proofs.Entries
import Formwork.Proofs.RecentUse
import Formwork.Proofs.Transparency
import Formwork.Proofs.Findings
import Formwork.Proofs.Acceptance
import Formwork.Proofs.Soundness
import Formwork.Proofs.Independence
import Formwork.Proofs.Resubmission
import Formwork.Proofs.JsonValues
import Formwork.Proofs.SchemaSemantics
import Formwork.Proofs.Conformance
import Formwork.Proofs.KeyOrder
import Formwork.Proofs.DecimalText
import Formwork.Proofs.LongIntegers
import Formwork.Proofs.ShortestDecimals
import Formwork.Proofs.CanonicalText
import Formwork.Proofs.Encoding
import Formwork.Proofs.Readings
import Formwork.Proofs.Respelling
import Formwork.Proofs.Untold
import Formwork.Proofs.Bookkeeping
import Formwork.Proofs.ShortTexts
import Formwork.Proofs.Operations
import Formwork.Proofs.Writable
import Formwork.Proofs.Answers
import Formwork.Proofs.CycleReports
import Formwork.Proofs.FailedSteps
import Formwork.Proofs.Levels
import Formwork.Proofs.AcceptedForms
import Formwork.Proofs.Rereading
import Formwork.Proofs.Equivalence
import Formwork.Proofs.Shapes
import Formwork.Proofs.Choosing
import Formwork.Proofs.NumericOrder
import Formwork.Proofs.ShownFields
import Formwork.Proofs.RequiredKeys
import Formwork.Proofs.IsoTexts
import Formwork.Proofs.Samples
import Formwork.Proofs.EmailAddresses
import Formwork.Proofs.Wording
import Formwork.Proofs.GivenCache
import Formwork.Proofs.Measurements
import Formwork.Proofs.DayNumbers
import Formwork.Proofs.EpochMilliseconds
import Formwork.Proofs.SearchSteps
import Formwork.Proofs.OptionOrder
import Formwork.Proofs.IntegerTexts
import Formwork.Proofs.NearestUnits
import Formwork.Proofs.WholeWords
