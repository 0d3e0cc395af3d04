import FieldGuide.Aggregation
import FieldGuide.Application
import FieldGuide.Calendar.Date
import FieldGuide.Calendar.DateLetters
import FieldGuide.Calendar.Iso
import FieldGuide.Calendar.Moment
import FieldGuide.Calendar.Names
import FieldGuide.Calendar.Pattern
import FieldGuide.Catalogue
import FieldGuide.Checksum
import FieldGuide.Console.Arguments
import FieldGuide.Console.EscapeSequence
import FieldGuide.Console.Log
import FieldGuide.Console.Palette
import FieldGuide.Console.Report
import FieldGuide.Console.Session
import FieldGuide.Console.Usage
import FieldGuide.DatePhrase.Reading
import FieldGuide.DatePhrase.Resolution
import FieldGuide.DatePhrase.Token
import FieldGuide.Description
import FieldGuide.Document
import FieldGuide.Effects
import FieldGuide.Entry
import FieldGuide.ExampleChoice
import FieldGuide.Input
import FieldGuide.Interruption
import FieldGuide.Json
import FieldGuide.Kind
import FieldGuide.Main
import FieldGuide.Noun
import FieldGuide.Number.Binary
import FieldGuide.Number.Figures
import FieldGuide.Number.Numeral
import FieldGuide.Parameters
import FieldGuide.Row
import FieldGuide.Rule
import FieldGuide.RuleError
import FieldGuide.Sample
import FieldGuide.Sampler
import FieldGuide.Stream
import FieldGuide.Stream.Block
import FieldGuide.Template
import FieldGuide.Text.CodeRange
import FieldGuide.Text.Letter
import FieldGuide.Text.LowerCase
import FieldGuide.Text.Quoted
import FieldGuide.Text.Space
import FieldGuide.Trace
import FieldGuide.Vocabulary
import FieldGuide.Wording
import FieldGuide.Zone
import FieldGuide.Proofs.Drawing
import FieldGuide.Proofs.Rendering
import FieldGuide.Proofs.Reading
import FieldGuide.Proofs.Findings
import FieldGuide.Proofs.Accounts
import FieldGuide.Proofs.Steps
import FieldGuide.Proofs.Runs
import FieldGuide.Proofs.Deletion
import FieldGuide.Proofs.Explanation
import FieldGuide.Proofs.Interruptions
import FieldGuide.Proofs.QuotedRows
import FieldGuide.Proofs.PipedRules
import FieldGuide.Proofs.Contributions
import FieldGuide.Proofs.Digits
import FieldGuide.Proofs.Composition
import FieldGuide.Proofs.Counterparts
import FieldGuide.Proofs.Seeds
import FieldGuide.Proofs.Surroundings
import FieldGuide.Proofs.Supplying
import FieldGuide.Proofs.Overrides
import FieldGuide.Proofs.JsonReading
import FieldGuide.Proofs.JsonRoundTrip
import FieldGuide.Proofs.Decoding
import FieldGuide.Proofs.FieldArguments
import FieldGuide.Proofs.Documents
import FieldGuide.Proofs.InsertionOrder
import FieldGuide.Proofs.RowText
import FieldGuide.Proofs.DayNumbers
import FieldGuide.Proofs.DateLetters
import FieldGuide.Proofs.LogLines
import FieldGuide.Proofs.Verbosity
import FieldGuide.Proofs.LogAndTrace
import FieldGuide.Proofs.NumericBounds
import FieldGuide.Proofs.DigitCounts
import FieldGuide.Proofs.Rounding
import FieldGuide.Proofs.Decimals
import FieldGuide.Proofs.Uniformity
import FieldGuide.Proofs.Placeholders
import FieldGuide.Proofs.WrittenDates
import FieldGuide.Proofs.DaySteps
import FieldGuide.Proofs.DateBounds
import FieldGuide.Proofs.Trimming
import FieldGuide.Proofs.Phrases
import FieldGuide.Proofs.SmallLetters
import FieldGuide.Proofs.Spellings
import FieldGuide.Proofs.Dialects
import FieldGuide.Proofs.Chunks
import FieldGuide.Proofs.BundledTemplates
import FieldGuide.Proofs.SampleTexts
import FieldGuide.Proofs.ControlCharacters
import FieldGuide.Proofs.ShownTexts
import FieldGuide.Proofs.ColourOptions
import FieldGuide.Proofs.Colours
import FieldGuide.Proofs.Widths
import FieldGuide.Proofs.MonthLengths
