import ValueSpec.Arity
import ValueSpec.BuildError
import ValueSpec.Call
import ValueSpec.Catalog
import ValueSpec.Check
import ValueSpec.Code
import ValueSpec.Command
import ValueSpec.CommandLine.Line
import ValueSpec.CommandLine.Word
import ValueSpec.Fault
import ValueSpec.Field
import ValueSpec.Glyph
import ValueSpec.Json
import ValueSpec.Leaf
import ValueSpec.Log
import ValueSpec.Main
import ValueSpec.Net.Address
import ValueSpec.Net.Email
import ValueSpec.Net.Hostname
import ValueSpec.Net.Url
import ValueSpec.Number.Binary64
import ValueSpec.Number.Bound
import ValueSpec.Number.Decimal
import ValueSpec.Number.Integer
import ValueSpec.Number.Numeral
import ValueSpec.Params
import ValueSpec.Pattern
import ValueSpec.Pattern.CharSet
import ValueSpec.Pattern.Error
import ValueSpec.Pattern.Matcher
import ValueSpec.Pattern.Reader
import ValueSpec.Pattern.Source
import ValueSpec.Pattern.StrictEnd
import ValueSpec.Pattern.Syntax
import ValueSpec.PatternArgument
import ValueSpec.Proofs.Arguments
import ValueSpec.Proofs.Blame
import ValueSpec.Proofs.Brackets
import ValueSpec.Proofs.Building
import ValueSpec.Proofs.Calls
import ValueSpec.Proofs.Complaints
import ValueSpec.Proofs.Consumers
import ValueSpec.Proofs.Decimals
import ValueSpec.Proofs.Decoding
import ValueSpec.Proofs.Depths
import ValueSpec.Proofs.Derived
import ValueSpec.Proofs.Documents
import ValueSpec.Proofs.Equality
import ValueSpec.Proofs.Escaping
import ValueSpec.Proofs.Evaluation
import ValueSpec.Proofs.Events
import ValueSpec.Proofs.Faults
import ValueSpec.Proofs.Json.Grammar
import ValueSpec.Proofs.Json.Lines
import ValueSpec.Proofs.Json.Writing
import ValueSpec.Proofs.Layouts
import ValueSpec.Proofs.Leaves
import ValueSpec.Proofs.Locales
import ValueSpec.Proofs.Messages
import ValueSpec.Proofs.Nesting
import ValueSpec.Proofs.Net.Hostnames
import ValueSpec.Proofs.Net.MailAddresses
import ValueSpec.Proofs.NumeralGrammar
import ValueSpec.Proofs.Numerals
import ValueSpec.Proofs.Outlines
import ValueSpec.Proofs.Pattern.Ends
import ValueSpec.Proofs.Pattern.Languages
import ValueSpec.Proofs.Pattern.Limits
import ValueSpec.Proofs.Pattern.Literals
import ValueSpec.Proofs.Pattern.Notations
import ValueSpec.Proofs.Pattern.Pairs
import ValueSpec.Proofs.Pattern.Places
import ValueSpec.Proofs.Placeholders
import ValueSpec.Proofs.Ranges
import ValueSpec.Proofs.Refusals
import ValueSpec.Proofs.Refutations
import ValueSpec.Proofs.Rendering
import ValueSpec.Proofs.Scanning
import ValueSpec.Proofs.Segments
import ValueSpec.Proofs.Sizes
import ValueSpec.Proofs.Spellings
import ValueSpec.Proofs.Splitting
import ValueSpec.Proofs.Subtexts
import ValueSpec.Proofs.Suites
import ValueSpec.Proofs.Text
import ValueSpec.Proofs.Unescaped
import ValueSpec.Proofs.Verdicts
import ValueSpec.Registry
import ValueSpec.Rejection
import ValueSpec.Report
import ValueSpec.Session
import ValueSpec.SpecError
import ValueSpec.Splitting
import ValueSpec.Suite
import ValueSpec.Template
import ValueSpec.Template.Error
import ValueSpec.Template.Format
import ValueSpec.Text.Blank
import ValueSpec.Text.Case
import ValueSpec.Text.CharacterName
import ValueSpec.Text.CharacterName.Letters
import ValueSpec.Text.CharacterName.Pictures
import ValueSpec.Text.CharacterName.Signs
import ValueSpec.Text.CodePoint
import ValueSpec.Text.Fields
import ValueSpec.Text.Letter
import ValueSpec.Text.Name
import ValueSpec.Text.Quoted
import ValueSpec.Traced
import ValueSpec.Validator
import ValueSpec.Value
