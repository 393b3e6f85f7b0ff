import Parlance.Calendar.Date
import Parlance.Catalog.Document
import Parlance.Catalog.Spec
import Parlance.CommandLine
import Parlance.Decimal.Numeral
import Parlance.Decimal.Shortest
import Parlance.Json.Printer
import Parlance.Json.Value
import Parlance.Lexicon.Basic
import Parlance.Lexicon.Edit
import Parlance.Lexicon.Seed
import Parlance.Locale.Detector
import Parlance.Locale.Tag
import Parlance.Main
import Parlance.OrderedMap
import Parlance.Pattern.CharSet
import Parlance.Pattern.Node
import Parlance.Pattern.Parser
import Parlance.Phonetic.Code
import Parlance.Phonetic.Key
import Parlance.Phonetic.Spanish
import Parlance.Proofs.Double.Nearest
import Parlance.Proofs.Double.Order
import Parlance.Proofs.Double.Rounding
import Parlance.Proofs.Double.Share
import Parlance.Proofs.Locale.Choice
import Parlance.Proofs.Pattern.Carrying
import Parlance.Proofs.Pattern.Grouped
import Parlance.Proofs.Pattern.Notation
import Parlance.Proofs.Pattern.Spans
import Parlance.Proofs.Ranking.Exact
import Parlance.Proofs.Ranking.Order
import Parlance.Proofs.Resolver.Cache
import Parlance.Proofs.Resolver.Coherence
import Parlance.Proofs.Resolver.Effects
import Parlance.Proofs.Resolver.Likeness
import Parlance.Proofs.Resolver.Priority
import Parlance.Proofs.Resolver.Recast
import Parlance.Proofs.Resolver.Session
import Parlance.Proofs.Resolver.Totality
import Parlance.Proofs.Resolver.Transparency
import Parlance.Proofs.Resolver.Walk
import Parlance.Proofs.Template.Compilation
import Parlance.Proofs.Template.Faithful
import Parlance.Proofs.Template.Filled
import Parlance.Proofs.Template.FilledWords
import Parlance.Proofs.Template.Layout
import Parlance.Proofs.Template.Parsing
import Parlance.Proofs.Template.Source
import Parlance.Proofs.Text.Normalized
import Parlance.Proofs.Text.Words
import Parlance.Proofs.Unicode.Folding
import Parlance.Ranking.Candidate
import Parlance.Ranking.Capture
import Parlance.Resolver.Basic
import Parlance.Resolver.Report
import Parlance.Resolver.Resolution
import Parlance.Resolver.Resolve
import Parlance.Settings.Basic
import Parlance.Settings.Document
import Parlance.Similarity
import Parlance.Slot.Reading
import Parlance.Slot.Value
import Parlance.Template.Cache
import Parlance.Template.Error
import Parlance.Template.Intent
import Parlance.Template.Unit
import Parlance.Text.Fold
import Parlance.Text.Normalized
import Parlance.Text.Quoted
import Parlance.Text.Words
import Parlance.Toml.Parser
import Parlance.Toml.Tree
import Parlance.Toml.Value
import Parlance.Unicode.Case
import Parlance.Unicode.CaseTable
import Parlance.Unicode.Category
import Parlance.Unicode.CategoryTable
import Parlance.Unicode.Decomposition
import Parlance.Unicode.DecompositionTable
import Parlance.Unicode.Property
import Parlance.Unicode.PropertyTable
import Parlance.Unicode.ScriptTable
import Parlance.Unicode.Table
import Parlance.Wake.Comparison
import Parlance.Wake.Entry
import Parlance.Wake.Gate
import Parlance.Proofs.Double.Arithmetic
import Parlance.Proofs.Ranking.Admission
import Parlance.Proofs.Resolver.Threshold
import Parlance.Proofs.Text.Unwords
import Parlance.Proofs.Wake.Stripping
import Parlance.Proofs.Wake.Best
import Parlance.Proofs.Wake.Widening
import Parlance.Proofs.Wake.Repetition
import Parlance.Proofs.Similarity.Score
import Parlance.Proofs.Unicode.Lowering
import Parlance.Proofs.Text.Lengths
import Parlance.Proofs.Wake.Scores
import Parlance.Proofs.Wake.Verbatim
import Parlance.Proofs.Unicode.Casing
import Parlance.Proofs.Text.Casing
import Parlance.Proofs.Lexicon.Log
import Parlance.Proofs.Lexicon.Export
import Parlance.Proofs.Lexicon.LetterCase
import Parlance.Proofs.Template.Literals
import Parlance.Proofs.Calendar.Written
import Parlance.Proofs.Double.Finite
import Parlance.Proofs.Slot.Decoding
import Parlance.Proofs.Settings.Saved
import Parlance.Proofs.Unicode.Classes
import Parlance.Proofs.Unicode.Hangul
import Parlance.Proofs.Text.Reflected
import Parlance.Proofs.Template.Accepted
import Parlance.Proofs.Text.Spelling
import Parlance.Proofs.Text.Offsets
import Parlance.Proofs.Text.Bare
import Parlance.Proofs.Text.Unaccented
import Parlance.Proofs.Template.Captures
import Parlance.Proofs.Double.Zero
import Parlance.Proofs.Ranking.Places
import Parlance.Proofs.Template.Articles
import Parlance.Proofs.Ranking.Windows
import Parlance.Proofs.Text.Uncased
import Parlance.Proofs.Text.FoldedWords
import Parlance.Proofs.Slot.Respelling
import Parlance.Proofs.Ranking.Reached
import Parlance.Proofs.Template.Grammar
import Parlance.Proofs.Template.Tidy
import Parlance.Proofs.Double.Decimal
import Parlance.Proofs.Slot.Numeral
import Parlance.Proofs.Slot.Ranges
import Parlance.Proofs.Ranking.Numbers
import Parlance.Proofs.Similarity.Measure
import Parlance.Proofs.Phonetic.Twins
import Parlance.Proofs.Locale.Preference
import Parlance.Proofs.Ranking.Confidence
import Parlance.Proofs.Text.NormalForms
