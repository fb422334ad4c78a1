import FilterQuery.Text.CodePoints
import FilterQuery.Text.Blank
import FilterQuery.Text.AlphabeticTable
import FilterQuery.Text.NumberTable
import FilterQuery.Text.Letter
import FilterQuery.Text.InvisibleTable
import FilterQuery.Text.Position
import FilterQuery.Text.Quoted
import FilterQuery.Number.Digits
import FilterQuery.Number.Integer
import FilterQuery.Number.Binary
import FilterQuery.Number.Shortest
import FilterQuery.Number.FloatText
import FilterQuery.Time.Calendar
import FilterQuery.Time.Instant
import FilterQuery.Time.InstantText
import FilterQuery.Operator
import FilterQuery.Grammar.Character
import FilterQuery.Grammar.Attempt
import FilterQuery.Grammar.Phrase
import FilterQuery.Grammar.Rule
import FilterQuery.Grammar.Expression
import FilterQuery.Grammar.Walk
import FilterQuery.Path
import FilterQuery.PropertyType
import FilterQuery.Custom
import FilterQuery.Value
import FilterQuery.Json
import FilterQuery.Json.Place
import FilterQuery.Codec
import FilterQuery.Registry
import FilterQuery.Error
import FilterQuery.Config
import FilterQuery.Schema
import FilterQuery.Node
import FilterQuery.Query
import FilterQuery.Query.Handle
import FilterQuery.Query.Text
import FilterQuery.Query.Typed
import FilterQuery.Query.Shown
import FilterQuery.Query.Stored
import FilterQuery.Record
import FilterQuery.Pattern.DigitTable
import FilterQuery.Pattern.FoldTable
import FilterQuery.Pattern.WordTable
import FilterQuery.Pattern.CharClass
import FilterQuery.Pattern.Regex
import FilterQuery.Pattern.Form
import FilterQuery.Pattern.Places
import FilterQuery.Pattern.Encoding
import FilterQuery.Pattern.Automaton.Tally
import FilterQuery.Pattern.Automaton.Memo
import FilterQuery.Pattern.Automaton.Sets
import FilterQuery.Pattern.Automaton.Words
import FilterQuery.Pattern.Automaton.Build
import FilterQuery.Pattern.Atom
import FilterQuery.Pattern.Bracket
import FilterQuery.Pattern.Item
import FilterQuery.Pattern.Outline
import FilterQuery.Pattern.Compiled
import FilterQuery.Predicate
import FilterQuery.Proofs.Grammar.Reading
import FilterQuery.Proofs.Grammar.Language
import FilterQuery.Proofs.Grammar.Tokens
import FilterQuery.Proofs.Grammar.Soundness
import FilterQuery.Proofs.Grammar.Completeness
import FilterQuery.Proofs.Grammar.Rendering
import FilterQuery.Proofs.Outcome
import FilterQuery.Proofs.Meaning
import FilterQuery.Proofs.History
import FilterQuery.Proofs.Paths
import FilterQuery.Proofs.Typed
import FilterQuery.Proofs.Writing
import FilterQuery.Proofs.RoundTrip
import FilterQuery.Proofs.Codecs
import FilterQuery.Proofs.Loading
import FilterQuery.Proofs.Building
import FilterQuery.Proofs.Normalization
import FilterQuery.Proofs.Brackets
import FilterQuery.Proofs.Pattern.Spans
import FilterQuery.Proofs.Pattern.Matching
import FilterQuery.Proofs.Pattern.Progress
import FilterQuery.Proofs.Pattern.Closing
import FilterQuery.Proofs.Pattern.Readers
import FilterQuery.Proofs.Pattern.Outlines
import FilterQuery.Proofs.Pattern.Framing
import FilterQuery.Proofs.Likeness
import FilterQuery.Proofs.Registration
import FilterQuery.Proofs.TypedReading
import FilterQuery.Proofs.Widths
import FilterQuery.Proofs.Canonical
import FilterQuery.Proofs.Bindings
import FilterQuery.Proofs.Symbols
import FilterQuery.Proofs.Grammar.Slots
import FilterQuery.Proofs.Confinement
import FilterQuery.Proofs.Combining
import FilterQuery.Proofs.Resolution
import FilterQuery.Proofs.Testing
import FilterQuery.Proofs.Laws
import FilterQuery.Proofs.Faults
import FilterQuery.Proofs.Grammar.Walking
import FilterQuery.Proofs.Grammar.Classification
import FilterQuery.Proofs.Fallback
import FilterQuery.Proofs.Numerals
import FilterQuery.Proofs.Time.Calendar
import FilterQuery.Proofs.Time.Millis
import FilterQuery.Proofs.Time.InstantText
import FilterQuery.Proofs.Selectors
import FilterQuery.Proofs.Rounding
import FilterQuery.Proofs.Ordering
