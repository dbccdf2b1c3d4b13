import Ritual.Analysis
import Ritual.Canon.Document
import Ritual.Canon.Location
import Ritual.Canon.Rules
import Ritual.Canon.Shipped
import Ritual.Command.Arguments
import Ritual.Command.Run
import Ritual.Compilation
import Ritual.FileTree
import Ritual.Invocation
import Ritual.Json
import Ritual.Language
import Ritual.Lexeme
import Ritual.Line
import Ritual.Log
import Ritual.Log.Filter
import Ritual.Log.Moment
import Ritual.Log.Progress
import Ritual.Main
import Ritual.NameMap
import Ritual.NameSet
import Ritual.Number.Binary64
import Ritual.Number.Shortest
import Ritual.Path
import Ritual.Proofs.Analysis.Gate
import Ritual.Proofs.Analysis.Report
import Ritual.Proofs.Canon.Extension
import Ritual.Proofs.Canon.Invariant
import Ritual.Proofs.Canon.Order
import Ritual.Proofs.Canon.Registration
import Ritual.Proofs.Collections
import Ritual.Proofs.Command.Diagnostics
import Ritual.Proofs.Command.Output
import Ritual.Proofs.Command.Positional
import Ritual.Proofs.Command.Reading
import Ritual.Proofs.Command.TokenDump
import Ritual.Proofs.Command.TokenListing
import Ritual.Proofs.Command.WithoutFlags
import Ritual.Proofs.Compilation.Attribution
import Ritual.Proofs.Compilation.Concatenation
import Ritual.Proofs.Compilation.LetterCase
import Ritual.Proofs.Compilation.LineEndings
import Ritual.Proofs.Compilation.Reconstruction
import Ritual.Proofs.Invocation.RoundTrip
import Ritual.Proofs.Invocation.View
import Ritual.Proofs.Json.Quoted
import Ritual.Proofs.Language.Attribute
import Ritual.Proofs.Language.Tag
import Ritual.Proofs.Lexeme.Agreement
import Ritual.Proofs.Lexeme.Forms
import Ritual.Proofs.Lexeme.Grammar
import Ritual.Proofs.Lexeme.Kind
import Ritual.Proofs.Lexeme.LetterCase
import Ritual.Proofs.Lexeme.LineEndings
import Ritual.Proofs.Lexeme.Scan
import Ritual.Proofs.Line.Collisions
import Ritual.Proofs.Line.Cut
import Ritual.Proofs.Line.Joined
import Ritual.Proofs.Line.LineEndings
import Ritual.Proofs.Line.Requoted
import Ritual.Proofs.Path.Components
import Ritual.Proofs.Path.Normal
import Ritual.Proofs.Path.Place
import Ritual.Proofs.Schema.BlockTypes
import Ritual.Proofs.Schema.Printed
import Ritual.Proofs.Segment.Behind
import Ritual.Proofs.Segment.Body
import Ritual.Proofs.Segment.LineEndings
import Ritual.Proofs.Segment.Rendered
import Ritual.Proofs.Source.Bytes
import Ritual.Proofs.Source.LineEndings
import Ritual.Proofs.Source.Position
import Ritual.Proofs.Store.Files
import Ritual.Proofs.Store.LastWrite
import Ritual.Proofs.Store.Visibility
import Ritual.Proofs.Text.Capitals
import Ritual.Proofs.Text.Idempotence
import Ritual.Proofs.Text.LetterCase
import Ritual.Proofs.Text.OneLine
import Ritual.Proofs.Text.Preimages
import Ritual.Proofs.Text.Quotation
import Ritual.Proofs.Token.Allowed
import Ritual.Proofs.Token.Arrow
import Ritual.Proofs.Token.Behind
import Ritual.Proofs.Token.Blanks
import Ritual.Proofs.Token.Counted
import Ritual.Proofs.Token.Coverage
import Ritual.Proofs.Token.Display
import Ritual.Proofs.Token.LetterCase
import Ritual.Proofs.Token.LineEndings
import Ritual.Proofs.Token.Local
import Ritual.Proofs.Token.Located
import Ritual.Proofs.Token.Tiling
import Ritual.Proofs.Token.Trimmed
import Ritual.Proofs.Tree.Blocks
import Ritual.Proofs.Tree.Joined
import Ritual.Proofs.Tree.OnePass
import Ritual.Proofs.Tree.Relexed
import Ritual.Proofs.Tree.Rendering
import Ritual.Proofs.Tree.Segmentation
import Ritual.Reader
import Ritual.RitualError
import Ritual.Schema
import Ritual.Segment
import Ritual.Source.Bytes
import Ritual.Source.Position
import Ritual.Text.Alphabetic
import Ritual.Text.CaseRuns
import Ritual.Text.CodeRanges
import Ritual.Text.LowerCase
import Ritual.Text.Numeric
import Ritual.Text.Quoted
import Ritual.Text.Shown
import Ritual.Text.UpperCase
import Ritual.Text.WhiteSpace
import Ritual.Text.WordChar
import Ritual.TextStore
import Ritual.Token
import Ritual.Token.Stream
import Ritual.Tree
import Ritual.Violation
import Ritual.Yaml.Cursor
import Ritual.Yaml.Document
import Ritual.Yaml.Node
import Ritual.Yaml.Refusal
import Ritual.Yaml.Resolution
import Ritual.Yaml.Scalar
import Ritual.Yaml.Tag
import Ritual.Yaml.Token
import Ritual.Yaml.Value
