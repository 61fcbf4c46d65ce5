import Vitae.Binary64
import Vitae.CharRef
import Vitae.CharRef.Capitals
import Vitae.CharRef.SmallFromM
import Vitae.CharRef.SmallToL
import Vitae.CharRef.Unclosed
import Vitae.CommandLine.Arguments
import Vitae.CommandLine.Run
import Vitae.Compile
import Vitae.Config.Load
import Vitae.Config.Toml.Moment
import Vitae.Config.Toml.Reader
import Vitae.Config.Toml.Table
import Vitae.Config.Toml.Word
import Vitae.Config.Yaml.Cursor
import Vitae.Config.Yaml.Reader
import Vitae.Config.Yaml.Scalar
import Vitae.Context
import Vitae.Destination
import Vitae.Document
import Vitae.Draft
import Vitae.Editor
import Vitae.Failure
import Vitae.Files
import Vitae.Html
import Vitae.Json.Basic
import Vitae.Json.Display
import Vitae.Json.Reader
import Vitae.Json.Writer
import Vitae.Latex
import Vitae.Log
import Vitae.Main
import Vitae.Markdown.Block
import Vitae.Markdown.Inline
import Vitae.Markdown.Line
import Vitae.Markdown.Reader
import Vitae.Markdown.Record
import Vitae.Markdown.Reference
import Vitae.Markdown.Start
import Vitae.Markdown.Tag
import Vitae.Markdown.Token
import Vitae.Options
import Vitae.Path
import Vitae.Proofs.Attributes
import Vitae.Proofs.CommandLine.Arguments
import Vitae.Proofs.CommandLine.Compiling
import Vitae.Proofs.CommandLine.Failures
import Vitae.Proofs.CommandLine.FirstFailure
import Vitae.Proofs.CommandLine.Halves
import Vitae.Proofs.CommandLine.Run
import Vitae.Proofs.CommandLine.Stages
import Vitae.Proofs.Compile
import Vitae.Proofs.Document
import Vitae.Proofs.Editor.Grammar
import Vitae.Proofs.Editor.Lenient
import Vitae.Proofs.Editor.RoundTrip
import Vitae.Proofs.Editor.Strict
import Vitae.Proofs.Faults
import Vitae.Proofs.Files
import Vitae.Proofs.Html.Escape
import Vitae.Proofs.Html.EscapedSource
import Vitae.Proofs.Html.Rendering
import Vitae.Proofs.Html.Scanner
import Vitae.Proofs.Json.Atoms
import Vitae.Proofs.Json.Halves
import Vitae.Proofs.Json.RoundTrip
import Vitae.Proofs.Json.Values
import Vitae.Proofs.Latex.Argument
import Vitae.Proofs.Latex.BlankLines
import Vitae.Proofs.Latex.ClosingUp
import Vitae.Proofs.Latex.Codes
import Vitae.Proofs.Latex.Commands
import Vitae.Proofs.Latex.Commenting
import Vitae.Proofs.Latex.ItemOpenings
import Vitae.Proofs.Latex.Layout
import Vitae.Proofs.Latex.Lexemes
import Vitae.Proofs.Latex.Lexer
import Vitae.Proofs.Latex.Rendering
import Vitae.Proofs.Markdown.Forest
import Vitae.Proofs.Markdown.Marks
import Vitae.Proofs.Markdown.Outline
import Vitae.Proofs.Markdown.Parts
import Vitae.Proofs.Markdown.Runs
import Vitae.Proofs.Markdown.Tokenizer
import Vitae.Proofs.Options
import Vitae.Proofs.Rendering
import Vitae.Proofs.Results
import Vitae.Proofs.Rules
import Vitae.Proofs.Settings
import Vitae.Proofs.Text.Lines
import Vitae.Proofs.Text.PrefixCode
import Vitae.Proofs.Text.Thinning
import Vitae.Proofs.Underlining
import Vitae.Proofs.Validator
import Vitae.Rules
import Vitae.Settings
import Vitae.Text.Alphanumeric
import Vitae.Text.Blank
import Vitae.Text.Case
import Vitae.Text.Digit
import Vitae.Text.Hex
import Vitae.Text.Integer
import Vitae.Text.Lines
import Vitae.Text.Percent
import Vitae.Text.Printable
import Vitae.Text.Quoted
import Vitae.Text.Ranges
import Vitae.Validator
