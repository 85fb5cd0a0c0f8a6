import OptionGrammar.Access
import OptionGrammar.Cli.Read
import OptionGrammar.Cli.Run
import OptionGrammar.Cli.Shape
import OptionGrammar.Config
import OptionGrammar.ConfigFile
import OptionGrammar.Constraint
import OptionGrammar.Error
import OptionGrammar.Grammar.Line
import OptionGrammar.Grammar.Load
import OptionGrammar.Group
import OptionGrammar.Help
import OptionGrammar.Main
import OptionGrammar.Regex.Basic
import OptionGrammar.Regex.Error
import OptionGrammar.Regex.Expr
import OptionGrammar.Regex.Lower
import OptionGrammar.Regex.Match
import OptionGrammar.Regex.Parser
import OptionGrammar.Regex.Size
import OptionGrammar.Regex.Syntax
import OptionGrammar.Scan
import OptionGrammar.Session
import OptionGrammar.Spec
import OptionGrammar.Table
import OptionGrammar.Text.Blank
import OptionGrammar.Text.Escape
import OptionGrammar.Text.Similarity
import OptionGrammar.Tree
import OptionGrammar.Tree.Json
import OptionGrammar.Tree.Yaml
import OptionGrammar.Unicode.CaseFold
import OptionGrammar.Unicode.CharClass
import OptionGrammar.Unicode.CharSet
import OptionGrammar.Unicode.Data.Age
import OptionGrammar.Unicode.Data.Binary
import OptionGrammar.Unicode.Data.Break
import OptionGrammar.Unicode.Data.CaseFold
import OptionGrammar.Unicode.Data.CharClass
import OptionGrammar.Unicode.Data.Category
import OptionGrammar.Unicode.Data.PropertyName
import OptionGrammar.Unicode.Data.Script
import OptionGrammar.Unicode.Property
import OptionGrammar.Value.Float
import OptionGrammar.Value.Integer
import OptionGrammar.Value.Kind
import OptionGrammar.Value.Read
import OptionGrammar.Value.Shortest
import OptionGrammar.ValuePattern
import OptionGrammar.Views
import OptionGrammar.Violation
import OptionGrammar.Yaml.Decode
import OptionGrammar.Yaml.Document
import OptionGrammar.Yaml.Error
import OptionGrammar.Yaml.Event
import OptionGrammar.Yaml.Scalar
import OptionGrammar.Yaml.Scanner
import OptionGrammar.Yaml.Token
import OptionGrammar.Proofs.Acceptance
import OptionGrammar.Proofs.ParseHistory
import OptionGrammar.Proofs.SpellingIndex
import OptionGrammar.Proofs.LineText
import OptionGrammar.Proofs.PrintedLine
import OptionGrammar.Proofs.LoadedLine
import OptionGrammar.Proofs.GrammarRoundTrip
import OptionGrammar.Proofs.Scanning
import OptionGrammar.Proofs.Reordering
import OptionGrammar.Proofs.ViolationList
import OptionGrammar.Proofs.Insertion
import OptionGrammar.Proofs.GrammarLoading
import OptionGrammar.Proofs.Respelling
import OptionGrammar.Proofs.Printable
import OptionGrammar.Proofs.TableEquality
import OptionGrammar.Proofs.Report
import OptionGrammar.Proofs.NumberTexts
import OptionGrammar.Proofs.NamedForms
import OptionGrammar.Proofs.Accessors
import OptionGrammar.Proofs.HelpLayout
