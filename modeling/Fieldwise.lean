import Fieldwise.Apply
import Fieldwise.Binary.Error
import Fieldwise.Binary.Lists
import Fieldwise.Builder
import Fieldwise.Cli.Arguments
import Fieldwise.Cli.LogFilter
import Fieldwise.Cli.Run
import Fieldwise.Cli.Status
import Fieldwise.Decimal.Shortest
import Fieldwise.Digest.Sha256
import Fieldwise.Error
import Fieldwise.Failure
import Fieldwise.Field
import Fieldwise.Files
import Fieldwise.Json.Cursor
import Fieldwise.Json.Decode
import Fieldwise.Json.Error
import Fieldwise.Json.Value
import Fieldwise.Log
import Fieldwise.Main
import Fieldwise.Mismatch
import Fieldwise.OutcomeText
import Fieldwise.Pattern.Ast
import Fieldwise.Pattern.Ast.Bracket
import Fieldwise.Pattern.Ast.Depth
import Fieldwise.Pattern.Ast.Parser
import Fieldwise.Pattern.Ast.Primitive
import Fieldwise.Pattern.Basic
import Fieldwise.Pattern.Cursor
import Fieldwise.Pattern.Expr
import Fieldwise.Pattern.Fault
import Fieldwise.Pattern.Footprint
import Fieldwise.Pattern.Group
import Fieldwise.Pattern.Meaning
import Fieldwise.Pattern.Program
import Fieldwise.Pattern.Search
import Fieldwise.Proofs.Apply
import Fieldwise.Proofs.Builder
import Fieldwise.Proofs.Builder.Run
import Fieldwise.Proofs.Logging
import Fieldwise.Proofs.Origin
import Fieldwise.Proofs.Pattern.Matches
import Fieldwise.Proofs.RuleSet
import Fieldwise.Proofs.Template.Replacement
import Fieldwise.Proofs.Text.Utf8
import Fieldwise.Record
import Fieldwise.Record.Format
import Fieldwise.Rule
import Fieldwise.RuleFile
import Fieldwise.RuleSet
import Fieldwise.Template.Expand
import Fieldwise.Template.Token
import Fieldwise.Text.Hex
import Fieldwise.Text.Quoted
import Fieldwise.Text.Utf8
import Fieldwise.Unicode.CaseFolding
import Fieldwise.Unicode.CharSet
import Fieldwise.Unicode.Class
import Fieldwise.Unicode.Data.Age
import Fieldwise.Unicode.Data.Binary
import Fieldwise.Unicode.Data.CaseFolding
import Fieldwise.Unicode.Data.GeneralCategory
import Fieldwise.Unicode.Data.Names
import Fieldwise.Unicode.Data.Script
import Fieldwise.Unicode.Data.ScriptExtensions
import Fieldwise.Unicode.Data.Segmentation
import Fieldwise.Unicode.Data.Word
import Fieldwise.Unicode.Property
import Fieldwise.Unicode.Utf8Ranges
import Fieldwise.Values
import Fieldwise.Yaml.Cursor
import Fieldwise.Yaml.Decode
import Fieldwise.Yaml.Error
import Fieldwise.Yaml.Node
import Fieldwise.Yaml.Node.Grammar
import Fieldwise.Yaml.Property
import Fieldwise.Yaml.Resolve
import Fieldwise.Yaml.Scalar.Block
import Fieldwise.Yaml.Scalar.Gap
import Fieldwise.Yaml.Scalar.Plain
import Fieldwise.Yaml.Scalar.Quoted
import Fieldwise.Yaml.Scalar.Write
import Fieldwise.Yaml.Token
import Fieldwise.Yaml.Token.Scan
import Fieldwise.Proofs.Binary.Lists
import Fieldwise.Proofs.Record.Binary
import Fieldwise.Proofs.Json.Lists
import Fieldwise.Proofs.Lint
import Fieldwise.Proofs.Record.Json
import Fieldwise.Proofs.Yaml.Cursor
import Fieldwise.Proofs.Yaml.Scalar.Plain
import Fieldwise.Proofs.Yaml.Scalar.Quoted
import Fieldwise.Proofs.Yaml.Scalar.Block
import Fieldwise.Proofs.Yaml.Scan
import Fieldwise.Proofs.Yaml.Structure
import Fieldwise.Proofs.Yaml.Grammar
import Fieldwise.Proofs.Yaml.Collections
import Fieldwise.Proofs.Yaml.Decode
import Fieldwise.Proofs.Yaml.RoundTrip
import Fieldwise.Proofs.Construction
import Fieldwise.Proofs.Rebuild
import Fieldwise.Proofs.Disclosure
import Fieldwise.Proofs.Cli.Action
import Fieldwise.Proofs.Cli.Codec
import Fieldwise.Proofs.Cli.Failure
import Fieldwise.Proofs.Template.Number
import Fieldwise.Proofs.Template.Grammar
import Fieldwise.Proofs.Pattern.GroupName
import Fieldwise.Proofs.Template.Reference
import Fieldwise.Proofs.Pattern.Search
import Fieldwise.Proofs.Pattern.Literal
import Fieldwise.Proofs.Template.Word
import Fieldwise.Proofs.Template.Anchor
import Fieldwise.Proofs.Template.Loop
import Fieldwise.Proofs.Cli.Apply
import Fieldwise.Proofs.Fingerprint
import Fieldwise.Proofs.Repetition
import Fieldwise.Proofs.Cli.Assignments
import Fieldwise.Proofs.Json.Grammar
import Fieldwise.Proofs.Json.Reader
import Fieldwise.Proofs.Json.Numbers
import Fieldwise.Proofs.Json.Pretty
import Fieldwise.Proofs.OutcomeText
import Fieldwise.Proofs.Cli.Settings
import Fieldwise.Proofs.Template.MaximalMunch
