import ColumnExpr.Rounding
import ColumnExpr.Text.Blank
import ColumnExpr.Text.Alphanumeric
import ColumnExpr.Text.DecimalDigit
import ColumnExpr.Text.Escapes
import ColumnExpr.Text.Styled
import ColumnExpr.Decimal.Basic
import ColumnExpr.Decimal.Round
import ColumnExpr.Decimal.Arith
import ColumnExpr.Decimal.Read
import ColumnExpr.Decimal.ToBinary64
import ColumnExpr.Binary64.Basic
import ColumnExpr.Binary64.Shortest
import ColumnExpr.Json
import ColumnExpr.Syntax.Builtin
import ColumnExpr.Syntax.Token
import ColumnExpr.Syntax.Node
import ColumnExpr.Syntax.Lexer
import ColumnExpr.Syntax.Parser
import ColumnExpr.Event
import ColumnExpr.NumberText
import ColumnExpr.Value
import ColumnExpr.Eval
import ColumnExpr.Tool.Docs
import ColumnExpr.Tool.Check
import ColumnExpr.CommandLine.Spec
import ColumnExpr.CommandLine.Similarity
import ColumnExpr.CommandLine.Help
import ColumnExpr.CommandLine.Error
import ColumnExpr.CommandLine.Parse
import ColumnExpr.Log.Pattern
import ColumnExpr.Log.Filter
import ColumnExpr.Log.Line
import ColumnExpr.Log.Clock
import ColumnExpr.CommandLine.Run
import ColumnExpr.Main
import ColumnExpr.Proofs.Except
import ColumnExpr.Proofs.Parse.Outcome
import ColumnExpr.Proofs.Parse.RoundTrip
import ColumnExpr.Proofs.Parse.Pushdown
import ColumnExpr.Proofs.Parse.Incomplete
import ColumnExpr.Proofs.Eval.IsNum
import ColumnExpr.Proofs.Lex.RoundTrip
import ColumnExpr.Proofs.Eval.WellFormed
import ColumnExpr.Proofs.Number.Grammar
import ColumnExpr.Proofs.Lex.Errors
import ColumnExpr.Proofs.Decimal.Value
import ColumnExpr.Proofs.Eval.Arithmetic
import ColumnExpr.Proofs.Number.Parse
import ColumnExpr.Proofs.Number.Display
import ColumnExpr.Proofs.Lex.Spans
import ColumnExpr.Proofs.Lex.Separator
import ColumnExpr.Proofs.Parse.Cursor
