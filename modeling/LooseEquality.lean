import LooseEquality.Case.Table
import LooseEquality.Console
import LooseEquality.Main
import LooseEquality.Script.Outline
import LooseEquality.Proofs.Binary64
import LooseEquality.Proofs.Equality
import LooseEquality.Proofs.Text.Bytes
import LooseEquality.Proofs.Token.Scan
import LooseEquality.Proofs.Script.Grammar
import LooseEquality.Proofs.Checked.Scan
import LooseEquality.Proofs.Span
import LooseEquality.Proofs.Script.Spans
import LooseEquality.Proofs.Session.Spans
import LooseEquality.Proofs.Checked.Read
import LooseEquality.Proofs.Checked.Report
import LooseEquality.Proofs.Checked.Run
import LooseEquality.Proofs.Shift
import LooseEquality.Proofs.Token.Lines
import LooseEquality.Proofs.Script.Lines
import LooseEquality.Proofs.Session.Transcript
import LooseEquality.Proofs.Session.Growth
import LooseEquality.Proofs.Script.Print
import LooseEquality.Proofs.Session.Alike
import LooseEquality.Proofs.Report
import LooseEquality.Proofs.Console.Input
import LooseEquality.Proofs.Console.Lines
import LooseEquality.Proofs.Console.Reply
import LooseEquality.Proofs.Equality.Numbers
import LooseEquality.Proofs.Decimal
import LooseEquality.Proofs.Numeral.Signed
import LooseEquality.Proofs.Decimal.Spelling
import LooseEquality.Proofs.Literal.Real
import LooseEquality.Proofs.Script.Prefixes
import LooseEquality.Proofs.Session.Names
import LooseEquality.Proofs.Session.History
import LooseEquality.Proofs.Session.Blame
import LooseEquality.Proofs.Literal.Integer
import LooseEquality.Proofs.Text.Pieces
import LooseEquality.Proofs.Location
import LooseEquality.Proofs.Location.Offset
import LooseEquality.Proofs.Token.Stretch
import LooseEquality.Proofs.Script.Layout
import LooseEquality.Proofs.Script.Alike
import LooseEquality.Proofs.Token.Spacing
import LooseEquality.Proofs.Script.Spacing
import LooseEquality.Proofs.Script.Semicolons
import LooseEquality.Proofs.Case
import LooseEquality.Proofs.Script.Plain
import LooseEquality.Proofs.Session.Denotation
import LooseEquality.Proofs.Case.Facts
import LooseEquality.Proofs.Binary64.Exact
import LooseEquality.Proofs.Literal.IntegerAsReal
