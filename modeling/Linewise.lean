import Linewise.Lexer.Stream
import Linewise.Main
import Linewise.Proofs.Lexer.TokenCursor
import Linewise.Source.Directory
import Linewise.Proofs.Lexer.Ledger
import Linewise.Proofs.Lexer.WellFormed
import Linewise.Proofs.Lexer.LineCover
import Linewise.Proofs.Lexer.Recovery
import Linewise.Proofs.Calculator.Rules
import Linewise.Proofs.Calculator.Turn
import Linewise.Proofs.Calculator.Ending
import Linewise.Proofs.Calculator.Charging
import Linewise.Proofs.Lexer.Supply
import Linewise.Proofs.Calculator.Scanning
import Linewise.Proofs.Lexer.Facing
import Linewise.Proofs.Calculator.Lexemes
import Linewise.Proofs.Calculator.Calculation
import Linewise.Proofs.Source.Stream
import Linewise.Proofs.Lexer.LineNumbers
import Linewise.Proofs.Lexer.Alike
import Linewise.Proofs.Lexer.Chunking
import Linewise.Proofs.Lexer.Pausing
import Linewise.Proofs.Calculator.Causality
import Linewise.Proofs.Calculator.Exit
import Linewise.Proofs.Calculator.Truncation
import Linewise.Proofs.Lexer.Found
import Linewise.Proofs.Calculator.Keeping
import Linewise.Proofs.Calculator.Agreement
import Linewise.Proofs.Calculator.Dropping
import Linewise.Proofs.Lexer.Sweeping
import Linewise.Proofs.Calculator.Items
import Linewise.Proofs.Number.Alphabet
import Linewise.Proofs.Calculator.Lines
import Linewise.Proofs.Calculator.Transparency
import Linewise.Proofs.Calculator.Dialog
import Linewise.Proofs.Calculator.RoundTrip
import Linewise.Proofs.Lexer.Log
import Linewise.Proofs.Lexer.Unread
import Linewise.Proofs.Lexer.OneLine
import Linewise.Proofs.Calculator.Tally
import Linewise.Proofs.Lexer.LineLayout
import Linewise.Proofs.Lexer.LaterRules
import Linewise.Proofs.Lexer.Looking
import Linewise.Proofs.Lexer.Restart
import Linewise.Proofs.Calculator.Arrival
import Linewise.Proofs.Calculator.Arguments
import Linewise.Proofs.Lexer.Enumeration
import Linewise.Proofs.Source.Splitting
import Linewise.Proofs.Lexer.Order
import Linewise.Proofs.Calculator.Grammar
