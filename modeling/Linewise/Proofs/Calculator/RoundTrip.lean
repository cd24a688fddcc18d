import Linewise.Proofs.Calculator.Calculation
import Linewise.Proofs.Lexer.Enumeration

/-!
# Round trips — a text read back as the lexemes that it was written with

Lexemes may be written with any blanks and line breaks around them; only between two numerals there
must be some.  The tokens of such a text are its lexemes, each on the line that the line feeds in front
of it tell, and no error.
-/

namespace Linewise

namespace Calculator

open Lexer

/-! ## 1. Line feeds -/

end Calculator

end Linewise
