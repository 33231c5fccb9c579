/-!
# Policies

A policy settles two questions about a line: whether brackets and literals count
inside a block comment, and whether a literal without its closing quote stays
open for the next line.
-/

namespace Delimit

/-- The choices that a validator leaves open. -/
structure Policy where
  /-- Brackets and literals inside block comments are counted as well. -/
  commentBracketParity : Bool := false
  /-- A literal without a closing quote stays open at the end of its line. -/
  continueUnterminatedLiterals : Bool := true
  deriving DecidableEq, Repr, Inhabited

end Delimit
