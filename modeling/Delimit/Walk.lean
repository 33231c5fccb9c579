import Delimit.Lexeme
import Delimit.Literal

/-!
# The walk over a line

The walk reads the tokens of a line one after the other, takes every literal in
one step, and stops with the end of the line.  Tokens and literals come with the
half-open spans of offsets that they cover.
-/

namespace Delimit

/-- A token with the half-open span of offsets that it covers in its line. -/
structure Token where
  kind : TokenKind
  /-- The text that the token covers. -/
  value : List Char
  /-- The offset of the first character. -/
  start : Nat
  /-- The offset after the last character. -/
  stop : Nat
  deriving DecidableEq, Repr

namespace Token

/-- The token of a lexeme that was read at an offset. -/
def ofLexeme
    (offset : Nat)
    (lexeme : Lexeme) :
    Token :=
  let start := offset + lexeme.gap.length
  { kind := lexeme.kind
    value := lexeme.value
    start
    stop := start + lexeme.value.length }

/-- The first token of a text at or after an offset; past the end there is the end of the line. -/
def readAt
    (text : List Char)
    (offset : Nat) :
    Token :=
  ofLexeme (min offset text.length) (Lexeme.next (text.drop offset))

end Token

/-- One step of a walk: a token, with the literal that it begins. -/
structure WalkStep where
  token : Token
  /-- The literal, when the token is a quote. -/
  literal? : Option QuotedLiteral
  deriving DecidableEq, Repr

namespace WalkStep

/-- The offset at which the walk goes on. -/
def stop
    (step : WalkStep) :
    Nat :=
  match step.literal? with
  | some literal => literal.stop
  | none => step.token.stop

end WalkStep

/-- The walk over the rest of a line, which begins at an offset. -/
def walkFrom
    (offset : Nat)
    (text : List Char) :
    List WalkStep :=
  let lexeme := Lexeme.next text
  let token := Token.ofLexeme offset lexeme
  if _inner : lexeme.kind = .endOfLine then
    [⟨token, none⟩]
  else
    match lexeme.kind with
    | .quote quote =>
        let content := LiteralContent.read quote lexeme.rest
        let literal : QuotedLiteral :=
          { quote
            start := token.start
            stop := token.stop + content.covered.length
            terminated := content.ending.isClosed }
        ⟨token, some literal⟩ :: walkFrom literal.stop content.rest
    | _ => ⟨token, none⟩ :: walkFrom token.stop lexeme.rest
termination_by text.length
decreasing_by
  · exact Nat.lt_of_le_of_lt
      (LiteralContent.length_rest_read_le quote (Lexeme.next text).rest)
      (Lexeme.length_rest_next _inner)
  · exact Lexeme.length_rest_next _inner

def walk
    (line : List Char) :
    List WalkStep :=
  walkFrom 0 line

end Delimit
