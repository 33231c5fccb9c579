import Delimit.CommentTrend
import Delimit.Lexeme
import Delimit.Literal
import Delimit.Policy
import Delimit.Stack

/-!
# Scanning a line

A scan reads the tokens of one line and keeps the stack of open delimiters in
step with them.  A block comment marker is two tokens with no blank between them;
the token that completes a marker does not begin another one.  Inside a comment,
brackets and literals are passed over, unless the policy counts them; even then
an unmatched closing bracket is no mismatch there and no literal is left open.  At
the end of the line, the trend of a swallowed line comment may still end the
comment.

A scan ends early at a closing bracket whose partner is not on top of the stack.
It reads nothing but the rest of the line, so it does not depend on offsets.
-/

namespace Delimit

/-- How a scan loses step with its stack. -/
inductive Desync where
  /-- The open comment was not on the stack. -/
  | stack (fault : StackFault)
  /-- The open literal had no quote to close it. -/
  | quote (kind : TokenKind)
  deriving DecidableEq, Repr

structure Scan where
  stack : Stack
  /-- Whether a closing bracket did not match the top of the stack. -/
  mismatched : Bool
  /-- The loss of step that ended the scan, which never arises from sound stacks. -/
  desync? : Option Desync
  deriving DecidableEq, Repr

namespace Scan

/-- The scan of a line that was read to its end. -/
def finished
    (stack : Stack) :
    Scan :=
  ⟨stack, false, none⟩

/-- The scan of a line that was abandoned at a mismatch. -/
def abandoned
    (stack : Stack) :
    Scan :=
  ⟨stack, true, none⟩

/-- The scan of a line that was given up when it lost step with its stack. -/
def lost
    (stack : Stack)
    (desync : Desync) :
    Scan :=
  ⟨stack, false, some desync⟩

/-- The token that begins the marker that is looked for, in a comment or outside. -/
def markerStart
    (inComment : Bool) :
    TokenKind :=
  if inComment then .asterisk else .slash

/-- The token that completes the marker that is looked for, in a comment or outside. -/
def markerStop
    (inComment : Bool) :
    TokenKind :=
  if inComment then .slash else .asterisk

/-- The stack at the end of a line, after the line comment that was swallowed. -/
def atLineEnd
    (inComment : Bool)
    (stack : Stack)
    (swallowed : List Char) :
    Scan :=
  if inComment && CommentTrend.ofText swallowed == .closes then
    match stack.unwind .comment with
    | .ok below => finished below
    | .error fault => lost stack (.stack fault)
  else
    finished stack

/-- The stack after a literal that began on the line. -/
def afterLiteral
    (policy : Policy)
    (inComment : Bool)
    (stack : Stack)
    (quote : Quote)
    (ending : LiteralEnding) :
    Stack :=
  if !ending.isClosed && !inComment && policy.continueUnterminatedLiterals then
    stack.push (.literal (.quote quote))
  else
    stack

/--
The scan of the rest of a line.  `inComment` says whether a comment is open, and
`half` whether the token just before the rest begins the marker that is looked
for.
-/
def tokens
    (policy : Policy)
    (inComment half : Bool)
    (stack : Stack)
    (text : List Char) :
    Scan :=
  let lexeme := Lexeme.next text
  if _inner : lexeme.kind = .endOfLine then
    atLineEnd inComment stack lexeme.value
  else if half && lexeme.gap.isEmpty && lexeme.kind == markerStop inComment then
    if inComment then
      match stack.unwind .comment with
      | .ok below => tokens policy false false below lexeme.rest
      | .error fault => lost stack (.stack fault)
    else
      tokens policy true false (stack.push .comment) lexeme.rest
  else
    let half := lexeme.kind == markerStart inComment
    if inComment && !policy.commentBracketParity then
      tokens policy inComment half stack lexeme.rest
    else
      match lexeme.kind with
      | .opening bracket =>
          tokens policy inComment half
            (stack.push (.bracket (.opening bracket))) lexeme.rest
      | .closing bracket =>
          if stack.top? = some (.bracket (.opening bracket)) then
            tokens policy inComment half stack.tail lexeme.rest
          else if inComment then
            tokens policy inComment half stack lexeme.rest
          else
            abandoned stack
      | .quote quote =>
          let content := LiteralContent.read quote lexeme.rest
          tokens policy inComment half
            (afterLiteral policy inComment stack quote content.ending) content.rest
      | _ => tokens policy inComment half stack lexeme.rest
termination_by text.length
decreasing_by
  all_goals
    first
    | exact Lexeme.length_rest_next _inner
    | exact Nat.lt_of_le_of_lt
        (LiteralContent.length_rest_read_le _ (Lexeme.next text).rest)
        (Lexeme.length_rest_next _inner)

/-- The scan of a line that begins outside literals. -/
def fromCode
    (policy : Policy)
    (stack : Stack)
    (line : List Char) :
    Scan :=
  tokens policy stack.inComment false stack line

/-- The scan of a line, which first goes on with the literal that is open. -/
def ofLine
    (policy : Policy)
    (stack : Stack)
    (line : List Char) :
    Scan :=
  match stack.top? with
  | some (.literal (.quote quote)) =>
      let content := LiteralContent.read quote line
      if content.ending.isClosed then
        fromCode policy stack.tail content.rest
      else
        finished stack
  | some (.literal kind) => lost stack (.quote kind)
  | _ => fromCode policy stack line

end Scan

end Delimit
