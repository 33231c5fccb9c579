/-!
# Block comment markers behind a line comment

A line comment swallows the rest of its line.  When that happens inside a block
comment, a closing marker in the swallowed text would be missed and the comment
would never end.  The trend of a text is a guess at the net effect of the markers
after its first line comment mark: the last marker decides, whatever came before.
The guess follows no standard; the compiler has the final word on what it misses.
-/

namespace Delimit

/-- The net effect of the block comment markers behind a line comment. -/
inductive CommentTrend where
  | closes
  | opens
  | neutral
  deriving DecidableEq, Repr

namespace CommentTrend

def label : CommentTrend → String
  | closes => "closes"
  | opens => "opens"
  | neutral => "neutral"

/-- The text behind the first line comment mark. -/
def behindLineComment? : List Char → Option (List Char)
  | '/' :: '/' :: rest => some rest
  | _ :: rest => behindLineComment? rest
  | [] => none

/--
The trend of a text that is given last character first, together with the
character that would complete a marker with the one read before it.  Read
backwards, a slash before an asterisk ends a comment and an asterisk before a
slash begins one.
-/
def ofReversed (expected : Option Char) : List Char → CommentTrend
  | [] => neutral
  | character :: earlier =>
      if character = '*' then
        if expected = some '*' then
          closes
        else
          ofReversed (some '/') earlier
      else if character = '/' then
        if expected = some '/' then
          opens
        else
          ofReversed (some '*') earlier
      else
        ofReversed none earlier

/-- The trend of the text behind the first line comment mark. -/
def ofText
    (text : List Char) :
    CommentTrend :=
  match behindLineComment? text with
  | some behind => ofReversed none behind.reverse
  | none => neutral

end CommentTrend

end Delimit
