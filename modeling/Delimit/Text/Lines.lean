/-!
# Lines of a text

A line ends after a line feed, a carriage return, or the pair of the two in the
order CR LF, and after nothing else: form feeds, next-line controls and Unicode
separators stay inside their line.  Reading the lines keeps every terminator, so
the lines concatenate to the text.  A text can also be read with its terminators
unified to line feeds.

What is typed is cut into lines as the machine has it: at any terminator, with the
terminators unified, or at line feeds only.
-/

namespace Delimit.Text

/-- Puts a character in front of the first line of a list of lines. -/
def consToFirst
    (character : Char) :
    List (List Char) → List (List Char)
  | [] => [[character]]
  | line :: lines => (character :: line) :: lines

/-- The lines of a text, each with its terminator. -/
def linesWithEnds : List Char → List (List Char)
  | [] => []
  | '\r' :: '\n' :: rest => ['\r', '\n'] :: linesWithEnds rest
  | '\n' :: rest => ['\n'] :: linesWithEnds rest
  | '\r' :: rest => ['\r'] :: linesWithEnds rest
  | character :: rest => consToFirst character (linesWithEnds rest)

/-- The text in which every line terminator is a line feed. -/
def unifyLineEnds : List Char → List Char
  | [] => []
  | '\r' :: '\n' :: rest => '\n' :: unifyLineEnds rest
  | '\r' :: rest => '\n' :: unifyLineEnds rest
  | character :: rest => character :: unifyLineEnds rest

/-- The lines of a text that end at line feeds only, each with its terminator. -/
def linesAtFeeds : List Char → List (List Char)
  | [] => []
  | '\n' :: rest => ['\n'] :: linesAtFeeds rest
  | character :: rest => consToFirst character (linesAtFeeds rest)

/-- What ends a line of a text that is typed. -/
inductive Newlines where
  /-- Every terminator does, and each is read as a line feed. -/
  | universal
  /-- A line feed does and nothing else; carriage returns stay as they are. -/
  | lineFeed
  deriving DecidableEq, Repr

/-- The lines of a text that is typed. -/
def Newlines.cut : Newlines → List Char → List (List Char)
  | universal, text => linesWithEnds (unifyLineEnds text)
  | lineFeed, text => linesAtFeeds text

/-- Whether a character belongs to a line terminator. -/
def isLineEnd
    (character : Char) :
    Bool :=
  character == '\r' || character == '\n'

/-- A line without the carriage returns and line feeds at its end. -/
def dropLineEnd
    (line : List Char) :
    List Char :=
  (line.reverse.dropWhile isLineEnd).reverse

@[simp]
theorem flatten_consToFirst
    (character : Char)
    (lines : List (List Char)) :
    (consToFirst character lines).flatten =
      character :: lines.flatten := by
  cases lines <;> rfl

/-- The lines of a text concatenate to it. -/
@[simp]
theorem flatten_linesWithEnds
    (text : List Char) :
    (linesWithEnds text).flatten = text := by
  fun_induction linesWithEnds text <;> simp_all

/-- A text without carriage returns has nothing to unify. -/
theorem unifyLineEnds_of_not_mem
    {text : List Char}
    (without : '\r' ∉ text) :
    unifyLineEnds text = text := by
  fun_induction unifyLineEnds text with
  | case1 => rfl
  | case2 rest _ => simp at without
  | case3 rest _ _ => simp at without
  | case4 character rest _ _ hypothesis => rw [hypothesis fun member => without (.tail _ member)]

end Delimit.Text
