import Delimit.Token

/-!
# Quoted literals

The content of a literal runs to the first quote of its own sort that no
backslash escapes.  A literal whose line ends first stays unclosed; then it
matters whether the last character of the line was a backslash that still waits
for the character it escapes.
-/

namespace Delimit

/-- How the content of a literal ends on its line. -/
inductive LiteralEnding where
  | closed
  /-- The line ended first, possibly inside an escape. -/
  | unclosed (escaping : Bool)
  deriving DecidableEq, Repr

namespace LiteralEnding

def isClosed : LiteralEnding → Bool
  | closed => true
  | unclosed _ => false

end LiteralEnding

/-- The content of a literal on one line. -/
structure LiteralContent where
  /-- The text of the content, with the closing quote if there is one. -/
  covered : List Char
  ending : LiteralEnding
  rest : List Char
  deriving DecidableEq, Repr

namespace LiteralContent

def prepend
    (front : List Char)
    (content : LiteralContent) :
    LiteralContent :=
  { content with covered := front ++ content.covered }

/-- The content of a literal that begins where its opening quote ends. -/
def read
    (quote : Quote) :
    List Char → LiteralContent
  | [] => ⟨[], .unclosed false, []⟩
  | ['\\'] => ⟨['\\'], .unclosed true, []⟩
  | '\\' :: escaped :: rest => prepend ['\\', escaped] (read quote rest)
  | character :: rest =>
      if character = quote.character then
        ⟨[character], .closed, rest⟩
      else
        prepend [character] (read quote rest)

/-- The content and the text after it make up the text that was read. -/
theorem read_append
    (quote : Quote)
    (text : List Char) :
    (read quote text).covered ++ (read quote text).rest = text := by
  fun_induction read quote text <;> simp_all [prepend]

/-- An unclosed literal covers the rest of its line. -/
theorem rest_of_unclosed
    {quote : Quote}
    {text : List Char}
    (unclosed : (read quote text).ending ≠ .closed) :
    (read quote text).rest = [] := by
  revert unclosed
  fun_induction read quote text <;> simp_all [prepend]

theorem length_rest_read_le
    (quote : Quote)
    (text : List Char) :
    (read quote text).rest.length ≤ text.length := by
  have tiling := congrArg List.length (read_append quote text)
  simp only [List.length_append] at tiling
  omega

end LiteralContent

/-- A literal with the half-open span of offsets that it covers on its line. -/
structure QuotedLiteral where
  quote : Quote
  /-- The offset of the opening quote, or of the content where the literal is continued. -/
  start : Nat
  stop : Nat
  /-- Whether the closing quote is on this line. -/
  terminated : Bool
  deriving DecidableEq, Repr

/-- An offset at which no literal begins. -/
structure NoLiteral where
  offset : Nat
  deriving DecidableEq, Repr

/-- The words for an offset at which no literal begins. -/
def NoLiteral.message
    (fault : NoLiteral) :
    String :=
  "No quoted literal at offset " ++ toString fault.offset

namespace QuotedLiteral

/-- The literal of a line whose content begins at an offset, opened at an earlier one. -/
def spanning
    (quote : Quote)
    (text : List Char)
    (start content : Nat) :
    QuotedLiteral :=
  let read := LiteralContent.read quote (text.drop content)
  { quote
    start
    stop := content + read.covered.length
    terminated := read.ending.isClosed }

/-- The literal that an earlier line opened and that continues at an offset. -/
def continued
    (quote : Quote)
    (text : List Char)
    (offset : Nat) :
    QuotedLiteral :=
  spanning quote text offset offset

/-- The literal whose opening quote stands at an offset. -/
def startingAt
    (text : List Char)
    (offset : Nat) :
    Except NoLiteral QuotedLiteral :=
  match text[offset]?.bind Quote.ofCharacter? with
  | some quote => .ok (spanning quote text offset (offset + 1))
  | none => .error ⟨offset⟩

end QuotedLiteral

end Delimit
