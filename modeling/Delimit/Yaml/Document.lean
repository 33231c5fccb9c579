import Delimit.Yaml.Construction
import Delimit.Yaml.Token.Reading

/-!
# Documents

A text holds at most one document; a text without any is the document of nothing.
Characters are checked first, then tokens and structure, and values last.
-/

namespace Delimit.Yaml

/-- The value of the document that a text holds. -/
def read
    (text : List Char) :
    Except Fault Value :=
  if text.all isPrintable then do
    match ← Node.ofTokens? (tokensOf text) with
    | none => return .null
    | some node => Value.ofNode node
  else
    .error .unprintable

end Delimit.Yaml
