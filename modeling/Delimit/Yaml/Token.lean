import Delimit.Yaml.Fault

/-!
# Tokens of documents

The tokens mark where documents, collections and entries begin and end; the ends
of block collections, which nothing but indentation shows, are tokens as well.
A list of tokens ends with the end of the text or with the fault that stopped the
reading.
-/

namespace Delimit.Yaml

/-- The instructions in front of a document. -/
inductive Directive where
  /-- The version of the format that a document follows. -/
  | version (major : Nat)
  /-- A handle that tags may be written with, and the text it stands for. -/
  | handle (name lead : List Char)
  | reserved
  deriving DecidableEq, Repr

/-- A tag as it is written: a handle, which may be missing, and a suffix. -/
structure TagName where
  /-- The handle, unless the tag is written in full. -/
  handle? : Option (List Char)
  suffix : List Char
  deriving DecidableEq, Repr

inductive Token where
  | documentStart
  | documentEnd
  | textEnd
  | directive (directive : Directive)
  | blockSequenceStart
  | blockMappingStart
  | blockEnd
  | flowSequenceStart
  | flowSequenceEnd
  | flowMappingStart
  | flowMappingEnd
  /-- The mark of an item of a block sequence. -/
  | blockEntry
  /-- The comma between the entries of a flow collection. -/
  | flowEntry
  | key
  /-- The mark of the value of a key. -/
  | value
  | alias (name : List Char)
  /-- A name for the node that follows. -/
  | anchor (name : List Char)
  /-- The tag of the node that follows. -/
  | tag (name : TagName)
  | scalar (plain : Bool) (text : List Char)
  | fault (cause : Fault)
  deriving DecidableEq, Repr

end Delimit.Yaml
