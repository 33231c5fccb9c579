import Delimit.Yaml.Token

/-!
# Nodes of documents

A document is a tree of scalars, sequences and mappings, in which an alias stands
for an earlier node that carries an anchor.  The tokens of a text form at most one
document.  A tag is completed here from its handle; the tag that is a lone mark
asks for no tag in particular, so a scalar that carries it is treated as a plain
one.
-/

namespace Delimit.Yaml

/-- What a node may carry besides its content. -/
structure Properties where
  /-- The name by which aliases refer to the node. -/
  anchor? : Option (List Char) := none
  /-- The tag of the node, in full. -/
  tag? : Option (List Char) := none
  deriving DecidableEq, Repr

inductive Node where
  | scalar (properties : Properties) (plain : Bool) (text : List Char)
  | sequence (properties : Properties) (items : List Node)
  /-- A mapping, as its entries in the order of the document. -/
  | mapping (properties : Properties) (entries : List (Node × Node))
  | alias (name : List Char)
  deriving Repr

namespace Node

/-- The node where a key, a value or an item is left out. -/
def empty : Node := .scalar {} true []

/-- The handles that tags may be written with, and what they stand for. -/
abbrev Handles := List (List Char × List Char)

/-- The text that the two marks in front of the tags of the format stand for. -/
def commonLead : List Char := "tag:yaml.org,2002:".toList

/-- The handles that every document has unless a directive gives them another meaning. -/
def commonHandles : Handles :=
  [("!".toList, "!".toList), ("!!".toList, commonLead)]

/-- A tag in full; a handle that is not known is a fault. -/
def fullTag
    (handles : Handles)
    (name : TagName) :
    Except Fault (List Char) :=
  match name.handle? with
  | none => .ok name.suffix
  | some handle =>
      match handles.lookup handle with
      | some lead => .ok (lead ++ name.suffix)
      | none => .error .badStructure

/-- Where the building of nodes stands. -/
structure Building where
  /-- The tokens that are still to be used. -/
  tokens : List Token
  anchors : List (List Char) := []

namespace Building

def peek?
    (building : Building) :
    Option Token :=
  building.tokens.head?

def drop
    (building : Building) :
    Building :=
  { building with tokens := building.tokens.tail }

/-- Whether the next token is one of the given ones. -/
def isAt
    (building : Building)
    (tokens : List Token) :
    Bool :=
  building.peek?.any tokens.contains

/-- The fault for a next token that has no place here. -/
def refuse
    (building : Building) :
    Fault :=
  match building.peek? with
  | some (.fault cause) => cause
  | _ => .badStructure

/-- Checks that the next token is no fault. -/
def requireToken
    (building : Building) :
    Except Fault Unit :=
  match building.peek? with
  | some (.fault cause) => .error cause
  | _ => .ok ()

def anchor?
    (building : Building) :
    Except Fault (Option (List Char) × Building) :=
  match building.peek? with
  | some (.anchor name) => .ok (some name, building.drop)
  | some (.fault cause) => .error cause
  | _ => .ok (none, building)

def tag?
    (building : Building) :
    Except Fault (Option TagName × Building) :=
  match building.peek? with
  | some (.tag name) => .ok (some name, building.drop)
  | some (.fault cause) => .error cause
  | _ => .ok (none, building)

/-- The anchor and the tag that come next, in either order. -/
def anchorAndTag
    (building : Building) :
    Except Fault (Option (List Char) × Option TagName × Building) := do
  match ← building.anchor? with
  | (some anchor, building) =>
      let (tag?, building) ← building.tag?
      return (some anchor, tag?, building)
  | (none, building) =>
      match ← building.tag? with
      | (none, building) => return (none, none, building)
      | (some tag, building) =>
          let (anchor?, building) ← building.anchor?
          return (anchor?, some tag, building)

/-- Enters an anchor; an anchor that was met before is a fault. -/
def register
    (building : Building)
    (anchor? : Option (List Char)) :
    Except Fault Building :=
  match anchor? with
  | none => .ok building
  | some anchor =>
      if building.anchors.contains anchor then
        .error .badReference
      else
        .ok { building with anchors := anchor :: building.anchors }

end Building

/-- Where a node stands, which decides what collections it may be. -/
structure Place where
  block : Bool
  /-- A block sequence need not be indented here. -/
  indentless : Bool
  deriving DecidableEq, Repr

/--
The deepest nesting of collections that is read.  It is what a limited stack leaves for
a document when a command loads one; less is left for a call from deeper down, which
breaks down earlier.
-/
def nestingLimit : Nat := 487

mutual

/-- Builds the node that comes next, inside a number of collections. -/
def build (handles : Handles) (place : Place) (depth : Nat) :
    Nat → Building → Except Fault (Node × Building)
  | 0, building => .error building.refuse
  | fuel + 1, building =>
      match building.peek? with
      | some (.alias name) =>
          if building.anchors.contains name then
            .ok (.alias name, building.drop)
          else
            .error .badReference
      | _ => do
          let (anchor?, name?, building) ← building.anchorAndTag
          let written? ← name?.mapM (fullTag handles)
          building.requireToken
          let anyTag := written? == some ['!']
          let tag? := if anyTag then none else written?
          let properties : Properties := ⟨anchor?, tag?⟩
          let content := building
          let building ← building.register anchor?
          if nestingLimit ≤ depth then
            throw (.breakdown .tooDeep)
          else if place.indentless && content.isAt [.blockEntry] then do
            let (items, building) ← buildIndentless handles (depth + 1) fuel building
            return (.sequence properties items, building)
          else
            match content.peek? with
            | some (.scalar plain text) =>
                let plain := tag?.isNone && (plain || anyTag)
                return (.scalar properties plain text, building.drop)
            | some .flowSequenceStart => do
                let (items, building) ←
                  buildFlowItems handles (depth + 1) true fuel building.drop
                return (.sequence properties items, building)
            | some .flowMappingStart => do
                let (entries, building) ←
                  buildFlowEntries handles (depth + 1) true fuel building.drop
                return (.mapping properties entries, building)
            | some .blockSequenceStart =>
                if place.block then do
                  let (items, building) ←
                    buildBlockItems handles (depth + 1) fuel building.drop
                  return (.sequence properties items, building)
                else
                  throw content.refuse
            | some .blockMappingStart =>
                if place.block then do
                  let (entries, building) ←
                    buildBlockEntries handles (depth + 1) fuel building.drop
                  return (.mapping properties entries, building)
                else
                  throw content.refuse
            | _ =>
                if anchor?.isSome || name?.isSome then
                  return (.scalar properties tag?.isNone [], building)
                else
                  throw content.refuse
termination_by structural fuel => fuel

/-- Builds the node that comes next, or the empty node if one of the given tokens comes first. -/
def buildUnless (handles : Handles) (place : Place) (depth : Nat) (stops : List Token) :
    Nat → Building → Except Fault (Node × Building)
  | 0, building => .error building.refuse
  | fuel + 1, building =>
      if building.isAt stops then
        .ok (empty, building)
      else
        build handles place depth fuel building
termination_by structural fuel => fuel

/-- Builds the value of a key, which may be left out. -/
def buildValue (handles : Handles) (place : Place) (depth : Nat) (stops : List Token) :
    Nat → Building → Except Fault (Node × Building)
  | 0, building => .error building.refuse
  | fuel + 1, building =>
      if building.isAt [.value] then
        buildUnless handles place depth stops fuel building.drop
      else
        .ok (empty, building)
termination_by structural fuel => fuel

/-- Builds the items of a block sequence up to its end. -/
def buildBlockItems (handles : Handles) (depth : Nat) :
    Nat → Building → Except Fault (List Node × Building)
  | 0, building => .error building.refuse
  | fuel + 1, building =>
      match building.peek? with
      | some .blockEntry => do
          let (item, building) ←
            buildUnless handles ⟨true, false⟩ depth [.blockEntry, .blockEnd]
              fuel building.drop
          let (items, building) ← buildBlockItems handles depth fuel building
          return (item :: items, building)
      | some .blockEnd => .ok ([], building.drop)
      | _ => .error building.refuse
termination_by structural fuel => fuel

/-- Builds the items of a block sequence that is not indented, up to what is no item. -/
def buildIndentless (handles : Handles) (depth : Nat) :
    Nat → Building → Except Fault (List Node × Building)
  | 0, building => .error building.refuse
  | fuel + 1, building =>
      match building.peek? with
      | some .blockEntry => do
          let (item, building) ←
            buildUnless handles ⟨true, false⟩ depth
              [.blockEntry, .key, .value, .blockEnd] fuel building.drop
          let (items, building) ← buildIndentless handles depth fuel building
          return (item :: items, building)
      | some (.fault cause) => .error cause
      | _ => .ok ([], building)
termination_by structural fuel => fuel

/-- Builds the entries of a block mapping up to its end. -/
def buildBlockEntries (handles : Handles) (depth : Nat) :
    Nat → Building → Except Fault (List (Node × Node) × Building)
  | 0, building => .error building.refuse
  | fuel + 1, building =>
      match building.peek? with
      | some .key => do
          let (key, building) ←
            buildUnless handles ⟨true, true⟩ depth [.key, .value, .blockEnd]
              fuel building.drop
          let (value, building) ←
            buildValue handles ⟨true, true⟩ depth [.key, .value, .blockEnd]
              fuel building
          let (entries, building) ← buildBlockEntries handles depth fuel building
          return ((key, value) :: entries, building)
      | some .blockEnd => .ok ([], building.drop)
      | _ => .error building.refuse
termination_by structural fuel => fuel

/--
Builds the items of a flow sequence up to its end.  An item with the mark of a key
is a mapping of one entry.
-/
def buildFlowItems (handles : Handles) (depth : Nat) (first : Bool) :
    Nat → Building → Except Fault (List Node × Building)
  | 0, building => .error building.refuse
  | fuel + 1, building =>
      if building.isAt [.flowSequenceEnd] then
        .ok ([], building.drop)
      else if !first && !building.isAt [.flowEntry] then
        .error building.refuse
      else do
        let building := if first then building else building.drop
        if building.isAt [.flowSequenceEnd] then
          return ([], building.drop)
        let (item, building) ←
          if building.isAt [.key] then do
            if nestingLimit ≤ depth then
              throw (.breakdown .tooDeep)
            let (key, building) ←
              buildUnless handles ⟨false, false⟩ (depth + 1)
                [.value, .flowEntry, .flowSequenceEnd] fuel building.drop
            let (value, building) ←
              buildValue handles ⟨false, false⟩ (depth + 1)
                [.flowEntry, .flowSequenceEnd] fuel building
            pure (Node.mapping {} [(key, value)], building)
          else
            build handles ⟨false, false⟩ depth fuel building
        let (items, building) ← buildFlowItems handles depth false fuel building
        return (item :: items, building)
termination_by structural fuel => fuel

/-- Builds the entries of a flow mapping up to its end. -/
def buildFlowEntries (handles : Handles) (depth : Nat) (first : Bool) :
    Nat → Building → Except Fault (List (Node × Node) × Building)
  | 0, building => .error building.refuse
  | fuel + 1, building =>
      if building.isAt [.flowMappingEnd] then
        .ok ([], building.drop)
      else if !first && !building.isAt [.flowEntry] then
        .error building.refuse
      else do
        let building := if first then building else building.drop
        if building.isAt [.flowMappingEnd] then
          return ([], building.drop)
        let (entry, building) ←
          if building.isAt [.key] then do
            let (key, building) ←
              buildUnless handles ⟨false, false⟩ depth
                [.value, .flowEntry, .flowMappingEnd] fuel building.drop
            let (value, building) ←
              buildValue handles ⟨false, false⟩ depth
                [.flowEntry, .flowMappingEnd] fuel building
            pure ((key, value), building)
          else do
            let (key, building) ← build handles ⟨false, false⟩ depth fuel building
            pure ((key, empty), building)
        let (entries, building) ← buildFlowEntries handles depth false fuel building
        return (entry :: entries, building)
termination_by structural fuel => fuel

end

/-- What the directives before a document say. -/
structure Preamble where
  versioned : Bool := false
  handles : Handles := []

/-- Reads the directives before a document; a repeated one is a fault. -/
def readPreamble : Preamble → List Token → Except Fault (Preamble × List Token)
  | preamble, .directive directive :: rest =>
      match directive with
      | .version major =>
          if preamble.versioned || major != 1 then
            .error .badStructure
          else
            readPreamble { preamble with versioned := true } rest
      | .handle name lead =>
          if (preamble.handles.lookup name).isSome then
            .error .badStructure
          else
            readPreamble { preamble with handles := (name, lead) :: preamble.handles } rest
      | .reserved => readPreamble preamble rest
  | preamble, tokens => .ok (preamble, tokens)

/-- Checks that nothing follows a document but the marks of its end. -/
def requireEnd : List Token → Except Fault Unit
  | .documentEnd :: rest => requireEnd rest
  | [.textEnd] => .ok ()
  | tokens => do
      let (_, tokens) ← readPreamble {} tokens
      throw (Building.refuse ⟨tokens, []⟩)

/-- The number of building steps that suffices for a list of tokens. -/
def fuelFor
    (tokens : List Token) :
    Nat :=
  4 * tokens.length + 4

/-- Builds the content of a document, up to the end of the text. -/
def buildDocument
    (handles : Handles)
    (tokens : List Token) :
    Except Fault Node := do
  let (node, building) ←
    build handles ⟨true, false⟩ 0 (fuelFor tokens) ⟨tokens, []⟩
  requireEnd building.tokens
  return node

/--
The document that tokens form, if there is one.  Directives have to be followed by
the mark of a document's beginning, and a document that begins with the mark may
be empty.
-/
def ofTokens?
    (tokens : List Token) :
    Except Fault (Option Node) :=
  let isBare :=
    match tokens with
    | .directive _ :: _ | .documentStart :: _ | .textEnd :: _ => false
    | _ => true
  if isBare then do
    return some (← buildDocument commonHandles tokens)
  else if tokens == [.textEnd] then
    .ok none
  else do
    let (preamble, tokens) ← readPreamble {} tokens
    match tokens with
    | .documentStart :: tokens =>
        match tokens with
        | .directive _ :: _ | .documentStart :: _ | .documentEnd :: _ | .textEnd :: _ =>
            requireEnd tokens
            return some empty
        | _ =>
            return some (← buildDocument (preamble.handles ++ commonHandles) tokens)
    | tokens => throw (Building.refuse ⟨tokens, []⟩)

end Node

end Delimit.Yaml
