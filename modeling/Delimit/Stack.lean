import Delimit.Token

/-!
# The stack of open delimiters

An entry stands for a delimiter that still waits for its partner: a bracket, a
block comment, or a literal that was open at the end of its line.  Entries leave
the stack from the top only, one at a time or in bulk down to a given entry; a
bulk removal whose target is missing leaves the stack as it is.

Stacks are kept top first, and shown bottom first.
-/

namespace Delimit

/-- A delimiter that waits for its partner. -/
inductive Entry where
  | bracket (kind : TokenKind)
  | comment
  /-- A literal that was open at the end of its line. -/
  | literal (kind : TokenKind)
  deriving DecidableEq, Repr

namespace Entry

/-- A token kind as it is shown inside an entry. -/
def describeKind
    (kind : TokenKind) :
    String :=
  "<TokenKind." ++ kind.label ++ ": " ++ toString kind.number ++ ">"

def describe : Entry → String
  | bracket kind => "OpenBracket(kind=" ++ describeKind kind ++ ")"
  | comment => "InComment()"
  | literal kind => "OpenLiteral(kind=" ++ describeKind kind ++ ")"

end Entry

/-- The faults of taking entries off a stack. -/
inductive StackFault where
  | empty
  /-- The entry to remove down to was missing. -/
  | missing (target : Entry)
  deriving DecidableEq, Repr

def StackFault.message : StackFault → String
  | empty => "Cannot pop from an empty delimiter stack"
  | missing target =>
      "Cannot unwind to " ++ target.describe ++ ": not on the delimiter stack"

structure Stack where
  /-- The entries, the most recent one first. -/
  topFirst : List Entry
  deriving DecidableEq, Repr

namespace Stack

def empty : Stack := ⟨[]⟩

instance : Inhabited Stack := ⟨empty⟩

def entries
    (stack : Stack) :
    List Entry :=
  stack.topFirst.reverse

def top?
    (stack : Stack) :
    Option Entry :=
  stack.topFirst.head?

def depth
    (stack : Stack) :
    Nat :=
  stack.topFirst.length

def isEmpty
    (stack : Stack) :
    Bool :=
  stack.topFirst.isEmpty

def contains
    (stack : Stack)
    (entry : Entry) :
    Bool :=
  stack.topFirst.contains entry

/-- Whether a block comment is open; brackets may have been opened after it. -/
def inComment
    (stack : Stack) :
    Bool :=
  stack.contains .comment

def push
    (stack : Stack)
    (entry : Entry) :
    Stack :=
  ⟨entry :: stack.topFirst⟩

def pop
    (stack : Stack) :
    Except StackFault (Entry × Stack) :=
  match stack.topFirst with
  | [] => .error .empty
  | entry :: below => .ok (entry, ⟨below⟩)

def tail
    (stack : Stack) :
    Stack :=
  ⟨stack.topFirst.tail⟩

/-- The entries below the topmost one that equals a target. -/
def below? (target : Entry) : List Entry → Option (List Entry)
  | [] => none
  | entry :: below =>
      if entry = target then
        some below
      else
        below? target below

/-- Takes entries off down to and including the topmost one that equals a target. -/
def unwind
    (stack : Stack)
    (target : Entry) :
    Except StackFault Stack :=
  match below? target stack.topFirst with
  | some below => .ok ⟨below⟩
  | none => .error (.missing target)

/-- The text that shows a stack, the oldest entry first. -/
def describe
    (stack : Stack) :
    String :=
  "DelimiterStack([" ++ ", ".intercalate (stack.entries.map Entry.describe) ++ "])"

@[simp]
theorem entries_empty : empty.entries = [] := rfl

@[simp]
theorem entries_push
    (stack : Stack)
    (entry : Entry) :
    (stack.push entry).entries = stack.entries ++ [entry] := by
  simp [entries, push]

@[simp]
theorem top?_push
    (stack : Stack)
    (entry : Entry) :
    (stack.push entry).top? = some entry := rfl

@[simp]
theorem tail_push
    (stack : Stack)
    (entry : Entry) :
    (stack.push entry).tail = stack := rfl

@[simp]
theorem pop_push
    (stack : Stack)
    (entry : Entry) :
    (stack.push entry).pop = .ok (entry, stack) := rfl

@[simp]
theorem depth_push
    (stack : Stack)
    (entry : Entry) :
    (stack.push entry).depth = stack.depth + 1 := rfl

@[simp]
theorem inComment_empty : empty.inComment = false := rfl

end Stack

end Delimit
