import Delimit.Text.Quoted
import Delimit.Yaml.Style

/-!
# Written texts

A text is written in the style that suits it, and lines are broken where they
pass their width: without quotes and between single quotes at a lone space that a
reader restores, between double quotes anywhere, with a backslash before the
break.  A column is carried along, so every function gives the text it writes and
the column after it.
-/

namespace Delimit.Yaml.Written

def lineWidth : Nat := 80

/-- What was written, and the column after it. -/
structure Piece where
  text : List Char
  column : Nat
  deriving DecidableEq, Repr

def inline
    (text : List Char)
    (column : Nat) :
    Piece :=
  ⟨text, column + text.length⟩

def newLine
    (indent : Nat) :
    Piece :=
  ⟨'\n' :: List.replicate indent ' ', indent⟩

/-! ## Runs -/

/-- A part of a text whose characters are of one class. -/
inductive Run where
  | spaces (count : Nat)
  | breaks (characters : List Char)
  | word (characters : List Char)
  deriving DecidableEq, Repr

def consRun
    (character : Char)
    (runs : List Run) :
    List Run :=
  if character == ' ' then
    match runs with
    | .spaces count :: rest => .spaces (count + 1) :: rest
    | runs => .spaces 1 :: runs
  else if isBreak character then
    match runs with
    | .breaks characters :: rest => .breaks (character :: characters) :: rest
    | runs => .breaks [character] :: runs
  else
    match runs with
    | .word characters :: rest => .word (character :: characters) :: rest
    | runs => .word [character] :: runs

def runs
    (text : List Char) :
    List Run :=
  text.foldr consRun []

def Run.characters : Run → List Char
  | spaces count => List.replicate count ' '
  | breaks characters => characters
  | word characters => characters

/-- The runs of a text hold its characters. -/
theorem flatMap_runs
    (text : List Char) :
    (runs text).flatMap Run.characters = text := by
  have step :
      ∀ (character : Char) (later : List Run),
        (consRun character later).flatMap Run.characters =
          character :: later.flatMap Run.characters := by
    intro character later
    unfold consRun
    split
    · rename_i space
      have equality : character = ' ' := by simpa using space
      subst equality
      split <;> simp [Run.characters, List.replicate_succ]
    · split <;> split <;> simp [Run.characters]
  unfold runs
  induction text with
  | nil => rfl
  | cons character rest hypothesis =>
      rw [List.foldr_cons, step, hypothesis]

/-! ## Plain and single-quoted texts -/

/-- Whether a run of spaces is written as a line break. -/
def foldsAt
    (count column : Nat) :
    Bool :=
  count == 1 && lineWidth < column

def plainRuns (indent : Nat) : List Run → Nat → List Char
  | [], _ => []
  | run :: rest, column =>
      let piece :=
        match run with
        | .spaces count =>
            if foldsAt count column then newLine indent else inline run.characters column
        | _ => inline run.characters column
      piece.text ++ plainRuns indent rest piece.column

/-- Characters between single quotes, where a quote is written twice. -/
def doubleQuotes
    (text : List Char) :
    List Char :=
  text.flatMap fun character =>
    if character == '\'' then ['\'', '\''] else [character]

/-- Line breaks between single quotes: a line feed stands for itself after another one. -/
def breakLines
    (indent : Nat)
    (breaks : List Char) :
    Piece :=
  let extra := if breaks.head? == some '\n' then ['\n'] else []
  ⟨extra ++ breaks ++ List.replicate indent ' ', indent⟩

/-- The runs of a text between single quotes; spaces at its two ends are kept on the line. -/
def singleRuns (indent : Nat) (first : Bool) : List Run → Nat → List Char
  | [], _ => ['\'']
  | run :: rest, column =>
      let piece :=
        match run with
        | .spaces count =>
            if foldsAt count column && !first && !rest.isEmpty then
              newLine indent
            else
              inline run.characters column
        | .breaks characters => breakLines indent characters
        | .word characters => inline (doubleQuotes characters) column
      piece.text ++ singleRuns indent false rest piece.column

/-! ## Double-quoted texts -/

def escapeLetter? : Char → Option Char
  | '\x00' => some '0'
  | '\x07' => some 'a'
  | '\x08' => some 'b'
  | '\t' => some 't'
  | '\n' => some 'n'
  | '\x0B' => some 'v'
  | '\x0C' => some 'f'
  | '\r' => some 'r'
  | '\x1B' => some 'e'
  | '"' => some '"'
  | '\\' => some '\\'
  | '\u0085' => some 'N'
  | '\u2028' => some 'L'
  | '\u2029' => some 'P'
  | _ => none

/-- The characters that stand for themselves between double quotes, with two exceptions. -/
def verbatimRanges : Text.Ranges := ⟨[
  (0x20, 0x7E), (0xA0, 0x2027), (0x202A, 0xD7FF), (0xE000, 0xFEFE), (0xFF00, 0xFFFD)
]⟩

/-- Whether a character stands for itself between double quotes. -/
def isVerbatim
    (character : Char) :
    Bool :=
  character != '"' && character != '\\' && verbatimRanges.contains character

/-- Upper-case hexadecimal digits of a number, padded to a width. -/
def upperHex
    (width number : Nat) :
    List Char :=
  (Text.paddedHex width number).map Char.toUpper

def escape
    (character : Char) :
    List Char :=
  match escapeLetter? character with
  | some letter => ['\\', letter]
  | none =>
      let code := character.toNat
      if code ≤ 0xFF then
        '\\' :: 'x' :: upperHex 2 code
      else if code ≤ 0xFFFF then
        '\\' :: 'u' :: upperHex 4 code
      else
        '\\' :: 'U' :: upperHex 8 code

/-- A broken line between double quotes, with a mark if a space would come first on the next one. -/
def foldedLine
    (indent : Nat)
    (next : Option Char) :
    Piece :=
  let line := newLine indent
  if next == some ' ' then
    ⟨'\\' :: line.text ++ ['\\'], indent + 1⟩
  else
    ⟨'\\' :: line.text, indent⟩

/--
The rest of a text between double quotes.  `pending` holds the characters that
stand for themselves and are not yet written, the last one first; a line is broken
before a space, after an escape, or where nothing is pending.
-/
def doubleRest (indent : Nat) (first : Bool) (pending : List Char) :
    List Char → Nat → List Char
  | [], _ => pending.reverse ++ ['"']
  | character :: rest, column =>
      let inside := !first && !rest.isEmpty
      if isVerbatim character then
        let reached := column + pending.length
        if inside && (character == ' ' || pending.isEmpty) && lineWidth < reached then
          let line := foldedLine indent (some character)
          pending.reverse ++ line.text ++
            doubleRest indent false [character] rest line.column
        else
          doubleRest indent false (character :: pending) rest column
      else
        let written := pending.reverse ++ escape character
        let reached := column + written.length
        if inside && lineWidth < reached - 1 then
          let line := foldedLine indent rest.head?
          written ++ line.text ++ doubleRest indent false [] rest line.column
        else
          written ++ doubleRest indent false [] rest reached

/-- A text as the value of a key, written from a column on and continued at an indentation. -/
def value
    (indent column : Nat)
    (text : List Char) :
    List Char :=
  match Style.ofText text with
  | .plain => ' ' :: plainRuns indent (runs text) (column + 1)
  | .single => ' ' :: '\'' :: singleRuns indent true (runs text) (column + 2)
  | .double => ' ' :: '"' :: doubleRest indent true [] text (column + 2)

end Delimit.Yaml.Written
