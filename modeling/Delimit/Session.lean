import Delimit.Config
import Delimit.Text.Blank
import Delimit.Text.Lines
import Delimit.Validator

/-!
# Interactive sessions

A session reads lines, shows a prompt before each, echoes every complete unit that
is not blank, and reports mismatches.  The continuation prompt is indented by the
number of open delimiters.  A word of its own ends the session when no input is
pending; input that is pending when the lines run out is discarded with a warning.

A session is the list of what it shows, in order.
-/

namespace Delimit

/--
A prompt with the number of blanks behind its text.  A width of indentation has no
bound, so the blanks are counted and not written out.
-/
structure Prompt where
  text : List Char
  indent : Nat := 0
  deriving DecidableEq, Repr

namespace Prompt

def length
    (prompt : Prompt) :
    Nat :=
  prompt.text.length + prompt.indent

/-- The characters of a prompt, with its blanks written out. -/
def characters
    (prompt : Prompt) :
    List Char :=
  prompt.text ++ List.replicate prompt.indent ' '

@[simp]
theorem length_characters
    (prompt : Prompt) :
    prompt.characters.length = prompt.length := by
  rw [characters, List.length_append, List.length_replicate, length]

end Prompt

inductive SessionEvent where
  /-- A prompt, after which the next line is read. -/
  | prompt (shown : Prompt)
  | echo (text : List Char)
  /-- A closing bracket did not match the innermost open delimiter. -/
  | mismatch
  /-- Input that was pending at the end. -/
  | discarded (text : List Char)
  deriving DecidableEq, Repr

namespace Session

def quitWord : List Char := ".q".toList

/-- The prompt that a validator calls for. -/
def promptFor
    (config : Config)
    (validator : Validator) :
    Prompt :=
  if validator.isPending then
    { text := config.continuationPrompt
      indent := validator.expectedIndent * config.indentWidth }
  else
    { text := config.prompt }

def prompt
    (config : Config)
    (validator : Validator) :
    SessionEvent :=
  .prompt (promptFor config validator)

def quits
    (validator : Validator)
    (line : List Char) :
    Bool :=
  validator.input.isEmpty && Text.strip line == quitWord

/-- What a session shows for a line, and the validator after it. -/
def respond
    (validator : Validator)
    (line : List Char) :
    List SessionEvent × Validator :=
  match validator.validate line with
  | (.incomplete, validator) => ([], validator)
  | (.mismatch, validator) => ([.mismatch], validator.reset)
  | (.complete, validator) =>
      let (text, validator) := validator.takeInput
      (if Text.isAllBlank text then [] else [.echo text], validator)

/-- What a session shows once the lines have run out. -/
def close
    (validator : Validator) :
    List SessionEvent :=
  if validator.input.isEmpty then [] else [.discarded validator.input]

/-- What a session shows after its first prompt. -/
def eventsAfter
    (config : Config)
    (validator : Validator) :
    List (List Char) → List SessionEvent
  | [] => close validator
  | raw :: lines =>
      let line := Text.dropLineEnd raw
      if quits validator line then
        []
      else
        let (shown, validator) := respond validator line
        shown ++ prompt config validator :: eventsAfter config validator lines

/-- What a session shows for a list of lines. -/
def events
    (config : Config)
    (lines : List (List Char)) :
    List SessionEvent :=
  let validator := Validator.new config.policy
  prompt config validator :: eventsAfter config validator lines

end Session

end Delimit
