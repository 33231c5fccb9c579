import Delimit.Policy
import Delimit.Yaml.Document

/-!
# Configurations

A configuration settles the policy of the validator and the prompts of a session.
It is read from a document: nothing at all, or a mapping with five optional keys.
Unknown keys are reported first and all together; otherwise the first field with a
value of the wrong sort is reported, in the order of the fields.
-/

namespace Delimit

open Delimit.Yaml (Value Entries)

structure Config where
  policy : Policy := {}
  /-- The prompt when no input is pending. -/
  prompt : List Char := "[replcheck] ".toList
  /-- The prompt when more lines are needed. -/
  continuationPrompt : List Char := "?   ".toList
  /-- The number of spaces that a continuation prompt gets for each open delimiter. -/
  indentWidth : Nat := 2
  deriving DecidableEq, Repr, Inhabited

namespace Config

/-- The fields of a configuration, in the order in which they are read. -/
inductive Field where
  | commentBracketParity
  | continueUnterminatedLiterals
  | prompt
  | continuationPrompt
  | indentWidth
  deriving DecidableEq, Repr

namespace Field

def name : Field → String
  | commentBracketParity => "comment-bracket-parity"
  | continueUnterminatedLiterals => "continue-unterminated-literals"
  | prompt => "prompt"
  | continuationPrompt => "continuation-prompt"
  | indentWidth => "indent-width"

def all : List Field :=
  [commentBracketParity, continueUnterminatedLiterals, prompt, continuationPrompt, indentWidth]

/-- The words for the sort of value that a field takes. -/
def expectation : Field → String
  | commentBracketParity | continueUnterminatedLiterals => "true or false"
  | prompt | continuationPrompt => "a string"
  | indentWidth => "a non-negative integer"

end Field

/-- The reasons for which a value is no configuration. -/
inductive Fault where
  | notMapping
  /-- Some keys belong to no field; they are listed in order. -/
  | unknownFields (names : List (List Char))
  /-- The value of a field is of the wrong sort. -/
  | wrongSort (field : Field)
  deriving DecidableEq, Repr

def Fault.words : Fault → String
  | notMapping => "configuration must be a YAML mapping"
  | unknownFields names =>
      "unknown field(s): " ++ ", ".intercalate (names.map String.ofList)
  | wrongSort field => "'" ++ field.name ++ "' must be " ++ field.expectation

/-- Whether one text comes before another or is the same, by code points. -/
def comesFirst
    (first second : List Char) :
    Bool :=
  !decide (second < first)

/-- Whether a key is the name of a field. -/
def isKnown : Yaml.Scalar → Bool
  | .text key => Field.all.any fun field => field.name.toList == key
  | _ => false

/-- The keys that belong to no field, as they are shown, in order. -/
def unknownNames
    (entries : Entries) :
    List (List Char) :=
  let unknown := (entries.map Prod.fst).filter fun key => !isKnown key
  (unknown.map Yaml.Scalar.shown).mergeSort comesFirst

/-- The value of a field, or a default if the field is left out. -/
def readField
    {α : Type}
    (entries : Entries)
    (field : Field)
    (default : α)
    (reader : Value → Option α) :
    Except Fault α :=
  match entries.getText? field.name with
  | none => .ok default
  | some value =>
      match reader value with
      | some result => .ok result
      | none => .error (.wrongSort field)

def switch? : Value → Option Bool
  | .scalar (.bool value) => some value
  | _ => none

def text? : Value → Option (List Char)
  | .scalar (.text value) => some value
  | _ => none

/-- A whole number that is not negative; truth values are no numbers here. -/
def width? : Value → Option Nat
  | .scalar (.int value) => if 0 ≤ value then some value.toNat else none
  | _ => none

/-- The configuration that the entries of a mapping describe. -/
def ofEntries
    (entries : Entries) :
    Except Fault Config := do
  let unknown := unknownNames entries
  if !unknown.isEmpty then
    throw (.unknownFields unknown)
  let commentBracketParity ←
    readField entries .commentBracketParity false switch?
  let continueUnterminatedLiterals ←
    readField entries .continueUnterminatedLiterals true switch?
  let prompt ← readField entries .prompt ({} : Config).prompt text?
  let continuationPrompt ←
    readField entries .continuationPrompt ({} : Config).continuationPrompt text?
  let indentWidth ← readField entries .indentWidth ({} : Config).indentWidth width?
  let policy : Policy := { commentBracketParity, continueUnterminatedLiterals }
  return { policy, prompt, continuationPrompt, indentWidth }

def ofValue : Value → Except Fault Config
  | .scalar .null => .ok {}
  | .mapping entries => ofEntries entries
  | _ => .error .notMapping

end Config

end Delimit
