import Delimit.Text.Digit
import Delimit.Text.Quoted

/-!
# Arguments of a command

A command takes flags and at most one positional argument.  Flags may be
shortened as long as they stay unambiguous, and a value may follow its flag after
an equals sign or as the next argument.  Two hyphens on their own end the flags.
Arguments that belong to nothing are collected, and complained about once all
others are understood.

A command with subcommands takes as its positional argument a word and everything
after it.
-/

namespace Delimit.Command

/-- What the positional argument of a command is. -/
inductive Positional where
  | none
  /-- One argument, which has to be there. -/
  | one
  | rest
  deriving DecidableEq, Repr

/-- The flags that a command understands. -/
structure Flags where
  /-- The flag that takes a value, if there is one. -/
  value? : Option String
  positional : Positional

inductive Flag where
  | help
  | value
  deriving DecidableEq, Repr

/-- The reasons for which arguments are not understood. -/
inductive ArgumentFault where
  | ambiguous (argument : List Char) (candidates : List String)
  /-- A value follows a flag that takes none. -/
  | ignoredValue (value : List Char)
  | missingValue (flag : String)
  | missingPositional
  | invalidChoice (word : List Char) (choices : List String)
  | unrecognized (arguments : List (List Char))
  deriving DecidableEq, Repr

def ArgumentFault.message : ArgumentFault → String
  | ambiguous argument candidates =>
      "ambiguous option: " ++ String.ofList argument ++ " could match " ++
        ", ".intercalate candidates
  | ignoredValue value =>
      "argument -h/--help: ignored explicit argument " ++
        String.ofList (Text.quoted value)
  | missingValue flag => "argument " ++ flag ++ ": expected one argument"
  | missingPositional => "the following arguments are required: file"
  | invalidChoice word choices =>
      let quotedChoices :=
        choices.map fun choice => String.ofList (Text.quoted choice.toList)
      "argument COMMAND: invalid choice: " ++ String.ofList (Text.quoted word) ++
        " (choose from " ++ ", ".intercalate quotedChoices ++ ")"
  | unrecognized arguments =>
      "unrecognized arguments: " ++ " ".intercalate (arguments.map String.ofList)

/-- A value that is written in the same argument as its flag. -/
structure Attached where
  /-- Whether an equals sign stands between them. -/
  separated : Bool
  value : List Char
  deriving DecidableEq, Repr

inductive Role where
  /-- A flag, with a value that is attached to it. -/
  | flag (flag : Flag) (short : Bool) (attached? : Option Attached)
  /-- Something like a flag that is none. -/
  | unknownFlag
  /-- The two hyphens that end the flags. -/
  | hyphens
  | plain
  deriving DecidableEq, Repr

namespace Flags

def longNames
    (flags : Flags) :
    List (String × Flag) :=
  ("--help", .help) :: (flags.value?.map fun name => (name, Flag.value)).toList

/-- The part of an argument before its first equals sign, and the value after it. -/
def splitValue
    (argument : List Char) :
    List Char × Option Attached :=
  match argument.dropWhile (· != '=') with
  | [] => (argument, none)
  | _ :: value => (argument.takeWhile (· != '='), some ⟨true, value⟩)

/-- Whether an argument is written like a negative number. -/
def isNegativeNumber
    (argument : List Char) :
    Bool :=
  let isDigit := fun character => (Text.digitValue? character).isSome
  let text := if argument.getLast? == some '\n' then argument.dropLast else argument
  match text with
  | '-' :: number =>
      match number.dropWhile isDigit with
      | [] => !number.isEmpty
      | '.' :: fraction => !fraction.isEmpty && fraction.all isDigit
      | _ => false
  | _ => false

/-- What an argument is that begins with a hyphen and is no flag. -/
def roleOfOther
    (argument : List Char) :
    Role :=
  if isNegativeNumber argument || argument.contains ' ' then .plain else .unknownFlag

/-- What an argument is that stands before any two hyphens on their own. -/
def roleOf
    (flags : Flags)
    (argument : List Char) :
    Except ArgumentFault Role :=
  match argument with
  | '-' :: '-' :: _ =>
      let (name, attached?) := splitValue argument
      let exact := flags.longNames.find? fun long => long.1.toList == name
      let candidates := flags.longNames.filter fun long => name.isPrefixOf long.1.toList
      match exact, candidates with
      | some (_, flag), _ => .ok (.flag flag false attached?)
      | none, [] => .ok (roleOfOther argument)
      | none, [(_, flag)] => .ok (.flag flag false attached?)
      | none, candidates => .error (.ambiguous argument (candidates.map Prod.fst))
  | ['-', 'h'] => .ok (.flag .help true none)
  | '-' :: 'h' :: '=' :: value => .ok (.flag .help true (some ⟨true, value⟩))
  | '-' :: 'h' :: value => .ok (.flag .help true (some ⟨false, value⟩))
  | ['-'] => .ok .plain
  | '-' :: _ => .ok (roleOfOther argument)
  | _ => .ok .plain

def roles (flags : Flags) : List (List Char) → Except ArgumentFault (List (List Char × Role))
  | [] => .ok []
  | argument :: rest =>
      if argument == ['-', '-'] then
        .ok ((argument, .hyphens) :: rest.map fun later => (later, .plain))
      else do
        let role ← flags.roleOf argument
        let later ← flags.roles rest
        return (argument, role) :: later

end Flags

/-- What the arguments of a command say. -/
structure Arguments where
  /-- The value of the flag that takes one. -/
  value? : Option (List Char) := none
  /-- The positional argument, with everything after it if it takes the rest. -/
  positional? : Option (List (List Char)) := none
  /-- The arguments that belong to nothing. -/
  extras : List (List Char) := []
  deriving DecidableEq, Repr

/-- Whether the help text was asked for, or what the arguments say. -/
inductive Understood where
  | help
  | arguments (arguments : Arguments)
  deriving DecidableEq, Repr

namespace Arguments

/--
What follows the short flag for help in its argument: further short flags, which
cannot change anything once the help text is asked for, unless they are a value.
-/
def checkAttached (separated : Bool) : List Char → Except ArgumentFault Unit
  | [] => .error (.ignoredValue [])
  | first :: rest =>
      if separated || first == '-' then
        .error (.ignoredValue (first :: rest))
      else if first == 'h' then
        match rest with
        | [] => .ok ()
        | '=' :: value => .error (.ignoredValue value)
        | rest => checkAttached false rest
      else
        .ok ()

def addExtra
    (arguments : Arguments)
    (extra : List Char) :
    Arguments :=
  { arguments with extras := arguments.extras ++ [extra] }

/-- Whether the positional argument is still to come. -/
def awaits
    (arguments : Arguments)
    (positional : Positional) :
    Bool :=
  positional != .none && arguments.positional?.isNone

/-- The arguments without the two hyphens they may begin with. -/
def dropHyphens : List (List Char × Role) → List (List Char × Role)
  | (_, .hyphens) :: rest => rest
  | rest => rest

theorem length_dropHyphens_le
    (arguments : List (List Char × Role)) :
    (dropHyphens arguments).length ≤ arguments.length := by
  unfold dropHyphens
  split
  · exact Nat.le_succ _
  · exact Nat.le_refl _

def read (flags : Flags) (arguments : Arguments) :
    List (List Char × Role) → Except ArgumentFault Understood
  | [] =>
      if flags.positional = .one && arguments.positional?.isNone then
        .error .missingPositional
      else
        .ok (.arguments arguments)
  | (argument, .plain) :: rest =>
      if arguments.awaits flags.positional then
        if flags.positional = .rest then
          .ok (.arguments
            { arguments with positional? := some (argument :: rest.map Prod.fst) })
        else
          read flags { arguments with positional? := some [argument] } (dropHyphens rest)
      else
        read flags (arguments.addExtra argument) rest
  | (argument, .hyphens) :: rest =>
      match rest with
      | (next, role) :: later =>
          if arguments.awaits flags.positional then
            if flags.positional = .rest then
              .ok (.arguments
                { arguments with
                  positional? := some (argument :: next :: later.map Prod.fst) })
            else
              read flags { arguments with positional? := some [next] } later
          else
            read flags (arguments.addExtra argument) ((next, role) :: later)
      | [] => read flags (arguments.addExtra argument) []
  | (argument, .unknownFlag) :: rest => read flags (arguments.addExtra argument) rest
  | (_, .flag .help short attached?) :: _ =>
      match attached? with
      | none => .ok .help
      | some attached =>
          if short then do
            checkAttached attached.separated attached.value
            return .help
          else
            .error (.ignoredValue attached.value)
  | (_, .flag .value _ (some attached)) :: rest =>
      read flags { arguments with value? := some attached.value } rest
  | (_, .flag .value _ none) :: (value, .plain) :: rest =>
      read flags { arguments with value? := some value } rest
  | (_, .flag .value _ none) :: _ => .error (.missingValue (flags.value?.getD ""))
termination_by arguments => arguments.length
decreasing_by
  all_goals
    first
    | exact Nat.lt_succ_of_le (length_dropHyphens_le _)
    | (simp only [List.length_cons]; omega)

end Arguments

/-- What a list of arguments says to a command with the given flags. -/
def understand
    (flags : Flags)
    (arguments : List (List Char)) :
    Except ArgumentFault Understood := do
  Arguments.read flags {} (← flags.roles arguments)

end Delimit.Command
