import CloudAudit.Number.Natural

/-!
# Grammars of command lines

Which words a command understands: options with a value, flags, one operand, and the names of
commands that take over the rest of the words.
-/

namespace CloudAudit

/-- What a word is read as. -/
inductive ValueKind where
  | text
  | path
  | number
  deriving DecidableEq, Repr

inductive OptionKind where
  | value (kind : ValueKind)
  | flag
  | help
  | version
  deriving DecidableEq, Repr

structure OptionForm where
  name : String
  kind : OptionKind
  letter : Option Char := none
  /-- The variable that gives a value if the command line does not. -/
  fallback : Option String := none
  deriving DecidableEq, Repr

structure OperandForm where
  name : String
  kind : ValueKind
  deriving DecidableEq, Repr

structure Grammar where
  options : List OptionForm
  operand : Option OperandForm := none
  commands : List String := []
  deriving Repr

/-- Why a command line is not carried out. -/
inductive UsageError where
  | help
  | version
  /-- Nothing is asked for. -/
  | nothingGiven
  | missingCommand
  | missingOperand (name : String)
  | missingValue (name : String)
  | badValue (name word : String)
  /-- A flag takes no value. -/
  | unwantedValue (name word : String)
  | repeated (name : String)
  | unknownCommand (word : String)
  | unknownArgument (word : String)
  deriving DecidableEq, Repr

namespace UsageError

def message : UsageError → String
  | help => "help"
  | version => "version"
  | nothingGiven | missingCommand => "a command is missing"
  | missingOperand name => s!"<{name}> is missing"
  | missingValue name => s!"a value is missing for '{name}'"
  | badValue name word => s!"invalid value '{word}' for '{name}'"
  | unwantedValue name word => s!"unexpected value '{word}' for '{name}'"
  | repeated name => s!"'{name}' cannot be used several times"
  | unknownCommand word => s!"unrecognized command '{word}'"
  | unknownArgument word => s!"unexpected argument '{word}'"

end UsageError

/-- Refuses a word that is no value of the kind. -/
def ValueKind.check (kind : ValueKind) (name word : String) : Except UsageError Unit :=
  match kind with
  | .text => .ok ()
  | .path => if word.isEmpty then .error (.missingValue name) else .ok ()
  | .number =>
    if (Number.readUnsigned? word.toList).isSome then .ok () else .error (.badValue name word)

namespace Grammar

def option? (grammar : Grammar) (name : String) : Option OptionForm :=
  grammar.options.find? fun form => form.name == name

def letter? (grammar : Grammar) (letter : Char) : Option OptionForm :=
  grammar.options.find? fun form => form.letter == some letter

end Grammar

end CloudAudit
