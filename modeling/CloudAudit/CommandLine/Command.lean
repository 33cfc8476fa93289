import CloudAudit.CommandLine.Reading

/-!
# Commands

What the program can be asked to do, and the command lines that ask for it.
-/

namespace CloudAudit

inductive Command where
  | list (folder : Option String)
  | load (checklist : String)
  | validate (checklist : String) (index : Option Nat) (json : Bool)
  | validateCustom (file : String)
  | checkResource (resourceType : String) (json : Bool)
  | report (checklist format : String) (output : Option String)
  | summary (checklist : String)
  | remediation (checklist : String) (json : Bool)
  | archive (checklist format : String)
  deriving DecidableEq, Repr

/-- A command with the options that all commands have in common. -/
structure Invocation where
  configuration : Option String := none
  snapshot : Option String := none
  templates : Option String := none
  subscription : Option String := none
  concurrency : Option Nat := none
  strict : Bool := false
  verbose : Bool := false
  command : Command
  deriving DecidableEq, Repr

namespace Command

def helpForm : OptionForm := { name := "help", kind := .help, letter := some 'h' }

def jsonForm : OptionForm := { name := "json", kind := .flag }

def formatForm : OptionForm := { name := "format", kind := .value .text }

def checklistForm : OperandForm := { name := "checklist", kind := .text }

def format (given : Given) : String := (given.value? "format").getD "markdown"

/-- How a command is asked for, and the command of what is given and of the operand. -/
structure Form where
  name : String
  grammar : Grammar
  command : Given → String → Command

def forms : List Form :=
  [{ name := "list"
     grammar := { options := [{ name := "dir", kind := .value .path }, helpForm] }
     command := fun given _ => .list (given.value? "dir") },
    { name := "load"
      grammar := { options := [helpForm], operand := some checklistForm }
      command := fun _ checklist => .load checklist },
    { name := "validate"
      grammar :=
        { options := [{ name := "index", kind := .value .number }, jsonForm, helpForm]
          operand := some checklistForm }
      command := fun given checklist =>
        .validate checklist (given.number? "index") (given.isGiven "json") },
    { name := "validate-custom"
      grammar := { options := [helpForm], operand := some { name := "file", kind := .path } }
      command := fun _ file => .validateCustom file },
    { name := "check-resource"
      grammar :=
        { options := [jsonForm, helpForm]
          operand := some { name := "resource_type", kind := .text } }
      command := fun given resourceType => .checkResource resourceType (given.isGiven "json") },
    { name := "report"
      grammar :=
        { options :=
            [formatForm, { name := "output", kind := .value .path, letter := some 'o' }, helpForm]
          operand := some checklistForm }
      command := fun given checklist => .report checklist (format given) (given.value? "output") },
    { name := "summary"
      grammar := { options := [helpForm], operand := some checklistForm }
      command := fun _ checklist => .summary checklist },
    { name := "remediation"
      grammar := { options := [jsonForm, helpForm], operand := some checklistForm }
      command := fun given checklist => .remediation checklist (given.isGiven "json") },
    { name := "export"
      grammar := { options := [formatForm, helpForm], operand := some checklistForm }
      command := fun given checklist => .archive checklist (format given) }]

def names : List String := forms.map Form.name

/-- The operand that a grammar asks for. -/
def operand (grammar : Grammar) (given : Given) : Except UsageError String :=
  match grammar.operand with
  | none => .ok ""
  | some form =>
    match given.value? form.name with
    | some word => .ok word
    | none => .error (.missingOperand form.name)

/-- The command of a name and the words after it. -/
def parse? (name : String) (words : List String) : Except UsageError Command := do
  match forms.find? fun form => form.name == name with
  | none => .error (.unknownCommand name)
  | some form =>
    let (given, _) ← form.grammar.readWords {} words
    let given ← given.settle
    return form.command given (← operand form.grammar given)

end Command

namespace Invocation

def grammar : Grammar where
  options :=
    [{ name := "config", kind := .value .path, letter := some 'c'
       fallback := some "COMPLIANCE_CONFIG" },
      { name := "snapshot", kind := .value .path },
      { name := "templates", kind := .value .path, fallback := some "COMPLIANCE_TEMPLATES" },
      { name := "subscription", kind := .value .text
        fallback := some "AZURE_SUBSCRIPTION_ID" },
      { name := "concurrency", kind := .value .number },
      { name := "strict", kind := .flag },
      { name := "verbose", kind := .flag, letter := some 'v' },
      Command.helpForm,
      { name := "version", kind := .version, letter := some 'V' }]
  commands := Command.names ++ ["help"]

/-- The variables that may stand in for options. -/
def fallbackNames : List String := grammar.options.filterMap OptionForm.fallback

/-- The answer to a request for help, which may name one command. -/
def help : List String → UsageError
  | [] => .help
  | [word] => if grammar.commands.contains word then .help else .unknownCommand word
  | word :: next :: _ => .unknownCommand (if grammar.commands.contains word then next else word)

def ofGiven (given : Given) (command : Command) : Invocation :=
  { configuration := given.value? "config"
    snapshot := given.value? "snapshot"
    templates := given.value? "templates"
    subscription := given.value? "subscription"
    concurrency := given.number? "concurrency"
    strict := given.isGiven "strict"
    verbose := given.isGiven "verbose"
    command }

/-- The invocation that the words of a command line spell. Faults in the words of the command come
before those that are found when the common options are settled. -/
def parse? (lookup : String → Option String) (words : List String) :
    Except UsageError Invocation := do
  let (given, found) ← grammar.readWords {} words
  let command ←
    match found with
    | none => .ok none
    | some ("help", rest) => .error (help rest)
    | some (name, rest) => (Command.parse? name rest).map some
  let given ← grammar.addVariables lookup (← given.settle)
  match command with
  | some command => return ofGiven given command
  | none => .error (if given.values.isEmpty then .nothingGiven else .missingCommand)

end Invocation

end CloudAudit
