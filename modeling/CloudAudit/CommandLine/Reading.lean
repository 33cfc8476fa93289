import CloudAudit.CommandLine.Grammar
import CloudAudit.Text.Segments

/-!
# Reading of command lines

Words are read from left to right. The value of an option or an operand is pending until the next
option, flag or operand settles it, so a fault in a value is found only then. After two dashes all
words are operands.
-/

namespace CloudAudit

/-- A value that waits to be settled, and perhaps for its word. -/
structure Pending where
  name : String
  kind : ValueKind
  word : Option String
  deriving DecidableEq, Repr

/-- What a command line has given, by name; flags have an empty value. -/
structure Given where
  values : List (String × String) := []
  pending : Option Pending := none
  deriving DecidableEq, Repr, Inhabited

namespace Given

def value? (given : Given) (name : String) : Option String := given.values.lookup name

def isGiven (given : Given) (name : String) : Bool := (given.value? name).isSome

def number? (given : Given) (name : String) : Option Nat :=
  (given.value? name).bind fun word => Number.readUnsigned? word.toList

/-- Records a value, once for a name. -/
def record (given : Given) (name : String) (kind : ValueKind) (word : String) :
    Except UsageError Given := do
  if given.isGiven name then .error (.repeated name)
  kind.check name word
  return { given with values := given.values ++ [(name, word)] }

/-- Records what is pending. -/
def settle (given : Given) : Except UsageError Given :=
  match given.pending with
  | none => .ok given
  | some ⟨name, _, none⟩ => .error (.missingValue name)
  | some ⟨name, kind, some word⟩ => record { given with pending := none } name kind word

/-- Whether a name has a value, settled or pending. -/
def mentions (given : Given) (name : String) : Bool :=
  given.isGiven name || given.pending.any fun pending => pending.name == name

end Given

/-! ## Words -/

inductive Word where
  | dashes
  | long (name : String) (value : Option String)
  | letters (cs : List Char)
  | plain
  deriving DecidableEq, Repr

def Word.ofText (word : String) : Word :=
  match word.toList with
  | ['-', '-'] => .dashes
  | '-' :: '-' :: cs =>
    let name := cs.takeWhile (· ≠ '=')
    .long (String.ofList name)
      (if name.length < cs.length then some (String.ofList (cs.drop (name.length + 1))) else none)
  | '-' :: c :: cs => .letters (c :: cs)
  | _ => .plain

structure Progress where
  given : Given := {}
  /-- The pending option has no word yet. -/
  awaiting : Bool := false
  /-- Two dashes have been seen. -/
  operandsOnly : Bool := false
  deriving Inhabited

namespace Grammar

/-- Makes a value pending after settling the one before. -/
def pend (progress : Progress) (name : String) (kind : ValueKind) (word : Option String) :
    Except UsageError Progress := do
  let given ← progress.given.settle
  return { progress with
    given := { given with pending := some ⟨name, kind, word⟩ }, awaiting := word.isNone }

/-- Records a value that is part of the word of its option. -/
def attach (progress : Progress) (name : String) (kind : ValueKind) (word : String) :
    Except UsageError Progress := do
  let given ← progress.given.settle
  return { progress with given := ← given.record name kind word, awaiting := false }

/-- An option without a value of its own. -/
def raise (progress : Progress) (form : OptionForm) : Except UsageError Progress := do
  let given ← progress.given.settle
  match form.kind with
  | .help => .error .help
  | .version => .error .version
  | .flag | .value _ =>
    return { progress with given := ← given.record form.name .text "", awaiting := false }

def readLong (grammar : Grammar) (progress : Progress) (name : String) (value : Option String) :
    Except UsageError Progress :=
  match grammar.option? name, value with
  | none, _ => .error (.unknownArgument ("--" ++ name))
  | some form, value =>
    match form.kind, value with
    | .value kind, some word => attach progress form.name kind word
    | .value kind, none => pend progress form.name kind none
    | _, some word => .error (.unwantedValue form.name word)
    | _, none => raise progress form

/-- Letters after one dash: flags, and then perhaps an option with its value. -/
def readLetters (grammar : Grammar) (progress : Progress) : List Char →
    Except UsageError Progress
  | [] => .ok progress
  | c :: rest =>
    match grammar.letter? c with
    | none => .error (.unknownArgument (String.ofList ['-', c]))
    | some form =>
      match form.kind with
      | .value kind =>
        match rest with
        | [] => pend progress form.name kind none
        | '=' :: word => attach progress form.name kind (String.ofList word)
        | word => attach progress form.name kind (String.ofList word)
      | _ => do readLetters grammar (← raise progress form) rest

/-- The fault of a word that is neither an operand nor a command. -/
def misplaced (grammar : Grammar) (progress : Progress) (word : String) : UsageError :=
  if grammar.commands.isEmpty || progress.operandsOnly && grammar.commands.contains word then
    .unknownArgument word
  else .unknownCommand word

def readOperand (grammar : Grammar) (progress : Progress) (word : String) :
    Except UsageError Progress :=
  match grammar.operand with
  | some form =>
    if progress.given.mentions form.name then .error (grammar.misplaced progress word)
    else pend progress form.name form.kind (some word)
  | none => .error (grammar.misplaced progress word)

/-- The word of the option that waits for one. -/
def fill (progress : Progress) (word : String) : Progress :=
  let pending := progress.given.pending.map fun pending => { pending with word := some word }
  { progress with given := { progress.given with pending }, awaiting := false }

def readWord (grammar : Grammar) (progress : Progress) (word : String) :
    Except UsageError Progress :=
  if progress.operandsOnly then grammar.readOperand progress word
  else
    match Word.ofText word with
    | .dashes => .ok { progress with operandsOnly := true, awaiting := false }
    | .long name value => grammar.readLong progress name value
    | .letters cs => grammar.readLetters progress cs
    | .plain =>
      if progress.awaiting then .ok (fill progress word)
      else grammar.readOperand progress word

/-- Reads words up to the name of a command, if there is one; the words after it are left. -/
def readWords (grammar : Grammar) (progress : Progress) :
    List String → Except UsageError (Given × Option (String × List String))
  | [] => .ok (progress.given, none)
  | word :: rest =>
    if !progress.operandsOnly && !progress.awaiting && grammar.commands.contains word then
      .ok (progress.given, some (word, rest))
    else do grammar.readWords (← grammar.readWord progress word) rest

/-- The values of variables for the options that have no value. -/
def addVariables (grammar : Grammar) (lookup : String → Option String) (given : Given) :
    Except UsageError Given :=
  grammar.options.foldlM
    (fun given form =>
      match form.kind, form.fallback.bind lookup with
      | .value kind, some word =>
        if given.isGiven form.name then .ok given else given.record form.name kind word
      | _, _ => .ok given)
    given

end Grammar

end CloudAudit
