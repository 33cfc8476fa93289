import CloudAudit.Text.Blank
import CloudAudit.Text.Letter

/-!
# Bindings

A statement binds a variable to a value. Values may be quoted in parts: single quotes keep all
characters, double quotes keep blanks, and a backslash keeps the character after it. A dollar sign
refers to another variable, by a name or by a name in braces.
-/

namespace CloudAudit.EnvironmentFile

inductive Piece where
  | char (c : Char)
  | reference (name : String)
  deriving DecidableEq, Repr

structure Binding where
  name : String
  value : List Piece
  deriving DecidableEq, Repr

/-! ## Values -/

/-- Where in a value a character stands. -/
inductive Place where
  | bare (quoted : Bool)
  | single
  | escaped (quoted : Bool)
  | name (quoted : Bool) (read : List Char)
  | braced (quoted : Bool) (read : List Char)
  /-- After the end, where a comment may follow. -/
  | ended
  deriving DecidableEq, Repr

def referTo (read : List Char) : Piece := .reference (String.ofList read.reverse)

/-- The characters of a value from a place on. -/
def readValue? (place : Place) : List Char → Option (List Piece)
  | [] =>
    match place with
    | .bare false | .escaped false | .ended => some []
    | .name false read => some [referTo read]
    | _ => none
  | c :: rest =>
    match place with
    | .ended =>
      if c = ' ' ∨ c = '\t' then readValue? .ended rest
      else if c = '#' then some []
      else none
    | .escaped quoted =>
      if c ∈ ['\\', '\x27', '"', '$', ' '] then
        (readValue? (.bare quoted) rest).map (.char c :: ·)
      else if c = 'n' then (readValue? (.bare quoted) rest).map (.char '\n' :: ·)
      else none
    | .single =>
      if c = '\x27' then readValue? (.bare false) rest
      else (readValue? .single rest).map (.char c :: ·)
    | .name quoted read =>
      if Text.isLetterOrNumber c then readValue? (.name quoted (c :: read)) rest
      else if c = '\x7b' ∧ read = [] then readValue? (.braced quoted []) rest
      else if c = '$' then (readValue? (.name quoted []) rest).map (referTo read :: ·)
      else (readValue? (.bare quoted) rest).map fun pieces => referTo read :: .char c :: pieces
    | .braced quoted read =>
      if c = '\x7d' then (readValue? (.bare quoted) rest).map (referTo read :: ·)
      else readValue? (.braced quoted (c :: read)) rest
    | .bare quoted =>
      if c = '$' then readValue? (.name quoted []) rest
      else if c = '\\' then readValue? (.escaped quoted) rest
      else if c = '"' then readValue? (.bare (!quoted)) rest
      else if quoted then (readValue? (.bare true) rest).map (.char c :: ·)
      else if c = '\x27' then readValue? .single rest
      else if c = ' ' ∨ c = '\t' then readValue? .ended rest
      else (readValue? (.bare false) rest).map (.char c :: ·)

/-! ## Statements -/

def startsName (c : Char) : Bool := c.isAlpha || c = '_'

def continuesName (c : Char) : Bool := c.isAlphanum || c = '_' || c = '.'

/-- A name, and what comes after it and after blanks. -/
def readName? : List Char → Option (String × List Char)
  | [] => none
  | c :: rest =>
    if startsName c then
      some (String.ofList (c :: rest.takeWhile continuesName),
        Text.dropBlanks (rest.dropWhile continuesName))
    else none

/-- A name up to the equals sign after it. The word `export` may stand in front, and is a name of
its own if an equals sign follows. -/
def readTarget? (cs : List Char) : Option (String × List Char) := do
  match ← readName? cs with
  | (name, '=' :: rest) => return (name, rest)
  | ("export", rest) =>
    match ← readName? rest with
    | (name, '=' :: rest) => return (name, rest)
    | _ => none
  | _ => none

def isEmptyOrComment : List Char → Bool
  | [] => true
  | c :: _ => c = '#'

/-- The binding that a statement makes; an empty statement or a comment makes none. -/
def readBinding? (statement : List Char) : Option (Option Binding) := do
  let cs := Text.trimChars statement
  if isEmptyOrComment cs then return none
  let (name, rest) ← readTarget? cs
  let rest := Text.dropBlanks rest
  if isEmptyOrComment rest then return some { name, value := [] }
  return some { name, value := ← readValue? (.bare false) rest }

/-- The bindings up to the first statement that cannot be read. -/
def bindings : List (List Char) → List Binding
  | [] => []
  | statement :: rest =>
    match readBinding? statement with
    | none => []
    | some none => bindings rest
    | some (some binding) => binding :: bindings rest

end CloudAudit.EnvironmentFile
