import CloudAudit.Text.Blank

/-!
# Statements of environment files

A file of variables is cut into statements. A statement ends with its line, unless a quotation is
open there, and a comment after a blank ends it before. The statement that the end of the file
leaves unfinished is none.
-/

namespace CloudAudit.EnvironmentFile

/-- What stands open while the characters of a statement pass. -/
inductive Opening where
  | none
  | escape
  | blank
  | single
  | singleEscape
  | double
  | doubleEscape
  deriving DecidableEq, Repr

/-- What is open after one more character. -/
def Opening.next (c : Char) : Opening → Opening
  | .none =>
    if Text.isBlank c && c ≠ '\n' && c ≠ '\r' then .blank else afterBlank c
  | .blank => afterBlank c
  | .escape => .none
  | .single => if c = '\\' then .singleEscape else if c = '\x27' then .none else .single
  | .singleEscape => .single
  | .double => if c = '\\' then .doubleEscape else if c = '"' then .none else .double
  | .doubleEscape => .double
where
  afterBlank (c : Char) : Opening :=
    if c = '\\' then .escape else if c = '"' then .double
    else if c = '\x27' then .single else .none

/-- How a line ends: in a comment, or with something open or nothing. -/
inductive LineEnd where
  | comment (before : List Char)
  | reached (opening : Opening)

/-- Reads one line, up to a comment if there is one. -/
def readLine (opening : Opening) (read : List Char) : List Char → LineEnd
  | [] => .reached opening
  | c :: rest =>
    if opening = .blank ∧ c = '#' then .comment read.reverse
    else readLine (opening.next c) (c :: read) rest

/-- Lines with their line breaks. -/
def lines : List Char → List (List Char)
  | [] => []
  | c :: rest =>
    if c = '\n' then [c] :: lines rest
    else
      match lines rest with
      | [] => [[c]]
      | line :: others => (c :: line) :: others

def withoutBreak (cs : List Char) : List Char :=
  match cs.reverse with
  | '\n' :: '\r' :: rest => rest.reverse
  | '\n' :: rest => rest.reverse
  | _ => cs

def isComment (cs : List Char) : Bool := (Text.dropBlanks cs).head? == some '#'

/-- The statements in lines, where `begun` has been read of one that goes on. -/
def statementsIn (begun : List Char) (opening : Opening) : List (List Char) → List (List Char)
  | [] => []
  | line :: rest =>
    let whole := begun ++ line
    if isComment whole then statementsIn [] .none rest
    else
      match readLine opening [] line with
      | .comment before => (begun ++ before) :: statementsIn [] .none rest
      | .reached .none => withoutBreak whole :: statementsIn [] .none rest
      | .reached opening => statementsIn whole opening rest

/-- The statements of a text, which may start with a byte order mark. -/
def statements (text : String) : List (List Char) :=
  match text.toList with
  | '\ufeff' :: rest => statementsIn [] .none (lines rest)
  | cs => statementsIn [] .none (lines cs)

end CloudAudit.EnvironmentFile
