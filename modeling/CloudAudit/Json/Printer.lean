import CloudAudit.Json.Basic
import CloudAudit.Number.Shortest
import CloudAudit.Text.Segments

/-!
# Texts of JSON trees

The compact text, the indented text, and the short text for people, which shows strings as they
are.
-/

namespace CloudAudit.Json

open Number

def hexDigit (n : Nat) : Char :=
  "0123456789abcdef".toList.getD n '0'

/-- Quote, backslash and control characters are escaped; all else stands for itself. -/
def escapeChar (c : Char) : List Char :=
  if c = '"' then ['\\', '"']
  else if c = '\\' then ['\\', '\\']
  else if c = '\n' then ['\\', 'n']
  else if c = '\r' then ['\\', 'r']
  else if c = '\t' then ['\\', 't']
  else if c.toNat = 8 then ['\\', 'b']
  else if c.toNat = 12 then ['\\', 'f']
  else if c.toNat < 32 then ['\\', 'u', '0', '0', hexDigit (c.toNat / 16), hexDigit (c.toNat % 16)]
  else [c]

def quoted (s : String) : String :=
  "\"" ++ Text.replaceChars escapeChar s ++ "\""

mutual

/-- The text without blanks. -/
def compact : Json → String
  | null => "null"
  | bool b => if b then "true" else "false"
  | int n => toString n
  | float x => x.jsonText
  | string s => quoted s
  | array items => "[" ++ Text.join "," (compactItems items) ++ "]"
  | object members => "\x7b" ++ Text.join "," (compactMembers members) ++ "\x7d"

def compactItems : List Json → List String
  | [] => []
  | item :: rest => compact item :: compactItems rest

def compactMembers : List (String × Json) → List String
  | [] => []
  | (key, value) :: rest => (quoted key ++ ":" ++ compact value) :: compactMembers rest

end

/-- A line break and two blanks for each level. -/
def newLine (depth : Nat) : String :=
  String.ofList ('\n' :: List.replicate (2 * depth) ' ')

/-- A bracketed list, one part a line. -/
def block (opening closing : String) (depth : Nat) (parts : List String) : String :=
  if parts.isEmpty then opening ++ closing
  else
    opening ++ newLine (depth + 1) ++ Text.join ("," ++ newLine (depth + 1)) parts
      ++ newLine depth ++ closing

mutual

/-- The indented text of a tree that stands at a depth. -/
def prettyAt (depth : Nat) : Json → String
  | array items => block "[" "]" depth (prettyItems depth items)
  | object members => block "\x7b" "\x7d" depth (prettyMembers depth members)
  | scalar => scalar.compact

def prettyItems (depth : Nat) : List Json → List String
  | [] => []
  | item :: rest => prettyAt (depth + 1) item :: prettyItems depth rest

def prettyMembers (depth : Nat) : List (String × Json) → List String
  | [] => []
  | (key, value) :: rest =>
    (quoted key ++ ": " ++ prettyAt (depth + 1) value) :: prettyMembers depth rest

end

def pretty : Json → String := prettyAt 0

mutual

/-- The text for people: strings as they are, lists of such texts, and the compact text of all
else. -/
def display : Json → String
  | string s => s
  | array items => "[" ++ Text.join "," (displayItems items) ++ "]"
  | other => other.compact

def displayItems : List Json → List String
  | [] => []
  | item :: rest => display item :: displayItems rest

end

end CloudAudit.Json
