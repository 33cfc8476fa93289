/-!
# Characters of YAML

The characters that a text may hold, and the classes that its grammar tells apart.
-/

namespace CloudAudit.Yaml

/-- Control characters other than tabs and line breaks, and noncharacters, are not allowed. -/
def isAllowed (c : Char) : Bool :=
  let n := c.toNat
  n == 0x09 || n == 0x0A || n == 0x0D || (0x20 ≤ n && n ≤ 0x7E) || n == 0x85
    || (0xA0 ≤ n && n ≤ 0xD7FF) || (0xE000 ≤ n && n ≤ 0xFFFD) || 0x10000 ≤ n

def isBreak (c : Char) : Bool :=
  c == '\n' || c == '\r' || c == '\x85' || c == '\u2028' || c == '\u2029'

/-- A space or a tab. -/
def isGap (c : Char) : Bool := c == ' ' || c == '\t'

/-- The text is at its end, at a break, or at a gap. -/
def atGapOrEnd : List Char → Bool
  | [] => true
  | c :: _ => isGap c || isBreak c

def atBreakOrEnd : List Char → Bool
  | [] => true
  | c :: _ => isBreak c

/-- The characters of names of anchors, tags and directives. -/
def isNameChar (c : Char) : Bool :=
  c.isAlphanum || c == '_' || c == '-'

/-- A break as it is kept in a value, and what follows it. All breaks but the two separators become
a line feed. -/
def takeBreak? : List Char → Option (Char × List Char)
  | '\r' :: '\n' :: rest => some ('\n', rest)
  | '\u2028' :: rest => some ('\u2028', rest)
  | '\u2029' :: rest => some ('\u2029', rest)
  | c :: rest => if isBreak c then some ('\n', rest) else none
  | [] => none

theorem length_of_takeBreak? {cs rest : List Char} {c : Char} (h : takeBreak? cs = some (c, rest)) :
    rest.length < cs.length := by
  unfold takeBreak? at h
  split at h
  · cases h; simp only [List.length_cons]; omega
  · cases h; simp
  · cases h; simp
  · split at h
    · cases h; simp
    · cases h
  · cases h

/-- Whether a line starts with three marks and a gap, which separates documents. -/
def atDocumentMark : List Char → Bool
  | '-' :: '-' :: '-' :: rest => atGapOrEnd rest
  | '.' :: '.' :: '.' :: rest => atGapOrEnd rest
  | _ => false

/-- A place in a text: what is left of it, and what has been passed. -/
structure Cursor where
  rest : List Char
  index : Nat := 0
  line : Nat := 0
  column : Nat := 0

namespace Cursor

/-- Passes characters; a carriage return before a line feed makes one break with it. -/
def pass (cursor : Cursor) : Nat → Cursor
  | 0 => cursor
  | n + 1 =>
    match cursor.rest with
    | [] => cursor
    | c :: rest =>
      let ends := isBreak c && !(c == '\r' && rest.head? == some '\n')
      if ends then
        pass { rest, index := cursor.index + 1, line := cursor.line + 1, column := 0 } n
      else
        pass { rest, index := cursor.index + 1, line := cursor.line, column := cursor.column + 1 } n

/-- Passes everything up to a later rest of the text. -/
def passTo (cursor : Cursor) (rest : List Char) : Cursor :=
  cursor.pass (cursor.rest.length - rest.length)

end Cursor

end CloudAudit.Yaml
