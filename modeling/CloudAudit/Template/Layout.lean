import CloudAudit.Template.Piece
import CloudAudit.Text.Blank

/-!
# Blanks around tags

A tag that opens, changes or closes a body, and a comment, take the line with them if nothing but
spaces and tabs stands beside them on it. A tilde takes all blanks on its side.
-/

namespace CloudAudit.Template

namespace Layout

def isIndent (c : Char) : Bool := c = ' ' || c = '\t'

def isBreak (c : Char) : Bool := c = '\n' || c = '\r'

/-- Whether a line begins after a text, given whether one begins before it. -/
def beginsAfter (begins : Bool) (cs : List Char) : Bool :=
  match cs.reverse.dropWhile isIndent with
  | [] => begins
  | c :: _ => isBreak c

/-- Whether nothing more stands on the line, or in the template. -/
def endsBefore : List Piece → Bool
  | [] => true
  | .text cs :: _ => (cs.dropWhile isIndent).head?.any isBreak
  | .tag _ :: _ => false

def dropBreak : List Char → List Char
  | '\r' :: '\n' :: rest => rest
  | '\n' :: rest => rest
  | cs => cs

/-- What the tags so far do to the next text: remove the blanks in front of it, or the rest of a
line. -/
structure Pending where
  trims : Bool := false
  dropsLine : Bool := false

def Pending.apply (pending : Pending) (cs : List Char) : List Char :=
  if pending.trims then Text.dropBlanks cs
  else if pending.dropsLine then dropBreak (cs.dropWhile isIndent)
  else cs

/-- A gap that is removed whole does not count as the rest of a line. -/
def Pending.afterText (pending : Pending) (cs : List Char) : Pending :=
  { pending with dropsLine := pending.dropsLine && pending.trims && cs.all Word.isGap }

/-- Comments leave it to the tag before them whether blanks are removed. -/
def Pending.afterTag (pending : Pending) (tag : Tag) (alone : Bool) : Pending :=
  { trims := if tag.kind matches .comment then pending.trims else tag.trimsAfter
    dropsLine := if tag.takesLine then alone else pending.dropsLine }

/-- What the next tag does to the end of a text. -/
def trimEnd (begins : Bool) (cs : List Char) : List Piece → List Char
  | .tag tag :: rest =>
    if tag.trimsBefore then Text.dropBlanksEnd cs
    else if tag.takesLine && begins && endsBefore rest then
      (cs.reverse.dropWhile isIndent).reverse
    else cs
  | _ => cs

/-- The pieces with the blanks removed that tags remove. -/
def apply (begins : Bool) (pending : Pending) : List Piece → List Piece
  | [] => []
  | .text cs :: rest =>
    let begins := beginsAfter begins cs
    .text (trimEnd begins (pending.apply cs) rest) :: apply begins (pending.afterText cs) rest
  | .tag tag :: rest =>
    let alone := tag.takesLine && begins && endsBefore rest
    .tag tag :: apply false (pending.afterTag tag alone) rest

end Layout

end CloudAudit.Template
