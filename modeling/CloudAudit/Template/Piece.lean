import CloudAudit.Text.Segments
import CloudAudit.Template.Tag

/-!
# Pieces of a template

A template is cut into texts and tags. A backslash in front of double braces makes them text; of
several backslashes one is dropped and the braces open a tag.
-/

namespace CloudAudit.Template

inductive Piece where
  | text (cs : List Char)
  | tag (tag : Tag)

namespace Piece

/-- Where the inside of a tag is at: outside of quotes and brackets, inside of them, or behind a
backslash in quotes. -/
inductive Inside where
  | outside
  | bracket
  | quote (mark : Char)
  | escape (mark : Char)

/-- What the cutting is in, with the characters so far, last first. -/
inductive Cutting where
  | text (cs : List Char)
  | tag (inside : Inside) (braced : Bool) (cs : List Char)
  | comment
  | longComment

/-- A text, if there is any of it, in front of what follows. -/
def addText (reversed : List Char) (pieces : List Piece) : List Piece :=
  if reversed.isEmpty then pieces else .text reversed.reverse :: pieces

def Inside.next (inside : Inside) (c : Char) : Inside :=
  match inside with
  | .outside => if c = '[' then .bracket else if Word.isQuote c then .quote c else .outside
  | .bracket => if c = ']' then .outside else .bracket
  | .quote mark => if c = mark then .outside else if c = '\\' then .escape mark else .quote mark
  | .escape mark => .quote mark

/-- What follows double braces. -/
def opened (rest : List Char) : Cutting :=
  match rest with
  | '!' :: '-' :: '-' :: more =>
    if Text.occursIn "--\x7d\x7d".toList more then .longComment else .comment
  | '!' :: _ => .comment
  | _ => .tag .outside false []

/-- The characters of a comment's mark that cannot belong to its end. -/
def afterMark (state : Cutting) (rest : List Char) : List Char :=
  match state with
  | .longComment => rest.drop 3
  | _ => rest

theorem length_afterMark_le (state : Cutting) (rest : List Char) :
    (afterMark state rest).length ≤ rest.length := by
  cases state <;> simp [afterMark]

def cut? (state : Cutting) (cs : List Char) : Option (List Piece) :=
  match state, cs with
  | .text before, [] => some (addText before [])
  | _, [] => none
  | .text before, '{' :: '{' :: rest =>
    match before with
    | '\\' :: '\\' :: more =>
      (cut? (opened rest) (afterMark (opened rest) rest)).map (addText ('\\' :: more))
    | '\\' :: more =>
      match rest with
      | '{' :: '{' :: rest => cut? (.text ('{' :: '{' :: '{' :: '{' :: more)) rest
      | rest => cut? (.text ('{' :: '{' :: more)) rest
    | _ => (cut? (opened rest) (afterMark (opened rest) rest)).map (addText before)
  | .text before, c :: rest => cut? (.text (c :: before)) rest
  | .comment, '}' :: '}' :: rest => (cut? (.text []) rest).map (.tag Tag.comment :: ·)
  | .longComment, '-' :: '-' :: '}' :: '}' :: rest =>
    (cut? (.text []) rest).map (.tag Tag.comment :: ·)
  | .tag .outside true before, '}' :: rest => cut? (.tag .outside false ('}' :: before)) rest
  | .tag .outside false before, '}' :: '}' :: rest => do
    let tag ← Tag.ofText? before.reverse
    return .tag tag :: (← cut? (.text []) rest)
  | .tag .outside _ before, '{' :: rest => cut? (.tag .outside true ('{' :: before)) rest
  | .tag inside braced before, c :: rest => cut? (.tag (inside.next c) braced (c :: before)) rest
  | state, _ :: rest => cut? state rest
termination_by cs.length
decreasing_by
  all_goals
    simp only [List.length_cons]
    first
    | omega
    | exact Nat.lt_succ_of_le (Nat.le_succ_of_le (length_afterMark_le _ _))

def ofText? (s : String) : Option (List Piece) := cut? (.text []) s.toList

end Piece

end CloudAudit.Template
