import CloudAudit.Yaml.Character

/-!
# Folding of lines

A quoted or plain scalar may run over several lines. Blanks around a break are dropped; one break
becomes a space, and of several breaks the first is dropped. A separator that breaks a line is kept.
-/

namespace CloudAudit.Yaml

/-- A part of a scalar before folding. -/
inductive Piece where
  | content (c : Char)
  | gap (c : Char)
  | lineBreak (c : Char)
  /-- A break that is taken back by a backslash in front of it. -/
  | joined
  deriving DecidableEq, Repr

/-- What stands between the last content and the next. -/
inductive Between where
  | gaps (read : List Char)
  | breaks (first : Option Char) (more : List Char)

namespace Between

def none : Between := gaps []

/-- What becomes of it when content follows. The characters are kept last first. -/
def fold : Between → List Char
  | gaps read => read
  | breaks (some '\n') [] => [' ']
  | breaks (some '\n') more => more
  | breaks (some c) more => more ++ [c]
  | breaks Option.none more => more

def add : Between → Piece → Between
  | gaps read, .gap c => gaps (c :: read)
  | gaps _, .lineBreak c => breaks (some c) []
  | gaps _, .joined => breaks Option.none []
  | breaks first more, .lineBreak c => breaks first (c :: more)
  | between, _ => between

end Between

/-- The text of the pieces, last character first; blanks and breaks at the end are folded too when
`whole`. -/
def foldPieces (whole : Bool) (pieces : List Piece) : List Char :=
  let (done, between) := pieces.foldl
    (fun (done, between) piece =>
      match piece with
      | .content c => (c :: between.fold ++ done, Between.none)
      | .joined => (between.fold ++ done, Between.none.add .joined)
      | other => (done, between.add other))
    ([], Between.none)
  if whole then between.fold ++ done else done

end CloudAudit.Yaml
