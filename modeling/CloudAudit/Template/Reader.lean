import CloudAudit.Template.Layout

/-!
# Reading templates

The pieces of a template are nested: every opening has a closing of the same name, and at most one
plain change of body after any number of changes with a condition.
-/

namespace CloudAudit.Template

/-- A body that is not closed yet. The branches before it come last first, and `call` is missing
after a plain change of body. -/
structure OpenBody where
  name : String
  call : Option Call
  branches : List (Call × List Node)
  before : List Node

namespace OpenBody

/-- Goes on to the next body. -/
def change (opened : OpenBody) (body : List Node) (next : Option Call) : Option OpenBody :=
  opened.call.map fun call =>
    { opened with call := next, branches := (call, body) :: opened.branches }

/-- The call of the first branch, with each later branch in the other body of the one before. -/
def close (opened : OpenBody) (body : List Node) : List Node :=
  let last :=
    match opened.call with
    | some call => [.call call body []]
    | none => body
  opened.branches.foldl (fun otherwise (call, body) => [.call call body otherwise]) last

end OpenBody

/-- The nodes so far come last first. -/
def nest? (opened : List OpenBody) (nodes : List Node) : List Piece → Option (List Node)
  | [] => if opened.isEmpty then some nodes.reverse else none
  | .text cs :: rest =>
    if cs.isEmpty then nest? opened nodes rest
    else nest? opened (.text (String.ofList cs) :: nodes) rest
  | .tag tag :: rest =>
    match tag.kind, opened with
    | .shown node, _ => nest? opened (node :: nodes) rest
    | .comment, _ => nest? opened nodes rest
    | .opening name call, _ =>
      nest? ({ name, call := some call, branches := [], before := nodes } :: opened) [] rest
    | .otherwise next, inner :: outer => do
      nest? ((← inner.change nodes.reverse next) :: outer) [] rest
    | .closing name, inner :: outer =>
      if inner.name = name then nest? outer (inner.close nodes.reverse ++ inner.before) rest
      else none
    | _, [] => none

/-- The template that a text spells. -/
def read? (s : String) : Option (List Node) := do
  nest? [] [] (Layout.apply true {} (← Piece.ofText? s))

end CloudAudit.Template
