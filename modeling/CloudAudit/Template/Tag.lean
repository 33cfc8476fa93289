import CloudAudit.Template.Word

/-!
# Tags

What stands between double braces: a value or a call to be shown, the opening of a body, the change
to another body, the closing of one, or a comment. A tilde at either end of a tag removes the blanks
on that side.
-/

namespace CloudAudit.Template

inductive TagKind where
  | shown (node : Node)
  | opening (name : String) (call : Call)
  | otherwise (call : Option Call)
  | closing (name : String)
  | comment

structure Tag where
  kind : TagKind
  trimsBefore : Bool := false
  trimsAfter : Bool := false

namespace Tag

def comment : Tag := { kind := .comment }

/-! ## Calls -/

/-- The arguments of a call, then the names between bars. -/
def arguments? (call : Call) : List Word → Option Call
  | [] => some call
  | key :: .equals :: value :: rest => do
    let option := (← key.name?, ← value.argument?)
    arguments? { call with options := call.options ++ [option] } rest
  | [.bare ['a', 's'], .bar, first, .bar] => do
    return { call with names := [← first.name?] }
  | [.bare ['a', 's'], .bar, first, second, .bar] => do
    return { call with names := [← first.name?, ← second.name?] }
  | word :: rest => do
    arguments? { call with arguments := call.arguments ++ [← word.argument?] } rest

/-- A name with arguments. -/
def call? : List Word → Option (String × Call)
  | [] => none
  | first :: rest => do
    let name ← first.name?
    return (name, ← arguments? { helper := Helper.ofName name } rest)

/-- A word alone is a helper if one has that name, and else a reference. -/
def single? (word : List Char) : Option Node :=
  match Helper.ofName? (String.ofList word) with
  | some helper => some (.call { helper } [] [])
  | none => (Word.reference? word).map .value

def expression? : List Word → Option Node
  | [.bare word] => single? word
  | words => do
    let (_, call) ← call? words
    if call.names.isEmpty then return .call call [] [] else none

/-! ## Kinds -/

/-- Without the gaps at both ends. -/
def trimGaps (cs : List Char) : List Char :=
  ((cs.dropWhile Word.isGap).reverse.dropWhile Word.isGap).reverse

/-- Whether a tilde stands at the front and at the end, and what is between. -/
def tildes (cs : List Char) : Bool × Bool × List Char :=
  let cs := trimGaps cs
  let before := cs.head? = some '~'
  let cs := if before then cs.drop 1 else cs
  let after := cs.getLast? = some '~'
  (before, after, trimGaps (if after then cs.dropLast else cs))

def otherwise? : List Word → Option TagKind
  | [] => some (.otherwise none)
  | words => do
    let (_, call) ← call? words
    return .otherwise (some call)

def kind? (body : List Char) : Option TagKind :=
  match body with
  | '#' :: rest => do
    let (name, call) ← call? (← Word.ofText? rest)
    return .opening name call
  | '/' :: rest => do
    match ← Word.ofText? rest with
    | [word] => return .closing (← word.name?)
    | _ => none
  | '^' :: rest => do otherwise? (← Word.ofText? rest)
  | '&' :: rest => do
    match ← Word.ofText? rest with
    | [.bare word] => return .shown (← single? word)
    | _ => none
  | '>' :: rest => do
    let _ ← Word.ofText? rest
    return .shown (.call { helper := .unknown (String.ofList body) } [] [])
  | _ => do
    match ← Word.ofText? body with
    | .bare ['e', 'l', 's', 'e'] :: words => otherwise? words
    | words => return .shown (← expression? words)

/-- The inside of a tag; a third pair of braces may have the tildes inside. -/
def ofText? (inside : List Char) : Option Tag := do
  let (before, after, body) := tildes inside
  match body with
  | '{' :: rest =>
    if rest.getLast? = some '}' then
      let (innerBefore, innerAfter, body) := tildes rest.dropLast
      if (before || after) && (innerBefore || innerAfter) then none
      else
        return { kind := .shown (← expression? (← Word.ofText? body))
                 trimsBefore := before || innerBefore, trimsAfter := after || innerAfter }
    else none
  | body => return { kind := ← kind? body, trimsBefore := before, trimsAfter := after }

/-- Whether a tag that has a line for itself takes the line with it. -/
def takesLine (tag : Tag) : Bool :=
  match tag.kind with
  | .shown _ => false
  | _ => true

end Tag

end CloudAudit.Template
