import CloudAudit.Yaml.Folding

/-!
# Plain scalars

A plain scalar ends at a colon with a gap behind it, at a comment, at a line that is not indented
enough, and inside brackets at a bracket or a comma.
-/

namespace CloudAudit.Yaml

/-- The marks of lists and mappings in brackets. -/
def isFlowMark (c : Char) : Bool :=
  c == ',' || c == '[' || c == ']' || c == '\x7b' || c == '\x7d'

/-- Where the reading of a plain scalar stands. -/
structure PlainState where
  /-- A comment, a document mark or the end may stand here: nothing but blanks was read last. -/
  fresh : Bool
  /-- A break is among the blanks read last. -/
  broken : Bool
  column : Nat

/-- The pieces of a plain scalar, last first, and what follows it. A tab may not indent a line, and
inside brackets a colon may not stand before one of their marks. -/
def plainPieces? (inFlow : Bool) (indent : Int) (state : PlainState) (read : List Piece)
    (cs : List Char) : Option (List Piece × List Char) :=
  match cs with
  | [] => some (read, [])
  | c :: rest =>
    if isGap c then
      if state.broken && state.column < indent && c = '\t' then none
      else
        plainPieces? inFlow indent { state with fresh := true, column := state.column + 1 }
          (.gap c :: read) rest
    else
      match _h : takeBreak? (c :: rest) with
      | some (b, after) =>
        plainPieces? inFlow indent ⟨true, true, 0⟩ (.lineBreak b :: read) after
      | none =>
        let ends := state.fresh
          && (c = '#' || (state.broken && !inFlow && state.column < indent)
            || (state.column = 0 && atDocumentMark (c :: rest)))
        if ends then some (read, c :: rest)
        else if inFlow && c = ':' && rest.head?.any (fun d => isFlowMark d || d == '?') then none
        else if (c = ':' && atGapOrEnd rest) || (inFlow && isFlowMark c) then some (read, c :: rest)
        else
          plainPieces? inFlow indent ⟨false, false, state.column + 1⟩ (.content c :: read) rest
termination_by cs.length
decreasing_by
  all_goals try have := length_of_takeBreak? _h
  all_goals simp only [List.length_cons] at *
  all_goals omega

/-- The text of a plain scalar, whether a break follows it, and the rest. -/
def readPlain? (inFlow : Bool) (indent : Int) (column : Nat) (cs : List Char) :
    Option (String × Bool × List Char) :=
  (plainPieces? inFlow indent ⟨true, false, column⟩ [] cs).map fun (read, rest) =>
    let trailing := read.takeWhile fun piece => !(piece matches .content _)
    let broken := trailing.any fun piece => piece matches .lineBreak _
    (String.ofList (foldPieces false read.reverse).reverse, broken, rest)

end CloudAudit.Yaml
