import CloudAudit.Yaml.Character

/-!
# Block scalars

An indented block of lines, kept as it is or folded. The first line that is not blank sets the
indentation unless the header does, and the header tells what becomes of the breaks at the end.
-/

namespace CloudAudit.Yaml

inductive Chomping where
  | strip
  | clip
  | keep
  deriving DecidableEq, Repr

structure BlockHeader where
  literal : Bool
  chomping : Chomping := .clip
  /-- Indentation relative to the block around. -/
  increment : Option Nat := none

namespace BlockHeader

def chomping? : Char → Option Chomping
  | '+' => some .keep
  | '-' => some .strip
  | _ => none

/-- The indicators after the opening mark, in either order, each at most once. -/
def takeIndicators? (header : BlockHeader) : List Char → Option (BlockHeader × List Char)
  | a :: b :: rest =>
    match chomping? a, chomping? b with
    | some chomping, _ =>
      if b = '0' then none
      else if b.isDigit then
        some ({ header with chomping, increment := some (b.toNat - '0'.toNat) }, rest)
      else some ({ header with chomping }, b :: rest)
    | none, some chomping =>
      if a = '0' then none
      else if a.isDigit then
        some ({ header with chomping, increment := some (a.toNat - '0'.toNat) }, rest)
      else some (header, a :: b :: rest)
    | none, none =>
      if a = '0' then none
      else if a.isDigit then
        some ({ header with increment := some (a.toNat - '0'.toNat) }, b :: rest)
      else some (header, a :: b :: rest)
  | [a] =>
    match chomping? a with
    | some chomping => some ({ header with chomping }, [])
    | none =>
      if a = '0' then none
      else if a.isDigit then some ({ header with increment := some (a.toNat - '0'.toNat) }, [])
      else some (header, [a])
  | [] => some (header, [])

/-- The header with its comment, up to the first line of the block. -/
def read? (literal : Bool) (cs : List Char) : Option (BlockHeader × List Char) := do
  let (header, rest) ← takeIndicators? { literal } cs
  let rest := rest.dropWhile isGap
  let rest := if rest.head? = some '#' then rest.dropWhile fun c => !isBreak c else rest
  if !atBreakOrEnd rest then none
  else
    match takeBreak? rest with
    | some (_, lines) => some (header, lines)
    | none => some (header, rest)

end BlockHeader

/-- Blank lines in front of a line of the block. -/
structure BlankLines where
  /-- The breaks, last first. -/
  breaks : List Char
  /-- The deepest indentation among them and the line behind them. -/
  deepest : Nat
  /-- The indentation that was passed of the line behind them. -/
  column : Nat
  rest : List Char

/-- Passes blank lines and the indentation behind them; without a known indentation all of it. A
tab may not stand in it. -/
def takeBlankLines? (indent : Option Nat) (breaks : List Char) (deepest : Nat) (cs : List Char) :
    Option BlankLines :=
  let spaces := cs.takeWhile (· == ' ')
  let column := (indent.map (min · spaces.length)).getD spaces.length
  let line := cs.drop column
  let short := (indent.map fun n => decide (column < n)).getD true
  if short && line.head? = some '\t' then none
  else
    match _h : takeBreak? line with
    | some (b, rest) => takeBlankLines? indent (b :: breaks) (max deepest column) rest
    | none => some ⟨breaks, max deepest column, column, line⟩
termination_by cs.length
decreasing_by
  have := length_of_takeBreak? _h
  simp only [line, List.length_drop] at this
  omega

/-- What has been read of a block. -/
structure BlockState where
  /-- The text, last character first. -/
  done : List Char := []
  /-- The break behind the last line. -/
  lastBreak : Option Char := none
  /-- Whether the last line began with a gap. -/
  lastGap : Bool := false

/-- Adds what stands between two lines of text: folding turns one break into a space, unless one of
the lines begins with a gap. -/
def BlockState.between (state : BlockState) (literal : Bool) (breaks : List Char) (gap : Bool) :
    List Char :=
  if !literal && state.lastBreak = some '\n' && !state.lastGap && !gap then
    if breaks.isEmpty then ' ' :: state.done else breaks ++ state.done
  else breaks ++ state.lastBreak.toList ++ state.done

/-- The lines of a block at its indentation; the fuel is one for each line. -/
def takeLines? (literal : Bool) (indent : Nat) :
    Nat → BlockState → BlankLines → Option (BlockState × BlankLines)
  | 0, state, blank => some (state, blank)
  | fuel + 1, state, blank =>
    match blank.rest with
    | [] => some (state, blank)
    | c :: _ =>
      if blank.column ≠ indent then some (state, blank)
      else do
        let line := blank.rest.takeWhile fun c => !isBreak c
        let after := blank.rest.drop line.length
        let done := line.reverse ++ state.between literal blank.breaks (isGap c)
        let (lastBreak, lines) :=
          match takeBreak? after with
          | some (b, lines) => (some b, lines)
          | none => (none, after)
        let next ← takeBlankLines? (some indent) [] 0 lines
        takeLines? literal indent fuel { done, lastBreak, lastGap := isGap c } next

/-- The text of a block scalar after its opening mark, the rest, and the column of the rest.
`outer` is the indentation of the block around, or -1. -/
def readBlock? (literal : Bool) (outer : Int) (cs : List Char) :
    Option (String × List Char) := do
  let (header, lines) ← BlockHeader.read? literal cs
  let given := header.increment.map fun n => (max outer 0).toNat + n
  let blank ← takeBlankLines? given [] 0 lines
  let indent := given.getD (max blank.deepest (max (outer + 1).toNat 1))
  let (state, blank) ← takeLines? literal indent (lines.length + 1) {} blank
  let withBreak := state.lastBreak.toList ++ state.done
  let text :=
    match header.chomping with
    | .strip => state.done
    | .clip => withBreak
    | .keep => blank.breaks ++ withBreak
  return (String.ofList text.reverse, blank.rest)

end CloudAudit.Yaml
