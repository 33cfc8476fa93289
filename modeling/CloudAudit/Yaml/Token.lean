import CloudAudit.Yaml.Block
import CloudAudit.Yaml.Plain
import CloudAudit.Yaml.Quoted

/-!
# Tokens of YAML

The words of the grammar. Indentation is turned into marks that open and close block collections.
That a scalar was a key is known only at the colon behind it, so the mark of a key, and of the
mapping it opens, is put in front of tokens read before (`Simple`).
-/

namespace CloudAudit.Yaml

inductive ScalarStyle where
  | plain
  | literal
  | other
  deriving DecidableEq, Repr

inductive Token where
  | version (major minor : Nat)
  | tagShorthand (handle full : String)
  | documentStart
  | documentEnd
  | blockSequence
  | blockMapping
  | blockEnd
  | flowSequence
  | flowSequenceEnd
  | flowMapping
  | flowMappingEnd
  | entry
  | separator
  | key
  | value
  | alias (name : String)
  | anchor (name : String)
  | tag (handle suffix : String)
  | scalar (text : String) (style : ScalarStyle)
  deriving DecidableEq, Repr

/-! ## Names, tags and directives -/

/-- A name of letters, digits, dashes and underscores, and what follows it. -/
def takeName? (cs : List Char) : Option (String × List Char) :=
  let name := cs.takeWhile isNameChar
  if name.isEmpty then none else some (String.ofList name, cs.drop name.length)

/-- The name of an anchor or alias, with a gap or an indicator behind it. -/
def takeAnchor? (cs : List Char) : Option (String × List Char) := do
  let (name, rest) ← takeName? cs
  if atGapOrEnd rest || rest.head?.any (fun c => "?:,]\x7d%@`".toList.contains c) then
    some (name, rest)
  else none

def isTagChar (verbatim : Bool) (c : Char) : Bool :=
  isNameChar c || ";/?:@&=+$.!~*\x27()".toList.contains c
    || (verbatim && (c == ',' || c == '[' || c == ']'))

/-- One byte as a percent sign and two hexadecimal digits. -/
def takeEscapedByte? : List Char → Option (Nat × List Char)
  | '%' :: a :: b :: rest => do return (16 * (← hexDigit? a) + (← hexDigit? b), rest)
  | _ => none

/-- The bytes after the first one of a character. -/
def takeTail? : Nat → Nat → List Char → Option (Nat × List Char)
  | 0, code, cs => some (code, cs)
  | n + 1, code, cs => do
    let (b, rest) ← takeEscapedByte? cs
    if b / 64 = 2 then takeTail? n (64 * code + b % 64) rest else none

/-- A character as its escaped bytes. -/
def takeEscapedChar? (cs : List Char) : Option (Char × List Char) := do
  let (b, rest) ← takeEscapedByte? cs
  let (code, rest) ←
    if b < 0x80 then some (b, rest)
    else if b / 32 = 6 then takeTail? 1 (b % 32) rest
    else if b / 16 = 14 then takeTail? 2 (b % 16) rest
    else if b / 8 = 30 then takeTail? 3 (b % 8) rest
    else none
  return (← charOfCode? code, rest)

/-- The characters of a tag, last first, and what follows them; the fuel is one for each. -/
def takeTagChars? (verbatim : Bool) : Nat → List Char → List Char → Option (List Char × List Char)
  | 0, read, cs => some (read, cs)
  | fuel + 1, read, cs =>
    match cs with
    | [] => some (read, [])
    | c :: rest =>
      if c = '%' then do
        let (e, rest) ← takeEscapedChar? cs
        takeTagChars? verbatim fuel (e :: read) rest
      else if isTagChar verbatim c then takeTagChars? verbatim fuel (c :: read) rest
      else some (read, cs)

/-- The characters of a tag after those that stand already. -/
def takeTagText? (verbatim : Bool) (start : List Char) (cs : List Char) :
    Option (String × List Char) := do
  let (read, rest) ← takeTagChars? verbatim (cs.length + 1) start.reverse cs
  return (String.ofList read.reverse, rest)

/-- An exclamation mark, a name if there is one, and another mark if there is one. -/
def takeHandle? : List Char → Option (List Char × List Char)
  | '!' :: rest =>
    let name := rest.takeWhile isNameChar
    match rest.drop name.length with
    | '!' :: after => some ('!' :: name ++ ['!'], after)
    | after => some ('!' :: name, after)
  | _ => none

/-- A tag in pointed brackets, with a handle, or with the primary handle; a single mark is the tag
that says nothing. -/
def takeTag? (inFlow : Bool) (cs : List Char) : Option (Token × List Char) := do
  let (handle, suffix, rest) ←
    match cs with
    | '!' :: '<' :: body => do
      let (suffix, rest) ← takeTagText? true [] body
      match rest with
      | '>' :: rest => if suffix.isEmpty then none else some ("", suffix, rest)
      | _ => none
    | _ => do
      let (handle, rest) ← takeHandle? cs
      if 1 < handle.length && handle.getLast? = some '!' then
        let (suffix, rest) ← takeTagText? false [] rest
        if suffix.isEmpty then none else some (String.ofList handle, suffix, rest)
      else
        let (suffix, rest) ← takeTagText? false (handle.drop 1) rest
        if suffix.isEmpty then some ("", "!", rest) else some ("!", suffix, rest)
  if atGapOrEnd rest || (inFlow && rest.head? = some ',') then some (.tag handle suffix, rest)
  else none

/-- A number of at most nine digits. -/
def takeVersionNumber? (cs : List Char) : Option (Nat × List Char) :=
  let digits := cs.takeWhile Char.isDigit
  if digits.isEmpty || 9 < digits.length then none
  else
    some (digits.foldl (fun n c => 10 * n + (c.toNat - '0'.toNat)) 0, cs.drop digits.length)

/-- A directive after its percent sign, up to the end of its line. -/
def takeDirective? (cs : List Char) : Option (Token × List Char) := do
  let (name, rest) ← takeName? cs
  if !atGapOrEnd rest then none
  else
    let rest := rest.dropWhile isGap
    let (token, rest) ←
      match name with
      | "YAML" => do
        let (major, rest) ← takeVersionNumber? rest
        match rest with
        | '.' :: rest =>
          let (minor, rest) ← takeVersionNumber? rest
          some (Token.version major minor, rest)
        | _ => none
      | "TAG" => do
        let (handle, rest) ← takeHandle? rest
        let closed := handle.length = 1 || handle.getLast? = some '!'
        if !closed || !rest.head?.any isGap then none
        else
          let (full, rest) ← takeTagText? true [] (rest.dropWhile isGap)
          if full.isEmpty || !atGapOrEnd rest then none
          else some (Token.tagShorthand (String.ofList handle) full, rest)
      | _ => none
    let rest := rest.dropWhile isGap
    let rest := if rest.head? = some '#' then rest.dropWhile fun c => !isBreak c else rest
    if !atBreakOrEnd rest then none
    else
      match takeBreak? rest with
      | some (_, rest) => some (token, rest)
      | none => some (token, rest)

/-! ## The state between tokens -/

/-- A token that may turn out to be a key. -/
structure Simple where
  /-- Nothing but a key may stand here. -/
  required : Bool
  /-- How many tokens were there before it. -/
  position : Nat
  index : Nat
  line : Nat
  column : Nat

structure LexState where
  cursor : Cursor
  /-- The tokens, last first. -/
  tokens : List Token := []
  /-- The column of the innermost open block, or -1. -/
  indent : Int := -1
  /-- The columns of the blocks around it. -/
  outer : List Int := []
  /-- A possible key for each open bracket, and for the text outside brackets. -/
  simples : List (Option Simple) := [none]
  keyAllowed : Bool := true

namespace LexState

def inFlow (s : LexState) : Bool := 1 < s.simples.length

def emit (s : LexState) (token : Token) : LexState :=
  { s with tokens := token :: s.tokens }

/-- Puts a token behind the first `position` ones. -/
def insertAt (s : LexState) (position : Nat) (token : Token) : LexState :=
  { s with tokens := s.tokens.insertIdx (s.tokens.length - position) token }

def pass (s : LexState) (n : Nat) : LexState :=
  { s with cursor := s.cursor.pass n }

def passTo (s : LexState) (rest : List Char) : LexState :=
  { s with cursor := s.cursor.passTo rest }

def allowKey (s : LexState) (allowed : Bool) : LexState :=
  { s with keyAllowed := allowed }

/-- Closes the blocks that are indented more than a column. -/
def unroll (s : LexState) (column : Int) : LexState :=
  if s.inFlow then s
  else
    let closed := (s.indent :: s.outer).takeWhile fun indent => column < indent
    let left := (s.indent :: s.outer).drop closed.length
    { s with
      tokens := closed.map (fun _ => Token.blockEnd) ++ s.tokens
      indent := left.headD (-1)
      outer := left.drop 1 }

/-- Opens a block at a column, unless the innermost one is there already. -/
def roll (s : LexState) (column position : Nat) (token : Token) : LexState :=
  if s.inFlow || (column : Int) ≤ s.indent then s
  else
    { s.insertAt position token with indent := column, outer := s.indent :: s.outer }

def rollHere (s : LexState) (token : Token) : LexState :=
  s.roll s.cursor.column s.tokens.length token

/-- Gives up the possible key of the innermost bracket. -/
def dropSimple? (s : LexState) : Option LexState :=
  match s.simples with
  | some simple :: rest => if simple.required then none else some { s with simples := none :: rest }
  | _ => some s

/-- The next token may be a key. -/
def saveSimple? (s : LexState) : Option LexState :=
  if !s.keyAllowed then some s
  else do
    let s ← s.dropSimple?
    let simple : Simple :=
      { required := !s.inFlow && s.indent == (s.cursor.column : Int)
        position := s.tokens.length
        index := s.cursor.index, line := s.cursor.line, column := s.cursor.column }
    return { s with simples := some simple :: s.simples.drop 1 }

/-- Longest text between the start of a key and its colon. -/
def keyLimit : Nat := 1024

def isStale (s : LexState) (simple : Simple) : Bool :=
  simple.line < s.cursor.line || simple.index + keyLimit < s.cursor.index

/-- Gives up all possible keys that are too far back. -/
def dropStale? (s : LexState) : Option LexState := do
  let simples ← s.simples.mapM fun simple? =>
    match simple? with
    | some simple =>
      if s.isStale simple then if simple.required then none else some none else some (some simple)
    | none => some none
  return { s with simples }

/-- Passes blanks, comments and breaks; the fuel is one for each of them. A tab may not stand where
a key may. -/
def skipBlanks : Nat → LexState → LexState
  | 0, s => s
  | fuel + 1, s =>
    match s.cursor.rest with
    | [] => s
    | c :: _ =>
      if (c = '\ufeff' && s.cursor.index = 0) || c = ' '
        || (c = '\t' && (s.inFlow || !s.keyAllowed)) then skipBlanks fuel (s.pass 1)
      else if c = '#' then
        skipBlanks fuel (s.passTo (s.cursor.rest.dropWhile fun c => !isBreak c))
      else
        match takeBreak? s.cursor.rest with
        | some (_, rest) =>
          skipBlanks fuel ((s.passTo rest).allowKey (!s.inFlow || s.keyAllowed))
        | none => s

/-! ## One token -/

def openFlow? (s : LexState) (token : Token) : Option LexState := do
  let s ← s.saveSimple?
  return ({ s with simples := none :: s.simples }.allowKey true).emit token |>.pass 1

def closeFlow? (s : LexState) (token : Token) : Option LexState := do
  let s ← s.dropSimple?
  let simples := if s.inFlow then s.simples.drop 1 else s.simples
  return ({ s with simples }.allowKey false).emit token |>.pass 1

def separator? (s : LexState) : Option LexState := do
  return (((← s.dropSimple?).allowKey true).emit .separator).pass 1

def entry? (s : LexState) : Option LexState :=
  if !s.inFlow && !s.keyAllowed then none
  else do return (((← (s.rollHere .blockSequence).dropSimple?).allowKey true).emit .entry).pass 1

def key? (s : LexState) : Option LexState :=
  if !s.inFlow && !s.keyAllowed then none
  else do
    let s ← (s.rollHere .blockMapping).dropSimple?
    return ((s.allowKey (!s.inFlow)).emit .key).pass 1

def value? (s : LexState) : Option LexState :=
  match s.simples with
  | some simple :: rest =>
    let s := (s.insertAt simple.position .key).roll simple.column simple.position .blockMapping
    some (({ s with simples := none :: rest }.allowKey false).emit .value |>.pass 1)
  | _ =>
    if !s.inFlow && !s.keyAllowed then none
    else
      let s := s.rollHere .blockMapping
      some (((s.allowKey (!s.inFlow)).emit .value).pass 1)

/-- A mark or a directive between documents. -/
def betweenDocuments? (s : LexState) : Option LexState := do
  return (← (s.unroll (-1)).dropSimple?).allowKey false

def named? (s : LexState) (make : String → Token) : Option LexState := do
  let (name, rest) ← takeAnchor? (s.cursor.rest.drop 1)
  return (((← s.saveSimple?).allowKey false).emit (make name)).passTo rest

def tag? (s : LexState) : Option LexState := do
  let (token, rest) ← takeTag? s.inFlow s.cursor.rest
  return (((← s.saveSimple?).allowKey false).emit token).passTo rest

def block? (s : LexState) (literal : Bool) : Option LexState := do
  let s ← s.dropSimple?
  let (text, rest) ← readBlock? literal s.indent (s.cursor.rest.drop 1)
  let style := if literal then ScalarStyle.literal else .other
  return ((s.allowKey true).emit (.scalar text style)).passTo rest

def quoted? (s : LexState) (double : Bool) : Option LexState := do
  let (text, rest) ← readQuoted? double (s.cursor.column + 1) (s.cursor.rest.drop 1)
  return (((← s.saveSimple?).allowKey false).emit (.scalar text .other)).passTo rest

def plain? (s : LexState) : Option LexState := do
  let (text, broken, rest) ←
    readPlain? s.inFlow (s.indent + 1) s.cursor.column s.cursor.rest
  return (((← s.saveSimple?).allowKey broken).emit (.scalar text .plain)).passTo rest

/-- Characters that begin no plain scalar, unless a rule of their own says so. -/
def indicators : List Char := "-?:,[]\x7b\x7d#&*!|>\x27\"%@`".toList

/-- The token at the cursor. -/
def token? (s : LexState) (c : Char) (rest : List Char) : Option LexState :=
  let spaced := s.inFlow || atGapOrEnd rest
  if s.cursor.column = 0 && c = '%' then do
    let s ← s.betweenDocuments?
    let (token, rest) ← takeDirective? rest
    return (s.emit token).passTo rest
  else if s.cursor.column = 0 && atDocumentMark (c :: rest) then do
    let s ← s.betweenDocuments?
    return (s.emit (if c = '-' then .documentStart else .documentEnd)).pass 3
  else if c = '[' then s.openFlow? .flowSequence
  else if c = '\x7b' then s.openFlow? .flowMapping
  else if c = ']' then s.closeFlow? .flowSequenceEnd
  else if c = '\x7d' then s.closeFlow? .flowMappingEnd
  else if c = ',' then s.separator?
  else if c = '-' && atGapOrEnd rest then s.entry?
  else if c = '?' && spaced then s.key?
  else if c = ':' && spaced then s.value?
  else if c = '*' then s.named? .alias
  else if c = '&' then s.named? .anchor
  else if c = '!' then s.tag?
  else if c = '|' && !s.inFlow then s.block? true
  else if c = '>' && !s.inFlow then s.block? false
  else if c = '\x27' then s.quoted? false
  else if c = '"' then s.quoted? true
  else if isGap c then none
  else if !indicators.contains c || c = '-' || (!s.inFlow && (c = '?' || c = ':')) then s.plain?
  else none

/-- The end of the text closes all blocks. -/
def finish? (s : LexState) : Option (List Token) := do
  return (← (s.unroll (-1)).dropSimple?).tokens.reverse

/-- All tokens; the fuel is one for each. -/
def tokens? : Nat → LexState → Option (List Token)
  | 0, _ => none
  | fuel + 1, s => do
    let s ← (s.skipBlanks (s.cursor.rest.length + 1)).dropStale?
    match s.cursor.rest with
    | [] => s.finish?
    | c :: rest => tokens? fuel (← (s.unroll s.cursor.column).token? c rest)

end LexState

/-- The tokens of a text. -/
def tokens? (s : String) : Option (List Token) :=
  let cs := s.toList
  if cs.all isAllowed then LexState.tokens? (cs.length + 1) { cursor := { rest := cs } } else none

end CloudAudit.Yaml
