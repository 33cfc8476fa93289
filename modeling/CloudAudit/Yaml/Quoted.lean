import CloudAudit.Yaml.Folding

/-!
# Quoted scalars

Between single quotes a quote is written twice. Between double quotes a backslash begins an escape,
or takes back the break behind it.
-/

namespace CloudAudit.Yaml

def hexDigit? (c : Char) : Option Nat :=
  if c.isDigit then some (c.toNat - '0'.toNat)
  else
    let l := c.toLower
    if 'a' ≤ l ∧ l ≤ 'f' then some (l.toNat - 'a'.toNat + 10) else none

/-- The character with a code, unless it is half of a pair or too large. -/
def charOfCode? (code : Nat) : Option Char :=
  if h : code.isValidChar then some (Char.ofNatAux code h) else none

/-- The character of a hexadecimal code. -/
def charOfHex? (digits : List Char) : Option Char :=
  (digits.foldlM (fun code c => (hexDigit? c).map (16 * code + ·)) 0).bind charOfCode?

/-- How many hexadecimal digits an escape takes. -/
def hexWidth? : Char → Option Nat
  | 'x' => some 2
  | 'u' => some 4
  | 'U' => some 8
  | _ => none

def namedEscape? : Char → Option Char
  | '0' => some '\x00'
  | 'a' => some '\x07'
  | 'b' => some '\x08'
  | 't' => some '\t'
  | '\t' => some '\t'
  | 'n' => some '\n'
  | 'v' => some '\x0b'
  | 'f' => some '\x0c'
  | 'r' => some '\r'
  | 'e' => some '\x1b'
  | ' ' => some ' '
  | '"' => some '"'
  | '/' => some '/'
  | '\\' => some '\\'
  | 'N' => some '\x85'
  | '_' => some '\u00a0'
  | 'L' => some '\u2028'
  | 'P' => some '\u2029'
  | _ => none

/-- The character of an escape, and how many characters it takes after the backslash. -/
def readEscape? : List Char → Option (Char × Nat)
  | [] => none
  | c :: rest =>
    match hexWidth? c with
    | some width =>
      if rest.length < width then none
      else (charOfHex? (rest.take width)).map fun e => (e, width + 1)
    | none => (namedEscape? c).map fun e => (e, 1)

/-- The pieces up to the closing quote, last first, and what follows it. -/
def quotedPieces? (double : Bool) (column : Nat) (read : List Piece) (cs : List Char) :
    Option (List Piece × List Char) :=
  if column = 0 && atDocumentMark cs then none
  else
    match cs with
    | [] => none
    | c :: rest =>
      if c = (if double then '"' else '\x27') then
        if !double && rest.head? = some '\x27' then
          quotedPieces? double (column + 2) (.content c :: read) (rest.drop 1)
        else some (read, rest)
      else if double && c = '\\' then
        match _h : takeBreak? rest with
        | some (_, after) => quotedPieces? double 0 (.joined :: read) after
        | none =>
          match readEscape? rest with
          | some (e, width) =>
            quotedPieces? double (column + 1 + width) (.content e :: read) (rest.drop width)
          | none => none
      else if isGap c then quotedPieces? double (column + 1) (.gap c :: read) rest
      else
        match _h : takeBreak? (c :: rest) with
        | some (b, after) => quotedPieces? double 0 (.lineBreak b :: read) after
        | none => quotedPieces? double (column + 1) (.content c :: read) rest
termination_by cs.length
decreasing_by
  all_goals try have := length_of_takeBreak? _h
  all_goals simp only [List.length_cons, List.length_drop] at *
  all_goals omega

/-- The text of a scalar after its opening quote, at a column, and what follows it. -/
def readQuoted? (double : Bool) (column : Nat) (cs : List Char) : Option (String × List Char) :=
  (quotedPieces? double column [] cs).map fun (read, rest) =>
    (String.ofList (foldPieces true read.reverse).reverse, rest)

end CloudAudit.Yaml
