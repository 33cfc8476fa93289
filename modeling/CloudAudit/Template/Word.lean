import CloudAudit.Json.Reader
import CloudAudit.Template.Basic

/-!
# Words of a tag

The inside of a tag is a row of words: bare words, quoted texts, equals signs and bars. A bare word
is a name, a literal or a reference.
-/

namespace CloudAudit.Template

inductive Word where
  | bare (cs : List Char)
  | quoted (s : String)
  | equals
  | bar

namespace Word

/-- The blanks that may stand between words. -/
def isGap (c : Char) : Bool :=
  c = ' ' || c = '\t' || c = '\n' || c = '\r'

def isSymbol (c : Char) : Bool :=
  c.isAlphanum || "_@$<>-".toList.contains c || 0x80 ≤ c.toNat

def isSeparator (c : Char) : Bool :=
  c = '.' || c = '/'

def isQuote (c : Char) : Bool :=
  c = '"' || c = '\x27'

/-! ## Cutting into words -/

/-- Where the cutting stands, with the characters of the word so far, last first. -/
inductive Cutting where
  | between
  | bare (word : List Char)
  | bracket (word : List Char)
  | quote (mark : Char) (word : List Char)
  | escape (mark : Char) (word : List Char)

/-- The text between two quotes, as in a JSON string; the apostrophe takes over the part of the
double quote if it is the mark. -/
def unquote? (mark : Char) (inner : List Char) : Option String :=
  let rec swap : List Char → List Char
    | '\\' :: '\x27' :: rest => '\x27' :: swap rest
    | '\\' :: '"' :: rest => '\\' :: 'x' :: swap rest
    | '"' :: rest => '\\' :: '"' :: swap rest
    | c :: rest => c :: swap rest
    | [] => []
  let body := if mark = '"' then inner else swap inner
  (Json.parse? (String.ofList ('"' :: body ++ ['"']))).bind Json.string?

/-- Puts the bare word so far in front of the words that follow. -/
def Cutting.finish : Cutting → List Word → List Word
  | bare word, words => .bare word.reverse :: words
  | _, words => words

/-- The bare word so far. -/
def Cutting.word : Cutting → List Char
  | bare word => word
  | _ => []

def cut? : Cutting → List Char → Option (List Word)
  | .quote mark word, c :: rest =>
    if c = mark then do
      let s ← unquote? mark word.reverse
      return .quoted s :: (← cut? .between rest)
    else if c = '\\' then cut? (.escape mark (c :: word)) rest
    else cut? (.quote mark (c :: word)) rest
  | .escape mark word, c :: rest => cut? (.quote mark (c :: word)) rest
  | .bracket word, c :: rest =>
    if c = ']' then cut? (.bare (c :: word)) rest else cut? (.bracket (c :: word)) rest
  | state, c :: rest =>
    if isGap c then (cut? .between rest).map state.finish
    else if isQuote c then (cut? (.quote c []) rest).map state.finish
    else if c = '=' then (cut? .between rest).map fun words => state.finish (.equals :: words)
    else if c = '|' then (cut? .between rest).map fun words => state.finish (.bar :: words)
    else if c = '[' then cut? (.bracket (c :: state.word)) rest
    else if isSymbol c || isSeparator c then cut? (.bare (c :: state.word)) rest
    else none
  | .between, [] => some []
  | .bare word, [] => some [.bare word.reverse]
  | _, [] => none

def ofText? (cs : List Char) : Option (List Word) := cut? .between cs

/-! ## References -/

/-- Cut at the separators outside of brackets. -/
def items : Bool → List Char → List (List Char)
  | _, [] => [[]]
  | inBrackets, c :: rest =>
    if !inBrackets && isSeparator c then [] :: items false rest
    else
      let inside := if inBrackets then c != ']' else c = '['
      match items inside rest with
      | [] => [[c]]
      | first :: others => (c :: first) :: others

/-- A key in brackets may have quotes around it. -/
def unbracket (cs : List Char) : List Char :=
  match cs.head?, cs.getLast? with
  | some a, some b =>
    if isQuote a && a = b && 2 ≤ cs.length then (cs.drop 1).dropLast else cs
  | _, _ => cs

/-- A key is a row of symbols, or any characters in brackets. -/
def key? (item : List Char) : Option String :=
  match item with
  | '[' :: more =>
    if more.getLast? = some ']' && !more.dropLast.contains ']' then
      some (String.ofList (unbracket more.dropLast))
    else none
  | symbols =>
    if !symbols.isEmpty && symbols.all isSymbol then some (String.ofList symbols) else none

/-- The text after a word and a separator, if the text begins so. -/
def after? (word cs : List Char) : Option (List Char) :=
  if word.isPrefixOf cs then
    match cs.drop word.length with
    | c :: rest => if isSeparator c then some rest else none
    | [] => none
  else none

/-- The steps outwards in front, and the rest. -/
def steps : List Char → Nat × List Char
  | '.' :: '.' :: c :: rest =>
    if isSeparator c then
      let (up, rest) := steps rest
      (up + 1, rest)
    else (0, '.' :: '.' :: c :: rest)
  | cs => (0, cs)

def reference? (word : List Char) : Option Reference := do
  let word :=
    match word with
    | '.' :: '/' :: rest => rest
    | _ => (after? "this".toList word).getD word
  let (isRoot, word) :=
    match after? "@root".toList word with
    | some rest => (true, rest)
    | none => (false, word)
  let (isVariable, word) :=
    match word with
    | '@' :: rest => (true, rest)
    | _ => (false, word)
  let (up, word) := steps word
  let keys ← (items false word).mapM key?
  match isRoot, isVariable, keys.filter (· != "this") with
  | true, _, keys => return .root keys
  | false, true, [] => return .value 0 []
  | false, true, name :: _ => return .variable up name
  | false, false, keys => return .value up keys

/-! ## Literals -/

/-- The rest of a text after its numeral, if a numeral is in front. -/
def afterNumeral? (cs : List Char) : Option (List Char) :=
  let unsigned := if cs.head? = some '-' then cs.drop 1 else cs
  if (unsigned.takeWhile Char.isDigit).isEmpty then none
  else
    let rest := unsigned.dropWhile Char.isDigit
    let rest := if rest.head? = some '.' then (rest.drop 1).dropWhile Char.isDigit else rest
    match rest with
    | 'E' :: more =>
      let digits := if more.head? = some '-' then more.drop 1 else more
      if (digits.takeWhile Char.isDigit).isEmpty then some rest
      else some (digits.dropWhile Char.isDigit)
    | _ => some rest

/-- The rest of a text after its literal, if a literal is in front that no symbol continues. -/
def afterLiteral? (word : List Char) : Option (List Char) :=
  let named := ["null", "true", "false"].findSome? fun (name : String) =>
    if name.toList.isPrefixOf word then some (word.drop name.length) else none
  match named.or (afterNumeral? word) with
  | some rest => if rest.head?.any isSymbol then none else some rest
  | none => none

/-- The words that arguments may not begin with. -/
def isReserved (word : List Char) : Bool :=
  ["as", "else"].any fun (name : String) =>
    name.toList.isPrefixOf word && !(word.drop name.length).head?.any isSymbol

def argument? : Word → Option Argument
  | .bare word =>
    if isReserved word then none
    else
      match afterLiteral? word with
      | some [] => (Json.parse? (String.ofList word)).map .literal
      | some _ => none
      | none => (reference? word).map .place
  | .quoted s => some (.literal (.string s))
  | _ => none

/-- A name is a row of symbols. -/
def name? : Word → Option String
  | .bare word => if word.all isSymbol then some (String.ofList word) else none
  | _ => none

end Word

end CloudAudit.Template
