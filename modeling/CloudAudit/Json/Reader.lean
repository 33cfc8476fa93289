import CloudAudit.Json.Basic
import CloudAudit.Number.Decimal

/-!
# Reading JSON

A text is cut into tokens one character at a time, and the tokens are put together on a stack of
open lists and objects. Members keep their order and may repeat a key: `parse?` brings objects into
canonical form, `parseRaw?` does not.
-/

namespace CloudAudit.Json

open Number

/-! ## Numbers -/

/-- Takes over the digits that keep a significand below `2 ^ 64`, and tells what is left. -/
def absorb (significand : Nat) : List Char → Nat × List Char
  | [] => (significand, [])
  | c :: rest =>
    let next := 10 * significand + digitValue c
    if next < wordLimit then absorb next rest else (significand, c :: rest)

/-- A finite value times or divided by a power of ten, rounded once more. -/
def scaleOnce? (x : Binary64) (power : Nat) (up : Bool) : Option Binary64 := do
  let p ← Binary64.ofRatio? false (tenTo power) 1
  if up then Binary64.ofRatio? x.negative (x.magnitude * p.magnitude) (unitsPerOne * unitsPerOne)
  else Binary64.ofRatio? x.negative x.magnitude p.magnitude

/-- A significand times a power of ten, by one multiplication or by divisions of at most `1e308`
each; every step is rounded, and none may leave the finite numbers. -/
def scaled? (x : Binary64) (exponent : Int) : Option Binary64 :=
  if x.rank = 0 then some x
  else if 308 < exponent then none
  else if 0 ≤ exponent then scaleOnce? x exponent.toNat true
  else if -308 ≤ exponent then scaleOnce? x (-exponent).toNat false
  else (scaleOnce? x 308 false).bind fun y => scaled? y (exponent + 308)
termination_by exponent.natAbs
decreasing_by omega

/-- A number literal with a point, an exponent, or more digits than an integer holds. -/
def readFloat? (negative : Bool) (whole places : List Char) (exponent : Int) : Option Json := do
  let (significand, extra) := absorb 0 whole
  let (significand, dropped) := absorb significand places
  let start ← Binary64.ofRatio? negative significand 1
  return float (← scaled? start (exponent + extra.length - (places.length - dropped.length : Nat)))

/-- The integer, if it fits in 64 bits with its sign; a negative zero does not. -/
def readInteger? (negative : Bool) (value : Nat) : Option Json :=
  if negative then
    if 0 < value && value ≤ wordLimit / 2 then some (int (-(value : Int))) else none
  else if value < wordLimit then some (int value) else none

/-- A number literal: digits without a leading zero, then optional places and an optional
exponent. -/
def readNumber? (cs : List Char) : Option Json :=
  let (negative, body) :=
    match cs with
    | '-' :: rest => (true, rest)
    | other => (false, other)
  let whole := body.takeWhile Char.isDigit
  let afterWhole := body.dropWhile Char.isDigit
  if whole.isEmpty || (whole.head? == some '0' && whole.length ≠ 1) then none
  else
    match afterWhole with
    | [] =>
      (readInteger? negative (ofDigits whole)).or (readFloat? negative whole [] 0)
    | '.' :: more =>
      let places := more.takeWhile Char.isDigit
      if places.isEmpty then none
      else (readExponent? (more.dropWhile Char.isDigit)).bind (readFloat? negative whole places)
    | rest => (readExponent? rest).bind (readFloat? negative whole [])

/-! ## Tokens -/

inductive Token where
  | openArray
  | closeArray
  | openObject
  | closeObject
  | comma
  | colon
  | scalar (value : Json)

/-- What the characters so far have begun; those of a word or a text are kept last first. -/
inductive Scan where
  | between
  | word (read : List Char)
  | text (read : List Char)
  | escape (read : List Char)
  | hex (read : List Char) (high : Option Nat) (digits : List Char)
  | low (read : List Char) (high : Nat)
  | lowHex (read : List Char) (high : Nat)

def punctuation? : Char → Option Token
  | '[' => some .openArray
  | ']' => some .closeArray
  | '\x7b' => some .openObject
  | '\x7d' => some .closeObject
  | ',' => some .comma
  | ':' => some .colon
  | _ => none

def isGap (c : Char) : Bool :=
  c == ' ' || c == '\t' || c == '\n' || c == '\r'

def readWord? (word : List Char) : Option Json :=
  if word = "null".toList then some null
  else if word = "true".toList then some (bool true)
  else if word = "false".toList then some (bool false)
  else readNumber? word

def hexValue? (c : Char) : Option Nat :=
  if c.isDigit then some (digitValue c)
  else
    let l := c.toLower
    if 'a' ≤ l ∧ l ≤ 'f' then some (l.toNat - 'a'.toNat + 10) else none

def simpleEscape? : Char → Option Char
  | '"' => some '"'
  | '\\' => some '\\'
  | '/' => some '/'
  | 'b' => some '\x08'
  | 'f' => some '\x0c'
  | 'n' => some '\n'
  | 'r' => some '\r'
  | 't' => some '\t'
  | _ => none

/-- The state after four hexadecimal digits: a character, or the first half of a pair. -/
def endHex (read : List Char) (high : Option Nat) (unit : Nat) : Option Scan :=
  match high with
  | some h =>
    if 0xDC00 ≤ unit ∧ unit ≤ 0xDFFF then
      some (.text (Char.ofNat (0x10000 + (h - 0xD800) * 0x400 + (unit - 0xDC00)) :: read))
    else none
  | none =>
    if 0xD800 ≤ unit ∧ unit ≤ 0xDBFF then some (.low read unit)
    else if 0xDC00 ≤ unit ∧ unit ≤ 0xDFFF then none
    else some (.text (Char.ofNat unit :: read))

/-- A character outside words and texts. -/
def startToken (c : Char) : Scan × List Token :=
  match punctuation? c with
  | some token => (.between, [token])
  | none =>
    if isGap c then (.between, [])
    else if c = '"' then (.text [], [])
    else (.word [c], [])

def scanStep? (c : Char) : Scan → Option (Scan × List Token)
  | .between => some (startToken c)
  | .word read =>
    if (punctuation? c).isSome || isGap c || c = '"' then do
      let value ← readWord? read.reverse
      let (next, tokens) := startToken c
      return (next, .scalar value :: tokens)
    else some (.word (c :: read), [])
  | .text read =>
    if c = '"' then some (.between, [.scalar (string (String.ofList read.reverse))])
    else if c = '\\' then some (.escape read, [])
    else if c.toNat < 32 then none
    else some (.text (c :: read), [])
  | .escape read =>
    if c = 'u' then some (.hex read none [], [])
    else (simpleEscape? c).map fun e => (.text (e :: read), [])
  | .hex read high digits => do
    let _ ← hexValue? c
    let digits := digits ++ [c]
    if digits.length < 4 then return (.hex read high digits, [])
    else
      let unit := digits.foldl (fun n d => 16 * n + (hexValue? d).getD 0) 0
      return (← endHex read high unit, [])
  | .low read high => if c = '\\' then some (.lowHex read high, []) else none
  | .lowHex read high => if c = 'u' then some (.hex read (some high) [], []) else none

/-- One more character, with the tokens so far kept last first. -/
def scanChar? (state : Scan × List Token) (c : Char) : Option (Scan × List Token) := do
  let (next, tokens) ← scanStep? c state.1
  return (next, tokens.reverseAux state.2)

def tokens? (cs : List Char) : Option (List Token) := do
  match ← cs.foldlM scanChar? (.between, []) with
  | (.between, done) => some done.reverse
  | (.word read, done) => (readWord? read.reverse).map fun value => (.scalar value :: done).reverse
  | _ => none

/-! ## Trees -/

/-- An open list or object with its finished parts, last first. -/
inductive Frame where
  | array (items : List Json)
  | object (members : List (String × Json)) (key : String)

/-- What may come next. -/
inductive Place where
  | value
  | valueOrEnd
  | key
  | keyOrEnd
  | colon (key : String)
  | after (value : Json)

/-- Deepest nesting of lists and objects. -/
def maxDepth : Nat := 127

def buildStep? (token : Token) : List Frame × Place → Option (List Frame × Place)
  | (stack, .value) | (stack, .valueOrEnd) =>
    match token, stack with
    | .scalar value, _ => some (stack, .after value)
    | .openArray, _ =>
      if stack.length < maxDepth then some (.array [] :: stack, .valueOrEnd) else none
    | .openObject, _ =>
      if stack.length < maxDepth then some (.object [] "" :: stack, .keyOrEnd) else none
    | .closeArray, .array [] :: outer => some (outer, .after (array []))
    | _, _ => none
  | (stack, .keyOrEnd) =>
    match token, stack with
    | .scalar (string key), _ => some (stack, .colon key)
    | .closeObject, _ :: outer => some (outer, .after (object []))
    | _, _ => none
  | (stack, .key) =>
    match token with
    | .scalar (string key) => some (stack, .colon key)
    | _ => none
  | (stack, .colon key) =>
    match token, stack with
    | .colon, .object members _ :: outer => some (.object members key :: outer, .value)
    | _, _ => none
  | (stack, .after value) =>
    match token, stack with
    | .comma, .array items :: outer => some (.array (value :: items) :: outer, .value)
    | .comma, .object members key :: outer =>
      some (.object ((key, value) :: members) key :: outer, .key)
    | .closeArray, .array items :: outer => some (outer, .after (array (value :: items).reverse))
    | .closeObject, .object members key :: outer =>
      some (outer, .after (object ((key, value) :: members).reverse))
    | _, _ => none

def build? (tokens : List Token) : Option Json := do
  match ← tokens.foldlM (fun state token => buildStep? token state) ([], Place.value) with
  | ([], .after value) => some value
  | _ => none

/-- The tree of a text, members as they stand. -/
def parseRaw? (s : String) : Option Json := do
  build? (← tokens? s.toList)

/-- The tree of a text in canonical form. -/
def parse? (s : String) : Option Json :=
  (parseRaw? s).map canonical

end CloudAudit.Json
