import CloudAudit.Number.Decimal
import CloudAudit.Yaml.Token

/-!
# Values of scalars

What a plain scalar stands for: nothing, a truth value, an integer, a floating point number, or
itself. Tags of the core schema ask for one of these.
-/

namespace CloudAudit.Yaml

open Number

inductive ScalarValue where
  | null
  | bool (b : Bool)
  | int (n : Int)
  | float (x : Extended)
  | text (s : String)

namespace ScalarValue

def isNullWord (s : String) : Bool :=
  s = "null" || s = "Null" || s = "NULL" || s = "~"

def bool? (s : String) : Option Bool :=
  if s = "true" || s = "True" || s = "TRUE" then some true
  else if s = "false" || s = "False" || s = "FALSE" then some false
  else none

def digitIn? (radix : Nat) (c : Char) : Option Nat :=
  (hexDigit? c).filter (· < radix)

/-- At least one digit of a radix, and nothing else. -/
def digits? (radix : Nat) (cs : List Char) : Option Nat :=
  if cs.isEmpty then none
  else cs.foldlM (fun n c => (digitIn? radix c).map (radix * n + ·)) 0

/-- A number with or without the mark of its radix. -/
def unsigned? : List Char → Option Nat
  | '0' :: 'x' :: rest => digits? 16 rest
  | '0' :: 'o' :: rest => digits? 8 rest
  | '0' :: 'b' :: rest => digits? 2 rest
  | cs => digits? 10 cs

/-- A zero with more digits behind it is no number. -/
def hasLeadingZero (cs : List Char) : Bool :=
  match (takeSign cs).2 with
  | '0' :: c :: rest => (c :: rest).all Char.isDigit
  | _ => false

/-- Integers below `2 ^ 128`, and negative ones down to `-2 ^ 127`. -/
def int? (cs : List Char) : Option Int :=
  if hasLeadingZero cs then none
  else
    match cs with
    | '-' :: rest =>
      (unsigned? rest).bind fun n => if n ≤ twoTo 127 then some (-(n : Int)) else none
    | _ => (unsigned? (dropPlus cs)).bind fun n => if n < twoTo 128 then some (n : Int) else none

/-- Floating point numbers; those too large are left as texts. -/
def float? (s : String) : Option Extended :=
  let cs := s.toList
  let unsigned := dropPlus cs
  if cs.head? = some '+' && unsigned.head?.any (fun c => c = '+' || c = '-') then none
  else if [".inf", ".Inf", ".INF"].contains (String.ofList unsigned) then some (.infinite false)
  else if ["-.inf", "-.Inf", "-.INF"].contains s then some (.infinite true)
  else if [".nan", ".NaN", ".NAN"].contains s then some .nan
  else
    match readExtended? unsigned with
    | some (.finite x) => some (.finite x)
    | _ => none

/-- The value of a plain scalar. -/
def ofPlain (s : String) : ScalarValue :=
  if s.isEmpty || isNullWord s then .null
  else
    match bool? s with
    | some b => .bool b
    | none =>
      match int? s.toList with
      | some n => .int n
      | none =>
        if hasLeadingZero s.toList then .text s
        else
          match float? s with
          | some x => .float x
          | none => .text s

def coreTag (name : String) : String := "tag:yaml.org,2002:" ++ name

/-- The value that a tag of the core schema asks for; of the others only private ones leave a plain
scalar its own value. -/
def ofTagged? (tag text : String) (style : ScalarStyle) : Except String ScalarValue :=
  let wanted (value : Option ScalarValue) (kind : String) : Except String ScalarValue :=
    match value with
    | some v => .ok v
    | none => .error kind
  if tag = coreTag "bool" then wanted ((bool? text).map .bool) "a boolean"
  else if tag = coreTag "int" then wanted ((int? text.toList).map .int) "an integer"
  else if tag = coreTag "float" then wanted ((float? text).map .float) "a float"
  else if tag = coreTag "null" then wanted (if isNullWord text then some .null else none) "null"
  else if tag.startsWith "!" && style = .plain then .ok (ofPlain text)
  else .ok (.text text)

/-- The value of a scalar, or the kind of value that its tag asks for in vain. -/
def of? (tag : Option String) (text : String) (style : ScalarStyle) : Except String ScalarValue :=
  match tag with
  | some tag => ofTagged? tag text style
  | none => .ok (if style = .plain then ofPlain text else .text text)

end ScalarValue

end CloudAudit.Yaml
