import CloudAudit.Number.Natural
import CloudAudit.Number.Binary64

/-!
# Decimal numbers

A decimal number is a whole number times a power of ten. It is read from digits with an optional
point and exponent and goes to the nearest floating point value.
-/

namespace CloudAudit.Number

/-- The value is `significand * 10 ^ exponent`, with its sign. -/
structure Decimal where
  negative : Bool
  significand : Nat
  exponent : Int
  deriving DecidableEq, Repr

/-- The two guards keep powers of ten out of the computation where the sizes alone decide: ten lies
between the third and the fourth power of two. -/
def Decimal.toExtended (d : Decimal) : Extended :=
  let size : Int := d.significand.log2
  if d.significand = 0 then .finite (Binary64.signedZero d.negative)
  else if 0 ≤ d.exponent then
    if 1024 ≤ size + 3 * d.exponent then .infinite d.negative
    else .ofRatio d.negative (d.significand * tenTo d.exponent.toNat) 1
  else if size + 1 + 3 * d.exponent ≤ -1076 then .finite (Binary64.signedZero d.negative)
  else .ofRatio d.negative d.significand (tenTo (-d.exponent).toNat)

/-- A sign in front, if there is one. -/
def takeSign : List Char → Bool × List Char
  | '-' :: rest => (true, rest)
  | '+' :: rest => (false, rest)
  | cs => (false, cs)

/-- An exponent: the letter, an optional sign, at least one digit, to the end of the text. -/
def readExponent? : List Char → Option Int
  | [] => some 0
  | c :: rest =>
    if c = 'e' ∨ c = 'E' then
      let (negative, digits) := takeSign rest
      if isNumeral digits then
        some (if negative then -(ofDigits digits : Int) else ofDigits digits)
      else none
    else none

/-- Digits with an optional point among or beside them, and an optional exponent. -/
def readDecimal? (negative : Bool) (cs : List Char) : Option Decimal :=
  let whole := cs.takeWhile Char.isDigit
  let afterWhole := cs.dropWhile Char.isDigit
  let (places, rest) :=
    match afterWhole with
    | '.' :: more => (more.takeWhile Char.isDigit, more.dropWhile Char.isDigit)
    | other => ([], other)
  if whole.isEmpty && places.isEmpty then none
  else
    (readExponent? rest).map fun exponent =>
      ⟨negative, ofDigits (whole ++ places), exponent - places.length⟩

/-- The names of the values that have no digits, in any case. -/
def readNamed? (negative : Bool) (cs : List Char) : Option Extended :=
  let folded := cs.map Char.toLower
  if folded = "inf".toList ∨ folded = "infinity".toList then some (.infinite negative)
  else if folded = "nan".toList then some .nan
  else none

/-- A number as text: an optional sign, then a decimal number or a name. -/
def readExtended? (cs : List Char) : Option Extended :=
  let (negative, body) := takeSign cs
  match readNamed? negative body with
  | some x => some x
  | none => (readDecimal? negative body).map Decimal.toExtended

end CloudAudit.Number
