import CloudAudit.Number.Decimal

/-!
# Decimal texts of floating point numbers

The fewest digits that read back as the same number, the nearest such decimal where there are
several, and the ways of writing those digits.
-/

namespace CloudAudit.Number

namespace Binary64

/-- Twice the ends of the interval of magnitudes that round to a rank. -/
def lowerEnd (rank : Nat) : Nat := units (rank - 1) + units rank

def upperEnd (rank : Nat) : Nat := units rank + units (rank + 1)

/-- A quotient `num / den` against a power of ten `10 ^ e`, as a quotient of naturals. -/
def scaleRatio (num den : Nat) (e : Int) : Nat × Nat :=
  if 0 ≤ e then (num, den * tenTo e.toNat) else (num * tenTo (-e).toNat, den)

/-- Whether the decimal `k * 10 ^ e` rounds to the rank; the ends do when the rank is even. -/
def roundsTo (rank k : Nat) (e : Int) : Bool :=
  let (low, unit) := scaleRatio (lowerEnd rank) (2 * unitsPerOne) e
  let (high, _) := scaleRatio (upperEnd rank) (2 * unitsPerOne) e
  let value := k * unit
  if rank % 2 = 0 then low ≤ value && value ≤ high else low < value && value < high

/-- The nearer of the two neighbours on the grid of `10 ^ e` that rounds to the rank; a tie goes to
the even one. -/
def onGrid? (rank : Nat) (e : Int) : Option Nat :=
  let (num, den) := scaleRatio (units rank) unitsPerOne e
  let below := num / den
  match roundsTo rank below e, roundsTo rank (below + 1) e with
  | true, true => some (divEven num den)
  | true, false => some below
  | false, true => some (below + 1)
  | false, false => none

/-- The place of the leading digit of a rank above zero: `10 ^ place` is at most the magnitude. -/
def leadingPlace (rank : Nat) : Int :=
  ((digitsOf (units rank * tenTo 400 / unitsPerOne)).length : Int) - 401

/-- Without zeros at the end. -/
def stripZeros : Nat → Nat → Int → Nat × Int
  | 0, k, e => (k, e)
  | fuel + 1, k, e => if k % 10 = 0 && k ≠ 0 then stripZeros fuel (k / 10) (e + 1) else (k, e)

/-- The shortest decimal that reads back as the number. -/
def shortest (x : Binary64) : Decimal :=
  if x.rank = 0 then ⟨x.negative, 0, 0⟩
  else
    let place := leadingPlace x.rank
    let found := (List.range 17).findSome? fun (n : Nat) =>
      (onGrid? x.rank (place - n)).map fun k => (k, place - (n : Int))
    let (k, e) := found.getD (0, 0)
    let (k, e) := stripZeros 17 k e
    ⟨x.negative, k, e⟩

end Binary64

namespace Decimal

def signText (d : Decimal) : String := if d.negative then "-" else ""

/-- The digits with a point after the first `place` of them and at least one digit on each side of
it. -/
def positional (digits : List Char) (place : Int) : String :=
  let size : Int := digits.length
  String.ofList <|
    if place ≤ 0 then '0' :: '.' :: (List.replicate (-place).toNat '0' ++ digits)
    else if size ≤ place then digits ++ List.replicate (place - size).toNat '0' ++ ['.', '0']
    else digits.take place.toNat ++ '.' :: digits.drop place.toNat

/-- One digit, a point if more follow, and the power of ten with its sign. -/
def scientific (digits : List Char) (place : Int) : String :=
  let power := place - 1
  let fraction := digits.drop 1
  String.ofList (digits.take 1 ++ (if fraction.isEmpty then [] else '.' :: fraction)
    ++ ['e', if power < 0 then '-' else '+'] ++ digitsOf power.natAbs)

/-- Where the point stands, counted from the first digit. -/
def pointPlace (d : Decimal) : Int :=
  (digitsOf d.significand).length + d.exponent

end Decimal

namespace Binary64

/-- The text in JSON: positional from `1e-5` to below `1e16`. -/
def jsonText (x : Binary64) : String :=
  let d := x.shortest
  let digits := digitsOf d.significand
  let place := d.pointPlace
  d.signText ++ if -5 < place && place ≤ 16 then Decimal.positional digits place
    else Decimal.scientific digits place

/-- The text in messages: always positional. -/
def plainText (x : Binary64) : String :=
  let d := x.shortest
  d.signText ++ Decimal.positional (digitsOf d.significand) d.pointPlace

/-- One decimal place, a half to the even tenth. -/
def oneDecimal (x : Binary64) : String :=
  let tenths := divEven (x.magnitude * 10) unitsPerOne
  (if x.negative then "-" else "") ++ s!"{tenths / 10}.{tenths % 10}"

end Binary64

/-- The text in messages. -/
def Extended.plainText : Extended → String
  | .finite x => x.plainText
  | .infinite negative => if negative then "-inf" else "inf"
  | .nan => "NaN"

end CloudAudit.Number
