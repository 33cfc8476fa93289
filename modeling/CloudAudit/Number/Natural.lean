/-!
# Decimal numerals

Reading of unsigned numerals: an optional plus sign, then digits, below `2 ^ 64`.
-/

namespace CloudAudit.Number

def digitValue (c : Char) : Nat :=
  c.toNat - '0'.toNat

/-- The value of a string of digits, first digit first. -/
def ofDigits (digits : List Char) : Nat :=
  digits.foldl (fun value c => 10 * value + digitValue c) 0

/-- At least one character, and digits only. -/
def isNumeral (cs : List Char) : Bool :=
  !cs.isEmpty && cs.all Char.isDigit

/-- The text without a leading plus sign. -/
def dropPlus : List Char → List Char
  | '+' :: rest => rest
  | cs => cs

def twoTo (k : Nat) : Nat := Nat.pow 2 k

def tenTo (k : Nat) : Nat := Nat.pow 10 k

/-- One more than the largest unsigned number of 64 bits. -/
def wordLimit : Nat := twoTo 64

/-- An unsigned number of 64 bits; leading zeros and one leading plus sign are allowed. -/
def readUnsigned? (cs : List Char) : Option Nat :=
  let digits := dropPlus cs
  if isNumeral digits && ofDigits digits < wordLimit then some (ofDigits digits) else none

/-- Decimal digits, without leading zeros. -/
def digitsOf (n : Nat) : List Char :=
  Nat.toDigits 10 n

/-- Decimal digits with zeros in front up to a width. -/
def padded (width : Nat) (n : Nat) : List Char :=
  let digits := digitsOf n
  List.replicate (width - digits.length) '0' ++ digits

end CloudAudit.Number
