import CloudAudit.Number.Natural

/-!
# Binary floating point numbers of 64 bits

A finite number is a sign and the rank of its magnitude among all finite magnitudes, counted from
zero: the number that the bits below the sign bit spell. Every magnitude is a whole number of
`2 ^ -1074` (`units`), and ranks order magnitudes. A quotient of naturals is rounded to the nearest
magnitude, a half to the even rank.
-/

namespace CloudAudit.Number

/-- Nearest natural to a quotient; a half goes to the even neighbour. -/
def divEven (num den : Nat) : Nat :=
  let q := num / den
  let twice := 2 * (num % den)
  if twice < den then q
  else if den < twice then q + 1
  else if q % 2 = 0 then q else q + 1

/-- The count of finite magnitudes. -/
def rankLimit : Nat := 2047 * twoTo 52

/-- The least magnitude above zero goes into one this many times. -/
def unitsPerOne : Nat := twoTo 1074

structure Binary64 where
  negative : Bool
  rank : Nat
  rank_lt : rank < rankLimit
  deriving DecidableEq

namespace Binary64

/-- The magnitude of a rank as a multiple of `2 ^ -1074`. -/
def units (rank : Nat) : Nat :=
  if rank < twoTo 52 then rank
  else (twoTo 52 + rank % twoTo 52) * twoTo (rank / twoTo 52 - 1)

/-- The rank nearest to a quotient; at and above `rankLimit` the quotient is too large. -/
def rankOfRatio (num den : Nat) : Nat :=
  let n := num * unitsPerOne
  let shift := (n / den).log2 - 52
  shift * twoTo 52 + divEven n (den * twoTo shift)

/-- The number nearest to a quotient, if that is finite. -/
def ofRatio? (negative : Bool) (num den : Nat) : Option Binary64 :=
  if h : rankOfRatio num den < rankLimit then some ⟨negative, rankOfRatio num den, h⟩ else none

def zero : Binary64 := ⟨false, 0, by decide⟩

/-- Zero with a sign. -/
def signedZero (negative : Bool) : Binary64 := ⟨negative, 0, by decide⟩

instance : Inhabited Binary64 := ⟨zero⟩

/-- The magnitude as a multiple of `2 ^ -1074`. -/
def magnitude (x : Binary64) : Nat := units x.rank

/-- A whole number that orders the numbers: both zeros are at zero. -/
def key (x : Binary64) : Int :=
  if x.negative then -(x.rank : Int) else x.rank

/-- Numeric equality: the two zeros are the same number. -/
def same (x y : Binary64) : Bool := x.key == y.key

/-- Neither zero nor below the least magnitude with a full significand. -/
def isNormal (x : Binary64) : Bool := twoTo 52 ≤ x.rank

/-- The number nearest to an integer, if that is finite. -/
def ofInt? (n : Int) : Option Binary64 :=
  ofRatio? (n < 0) n.natAbs 1

theorem same_refl (x : Binary64) : x.same x = true := by simp [same]

theorem same_comm (x y : Binary64) : x.same y = y.same x := by
  exact BEq.comm

end Binary64

/-- A number, an infinity, or the result of no comparison. -/
inductive Extended where
  | finite (x : Binary64)
  | infinite (negative : Bool)
  | nan
  deriving DecidableEq

namespace Extended

/-- A whole number that orders the values, and none for the one that has no order. -/
def key? : Extended → Option Int
  | finite x => some x.key
  | infinite negative => some (if negative then -(rankLimit : Int) else rankLimit)
  | nan => none

def compareBy (test : Int → Int → Bool) (x y : Extended) : Bool :=
  match x.key?, y.key? with
  | some a, some b => test a b
  | _, _ => false

def same : Extended → Extended → Bool := compareBy (· == ·)

def greater : Extended → Extended → Bool := compareBy (fun a b => decide (b < a))

def greaterOrSame : Extended → Extended → Bool := compareBy (fun a b => decide (b ≤ a))

/-- The value nearest to a quotient. -/
def ofRatio (negative : Bool) (num den : Nat) : Extended :=
  match Binary64.ofRatio? negative num den with
  | some x => finite x
  | none => infinite negative

/-- The value nearest to an integer. -/
def ofInt (n : Int) : Extended := ofRatio (n < 0) n.natAbs 1

def finite? : Extended → Option Binary64
  | finite x => some x
  | _ => none

end Extended

end CloudAudit.Number
