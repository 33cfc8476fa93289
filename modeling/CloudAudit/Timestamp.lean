import CloudAudit.Number.Natural
import CloudAudit.Text.Blank

/-!
# Timestamps

Moments in universal time to the nanosecond. A minute may have a sixty-first second. Reading is
lenient: numbers need no leading zeros, blanks may stand between the parts, and the offset may be a
letter, a name, or hours and minutes. Writing has one form, with as many groups of three fraction
digits as the moment needs.
-/

namespace CloudAudit

open Number

namespace Calendar

def isLeap (year : Int) : Bool :=
  year % 4 == 0 && (year % 100 != 0 || year % 400 == 0)

def daysIn (year : Int) (month : Nat) : Nat :=
  if month = 2 then if isLeap year then 29 else 28
  else if month = 4 ∨ month = 6 ∨ month = 9 ∨ month = 11 then 30
  else 31

theorem daysIn_pos (year : Int) (month : Nat) : 0 < daysIn year month := by
  unfold daysIn; repeat' split
  all_goals decide

end Calendar

structure Date where
  year : Int
  month : Nat
  day : Nat
  month_pos : 0 < month
  month_le : month ≤ 12
  day_pos : 0 < day
  day_le : day ≤ Calendar.daysIn year month
  deriving DecidableEq

namespace Date

open Calendar

def make? (year : Int) (month day : Nat) : Option Date :=
  if h : (0 < month ∧ month ≤ 12) ∧ 0 < day ∧ day ≤ daysIn year month then
    some ⟨year, month, day, h.1.1, h.1.2, h.2.1, h.2.2⟩
  else none

def next (d : Date) : Date :=
  if h : d.day + 1 ≤ daysIn d.year d.month then
    { d with day := d.day + 1, day_pos := by omega, day_le := h }
  else if hm : d.month + 1 ≤ 12 then
    ⟨d.year, d.month + 1, 1, by omega, hm, by omega, daysIn_pos _ _⟩
  else ⟨d.year + 1, 1, 1, by omega, by omega, by omega, daysIn_pos _ _⟩

def previous (d : Date) : Date :=
  if h : 1 < d.day then
    { d with
      day := d.day - 1
      day_pos := by omega
      day_le := by have := d.day_le; omega }
  else if hm : 1 < d.month then
    ⟨d.year, d.month - 1, daysIn d.year (d.month - 1), by omega,
      by have := d.month_le; omega, daysIn_pos _ _, Nat.le_refl _⟩
  else ⟨d.year - 1, 12, 31, by omega, by omega, by omega, by simp [daysIn]⟩

end Date

structure Timestamp where
  date : Date
  minuteOfDay : Nat
  second : Nat
  nano : Nat
  minute_lt : minuteOfDay < 1440
  second_le : second ≤ 60
  nano_lt : nano < 1000000000
  deriving DecidableEq

namespace Timestamp

def epoch : Timestamp :=
  ⟨⟨1970, 1, 1, by decide, by decide, by decide, by decide⟩, 0, 0, 0,
    by decide, by decide, by decide⟩

instance : Inhabited Timestamp := ⟨epoch⟩

/-- The moment a count of nanoseconds after the epoch. -/
def afterEpoch (nanos : Nat) : Timestamp :=
  let seconds := nanos / 1000000000
  ⟨Nat.repeat Date.next (seconds / 86400) epoch.date, seconds % 86400 / 60, seconds % 60,
    nanos % 1000000000, by omega, by omega, by omega⟩

/-! ## Writing -/

/-- Four digits from year 0 to 9999, otherwise a sign and at least four. -/
def yearText (year : Int) : List Char :=
  if 0 ≤ year ∧ year ≤ 9999 then padded 4 year.toNat
  else (if year < 0 then '-' else '+') :: padded 4 year.natAbs

/-- No fraction, or a point and three, six or nine digits. -/
def fractionText (nano : Nat) : List Char :=
  if nano = 0 then []
  else if nano % 1000000 = 0 then '.' :: padded 3 (nano / 1000000)
  else if nano % 1000 = 0 then '.' :: padded 6 (nano / 1000)
  else '.' :: padded 9 nano

def hour (t : Timestamp) : Nat := t.minuteOfDay / 60

def minute (t : Timestamp) : Nat := t.minuteOfDay % 60

/-- The date and the time of day with the marks between their parts. -/
def fields (t : Timestamp) (inDate between inTime : List Char) : List Char :=
  yearText t.date.year ++ inDate ++ padded 2 t.date.month ++ inDate ++ padded 2 t.date.day
    ++ between ++ padded 2 t.hour ++ inTime ++ padded 2 t.minute ++ inTime ++ padded 2 t.second

/-- The written form up to the offset. -/
def localText (t : Timestamp) : List Char :=
  t.fields ['-'] ['T'] [':'] ++ fractionText t.nano

def text (t : Timestamp) : String := String.ofList (t.localText ++ ['Z'])

/-- The written form with the offset in digits. -/
def offsetText (t : Timestamp) : String := String.ofList (t.localText ++ "+00:00".toList)

/-- The form in reports, to the second. -/
def reportText (t : Timestamp) : String :=
  String.ofList (t.fields ['-'] [' '] [':'] ++ " UTC".toList)

/-- The form in file names, to the second. -/
def fileText (t : Timestamp) : String := String.ofList (t.fields [] ['_'] [])

/-! ## Reading -/

/-- From one digit up to a count of them. -/
def takeNumber? (most : Nat) (cs : List Char) : Option (Nat × List Char) :=
  let digits := (cs.take most).takeWhile Char.isDigit
  if digits.isEmpty then none else some (ofDigits digits, cs.drop digits.length)

/-- A number after blanks. -/
def takeField? (most : Nat) (cs : List Char) : Option (Nat × List Char) :=
  takeNumber? most (Text.dropBlanks cs)

/-- One given character after blanks. -/
def takeMark? (mark : Char) (cs : List Char) : Option (List Char) :=
  match Text.dropBlanks cs with
  | c :: rest => if c = mark then some rest else none
  | [] => none

/-- Four digits at most without a sign, any number of them with one. -/
def takeYear? (cs : List Char) : Option (Int × List Char) :=
  match Text.dropBlanks cs with
  | '-' :: rest => (takeNumber? rest.length rest).map fun (n, r) => (-(n : Int), r)
  | '+' :: rest => (takeNumber? rest.length rest).map fun (n, r) => ((n : Int), r)
  | other => (takeNumber? 4 other).map fun (n, r) => ((n : Int), r)

/-- Digits after a point count as billionths; those after the ninth are passed over. -/
def takeFraction? : List Char → Option (Nat × List Char)
  | '.' :: rest =>
    let digits := rest.takeWhile Char.isDigit
    let kept := digits.take 9
    if digits.isEmpty then none
    else some (ofDigits kept * tenTo (9 - kept.length), rest.drop digits.length)
  | cs => some (0, cs)

/-- Hours and minutes, in minutes, below one day. -/
def takeHoursMinutes? (cs : List Char) : Option (Nat × List Char) :=
  match cs with
  | h :: i :: rest =>
    match rest.dropWhile fun c => c = ':' || Text.isBlank c with
    | m :: n :: rest =>
      let hours := ofDigits [h, i]
      let minutes := ofDigits [m, n]
      if [h, i, m, n].all Char.isDigit && hours < 24 && minutes < 60 then
        some (60 * hours + minutes, rest)
      else none
    | _ => none
  | _ => none

/-- The offset from universal time, in minutes. -/
def takeOffset? (cs : List Char) : Option (Int × List Char) :=
  if ((cs.take 3).map Char.toUpper) = "UTC".toList then some (0, cs.drop 3)
  else
    match cs with
    | 'Z' :: rest | 'z' :: rest => some (0, rest)
    | '+' :: rest => (takeHoursMinutes? rest).map fun (n, r) => ((n : Int), r)
    | '-' :: rest | '\u2212' :: rest => (takeHoursMinutes? rest).map fun (n, r) => (-(n : Int), r)
    | _ => none

/-- First and last year. -/
def inRange (year : Int) : Bool := -262143 ≤ year && year ≤ 262142

/-- The moment at which clocks with the offset show the date and time. -/
def ofLocal? (date : Date) (hour minute second nano : Nat) (offset : Int) : Option Timestamp :=
  let minutes : Int := 60 * hour + minute - offset
  let date := if minutes < 0 then date.previous else if 1440 ≤ minutes then date.next else date
  if h : hour < 24 ∧ minute < 60 ∧ second ≤ 60 ∧ nano < 1000000000 ∧ inRange date.year then
    some ⟨date, (minutes % 1440).toNat, second, nano, by omega, h.2.2.1, h.2.2.2.1⟩
  else none

def parseChars? (cs : List Char) : Option Timestamp := do
  let (year, cs) ← takeYear? cs
  let (month, cs) ← takeField? 2 (← takeMark? '-' cs)
  let (day, cs) ← takeField? 2 (← takeMark? '-' cs)
  let date ← Date.make? year month day
  guard (inRange year)
  match cs with
  | c :: cs =>
    guard (c = 'T' ∨ c = 't' ∨ c = ' ')
    let (hour, cs) ← takeField? 2 cs
    let (minute, cs) ← takeField? 2 (← takeMark? ':' cs)
    let (second, cs) ← takeField? 2 (← takeMark? ':' cs)
    let (nano, cs) ← takeFraction? cs
    let (offset, cs) ← takeOffset? (Text.dropBlanks cs)
    guard (Text.dropBlanks cs).isEmpty
    ofLocal? date hour minute second nano offset
  | [] => none

def parse? (s : String) : Option Timestamp := parseChars? s.toList

end Timestamp

end CloudAudit
