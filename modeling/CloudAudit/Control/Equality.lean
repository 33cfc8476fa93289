import CloudAudit.Json.Printer
import CloudAudit.Text.Blank

/-!
# Equality of values in rules

Scalars agree across kinds when a text spells the other one: a number up to blanks around it, or a
truth value up to case. Lists and objects agree when they are the same tree.
-/

namespace CloudAudit

open Number

inductive Scalar where
  | text (s : String)
  | number (x : Extended)
  | truth (b : Bool)
  | nothing

namespace Json

def scalar? : Json → Option Scalar
  | null => some .nothing
  | bool b => some (.truth b)
  | int n => some (.number (Extended.ofInt n))
  | float x => some (.number (.finite x))
  | string s => some (.text s)
  | array _ => none
  | object _ => none

end Json

/-- The number that a text spells, blanks around it aside. -/
def numberInText? (s : String) : Option Extended :=
  readExtended? (Text.trimChars s.toList)

/-- The truth value that a text spells, in any case. -/
def truthInText? (s : String) : Option Bool :=
  if Text.sameFolded s "true" then some true
  else if Text.sameFolded s "false" then some false
  else none

namespace Scalar

def textIsNumber (s : String) (x : Extended) : Bool :=
  match numberInText? s with
  | some y => y.same x
  | none => false

def agrees : Scalar → Scalar → Bool
  | text s, text t => s == t
  | number x, number y => x.same y
  | truth a, truth b => a == b
  | nothing, nothing => true
  | text s, number x => textIsNumber s x
  | number x, text s => textIsNumber s x
  | text s, truth b => truthInText? s == some b
  | truth b, text s => truthInText? s == some b
  | _, _ => false

end Scalar

namespace Json

def agrees (actual expected : Json) : Bool :=
  match actual.scalar?, expected.scalar? with
  | some a, some e => a.agrees e
  | _, _ => actual.same expected

/-- The number that a value is or spells. -/
def numeric? : Json → Option Extended
  | string s => numberInText? s
  | other => other.number?

end Json

end CloudAudit
