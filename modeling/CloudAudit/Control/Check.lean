import CloudAudit.Text.Blank
import CloudAudit.Text.Segments

/-!
# Checks

The comparisons between the value found at a path and the value expected there, and their names.
-/

namespace CloudAudit

inductive Check where
  | present
  | equals
  | contains
  | containsAny
  | greaterThan
  | greaterThanOrEqual
  | oneOf
  deriving DecidableEq, Repr, Inhabited

namespace Check

def all : List Check :=
  [present, equals, contains, containsAny, greaterThan, greaterThanOrEqual, oneOf]

/-- The spelling in checklists and reports. -/
def name : Check → String
  | present => "exists"
  | equals => "equals"
  | contains => "contains"
  | containsAny => "containsAny"
  | greaterThan => "greaterThan"
  | greaterThanOrEqual => "greaterThanOrEqual"
  | oneOf => "in"

/-- The check with exactly this spelling. -/
def ofName? (s : String) : Option Check :=
  all.find? fun check => check.name == s

/-- The check with this spelling up to case, underscores, and blanks around it. -/
def parse? (s : String) : Option Check :=
  let folded := Text.replaceChars (fun c => if c = '_' then [] else [c]) (Text.trim s)
  all.find? fun check => Text.sameFolded check.name folded

theorem ofName?_name (check : Check) : ofName? check.name = some check := by
  cases check <;> decide

/-- Whether the check compares with an expected value at all. -/
def needsExpected : Check → Bool
  | present => false
  | _ => true

def unknownMessage (s : String) : String := s!"unknown check '{s}'"

end Check

end CloudAudit
