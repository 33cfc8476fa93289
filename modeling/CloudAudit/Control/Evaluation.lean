import CloudAudit.Control.Basic
import CloudAudit.Control.Equality
import CloudAudit.Resource.Path

/-!
# Evaluation of rules

A rule passes on a resource when its path leads to a value and the check holds between that value
and the expected one. Values of the wrong kind fail the check.
-/

namespace CloudAudit

open Number

namespace Check

/-- A text contains the text of a scalar other than null; a list contains an item that agrees. -/
def holdsContains (actual needle : Json) : Bool :=
  match actual with
  | .string hay =>
    match needle with
    | .array _ | .object _ | .null => false
    | scalar => Text.contains hay scalar.display
  | .array items => items.any fun item => item.agrees needle
  | _ => false

/-- The items of a list, or the value as the only candidate. -/
def candidates : Json → List Json
  | .array items => items
  | other => [other]

def holdsOrder (test : Extended → Extended → Bool) (actual expected : Json) : Bool :=
  match actual.numeric?, expected.numeric? with
  | some a, some e => test a e
  | _, _ => false

/-- Whether the check holds between the value found and the value expected. -/
def holds (check : Check) (actual expected : Json) : Bool :=
  match check with
  | present => true
  | equals => actual.agrees expected
  | contains => holdsContains actual expected
  | containsAny => (candidates expected).any (holdsContains actual)
  | greaterThan => holdsOrder Extended.greater actual expected
  | greaterThanOrEqual => holdsOrder Extended.greaterOrSame actual expected
  | oneOf => actual.scalar?.isSome && (candidates expected).any actual.agrees

end Check

/-- The outcome of a rule: the explanation is one line of audit evidence. -/
structure Evaluation where
  passed : Bool
  explanation : String
  deriving DecidableEq, Repr

namespace Rule

def passesOn (rule : Rule) (found : Option Json) : Bool :=
  match found with
  | some actual => rule.check.holds actual rule.expected
  | none => false

/-- What was found, what was expected, and the verdict. -/
def explain (rule : Rule) (found : Option Json) (passed : Bool) : String :=
  let actual :=
    match found with
    | some value => rule.path ++ " = " ++ value.display
    | none => rule.path ++ " not found"
  let expected :=
    if rule.check.needsExpected then
      "expected " ++ rule.check.name ++ " " ++ rule.expected.display
    else "expected " ++ rule.check.name
  actual ++ ", " ++ expected ++ ", " ++ if passed then "passed" else "failed"

/-- Whether the rule holds for a resource. -/
def holds (rule : Rule) (resource : Json) : Bool :=
  rule.passesOn (Resource.resolve? resource rule.path)

def evaluate (rule : Rule) (resource : Json) : Evaluation :=
  let found := Resource.resolve? resource rule.path
  ⟨rule.passesOn found, rule.explain found (rule.passesOn found)⟩

theorem evaluate_passed (rule : Rule) (resource : Json) :
    (rule.evaluate resource).passed = rule.holds resource := rfl

end Rule

end CloudAudit
