import CloudAudit.Control.Check
import CloudAudit.Json.Basic

/-!
# Controls

A control is a regulatory requirement: resource types, and rules that properties of the resources
of each type have to keep. A manual control is left to a person.
-/

namespace CloudAudit

/-- A comparison of the value at a property path. -/
structure Rule where
  path : String
  check : Check
  expected : Json := .null
  deriving Inhabited

/-- A resource type with its rules. When `required`, some resource of the type has to be there. -/
structure Requirement where
  resourceType : String
  required : Bool := false
  rules : List Rule := []
  deriving Inhabited

structure Control where
  regulation : String
  requirement : String
  evidence : String := ""
  statement : String := ""
  requirements : List Requirement := []
  manual : Bool := false
  notes : Option String := none
  deriving Inhabited

end CloudAudit
