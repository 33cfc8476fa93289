import CloudAudit.Control.Basic
import CloudAudit.Json.Record

/-!
# Controls in JSON
-/

namespace CloudAudit

open Json (Fields)

namespace Check

def toJson (check : Check) : Json := .string check.name

def ofJson? (j : Json) : Option Check := j.choice?.bind ofName?

end Check

namespace Rule

def toJson (rule : Rule) : Json :=
  .object [("propertyPath", .string rule.path), ("checkKind", rule.check.toJson),
    ("expectedValue", rule.expected)]

def ofJson? (j : Json) : Option Rule := do
  let fields ← j.fields? ["propertyPath", "checkKind", "expectedValue"]
  let path ← fields.required "propertyPath" Json.string?
  let check ← fields.required "checkKind" Check.ofJson?
  let expected ← fields.withDefault "expectedValue" .null fun value => some value.canonical
  return { path, check, expected }

end Rule

namespace Requirement

def toJson (requirement : Requirement) : Json :=
  .object [("resourceType", .string requirement.resourceType),
    ("required", .bool requirement.required),
    ("validationRules", .array (requirement.rules.map Rule.toJson))]

def ofJson? (j : Json) : Option Requirement := do
  let fields ← j.fields? ["resourceType", "required", "validationRules"]
  let resourceType ← fields.required "resourceType" Json.string?
  let required ← fields.withDefault "required" false Json.bool?
  let rules ← fields.withDefault "validationRules" [] (Json.list? Rule.ofJson?)
  return { resourceType, required, rules }

end Requirement

namespace Control

def toJson (control : Control) : Json :=
  .object <|
    [("regulation", .string control.regulation), ("requirement", .string control.requirement),
      ("evidence", .string control.evidence), ("controlStatement", .string control.statement),
      ("resourceRequirements", .array (control.requirements.map Requirement.toJson)),
      ("manualVerification", .bool control.manual)]
    ++ Json.optionalMember "notes" (control.notes.map .string)

def ofJson? (j : Json) : Option Control := do
  let fields ← j.fields? ["regulation", "requirement", "evidence", "controlStatement",
    "resourceRequirements", "manualVerification", "notes"]
  let regulation ← fields.required "regulation" Json.string?
  let requirement ← fields.required "requirement" Json.string?
  let evidence ← fields.required "evidence" Json.string?
  let statement ← fields.required "controlStatement" Json.string?
  let requirements ←
    fields.withDefault "resourceRequirements" [] (Json.list? Requirement.ofJson?)
  let manual ← fields.withDefault "manualVerification" false Json.bool?
  let notes ← fields.withDefault "notes" none (Json.optional? Json.string?)
  return { regulation, requirement, evidence, statement, requirements, manual, notes }

end Control

end CloudAudit
