import CloudAudit.Assessment.Control
import CloudAudit.Control.Equality
import CloudAudit.Text.Blank
import CloudAudit.Yaml.Shape

/-!
# Entries of checklists

An entry is a mapping with the fields of a control. It is read in two steps: first the shape of
the record, where fields that are not known are refused, then the meaning of its texts and of the
expected values. The first fault of an entry is the one that is reported.
-/

namespace CloudAudit

open Yaml

/-- Why a checklist is refused. -/
inductive ChecklistError where
  | unreadable (path reason : String)
  /-- The document is not one of a checklist; without a reason it is no document at all. -/
  | notAChecklist (reason : Option String)
  | malformed (index : Nat) (reason : String)
  | unknownCheck (index : Nat) (check : String)
  | badExpected (index : Nat) (path : String) (check : Check) (reason : String)
  deriving DecidableEq, Repr

namespace ChecklistError

def message : ChecklistError → String
  | unreadable path reason => s!"failed to read {path}: {reason}"
  | notAChecklist reason =>
    let text := reason.getD "not a single YAML document"
    s!"invalid checklist: {text}"
  | malformed index reason => s!"control index {index}: {reason}"
  | unknownCheck index check => s!"control index {index}: unknown check '{check}'"
  | badExpected index path check reason =>
    s!"control index {index}: invalid value for '{path}' ({check.name}): {reason}"

/-- The index of the entry that is at fault. -/
def index? : ChecklistError → Option Nat
  | malformed index _ | unknownCheck index _ | badExpected index _ _ _ => some index
  | _ => none

end ChecklistError

/-! ## The shape of a record -/

/-- A rule as it is written. -/
structure RuleEntry where
  property : String
  check : String
  value : Json := .null

/-- A resource type with its rules as they are written. -/
structure ResourceEntry where
  type : String
  required : Bool := false
  validation : List RuleEntry := []

/-- A control as it is written. -/
structure ControlEntry where
  regulation : String
  requirement : String
  evidence : String
  statement : String
  manual : Bool := false
  notes : Option String := none
  resources : List ResourceEntry := []

namespace RuleEntry

structure Seen where
  property : Option String := none
  check : Option String := none
  value : Option Json := none

def fields : List (Shape.Field Seen) :=
  [⟨"property", (·.property.isSome), fun s v => do return { s with property := ← Shape.string v }⟩,
    ⟨"check", (·.check.isSome), fun s v => do return { s with check := ← Shape.string v }⟩,
    ⟨"value", (·.value.isSome), fun s v => do
      return { s with value := (← Shape.json v).canonical }⟩]

def shape : Shape RuleEntry := fun value => do
  let s ← Shape.record "RawValidation" fields {} value
  return { property := ← Shape.require "property" s.property
           check := ← Shape.require "check" s.check
           value := s.value.getD .null }

end RuleEntry

namespace ResourceEntry

structure Seen where
  type : Option String := none
  required : Option Bool := none
  validation : Option (List RuleEntry) := none

def fields : List (Shape.Field Seen) :=
  [⟨"type", (·.type.isSome), fun s v => do return { s with type := ← Shape.string v }⟩,
    ⟨"required", (·.required.isSome), fun s v => do return { s with required := ← Shape.truth v }⟩,
    ⟨"validation", (·.validation.isSome), fun s v => do
      return { s with validation := ← Shape.list RuleEntry.shape v }⟩]

def shape : Shape ResourceEntry := fun value => do
  let s ← Shape.record "RawResource" fields {} value
  return { type := ← Shape.require "type" s.type
           required := s.required.getD false
           validation := s.validation.getD [] }

end ResourceEntry

namespace ControlEntry

structure Seen where
  regulation : Option String := none
  requirement : Option String := none
  evidence : Option String := none
  statement : Option String := none
  manual : Option Bool := none
  notes : Option (Option String) := none
  resources : Option (List ResourceEntry) := none

def fields : List (Shape.Field Seen) :=
  [⟨"reglementation", (·.regulation.isSome), fun s v => do
      return { s with regulation := ← Shape.string v }⟩,
    ⟨"exigence", (·.requirement.isSome), fun s v => do
      return { s with requirement := ← Shape.string v }⟩,
    ⟨"preuve", (·.evidence.isSome), fun s v => do return { s with evidence := ← Shape.string v }⟩,
    ⟨"controle", (·.statement.isSome), fun s v => do
      return { s with statement := ← Shape.string v }⟩,
    ⟨"manual_verification", (·.manual.isSome), fun s v => do
      return { s with manual := ← Shape.truth v }⟩,
    ⟨"notes", (·.notes.isSome), fun s v => do
      return { s with notes := some (← Shape.optional Shape.string v) }⟩,
    ⟨"azure_resources", (·.resources.isSome), fun s v => do
      return { s with resources := ← Shape.list ResourceEntry.shape v }⟩]

def shape : Shape ControlEntry := fun value => do
  let s ← Shape.record "RawControl" fields {} value
  return { regulation := ← Shape.require "reglementation" s.regulation
           requirement := ← Shape.require "exigence" s.requirement
           evidence := ← Shape.require "preuve" s.evidence
           statement := ← Shape.require "controle" s.statement
           manual := s.manual.getD false
           notes := s.notes.getD none
           resources := s.resources.getD [] }

end ControlEntry

/-! ## The meaning of an entry -/

/-- What is wrong with the expected value of a check. -/
def Check.expectedFault? (check : Check) (value : Json) : Option String :=
  match check with
  | .present => none
  | .equals | .contains => if value.isNull then some "missing 'value'" else none
  | .containsAny | .oneOf =>
    match value with
    | .null => some "missing 'value'"
    | .array [] => some "expected a non-empty list"
    | .array _ => none
    | _ => some "expected a list"
  | .greaterThan | .greaterThanOrEqual =>
    match value with
    | .null => some "missing 'value'"
    | other => if other.numeric?.isSome then none else some "expected a number"

namespace RuleEntry

def rule (index : Nat) (entry : RuleEntry) : Except ChecklistError Rule :=
  if Text.isBlankText entry.property then
    .error (.malformed index "empty validation 'property'")
  else
    match Check.parse? entry.check with
    | none => .error (.unknownCheck index entry.check)
    | some check =>
      match check.expectedFault? entry.value with
      | some reason => .error (.badExpected index entry.property check reason)
      | none => .ok { path := entry.property, check, expected := entry.value }

end RuleEntry

namespace ResourceEntry

def requirement (index : Nat) (entry : ResourceEntry) : Except ChecklistError Requirement :=
  if Text.isBlankText entry.type then .error (.malformed index "empty resource 'type'")
  else do
    let rules ← entry.validation.mapM (RuleEntry.rule index)
    return { resourceType := entry.type, required := entry.required, rules }

end ResourceEntry

namespace ControlEntry

def control (index : Nat) (entry : ControlEntry) : Except ChecklistError Control :=
  if Text.isBlankText entry.regulation then .error (.malformed index "empty 'reglementation'")
  else do
    let requirements ← entry.resources.mapM (ResourceEntry.requirement index)
    return { regulation := entry.regulation, requirement := entry.requirement
             evidence := entry.evidence, statement := entry.statement, requirements
             manual := entry.manual, notes := entry.notes }

end ControlEntry

/-- The control of an entry at a position of a checklist. -/
def Control.ofEntry? (index : Nat) (entry : Value) : Except ChecklistError Control :=
  match ControlEntry.shape entry with
  | .ok shape => shape.control index
  | .error reason => .error (.malformed index reason)

/-- The control of a text that is a single entry. -/
def Control.parse? (text : String) : Except ChecklistError Control :=
  match Node.read? text with
  | some (_, value) => Control.ofEntry? 0 value
  | none => .error (.notAChecklist none)

/-- The assessment of a text that is a single entry. -/
def Control.validateText {m : Type → Type} [Monad m] (query : String → m Reply)
    (policy : MatchPolicy) (text : String) : m (Except ChecklistError Assessment) :=
  match Control.parse? text with
  | .ok control => do return .ok (← control.validate query policy 0)
  | .error e => pure (.error e)

end CloudAudit
