import CloudAudit.Yaml.Record

/-!
# Shapes of values

Reading of records out of values whose document is no longer at hand. Tags are passed over, null
stands for an empty list or mapping, fields that are not known are refused, and faults have no path.
-/

namespace CloudAudit.Yaml

/-- Reads a value, or tells what is wrong with it. -/
abbrev Shape (α : Type) := Value → Except String α

namespace Shape

def text (expected : String) : Shape String := fun value =>
  match value.untagged with
  | .string s => .ok s
  | other => .error (wrongType other.found expected)

def string : Shape String := text "a string"

def truth : Shape Bool := fun value =>
  match value.untagged with
  | .bool b => .ok b
  | other => .error (wrongType other.found "a boolean")

/-- Null stands for nothing. -/
def optional {α : Type} (shape : Shape α) : Shape (Option α)
  | .null => .ok none
  | other => (shape other).map some

/-- Null stands for the empty list. -/
def list {α : Type} (shape : Shape α) : Shape (List α) := fun value =>
  match value.untagged with
  | .sequence items => items.mapM shape
  | .null => .ok []
  | other => .error (wrongType other.found "a sequence")

mutual

/-- The JSON tree of a value. Numbers without a JSON form become null. -/
def json : Shape Json
  | .null => .ok .null
  | .bool b => .ok (.bool b)
  | .int n => .ok (.int n)
  | .float (.finite x) => .ok (.float x)
  | .float _ => .ok .null
  | .string s => .ok (.string s)
  | .sequence items => do return .array (← jsonItems items)
  | .mapping entries => do return .object (← jsonEntries "a string key" entries)
  | .tagged tag value => .error (wrongType (Value.tagged tag value).found "any valid JSON value")

def jsonItems : List Value → Except String (List Json)
  | [] => .ok []
  | item :: rest => do
    let first ← json item
    return first :: (← jsonItems rest)

def jsonEntries (expected : String) : List (Value × Value) → Except String (List (String × Json))
  | [] => .ok []
  | (key, value) :: rest => do
    let name ← text expected key
    let first ← json value
    return (name, first) :: (← jsonEntries "a string" rest)

end

/-- A field of a record that is read into what is there. -/
structure Field (σ : Type) where
  name : String
  seen : σ → Bool
  read : σ → Value → Except String σ

/-- Reads one entry; a key of no field is refused. -/
def entry {σ : Type} (fields : List (Field σ)) (state : σ) (key value : Value) :
    Except String σ := do
  let name ← text "field identifier" key
  match fields.find? fun field => field.name == name with
  | some field =>
    if field.seen state then .error (duplicateField name) else field.read state value
  | none => .error (unknownField name (fields.map Field.name))

/-- Reads the entries of a mapping in order; null stands for the empty mapping. -/
def record {σ : Type} (name : String) (fields : List (Field σ)) (start : σ) :
    Shape σ := fun value =>
  match value.untagged with
  | .mapping entries =>
    entries.foldlM (fun state (key, value) => entry fields state key value) start
  | .null => .ok start
  | other => .error (wrongType other.found ("struct " ++ name))

def require {α : Type} (name : String) : Option α → Except String α
  | some value => .ok value
  | none => .error (missingField name)

end Shape

end CloudAudit.Yaml
