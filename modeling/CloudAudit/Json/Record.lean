import CloudAudit.Json.Basic
import CloudAudit.Number.Natural

/-!
# Records in JSON

A record is an object with one member for each field, or a list of the fields in order that may
leave out the last ones. Members with other keys are ignored; a key of a field may stand only once.
-/

namespace CloudAudit.Json

open Number

/-- What a record holds for each of its fields. -/
abbrev Fields := List (String × Json)

/-- The fields of an object whose keys are among the names. -/
def objectFields? (names : List String) : Json → Option Fields
  | object members =>
    let known := members.filter fun m => names.contains m.1
    if (known.map Prod.fst).eraseDups.length = known.length then some known else none
  | _ => none

def fields? (names : List String) : Json → Option Fields
  | array items => if items.length ≤ names.length then some (names.zip items) else none
  | other => objectFields? names other

namespace Fields

/-- A field that must be there. -/
def required {α : Type} (fields : Fields) (name : String) (read? : Json → Option α) : Option α :=
  (fields.lookup name).bind read?

/-- A field that has a value of its own when it is not there. -/
def withDefault {α : Type} (fields : Fields) (name : String) (default : α)
    (read? : Json → Option α) : Option α :=
  match fields.lookup name with
  | some value => read? value
  | none => some default

end Fields

/-! ## Values of fields -/

def bool? : Json → Option Bool
  | bool b => some b
  | _ => none

/-- A whole number from zero to below `2 ^ 64`. -/
def natural? : Json → Option Nat
  | int n => if 0 ≤ n ∧ n < (wordLimit : Int) then some n.toNat else none
  | _ => none

/-- A number as a floating point value. -/
def float? : Json → Option Binary64
  | int n => Binary64.ofInt? n
  | float x => some x
  | _ => none

def list? {α : Type} (read? : Json → Option α) : Json → Option (List α)
  | array items => items.mapM read?
  | _ => none

/-- A value that may be null. -/
def optional? {α : Type} (read? : Json → Option α) : Json → Option (Option α)
  | null => some none
  | other => (read? other).map some

/-- The name of a choice, as a text or as the one key of an object whose value is null. -/
def choice? : Json → Option String
  | string s => some s
  | object [(key, null)] => some key
  | _ => none

/-- Members that may be left out: nothing, or one member. -/
def optionalMember (key : String) : Option Json → List (String × Json)
  | some value => [(key, value)]
  | none => []

def ofTexts (texts : List String) : Json :=
  array (texts.map string)

/-- Null for nothing. -/
def ofOption {α : Type} (f : α → Json) : Option α → Json
  | some a => f a
  | none => null

end CloudAudit.Json
