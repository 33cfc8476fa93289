import CloudAudit.Json.Basic
import CloudAudit.Number.Natural
import CloudAudit.Text.Segments

/-!
# Property paths

A path is a text of segments with dots between them. A segment is a key of an object, or the
unsigned decimal numeral of a position in a list. The empty path leads to the value itself.
-/

namespace CloudAudit.Resource

open Number

/-- The value one segment down. -/
def step? (value : Json) (segment : List Char) : Option Json :=
  match value with
  | .object members => members.lookup (String.ofList segment)
  | .array items => (readUnsigned? segment).bind fun position => items[position]?
  | _ => none

/-- The value at the end of the segments; all of them must lead somewhere. -/
def follow? (value : Json) (path : List (List Char)) : Option Json :=
  path.foldlM step? value

def resolve? (value : Json) (path : String) : Option Json :=
  if path.isEmpty then some value else follow? value (Text.segments '.' path.toList)

theorem follow?_append (value : Json) (p q : List (List Char)) :
    follow? value (p ++ q) = (follow? value p).bind fun w => follow? w q := by
  simp [follow?, List.foldlM_append]

/-- The name of a resource, or else its identifier. -/
def label? (resource : Json) : Option String :=
  ((resource.field? "name").bind Json.string?).or ((resource.field? "id").bind Json.string?)

end CloudAudit.Resource
