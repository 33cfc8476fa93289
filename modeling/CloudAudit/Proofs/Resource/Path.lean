import CloudAudit.Resource.Path

/-!
# Resources with a value at a path

Every path leads to every value in some resource: in one object inside the other, with a key for
each segment (`resolve?_holding`).
-/

namespace CloudAudit.Resource

/-- The value under the segments as keys, the first segment outermost. -/
def nest (path : List (List Char)) (value : Json) : Json :=
  path.foldr (fun segment inner => .object [(String.ofList segment, inner)]) value

theorem follow?_nest (path : List (List Char)) (value : Json) :
    follow? (nest path value) path = some value := by
  induction path with
  | nil => rfl
  | cons segment rest ih =>
    have hstep : step? (nest (segment :: rest) value) segment = some (nest rest value) :=
      List.lookup_cons_self
    show List.foldlM step? (nest (segment :: rest) value) (segment :: rest) = some value
    rw [List.foldlM_cons, hstep]
    exact ih

/-- A resource with nothing but the value at the path. -/
def holding (path : String) (value : Json) : Json :=
  if path.isEmpty then value else nest (Text.segments '.' path.toList) value

theorem resolve?_holding (path : String) (value : Json) :
    resolve? (holding path value) path = some value := by
  unfold resolve? holding
  split
  · rfl
  · exact follow?_nest _ value

end CloudAudit.Resource
