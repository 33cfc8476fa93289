import CloudAudit.Json.Basic

/-!
# Answers of an inventory

A query for a resource type is answered by a list of resources, or fails. An empty list is no
failure.
-/

namespace CloudAudit

/-- A text that is no JSON, and what the reader of JSON says about it. -/
structure Garbled where
  /-- The resource type that was asked for, or the path of the file. -/
  about : String
  fault : String
  deriving DecidableEq, Repr, Inhabited

inductive QueryFailure where
  | failed (resourceType message : String)
  | auth (message : String)
  | timeout (resourceType : String) (seconds : Nat)
  | invalid (resourceType message : String)
  /-- The response is no JSON text. -/
  | garbled (response : Garbled)
  | unavailable (message : String)
  /-- The snapshot is no JSON text. -/
  | garbledSnapshot (file : Garbled)
  deriving DecidableEq, Repr, Inhabited

/-- What readers of JSON say about most texts that are none. -/
def Json.usualFault (_ : String) : String := "expected value"

namespace QueryFailure

def message : QueryFailure → String
  | failed resourceType text => s!"query for {resourceType} failed: {text}"
  | auth text => s!"authentication failed: {text}"
  | timeout resourceType seconds => s!"query for {resourceType} timed out after {seconds}s"
  | invalid resourceType text => s!"invalid response for {resourceType}: {text}"
  | garbled response => s!"invalid response for {response.about}: {response.fault}"
  | unavailable text => s!"inventory unavailable: {text}"
  | garbledSnapshot file => s!"inventory unavailable: invalid snapshot {file.about}: {file.fault}"

end QueryFailure

/-- The answer to one query. -/
abbrev Reply := Except QueryFailure (List Json)

end CloudAudit
