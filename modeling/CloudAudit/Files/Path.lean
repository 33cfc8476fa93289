import CloudAudit.Text.Segments

/-!
# Paths

Texts that lead to files and folders: names with slashes between them. A path with a slash in front
starts at the root, any other one at the folder where one stands.
-/

namespace CloudAudit.Files

/-- One move along a path. -/
inductive Move where
  | stay
  | up
  | into (name : String)
  deriving DecidableEq, Repr

def Move.ofName (name : String) : Move :=
  if name = "" ∨ name = "." then .stay
  else if name = ".." then .up
  else .into name

def moves (path : String) : List Move :=
  (Text.split '/' path).map Move.ofName

def isAbsolute (path : String) : Bool :=
  path.toList.head? == some '/'

/-- The path of a name in a folder; an absolute name is a path of its own. -/
def join (folder name : String) : String :=
  if isAbsolute name || folder.isEmpty then name
  else if folder.toList.getLast? = some '/' then folder ++ name
  else folder ++ "/" ++ name

/-- The name at the end of a path. -/
def name? (path : String) : Option String :=
  match ((moves path).filter (· ≠ .stay)).getLast? with
  | some (.into name) => some name
  | _ => none

/-! ## Endings -/

/-- A name cut at its last dot. A dot in front of all else does not cut. -/
def cutEnding (name : String) : String × Option String :=
  let cs := name.toList
  let ending := (cs.reverse.takeWhile (· ≠ '.')).reverse
  match (cs.take (cs.length - ending.length)).dropLast with
  | [] => (name, none)
  | stem => (String.ofList stem, some (String.ofList ending))

/-- The part of a name after its last dot. -/
def ending? (name : String) : Option String := (cutEnding name).2

/-- The name at the end of a path without its ending. -/
def stem? (path : String) : Option String := (name? path).map fun name => (cutEnding name).1

/-! ## Folders around a folder -/

/-- The folder of an absolute path and all folders around it, the innermost first. -/
def outward (folder : String) : List String :=
  let names := (moves folder).filterMap fun
    | .into name => some name
    | _ => none
  (List.range (names.length + 1)).reverse.map fun count => "/" ++ Text.join "/" (names.take count)

end CloudAudit.Files
