import CloudAudit.Host.Basic

/-!
# Worlds

A host as a value: a tree of files, variables, a clock that stands, and programs that are functions
of their arguments. It records which programs were run.
-/

namespace CloudAudit

structure World where
  tree : FileTree := {}
  environment : List (String × String) := []
  clock : Timestamp := .epoch
  program : String → List String → ProgramEnd
  /-- The programs that were run with their arguments, in order. -/
  calls : List (String × List String) := []

namespace World

/-- Changes the files, unless that fails. -/
def change (step : FileTree → Except FileError FileTree) : StateM World (Except FileError Unit) :=
  fun world =>
    match step world.tree with
    | .ok tree => (.ok (), { world with tree })
    | .error e => (.error e, world)

def host : Host (StateM World) where
  read path := return (← get).tree.read path
  isFile path := return (← get).tree.isFile path
  names path := return (← get).tree.names path
  write path text := change fun tree => tree.write path text
  createFolders path := change fun tree => tree.createFolders path
  here := return "/" ++ Text.join "/" (← get).tree.here
  lookup name := return (← get).environment.lookup name
  run program arguments := fun world =>
    match world.program program arguments with
    | .notStarted cause => (.notStarted cause, world)
    | ended => (ended, { world with calls := world.calls ++ [(program, arguments)] })
  now := return (← get).clock

end World

end CloudAudit
