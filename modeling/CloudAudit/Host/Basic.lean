import CloudAudit.Files.Tree
import CloudAudit.Inventory.Azure
import CloudAudit.Timestamp

/-!
# Hosts

What a command needs from its surroundings: files, variables of the environment, programs to run
and a clock, in any monad, and the words of the reader of JSON.
-/

namespace CloudAudit

structure Host (m : Type → Type) where
  read : String → m (Except FileError String)
  isFile : String → m Bool
  /-- The names in a folder, in any order. -/
  names : String → m (Except FileError (List String))
  write : String → String → m (Except FileError Unit)
  createFolders : String → m (Except FileError Unit)
  /-- The absolute path of the folder in which relative paths start. -/
  here : m String
  lookup : String → m (Option String)
  run : String → List String → m ProgramEnd
  now : m Timestamp
  /-- What is said about a text that is no JSON. -/
  jsonFault : String → String := Json.usualFault

end CloudAudit
