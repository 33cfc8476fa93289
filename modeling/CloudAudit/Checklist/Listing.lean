import CloudAudit.Checklist.Basic
import CloudAudit.Host.Basic

/-!
# Folders of checklists

Checklists in files, and listings of the checklists in a folder. A file that is no checklist is
listed with its fault.
-/

namespace CloudAudit

open Files

namespace Checklist

/-- The checklist in what was read at a path; the file gives it a name. -/
def ofFile (path : String) : Except FileError String → Except ChecklistError Checklist
  | .ok text => parse? ((stem? path).getD "checklist") text
  | .error e => .error (.unreadable path e.message)

def load {m : Type → Type} [Monad m] (host : Host m) (path : String) :
    m (Except ChecklistError Checklist) := do
  return ofFile path (← host.read path)

end Checklist

structure ChecklistListing where
  fileName : String
  path : String
  /-- The count of controls, or the fault. -/
  controls : Except ChecklistError Nat

namespace ChecklistListing

/-- Whether a file of this name holds a checklist. -/
def isChecklistName (name : String) : Bool :=
  ending? name == some "yaml" || ending? name == some "yml"

def ofFile {m : Type → Type} [Monad m] (host : Host m) (folder name : String) :
    m ChecklistListing := do
  let path := join folder name
  let checklist ← Checklist.load host path
  return { fileName := name, path, controls := checklist.map (·.controls.length) }

/-- A listing of every checklist file in a folder, in the order of their names. -/
def ofFolder {m : Type → Type} [Monad m] (host : Host m) (folder : String) :
    m (Except ChecklistError (List ChecklistListing)) := do
  match ← host.names folder with
  | .error e => return .error (.unreadable folder e.message)
  | .ok names =>
    let candidates := (names.filter isChecklistName).mergeSort fun a b => !decide (b < a)
    let files ← candidates.filterM fun name => host.isFile (join folder name)
    return .ok (← files.mapM (ofFile host folder))

def toJson (listing : ChecklistListing) : Json :=
  .object ([("fileName", .string listing.fileName), ("path", .string listing.path)] ++
    match listing.controls with
    | .ok count => [("controlCount", .int count)]
    | .error e => [("error", .string e.message)])

/-- A line of the text for people. -/
def line (listing : ChecklistListing) : String :=
  match listing.controls with
  | .ok count => s!"  {listing.fileName} ({count} controls)\n"
  | .error e => s!"  {listing.fileName} (error: {e.message})\n"

/-- The text for people about the listings of a folder. -/
def text (folder : String) (listings : List ChecklistListing) : String :=
  if listings.isEmpty then s!"No checklists found in {folder}"
  else
    s!"Available checklists ({listings.length}):\n" ++ String.join (listings.map line)

end ChecklistListing

end CloudAudit
