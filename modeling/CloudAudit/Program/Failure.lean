import CloudAudit.Assessment.Run
import CloudAudit.Checklist.Entry
import CloudAudit.Files.Tree
import CloudAudit.Report.Format
import CloudAudit.Template.File

/-!
# Failures of commands
-/

namespace CloudAudit

/-- Why a command came to nothing. -/
inductive CommandError where
  | settings (e : SettingsError)
  | inventory (e : QueryFailure)
  | templates (e : TemplateError)
  /-- A folder of checklists, or a control on its own, could not be read. -/
  | source (e : ChecklistError)
  | checklist (path : String) (e : ChecklistError)
  | control (path : String) (e : FileError)
  | index (e : IndexError)
  | format (text : String)
  /-- A template could not be rendered. -/
  | rendering
  | writing (path : String) (e : FileError)
  | creating (path : String) (e : FileError)
  deriving DecidableEq, Repr

/-- The message, unless it is about a text that is no document. -/
def ChecklistError.message? : ChecklistError → Option String
  | .notAChecklist none => none
  | e => some e.message

/-- The message, unless it is about a text that is no JSON. -/
def QueryFailure.message? : QueryFailure → Option String
  | .garbled _ | .garbledSnapshot _ => none
  | e => some e.message

namespace CommandError

/-- The message, unless it is about the inside of a text that could not be read. -/
def message? : CommandError → Option String
  | settings e => e.message?
  | inventory e => e.message?
  | templates e => e.message?
  | source e => e.message?
  | checklist path e => e.message?.map fun text => s!"loading checklist {path}: {text}"
  | control path e => some s!"reading control {path}: {e.message}"
  | index e => some e.message
  | format text => some (ReportFormat.unsupportedMessage text)
  | rendering => none
  | writing path e => some s!"writing {path}: {e.message}"
  | creating path e => some s!"creating {path}: {e.message}"

end CommandError

end CloudAudit
