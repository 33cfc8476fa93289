import CloudAudit.Text.Blank
import CloudAudit.Timestamp

/-!
# Report formats
-/

namespace CloudAudit

inductive ReportFormat where
  | markdown
  | json
  deriving DecidableEq, Repr, Inhabited

namespace ReportFormat

def name : ReportFormat → String
  | markdown => "markdown"
  | json => "json"

def capitalName : ReportFormat → String
  | markdown => "MARKDOWN"
  | json => "JSON"

/-- The end of a file name. -/
def fileEnding : ReportFormat → String
  | markdown => "md"
  | json => "json"

/-- A name or a file ending, in any case and with blanks around it. -/
def parse? (s : String) : Option ReportFormat :=
  let folded := (Text.trim s).map Char.toLower
  if folded = "markdown" ∨ folded = "md" then some markdown
  else if folded = "json" then some json
  else none

def unsupportedMessage (s : String) : String :=
  s!"unsupported format '{s}', use 'markdown' or 'json'"

/-- The name of the file of a report that was made at a moment. -/
def fileName (format : ReportFormat) (generatedAt : Timestamp) : String :=
  s!"compliance_report_{generatedAt.fileText}.{format.fileEnding}"

end ReportFormat

end CloudAudit
