import CloudAudit.Checklist.Listing
import CloudAudit.Inventory.Listing
import CloudAudit.Program.Setup
import CloudAudit.Report.Record
import CloudAudit.Report.Text

/-!
# Carrying out commands

Every command reads what it needs, and gives a text to print. Two of them write a file, as the last
thing that they do, so that a file holds a finished report or is left alone.
-/

namespace CloudAudit

namespace Setup

variable {m : Type → Type} [Monad m] (host : Host m)

/-- Where a checklist may be: at a path, or under a name in the folder of checklists. -/
def candidates (setup : Setup) (name : String) : List String :=
  name :: ["", ".yaml", ".yml"].map fun ending =>
    Files.join setup.configuration.checklistsDir (name ++ ending)

/-- The first of some paths at which there is a file. -/
def firstFile : List String → m (Option String)
  | [] => pure none
  | path :: rest => do if ← host.isFile path then return some path else firstFile rest

def checklist (setup : Setup) (name : String) : ExceptT CommandError m Checklist := do
  let path := (← ExceptT.lift (firstFile host (setup.candidates name))).getD name
  orFail (.checklist path) (← ExceptT.lift (Checklist.load host path))

def query (setup : Setup) : String → m Reply := setup.inventory.query host

/-- Assesses all controls of a checklist. -/
def assess (setup : Setup) (name : String) : ExceptT CommandError m Report := do
  let checklist ← setup.checklist host name
  let now ← host.now
  let engine := setup.configuration.engine
  let results ← ExceptT.lift (Run.complete engine (setup.query host) checklist.controls)
  return Report.ofResults now (some checklist.source) engine.matchPolicy results

/-- A text that templates give. -/
def render (setup : Setup) (text? : Templates → Option String) : ExceptT CommandError m String := do
  match text? (← orFail .templates setup.renderer) with
  | some text => return text
  | none => throw .rendering

def format (text : String) : ExceptT CommandError m ReportFormat :=
  match ReportFormat.parse? text with
  | some format => pure format
  | none => throw (.format text)

/-! ## The commands -/

def list (setup : Setup) (folder : Option String) : ExceptT CommandError m String := do
  let folder := folder.getD setup.configuration.checklistsDir
  return ChecklistListing.text folder
    (← orFail .source (← ExceptT.lift (ChecklistListing.ofFolder host folder)))

def overview (setup : Setup) (name : String) : ExceptT CommandError m String := do
  return (← setup.checklist host name).overview

def validateOne (setup : Setup) (name : String) (index : Nat) (json : Bool) :
    ExceptT CommandError m String := do
  let checklist ← setup.checklist host name
  let policy := setup.configuration.engine.matchPolicy
  let result ← ExceptT.lift (Run.single (setup.query host) policy checklist.controls index)
  let result ← orFail .index result
  if json then return result.toJson.pretty
  else setup.render fun templates => templates.control? result

def validateAll (setup : Setup) (name : String) (json : Bool) : ExceptT CommandError m String := do
  let report ← setup.assess host name
  return if json then report.jsonText else report.overview

def validateCustom (setup : Setup) (file : String) : ExceptT CommandError m String := do
  let text ← orFail (.control file) (← host.read file)
  let policy := setup.configuration.engine.matchPolicy
  let result ← ExceptT.lift (Control.validateText (setup.query host) policy text)
  let result ← orFail .source result
  setup.render fun templates => templates.control? result

def checkResource (setup : Setup) (resourceType : String) (json : Bool) :
    ExceptT CommandError m String := do
  let resources ← orFail .inventory (← ExceptT.lift (setup.query host resourceType))
  let listing := ResourceListing.ofResources resourceType resources
  return if json then listing.toJson.pretty else listing.text

/-- The format, the report, and its text in the format. -/
def rendered (setup : Setup) (name formatName : String) :
    ExceptT CommandError m (ReportFormat × Report × String) := do
  let format ← format formatName
  let report ← setup.assess host name
  return (format, report, ← setup.render fun templates => templates.export? format report)

def report (setup : Setup) (name formatName : String) (output : Option String) :
    ExceptT CommandError m String := do
  let (_, _, text) ← setup.rendered host name formatName
  match output with
  | none => return text
  | some path =>
    orFail (.writing path) (← host.write path text)
    return s!"Report written to {path}"

def summary (setup : Setup) (name : String) : ExceptT CommandError m String := do
  let report ← setup.assess host name
  setup.render fun templates => templates.summary? report

def remediation (setup : Setup) (name : String) (json : Bool) : ExceptT CommandError m String := do
  let report ← setup.assess host name
  let items := report.plan setup.configuration.remediation
  if json then return Remediation.jsonText items
  else setup.render fun templates => templates.remediation? items

/-- Writes a report into the folder of reports, under a name with the time. -/
def archive (setup : Setup) (name formatName : String) : ExceptT CommandError m String := do
  let (format, report, text) ← setup.rendered host name formatName
  let folder := setup.configuration.reportsDir
  orFail (.creating folder) (← host.createFolders folder)
  let path := Files.join folder (format.fileName report.generatedAt)
  orFail (.writing path) (← host.write path text)
  return s!"Audit report exported: {path}\nFormat: {format.capitalName}\n"
    ++ s!"Controls: {report.results.length}"

def execute (setup : Setup) : Command → ExceptT CommandError m String
  | .list folder => setup.list host folder
  | .load name => setup.overview host name
  | .validate name (some index) json => setup.validateOne host name index json
  | .validate name none json => setup.validateAll host name json
  | .validateCustom file => setup.validateCustom host file
  | .checkResource resourceType json => setup.checkResource host resourceType json
  | .report name format output => setup.report host name format output
  | .summary name => setup.summary host name
  | .remediation name json => setup.remediation host name json
  | .archive name format => setup.archive host name format

end Setup

/-- Sets up, carries out the command, and gives the text to print. -/
def Invocation.run {m : Type → Type} [Monad m] (host : Host m) (invocation : Invocation) :
    ExceptT CommandError m String := do
  (← Setup.load host invocation).execute host invocation.command

end CloudAudit
