import CloudAudit.Json.Printer
import CloudAudit.Report.Format
import CloudAudit.Report.Standard
import CloudAudit.Report.View

/-!
# Texts of reports

Reports, controls, summaries and plans as text, through templates or as indented JSON. Only
templates of one's own may fail to render.
-/

namespace CloudAudit

namespace Templates

def markdown? (templates : Templates) (report : Report) : Option String :=
  templates.render? "report" report.view

def control? (templates : Templates) (result : Assessment) : Option String :=
  templates.render? "control" result.view

def summary? (templates : Templates) (report : Report) : Option String :=
  templates.render? "summary" report.summaryView

def remediation? (templates : Templates) (items : List RemediationItem) : Option String :=
  templates.render? "remediation" (Remediation.view items)

end Templates

namespace Report

def jsonText (report : Report) : String := report.toJson.pretty

/-- A line for each result, and the totals. -/
def overview (report : Report) : String :=
  let line (result : Assessment) : String :=
    let control := result.control
    s!"#{result.index + 1} [{result.status.label}] {control.regulation}: {control.requirement}\n"
  let totals := report.totals
  String.join (report.results.map line)
    ++ s!"\n{totals.total} controls: {totals.passed} passed, {totals.failed} failed, "
    ++ s!"{totals.manual} manual, {totals.error} error. "
    ++ s!"Compliance rate {report.overallRate.oneDecimal}% "
    ++ s!"(assessed {report.overallAssessedRate.oneDecimal}%)\n"

end Report

def Remediation.jsonText (items : List RemediationItem) : String :=
  (Json.array (items.map RemediationItem.toJson)).pretty

/-- A report in a format. -/
def Templates.export? (templates : Templates) (format : ReportFormat) (report : Report) :
    Option String :=
  match format with
  | .markdown => templates.markdown? report
  | .json => some report.jsonText

end CloudAudit
