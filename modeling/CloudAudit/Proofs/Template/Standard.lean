import CloudAudit.Proofs.Except
import CloudAudit.Proofs.Template.Cutting
import CloudAudit.Report.Standard

/-!
# The texts of the standard templates

The standard templates are given as they are once read. Here are the texts they are written as, and
that each text is read as its template (`read?_sources`): the lines that a tag has for itself are
gone, and the bodies are nested.
-/

namespace CloudAudit.Templates

open Template

/-- The text of the template of a report, tag by tag. -/
def reportSource : Source where
  tags :=
    [("# Azure Compliance Report\n\n**Generated**: ", "generatedAt"),
      ("\n", "#if checklist"),
      ("\n**Checklist**: ", "checklist.name"),
      (" (", "checklist.controlCount"),
      (" controls, `", "checklist.digest"),
      ("`)\n", "/if"),
      ("\n**Match policy**: ", "matchPolicy"),
      ("\n\n## Executive Summary\n\n- **Total Controls**: ", "totals.total"),
      ("\n- **Passed**: ", "totals.passed"),
      ("\n- **Failed**: ", "totals.failed"),
      ("\n- **Manual Review**: ", "totals.manual"),
      ("\n- **Not Assessed (error)**: ", "totals.error"),
      ("\n- **Compliance Rate**: ", "percent overallRate"),
      ("\n- **Assessed Compliance Rate**: ", "percent overallAssessedRate"),
      ("\n\n## Compliance by Regulation\n", "#each sections"),
      ("\n\n### ", "regulation"),
      ("\n\n- **Compliance Rate**: ", "percent rate"),
      (" (", "passed"),
      ("/", "total"),
      (" passed)\n- **Failed**: ", "failed"),
      (" | **Manual**: ", "manual"),
      (" | **Error**: ", "error"),
      ("\n", "#each controls"),
      ("\n\n#### ", "status_icon status"),
      (" Control #", "number"),
      (": ", "requirement"),
      ("\n\n**Status**: ", "statusLabel"),
      ("\n", "#if evidence"),
      ("\n**Evidence**: ", "evidence"),
      ("\n", "/if"),
      ("\n", "#if controlStatement"),
      ("\n**Control**: ", "controlStatement"),
      ("\n", "/if"),
      ("\n", "#eq status \"error\""),
      ("\n> Could not be checked: the resource inventory query failed.\n", "/eq"),
      ("\n", "#if failedProperties"),
      ("\n**Failed properties**: ", "join failedProperties \", \""),
      ("\n", "/if"),
      ("\n\n```\n", "#each evidenceNotes"),
      ("\n", "this"),
      ("\n", "/each"),
      ("\n", "#each failedRules"),
      ("\n", "this"),
      ("\n", "/each"),
      ("\n```\n", "/each"),
      ("\n\n---\n", "/each")]
  last := "\n"

/-- The text of the template of a control, tag by tag. -/
def controlSource : Source where
  tags :=
    [("", "status_icon status"),
      (" Control #", "number"),
      (": ", "requirement"),
      ("\nRegulation: ", "regulation"),
      ("\nStatus: ", "statusLabel"),
      ("\n", "#each evidenceNotes"),
      ("\n  ", "this"),
      ("\n", "/each"),
      ("\n", "#each failedRules"),
      ("\n  ", "this"),
      ("\n", "/each"),
      ("\n", "#if failedProperties"),
      ("\nFailed properties: ", "join failedProperties \", \""),
      ("\n", "/if")]
  last := "\n"

/-- The text of the template of a summary, tag by tag. -/
def summarySource : Source where
  tags :=
    [("Compliance Summary by Regulation\nChecklist: ", "default checklistName \"ad-hoc controls\""),
      ("\n", "#each regulations"),
      ("\n\n", "regulation"),
      ("\n  Compliance Rate: ", "percent rate"),
      (" (assessed: ", "percent assessedRate"),
      (")\n  Passed: ", "passed"),
      ("\n  Failed: ", "failed"),
      ("\n  Manual: ", "manual"),
      ("\n  Error: ", "error"),
      ("\n  Total: ", "total"),
      ("\n", "/each"),
      ("\n\nOverall: ", "percent overallRate"),
      (" (", "totals.passed"),
      ("/", "totals.total")]
  last := " passed)\n"

/-- The text of the template of a remediation plan, tag by tag. -/
def remediationSource : Source where
  tags :=
    [("", "#if items"),
      ("\nRemediation Plan (", "count"),
      (" failed controls)\n", "#each items"),
      ("\n\n", "number"),
      (". [", "priority"),
      ("] ", "regulation"),
      (": ", "requirement"),
      ("\n   Action: ", "action"),
      ("\n", "/each"),
      ("\n\nRecommended Actions:\n", "#each recommended"),
      ("\n", "this"),
      ("\n", "/each"),
      ("\n", "else"),
      ("\nNo failed controls. All checks passed or require manual verification.\n", "/if")]
  last := "\n"

/-! ## The tags with a quoted text -/

theorem ofText?_statusIsError :
    Tag.ofText? "#eq status \"error\"".toList =
      some { kind := .opening "eq"
              { helper := .equality, arguments := [place ["status"], literal "error"] } } := by
  have hquoted : Word.unquote? '"' ['e', 'r', 'r', 'o', 'r'] = some "error" := by decide +kernel
  have hwords : Word.ofText? "eq status \"error\"".toList =
      some [.bare "eq".toList, .bare "status".toList, .quoted "error"] := by
    simp [Word.ofText?, Word.cut?, Word.isGap, Word.isQuote, Word.isSymbol, Word.Cutting.word,
      Word.Cutting.finish, hquoted]
  have hkind : Tag.kind? "#eq status \"error\"".toList =
      some (.opening "eq"
        { helper := .equality, arguments := [place ["status"], literal "error"] }) :=
    reads hwords rfl
  exact reads hkind rfl

theorem ofText?_joinFailedProperties :
    Tag.ofText? "join failedProperties \", \"".toList =
      some { kind := .shown (make .join [place ["failedProperties"], literal ", "]) } := by
  have hquoted : Word.unquote? '"' [',', ' '] = some ", " := by decide +kernel
  have hwords : Word.ofText? "join failedProperties \", \"".toList =
      some [.bare "join".toList, .bare "failedProperties".toList, .quoted ", "] := by
    simp [Word.ofText?, Word.cut?, Word.isGap, Word.isQuote, Word.isSymbol, Word.Cutting.word,
      Word.Cutting.finish, hquoted]
  have hkind : Tag.kind? "join failedProperties \", \"".toList =
      some (.shown (make .join [place ["failedProperties"], literal ", "])) :=
    reads hwords rfl
  exact reads hkind rfl

theorem ofText?_defaultChecklistName :
    Tag.ofText? "default checklistName \"ad-hoc controls\"".toList =
      some { kind :=
              .shown (make .default [place ["checklistName"], literal "ad-hoc controls"]) } := by
  have hquoted : Word.unquote? '"'
      ['a', 'd', '-', 'h', 'o', 'c', ' ', 'c', 'o', 'n', 't', 'r', 'o', 'l', 's'] =
      some "ad-hoc controls" := by
    decide +kernel
  have hwords : Word.ofText? "default checklistName \"ad-hoc controls\"".toList =
      some [.bare "default".toList, .bare "checklistName".toList, .quoted "ad-hoc controls"] := by
    simp [Word.ofText?, Word.cut?, Word.isGap, Word.isQuote, Word.isSymbol, Word.Cutting.word,
      Word.Cutting.finish, hquoted]
  have hkind : Tag.kind? "default checklistName \"ad-hoc controls\"".toList =
      some (.shown (make .default [place ["checklistName"], literal "ad-hoc controls"])) :=
    reads hwords rfl
  exact reads hkind rfl

/-! ## Reading -/

theorem isPlain_reportSource : ∀ tag ∈ reportSource.tags, Source.isPlain tag = true := by
  decide +kernel

set_option maxRecDepth 100000 in
/-- The text of the template is read as the template. -/
theorem read?_reportSource : read? reportSource.text = some report := by
  rw [Source.read?_text isPlain_reportSource (by decide)]
  -- The quoted texts are read by the reader of strings, which would not be evaluated below.
  simp only [reportSource, Source.readTags?, ofText?_statusIsError, ofText?_joinFailedProperties]
  rfl

theorem isPlain_controlSource : ∀ tag ∈ controlSource.tags, Source.isPlain tag = true := by
  decide +kernel

set_option maxRecDepth 100000 in
theorem read?_controlSource : read? controlSource.text = some control := by
  rw [Source.read?_text isPlain_controlSource (by decide)]
  simp only [controlSource, Source.readTags?, ofText?_joinFailedProperties]
  rfl

theorem isPlain_summarySource : ∀ tag ∈ summarySource.tags, Source.isPlain tag = true := by
  decide +kernel

set_option maxRecDepth 100000 in
theorem read?_summarySource : read? summarySource.text = some summary := by
  rw [Source.read?_text isPlain_summarySource (by decide)]
  simp only [summarySource, Source.readTags?, ofText?_defaultChecklistName]
  rfl

theorem isPlain_remediationSource :
    ∀ tag ∈ remediationSource.tags, Source.isPlain tag = true := by
  decide +kernel

set_option maxRecDepth 100000 in
theorem read?_remediationSource : read? remediationSource.text = some remediation := by
  rw [Source.read?_text isPlain_remediationSource (by decide)]
  rfl

def sources : List (String × Source) :=
  [("control", controlSource), ("remediation", remediationSource), ("report", reportSource),
    ("summary", summarySource)]

/-- **The standard templates.** Their texts are read as the templates of the same names. -/
theorem read?_sources :
    (sources.map fun entry => (entry.1, read? entry.2.text)) =
      standard.map fun entry => (entry.1, some entry.2) := by
  simp only [sources, standard, List.map_cons, List.map_nil, read?_controlSource,
    read?_remediationSource, read?_reportSource, read?_summarySource]

end CloudAudit.Templates
