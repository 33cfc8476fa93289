import CloudAudit.Proofs.Distinct
import CloudAudit.Proofs.Number.Quotient
import CloudAudit.Proofs.Report.Bookkeeping
import CloudAudit.Proofs.Template.Rendering
import CloudAudit.Proofs.Template.Standard
import CloudAudit.Report.Text

/-!
# The text of a report

What the standard template makes of a report (`markdown?_standard`): a summary, a section for each
regulation in order, and in it a block for each of its results in order. The texts of the report
stand in it as they are. A report that was made of results shows each of them in one block
(`shown_perm`).

The text is put together here from the fields of the report, not from the view of it that the
template is given.
-/

namespace CloudAudit

/-! ## The parts of the text -/

def Status.icon : Status → String
  | passed => "✅"
  | failed => "❌"
  | manual => "⚠️"
  | error => "⛔"

def Status.capitals : Status → String
  | passed => "PASSED"
  | failed => "FAILED"
  | manual => "MANUAL"
  | error => "ERROR"

def MatchPolicy.word : MatchPolicy → String
  | any => "any"
  | all => "all"

/-- The day and the time of day, to the second. -/
def Timestamp.dayAndTime (t : Timestamp) : String :=
  String.ofList (Timestamp.yearText t.date.year) ++ "-"
    ++ String.ofList (Number.padded 2 t.date.month) ++ "-"
    ++ String.ofList (Number.padded 2 t.date.day) ++ " "
    ++ String.ofList (Number.padded 2 t.hour) ++ ":"
    ++ String.ofList (Number.padded 2 t.minute) ++ ":"
    ++ String.ofList (Number.padded 2 t.second) ++ " UTC"

/-- What a failed rule found, behind the name of the resource if that has one. -/
def RuleOutcome.finding (outcome : RuleOutcome) : String :=
  match outcome.resource with
  | some resource => resource ++ ": " ++ outcome.explanation
  | none => outcome.explanation

namespace Number.Binary64

/-- A text that is a number in tenths, none of which are nearer to it. -/
def ShownAs (x : Binary64) (text : String) : Prop :=
  ∃ tenths : Nat,
    text = (if x.negative then "-" else "") ++ toString (tenths / 10) ++ "."
      ++ toString (tenths % 10) ∧
    2 * (tenths * unitsPerOne) ≤ 2 * (x.magnitude * 10) + unitsPerOne ∧
    2 * (x.magnitude * 10) ≤ 2 * (tenths * unitsPerOne) + unitsPerOne

theorem shownAs_oneDecimal (x : Binary64) : x.ShownAs x.oneDecimal := by
  refine ⟨divEven (x.magnitude * 10) unitsPerOne, ?_, twice_divEven_le _ _,
    le_twice_divEven (twoTo_pos 1074) _⟩
  unfold oneDecimal
  simp only [String.append_assoc]
  rfl

end Number.Binary64

/-- A line for a text, unless it is empty. -/
def optionalLine (label text : String) : String :=
  if text = "" then "" else label ++ text ++ "\n"

/-- Each text on a line of its own. -/
def listed (texts : List String) : String :=
  String.join (texts.map fun text => text ++ "\n")

namespace Assessment

/-- The rules that failed, in order. -/
def failures (result : Assessment) : List RuleOutcome :=
  result.ruleOutcomes.filter fun outcome => outcome.passed = false

/-- The paths on which rules failed, each where it failed first. -/
def failurePaths (result : Assessment) : List String :=
  (result.failures.map RuleOutcome.path).eraseDups

/-- The paths with commas between them, if a rule failed. -/
def pathsLine (label : String) (result : Assessment) : String :=
  if result.failures = [] then "" else label ++ ", ".intercalate result.failurePaths ++ "\n"

def errorLine (result : Assessment) : String :=
  if result.status = .error then
    "> Could not be checked: the resource inventory query failed.\n"
  else ""

/-- The block of a result in the text of a report. -/
def block (result : Assessment) : String :=
  "\n#### " ++ result.status.icon ++ " Control #" ++ toString (result.index + 1) ++ ": "
      ++ result.control.requirement ++ "\n"
    ++ "\n**Status**: " ++ result.status.capitals ++ "\n"
    ++ optionalLine "**Evidence**: " result.control.evidence
    ++ optionalLine "**Control**: " result.control.statement
    ++ result.errorLine
    ++ result.pathsLine "**Failed properties**: "
    ++ "\n```\n"
    ++ listed result.notes
    ++ listed (result.failures.map RuleOutcome.finding)
    ++ "```\n"

end Assessment

namespace Report

/-- The results of the regulation of a summary. -/
def own (report : Report) (summary : RegulationSummary) : List Assessment :=
  report.results.filter fun result => result.control.regulation == summary.regulation

/-- The section of a regulation: its rate and counts, and the blocks of its results. -/
def sectionText (report : Report) (summary : RegulationSummary) : String :=
  "\n### " ++ summary.regulation ++ "\n"
    ++ "\n- **Compliance Rate**: " ++ summary.rate.oneDecimal ++ "% ("
      ++ toString summary.totals.passed ++ "/" ++ toString summary.total ++ " passed)\n"
    ++ "- **Failed**: " ++ toString summary.totals.failed
      ++ " | **Manual**: " ++ toString summary.totals.manual
      ++ " | **Error**: " ++ toString summary.totals.error ++ "\n"
    ++ String.join ((report.own summary).map Assessment.block)
    ++ "\n---\n"

/-- Where the controls came from, if that is known. -/
def checklistLine (report : Report) : String :=
  match report.checklist with
  | some checklist =>
    "**Checklist**: " ++ checklist.name ++ " (" ++ toString checklist.controlCount
      ++ " controls, `" ++ checklist.digest ++ "`)\n"
  | none => ""

/-- The text in front of the sections. -/
def heading (report : Report) : String :=
  "# Azure Compliance Report\n"
    ++ "\n**Generated**: " ++ report.generatedAt.dayAndTime ++ "\n"
    ++ report.checklistLine
    ++ "**Match policy**: " ++ report.matchPolicy.word ++ "\n"
    ++ "\n## Executive Summary\n"
    ++ "\n- **Total Controls**: " ++ toString report.totals.total ++ "\n"
    ++ "- **Passed**: " ++ toString report.totals.passed ++ "\n"
    ++ "- **Failed**: " ++ toString report.totals.failed ++ "\n"
    ++ "- **Manual Review**: " ++ toString report.totals.manual ++ "\n"
    ++ "- **Not Assessed (error)**: " ++ toString report.totals.error ++ "\n"
    ++ "- **Compliance Rate**: " ++ report.overallRate.oneDecimal ++ "%\n"
    ++ "- **Assessed Compliance Rate**: " ++ report.overallAssessedRate.oneDecimal ++ "%\n"
    ++ "\n## Compliance by Regulation\n"

/-- The whole text of a report. -/
def wholeText (report : Report) : String :=
  report.heading ++ String.join (report.byRegulation.map report.sectionText)

end Report

/-! ## The parts of the view -/

theorem Status.label_eq_capitals (status : Status) : status.label = status.capitals := by
  cases status <;> rfl

theorem MatchPolicy.name_eq_word (policy : MatchPolicy) : policy.name = policy.word := by
  cases policy <;> rfl

theorem Timestamp.reportText_eq (t : Timestamp) : t.reportText = t.dayAndTime := by
  rw [← String.toList_inj, reportText, fields, dayAndTime]
  simp

theorem RuleOutcome.line_eq_finding (outcome : RuleOutcome) : outcome.line = outcome.finding := by
  unfold line finding
  cases outcome.resource <;> rfl

namespace Assessment

variable (result : Assessment)

theorem failedRules_eq_failures : result.failedRules = result.failures :=
  List.filter_congr fun outcome _ => by cases outcome.passed <;> rfl

theorem failedPaths_eq_failurePaths : failedPaths result.failedRules = result.failurePaths := by
  rw [failedRules_eq_failures]
  rfl

theorem lines_eq_findings :
    result.failedRules.map RuleOutcome.line = result.failures.map RuleOutcome.finding := by
  rw [failedRules_eq_failures]
  exact List.map_congr_left fun outcome _ => outcome.line_eq_finding

theorem failurePaths_eq_nil_iff : result.failurePaths = [] ↔ result.failures = [] := by
  unfold failurePaths
  cases result.failures with
  | nil => exact iff_of_true rfl rfl
  | cons outcome rest => simp [List.eraseDups_cons]

end Assessment

/-! ## Rendering -/

section Rendering

open Template

variable {scope : Scope} {value : Json}

theorem renderNode_optionalLine (h : scope.Shows value) (label key : String) {text : String}
    (hf : descend? value [key] = some (.string text)) :
    renderNode (Templates.optionalLine label key) scope = some (optionalLine label text) := by
  rw [Templates.optionalLine, renderNode_given ((h.lookup?_eq key []).trans hf), optionalLine]
  by_cases ht : text = ""
  · subst ht
    rfl
  · have hholds : holds false (.string text) = true := by simp [holds, ht]
    rw [if_pos hholds, if_neg ht, String.append_assoc]
    exact renderNodes_cons (renderNode_text label)
      (renderNodes_cons (h.text hf) (renderNodes_singleton (renderNode_text "\n")))

/-- Each text on a line, with the same in front of all. -/
theorem renderNode_lines (h : scope.Shows value) (key : String) {front : List Node} {label : String}
    (hfront : ∀ inner : Scope, renderNodes front inner = some label) {texts : List String}
    (hf : descend? value [key] = some (Json.ofTexts texts)) :
    renderNode (Templates.lines front [key]) scope =
      some (listed (texts.map fun text => label ++ text)) := by
  rw [listed, List.map_map]
  refine h.each hf fun inner text hi => ?_
  rw [Function.comp_apply, String.append_assoc]
  refine renderNodes_append (hfront inner) ?_
  exact renderNodes_cons (renderNode_field hi.lookup?_nil)
    (renderNodes_singleton (renderNode_text "\n"))

theorem joinText_ofTexts (texts : List String) (separator : String) :
    joinText (Json.ofTexts texts) separator = separator.intercalate texts := by
  show Text.join separator ((texts.map Json.string).map plain) = _
  rw [List.map_map]
  exact congrArg (Text.join separator) (List.map_id texts)

theorem holds_ofTexts (texts : List String) :
    holds false (Json.ofTexts texts) = !texts.isEmpty := by
  cases texts <;> rfl

end Rendering

namespace Assessment

open Template

variable {scope : Scope}

section Block

variable {result : Assessment} (h : scope.Shows result.view)

include h

theorem renderNode_pathsLine (label : String) :
    renderNode (Templates.failedProperties label) scope = some (result.pathsLine label) := by
  have hf : descend? result.view ["failedProperties"] =
      some (Json.ofTexts result.failurePaths) := by
    rw [← failedPaths_eq_failurePaths]
    rfl
  have harguments : [Templates.place ["failedProperties"], Templates.literal ", "].mapM
      scope.argument? =
      some [Json.ofTexts result.failurePaths, .string ", "] := by
    rw [List.mapM_cons, h.place hf]
    rfl
  rw [Templates.failedProperties, renderNode_given ((h.lookup?_eq _ []).trans hf), holds_ofTexts,
    pathsLine]
  by_cases hnone : result.failures = []
  · rw [if_pos hnone, result.failurePaths_eq_nil_iff.mpr hnone]
    rfl
  · have hsome : (!result.failurePaths.isEmpty) = true := by
      simpa [failurePaths_eq_nil_iff] using hnone
    rw [if_pos hsome, if_neg hnone, String.append_assoc]
    refine renderNodes_cons (renderNode_text label) (renderNodes_cons ?_
      (renderNodes_singleton (renderNode_text "\n")))
    rw [renderNode_make harguments]
    exact congrArg some (joinText_ofTexts _ _)

theorem renderNode_errorLine :
    renderNode (.call { helper := .equality,
                        arguments := [Templates.place ["status"], Templates.literal "error"] }
        [.text "> Could not be checked: the resource inventory query failed.\n"] []) scope =
      some result.errorLine := by
  have hf : descend? result.view ["status"] = some (.string result.status.name) := rfl
  rw [renderNode_equality ((h.lookup?_eq _ []).trans hf), errorLine]
  cases result.status <;> first | exact renderNodes_singleton (renderNode_text _) | rfl

theorem renderNode_icon :
    renderNode (Templates.make .statusIcon [Templates.place ["status"]]) scope =
      some result.status.icon := by
  have hf : descend? result.view ["status"] = some (.string result.status.name) := rfl
  rw [h.make .statusIcon hf]
  cases result.status <;> rfl

/-- A control inside a whole report. -/
theorem renderNodes_block :
    renderNodes Templates.reportControl scope = some result.block := by
  have hnumber : renderNode (Templates.field ["number"]) scope =
      some (toString (result.index + 1)) := h.count rfl
  have hrequirement : renderNode (Templates.field ["requirement"]) scope =
      some result.control.requirement := h.text rfl
  have hlabel : renderNode (Templates.field ["statusLabel"]) scope =
      some result.status.capitals := result.status.label_eq_capitals ▸ h.text rfl
  have hevidence := renderNode_optionalLine h "**Evidence**: " "evidence" rfl
  have hstatement := renderNode_optionalLine h "**Control**: " "controlStatement" rfl
  have hnotes := renderNode_lines h "evidenceNotes" (fun _ => renderNodes_nil) rfl
  have hrules := renderNode_lines h "failedRules" (fun _ => renderNodes_nil) rfl
  simp only [String.empty_append, List.map_id'] at hnotes hrules
  rw [lines_eq_findings] at hrules
  have hrows :=
    renderNodes_cons (renderNode_text "\n#### ") <|
    renderNodes_cons (renderNode_icon h) <|
    renderNodes_cons (renderNode_text " Control #") <|
    renderNodes_cons hnumber <|
    renderNodes_cons (renderNode_text ": ") <|
    renderNodes_cons hrequirement <|
    renderNodes_cons (renderNode_text "\n\n**Status**: ") <|
    renderNodes_cons hlabel <|
    renderNodes_cons (renderNode_text "\n") <|
    renderNodes_cons hevidence <|
    renderNodes_cons hstatement <|
    renderNodes_cons (renderNode_errorLine h) <|
    renderNodes_cons (renderNode_pathsLine h "**Failed properties**: ") <|
    renderNodes_cons (renderNode_text "\n```\n") <|
    renderNodes_cons hnotes <|
    renderNodes_cons hrules <|
    renderNodes_singleton (renderNode_text "```\n")
  refine hrows.trans (congrArg some ?_)
  unfold block
  simp only [String.append_assoc]
  rfl

end Block

end Assessment

namespace Report

open Template

variable {scope : Scope} (report : Report)

/-- The section of a regulation. -/
theorem renderNodes_section (summary : RegulationSummary)
    (h : scope.Shows (summary.sectionView report.results)) :
    renderNodes Templates.reportSection scope = some (report.sectionText summary) := by
  have hname : renderNode (Templates.field ["regulation"]) scope = some summary.regulation :=
    h.text rfl
  have hrate : renderNode (Templates.make .percent [Templates.place ["rate"]]) scope =
      some (summary.rate.oneDecimal ++ "%") := h.percent rfl
  have hpassed : renderNode (Templates.field ["passed"]) scope =
      some (toString summary.totals.passed) := h.count rfl
  have htotal : renderNode (Templates.field ["total"]) scope = some (toString summary.total) :=
    h.count rfl
  have hfailed : renderNode (Templates.field ["failed"]) scope =
      some (toString summary.totals.failed) := h.count rfl
  have hmanual : renderNode (Templates.field ["manual"]) scope =
      some (toString summary.totals.manual) := h.count rfl
  have herror : renderNode (Templates.field ["error"]) scope =
      some (toString summary.totals.error) := h.count rfl
  have hcontrols : descend? (summary.sectionView report.results) ["controls"] =
      some (.array ((report.own summary).map Assessment.view)) := rfl
  have hblocks : renderNode (Templates.each ["controls"] Templates.reportControl) scope =
      some (String.join ((report.own summary).map Assessment.block)) :=
    h.each hcontrols fun _ _ hi => Assessment.renderNodes_block hi
  have hrows :=
    renderNodes_cons (renderNode_text "\n### ") <|
    renderNodes_cons hname <|
    renderNodes_cons (renderNode_text "\n\n- **Compliance Rate**: ") <|
    renderNodes_cons hrate <|
    renderNodes_cons (renderNode_text " (") <|
    renderNodes_cons hpassed <|
    renderNodes_cons (renderNode_text "/") <|
    renderNodes_cons htotal <|
    renderNodes_cons (renderNode_text " passed)\n- **Failed**: ") <|
    renderNodes_cons hfailed <|
    renderNodes_cons (renderNode_text " | **Manual**: ") <|
    renderNodes_cons hmanual <|
    renderNodes_cons (renderNode_text " | **Error**: ") <|
    renderNodes_cons herror <|
    renderNodes_cons (renderNode_text "\n") <|
    renderNodes_cons hblocks <|
    renderNodes_singleton (renderNode_text "\n---\n")
  refine hrows.trans (congrArg some ?_)
  unfold sectionText
  simp only [String.append_assoc]
  rfl

theorem renderNode_checklistLine (h : scope.Shows report.view) :
    renderNode
        (Templates.given ["checklist"]
          [.text "**Checklist**: ", Templates.field ["checklist", "name"], .text " (",
            Templates.field ["checklist", "controlCount"], .text " controls, `",
            Templates.field ["checklist", "digest"], .text "`)\n"] [])
        scope =
      some report.checklistLine := by
  have hf : descend? report.view ["checklist"] =
      some (Json.ofOption ChecklistMeta.view report.checklist) := rfl
  rw [renderNode_given ((h.lookup?_eq _ []).trans hf), checklistLine]
  cases hc : report.checklist with
  | none => rfl
  | some checklist =>
    have hview (key : String) : descend? report.view ["checklist", key] =
        descend? checklist.view [key] := by
      show descend? (Json.ofOption ChecklistMeta.view report.checklist) [key] = _
      rw [hc]
      rfl
    have hname : renderNode (Templates.field ["checklist", "name"]) scope =
        some checklist.name := h.text (hview "name")
    have hcount : renderNode (Templates.field ["checklist", "controlCount"]) scope =
        some (toString checklist.controlCount) := h.count (hview "controlCount")
    have hdigest : renderNode (Templates.field ["checklist", "digest"]) scope =
        some checklist.digest := h.text (hview "digest")
    have hrows :=
      renderNodes_cons (renderNode_text "**Checklist**: ") <|
      renderNodes_cons hname <|
      renderNodes_cons (renderNode_text " (") <|
      renderNodes_cons hcount <|
      renderNodes_cons (renderNode_text " controls, `") <|
      renderNodes_cons hdigest <|
      renderNodes_singleton (renderNode_text "`)\n")
    refine hrows.trans (congrArg some ?_)
    simp only [String.append_assoc]

/-- What the standard template makes of a report. -/
theorem markdown?_standard : Templates.standard.markdown? report = some report.wholeText := by
  have h : (Scope.ofData report.view).Shows report.view := .ofData _
  generalize hscope : Scope.ofData report.view = scope at h
  have htime : renderNode (Templates.field ["generatedAt"]) scope =
      some report.generatedAt.dayAndTime := report.generatedAt.reportText_eq ▸ h.text rfl
  have hpolicy : renderNode (Templates.field ["matchPolicy"]) scope =
      some report.matchPolicy.word := report.matchPolicy.name_eq_word ▸ h.text rfl
  have htotal : renderNode (Templates.field ["totals", "total"]) scope =
      some (toString report.totals.total) := h.count rfl
  have hpassed : renderNode (Templates.field ["totals", "passed"]) scope =
      some (toString report.totals.passed) := h.count rfl
  have hfailed : renderNode (Templates.field ["totals", "failed"]) scope =
      some (toString report.totals.failed) := h.count rfl
  have hmanual : renderNode (Templates.field ["totals", "manual"]) scope =
      some (toString report.totals.manual) := h.count rfl
  have herror : renderNode (Templates.field ["totals", "error"]) scope =
      some (toString report.totals.error) := h.count rfl
  have hrate : renderNode (Templates.make .percent [Templates.place ["overallRate"]]) scope =
      some (report.overallRate.oneDecimal ++ "%") := h.percent rfl
  have hassessed :
      renderNode (Templates.make .percent [Templates.place ["overallAssessedRate"]]) scope =
        some (report.overallAssessedRate.oneDecimal ++ "%") := h.percent rfl
  have hviews : descend? report.view ["sections"] =
      some (.array (report.byRegulation.map
        (RegulationSummary.sectionView report.results))) := rfl
  have hsections : renderNode (Templates.each ["sections"] Templates.reportSection) scope =
      some (String.join (report.byRegulation.map report.sectionText)) :=
    h.each hviews fun _ summary hi => report.renderNodes_section summary hi
  have hrows :=
    renderNodes_cons (renderNode_text "# Azure Compliance Report\n\n**Generated**: ") <|
    renderNodes_cons htime <|
    renderNodes_cons (renderNode_text "\n") <|
    renderNodes_cons (report.renderNode_checklistLine h) <|
    renderNodes_cons (renderNode_text "**Match policy**: ") <|
    renderNodes_cons hpolicy <|
    renderNodes_cons
      (renderNode_text "\n\n## Executive Summary\n\n- **Total Controls**: ") <|
    renderNodes_cons htotal <|
    renderNodes_cons (renderNode_text "\n- **Passed**: ") <|
    renderNodes_cons hpassed <|
    renderNodes_cons (renderNode_text "\n- **Failed**: ") <|
    renderNodes_cons hfailed <|
    renderNodes_cons (renderNode_text "\n- **Manual Review**: ") <|
    renderNodes_cons hmanual <|
    renderNodes_cons (renderNode_text "\n- **Not Assessed (error)**: ") <|
    renderNodes_cons herror <|
    renderNodes_cons (renderNode_text "\n- **Compliance Rate**: ") <|
    renderNodes_cons hrate <|
    renderNodes_cons (renderNode_text "\n- **Assessed Compliance Rate**: ") <|
    renderNodes_cons hassessed <|
    renderNodes_cons (renderNode_text "\n\n## Compliance by Regulation\n") <|
    renderNodes_singleton hsections
  show renderNodes Templates.report (Scope.ofData report.view) = _
  rw [hscope]
  refine hrows.trans (congrArg some ?_)
  unfold wholeText heading
  simp only [String.append_assoc]
  rfl

/-! ## Every control once -/

/-- The results in the order in which the text shows them. -/
def shown (report : Report) : List Assessment := report.byRegulation.flatMap report.own

/-- A report that was made of results has a section for each of them. -/
theorem shown_perm (generatedAt : Timestamp) (checklist : Option ChecklistMeta)
    (matchPolicy : MatchPolicy) (results : List Assessment) :
    (ofResults generatedAt checklist matchPolicy results).shown.Perm results := by
  have hown : (ofResults generatedAt checklist matchPolicy results).shown =
      (regulations results).flatMap fun name =>
        results.filter fun result => result.control.regulation == name := by
    rw [← map_regulation_ofResults generatedAt checklist matchPolicy results, List.flatMap_map]
    rfl
  rw [hown]
  exact flatMap_filter_perm (nodup_regulations results) _ results fun result hr =>
    mem_regulations.mpr ⟨result, hr, rfl⟩

/-- **The text of a report.** The text of the standard template is read as that template, and for
every report it is rendered to the heading and the sections, with the texts of the report as they
are, the rates to the nearest tenth and the paths of a block each where it failed first. If the
report was made of results, each has its block. -/
theorem markdown_shows_each_control_once :
    read? Templates.reportSource.text = some Templates.report ∧
      (∀ report : Report, Templates.standard.markdown? report = some report.wholeText) ∧
      (∀ result : Assessment,
        FirstOccurrences (result.failures.map RuleOutcome.path) result.failurePaths) ∧
      (∀ rate : Number.Binary64, rate.ShownAs rate.oneDecimal) ∧
      ∀ (generatedAt : Timestamp) (checklist : Option ChecklistMeta) (matchPolicy : MatchPolicy)
        (results : List Assessment),
        (ofResults generatedAt checklist matchPolicy results).shown.Perm results :=
  ⟨Templates.read?_reportSource, markdown?_standard, fun _ => firstOccurrences_eraseDups _,
    Number.Binary64.shownAs_oneDecimal, shown_perm⟩

end Report

end CloudAudit
