import CloudAudit.Template.File

/-!
# The standard templates

The templates that reports are made with unless others are given: a whole report, one control, the
summary of a report, and a remediation plan.
-/

namespace CloudAudit.Templates

open Template

/-- The value at a place below the present one. -/
def field (keys : List String) : Node := .value (.value 0 keys)

def place (keys : List String) : Argument := .place (.value 0 keys)

def literal (s : String) : Argument := .literal (.string s)

def make (helper : TextHelper) (arguments : List Argument) : Node :=
  .call { helper := .text helper, arguments } [] []

def each (keys : List String) (body : List Node) : Node :=
  .call { helper := .iteration, arguments := [place keys] } body []

def given (keys : List String) (body : List Node) (otherwise : List Node) : Node :=
  .call { helper := .conditional true, arguments := [place keys] } body otherwise

/-- Every item of a list, with a text in front of it and a line break behind it. -/
def lines (front : List Node) (keys : List String) : Node :=
  each keys (front ++ [field [], .text "\n"])

/-- A name, a value that may be empty, and a line break. -/
def optionalLine (front : String) (key : String) : Node :=
  given [key] [.text front, field [key], .text "\n"] []

/-- The failed properties, if any, with commas between them. -/
def failedProperties (front : String) : Node :=
  given ["failedProperties"]
    [.text front, make .join [place ["failedProperties"], literal ", "], .text "\n"] []

def control : List Node :=
  [make .statusIcon [place ["status"]], .text " Control #", field ["number"], .text ": ",
    field ["requirement"], .text "\nRegulation: ", field ["regulation"], .text "\nStatus: ",
    field ["statusLabel"], .text "\n",
    lines [.text "  "] ["evidenceNotes"],
    lines [.text "  "] ["failedRules"],
    failedProperties "Failed properties: "]

def remediation : List Node :=
  [given ["items"]
    [.text "Remediation Plan (", field ["count"], .text " failed controls)\n",
      each ["items"]
        [.text "\n", field ["number"], .text ". [", field ["priority"], .text "] ",
          field ["regulation"], .text ": ", field ["requirement"], .text "\n   Action: ",
          field ["action"], .text "\n"],
      .text "\nRecommended Actions:\n",
      lines [] ["recommended"]]
    [.text "No failed controls. All checks passed or require manual verification.\n"]]

def summary : List Node :=
  [.text "Compliance Summary by Regulation\nChecklist: ",
    make .default [place ["checklistName"], literal "ad-hoc controls"], .text "\n",
    each ["regulations"]
      [.text "\n", field ["regulation"],
        .text "\n  Compliance Rate: ", make .percent [place ["rate"]],
        .text " (assessed: ", make .percent [place ["assessedRate"]],
        .text ")\n  Passed: ", field ["passed"], .text "\n  Failed: ", field ["failed"],
        .text "\n  Manual: ", field ["manual"], .text "\n  Error: ", field ["error"],
        .text "\n  Total: ", field ["total"], .text "\n"],
    .text "\nOverall: ", make .percent [place ["overallRate"]], .text " (",
    field ["totals", "passed"], .text "/", field ["totals", "total"], .text " passed)\n"]

/-- A control inside a whole report. -/
def reportControl : List Node :=
  [.text "\n#### ", make .statusIcon [place ["status"]], .text " Control #", field ["number"],
    .text ": ", field ["requirement"], .text "\n\n**Status**: ", field ["statusLabel"], .text "\n",
    optionalLine "**Evidence**: " "evidence",
    optionalLine "**Control**: " "controlStatement",
    .call { helper := .equality, arguments := [place ["status"], literal "error"] }
      [.text "> Could not be checked: the resource inventory query failed.\n"] [],
    failedProperties "**Failed properties**: ",
    .text "\n```\n",
    lines [] ["evidenceNotes"],
    lines [] ["failedRules"],
    .text "```\n"]

def reportSection : List Node :=
  [.text "\n### ", field ["regulation"],
    .text "\n\n- **Compliance Rate**: ", make .percent [place ["rate"]],
    .text " (", field ["passed"], .text "/", field ["total"], .text " passed)\n- **Failed**: ",
    field ["failed"], .text " | **Manual**: ", field ["manual"], .text " | **Error**: ",
    field ["error"], .text "\n",
    each ["controls"] reportControl,
    .text "\n---\n"]

def report : List Node :=
  [.text "# Azure Compliance Report\n\n**Generated**: ", field ["generatedAt"], .text "\n",
    given ["checklist"]
      [.text "**Checklist**: ", field ["checklist", "name"], .text " (",
        field ["checklist", "controlCount"], .text " controls, `", field ["checklist", "digest"],
        .text "`)\n"] [],
    .text "**Match policy**: ", field ["matchPolicy"],
    .text "\n\n## Executive Summary\n\n- **Total Controls**: ", field ["totals", "total"],
    .text "\n- **Passed**: ", field ["totals", "passed"],
    .text "\n- **Failed**: ", field ["totals", "failed"],
    .text "\n- **Manual Review**: ", field ["totals", "manual"],
    .text "\n- **Not Assessed (error)**: ", field ["totals", "error"],
    .text "\n- **Compliance Rate**: ", make .percent [place ["overallRate"]],
    .text "\n- **Assessed Compliance Rate**: ", make .percent [place ["overallAssessedRate"]],
    .text "\n\n## Compliance by Regulation\n",
    each ["sections"] reportSection]

def standard : Templates :=
  [("control", control), ("remediation", remediation), ("report", report), ("summary", summary)]

end CloudAudit.Templates
