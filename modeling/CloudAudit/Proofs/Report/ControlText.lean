import CloudAudit.Proofs.Distinct
import CloudAudit.Proofs.Report.Markdown

/-!
# The text of a control

What the standard template makes of the result of a control (`control?_standard`): its lines, one
after the other. The texts of the result stand in them as they are, whatever they look like, and
the line of failed properties is there when a rule failed.
-/

namespace CloudAudit

theorem listed_cons (text : String) (rest : List String) :
    listed (text :: rest) = text ++ "\n" ++ listed rest := by
  simp [listed, String.join_cons]

theorem listed_append (texts others : List String) :
    listed (texts ++ others) = listed texts ++ listed others := by
  simp [listed, String.join_append]

namespace Assessment

open Template

/-! ## The lines -/

/-- The paths of the failed rules on one line, if a rule failed. -/
def pathsLines (result : Assessment) : List String :=
  if result.failures = [] then []
  else ["Failed properties: " ++ ", ".intercalate result.failurePaths]

def lines (result : Assessment) : List String :=
  [result.status.icon ++ " Control #" ++ toString (result.index + 1) ++ ": "
      ++ result.control.requirement,
    "Regulation: " ++ result.control.regulation,
    "Status: " ++ result.status.capitals]
    ++ result.notes.map (fun note => "  " ++ note)
    ++ result.failures.map (fun outcome => "  " ++ outcome.finding)
    ++ result.pathsLines

/-! ## Rendering -/

theorem listed_pathsLines (result : Assessment) :
    listed result.pathsLines = result.pathsLine "Failed properties: " := by
  unfold pathsLines pathsLine
  split
  · rfl
  · rw [listed_cons]
    exact String.append_empty

/-- The standard template makes its lines of a result. -/
theorem control?_standard (result : Assessment) :
    Templates.standard.control? result = some (listed result.lines) := by
  have h : (Scope.ofData result.view).Shows result.view := .ofData _
  generalize hscope : Scope.ofData result.view = scope at h
  have hblanks (inner : Scope) : renderNodes [.text "  "] inner = some "  " :=
    renderNodes_singleton (renderNode_text "  ")
  have hnumber : renderNode (Templates.field ["number"]) scope =
      some (toString (result.index + 1)) := h.count rfl
  have hrequirement : renderNode (Templates.field ["requirement"]) scope =
      some result.control.requirement := h.text rfl
  have hregulation : renderNode (Templates.field ["regulation"]) scope =
      some result.control.regulation := h.text rfl
  have hlabel : renderNode (Templates.field ["statusLabel"]) scope =
      some result.status.capitals := result.status.label_eq_capitals ▸ h.text rfl
  have hnotes := renderNode_lines h "evidenceNotes" hblanks rfl
  have hrules := renderNode_lines h "failedRules" hblanks rfl
  rw [lines_eq_findings] at hrules
  have hrows :=
    renderNodes_cons (renderNode_icon h) <|
    renderNodes_cons (renderNode_text " Control #") <|
    renderNodes_cons hnumber <|
    renderNodes_cons (renderNode_text ": ") <|
    renderNodes_cons hrequirement <|
    renderNodes_cons (renderNode_text "\nRegulation: ") <|
    renderNodes_cons hregulation <|
    renderNodes_cons (renderNode_text "\nStatus: ") <|
    renderNodes_cons hlabel <|
    renderNodes_cons (renderNode_text "\n") <|
    renderNodes_cons hnotes <|
    renderNodes_cons hrules <|
    renderNodes_singleton (renderNode_pathsLine h "Failed properties: ")
  show renderNodes Templates.control (Scope.ofData result.view) = _
  rw [hscope]
  refine hrows.trans (congrArg some ?_)
  unfold lines
  simp only [List.cons_append, List.nil_append, listed_cons, listed_append, listed_pathsLines,
    List.map_map, String.append_assoc]
  rfl

/-- **The text of a control.** The text of the standard template is read as that template, and it
makes of every result the lines of it, with the texts of the result as they are. The failed paths
are those of the failed rules, each once, in the order of the first failure. -/
theorem control_text_exact :
    read? Templates.controlSource.text = some Templates.control ∧
      ∀ result : Assessment,
        Templates.standard.control? result = some (listed result.lines) ∧
          FirstOccurrences (result.failures.map RuleOutcome.path) result.failurePaths :=
  ⟨Templates.read?_controlSource, fun result =>
    ⟨control?_standard result, firstOccurrences_eraseDups _⟩⟩

end Assessment

end CloudAudit
