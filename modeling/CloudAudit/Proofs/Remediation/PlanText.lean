import CloudAudit.Proofs.Template.Rendering
import CloudAudit.Report.Text

/-!
# Texts of remediation plans

What the standard template makes of a plan (`remediation?_standard`). It never fails.
-/

namespace CloudAudit.Remediation

/-- The text of a plan without items. -/
def clearText : String :=
  "No failed controls. All checks passed or require manual verification.\n"

def itemText (position : Nat) (item : RemediationItem) : String :=
  "\n" ++ toString (position + 1) ++ ". [" ++ item.priority.label ++ "] " ++ item.regulation
    ++ ": " ++ item.requirement ++ "\n   Action: " ++ item.action ++ "\n"

def adviceText (position : Nat) (advice : String) : String :=
  toString (position + 1) ++ ". " ++ advice ++ "\n"

def advised : String := String.join (recommended.mapIdx adviceText)

def listed (items : List RemediationItem) : String := String.join (items.mapIdx itemText)

/-- The text of a plan with items. -/
def planText (items : List RemediationItem) : String :=
  "Remediation Plan (" ++ toString items.length ++ " failed controls)\n"
    ++ listed items ++ "\nRecommended Actions:\n" ++ advised

section Rendering

open Template

variable (items : List RemediationItem)

/-- What the template sees of a plan. -/
def scope : Scope := Scope.ofData (view items)

theorem lookup?_items :
    (scope items).lookup? 0 ["items"] = some (.array (items.mapIdx itemView)) := rfl

theorem holds_items : holds false (.array (items.mapIdx itemView)) = !items.isEmpty := by
  cases items with
  | nil => rfl
  | cons item rest =>
    rw [List.mapIdx_cons]
    rfl

theorem renderNode_items :
    renderNode
        (Templates.each ["items"]
          [.text "\n", Templates.field ["number"], .text ". [", Templates.field ["priority"],
            .text "] ", Templates.field ["regulation"], .text ": ",
            Templates.field ["requirement"], .text "\n   Action: ", Templates.field ["action"],
            .text "\n"])
        (scope items) =
      some (listed items) := by
  refine renderNode_each (lookup?_items items) fun position item => ?_
  simp only [itemText, String.append_assoc]
  rfl

theorem renderNode_recommended :
    renderNode (Templates.lines [] ["recommended"]) (scope items) = some advised := by
  have hlookup : (scope items).lookup? 0 ["recommended"] =
      some (.array (recommended.mapIdx fun position advice =>
        .string s!"{position + 1}. {advice}")) := rfl
  exact renderNode_each hlookup fun position advice => rfl

/-- The standard template makes the text of a plan. -/
theorem remediation?_standard :
    Templates.standard.remediation? items =
      some (if items.isEmpty then clearText else planText items) := by
  show renderNodes Templates.remediation (scope items) = _
  refine renderNodes_singleton ?_
  rw [renderNode_given (lookup?_items items), holds_items]
  cases items.isEmpty with
  | true =>
    rw [if_neg (by decide), if_pos rfl, clearText]
    exact renderNodes_singleton (renderNode_text _)
  | false =>
    rw [if_pos (by decide), if_neg (by decide)]
    have hlookup : (scope items).lookup? 0 ["count"] = some (.int items.length) := rfl
    have hcount : renderNode (Templates.field ["count"]) (scope items) =
        some (toString items.length) := renderNode_field hlookup
    have hrows := renderNodes_cons (renderNode_text "Remediation Plan (")
      (renderNodes_cons hcount
        (renderNodes_cons (renderNode_text " failed controls)\n")
          (renderNodes_cons (renderNode_items items)
            (renderNodes_cons (renderNode_text "\nRecommended Actions:\n")
              (renderNodes_singleton (renderNode_recommended items))))))
    refine hrows.trans (congrArg some ?_)
    unfold planText
    simp only [String.append_assoc]

end Rendering

end CloudAudit.Remediation
