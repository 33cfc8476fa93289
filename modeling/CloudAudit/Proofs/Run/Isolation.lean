import CloudAudit.Proofs.Run.Fixed

/-!
# Isolation of controls

What a control comes to depends on the control, on the match policy, and on the responses to the
types that the control names. Its place in the checklist, the other controls, the responses to other
types, the number of tasks and their order only show in the index that the assessment carries
(`FixedRun.isolated`).
-/

namespace CloudAudit

namespace Control

/-- Only the answers for the types of a control count. -/
theorem validate_congr {control : Control} {answer other : String → Reply}
    (h : ∀ requirement ∈ control.requirements,
      answer requirement.resourceType = other requirement.resourceType)
    (policy : MatchPolicy) (index : Nat) :
    Id.run (control.validate answer policy index) =
      Id.run (control.validate other policy index) := by
  rw [validate_id, validate_id, List.map_congr_left h]

/-- The index is carried along, and no more. -/
theorem validate_index (control : Control) (answer : String → Reply) (policy : MatchPolicy)
    (index other : Nat) :
    Id.run (control.validate answer policy other) =
      { Id.run (control.validate answer policy index) with index := other } := by
  rw [validate_id, validate_id]
  split <;> rfl

end Control

/-- **Isolation.** Two runs come to the same about a control that is in both checklists, whatever
else is in them, when the responses to its types are the same. -/
theorem FixedRun.isolated (first second : FixedRun)
    (hpolicy : first.settings.matchPolicy = second.settings.matchPolicy)
    (htimeout : first.settings.timeoutSeconds = second.settings.timeoutSeconds)
    {control : Control} {i j : Nat} (hi : first.controls[i]? = some control)
    (hj : second.controls[j]? = some control) (hdi : i ∉ first.dead) (hdj : j ∉ second.dead)
    (hresponse : ∀ requirement ∈ control.requirements,
      first.response requirement.resourceType = second.response requirement.resourceType)
    (firstAt secondAt : Timestamp) (firstSource secondSource : Option ChecklistMeta) :
    ∃ result,
      (first.report firstAt firstSource).results[i]? = some result ∧ result.index = i ∧
        (second.report secondAt secondSource).results[j]? =
          some { result with index := j } := by
  have hreply : ∀ requirement ∈ control.requirements,
      first.reply requirement.resourceType = second.reply requirement.resourceType := by
    intro requirement hr
    unfold reply
    rw [hresponse requirement hr, htimeout]
  refine ⟨_, first.getElem?_results hi hdi, ?_, ?_⟩
  · rw [Control.validate_id]
    split <;> rfl
  · rw [← Control.validate_index, Control.validate_congr hreply, hpolicy]
    exact second.getElem?_results hj hdj

/-! ## One control in two checklists -/

namespace TwoChecklists

def vaults : Control :=
  { regulation := "DORA", requirement := "Vaults"
    requirements := [
      { resourceType := "vault", required := true
        rules := [⟨"softDelete", .equals, .bool true⟩] }] }

def servers : Control :=
  { regulation := "GDPR", requirement := "Servers", requirements := [{ resourceType := "server" }] }

def store : Store :=
  { resources := [("vault", [.object [("name", .string "a"), ("softDelete", .bool false)]])] }

def alone : FixedRun := .ofStore store {} [vaults]

/-- The control is there twice, behind one whose query fails, and two are assessed at once. -/
def among : FixedRun :=
  .ofStore (store.addFailure "server" (.auth "token expired")) { concurrency := 2 }
    [servers, vaults, vaults]

theorem isolated_vaults :
    alone.controls[0]? = some vaults ∧ among.controls[2]? = some vaults ∧
      ∃ result, (alone.report default none).results[0]? = some result ∧ result.index = 0 ∧
        (among.report default none).results[2]? = some { result with index := 2 } := by
  refine ⟨rfl, rfl, FixedRun.isolated alone among rfl rfl rfl rfl List.not_mem_nil
    List.not_mem_nil ?_ default default none none⟩
  intro requirement hr
  obtain rfl := List.mem_singleton.mp hr
  rfl

end TwoChecklists

end CloudAudit
