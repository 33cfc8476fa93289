import CloudAudit.Assessment.Control
import CloudAudit.Inventory.Limit
import Mathlib.Data.List.Basic

/-!
# Assessments in terms of answers

The inventory is any state machine that does something about a query: it lists resources, fails, or
is late. The answers to a control are what it does when it is asked for the types of the
requirements in order, and the assessment of the control is a function of them.
-/

namespace CloudAudit

/-! ## Answers -/

/-- Every requirement with what the inventory does when it is asked for the types in order. -/
def Requirement.inquire {m : Type → Type} [Monad m] (respond : String → m Response)
    (requirements : List Requirement) : m (List (Requirement × Response)) :=
  requirements.mapM fun requirement => do
    return (requirement, ← respond requirement.resourceType)

theorem Response.reply_eq_ok_iff {limit : Nat} {resourceType : String} {response : Response}
    {resources : List Json} :
    response.reply limit resourceType = .ok resources ↔ response = .answered (.ok resources) := by
  cases response <;> simp [reply]

theorem Response.reply_eq_error_iff {limit : Nat} {resourceType : String} {response : Response} :
    (∃ failure, response.reply limit resourceType = .error failure) ↔
      response = .late ∨ ∃ failure, response = .answered (.error failure) := by
  cases response <;> simp [reply]

/-- The reply of an answer under a limit. -/
def replyOf (limit : Nat) (answer : Requirement × Response) : Reply :=
  answer.2.reply limit answer.1.resourceType

/-- The resources of an answer, if it lists any. -/
def Response.resources : Response → List Json
  | .answered (.ok resources) => resources
  | _ => []

theorem matchedResources_replyOf (limit : Nat) (answer : Requirement × Response) :
    Requirement.matchedResources (replyOf limit answer) = answer.2.resources := by
  obtain ⟨requirement, (failure | resources) | _⟩ := answer <;> rfl

/-- Asking under a limit gives the replies of the answers. -/
theorem Requirement.mapM_limited {m : Type → Type} [Monad m] [LawfulMonad m]
    (respond : String → m Response) (limit : Nat) (requirements : List Requirement) :
    (requirements.mapM fun requirement => limited limit respond requirement.resourceType) =
      List.map (replyOf limit) <$> Requirement.inquire respond requirements := by
  unfold inquire
  induction requirements with
  | nil => simp
  | cons requirement rest ih =>
    rw [List.mapM_cons, List.mapM_cons, ih]
    simp only [limited, bind_assoc, pure_bind, map_bind, bind_map_left, map_pure, List.map_cons]
    rfl

section Inquiry

variable {σ : Type} (respond : String → StateM σ Response)

theorem Requirement.map_fst_inquire (requirements : List Requirement) (start : σ) :
    ((Requirement.inquire respond requirements).run start).1.map Prod.fst = requirements := by
  unfold inquire
  induction requirements generalizing start with
  | nil => rfl
  | cons requirement rest ih =>
    simp only [List.mapM_cons, StateT.run_bind, StateT.run_pure, bind_assoc, pure_bind]
    exact congrArg (requirement :: ·) (ih _)

namespace Control

/-- What an inventory in some state does about the requirements of a control. -/
def answers (control : Control) (start : σ) : List (Requirement × Response) :=
  ((Requirement.inquire respond control.requirements).run start).1

theorem map_fst_answers (control : Control) (start : σ) :
    (control.answers respond start).map Prod.fst = control.requirements :=
  Requirement.map_fst_inquire respond control.requirements start

/-- A control that is not manual is assessed from the answers. -/
theorem validate_run_fst {control : Control} (h : control.manual = false) (limit : Nat)
    (policy : MatchPolicy) (index : Nat) (start : σ) :
    ((control.validate (limited limit respond) policy index).run start).1 =
      control.assess policy index ((control.answers respond start).map (replyOf limit)) := by
  unfold validate
  rw [if_neg (by simp [h]), Requirement.mapM_limited]
  rfl

theorem validate_of_manual {m : Type → Type} [Monad m] {control : Control}
    (h : control.manual = true) (query : String → m Reply) (policy : MatchPolicy) (index : Nat) :
    control.validate query policy index = pure (control.manualAssessment index) := by
  unfold validate
  rw [if_pos h]

end Control

end Inquiry

/-! ## Assessments -/

section Assessments

variable {control : Control} {answers : List (Requirement × Response)}
  (h : answers.map Prod.fst = control.requirements) (policy : MatchPolicy) (limit index : Nat)

/-- The outcomes of the requirements in answers. -/
def outcomesOf (policy : MatchPolicy) (limit : Nat) (answers : List (Requirement × Response)) :
    List RequirementOutcome :=
  answers.map fun answer => answer.1.outcome policy (replyOf limit answer)

include h

/-- The findings of a control, one for each answer. -/
theorem Control.findings_answers :
    control.findings policy (answers.map (replyOf limit)) =
      answers.map fun answer => answer.1.finding policy (replyOf limit answer) := by
  unfold findings
  rw [← h, List.zipWith_map, List.zipWith_self]

/-- The outcomes of an assessment are those of the answers. -/
theorem Control.requirementOutcomes_assess :
    (control.assess policy index (answers.map (replyOf limit))).requirementOutcomes =
      outcomesOf policy limit answers := by
  show (control.findings policy (answers.map (replyOf limit))).map _ = _
  rw [Control.findings_answers h, List.map_map]
  rfl

theorem Control.ruleOutcomes_assess :
    (control.assess policy index (answers.map (replyOf limit))).ruleOutcomes =
      answers.flatMap fun answer => answer.2.resources.flatMap answer.1.ruleOutcomes := by
  show (control.findings policy (answers.map (replyOf limit))).flatMap _ = _
  rw [Control.findings_answers h, List.flatMap_map]
  refine List.flatMap_congr fun answer _ => ?_
  show (Requirement.matchedResources (replyOf limit answer)).flatMap _ = _
  rw [matchedResources_replyOf]

end Assessments

namespace Control

variable {σ : Type} (respond : String → StateM σ Response) (settings : EngineSettings)
  (index : Nat)

/-- What a control comes to when an inventory is asked that starts in some state. -/
def assessed (control : Control) (start : σ) : Assessment :=
  ((control.validate (limited settings.timeoutSeconds respond) settings.matchPolicy index).run
    start).1

variable {control : Control} (start : σ)

theorem assessed_of_manual (h : control.manual = true) :
    control.assessed respond settings index start = control.manualAssessment index := by
  unfold assessed
  rw [validate_of_manual h]
  rfl

theorem assessed_eq_assess (h : control.manual = false) :
    control.assessed respond settings index start =
      control.assess settings.matchPolicy index
        ((control.answers respond start).map (replyOf settings.timeoutSeconds)) :=
  validate_run_fst respond h _ _ _ _

theorem requirementOutcomes_assessed (h : control.manual = false) :
    (control.assessed respond settings index start).requirementOutcomes =
      outcomesOf settings.matchPolicy settings.timeoutSeconds (control.answers respond start) := by
  rw [assessed_eq_assess respond settings index start h,
    requirementOutcomes_assess (control.map_fst_answers respond start)]

end Control

end CloudAudit
