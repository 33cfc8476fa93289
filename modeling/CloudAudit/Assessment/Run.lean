import CloudAudit.Assessment.Control

/-!
# Runs over a checklist

The assessments of all controls in checklist order. One after the other, or each as a task of its
own: tasks end in any order, or not at all, and their assessments are put into place by the index
that they carry.
-/

namespace CloudAudit

namespace Run

/-- Controls with their positions. -/
def numbered (controls : List Control) : List (Control × Nat) :=
  controls.zipIdx

def sequential {m : Type → Type} [Monad m] (query : String → m Reply) (policy : MatchPolicy)
    (controls : List Control) : m (List Assessment) :=
  (numbered controls).mapM fun (control, index) => control.validate query policy index

/-- The last assessment that carries the index. -/
def slot? (finished : List Assessment) (index : Nat) : Option Assessment :=
  finished.reverse.find? fun assessment => assessment.index == index

/-- Finished assessments in checklist order; a control without one was aborted. -/
def assemble (controls : List Control) (finished : List Assessment) : List Assessment :=
  (numbered controls).map fun (control, index) =>
    (slot? finished index).getD (control.abortedAssessment index)

/-- Every control as a task of its own, where a query may end the task. -/
def parallel {m : Type → Type} [Monad m] (query : String → OptionT m Reply) (policy : MatchPolicy)
    (controls : List Control) : m (List Assessment) := do
  let tasks ← (numbered controls).mapM fun (control, index) =>
    (control.validate query policy index).run
  return assemble controls (tasks.filterMap id)

/-- The assessments of all controls, as the settings say: at most one at a time, or in parallel. A
query that ends its task ends a sequential run. -/
def assess {m : Type → Type} [Monad m] (settings : EngineSettings)
    (query : String → OptionT m Reply) (controls : List Control) : OptionT m (List Assessment) :=
  if settings.concurrency ≤ 1 then sequential query settings.matchPolicy controls
  else OptionT.lift (parallel query settings.matchPolicy controls)

/-- The assessments of all controls where no query ends its task. -/
def complete {m : Type → Type} [Monad m] (settings : EngineSettings) (query : String → m Reply)
    (controls : List Control) : m (List Assessment) :=
  if settings.concurrency ≤ 1 then sequential query settings.matchPolicy controls
  else
    parallel (fun resourceType => OptionT.lift (query resourceType)) settings.matchPolicy controls

end Run

/-- Why one control of a checklist cannot be assessed. -/
structure IndexError where
  index : Nat
  count : Nat
  deriving DecidableEq, Repr

def IndexError.message (e : IndexError) : String :=
  let range := if e.count = 0 then "empty checklist" else s!"0-{e.count - 1}"
  s!"INDEX/invalid control index {e.index}, valid range: {range}"

namespace Run

/-- The assessment of the control at a position. -/
def single {m : Type → Type} [Monad m] (query : String → m Reply) (policy : MatchPolicy)
    (controls : List Control) (index : Nat) : m (Except IndexError Assessment) :=
  match controls[index]? with
  | some control => do return .ok (← control.validate query policy index)
  | none => pure (.error ⟨index, controls.length⟩)

end Run

end CloudAudit
