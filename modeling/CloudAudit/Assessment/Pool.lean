import CloudAudit.Assessment.Run

/-!
# Pools of tasks

A parallel run step by step. Every control is a task of its own. Tasks start in checklist order and
only so many are under way at once; they go on in any order, each asking for its types one after
the other, and each ends with its assessment or dies.
-/

namespace CloudAudit

/-- The assessment of one control under way. -/
structure Task where
  index : Nat
  control : Control
  /-- The replies for the first requirements. -/
  replies : List Reply := []

namespace Task

/-- The type to ask for next, if there is one. A manual control asks nothing. -/
def next? (task : Task) : Option String :=
  if task.control.manual then none
  else task.control.requirements[task.replies.length]?.map Requirement.resourceType

def hear (reply : Reply) (task : Task) : Task :=
  { task with replies := task.replies ++ [reply] }

def assessment (policy : MatchPolicy) (task : Task) : Assessment :=
  if task.control.manual then task.control.manualAssessment task.index
  else task.control.assess policy task.index task.replies

end Task

/-- The state of a parallel run with the inventory that it asks. -/
structure Pool (σ : Type) where
  inventory : σ
  waiting : List (Control × Nat)
  running : List Task := []
  /-- In the order in which the tasks ended. -/
  finished : List Assessment := []
  /-- The positions of the controls whose tasks died. -/
  dead : List Nat := []

/-- What happens next in a pool: a task starts, or something happens to a task under way. -/
inductive Event where
  | start
  | advance (position : Nat)
  | die (position : Nat)
  deriving DecidableEq, Repr

namespace Pool

variable {σ : Type}

/-- Before the first task starts. -/
def initial (controls : List Control) (inventory : σ) : Pool σ :=
  { inventory, waiting := Run.numbered controls }

def isOver (pool : Pool σ) : Bool :=
  pool.waiting.isEmpty && pool.running.isEmpty

/-- The next control becomes a task when there is room for it. -/
def start? (limit : Nat) (pool : Pool σ) : Option (Pool σ) :=
  match pool.waiting with
  | [] => none
  | (control, index) :: rest =>
    if pool.running.length < limit then
      some { pool with waiting := rest, running := pool.running ++ [{ index, control }] }
    else none

def lose (position : Nat) (task : Task) (pool : Pool σ) : Pool σ :=
  { pool with running := pool.running.eraseIdx position, dead := pool.dead ++ [task.index] }

/-- A task ends when it has nothing to ask; else it asks. It dies when the query ends the task. -/
def advance (query : String → OptionT (StateM σ) Reply) (policy : MatchPolicy) (position : Nat)
    (task : Task) (pool : Pool σ) : Pool σ :=
  match task.next? with
  | none =>
    { pool with
      running := pool.running.eraseIdx position
      finished := pool.finished ++ [task.assessment policy] }
  | some resourceType =>
    match (query resourceType).run.run pool.inventory with
    | (some reply, inventory) =>
      { pool with inventory, running := pool.running.set position (task.hear reply) }
    | (none, inventory) => { pool with inventory }.lose position task

section Steps

variable (limit : Nat) (query : String → OptionT (StateM σ) Reply) (policy : MatchPolicy)

/-- The pool after an event, where the event is possible. -/
def step? (event : Event) (pool : Pool σ) : Option (Pool σ) :=
  match event with
  | .start => pool.start? limit
  | .advance position =>
    pool.running[position]?.map fun task => pool.advance query policy position task
  | .die position => pool.running[position]?.map fun task => pool.lose position task

/-- The pool after some events, one after the other. -/
def run? (events : List Event) (pool : Pool σ) : Option (Pool σ) :=
  events.foldlM (fun pool event => pool.step? limit query policy event) pool

end Steps

/-- The assessments of a run that is over, in checklist order. -/
def results (controls : List Control) (pool : Pool σ) : List Assessment :=
  Run.assemble controls pool.finished

end Pool

end CloudAudit
