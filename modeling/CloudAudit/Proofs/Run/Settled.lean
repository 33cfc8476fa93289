import CloudAudit.Assessment.Run
import CloudAudit.Inventory.Delayed
import Mathlib.Data.List.Basic

/-!
# Programs over an inventory with fixed answers

An inventory may change with every query and still give one answer for each type. What a program
then comes to does not depend on the queries made before (`Settles`): the assessment of a control
is a function of the answers, and so are the assessments of a run.
-/

namespace CloudAudit

variable {σ : Type}

/-! ## Fixed answers -/

/-- The state of an inventory after queries for some types. -/
def asked (query : String → OptionT (StateM σ) Reply) (types : List String) (start : σ) : σ :=
  types.foldl (fun state resourceType => ((query resourceType).run.run state).2) start

/-- A query for a type is answered in one way, whatever was asked before, or ends its task. -/
def Consistent (query : String → OptionT (StateM σ) Reply) (answer : String → Reply)
    (start : σ) : Prop :=
  ∀ (types : List String) (resourceType : String) (reply : Reply),
    ((query resourceType).run.run (asked query types start)).1 = some reply →
      reply = answer resourceType

/-- A program that is ended in its first part is ended. -/
theorem run_run_bind {α β : Type} (program : OptionT (StateM σ) α)
    (next : α → OptionT (StateM σ) β) (state : σ) :
    (program >>= next).run.run state =
      match program.run.run state with
      | (some result, after) => (next result).run.run after
      | (none, after) => (none, after) := by
  rw [OptionT.run_bind]
  unfold Option.elimM
  rw [StateT.run_bind]
  rcases program.run.run state with ⟨_ | result, after⟩ <;> rfl

/-- Where the state of the inventory is valid, the program leaves it so and can only come to one
value. -/
def Settles {α : Type} (valid : σ → Prop) (program : OptionT (StateM σ) α) (value : α) : Prop :=
  ∀ state, valid state →
    valid (program.run.run state).2 ∧
      ∀ result, (program.run.run state).1 = some result → result = value

theorem Consistent.settles {query : String → OptionT (StateM σ) Reply} {answer : String → Reply}
    {start : σ} (h : Consistent query answer start) (resourceType : String) :
    Settles (fun state => ∃ types, state = asked query types start) (query resourceType)
      (answer resourceType) := by
  rintro _ ⟨types, rfl⟩
  refine ⟨⟨types ++ [resourceType], ?_⟩, h types resourceType⟩
  unfold asked
  rw [List.foldl_append]
  rfl

namespace Settles

variable {α β : Type} {valid : σ → Prop}

theorem pure (value : α) : Settles valid (Pure.pure value) value := by
  intro state hv
  exact ⟨hv, fun result h => (Option.some.inj h).symm⟩

theorem bind {program : OptionT (StateM σ) α} {next : α → OptionT (StateM σ) β} {value : α}
    {final : β} (hp : Settles valid program value) (hn : Settles valid (next value) final) :
    Settles valid (program >>= next) final := by
  intro state hv
  obtain ⟨hkept, hvalue⟩ := hp state hv
  rw [run_run_bind]
  rcases hr : program.run.run state with ⟨_ | result, after⟩
  · rw [hr] at hkept
    exact ⟨hkept, fun _ h => nomatch h⟩
  · rw [hr] at hkept hvalue
    obtain rfl := hvalue result rfl
    exact hn after hkept

theorem mapM {program : α → OptionT (StateM σ) β} {value : α → β} (inputs : List α)
    (h : ∀ input ∈ inputs, Settles valid (program input) (value input)) :
    Settles valid (inputs.mapM program) (inputs.map value) := by
  induction inputs with
  | nil => exact pure []
  | cons input rest ih =>
    rw [List.mapM_cons]
    refine bind (h input List.mem_cons_self) (bind (ih fun other ho => ?_) (pure _))
    exact h other (List.mem_cons_of_mem input ho)

end Settles

/-! ## Controls and runs -/

section Answers

variable {valid : σ → Prop} {query : String → OptionT (StateM σ) Reply}
  {answer : String → Reply} (hq : ∀ resourceType, Settles valid (query resourceType)
    (answer resourceType))

/-- The assessment of a control that is asked for under fixed answers. -/
theorem Control.validate_id (answer : String → Reply) (policy : MatchPolicy) (index : Nat)
    (control : Control) :
    Id.run (control.validate answer policy index) =
      if control.manual then control.manualAssessment index
      else control.assess policy index
        (control.requirements.map fun requirement => answer requirement.resourceType) := by
  unfold validate
  by_cases h : control.manual = true
  · rw [if_pos h, if_pos h]
    rfl
  · rw [if_neg h, if_neg h]
    exact congrArg (control.assess policy index) List.mapM_pure

/-- The findings of a control under fixed answers, one for each requirement. -/
theorem Control.findings_map (answer : String → Reply) (policy : MatchPolicy)
    (control : Control) :
    control.findings policy
        (control.requirements.map fun requirement => answer requirement.resourceType) =
      control.requirements.map fun requirement =>
        requirement.finding policy (answer requirement.resourceType) := by
  unfold findings
  rw [List.zipWith_map_right, List.zipWith_self]

theorem Run.sequential_id (answer : String → Reply) (policy : MatchPolicy)
    (controls : List Control) :
    Id.run (Run.sequential answer policy controls) =
      (Run.numbered controls).map fun entry =>
        Id.run (entry.1.validate answer policy entry.2) :=
  List.mapM_pure

include hq

theorem Control.settles_validate (policy : MatchPolicy) (index : Nat) (control : Control) :
    Settles valid (control.validate query policy index)
      (Id.run (control.validate answer policy index)) := by
  rw [Control.validate_id]
  unfold validate
  by_cases h : control.manual = true
  · rw [if_pos h, if_pos h]
    exact .pure _
  · rw [if_neg h, if_neg h]
    exact .bind (.mapM _ fun requirement _ => hq requirement.resourceType) (.pure _)

theorem Run.settles_sequential (policy : MatchPolicy) (controls : List Control) :
    Settles valid (Run.sequential query policy controls)
      (Id.run (Run.sequential answer policy controls)) := by
  rw [Run.sequential_id]
  exact .mapM _ fun entry _ => Control.settles_validate hq policy entry.2 entry.1

end Answers

/-! ## Stored inventories -/

namespace DelayedStore

/-- The reply for a type under a limit. -/
def replyUnder (limit : Nat) (inventory : DelayedStore) (resourceType : String) : Reply :=
  if limit < inventory.delay resourceType then .error (.timeout resourceType limit)
  else inventory.store.answer resourceType

def withQueries (queries : Nat) (inventory : DelayedStore) : DelayedStore :=
  { inventory with store := { inventory.store with queries } }

theorem query_run (limit : Nat) (resourceType : String) (inventory : DelayedStore) :
    (query limit resourceType).run.run inventory =
      if inventory.deadly.contains resourceType then (none, inventory)
      else if limit < inventory.delay resourceType then
        (some (.error (.timeout resourceType limit)), inventory)
      else
        (some (inventory.store.answer resourceType),
          inventory.withQueries (inventory.store.queries + 1)) := by
  have hget : (get : OptionT (StateM DelayedStore) DelayedStore).run.run inventory =
      (some inventory, inventory) := rfl
  unfold query limited respond
  rw [run_run_bind, run_run_bind, hget]
  dsimp only
  by_cases hd : inventory.deadly.contains resourceType = true
  · rw [if_pos hd, if_pos hd]
    rfl
  · rw [if_neg hd, if_neg hd]
    by_cases hl : limit < inventory.delay resourceType
    · rw [if_pos hl, if_pos hl]
      rfl
    · rw [if_neg hl, if_neg hl]
      rfl

/-- Queries change nothing but their count. -/
theorem asked_query (limit : Nat) (types : List String) (inventory : DelayedStore) :
    ∃ queries, asked (query limit) types inventory = inventory.withQueries queries := by
  unfold asked
  induction types generalizing inventory with
  | nil => exact ⟨_, rfl⟩
  | cons resourceType rest ih =>
    rw [List.foldl_cons, query_run]
    split
    · exact ih inventory
    split
    · exact ih inventory
    · exact ih (inventory.withQueries _)

/-- A stored inventory has one answer for each type. -/
theorem consistent (limit : Nat) (inventory : DelayedStore) :
    Consistent (query limit) (inventory.replyUnder limit) inventory := by
  intro types resourceType reply h
  obtain ⟨queries, hstate⟩ := asked_query limit types inventory
  rw [hstate, query_run] at h
  unfold replyUnder
  split at h
  · exact nomatch h
  split at h
  · next hl => exact (Option.some.inj h).symm.trans (if_pos hl).symm
  · next hl => exact (Option.some.inj h).symm.trans (if_neg hl).symm

end DelayedStore

end CloudAudit
