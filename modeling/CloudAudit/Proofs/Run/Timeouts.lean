import CloudAudit.Proofs.Run.Isolation

/-!
# Timeouts

A store that takes its time is, for every run, as good as one that answers at once and fails for
the types that take longer than the limit (`timeouts_are_failures`). Neither the order in which
late answers would have come nor what they would have been can be seen in a report, and an answer
in time is the same however long it took.
-/

namespace CloudAudit

/-- Whether a type takes longer than the limit. An answer at the limit is in time. -/
def IsLate (delay : String → Nat) (limit : Nat) (resourceType : String) : Prop :=
  limit * nanosecondsPerSecond < delay resourceType

instance (delay : String → Nat) (limit : Nat) : DecidablePred (IsLate delay limit) :=
  fun _ => Nat.decLt _ _

section Delayed

variable {m : Type → Type} [Monad m] {delay : String → Nat} {limit : Nat}
  (respond : String → m Response) {resourceType : String}

theorem delayed_of_isLate (h : IsLate delay limit resourceType) :
    delayed delay limit respond resourceType = pure .late :=
  if_pos h

theorem delayed_of_not_isLate (h : ¬ IsLate delay limit resourceType) :
    delayed delay limit respond resourceType = respond resourceType :=
  if_neg h

end Delayed

namespace Store

variable (delay : String → Nat) (limit : Nat) (store : Store)

/-- The answers of a store where late ones are failures. -/
def answerWithin (resourceType : String) : Reply :=
  if IsLate delay limit resourceType then .error (.timeout resourceType limit)
  else store.answer resourceType

theorem answerWithin_of_isLate {delay : String → Nat} {limit : Nat} {resourceType : String}
    (h : IsLate delay limit resourceType) :
    store.answerWithin delay limit resourceType = .error (.timeout resourceType limit) :=
  if_pos h

theorem answerWithin_of_not_isLate {delay : String → Nat} {limit : Nat} {resourceType : String}
    (h : ¬ IsLate delay limit resourceType) :
    store.answerWithin delay limit resourceType = store.answer resourceType :=
  if_neg h

/-- What a store that takes its time does about a type. -/
def responseWithin (resourceType : String) : Response :=
  if IsLate delay limit resourceType then .late else .answered (store.answer resourceType)

theorem reply_responseWithin (resourceType : String) :
    (store.responseWithin delay limit resourceType).reply limit resourceType =
      store.answerWithin delay limit resourceType := by
  unfold responseWithin answerWithin
  split <;> rfl

theorem fixedResponses_delayed :
    FixedResponses (delayed delay limit Store.respond) (store.responseWithin delay limit)
      store := by
  refine ⟨fun state => state.answer = store.answer, rfl, fun state hv resourceType => ?_⟩
  unfold responseWithin
  by_cases h : IsLate delay limit resourceType
  · rw [delayed_of_isLate _ h, if_pos h]
    exact ⟨rfl, hv⟩
  · rw [delayed_of_not_isLate _ h, if_neg h, ← hv]
    exact ⟨rfl, rfl⟩

/-- The store with timeouts as registered failures. -/
def withTimeouts (types : List String) : Store :=
  types.foldr (fun resourceType store =>
    store.addFailure resourceType (.timeout resourceType limit)) store

theorem answer_withTimeouts (types : List String) (resourceType : String) :
    (store.withTimeouts limit types).answer resourceType =
      if resourceType ∈ types then .error (.timeout resourceType limit)
      else store.answer resourceType := by
  unfold withTimeouts
  induction types with
  | nil => exact (if_neg List.not_mem_nil).symm
  | cons first rest ih =>
    rw [List.foldr_cons, answer_addFailure, ih]
    by_cases h : resourceType = first
    · rw [if_pos h, if_pos (h ▸ List.mem_cons_self), h]
    · rw [if_neg h]
      simp only [List.mem_cons, h, false_or]

/-- Failures that are registered for the late types, and for no others, are as good as delays. -/
theorem fixedResponses_withTimeouts {types : List String}
    (h : ∀ resourceType, resourceType ∈ types ↔ IsLate delay limit resourceType) :
    FixedResponses Store.respond
      (fun resourceType => .answered (store.answerWithin delay limit resourceType))
      (store.withTimeouts limit types) := by
  have hanswer : (store.withTimeouts limit types).answer = store.answerWithin delay limit := by
    funext resourceType
    rw [answer_withTimeouts]
    unfold answerWithin
    simp only [h]
  rw [← hanswer]
  exact fixedResponses _

end Store

/-! ## Runs with delays -/

/-- The queries of a run over a store that takes its time. -/
def EngineSettings.askDelayed (settings : EngineSettings) (delay : String → Nat) :
    String → OptionT (StateM Store) Reply :=
  settings.ask (delayed delay settings.timeoutSeconds Store.respond)

/-- The outcome of a requirement whose query failed. -/
def Requirement.unanswered (requirement : Requirement) : RequirementOutcome :=
  { resourceType := requirement.resourceType
    required := requirement.required
    matched := 0
    compliant := 0
    status := .queryFailed }

/-- The outcomes of a control that is not manual, one for each requirement. -/
theorem Control.requirementOutcomes_validate {control : Control} (h : control.manual = false)
    (answer : String → Reply) (policy : MatchPolicy) (index : Nat) :
    (Id.run (control.validate answer policy index)).requirementOutcomes =
      control.requirements.map fun requirement =>
        requirement.outcome policy (answer requirement.resourceType) := by
  rw [Control.validate_id, if_neg (by simp [h])]
  show (control.findings policy _).map _ = _
  rw [Control.findings_map, List.map_map]
  rfl

/-- What delays do to the runs of a checklist over a store, where `respond` is an inventory without
delays. -/
structure Delays {σ : Type} (settings : EngineSettings) (store : Store) (delay : String → Nat)
    (controls : List Control) (respond : String → StateM σ Response) (start : σ) : Prop where
  /-- A run with delays comes to its end. -/
  ends :
    let query := limited settings.timeoutSeconds
      (delayed delay settings.timeoutSeconds Store.respond)
    Run.Yields settings (settings.askDelayed delay) controls store []
      ((Run.complete settings query controls).run store).1
  /-- It comes to the report of the run without delays. -/
  report {dead : List Nat} {results others : List Assessment}
    (hslow : Run.Yields settings (settings.askDelayed delay) controls store dead results)
    (hplain : Run.Yields settings (settings.ask respond) controls start dead others)
    (generatedAt : Timestamp) (checklist : Option ChecklistMeta) :
    Report.ofResults generatedAt checklist settings.matchPolicy results =
      Report.ofResults generatedAt checklist settings.matchPolicy others
  /-- Controls that do not ask for a late type come to the same as without any delay. -/
  unaffected {dead lost : List Nat} {results prompts : List Assessment}
    (hslow : Run.Yields settings (settings.askDelayed delay) controls store dead results)
    (hprompt : Run.Yields settings (settings.ask Store.respond) controls store lost prompts)
    {index : Nat} {control : Control} (hcontrol : controls[index]? = some control)
    (hdead : index ∉ dead) (hlost : index ∉ lost)
    (hnone : ∀ requirement ∈ control.requirements,
      ¬ IsLate delay settings.timeoutSeconds requirement.resourceType) :
    results[index]? = prompts[index]?
  /-- In the other controls the requirements of late types are unanswered, and no others change. -/
  affected {dead lost : List Nat} {results prompts : List Assessment}
    (hslow : Run.Yields settings (settings.askDelayed delay) controls store dead results)
    (hprompt : Run.Yields settings (settings.ask Store.respond) controls store lost prompts)
    {index : Nat} {control : Control} (hcontrol : controls[index]? = some control)
    (hdead : index ∉ dead) (hlost : index ∉ lost) (hmanual : control.manual = false) :
    ∃ result prompt, results[index]? = some result ∧ prompts[index]? = some prompt ∧
      ∀ (position : Nat) (requirement : Requirement),
        control.requirements[position]? = some requirement →
          result.requirementOutcomes[position]? =
            if IsLate delay settings.timeoutSeconds requirement.resourceType then
              some requirement.unanswered
            else prompt.requirementOutcomes[position]?

/-- **Timeouts are failures and nothing else.** Runs over a store with delays are runs over an
inventory without delays that fails for the late types. -/
theorem timeouts_are_failures {σ : Type} (settings : EngineSettings) (store : Store)
    (delay : String → Nat) (controls : List Control) {respond : String → StateM σ Response}
    {start : σ}
    (h : FixedResponses respond
      (fun resourceType => .answered (store.answerWithin delay settings.timeoutSeconds
        resourceType)) start) :
    Delays settings store delay controls respond start := by
  have hdelayed := store.fixedResponses_delayed delay settings.timeoutSeconds
  have hwithin := store.reply_responseWithin delay settings.timeoutSeconds
  have hreply : ∀ (answer : String → Reply) (resourceType : String),
      (Response.answered (answer resourceType)).reply settings.timeoutSeconds resourceType =
        answer resourceType := fun _ _ => rfl
  constructor
  case ends => exact Run.yields_complete _ settings controls store
  case report =>
    intro dead results others hslow hplain generatedAt checklist
    -- a late response and a registered timeout are the same reply
    rw [hdelayed.results_eq hwithin hslow, h.results_eq (hreply _) hplain]
  case unaffected =>
    intro dead lost results prompts hslow hprompt index control hcontrol hdead hlost hnone
    rw [hdelayed.getElem?_results hwithin hslow hcontrol hdead,
      store.fixedResponses.getElem?_results (hreply _) hprompt hcontrol hlost]
    refine congrArg some (Control.validate_congr (fun requirement hr => ?_) _ _)
    exact store.answerWithin_of_not_isLate (hnone requirement hr)
  case affected =>
    intro dead lost results prompts hslow hprompt index control hcontrol hdead hlost hmanual
    refine ⟨_, _, hdelayed.getElem?_results hwithin hslow hcontrol hdead,
      store.fixedResponses.getElem?_results (hreply _) hprompt hcontrol hlost, ?_⟩
    intro position requirement hr
    rw [Control.requirementOutcomes_validate hmanual, Control.requirementOutcomes_validate hmanual,
      List.getElem?_map, List.getElem?_map, hr, Option.map_some, Option.map_some]
    by_cases hlate : IsLate delay settings.timeoutSeconds requirement.resourceType
    · rw [if_pos hlate, store.answerWithin_of_isLate hlate]
      rfl
    · rw [if_neg hlate, store.answerWithin_of_not_isLate hlate]

/-! ## Three types, two of them late -/

namespace TwoLate

def settings : EngineSettings := { concurrency := 2 }

def checklist : List Control :=
  [{ regulation := "DORA", requirement := "Vaults"
     requirements := [{ resourceType := "vault", required := true }] },
    { regulation := "GDPR", requirement := "Servers"
      requirements := [{ resourceType := "disk" }, { resourceType := "server" }] },
    { regulation := "GDPR", requirement := "Disks"
      requirements := [{ resourceType := "disk", required := true }] }]

def store : Store :=
  { resources := [("vault", [.object [("name", .string "a")]]),
      ("disk", [.object [("name", .string "b")]])]
    failures := [("server", .auth "token expired")] }

/-- The disks are listed a nanosecond before the limit. -/
def delay (resourceType : String) : Nat :=
  if resourceType = "vault" then 45 * nanosecondsPerSecond
  else if resourceType = "server" then 31 * nanosecondsPerSecond
  else if resourceType = "disk" then 30 * nanosecondsPerSecond - 1
  else 0

theorem delays_checklist :
    FixedResponses Store.respond
        (fun resourceType => .answered (store.answerWithin delay 30 resourceType))
        (store.withTimeouts 30 ["vault", "server"]) ∧
      Delays settings store delay checklist Store.respond
        (store.withTimeouts 30 ["vault", "server"]) := by
  have hlate : ∀ resourceType,
      resourceType ∈ ["vault", "server"] ↔ IsLate delay 30 resourceType := by
    intro resourceType
    unfold IsLate delay nanosecondsPerSecond
    split
    · next h => simp [h]
    split
    · next h => simp [h]
    split
    · next h => simp [h]
    · next h => simp [*]
  have hfixed := store.fixedResponses_withTimeouts delay 30 hlate
  exact ⟨hfixed, timeouts_are_failures settings store delay checklist hfixed⟩

end TwoLate

end CloudAudit
