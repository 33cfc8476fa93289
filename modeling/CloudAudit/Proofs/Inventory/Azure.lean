import CloudAudit.Inventory.Azure
import CloudAudit.Proofs.Assessment.Verdict
import CloudAudit.Proofs.Infix
import CloudAudit.Proofs.Utf8

/-!
# Failures of the Azure command line

Of all the ways in which the program behind a query can end, a list of resources comes from a
success that prints a list, or nothing at all (`readList_eq_ok_iff`). Whatever else happens is a
failed query, and a control that needs the type is neither passed nor failed for want of resources
(`failures_kept_apart`).
-/

namespace CloudAudit

/-! ## Blank texts -/

namespace Json

/-- So far nothing but blanks was read: nothing has begun, or a word with a blank in front. -/
def ReadsBlanks (state : Scan × List Token) : Prop :=
  state = (.between, []) ∨
    ∃ read c, state = (.word (read ++ [c]), []) ∧ Text.isBlank c = true

theorem ne_of_isBlank {c d : Char} (hc : Text.isBlank c = true) (hd : Text.isBlank d = false) :
    c ≠ d := by
  rintro rfl
  exact absurd hc (by simp [hd])

theorem isDigit_of_isBlank {c : Char} (hc : Text.isBlank c = true) : c.isDigit = false := by
  rw [Bool.eq_false_iff]
  intro h
  simp only [Char.isDigit, Bool.and_eq_true, decide_eq_true_eq, ge_iff_le,
    UInt32.le_iff_toNat_le] at h
  simp only [Text.isBlank, Bool.or_eq_true, Bool.and_eq_true, decide_eq_true_eq, beq_iff_eq] at hc
  have hval : c.toNat = c.val.toNat := rfl
  have hlow : '0'.val.toNat = 48 := rfl
  have hhigh : '9'.val.toNat = 57 := rfl
  omega

theorem readNumber?_of_isBlank {c : Char} (hc : Text.isBlank c = true) (rest : List Char) :
    readNumber? (c :: rest) = none := by
  have hminus : c ≠ '-' := ne_of_isBlank hc (by decide)
  simp [readNumber?, hminus, isDigit_of_isBlank hc]

/-- A word with a blank in front is none. -/
theorem readWord?_of_isBlank {c : Char} (hc : Text.isBlank c = true) (rest : List Char) :
    readWord? (c :: rest) = none := by
  have hn : c ≠ 'n' := ne_of_isBlank hc (by decide)
  have ht : c ≠ 't' := ne_of_isBlank hc (by decide)
  have hf : c ≠ 'f' := ne_of_isBlank hc (by decide)
  simp [readWord?, hn, ht, hf, readNumber?_of_isBlank hc]

theorem readsBlanks_of_scanChar? {c : Char} (hc : Text.isBlank c = true)
    {state after : Scan × List Token} (h : ReadsBlanks state)
    (hr : scanChar? state c = some after) : ReadsBlanks after := by
  have hquote : c ≠ '"' := ne_of_isBlank hc (by decide)
  have hpunctuation : punctuation? c = none := by
    unfold punctuation?
    split <;> first | exact absurd hc (by decide) | rfl
  rcases h with rfl | ⟨read, first, rfl, hfirst⟩
  · by_cases hgap : isGap c = true
    · simp [scanChar?, scanStep?, startToken, hpunctuation, hgap] at hr
      exact .inl hr.symm
    · simp [scanChar?, scanStep?, startToken, hpunctuation, hgap, hquote] at hr
      exact .inr ⟨[], c, hr.symm, hc⟩
  · have hword : readWord? (first :: read.reverse) = none := readWord?_of_isBlank hfirst _
    by_cases hgap : isGap c = true
    · simp [scanChar?, scanStep?, hpunctuation, hgap, hword] at hr
    · simp [scanChar?, scanStep?, hpunctuation, hgap, hquote] at hr
      exact .inr ⟨c :: read, first, hr.symm, hfirst⟩

theorem readsBlanks_of_foldlM {cs : List Char} (hcs : ∀ c ∈ cs, Text.isBlank c = true)
    {state after : Scan × List Token} (h : ReadsBlanks state)
    (hr : cs.foldlM scanChar? state = some after) : ReadsBlanks after := by
  induction cs generalizing state with
  | nil =>
    obtain rfl : state = after := Option.some.inj hr
    exact h
  | cons c rest ih =>
    rw [List.foldlM_cons] at hr
    obtain ⟨next, hnext, hrest⟩ := Option.bind_eq_some_iff.mp hr
    have hblank := readsBlanks_of_scanChar? (hcs c List.mem_cons_self) h hnext
    exact ih (fun d hd => hcs d (List.mem_cons_of_mem c hd)) hblank hrest

/-- Blanks are no JSON text. -/
theorem parse?_of_isBlankText {text : String} (h : Text.isBlankText text = true) :
    parse? text = none := by
  have hblanks : ∀ c ∈ text.toList, Text.isBlank c = true := List.all_eq_true.mp h
  have htokens : ∀ tokens, tokens? text.toList = some tokens → tokens = [] := by
    intro tokens ht
    obtain ⟨state, hstate, ht⟩ := Option.bind_eq_some_iff.mp ht
    rcases readsBlanks_of_foldlM hblanks (.inl rfl) hstate with rfl | ⟨read, c, rfl, hc⟩
    · exact (Option.some.inj ht).symm
    · simp [readWord?_of_isBlank hc] at ht
  unfold parse? parseRaw?
  cases ht : tokens? text.toList with
  | none => rfl
  | some tokens =>
    rw [htokens tokens ht]
    rfl

end Json

/-! ## Replies -/

/-- The end of a program that lists resources: a success that prints them as a list, or nothing. -/
def ProgramEnd.Lists (ended : ProgramEnd) (items : List Json) : Prop :=
  ∃ output complaint, ended = .finished true output complaint ∧
    (Text.isBlankText (Text.Utf8.decodeLossy output) = true ∧ items = [] ∨
      Json.parse? (Text.Utf8.decodeLossy output) = some (.array items))

/-- The response to a query for the type could not be read: it is no list, or no JSON, and then the
fault is told. -/
def QueryFailure.IsInvalidFor (failure : QueryFailure) (resourceType fault : String) : Prop :=
  failure = .garbled { about := resourceType, fault } ∨
    ∃ message, failure = .invalid resourceType message

namespace AzureCli

variable {faultOf : String → String}

/-- A list of resources is read from a list and from blanks only. -/
theorem readList_eq_ok_iff {resourceType output : String} {items : List Json} :
    readList resourceType output faultOf = .ok items ↔
      Text.isBlankText output = true ∧ items = [] ∨ Json.parse? output = some (.array items) := by
  unfold readList
  by_cases hb : Text.isBlankText output = true
  · rw [if_pos hb, Json.parse?_of_isBlankText hb]
    constructor
    · intro h
      exact .inl ⟨hb, (Except.ok.inj h).symm⟩
    · rintro (⟨-, rfl⟩ | h)
      · rfl
      · exact nomatch h
  · rw [if_neg hb, or_iff_right (fun h => hb h.1)]
    split <;> simp_all

theorem isInvalidFor_of_readList {resourceType output : String} {failure : QueryFailure}
    (h : readList resourceType output faultOf = .error failure) :
    failure.IsInvalidFor resourceType (faultOf output) := by
  unfold readList at h
  split at h
  · exact nomatch h
  split at h
  · exact nomatch h
  · exact .inr ⟨_, (Except.error.inj h).symm⟩
  · exact .inl (Except.error.inj h).symm

theorem contains_trim_of_mem_authMarkers {marker : String} (h : marker ∈ authMarkers)
    (complaint : String) :
    Text.contains (Text.trim complaint) marker = Text.contains complaint marker := by
  have hend (c : Char) (hc : Text.isBlank c = false) : ∀ d ∈ some c, Text.isBlank d = false :=
    fun _ hd => Option.some.inj hd ▸ hc
  simp only [authMarkers, List.mem_cons, List.not_mem_nil, or_false] at h
  obtain rfl | rfl | rfl := h <;> refine Text.contains_trim ?_ ?_ complaint
  exacts [hend 'a' rfl, hend 'n' rfl, hend 'A' rfl, hend 'S' rfl, hend 'N' rfl, hend 'd' rfl]

/-- Blanks around a complaint make no difference to what it is about. -/
theorem failure_trim (resourceType complaint : String) :
    failure resourceType (Text.trim complaint) =
      if ∃ marker ∈ authMarkers, Text.contains complaint marker = true then
        .auth (Text.trim complaint)
      else .failed resourceType (Text.trim complaint) := by
  unfold failure
  refine if_congr ?_ rfl rfl
  rw [List.any_eq_true]
  refine exists_congr fun marker => and_congr_right fun hm => ?_
  rw [contains_trim_of_mem_authMarkers hm]

theorem reply_eq_ok_iff (cli : AzureCli) {resourceType : String} {ended : ProgramEnd}
    {items : List Json} :
    cli.reply resourceType ended faultOf = .ok items ↔ ended.Lists items := by
  cases ended with
  | notStarted cause => exact ⟨nofun, fun ⟨_, _, h, _⟩ => nomatch h⟩
  | finished success output complaint =>
    cases success with
    | false => exact ⟨nofun, fun ⟨_, _, h, _⟩ => nomatch h⟩
    | true =>
      show readList resourceType (Text.Utf8.decodeLossy output) faultOf = .ok items ↔ _
      rw [readList_eq_ok_iff]
      constructor
      · intro h
        exact ⟨output, complaint, rfl, h⟩
      · rintro ⟨_, _, hended, h⟩
        obtain ⟨-, rfl, -⟩ := ProgramEnd.finished.inj hended
        exact h

/-! ## Controls -/

section Controls

variable {σ : Type} (cli : AzureCli)
  (run : String → List String → OptionT (StateM σ) ProgramEnd) (faultOf : String → String)

/-- What a query comes to. A program that does not end before the limit of the query is late. -/
def respond (resourceType : String) : StateM σ Response := do
  match ← (cli.query run faultOf resourceType).run with
  | some reply => return .answered reply
  | none => return .late

/-- How the program ends for the type of every requirement, one after the other. -/
def ends (requirements : List Requirement) :
    StateM σ (List (Requirement × Option ProgramEnd)) :=
  requirements.mapM fun requirement => do
    return (requirement, ← (run cli.program (cli.arguments requirement.resourceType)).run)

/-- What the inventory does when the program ends so. -/
def answerOf (entry : Requirement × Option ProgramEnd) : Requirement × Response :=
  (entry.1,
    match entry.2 with
    | some ended => .answered (cli.reply entry.1.resourceType ended faultOf)
    | none => .late)

theorem respond_eq (resourceType : String) :
    cli.respond run faultOf resourceType = do
      match ← (run cli.program (cli.arguments resourceType)).run with
      | some ended => return .answered (cli.reply resourceType ended faultOf)
      | none => return .late := by
  unfold respond query
  rw [OptionT.run_bind]
  unfold Option.elimM
  rw [bind_assoc]
  refine congrArg _ (funext fun ended => ?_)
  cases ended <;> rfl

theorem inquire_respond (requirements : List Requirement) :
    Requirement.inquire (cli.respond run faultOf) requirements =
      List.map (cli.answerOf faultOf) <$> cli.ends run requirements := by
  unfold Requirement.inquire ends
  induction requirements with
  | nil => simp
  | cons requirement rest ih =>
    rw [List.mapM_cons, List.mapM_cons, ih, respond_eq]
    simp only [bind_assoc, pure_bind, map_bind, bind_map_left, map_pure, List.map_cons]
    refine congrArg _ (funext fun ended => ?_)
    cases ended <;> simp only [pure_bind] <;> rfl

/-- The answers to a control are read off the ends of the program. -/
theorem answers_respond (control : Control) (start : σ) :
    control.answers (cli.respond run faultOf) start =
      ((cli.ends run control.requirements).run start).1.map (cli.answerOf faultOf) := by
  unfold Control.answers
  rw [inquire_respond]
  rfl

theorem map_fst_ends (requirements : List Requirement) (start : σ) :
    ((cli.ends run requirements).run start).1.map Prod.fst = requirements := by
  have h := Requirement.map_fst_inquire (cli.respond run id) requirements start
  rw [inquire_respond, StateT.run_map] at h
  refine Eq.trans ?_ h
  show _ = (((cli.ends run requirements).run start).1.map (cli.answerOf id)).map Prod.fst
  rw [List.map_map]
  rfl

end Controls

/-- The program came to an end in which it lists resources. -/
def Listed (ended : Option ProgramEnd) : Prop :=
  ∃ last items, ended = some last ∧ last.Lists items

/-- Without a list there is a failure, in time or not. -/
theorem exists_replyOf_answerOf (cli : AzureCli) (faultOf : String → String) (limit : Nat)
    (entry : Requirement × Option ProgramEnd) (h : ¬ Listed entry.2) :
    ∃ failure, replyOf limit (cli.answerOf faultOf entry) = .error failure := by
  obtain ⟨requirement, _ | ended⟩ := entry
  · exact ⟨_, rfl⟩
  · cases hr : cli.reply requirement.resourceType ended faultOf with
    | error failure => exact ⟨failure, hr⟩
    | ok items => exact absurd ⟨ended, items, rfl, (reply_eq_ok_iff cli).mp hr⟩ h

/-- What a failure of the program does to a control that needs the type. -/
structure FailureRecorded (control : Control) (position : Nat) (requirement : Requirement)
    (result : Assessment) : Prop where
  requirement_eq : control.requirements[position]? = some requirement
  /-- The query counts as failed, and as nothing else. -/
  outcome : control.manual = false → ∃ outcome,
    result.requirementOutcomes[position]? = some outcome ∧
      outcome.resourceType = requirement.resourceType ∧ outcome.status = .queryFailed
  /-- A manual control has no outcomes. -/
  manual : control.manual = true → result.requirementOutcomes = []
  not_passed : result.status ≠ .passed

/-- How the ends of the program and the replies to queries belong together. -/
structure FailuresApart (cli : AzureCli) (faultOf : String → String) : Prop where
  /-- The bytes of a text are decoded to that text. -/
  text_kept (text : String) : Text.Utf8.decodeLossy text.toUTF8.data.toList = text
  ok_iff (resourceType : String) (ended : ProgramEnd) (items : List Json) :
    cli.reply resourceType ended faultOf = .ok items ↔ ended.Lists items
  notStarted (resourceType cause : String) :
    cli.reply resourceType (.notStarted cause) faultOf =
      .error (.unavailable s!"failed to run {cli.program}: {cause}")
  auth (resourceType : String) (output complaint : List UInt8)
    (h : ∃ marker ∈ authMarkers,
      Text.contains (Text.Utf8.decodeLossy complaint) marker = true) :
    cli.reply resourceType (.finished false output complaint) faultOf =
      .error (.auth (Text.trim (Text.Utf8.decodeLossy complaint)))
  failed (resourceType : String) (output complaint : List UInt8)
    (h : ¬ ∃ marker ∈ authMarkers,
      Text.contains (Text.Utf8.decodeLossy complaint) marker = true) :
    cli.reply resourceType (.finished false output complaint) faultOf =
      .error (.failed resourceType (Text.trim (Text.Utf8.decodeLossy complaint)))
  invalid (resourceType : String) (output complaint : List UInt8)
    (h : ∀ items, ¬ (ProgramEnd.finished true output complaint).Lists items) :
    ∃ failure,
      cli.reply resourceType (.finished true output complaint) faultOf = .error failure ∧
        failure.IsInvalidFor resourceType (faultOf (Text.Utf8.decodeLossy output))
  complaint_ignored (resourceType : String) (output first second : List UInt8) :
    cli.reply resourceType (.finished true output first) faultOf =
      cli.reply resourceType (.finished true output second) faultOf
  /-- The program is run once for a query, and the reply is that to its end. -/
  query_eq {m : Type → Type} [Monad m] [LawfulMonad m] (run : String → List String → m ProgramEnd)
    (resourceType : String) :
    cli.query run faultOf resourceType =
      (fun ended => cli.reply resourceType ended faultOf) <$>
        run cli.program (cli.arguments resourceType)
  recorded {σ : Type} (run : String → List String → OptionT (StateM σ) ProgramEnd)
    (settings : EngineSettings) (index : Nat) (control : Control) (start : σ) {position : Nat}
    {requirement : Requirement} {ended : Option ProgramEnd}
    (hended : ((cli.ends run control.requirements).run start).1[position]? =
      some (requirement, ended))
    (hfails : ¬ Listed ended) :
    FailureRecorded control position requirement
      ((control.validate (limited settings.timeoutSeconds (cli.respond run faultOf))
        settings.matchPolicy index).run start).1

end AzureCli

/-- A failed query keeps a control from passing. -/
theorem Status.ofOutcomes_ne_passed {outcomes : List RequirementOutcome}
    {outcome : RequirementOutcome} (hm : outcome ∈ outcomes)
    (h : outcome.status = .queryFailed) : Status.ofOutcomes outcomes ≠ .passed := by
  have hany : (outcomes.any fun outcome => outcome.status = .queryFailed) = true :=
    List.any_eq_true.mpr ⟨outcome, hm, decide_eq_true h⟩
  unfold Status.ofOutcomes
  dsimp only
  rw [if_pos hany]
  split <;> exact nofun

namespace AzureCli

theorem failureRecorded (cli : AzureCli) (faultOf : String → String) {σ : Type}
    (run : String → List String → OptionT (StateM σ) ProgramEnd) (settings : EngineSettings)
    (index : Nat) (control : Control) (start : σ) {position : Nat} {requirement : Requirement}
    {ended : Option ProgramEnd}
    (hended : ((cli.ends run control.requirements).run start).1[position]? =
      some (requirement, ended))
    (hfails : ¬ Listed ended) :
    FailureRecorded control position requirement
      ((control.validate (limited settings.timeoutSeconds (cli.respond run faultOf))
        settings.matchPolicy index).run start).1 := by
  have hrequirement : control.requirements[position]? = some requirement := by
    rw [← cli.map_fst_ends run control.requirements start, List.getElem?_map, hended]
    rfl
  cases hmanual : control.manual with
  | true =>
    rw [Control.validate_of_manual hmanual]
    exact ⟨hrequirement, fun h => absurd (h.symm.trans hmanual) nofun, fun _ => rfl, nofun⟩
  | false =>
    have houtcomes := Control.requirementOutcomes_assess
      (control.map_fst_answers (cli.respond run faultOf) start) settings.matchPolicy
      settings.timeoutSeconds index
    obtain ⟨failure, hreply⟩ :=
      cli.exists_replyOf_answerOf faultOf settings.timeoutSeconds (requirement, ended) hfails
    let outcome := requirement.outcome settings.matchPolicy (.error failure)
    have hat : (outcomesOf settings.matchPolicy settings.timeoutSeconds
        (control.answers (cli.respond run faultOf) start))[position]? = some outcome := by
      unfold outcomesOf
      rw [answers_respond, List.map_map, List.getElem?_map, hended, Option.map_some]
      exact congrArg (fun reply => some (requirement.outcome settings.matchPolicy reply)) hreply
    rw [Control.validate_run_fst _ hmanual]
    refine ⟨hrequirement, fun _ => ⟨outcome, houtcomes ▸ hat, rfl, rfl⟩,
      fun h => absurd (hmanual.symm.trans h) nofun, ?_⟩
    rw [Control.status_assess, houtcomes]
    exact Status.ofOutcomes_ne_passed (List.mem_of_getElem? hat) rfl

/-- **Failures kept apart.** A program that fails is never taken for one that lists no resources,
and a control that needs the type does not pass. -/
theorem failures_kept_apart (cli : AzureCli) (faultOf : String → String) :
    cli.FailuresApart faultOf where
  text_kept := Text.Utf8.decodeLossy_toUTF8
  ok_iff _ _ _ := reply_eq_ok_iff cli
  notStarted _ _ := rfl
  auth resourceType _ complaint h := by
    show Except.error (failure resourceType (Text.trim (Text.Utf8.decodeLossy complaint))) = _
    rw [failure_trim, if_pos h]
  failed resourceType _ complaint h := by
    show Except.error (failure resourceType (Text.trim (Text.Utf8.decodeLossy complaint))) = _
    rw [failure_trim, if_neg h]
  invalid resourceType output complaint h := by
    cases hr : cli.reply resourceType (.finished true output complaint) faultOf with
    | ok items => exact absurd ((reply_eq_ok_iff cli).mp hr) (h items)
    | error failure => exact ⟨failure, rfl, isInvalidFor_of_readList hr⟩
  complaint_ignored _ _ _ _ := rfl
  query_eq run resourceType := by
    unfold query
    rw [map_eq_pure_bind]
  recorded := cli.failureRecorded faultOf

/-- A list that is cut off in a character is no list, whatever the program complains about. -/
example : reply {} "vault" (.finished true "[\"é".toUTF8.data.toList.dropLast []) =
    .error (.garbled { about := "vault", fault := "expected value" }) := rfl

/-- A complaint about credentials counts, and not the list in front of it. -/
example : reply {} "vault" (.finished false "[]".toUTF8.data.toList
    "ERROR: Please run 'az login'.\n".toUTF8.data.toList) =
      .error (.auth "ERROR: Please run 'az login'.") := rfl

end AzureCli

end CloudAudit
