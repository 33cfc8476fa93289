import CloudAudit.Configuration
import CloudAudit.Proofs.Except
import CloudAudit.Proofs.Number.Unsigned

/-!
# Overriding a configuration

Every variable overrides one part of a configuration, or refuses it when its text is not of the kind
that the part asks for. What comes out has a time limit, and overriding it again changes nothing.
-/

namespace CloudAudit

/-! ## Sources of a value -/

/-- The first source that says something about a value settles it, and else it is the one that goes
without saying. -/
def Settled {α : Type} (otherwise : α) : List (Option (α → Prop)) → α → Prop
  | [], value => value = otherwise
  | none :: rest, value => Settled otherwise rest value
  | some told :: _, value => told value

section Sources

variable {α β : Type} {otherwise value : α}

/-- Sources in front of others come before them. -/
theorem Settled.append {inner outer : List (Option (α → Prop))} {middle : α}
    (hinner : Settled otherwise inner middle) (houter : Settled middle outer value) :
    Settled otherwise (outer ++ inner) value := by
  induction outer with
  | nil =>
    obtain rfl : value = middle := houter
    exact hinner
  | cons source rest ih =>
    cases source with
    | none => exact ih houter
    | some told => exact houter

variable {source : Option β} {means : β → α → Prop} {read : Option α}

theorem settled_getD (h : Option.Rel means source read) :
    Settled otherwise [source.map means] (read.getD otherwise) := by
  cases h with
  | none => rfl
  | some h => exact h

theorem eq_getD_of_settled (h : Option.Rel means source read)
    (hunique : ∀ b a a', means b a → means b a' → a = a')
    (hsettled : Settled otherwise [source.map means] value) : value = read.getD otherwise := by
  cases h with
  | none => exact hsettled
  | some h => exact hunique _ _ _ hsettled h

/-- A source can be read when there is none, or when it means something. -/
theorem exists_rel (h : ∀ b, source = some b → ∃ a, means b a) :
    ∃ read, Option.Rel means source read := by
  cases source with
  | none => exact ⟨none, .none⟩
  | some b =>
    obtain ⟨a, ha⟩ := h b rfl
    exact ⟨some a, .some ha⟩

theorem exists_of_rel (h : Option.Rel means source read) {b : β} (hsource : source = some b) :
    ∃ a, means b a := by
  subst hsource
  cases h with
  | some h => exact ⟨_, h⟩

end Sources

/-! ## Texts of variables -/

/-- The names of a policy, in any case. -/
def MatchPolicy.IsNamed (text : String) : MatchPolicy → Prop
  | any => Text.sameFolded text "any"
  | all => Text.sameFolded text "all" ∨ Text.sameFolded text "strict"

theorem MatchPolicy.parse?_eq_some_iff {text : String} {policy : MatchPolicy} :
    parse? text = some policy ↔ policy.IsNamed text := by
  have hsame (name : String) (hname : name.toList.map Char.toLower = name.toList) :
      Text.sameFolded text name = true ↔ text.map Char.toLower = name := by
    rw [Text.sameFolded, beq_iff_eq, hname, ← String.toList_map, String.toList_inj]
  unfold parse? ofName?
  dsimp only
  cases policy with
  | any =>
    rw [IsNamed, hsame "any" (by decide)]
    split_ifs <;> simp_all
  | all =>
    rw [IsNamed, hsame "all" (by decide), hsame "strict" (by decide)]
    split_ifs <;> simp_all

namespace Configuration

/-- An unsigned number of 64 bits with blanks around it. -/
def IsNumber (text : String) (n : Nat) : Prop :=
  Number.IsUnsigned (Text.trimChars text.toList) n

/-- As many at once as a number says, and one at least. -/
def IsCount (text : String) (n : Nat) : Prop := ∃ given, IsNumber text given ∧ n = max given 1

theorem readNumber?_eq_some_iff {text : String} {n : Nat} :
    readNumber? text = some n ↔ IsNumber text n := Number.readUnsigned?_eq_some_iff

section Override

variable {α : Type} {lookup : String → Option String} {name : String}
  {read? : String → Option α} {refused : String → SettingsError} {means : String → α → Prop}

theorem override_eq_ok_iff (h : ∀ {text a}, read? text = some a ↔ means text a)
    {value? : Option α} :
    override lookup name read? refused = .ok value? ↔ Option.Rel means (lookup name) value? := by
  unfold override
  cases lookup name with
  | none =>
    constructor
    · rintro ⟨⟩
      exact .none
    · rintro ⟨⟩
      rfl
  | some text =>
    dsimp only
    constructor
    · intro hok
      split at hok
      · next a ha =>
        obtain rfl := Except.ok.inj hok
        exact .some (h.mp ha)
      · exact nomatch hok
    · rintro (⟨ha⟩ | _)
      rw [h.mpr ha]

end Override

variable (configuration : Configuration) (lookup : String → Option String)

/-- Why variables refuse a configuration. -/
inductive Refused : Prop where
  | concurrency {text : String} (h : lookup "COMPLIANCE_CONCURRENCY" = some text)
    (hbad : ∀ n, ¬ IsNumber text n)
  | timeout {text : String} (h : lookup "COMPLIANCE_QUERY_TIMEOUT_SECS" = some text)
    (hbad : ∀ n, ¬ IsNumber text n)
  | policy {text : String} (h : lookup "COMPLIANCE_MATCH_POLICY" = some text)
    (hbad : ∀ policy : MatchPolicy, ¬ policy.IsNamed text)
  | zero (h : Settled configuration.engine.timeoutSeconds
      [(lookup "COMPLIANCE_QUERY_TIMEOUT_SECS").map IsNumber] 0)

/-- What variables leave of a configuration and what they put into it. -/
structure Accepted (before after : Configuration) : Prop where
  concurrency : Settled before.engine.concurrency
    [(lookup "COMPLIANCE_CONCURRENCY").map IsCount] after.engine.concurrency
  timeoutSeconds : Settled before.engine.timeoutSeconds
    [(lookup "COMPLIANCE_QUERY_TIMEOUT_SECS").map IsNumber] after.engine.timeoutSeconds
  matchPolicy : Settled before.engine.matchPolicy
    [(lookup "COMPLIANCE_MATCH_POLICY").map MatchPolicy.IsNamed]
    after.engine.matchPolicy
  checklistsDir : Settled before.checklistsDir
    [(lookup "COMPLIANCE_CHECKLISTS_DIR").map fun text folder => folder = text] after.checklistsDir
  reportsDir : Settled before.reportsDir
    [(lookup "COMPLIANCE_REPORTS_DIR").map fun text folder => folder = text] after.reportsDir
  remediation_eq : after.remediation = before.remediation
  one_le_timeoutSeconds : 1 ≤ after.engine.timeoutSeconds

/-- What overriding a configuration comes to. -/
structure Overriding : Prop where
  refused_iff : (∃ e, configuration.withOverrides lookup = .error e) ↔ configuration.Refused lookup
  accepted : ∀ after, configuration.withOverrides lookup = .ok after →
    Accepted lookup configuration after
  again : ∀ after, configuration.withOverrides lookup = .ok after →
    after.withOverrides lookup = .ok after

/-! ## Overriding -/

/-- The configuration with what was read of the variables, and with the folders that they name. -/
def replaced (concurrency timeout : Option Nat) (policy : Option MatchPolicy) : Configuration :=
  { configuration with
    engine :=
      { concurrency := (concurrency.map (max · 1)).getD configuration.engine.concurrency
        timeoutSeconds := timeout.getD configuration.engine.timeoutSeconds
        matchPolicy := policy.getD configuration.engine.matchPolicy }
    checklistsDir := (lookup "COMPLIANCE_CHECKLISTS_DIR").getD configuration.checklistsDir
    reportsDir := (lookup "COMPLIANCE_REPORTS_DIR").getD configuration.reportsDir }

/-- What was read of the three variables that are not taken as they stand. -/
structure Reads (concurrency timeout : Option Nat) (policy : Option MatchPolicy) : Prop where
  concurrency : Option.Rel IsNumber (lookup "COMPLIANCE_CONCURRENCY") concurrency
  timeout : Option.Rel IsNumber (lookup "COMPLIANCE_QUERY_TIMEOUT_SECS") timeout
  policy : Option.Rel MatchPolicy.IsNamed (lookup "COMPLIANCE_MATCH_POLICY") policy

variable {configuration lookup} {after : Configuration}

theorem check_eq_ok_iff {settings : EngineSettings} {done : Unit} :
    settings.check = .ok done ↔ settings.timeoutSeconds ≠ 0 :=
  guard_eq_ok_iff.trans (and_iff_left rfl)

theorem withOverrides_eq_ok_iff :
    configuration.withOverrides lookup = .ok after ↔
      ∃ concurrency timeout policy, Reads lookup concurrency timeout policy ∧
        timeout.getD configuration.engine.timeoutSeconds ≠ 0 ∧
        configuration.replaced lookup concurrency timeout policy = after := by
  unfold withOverrides
  simp only [bind_eq_ok_iff, override_eq_ok_iff readNumber?_eq_some_iff,
    override_eq_ok_iff MatchPolicy.parse?_eq_some_iff, check_eq_ok_iff]
  constructor
  · rintro ⟨concurrency, hconcurrency, timeout, htimeout, policy, hpolicy, _, hne, h⟩
    exact ⟨concurrency, timeout, policy, ⟨hconcurrency, htimeout, hpolicy⟩, hne, Except.ok.inj h⟩
  · rintro ⟨concurrency, timeout, policy, ⟨hconcurrency, htimeout, hpolicy⟩, hne, rfl⟩
    exact ⟨concurrency, hconcurrency, timeout, htimeout, policy, hpolicy, (), hne, rfl⟩

theorem IsNumber.unique (text : String) (n m : Nat) (hn : IsNumber text n) (hm : IsNumber text m) :
    n = m :=
  Option.some.inj ((readNumber?_eq_some_iff.mpr hn).symm.trans (readNumber?_eq_some_iff.mpr hm))

theorem rel_isCount {source : Option String} {read : Option Nat}
    (h : Option.Rel IsNumber source read) : Option.Rel IsCount source (read.map (max · 1)) := by
  cases h with
  | none => exact .none
  | some h => exact .some ⟨_, h, rfl⟩

variable (configuration lookup)

theorem exists_withOverrides_eq_error_iff :
    (∃ e, configuration.withOverrides lookup = .error e) ↔ configuration.Refused lookup := by
  constructor
  · -- without a reason to refuse it, every variable can be read and the limit is not zero
    rintro ⟨e, he⟩
    by_contra hrefused
    have hnot {after : Configuration} : configuration.withOverrides lookup ≠ .ok after :=
      he ▸ nofun
    obtain ⟨concurrency, hconcurrency⟩ : ∃ read,
        Option.Rel IsNumber (lookup "COMPLIANCE_CONCURRENCY") read :=
      exists_rel fun text h => not_forall_not.mp fun hbad => hrefused (.concurrency h hbad)
    obtain ⟨timeout, htimeout⟩ : ∃ read,
        Option.Rel IsNumber (lookup "COMPLIANCE_QUERY_TIMEOUT_SECS") read :=
      exists_rel fun text h => not_forall_not.mp fun hbad => hrefused (.timeout h hbad)
    obtain ⟨policy, hpolicy⟩ : ∃ read,
        Option.Rel MatchPolicy.IsNamed (lookup "COMPLIANCE_MATCH_POLICY") read :=
      exists_rel fun text h => not_forall_not.mp fun hbad => hrefused (.policy h hbad)
    refine hnot (withOverrides_eq_ok_iff.mpr ⟨concurrency, timeout, policy,
      ⟨hconcurrency, htimeout, hpolicy⟩, fun hzero => hrefused (.zero ?_), rfl⟩)
    exact hzero ▸ settled_getD htimeout
  · intro hrefused
    cases h : configuration.withOverrides lookup with
    | error e => exact ⟨e, rfl⟩
    | ok after =>
      obtain ⟨concurrency, timeout, policy, hreads, hne, -⟩ := withOverrides_eq_ok_iff.mp h
      exfalso
      cases hrefused with
      | concurrency hdefined hbad => exact (exists_of_rel hreads.concurrency hdefined).elim hbad
      | timeout hdefined hbad => exact (exists_of_rel hreads.timeout hdefined).elim hbad
      | policy hdefined hbad => exact (exists_of_rel hreads.policy hdefined).elim hbad
      | zero hzero => exact hne (eq_getD_of_settled hreads.timeout IsNumber.unique hzero).symm

variable {configuration lookup}

theorem accepted_of_withOverrides (h : configuration.withOverrides lookup = .ok after) :
    Accepted lookup configuration after := by
  obtain ⟨concurrency, timeout, policy, hreads, hne, rfl⟩ := withOverrides_eq_ok_iff.mp h
  have hfolder (name otherwise : String) :
      Settled otherwise [(lookup name).map fun text folder => folder = text]
        ((lookup name).getD otherwise) := by
    cases lookup name <;> rfl
  exact ⟨settled_getD (rel_isCount hreads.concurrency), settled_getD hreads.timeout,
    settled_getD hreads.policy, hfolder _ _, hfolder _ _, rfl, Nat.one_le_iff_ne_zero.mpr hne⟩

theorem withOverrides_again (h : configuration.withOverrides lookup = .ok after) :
    after.withOverrides lookup = .ok after := by
  obtain ⟨concurrency, timeout, policy, hreads, hne, rfl⟩ := withOverrides_eq_ok_iff.mp h
  have hagain {α : Type} (read : Option α) (a : α) : read.getD (read.getD a) = read.getD a := by
    cases read <;> rfl
  refine withOverrides_eq_ok_iff.mpr ⟨concurrency, timeout, policy, hreads, ?_, ?_⟩
  · exact (hagain timeout _).symm ▸ hne
  · unfold replaced
    simp only [hagain]

/-- What is overridden is refused or accepted as the variables tell. -/
theorem overriding (configuration : Configuration) (lookup : String → Option String) :
    Overriding configuration lookup :=
  ⟨exists_withOverrides_eq_error_iff configuration lookup, fun _ => accepted_of_withOverrides,
    fun _ => withOverrides_again⟩

end Configuration

end CloudAudit
