import CloudAudit.Proofs.Json.Record
import CloudAudit.Proofs.Report.Bookkeeping
import CloudAudit.Proofs.Timestamp
import CloudAudit.Report.Text

/-!
# Reports are read back

The JSON of a report gives the same report again, whatever is in it, and so does that of a plan
(`json_round_trip`). There is one lemma for each kind of record, in the order in which the records
stand inside each other, and each reads the fields one after the other. The only things that a tree
cannot hold are numbers of more than 64 bits and years of more than four digits.
-/

namespace CloudAudit

open Json (map_fst_optionalMember_sublist required_past_optionalMember
  withDefault_optionalMember)
open Json.Fields (required_eq_some withDefault_eq_some)
open Number

/-! ## Names -/

theorem Check.ofJson?_toJson (check : Check) : Check.ofJson? check.toJson = some check :=
  Check.ofName?_name check

theorem Status.ofJson?_toJson (status : Status) : Status.ofJson? status.toJson = some status := by
  cases status <;> decide

theorem RequirementStatus.ofJson?_toJson (status : RequirementStatus) :
    RequirementStatus.ofJson? status.toJson = some status := by
  cases status <;> decide

theorem MatchPolicy.ofJson?_toJson (policy : MatchPolicy) :
    MatchPolicy.ofJson? policy.toJson = some policy := by
  cases policy <;> decide

theorem Priority.ofJson?_toJson (priority : Priority) :
    Priority.ofJson? priority.toJson = some priority := by
  cases priority <;> decide

/-! ## Controls -/

theorem Rule.ofJson?_toJson {rule : Rule} (h : rule.expected.Canonical) :
    Rule.ofJson? rule.toJson = some rule := by
  refine reads (Json.fields?_object (by decide) (.refl _)) ?_
  refine reads (required_eq_some rfl rfl) ?_
  refine reads (required_eq_some rfl (Check.ofJson?_toJson _)) ?_
  exact reads (withDefault_eq_some rfl (congrArg some (Json.canonical_of_canonical h))) rfl

/-- The objects among the expected values have their members in order. -/
def Requirement.Fits (requirement : Requirement) : Prop :=
  ∀ rule ∈ requirement.rules, rule.expected.Canonical

theorem Requirement.ofJson?_toJson {requirement : Requirement} (h : requirement.Fits) :
    Requirement.ofJson? requirement.toJson = some requirement := by
  have hrules := Json.list?_map fun rule hr => Rule.ofJson?_toJson (h rule hr)
  refine reads (Json.fields?_object (by decide) (.refl _)) ?_
  refine reads (required_eq_some rfl rfl) ?_
  refine reads (withDefault_eq_some rfl rfl) ?_
  exact reads (withDefault_eq_some rfl hrules) rfl

def Control.Fits (control : Control) : Prop :=
  ∀ requirement ∈ control.requirements, requirement.Fits

theorem Control.ofJson?_toJson {control : Control} (h : control.Fits) :
    Control.ofJson? control.toJson = some control := by
  have hrequirements := Json.list?_map fun requirement hr =>
    Requirement.ofJson?_toJson (h requirement hr)
  rw [toJson, ← List.append_nil (_ ++ Json.optionalMember _ _)]
  refine reads (Json.fields?_object (by decide) (map_fst_optionalMember_sublist _)) ?_
  refine reads (required_eq_some rfl rfl) ?_
  refine reads (required_eq_some rfl rfl) ?_
  refine reads (required_eq_some rfl rfl) ?_
  refine reads (required_eq_some rfl rfl) ?_
  refine reads (withDefault_eq_some rfl hrequirements) ?_
  refine reads (withDefault_eq_some rfl rfl) ?_
  exact reads (withDefault_optionalMember rfl rfl fun _ _ => rfl) rfl

/-! ## Results -/

theorem RuleOutcome.ofJson?_toJson (outcome : RuleOutcome) :
    RuleOutcome.ofJson? outcome.toJson = some outcome := by
  refine reads (Json.fields?_object (by decide) (map_fst_optionalMember_sublist _)) ?_
  refine reads (required_past_optionalMember (by decide) rfl rfl) ?_
  refine reads (withDefault_optionalMember rfl rfl fun _ _ => rfl) ?_
  refine reads (required_past_optionalMember (by decide) rfl rfl) ?_
  refine reads (required_past_optionalMember (by decide) rfl (Check.ofJson?_toJson _)) ?_
  refine reads (required_past_optionalMember (by decide) rfl rfl) ?_
  exact reads (required_past_optionalMember (by decide) rfl rfl) rfl

/-- The counters are numbers of 64 bits. -/
structure RequirementOutcome.Fits (outcome : RequirementOutcome) : Prop where
  matched_lt : outcome.matched < wordLimit
  compliant_lt : outcome.compliant < wordLimit

theorem RequirementOutcome.ofJson?_toJson {outcome : RequirementOutcome} (h : outcome.Fits) :
    RequirementOutcome.ofJson? outcome.toJson = some outcome := by
  refine reads (Json.fields?_object (by decide) (.refl _)) ?_
  refine reads (required_eq_some rfl rfl) ?_
  refine reads (required_eq_some rfl rfl) ?_
  refine reads (required_eq_some rfl (Json.natural?_int h.matched_lt)) ?_
  refine reads (required_eq_some rfl (Json.natural?_int h.compliant_lt)) ?_
  exact reads (required_eq_some rfl (RequirementStatus.ofJson?_toJson _)) rfl

structure Assessment.Fits (result : Assessment) : Prop where
  index_lt : result.index < wordLimit
  control : result.control.Fits
  matched_lt : result.matched < wordLimit
  requirementOutcomes : ∀ outcome ∈ result.requirementOutcomes, outcome.Fits

theorem Assessment.ofJson?_toJson {result : Assessment} (h : result.Fits) :
    Assessment.ofJson? result.toJson = some result := by
  have hrules := Json.list?_map fun outcome (_ : outcome ∈ result.ruleOutcomes) =>
    RuleOutcome.ofJson?_toJson outcome
  have hrequirements := Json.list?_map fun outcome ho =>
    RequirementOutcome.ofJson?_toJson (h.requirementOutcomes outcome ho)
  refine reads (Json.fields?_object (by decide) (.refl _)) ?_
  refine reads (required_eq_some rfl (Json.natural?_int h.index_lt)) ?_
  refine reads (required_eq_some rfl (Control.ofJson?_toJson h.control)) ?_
  refine reads (required_eq_some rfl (Status.ofJson?_toJson _)) ?_
  refine reads (required_eq_some rfl (Json.natural?_int h.matched_lt)) ?_
  refine reads (required_eq_some rfl hrules) ?_
  refine reads (required_eq_some rfl hrequirements) ?_
  exact reads (required_eq_some rfl (Json.list?_ofTexts _)) rfl

/-! ## Summaries -/

structure Totals.Fits (totals : Totals) : Prop where
  passed_lt : totals.passed < wordLimit
  failed_lt : totals.failed < wordLimit
  manual_lt : totals.manual < wordLimit
  error_lt : totals.error < wordLimit

/-- The counters are found wherever they stand. -/
theorem Totals.ofFields?_eq_some {totals : Totals} (h : totals.Fits) {fields : Json.Fields}
    (hpassed : fields.lookup "passed" = some (.int totals.passed))
    (hfailed : fields.lookup "failed" = some (.int totals.failed))
    (hmanual : fields.lookup "manual" = some (.int totals.manual))
    (herror : fields.lookup "error" = some (.int totals.error)) :
    Totals.ofFields? fields = some totals := by
  refine reads (required_eq_some hpassed (Json.natural?_int h.passed_lt)) ?_
  refine reads (required_eq_some hfailed (Json.natural?_int h.failed_lt)) ?_
  refine reads (required_eq_some hmanual (Json.natural?_int h.manual_lt)) ?_
  exact reads (required_eq_some herror (Json.natural?_int h.error_lt)) rfl

theorem Totals.ofJson?_toJson {totals : Totals} (h : totals.Fits) :
    Totals.ofJson? totals.toJson = some totals := by
  refine reads (Json.fields?_object (by decide) (.refl _)) ?_
  exact Totals.ofFields?_eq_some h rfl rfl rfl rfl

structure RegulationSummary.Fits (summary : RegulationSummary) : Prop where
  totals : summary.totals.Fits
  total_lt : summary.total < wordLimit

theorem RegulationSummary.ofJson?_toJson {summary : RegulationSummary} (h : summary.Fits) :
    RegulationSummary.ofJson? summary.toJson = some summary := by
  refine reads (Json.objectFields?_object (by decide) (.refl _)) ?_
  refine reads (required_eq_some rfl rfl) ?_
  refine reads (Totals.ofFields?_eq_some h.totals rfl rfl rfl rfl) ?_
  refine reads (required_eq_some rfl (Json.natural?_int h.total_lt)) ?_
  refine reads (required_eq_some rfl rfl) ?_
  exact reads (required_eq_some rfl rfl) rfl

theorem ChecklistMeta.ofJson?_toJson {checklist : ChecklistMeta}
    (h : checklist.controlCount < wordLimit) :
    ChecklistMeta.ofJson? checklist.toJson = some checklist := by
  refine reads (Json.fields?_object (by decide) (.refl _)) ?_
  refine reads (required_eq_some rfl rfl) ?_
  refine reads (required_eq_some rfl rfl) ?_
  exact reads (required_eq_some rfl (Json.natural?_int h)) rfl

/-! ## Reports -/

theorem Timestamp.ofJson?_toJson {t : Timestamp} (hfirst : 0 ≤ t.date.year)
    (hlast : t.date.year ≤ 9999) : Timestamp.ofJson? t.toJson = some t := by
  rw [toJson, ofJson?, Json.string?, Option.bind_some]
  exact parse?_text hfirst hlast

/-- All numbers fit into 64 bits, all trees are in canonical form, and the year has four digits. -/
structure Report.Fits (report : Report) : Prop where
  first_year : 1 ≤ report.generatedAt.date.year
  last_year : report.generatedAt.date.year ≤ 9999
  checklist : ∀ checklist ∈ report.checklist, checklist.controlCount < wordLimit
  results : ∀ result ∈ report.results, result.Fits
  totals : report.totals.Fits
  byRegulation : ∀ summary ∈ report.byRegulation, summary.Fits

theorem ChecklistMeta.optional?_toJson {checklist : ChecklistMeta}
    (h : checklist.controlCount < wordLimit) :
    Json.optional? ofJson? checklist.toJson = some (some checklist) := by
  show (ofJson? checklist.toJson).map some = _
  rw [ofJson?_toJson h]
  rfl

theorem Report.ofJson?_toJson {report : Report} (h : report.Fits) :
    Report.ofJson? report.toJson = some report := by
  have htime := Timestamp.ofJson?_toJson (Int.le_trans Int.one_nonneg h.first_year) h.last_year
  have hchecklist := fun checklist hc => ChecklistMeta.optional?_toJson (h.checklist checklist hc)
  have hresults := Json.list?_map fun result hr => Assessment.ofJson?_toJson (h.results result hr)
  have hsummaries := Json.list?_map fun summary hs =>
    RegulationSummary.ofJson?_toJson (h.byRegulation summary hs)
  refine reads (Json.fields?_object (by decide) (map_fst_optionalMember_sublist _)) ?_
  refine reads (required_past_optionalMember (by decide) rfl htime) ?_
  refine reads (withDefault_optionalMember rfl rfl hchecklist) ?_
  refine reads (required_past_optionalMember (by decide) rfl (MatchPolicy.ofJson?_toJson _)) ?_
  refine reads (required_past_optionalMember (by decide) rfl hresults) ?_
  refine reads (required_past_optionalMember (by decide) rfl (Totals.ofJson?_toJson h.totals)) ?_
  refine reads (required_past_optionalMember (by decide) rfl rfl) ?_
  refine reads (required_past_optionalMember (by decide) rfl rfl) ?_
  exact reads (required_past_optionalMember (by decide) rfl hsummaries) rfl

/-- Counts of fewer results than a number of 64 bits can tell. -/
theorem Totals.fits_ofStatuses {statuses : List Status} (h : statuses.length < wordLimit) :
    (ofStatuses statuses).Fits := by
  have hcount (status : Status) : (ofStatuses statuses).count status < wordLimit := by
    rw [count_ofStatuses]
    exact Nat.lt_of_le_of_lt List.count_le_length h
  exact ⟨hcount .passed, hcount .failed, hcount .manual, hcount .error⟩

/-- The numbers that are made for a report fit if those of its results do. -/
theorem Report.fits_ofResults {generatedAt : Timestamp} {checklist : Option ChecklistMeta}
    (matchPolicy : MatchPolicy) {results : List Assessment} (hfirst : 1 ≤ generatedAt.date.year)
    (hlast : generatedAt.date.year ≤ 9999)
    (hchecklist : ∀ source ∈ checklist, source.controlCount < wordLimit)
    (hresults : ∀ result ∈ results, result.Fits) (hlength : results.length < wordLimit) :
    (ofResults generatedAt checklist matchPolicy results).Fits := by
  refine ⟨hfirst, hlast, hchecklist, hresults, ?_, fun summary hs => ?_⟩
  · exact Totals.fits_ofStatuses (by rwa [List.length_map])
  · obtain ⟨-, he⟩ := mem_byRegulation_ofResults generatedAt checklist matchPolicy results hs
    have hown : ((under summary.regulation results).map Assessment.status).length < wordLimit := by
      rw [List.length_map]
      exact Nat.lt_of_le_of_lt (List.length_filter_le _ _) hlength
    rw [he]
    exact ⟨Totals.fits_ofStatuses hown, (Totals.total_ofStatuses _).trans_lt hown⟩

/-! ## Plans -/

theorem RemediationItem.ofJson?_toJson {item : RemediationItem} (h : item.index < wordLimit) :
    RemediationItem.ofJson? item.toJson = some item := by
  refine reads (Json.fields?_object (by decide) (.refl _)) ?_
  refine reads (required_eq_some rfl (Json.natural?_int h)) ?_
  refine reads (required_eq_some rfl rfl) ?_
  refine reads (required_eq_some rfl rfl) ?_
  refine reads (required_eq_some rfl (Priority.ofJson?_toJson _)) ?_
  exact reads (required_eq_some rfl rfl) rfl

/-- **Reading what was written.** The tree that is printed for a report is read as that report, and
the one that is printed for a plan as that plan. -/
theorem json_round_trip :
    (∀ report : Report, report.Fits →
      report.jsonText = report.toJson.pretty ∧ Report.ofJson? report.toJson = some report) ∧
    ∀ items : List RemediationItem, (∀ item ∈ items, item.index < wordLimit) →
      Remediation.jsonText items = (Json.array (items.map RemediationItem.toJson)).pretty ∧
      Json.list? RemediationItem.ofJson? (.array (items.map RemediationItem.toJson)) =
        some items :=
  ⟨fun _ h => ⟨rfl, Report.ofJson?_toJson h⟩,
    fun _ h => ⟨rfl, Json.list?_map fun item hi => RemediationItem.ofJson?_toJson (h item hi)⟩⟩

/-- A report on one control with a rule, and the plan for it. -/
theorem json_round_trip_one_control :
    let rule : Rule :=
      { path := "tags", check := .equals
        expected := .object [("level", .int 1), ("owners", .array [.string "", .null])] }
    let control : Control :=
      { regulation := "RGPD / CNIL", requirement := "Encryption", notes := some ""
        requirements := [{ resourceType := "Microsoft.KeyVault/vaults", rules := [rule] }] }
    let result : Assessment :=
      { index := 0, control, status := .failed, matched := 1
        ruleOutcomes := [⟨"Microsoft.KeyVault/vaults", none, "tags", .equals, false, "missing"⟩]
        requirementOutcomes := [⟨"Microsoft.KeyVault/vaults", false, 1, 0, .nonCompliant⟩] }
    let report := Report.ofResults
      { Timestamp.epoch with nano := 250000000, nano_lt := by decide } none .any [result]
    let items := report.plan {}
    (report.jsonText = report.toJson.pretty ∧ Report.ofJson? report.toJson = some report) ∧
      Remediation.jsonText items = (Json.array (items.map RemediationItem.toJson)).pretty ∧
      Json.list? RemediationItem.ofJson? (.array (items.map RemediationItem.toJson)) =
        some items := by
  intro rule control result report items
  have hkeys : "level" < "owners" := by decide
  have hrule : rule.expected.Canonical := by
    simp only [rule, Json.Canonical, Json.CanonicalMembers, Json.CanonicalItems, List.map_cons,
      List.map_nil, List.pairwise_pair, hkeys, and_self]
  have hresult : result.Fits :=
    { index_lt := by decide
      control := by simpa [Control.Fits, Requirement.Fits, result, control] using hrule
      matched_lt := by decide
      requirementOutcomes := by
        simpa [result] using (⟨by decide, by decide⟩ : RequirementOutcome.Fits ⟨_, _, 1, 0, _⟩) }
  have hreport : report.Fits :=
    Report.fits_ofResults .any (by decide) (by decide) (by simp)
      (fun other ho => List.mem_singleton.mp ho ▸ hresult) (by decide)
  have hitems : items = [Remediation.item {} result] := report.plan_default
  have hindex : ∀ item ∈ items, item.index < wordLimit := by
    intro item hi
    rw [hitems, List.mem_singleton] at hi
    exact hi ▸ by decide
  exact ⟨json_round_trip.1 report hreport, json_round_trip.2 items hindex⟩

end CloudAudit
