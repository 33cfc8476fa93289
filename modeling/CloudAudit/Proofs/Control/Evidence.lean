import CloudAudit.Control.Evaluation
import CloudAudit.Proofs.Json.Lines

/-!
# Lines of evidence

The explanation of an outcome goes on in one line just when its path, the value found and the value
expected do (`Rule.evidence_in_one_line_iff`). A string with a line break does not, since it is
shown as it is (`TwoLines.broken_evidence`).
-/

namespace CloudAudit

open Text

theorem Check.lacks_name (check : Check) : Lacks isLineBreak check.name := by
  cases check <;> decide

namespace Rule

theorem lacks_found_iff (rule : Rule) (found : Option Json) :
    Lacks isLineBreak (match found with
      | some value => rule.path ++ " = " ++ value.display
      | none => rule.path ++ " not found") ↔
      Lacks isLineBreak rule.path ∧ ∀ value, found = some value → value.ShownInOneLine := by
  cases found with
  | none =>
    have hmissing : Lacks isLineBreak " not found" := by decide
    simp [lacks_append_iff, hmissing]
  | some value =>
    have hequals : Lacks isLineBreak " = " := by decide
    simp [lacks_append_iff, hequals, Json.lacks_display_iff]

theorem lacks_expected_iff (rule : Rule) :
    Lacks isLineBreak (if rule.check.needsExpected then
      "expected " ++ rule.check.name ++ " " ++ rule.expected.display
      else "expected " ++ rule.check.name) ↔
      (rule.check.needsExpected = true → rule.expected.ShownInOneLine) := by
  have hexpected : Lacks isLineBreak "expected " := by decide
  have hblank : Lacks isLineBreak " " := by decide
  have hname := rule.check.lacks_name
  split
  · next h => simp [lacks_append_iff, hexpected, hblank, hname, h, Json.lacks_display_iff]
  · next h => simp [lacks_append_iff, hexpected, hname, h]

/-- **When evidence is one line.** -/
theorem evidence_in_one_line_iff (rule : Rule) (resource : Json) :
    Lacks isLineBreak (rule.evaluate resource).explanation ↔
      Lacks isLineBreak rule.path ∧
        (∀ found, Resource.resolve? resource rule.path = some found → found.ShownInOneLine) ∧
        (rule.check.needsExpected = true → rule.expected.ShownInOneLine) := by
  have hcomma : Lacks isLineBreak ", " := by decide
  have hverdict (passed : Bool) : Lacks isLineBreak (if passed then "passed" else "failed") := by
    cases passed <;> decide
  unfold evaluate explain
  dsimp only
  rw [lacks_append_iff, lacks_append_iff, lacks_append_iff, lacks_append_iff,
    and_iff_left (hverdict _), and_iff_left hcomma, and_iff_left hcomma, ← and_assoc]
  exact and_congr (rule.lacks_found_iff _) rule.lacks_expected_iff

end Rule

namespace TwoLines

/-- A string with a line break in it, found where any value will do. -/
def resource : Json := .object [("p", .string "a\nb")]

theorem broken_evidence : Lacks isLineBreak "p" ∧
    ((⟨"p", .present, .null⟩ : Rule).evaluate resource).explanation =
      "p = a\nb, expected exists, passed" ∧
    ¬ Lacks isLineBreak ((⟨"p", .present, .null⟩ : Rule).evaluate resource).explanation := by
  decide +kernel

end TwoLines

end CloudAudit
