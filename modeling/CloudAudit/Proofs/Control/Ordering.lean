import CloudAudit.Proofs.Control.Equality

/-!
# Comparisons with a number

Equality with a number and the two comparisons of order read the value found in the same way: as the
number that it is, or that its text spells. So one comparison of order is the other or equality, and
all of them fail for a value without a number (`Check.comparisons_consistent`).
-/

namespace CloudAudit

open Number

namespace Number.Extended

theorem greaterOrSame_iff (x y : Extended) :
    x.greaterOrSame y = true ↔ x.greater y = true ∨ x.same y = true := by
  unfold greaterOrSame greater same compareBy
  cases x.key? <;> cases y.key? <;> simp
  omega

theorem not_greater_and_same (x y : Extended) : ¬ (x.greater y = true ∧ x.same y = true) := by
  unfold greater same compareBy
  cases x.key? <;> cases y.key? <;> simp
  omega

end Number.Extended

namespace Json

variable {a e : Json} {y : Extended}

theorem exists_number?_of_isNumber (he : e.IsNumber) : ∃ y, e.number? = some y := by
  cases e with
  | int | float => exact ⟨_, rfl⟩
  | _ => exact he.elim

theorem scalar?_of_number? (he : e.number? = some y) : e.scalar? = some (.number y) := by
  cases e with
  | int | float => exact congrArg (Option.map Scalar.number) he
  | _ => exact nomatch he

theorem isScalar_of_number? (he : e.number? = some y) : e.IsScalar := by
  rw [← isSome_scalar?_iff, scalar?_of_number? he]
  rfl

theorem numeric?_of_number? (he : e.number? = some y) : e.numeric? = some y := by
  cases e with
  | int | float => exact he
  | _ => exact nomatch he

/-- A value has a number when it is one or its text spells one. -/
theorem numeric?_eq_none_iff (a : Json) :
    a.numeric? = none ↔ ¬ a.IsNumber ∧ ∀ s, a = .string s → numberInText? s = none := by
  cases a <;> simp [numeric?, number?, IsNumber]

/-- A value agrees with a number when it has that number. -/
theorem agrees_iff_of_number? (he : e.number? = some y) :
    a.agrees e = true ↔ ∃ x, a.numeric? = some x ∧ x.same y = true := by
  have hscalar := scalar?_of_number? he
  cases a with
  | array | object =>
    rw [agrees_comm, agrees_eq_false_of_isScalar (isScalar_of_number? he) id]
    simp [numeric?, number?]
  | string s =>
    rw [agrees_of_scalar? rfl hscalar, Scalar.agrees, Scalar.textIsNumber, numeric?]
    cases numberInText? s <;> simp
  | _ =>
    rw [agrees_of_scalar? rfl hscalar]
    simp [Scalar.agrees, numeric?, number?]

end Json

namespace Check

variable {a e : Json} {y : Extended}

theorem holdsOrder_iff (he : e.numeric? = some y) (test : Extended → Extended → Bool) :
    holdsOrder test a e = true ↔ ∃ x, a.numeric? = some x ∧ test x y = true := by
  unfold holdsOrder
  rw [he]
  cases a.numeric? <;> simp

/-- How the comparisons of one value with one number go together. -/
structure Consistent (a : Json) (passes : Check → Prop) : Prop where
  greaterThanOrEqual_iff : passes greaterThanOrEqual ↔ passes greaterThan ∨ passes equals
  exclusive : ¬ (passes greaterThan ∧ passes equals)
  numberless : ¬ a.IsNumber → (∀ s, a = .string s → numberInText? s = none) →
    ¬ passes equals ∧ ¬ passes greaterThan ∧ ¬ passes greaterThanOrEqual

/-- **The comparisons of order are consistent with equality.** -/
theorem comparisons_consistent {e : Json} (he : e.IsNumber) {path : String} {resource a : Json}
    (hfound : Resource.resolve? resource path = some a) :
    Consistent a fun check => ((⟨path, check, e⟩ : Rule).evaluate resource).passed = true := by
  obtain ⟨y, hy⟩ := Json.exists_number?_of_isNumber he
  have hequals : ((⟨path, equals, e⟩ : Rule).evaluate resource).passed = true ↔
      ∃ x, a.numeric? = some x ∧ x.same y = true := by
    rw [evaluate_passed_of_found hfound]
    exact Json.agrees_iff_of_number? hy
  have hgreater : ((⟨path, greaterThan, e⟩ : Rule).evaluate resource).passed = true ↔
      ∃ x, a.numeric? = some x ∧ x.greater y = true := by
    rw [evaluate_passed_of_found hfound]
    exact holdsOrder_iff (Json.numeric?_of_number? hy) _
  have horder : ((⟨path, greaterThanOrEqual, e⟩ : Rule).evaluate resource).passed = true ↔
      ∃ x, a.numeric? = some x ∧ x.greaterOrSame y = true := by
    rw [evaluate_passed_of_found hfound]
    exact holdsOrder_iff (Json.numeric?_of_number? hy) _
  refine ⟨?_, ?_, ?_⟩
  · rw [horder, hgreater, hequals, ← exists_or]
    simp only [Extended.greaterOrSame_iff, and_or_left]
  · rw [hgreater, hequals]
    rintro ⟨⟨x, hx, hgreater⟩, z, hz, hsame⟩
    obtain rfl : x = z := Option.some.inj (hx.symm.trans hz)
    exact Extended.not_greater_and_same x y ⟨hgreater, hsame⟩
  · intro hnumber htext
    have hnone := (Json.numeric?_eq_none_iff a).mpr ⟨hnumber, htext⟩
    rw [hequals, hgreater, horder, hnone]
    simp

/-- A text with blanks around the number that it spells. -/
theorem consistent_retention : (Json.int 30).IsNumber ∧
    Resource.resolve? (.object [("days", .string " 365 ")]) "days" = some (.string " 365 ") ∧
    Consistent (.string " 365 ") fun check => ((⟨"days", check, .int 30⟩ : Rule).evaluate
      (.object [("days", .string " 365 ")])).passed = true :=
  have hnumber : (Json.int 30).IsNumber := trivial
  have hfound : Resource.resolve? (.object [("days", .string " 365 ")]) "days" =
    some (.string " 365 ") := rfl
  ⟨hnumber, hfound, comparisons_consistent hnumber hfound⟩

end Check

end CloudAudit
