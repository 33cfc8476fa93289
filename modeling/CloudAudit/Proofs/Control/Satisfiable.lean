import CloudAudit.Proofs.Checklist.Loading
import CloudAudit.Proofs.Control.Ordering
import CloudAudit.Proofs.Resource.Path

/-!
# Checks that can pass

An expected value of the kind that a check asks for leaves room for a value that passes, but for
three cases: a comparison of order with the result of no comparison, a comparison that infinity
would have to be below, and a list without scalars one of which has to be met (`Check.Barren`).
What passes is then found at any path of some resource (`Rule.exists_passed_iff`).
-/

namespace CloudAudit

open Number

theorem Number.Binary64.key_lt_rankLimit (x : Binary64) : x.key < rankLimit := by
  have hlt := x.rank_lt
  unfold key
  split <;> omega

namespace Number.Extended

/-- Infinity is above every other value in the order, and nothing is above it. -/
theorem exists_greater_iff (y : Extended) :
    (∃ x : Extended, x.greater y = true) ↔ y ≠ nan ∧ y ≠ infinite false := by
  constructor
  · rintro ⟨x, h⟩
    refine ⟨?_, ?_⟩
    · rintro rfl
      cases x <;> exact nomatch h
    · rintro rfl
      cases x with
      | nan => exact nomatch h
      | infinite negative => cases negative <;> exact nomatch h
      | finite x =>
        have hkey : rankLimit < x.key := of_decide_eq_true h
        exact lt_asymm hkey x.key_lt_rankLimit
  · rintro ⟨hnan, hinfinite⟩
    refine ⟨infinite false, ?_⟩
    cases y with
    | nan => exact absurd rfl hnan
    | infinite negative =>
      cases negative with
      | false => exact absurd rfl hinfinite
      | true => rfl
    | finite y => exact decide_eq_true y.key_lt_rankLimit

theorem exists_greaterOrSame_iff (y : Extended) :
    (∃ x : Extended, x.greaterOrSame y = true) ↔ y ≠ nan := by
  constructor
  · rintro ⟨x, h⟩ rfl
    cases x <;> exact nomatch h
  · intro hnan
    refine ⟨y, (greaterOrSame_iff y y).mpr (.inr ?_)⟩
    cases y with
    | nan => exact absurd rfl hnan
    | finite | infinite => exact same_self_of_key? rfl

end Number.Extended

namespace Json

/-- Every number belongs to some value: the infinities and the result of no comparison to texts. -/
theorem exists_numeric?_eq (x : Extended) : ∃ j : Json, j.numeric? = some x := by
  cases x with
  | finite x => exact ⟨.float x, rfl⟩
  | infinite negative =>
    cases negative with
    | false => exact ⟨.string "inf", by decide +kernel⟩
    | true => exact ⟨.string "-inf", by decide +kernel⟩
  | nan => exact ⟨.string "nan", by decide +kernel⟩

end Json

namespace Check

variable {check : Check} {expected : Json}

/-- The expected values that no value whatever passes the check against. -/
def Barren : Check → Json → Prop
  | greaterThan, expected =>
    expected.numeric? = some .nan ∨ expected.numeric? = some (.infinite false)
  | greaterThanOrEqual, expected => expected.numeric? = some .nan
  | oneOf, expected => ∀ item ∈ candidates expected, ¬ item.IsScalar
  | present, _ | equals, _ | contains, _ | containsAny, _ => False

theorem exists_holdsOrder_iff {y : Extended} (he : expected.numeric? = some y)
    (test : Extended → Extended → Bool) :
    (∃ actual, holdsOrder test actual expected = true) ↔ ∃ x, test x y = true := by
  simp only [holdsOrder_iff he]
  constructor
  · rintro ⟨actual, x, -, h⟩
    exact ⟨x, h⟩
  · rintro ⟨x, h⟩
    obtain ⟨actual, hactual⟩ := Json.exists_numeric?_eq x
    exact ⟨actual, x, hactual, h⟩

theorem exists_oneOf_iff :
    (∃ actual, oneOf.holds actual expected = true) ↔
      ∃ item ∈ candidates expected, item.IsScalar := by
  constructor
  · rintro ⟨actual, h⟩
    obtain ⟨hscalar, hany⟩ := (Bool.and_eq_true _ _).mp h
    obtain ⟨item, hitem, hagrees⟩ := List.any_eq_true.mp hany
    exact ⟨item, hitem,
      (Json.isScalar_iff_of_agrees hagrees).mp ((Json.isSome_scalar?_iff actual).mp hscalar)⟩
  · rintro ⟨item, hitem, hscalar⟩
    exact ⟨item, (Bool.and_eq_true _ _).mpr ⟨(Json.isSome_scalar?_iff item).mpr hscalar,
      List.any_eq_true.mpr ⟨item, hitem, Json.agrees_self item⟩⟩⟩

theorem exists_numeric?_of_suits (h : greaterThan.Suits expected) :
    ∃ y, expected.numeric? = some y := by
  obtain ⟨n, rfl⟩ | ⟨x, rfl⟩ | ⟨s, rfl, hs⟩ := h
  · exact ⟨_, rfl⟩
  · exact ⟨_, rfl⟩
  · exact Option.isSome_iff_exists.mp hs

/-- A list with the value as its only item contains the value. -/
theorem holdsContains_singleton (value : Json) : holdsContains (.array [value]) value = true :=
  List.any_eq_true.mpr ⟨value, List.mem_singleton_self value, Json.agrees_self value⟩

theorem exists_holds_iff (h : check.Suits expected) :
    (∃ actual, check.holds actual expected = true) ↔ ¬ check.Barren expected := by
  cases check with
  | present => exact iff_of_true ⟨.null, rfl⟩ id
  | equals => exact iff_of_true ⟨expected, Json.agrees_self expected⟩ id
  | contains => exact iff_of_true ⟨.array [expected], holdsContains_singleton expected⟩ id
  | containsAny =>
    obtain ⟨items, rfl, hitems⟩ := h
    obtain ⟨item, hitem⟩ := List.exists_mem_of_ne_nil items hitems
    have hany := List.any_eq_true.mpr ⟨item, hitem, holdsContains_singleton item⟩
    exact iff_of_true ⟨.array [item], hany⟩ id
  | greaterThan =>
    obtain ⟨y, hy⟩ := exists_numeric?_of_suits h
    show (∃ actual, holdsOrder Extended.greater actual expected = true) ↔ _
    rw [exists_holdsOrder_iff hy, Extended.exists_greater_iff, Barren, hy, not_or,
      Option.some_inj, Option.some_inj]
  | greaterThanOrEqual =>
    obtain ⟨y, hy⟩ := exists_numeric?_of_suits h
    show (∃ actual, holdsOrder Extended.greaterOrSame actual expected = true) ↔ _
    rw [exists_holdsOrder_iff hy, Extended.exists_greaterOrSame_iff, Barren, hy, Option.some_inj]
  | oneOf => simp [exists_oneOf_iff, Barren]

end Check

/-- What passes the check is at the path of some resource. -/
theorem Rule.exists_passed_iff (rule : Rule) :
    (∃ resource, (rule.evaluate resource).passed = true) ↔
      ∃ actual, rule.check.holds actual rule.expected = true := by
  constructor
  · rintro ⟨resource, h⟩
    rw [evaluate_passed] at h
    unfold holds passesOn at h
    split at h
    next actual _ => exact ⟨actual, h⟩
    · exact nomatch h
  · rintro ⟨actual, h⟩
    have hfound := Resource.resolve?_holding rule.path actual
    exact ⟨Resource.holding rule.path actual, by rwa [Check.evaluate_passed_of_found hfound]⟩

end CloudAudit
