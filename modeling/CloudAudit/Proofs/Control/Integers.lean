import CloudAudit.Proofs.Control.Ordering
import CloudAudit.Proofs.Number.Numeral

/-!
# Comparisons of whole numbers

Whole numbers of up to 64 bits are compared after rounding to 53 binary digits, also when one of
them is written as a text (`Check.integers_compared`). So no comparison is ever the wrong way round,
and all of them are exact unless two different numbers have one rounded value, as `2 ^ 53` and
`2 ^ 53 + 1` do (`Neighbours.equals_of_different`).
-/

namespace CloudAudit

open Number

namespace Check

/-- A whole number of up to 64 bits, with or without a sign. -/
def FitsWord (n : Int) : Prop := -(twoTo 63 : Int) ≤ n ∧ n < twoTo 64

theorem FitsWord.natAbs_lt {n : Int} (h : FitsWord n) : n.natAbs < wordLimit := by
  obtain ⟨hleast, hmost⟩ := h
  have hlimit : wordLimit = twoTo 64 := rfl
  have hdouble : twoTo 64 = 2 * twoTo 63 := rfl
  omega

/-- The value found and the value expected in a comparison of two whole numbers: two numbers, or a
number and the text of the digits of the other one. -/
inductive Written (a b : Int) : Json → Json → Prop where
  | numbers : Written a b (.int a) (.int b)
  | foundAsText : Written a b (.string (toString a)) (.int b)
  | expectedAsText : Written a b (.int a) (.string (toString b))

/-- The comparisons tell the two numbers apart, and which of them is greater. -/
structure Exact (a b : Int) (passes : Check → Prop) : Prop where
  equals_iff : passes equals ↔ a = b
  greaterThan_iff : passes greaterThan ↔ b < a
  greaterThanOrEqual_iff : passes greaterThanOrEqual ↔ b ≤ a

/-- The comparisons are those of the rounded numbers. -/
structure Rounded (a b : Int) (passes : Check → Prop) : Prop where
  equals_iff : passes equals ↔ nearestInt a = nearestInt b
  greaterThan_iff : passes greaterThan ↔ nearestInt b < nearestInt a
  greaterThanOrEqual_iff : passes greaterThanOrEqual ↔ nearestInt b ≤ nearestInt a
  exact_iff : Exact a b passes ↔ (nearestInt a = nearestInt b → a = b)
  exact_of_small : a.natAbs < twoTo 53 ∨ b.natAbs < twoTo 53 → Exact a b passes
  exact_of_rounded : nearestInt a = a → nearestInt b = b → Exact a b passes
  lt_of_greaterThan : passes greaterThan → b < a
  greaterThanOrEqual_of_le : b ≤ a → passes greaterThanOrEqual

variable {a b : Int}

/-- A number of fewer than 53 binary digits shares its rounded value with no other number. -/
theorem eq_of_nearestInt_eq (ha : a.natAbs < twoTo 53) (h : nearestInt a = nearestInt b) :
    a = b := by
  have hself : nearestInt a = a := nearestInt_of_le ha.le
  rw [hself] at h
  rcases Nat.lt_or_ge (twoTo 53) b.natAbs with hlarge | hsmall
  · -- rounding does not bring a larger number back below `2 ^ 53`
    have htop : nearestInt (twoTo 53) = twoTo 53 := nearestInt_of_le le_rfl
    have hbottom : nearestInt (-(twoTo 53 : Int)) = -(twoTo 53 : Int) :=
      nearestInt_of_le (Int.natAbs_neg _).le
    rcases lt_or_ge b 0 with hneg | hpos
    · have hmono := nearestInt_mono (show b ≤ -(twoTo 53 : Int) by omega)
      omega
    · have hmono := nearestInt_mono (show (twoTo 53 : Int) ≤ b by omega)
      omega
  · rw [h]
    exact nearestInt_of_le hsmall

theorem Rounded.of_iffs {passes : Check → Prop}
    (hequals : passes equals ↔ nearestInt a = nearestInt b)
    (hgreater : passes greaterThan ↔ nearestInt b < nearestInt a)
    (horder : passes greaterThanOrEqual ↔ nearestInt b ≤ nearestInt a) : Rounded a b passes := by
  have hab : a ≤ b → nearestInt a ≤ nearestInt b := nearestInt_mono
  have hba : b ≤ a → nearestInt b ≤ nearestInt a := nearestInt_mono
  have hexact : Exact a b passes ↔ (nearestInt a = nearestInt b → a = b) := by
    constructor
    · intro h heq
      exact h.equals_iff.mp (hequals.mpr heq)
    · intro h
      refine ⟨hequals.trans ⟨h, congrArg nearestInt⟩, hgreater.trans ?_, horder.trans ?_⟩
      · omega
      · omega
  refine ⟨hequals, hgreater, horder, hexact, ?_, ?_, ?_, fun h => horder.mpr (hba h)⟩
  · rintro (ha | hb)
    · exact hexact.mpr (eq_of_nearestInt_eq ha)
    · exact hexact.mpr fun h => (eq_of_nearestInt_eq hb h.symm).symm
  · intro ha hb
    rw [hexact, ha, hb]
    exact id
  · intro h
    have hlt := hgreater.mp h
    omega

/-! ## Numbers and texts of numbers -/

theorem numberInText?_toString {n : Int} (h : FitsWord n) :
    numberInText? (toString n) = some (Extended.ofInt n) := by
  rw [numberInText?, Text.trimChars_of_not_blank fun c hc => isBlank_of_mem_toString hc,
    readExtended?_toString h.natAbs_lt]

namespace Written

variable {actual expected : Json} (ha : FitsWord a) (hb : FitsWord b)
  (h : Written a b actual expected)

include ha h in
theorem numeric?_found : actual.numeric? = some (Extended.ofInt a) := by
  cases h with
  | foundAsText => exact numberInText?_toString ha
  | _ => rfl

include hb h in
theorem numeric?_expected : expected.numeric? = some (Extended.ofInt b) := by
  cases h with
  | expectedAsText => exact numberInText?_toString hb
  | _ => rfl

include ha hb h in
theorem agrees_iff :
    actual.agrees expected = true ↔ (Extended.ofInt a).same (Extended.ofInt b) = true := by
  have hfound := h.numeric?_found ha
  have hexpected := h.numeric?_expected hb
  cases h with
  | expectedAsText =>
    -- the number is on the other side
    rw [Json.agrees_comm, Json.agrees_iff_of_number? (e := .int a) rfl, hexpected,
      Extended.same_comm]
    simp
  | numbers | foundAsText =>
    rw [Json.agrees_iff_of_number? (e := .int b) rfl, hfound]
    simp

end Written

/-- **Whole numbers are compared after rounding.** -/
theorem integers_compared (ha : FitsWord a) (hb : FitsWord b) {actual expected : Json}
    (hwritten : Written a b actual expected) {path : String} {resource : Json}
    (hfound : Resource.resolve? resource path = some actual) :
    Rounded a b fun check =>
      ((⟨path, check, expected⟩ : Rule).evaluate resource).passed = true := by
  have hactual := hwritten.numeric?_found ha
  have hexpected := hwritten.numeric?_expected hb
  have hsmall := ha.natAbs_lt
  have hsmall' := hb.natAbs_lt
  refine Rounded.of_iffs ?_ ?_ ?_
  · rw [evaluate_passed_of_found hfound, ← Extended.same_ofInt_iff hsmall hsmall']
    exact hwritten.agrees_iff ha hb
  · rw [evaluate_passed_of_found hfound, ← Extended.greater_ofInt_iff hsmall hsmall']
    show holdsOrder Extended.greater actual expected = true ↔ _
    rw [holdsOrder_iff hexpected, hactual]
    simp
  · rw [evaluate_passed_of_found hfound, ← Extended.greaterOrSame_ofInt_iff hsmall hsmall']
    show holdsOrder Extended.greaterOrSame actual expected = true ↔ _
    rw [holdsOrder_iff hexpected, hactual]
    simp

end Check

namespace Neighbours

/-- Two whole numbers with one rounded value. -/
def smaller : Int := twoTo 53

def greater : Int := twoTo 53 + 1

def resource : Json := .object [("p", .int smaller)]

theorem compared_neighbours : Check.FitsWord smaller ∧ Check.FitsWord greater ∧
    Resource.resolve? resource "p" = some (.int smaller) ∧
    Check.Rounded smaller greater fun check =>
      ((⟨"p", check, .string (toString greater)⟩ : Rule).evaluate resource).passed = true :=
  have hsmaller : Check.FitsWord smaller := ⟨by decide, by decide⟩
  have hgreater : Check.FitsWord greater := ⟨by decide, by decide⟩
  have hfound : Resource.resolve? resource "p" = some (.int smaller) := rfl
  ⟨hsmaller, hgreater, hfound,
    Check.integers_compared hsmaller hgreater .expectedAsText hfound⟩

/-- The evidence itself shows two different numbers. -/
theorem equals_of_different : smaller ≠ greater ∧
    (⟨"p", .equals, .int greater⟩ : Rule).evaluate resource =
      ⟨true, "p = 9007199254740992, expected equals 9007199254740993, passed"⟩ := by
  decide +kernel

end Neighbours

end CloudAudit
