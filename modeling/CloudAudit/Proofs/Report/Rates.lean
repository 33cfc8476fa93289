import CloudAudit.Proofs.Report.Permille
import Mathlib.Algebra.Order.Round
import Mathlib.Data.Rat.Floor

/-!
# Rounding of rates

A rate is the floating point number next to the tenth of a whole number, and that is the whole
number next to the thousandfold of the exact share, a half going up, unless the share is at one of
twelve halves (`Totals.rates_rounded`).
-/

namespace CloudAudit

open Number Binary64

/-- The thousandfold of a share. -/
def thousandfold (part whole : Nat) : ℚ := 1000 * part / whole

/-- The halves over a share of one half or a little more, all of which come out too low: their
quotients are rounded down. -/
def Sinks (x : ℚ) : Prop := ∃ k : ℕ, 500 ≤ k ∧ k ≤ 511 ∧ x = k + 1 / 2

/-- The floating point number next to the tenth of a whole number. -/
def IsTenth (n : ℤ) (rate : Binary64) : Prop :=
  ∃ m : ℕ, n = m ∧ ofRatio? false m 10 = some rate

/-- The rate of a part of a whole: the tenth of the whole number next to the thousandfold of the
share, a half going up, except that it goes down from the halves that sink. -/
structure RateOf (part whole : Nat) (rate : Binary64) : Prop where
  of_none : whole = 0 → rate = Binary64.zero
  exact_iff : 0 < whole →
    (IsTenth (round (thousandfold part whole)) rate ↔ ¬Sinks (thousandfold part whole))
  of_sinks : 0 < whole → Sinks (thousandfold part whole) →
    IsTenth (round (thousandfold part whole) - 1) rate

section Share

variable {part whole : Nat}

theorem round_thousandfold_iff (hpos : 0 < whole) (n : ℕ) :
    round (thousandfold part whole) = n ↔
      2 * n * whole ≤ 2000 * part + whole ∧ 2000 * part < (2 * n + 1) * whole := by
  have hpos' : (0 : ℚ) < whole := Nat.cast_pos.mpr hpos
  have hsum : thousandfold part whole + 1 / 2 = (2000 * part + whole) / (2 * whole) := by
    unfold thousandfold
    field_simp
    ring
  rw [round_eq, Int.floor_eq_iff, hsum, le_div_iff₀ (by positivity), div_lt_iff₀ (by positivity),
    ← Nat.cast_le (α := ℚ), ← Nat.cast_lt (α := ℚ)]
  push_cast
  constructor <;> rintro ⟨hlow, hhigh⟩ <;> constructor <;> linarith

theorem thousandfold_eq_half_iff (hpos : 0 < whole) (k : ℕ) :
    thousandfold part whole = k + 1 / 2 ↔ 2000 * part = (2 * k + 1) * whole := by
  have hpos' : (whole : ℚ) ≠ 0 := Nat.cast_ne_zero.mpr hpos.ne'
  unfold thousandfold
  rw [div_eq_iff hpos', ← Nat.cast_inj (R := ℚ)]
  push_cast
  constructor <;> intro h <;> linarith

theorem permille_of_not_sinks (hle : part ≤ whole) (hpos : 0 < whole) (hlt : whole < twoTo 32)
    (hfirm : ¬Sinks (thousandfold part whole)) :
    ∃ n : ℕ, round (thousandfold part whole) = n ∧ permille part whole = some n := by
  have hdouble : 0 < 2 * whole := Nat.mul_pos Nat.two_pos hpos
  have hlow := Nat.div_mul_le_self (2000 * part + whole) (2 * whole)
  have hhigh := Nat.lt_div_mul_add hdouble (a := 2000 * part + whole)
  generalize (2000 * part + whole) / (2 * whole) = n at hlow hhigh
  have hscale : n * (2 * whole) = 2 * n * whole := by rw [Nat.mul_comm 2 n, Nat.mul_assoc]
  have hsucc : (2 * n + 1) * whole = 2 * n * whole + whole := by rw [Nat.add_mul, Nat.one_mul]
  refine ⟨n, (round_thousandfold_iff hpos n).mpr ⟨by omega, by omega⟩, ?_⟩
  -- the share is over the half below the whole number, or at it
  rcases Nat.lt_or_eq_of_le hlow with hbetween | hhalf
  · exact permille_of_between hle hpos hlt (by omega) (by omega)
  obtain ⟨k, rfl⟩ : ∃ k, n = k + 1 := by
    refine Nat.exists_eq_add_one_of_ne_zero ?_
    rintro rfl
    omega
  have hk : 2000 * part = (2 * k + 1) * whole := by linarith
  rw [permille_of_half hk hle hpos hlt, if_neg]
  rintro ⟨hleast, hmost⟩
  exact hfirm ⟨k, hleast, hmost, (thousandfold_eq_half_iff hpos k).mpr hk⟩

theorem permille_of_sinks (hle : part ≤ whole) (hpos : 0 < whole) (hlt : whole < twoTo 32)
    (hsinks : Sinks (thousandfold part whole)) :
    ∃ k : ℕ, 500 ≤ k ∧ k ≤ 511 ∧ round (thousandfold part whole) = (k + 1 : ℕ) ∧
      permille part whole = some k := by
  obtain ⟨k, hleast, hmost, hhalf⟩ := hsinks
  have hk := (thousandfold_eq_half_iff hpos k).mp hhalf
  refine ⟨k, hleast, hmost, (round_thousandfold_iff hpos _).mpr ?_, ?_⟩
  · constructor <;> rw [hk] <;> linarith
  · rw [permille_of_half hk hle hpos hlt, if_pos ⟨hleast, hmost⟩]

theorem exists_ofRatio?_ten {n : Nat} (hn : n ≤ 1000) : ∃ x, ofRatio? false n 10 = some x := by
  have hrank : rankOfRatio n 10 < rankLimit := by
    rcases Nat.eq_zero_or_pos n with rfl | hpos
    · rw [rankOfRatio_zero]
      decide
    rw [lt_rankLimit_iff]
    have hunits : units (rankOfRatio n 10) * 10 ≤ 2 * (n * unitsPerOne) :=
      units_mul_le (by decide) <|
        calc twoTo 52 * 10 ≤ twoTo 56 := by decide
          _ ≤ unitsPerOne := twoTo_le (by decide)
          _ ≤ n * unitsPerOne := Nat.le_mul_of_pos_left _ hpos
    have hmost : n * unitsPerOne ≤ 1000 * unitsPerOne := Nat.mul_le_mul_right _ hn
    calc units (rankOfRatio n 10) ≤ 1000 * unitsPerOne := by omega
      _ < twoTo 1024 * unitsPerOne :=
        Nat.mul_lt_mul_of_pos_right (by decide +kernel) unitsPerOne_pos
  obtain ⟨x, hx, -⟩ := exists_ofRatio? false hrank
  exact ⟨x, hx⟩

theorem isTenth_percentage {n : Nat} (hpos : 0 < whole) (hn : n ≤ 1000)
    (h : permille part whole = some n) : IsTenth n (percentage part whole) := by
  obtain ⟨x, hx⟩ := exists_ofRatio?_ten hn
  refine ⟨n, rfl, ?_⟩
  rw [percentage, if_neg hpos.ne', h, Option.bind_some, hx, Option.getD_some]

theorem not_isTenth_succ {k : Nat} {rate : Binary64} (hleast : 500 ≤ k) (hmost : k ≤ 511)
    (h : IsTenth k rate) : ¬IsTenth (k + 1 : ℕ) rate := by
  have hdistinct : ∀ k ∈ List.range' 500 12, ofRatio? false k 10 ≠ ofRatio? false (k + 1) 10 := by
    decide +kernel
  rintro ⟨m', hm', hrate'⟩
  obtain ⟨m, hm, hrate⟩ := h
  rw [← Nat.cast_inj.mp hm] at hrate
  rw [← Nat.cast_inj.mp hm'] at hrate'
  exact hdistinct k (List.mem_range'_1.mpr ⟨hleast, by omega⟩) (hrate.trans hrate'.symm)

theorem rateOf_percentage (hle : part ≤ whole) (hlt : whole < twoTo 32) :
    RateOf part whole (percentage part whole) where
  of_none h := by rw [percentage, if_pos h]
  exact_iff hpos := by
    constructor
    · intro htenth hsinks
      obtain ⟨k, hleast, hmost, hround, hk⟩ := permille_of_sinks hle hpos hlt hsinks
      rw [hround] at htenth
      exact not_isTenth_succ hleast hmost (isTenth_percentage hpos (by omega) hk) htenth
    · intro hfirm
      obtain ⟨n, hround, hn⟩ := permille_of_not_sinks hle hpos hlt hfirm
      rw [hround]
      have hlow := ((round_thousandfold_iff hpos n).mp hround).1
      have hmost : 2 * n * whole ≤ 2001 * whole := by omega
      have := Nat.le_of_mul_le_mul_right hmost hpos
      exact isTenth_percentage hpos (by omega) hn
  of_sinks hpos hsinks := by
    obtain ⟨k, hleast, hmost, hround, hk⟩ := permille_of_sinks hle hpos hlt hsinks
    rw [hround, Nat.cast_succ, add_sub_cancel_right]
    exact isTenth_percentage hpos (by omega) hk

end Share

/-- **Rates are rounded to one decimal, except at twelve halves.** -/
theorem Totals.rates_rounded (totals : Totals) (h : totals.total < twoTo 32) :
    RateOf totals.passed totals.total totals.rate ∧
      RateOf totals.passed (totals.passed + totals.failed) totals.assessedRate := by
  have hle : totals.passed + totals.failed ≤ totals.total := by
    unfold Totals.total
    omega
  exact ⟨rateOf_percentage ((Nat.le_add_right _ _).trans hle) h,
    rateOf_percentage (Nat.le_add_right _ _) (hle.trans_lt h)⟩

/-! A share of 50.05 %. -/

namespace JustOverHalf

def totals : Totals := { passed := 1001, failed := 999 }

/-- Both rates are 50.0. -/
theorem rates_of_totals :
    totals.total < twoTo 32 ∧ Sinks (thousandfold 1001 2000) ∧
      IsTenth 500 totals.rate ∧ IsTenth 500 totals.assessedRate := by
  have hbound : totals.total < twoTo 32 := by decide
  have hsinks : Sinks (thousandfold 1001 2000) :=
    ⟨500, le_rfl, by decide, (thousandfold_eq_half_iff (by decide) 500).mpr rfl⟩
  have hround : round (thousandfold 1001 2000) = (501 : ℕ) :=
    (round_thousandfold_iff (by decide) 501).mpr ⟨by decide, by decide⟩
  obtain ⟨hrate, hassessed⟩ := Totals.rates_rounded totals hbound
  have hbelow := hrate.of_sinks (by decide) hsinks
  have hbelow' := hassessed.of_sinks (by decide) hsinks
  rw [show totals.passed = 1001 from rfl, show totals.total = 2000 from rfl, hround] at hbelow
  rw [show totals.passed = 1001 from rfl, show totals.failed = 999 from rfl, hround] at hbelow'
  exact ⟨hbound, hsinks, hbelow, hbelow'⟩

/-- The whole number next to the thousandfold, a half going up, is 501. -/
theorem rate_of_wrong_tenth :
    round (thousandfold totals.passed totals.total) = 501 ∧ ¬IsTenth 501 totals.rate := by
  refine ⟨(round_thousandfold_iff (by decide) 501).mpr ⟨by decide, by decide⟩, ?_⟩
  have hrate : IsTenth (500 : ℕ) totals.rate :=
    isTenth_percentage (by decide) (by decide) <|
      permille_of_half (k := 500) (by decide) (by decide) (by decide) (by decide)
  exact not_isTenth_succ le_rfl (by decide) hrate

end JustOverHalf

end CloudAudit
