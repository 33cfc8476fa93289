import CloudAudit.Proofs.Number.Quotient
import CloudAudit.Report.Totals
import Mathlib.Tactic.IntervalCases
import Mathlib.Tactic.Linarith
import Mathlib.Tactic.Ring

/-!
# Shares in thousandths

A share is rounded three times: to a floating point quotient, its product with a thousand to a
floating point number, and that to a whole number, a half going up. The first two together are off
by at most one part in `2 ^ 51` (`product_near`). A whole below `2 ^ 32` has no share that close to
a half unless it is at the half, so every other share comes out right (`permille_of_between`).

At a half it matters whether the steps of the product are finer than a thousand steps of the
quotient. Where they are coarser, the product is the half itself (`product_of_coarse`). Where they
are finer, the share is one of twenty-five fractions (`mem_closeHalves`), and the twelve of them
that are just over one half come out too low (`permille_of_half`).
-/

namespace CloudAudit

open Number Binary64

/-! ## The two roundings of a share -/

/-- The floating point quotient, in units. -/
def quotientUnits (part whole : Nat) : Nat := units (rankOfRatio part whole)

/-- The floating point product of the quotient with a thousand, in units. -/
def productUnits (part whole : Nat) : Nat :=
  units (rankOfRatio (quotientUnits part whole * 1000) unitsPerOne)

theorem quotientUnits_zero (whole : Nat) : quotientUnits 0 whole = 0 := by
  rw [quotientUnits, rankOfRatio_zero]
  rfl

theorem productUnits_zero (whole : Nat) : productUnits 0 whole = 0 := by
  rw [productUnits, quotientUnits_zero, Nat.zero_mul, rankOfRatio_zero]
  rfl

/-- Equal quotients have equal products. -/
theorem productUnits_congr {part whole other base : Nat} (hw : 0 < whole) (hb : 0 < base)
    (h : part * base = other * whole) : productUnits part whole = productUnits other base := by
  unfold productUnits quotientUnits
  rw [rankOfRatio_congr hw hb h]

section Share

variable {part whole : Nat}

theorem twoTo_mul_le_part (hpart : 0 < part) (hlt : whole < twoTo 32) :
    twoTo 52 * whole ≤ part * unitsPerOne :=
  calc twoTo 52 * whole ≤ twoTo 52 * twoTo 32 := Nat.mul_le_mul_left _ hlt.le
    _ ≤ unitsPerOne := by
      rw [← twoTo_add]
      exact twoTo_le (by decide)
    _ ≤ part * unitsPerOne := Nat.le_mul_of_pos_left _ hpart

theorem exists_quotient (hpart : 0 < part) (hle : part ≤ whole) (hlt : whole < twoTo 32) :
    ∃ significand shift, quotientUnits part whole = significand * twoTo shift ∧
      NearQuotient (part * unitsPerOne) whole significand shift :=
  exists_nearQuotient (hpart.trans_le hle) (twoTo_mul_le_part hpart hlt)

theorem twoTo_mul_le_quotient (hpart : 0 < part) (hle : part ≤ whole) (hlt : whole < twoTo 32) :
    twoTo 52 * unitsPerOne ≤ quotientUnits part whole * 1000 * unitsPerOne := by
  obtain ⟨m, s, hvalue, hnear⟩ := exists_quotient hpart hle hlt
  refine Nat.mul_le_mul_right unitsPerOne ?_
  calc twoTo 52 ≤ m := hnear.least
    _ ≤ m * twoTo s := Nat.le_mul_of_pos_right _ (twoTo_pos s)
    _ ≤ quotientUnits part whole * 1000 := hvalue ▸ Nat.le_mul_of_pos_right _ (by decide)

theorem exists_product (hpart : 0 < part) (hle : part ≤ whole) (hlt : whole < twoTo 32) :
    ∃ significand shift, productUnits part whole = significand * twoTo shift ∧
      NearQuotient (quotientUnits part whole * 1000) 1 significand shift := by
  obtain ⟨m, s, hvalue, hnear⟩ :=
    exists_nearQuotient unitsPerOne_pos (twoTo_mul_le_quotient hpart hle hlt)
  refine ⟨m, s, hvalue, .of_mul_right unitsPerOne_pos ?_⟩
  rwa [Nat.one_mul]

theorem quotientUnits_le (hle : part ≤ whole) (hpos : 0 < whole) (hlt : whole < twoTo 32) :
    quotientUnits part whole ≤ 2 * unitsPerOne := by
  rcases Nat.eq_zero_or_pos part with rfl | hpart
  · rw [quotientUnits_zero]
    exact Nat.zero_le _
  refine Nat.le_of_mul_le_mul_right ?_ hpos
  calc quotientUnits part whole * whole ≤ 2 * (part * unitsPerOne) :=
        units_mul_le hpos (twoTo_mul_le_part hpart hlt)
    _ ≤ 2 * (whole * unitsPerOne) := Nat.mul_le_mul_left _ (Nat.mul_le_mul_right _ hle)
    _ = 2 * unitsPerOne * whole := by rw [Nat.mul_comm whole, Nat.mul_assoc]

theorem productUnits_le (hle : part ≤ whole) (hpos : 0 < whole) (hlt : whole < twoTo 32) :
    productUnits part whole ≤ 4000 * unitsPerOne := by
  rcases Nat.eq_zero_or_pos part with rfl | hpart
  · rw [productUnits_zero]
    exact Nat.zero_le _
  refine Nat.le_of_mul_le_mul_right ?_ unitsPerOne_pos
  have hquotient := quotientUnits_le hle hpos hlt
  calc productUnits part whole * unitsPerOne
      ≤ 2 * (quotientUnits part whole * 1000 * unitsPerOne) :=
        units_mul_le unitsPerOne_pos (twoTo_mul_le_quotient hpart hle hlt)
    _ = 2 * (quotientUnits part whole * 1000) * unitsPerOne := (Nat.mul_assoc _ _ _).symm
    _ ≤ 4000 * unitsPerOne * unitsPerOne := Nat.mul_le_mul_right _ (by omega)

theorem permille_eq_bind (part whole : Nat) :
    permille part whole =
      (ofRatio? false part 1).bind fun p => (ofRatio? false whole 1).bind fun w =>
        (ofRatio? false p.magnitude w.magnitude).bind fun quotient =>
          (ofRatio? false (quotient.magnitude * 1000) unitsPerOne).bind fun product =>
            some ((2 * product.magnitude + unitsPerOne) / (2 * unitsPerOne)) := by
  unfold permille
  simp only [Option.bind_eq_bind, Option.pure_def]

/-- The whole number next to the product. -/
theorem permille_eq (hle : part ≤ whole) (hpos : 0 < whole) (hlt : whole < twoTo 32) :
    permille part whole =
      some ((2 * productUnits part whole + unitsPerOne) / (2 * unitsPerOne)) := by
  have hexact {n : Nat} (h : n < twoTo 32) :
      ∃ x, ofRatio? false n 1 = some x ∧ x.magnitude = n * unitsPerOne := by
    obtain ⟨x, hx, hm⟩ := exists_ofRatio? false (rankOfRatio_one_lt_rankLimit (h.trans (by decide)))
    rw [units_rankOfRatio_one, nearest_of_le (h.le.trans (by decide))] at hm
    exact ⟨x, hx, hm⟩
  have hfinite {num den : Nat} {c : Nat} (hc : c < twoTo 1024)
      (h : units (rankOfRatio num den) ≤ c * unitsPerOne) : rankOfRatio num den < rankLimit := by
    rw [lt_rankLimit_iff]
    exact h.trans_lt (Nat.mul_lt_mul_of_pos_right hc unitsPerOne_pos)
  obtain ⟨p, hp, hpm⟩ := hexact (hle.trans_lt hlt)
  obtain ⟨w, hw, hwm⟩ := hexact hlt
  obtain ⟨quotient, hquotient, hqm⟩ := exists_ofRatio? false
    (hfinite (by decide +kernel) (quotientUnits_le hle hpos hlt))
  obtain ⟨product, hproduct, hpm'⟩ := exists_ofRatio? false
    (hfinite (by decide +kernel) (productUnits_le hle hpos hlt))
  have hsame : ofRatio? false (part * unitsPerOne) (whole * unitsPerOne) = some quotient := by
    rw [ofRatio?_mul_right unitsPerOne_pos, hquotient]
  rw [permille_eq_bind, hp, Option.bind_some, hw, Option.bind_some, hpm, hwm, hsame,
    Option.bind_some, hqm, ← quotientUnits, hproduct, Option.bind_some, hpm', ← productUnits]

/-! ## Apart from the halves -/

/-- Both roundings together, on the scale on which the share is a whole number. -/
theorem product_near (hpart : 0 < part) (hle : part ≤ whole) (hlt : whole < twoTo 32) :
    twoTo 52 * (productUnits part whole * whole) ≤
        (twoTo 52 + 2) * (1000 * (part * unitsPerOne)) ∧
      twoTo 52 * (1000 * (part * unitsPerOne)) ≤
        (twoTo 52 + 2) * (productUnits part whole * whole) := by
  obtain ⟨m, s, hquotient, hnear⟩ := exists_quotient hpart hle hlt
  obtain ⟨m', s', hproduct, hnear'⟩ := exists_product hpart hle hlt
  have hq₁ := hnear.scaled_le
  have hq₂ := hnear.le_scaled
  have hs₁ := hnear'.scaled_le
  have hs₂ := hnear'.le_scaled
  rw [← hquotient] at hq₁ hq₂
  rw [← hproduct, Nat.mul_one] at hs₁ hs₂
  have hp₁ : twoTo 53 * (productUnits part whole * whole) ≤
      twoTo 53 * (1000 * (quotientUnits part whole * whole)) + productUnits part whole * whole := by
    simpa only [Nat.add_mul, Nat.mul_assoc, Nat.mul_left_comm] using Nat.mul_le_mul_right whole hs₁
  have hp₂ : twoTo 53 * (1000 * (quotientUnits part whole * whole)) ≤
      twoTo 53 * (productUnits part whole * whole) + productUnits part whole * whole := by
    simpa only [Nat.add_mul, Nat.mul_assoc, Nat.mul_left_comm] using Nat.mul_le_mul_right whole hs₂
  rw [twoTo_53] at hq₁ hq₂ hp₁ hp₂
  rw [twoTo_52]
  generalize productUnits part whole * whole = product at *
  generalize quotientUnits part whole * whole = quotient at *
  generalize part * unitsPerOne = units at *
  omega

/-- Two roundings do not carry a share over a half that it is not at. -/
theorem permille_of_between {n : Nat} (hle : part ≤ whole) (hpos : 0 < whole)
    (hlt : whole < twoTo 32) (hlow : 2 * n * whole < 2000 * part + whole)
    (hhigh : 2000 * part < (2 * n + 1) * whole) : permille part whole = some n := by
  rw [permille_eq hle hpos hlt]
  rcases Nat.eq_zero_or_pos part with rfl | hpart
  · have hn : n = 0 := by
      by_contra hn
      have : whole ≤ n * whole := Nat.le_mul_of_pos_left _ (Nat.pos_of_ne_zero hn)
      rw [Nat.mul_assoc] at hlow
      omega
    rw [productUnits_zero, hn]
    decide +kernel
  obtain ⟨hupper, hlower⟩ := product_near hpart hle hlt
  have hsmall : part * unitsPerOne ≤ twoTo 32 * unitsPerOne :=
    Nat.mul_le_mul_right _ (hle.trans hlt.le)
  -- the distance to the next half is at least one part in twice the whole
  have hlow' : 2 * (n * whole * unitsPerOne) + unitsPerOne ≤
      2000 * (part * unitsPerOne) + whole * unitsPerOne := by
    simpa only [Nat.add_mul, Nat.mul_assoc, Nat.one_mul, Nat.succ_eq_add_one] using
      Nat.mul_le_mul_right unitsPerOne (Nat.succ_le_of_lt hlow)
  have hhigh' : 2000 * (part * unitsPerOne) + unitsPerOne ≤
      2 * (n * whole * unitsPerOne) + whole * unitsPerOne := by
    simpa only [Nat.add_mul, Nat.mul_assoc, Nat.one_mul, Nat.succ_eq_add_one] using
      Nat.mul_le_mul_right unitsPerOne (Nat.succ_le_of_lt hhigh)
  have hdigits : twoTo 32 = 4294967296 := rfl
  rw [twoTo_52] at hupper hlower
  rw [hdigits] at hsmall
  have hdiv :
      2 * (n * whole * unitsPerOne) ≤
          2 * (productUnits part whole * whole) + whole * unitsPerOne ∧
        2 * (productUnits part whole * whole) <
          2 * (n * whole * unitsPerOne) + whole * unitsPerOne := by
    generalize productUnits part whole * whole = product at *
    generalize part * unitsPerOne = share at *
    generalize n * whole * unitsPerOne = next at *
    generalize whole * unitsPerOne = one at *
    have := unitsPerOne_pos
    generalize unitsPerOne = unit at *
    omega
  have hnext : n * (2 * unitsPerOne) * whole = 2 * (n * whole * unitsPerOne) := by ring
  have hsum : (2 * productUnits part whole + unitsPerOne) * whole =
      2 * (productUnits part whole * whole) + whole * unitsPerOne := by ring
  have hsucc : (n + 1) * (2 * unitsPerOne) * whole =
      2 * (n * whole * unitsPerOne) + 2 * (whole * unitsPerOne) := by ring
  refine congrArg some (Nat.div_eq_of_lt_le ?_ ?_)
  · exact Nat.le_of_mul_le_mul_right (by omega) hpos
  · exact Nat.lt_of_mul_lt_mul_right (a := whole) (by omega)

/-! ## At the halves -/

/-- The halves from `1000 / 2 ^ j` to `1024 / 2 ^ j`. The quotient has just passed a power of two
and the product has not yet, so the steps of the product are 512 steps of the quotient, and
elsewhere 1024. -/
def closeHalves : List Nat :=
  [0, 31] ++ List.range' 62 2 ++ List.range' 125 3 ++ List.range' 250 6 ++ List.range' 500 12

theorem permille_closeHalves : ∀ k ∈ closeHalves,
    (2 * productUnits (2 * k + 1) 2000 + unitsPerOne) / (2 * unitsPerOne) =
      if 500 ≤ k ∧ k ≤ 511 then k else k + 1 := by
  decide +kernel

theorem mem_closeHalves {k e : Nat} (hk : k < 1000) (he : 51 ≤ e)
    (hleast : 2000 * twoTo 52 ≤ (2 * k + 1) * twoTo e + 1000)
    (hmost : (2 * k + 1) * twoTo e ≤ 2 * twoTo 62 + 1512) : k ∈ closeHalves := by
  have hdigits : twoTo 62 = 4611686018427387904 := rfl
  rw [twoTo_52] at hleast
  rw [hdigits] at hmost
  have he' : e < 64 := by
    by_contra hge
    have hlarge : twoTo 64 ≤ (2 * k + 1) * twoTo e :=
      (twoTo_le (by omega)).trans (Nat.le_mul_of_pos_left _ (Nat.succ_pos _))
    have hdigits : twoTo 64 = 18446744073709551616 := rfl
    omega
  simp only [closeHalves, List.mem_append, List.mem_cons, List.mem_range'_1, List.not_mem_nil]
  interval_cases e <;> simp only [twoTo, Nat.pow_eq, Nat.reducePow] at hleast hmost <;> omega

section Half

variable {k : Nat} (hk : 2000 * part = (2 * k + 1) * whole)

include hk

/-- How far a thousand quotients are from a half. -/
theorem quotient_near_half {m s : Nat} (hpos : 0 < whole)
    (hnear : NearQuotient (part * unitsPerOne) whole m s) :
    2000 * (m * twoTo s) ≤ (2 * k + 1) * unitsPerOne + 1000 * twoTo s ∧
      (2 * k + 1) * unitsPerOne ≤ 2000 * (m * twoTo s) + 1000 * twoTo s := by
  have hle := hnear.le
  have hge := hnear.ge
  have hhalf : 2000 * (part * unitsPerOne) = (2 * k + 1) * unitsPerOne * whole := by
    rw [← Nat.mul_assoc, hk, Nat.mul_right_comm]
  have hvalue := Nat.mul_assoc 2000 (m * twoTo s) whole
  have hstep := Nat.mul_assoc 1000 (twoTo s) whole
  generalize part * unitsPerOne = share at *
  generalize (2 * k + 1) * unitsPerOne = half at *
  constructor <;> refine Nat.le_of_mul_le_mul_right ?_ hpos <;> rw [Nat.add_mul] <;> omega

/-- The product has fine steps at these halves only. -/
theorem mem_closeHalves_of_fine {m s m' s' : Nat} (hle : part ≤ whole) (hpos : 0 < whole)
    (hlt : whole < twoTo 32) (hquotient : quotientUnits part whole = m * twoTo s)
    (hnear : NearQuotient (part * unitsPerOne) whole m s)
    (hnear' : NearQuotient (quotientUnits part whole * 1000) 1 m' s') (hfine : s' < s + 10) :
    k ∈ closeHalves := by
  obtain ⟨hlow, hhigh⟩ := quotient_near_half hk hpos hnear
  have hge := hnear'.ge
  rw [hquotient, Nat.mul_one, Nat.mul_one] at hge
  have hstep : twoTo s' ≤ 512 * twoTo s :=
    calc twoTo s' ≤ twoTo (9 + s) := twoTo_le (by omega)
      _ = 512 * twoTo s := twoTo_add 9 s
  have hproduct : m' * twoTo s' ≤ twoTo 62 * twoTo s :=
    calc m' * twoTo s' ≤ twoTo 53 * (512 * twoTo s) := Nat.mul_le_mul hnear'.most hstep
      _ = twoTo 62 * twoTo s := (Nat.mul_assoc _ _ _).symm
  have hleast : twoTo 52 * twoTo s ≤ m * twoTo s := Nat.mul_le_mul_right _ hnear.least
  have hs : s ≤ 1023 := by
    have hquotient' := quotientUnits_le hle hpos hlt
    rw [hquotient] at hquotient'
    have hpower : twoTo (52 + s) ≤ twoTo (1 + 1074) :=
      calc twoTo (52 + s) = twoTo 52 * twoTo s := twoTo_add 52 s
        _ ≤ m * twoTo s := hleast
        _ ≤ 2 * unitsPerOne := hquotient'
        _ = twoTo (1 + 1074) := by rw [twoTo_add, unitsPerOne, show twoTo 1 = 2 from rfl]
    have := twoTo_le_iff.mp hpower
    omega
  have hunit : unitsPerOne = twoTo (1074 - s) * twoTo s := by
    rw [← twoTo_add, Nat.sub_add_cancel (by omega)]
    rfl
  have hk' : k < 1000 := by
    by_contra hlarge
    have : 2001 * whole ≤ (2 * k + 1) * whole := Nat.mul_le_mul_right _ (by omega)
    omega
  have hhalf : (2 * k + 1) * unitsPerOne = (2 * k + 1) * twoTo (1074 - s) * twoTo s := by
    rw [hunit, Nat.mul_assoc]
  rw [hhalf] at hlow hhigh
  -- with a step of the quotient cancelled, the bounds on the product say where the half is
  refine mem_closeHalves hk' (e := 1074 - s) (by omega) ?_ ?_
  all_goals
    generalize (2 * k + 1) * twoTo (1074 - s) = half at *
    refine Nat.le_of_mul_le_mul_right ?_ (twoTo_pos s)
    rw [Nat.add_mul, Nat.mul_assoc]
    omega

/-- With coarse steps, the product is the half. -/
theorem product_of_coarse {m s m' s' : Nat} (hle : part ≤ whole) (hpos : 0 < whole)
    (hlt : whole < twoTo 32) (hquotient : quotientUnits part whole = m * twoTo s)
    (hproduct : productUnits part whole = m' * twoTo s')
    (hnear : NearQuotient (part * unitsPerOne) whole m s)
    (hnear' : NearQuotient (quotientUnits part whole * 1000) 1 m' s') (hcoarse : s + 10 ≤ s') :
    productUnits part whole = (2 * k + 1) * twoTo 1073 := by
  obtain ⟨hlow, hhigh⟩ := quotient_near_half hk hpos hnear
  have hle' := hnear'.le
  have hge' := hnear'.ge
  rw [hquotient, Nat.mul_one, Nat.mul_one] at hle' hge'
  have hstep : 1024 * twoTo s ≤ twoTo s' :=
    calc 1024 * twoTo s = twoTo (10 + s) := (twoTo_add 10 s).symm
      _ ≤ twoTo s' := twoTo_le (by omega)
  have hs : s' ≤ 1073 := by
    have hproduct' := productUnits_le hle hpos hlt
    rw [hproduct] at hproduct'
    have hpower : twoTo (52 + s') ≤ twoTo (12 + 1074) :=
      calc twoTo (52 + s') = twoTo 52 * twoTo s' := twoTo_add 52 s'
        _ ≤ m' * twoTo s' := Nat.mul_le_mul_right _ hnear'.least
        _ ≤ 4000 * unitsPerOne := hproduct'
        _ ≤ twoTo 12 * unitsPerOne := Nat.mul_le_mul_right _ (by decide)
        _ = twoTo (12 + 1074) := by rw [twoTo_add, unitsPerOne]
    have := twoTo_le_iff.mp hpower
    omega
  have hgrid : twoTo 1073 = twoTo (1073 - s') * twoTo s' := by
    rw [← twoTo_add, Nat.sub_add_cancel hs]
  have hunit : unitsPerOne = 2 * twoTo 1073 := by decide +kernel
  have hhalf : (2 * k + 1) * unitsPerOne = 2 * ((2 * k + 1) * twoTo (1073 - s') * twoTo s') := by
    rw [hunit, hgrid, Nat.mul_left_comm, Nat.mul_assoc (2 * k + 1)]
  rw [hhalf] at hlow hhigh
  rw [hproduct, hgrid, ← Nat.mul_assoc]
  -- the half is on the grid of the product, and no other point of the grid is as near
  generalize (2 * k + 1) * twoTo (1073 - s') = c at *
  have hpos' := twoTo_pos s
  have habove : m' < c + 1 := by
    refine Nat.lt_of_mul_lt_mul_right (a := twoTo s') ?_
    rw [Nat.add_mul]
    omega
  have hbelow : c < m' + 1 := by
    refine Nat.lt_of_mul_lt_mul_right (a := twoTo s') ?_
    rw [Nat.add_mul]
    omega
  rw [Nat.le_antisymm (Nat.le_of_lt_succ habove) (Nat.le_of_lt_succ hbelow)]

theorem permille_of_half (hle : part ≤ whole) (hpos : 0 < whole) (hlt : whole < twoTo 32) :
    permille part whole = some (if 500 ≤ k ∧ k ≤ 511 then k else k + 1) := by
  have hpart : 0 < part := by
    have : 0 < (2 * k + 1) * whole := Nat.mul_pos (Nat.succ_pos _) hpos
    omega
  rw [permille_eq hle hpos hlt]
  by_cases hclose : k ∈ closeHalves
  · have hsame : part * 2000 = (2 * k + 1) * whole := by rw [Nat.mul_comm, hk]
    rw [productUnits_congr hpos (by decide) hsame, permille_closeHalves k hclose]
  obtain ⟨m, s, hquotient, hnear⟩ := exists_quotient hpart hle hlt
  obtain ⟨m', s', hproduct, hnear'⟩ := exists_product hpart hle hlt
  rcases Nat.lt_or_ge s' (s + 10) with hfine | hcoarse
  · exact absurd (mem_closeHalves_of_fine hk hle hpos hlt hquotient hnear hnear' hfine) hclose
  have hunit : unitsPerOne = 2 * twoTo 1073 := by decide +kernel
  have hopen : ¬(500 ≤ k ∧ k ≤ 511) := by
    intro hsink
    refine hclose (List.mem_append_right _ ?_)
    rw [List.mem_range'_1]
    omega
  rw [product_of_coarse hk hle hpos hlt hquotient hproduct hnear hnear' hcoarse, if_neg hopen,
    ← Nat.mul_assoc, hunit]
  have hpower := twoTo_pos 1073
  generalize twoTo 1073 = power at *
  refine congrArg some (Nat.div_eq_of_lt_le ?_ ?_) <;> linarith

end Half

end Share

end CloudAudit
