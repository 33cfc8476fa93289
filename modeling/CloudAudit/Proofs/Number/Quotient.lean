import CloudAudit.Proofs.Number.Rounding

/-!
# Rounding of quotients

The rank nearest to a quotient depends on the value of the quotient only (`rankOfRatio_congr`). Its
magnitude is a significand of 53 binary digits times a power of two and is at most half a step of
that power away from the quotient (`exists_nearQuotient`), as long as the quotient is not among the
least magnitudes.
-/

namespace CloudAudit.Number

theorem twice_divEven_le (num den : Nat) : 2 * (divEven num den * den) ≤ 2 * num + den := by
  have hparts := Nat.div_add_mod' num den
  have hsucc := Nat.add_one_mul (num / den) den
  unfold divEven
  dsimp only
  split_ifs <;> omega

theorem le_twice_divEven {den : Nat} (hd : 0 < den) (num : Nat) :
    2 * num ≤ 2 * (divEven num den * den) + den := by
  have hparts := Nat.div_add_mod' num den
  have hrest := Nat.mod_lt num hd
  have hsucc := Nat.add_one_mul (num / den) den
  unfold divEven
  dsimp only
  split_ifs <;> omega

namespace Binary64

/-! ## Equal quotients -/

theorem rankOfRatio_mul_right {c : Nat} (hc : 0 < c) (num den : Nat) :
    rankOfRatio (num * c) (den * c) = rankOfRatio num den := by
  unfold rankOfRatio
  dsimp only
  rw [Nat.mul_right_comm num, Nat.mul_div_mul_right _ _ hc, Nat.mul_right_comm den,
    divEven_mul_right hc]

theorem rankOfRatio_congr {num den other base : Nat} (hd : 0 < den) (hb : 0 < base)
    (h : num * base = other * den) : rankOfRatio num den = rankOfRatio other base := by
  rw [← rankOfRatio_mul_right hb num den, ← rankOfRatio_mul_right hd other base, h,
    Nat.mul_comm den]

theorem ofRatio?_mul_right {c : Nat} (hc : 0 < c) (negative : Bool) (num den : Nat) :
    ofRatio? negative (num * c) (den * c) = ofRatio? negative num den := by
  unfold ofRatio?
  rw [rankOfRatio_mul_right hc]

theorem rankOfRatio_zero (den : Nat) : rankOfRatio 0 den = 0 := by
  simp [rankOfRatio, divEven]

/-! ## The distance to a quotient -/

/-- A significand of 53 binary digits and the power of two it counts, so that the two together are
at most half a step away from a quotient. -/
structure NearQuotient (num den significand shift : Nat) : Prop where
  least : twoTo 52 ≤ significand
  most : significand ≤ twoTo 53
  le : 2 * (significand * twoTo shift * den) ≤ 2 * num + twoTo shift * den
  ge : 2 * num ≤ 2 * (significand * twoTo shift * den) + twoTo shift * den

theorem exists_nearQuotient {num den : Nat} (hd : 0 < den)
    (h : twoTo 52 * den ≤ num * unitsPerOne) :
    ∃ significand shift, units (rankOfRatio num den) = significand * twoTo shift ∧
      NearQuotient (num * unitsPerOne) den significand shift := by
  generalize hn : num * unitsPerOne = n at h
  have hquot : twoTo 52 ≤ n / den := (Nat.le_div_iff_mul_le hd).mpr h
  have hne : n / den ≠ 0 := fun h0 => absurd (h0 ▸ hquot) (by decide)
  have hlog : 52 ≤ (n / den).log2 := (Nat.le_log2 hne).mpr hquot
  generalize hshift : (n / den).log2 - 52 = shift
  have hsum : (n / den).log2 = 52 + shift := by omega
  have hstep : 0 < den * twoTo shift := Nat.mul_pos hd (twoTo_pos shift)
  have hleast : twoTo 52 ≤ divEven n (den * twoTo shift) := by
    refine le_divEven_of_mul_le hstep ?_
    have hpower : twoTo (52 + shift) ≤ n / den := hsum ▸ Nat.log2_self_le hne
    rw [Nat.mul_left_comm, ← twoTo_add, Nat.mul_comm]
    exact (Nat.le_div_iff_mul_le hd).mp hpower
  have hmost : divEven n (den * twoTo shift) ≤ twoTo 53 := by
    refine divEven_le_of_le_mul hstep ?_
    have hpower : n / den < twoTo (53 + shift) := by
      have := Nat.lt_log2_self (n := n / den)
      rwa [hsum, Nat.add_right_comm] at this
    rw [Nat.mul_left_comm, ← twoTo_add, Nat.mul_comm]
    exact Nat.le_of_lt ((Nat.div_lt_iff_lt_mul hd).mp hpower)
  have hrank : rankOfRatio num den = shift * twoTo 52 + divEven n (den * twoTo shift) := by
    unfold rankOfRatio
    dsimp only
    rw [hn, hshift]
  refine ⟨divEven n (den * twoTo shift), shift, ?_, hleast, hmost, ?_, ?_⟩
  · rw [hrank, units_shift shift hleast hmost]
  · rw [Nat.mul_assoc, Nat.mul_comm (twoTo shift)]
    exact twice_divEven_le n _
  · rw [Nat.mul_assoc, Nat.mul_comm (twoTo shift)]
    exact le_twice_divEven hstep n

namespace NearQuotient

variable {num den significand shift : Nat} (h : NearQuotient num den significand shift)

include h

theorem step_le : twoTo 52 * (twoTo shift * den) ≤ significand * twoTo shift * den := by
  rw [Nat.mul_assoc significand]
  exact Nat.mul_le_mul_right _ h.least

/-- The distance is at most one part in `2 ^ 53`. -/
theorem scaled_le : twoTo 53 * (significand * twoTo shift * den) ≤
    twoTo 53 * num + significand * twoTo shift * den :=
  calc twoTo 53 * (significand * twoTo shift * den)
      = twoTo 52 * (2 * (significand * twoTo shift * den)) := by
        rw [← Nat.mul_assoc (twoTo 52)]
        rfl
    _ ≤ twoTo 52 * (2 * num + twoTo shift * den) := Nat.mul_le_mul_left _ h.le
    _ = twoTo 53 * num + twoTo 52 * (twoTo shift * den) := by
        rw [Nat.mul_add, ← Nat.mul_assoc (twoTo 52)]
        rfl
    _ ≤ twoTo 53 * num + significand * twoTo shift * den := Nat.add_le_add_left h.step_le _

theorem le_scaled : twoTo 53 * num ≤
    twoTo 53 * (significand * twoTo shift * den) + significand * twoTo shift * den :=
  calc twoTo 53 * num
      = twoTo 52 * (2 * num) := by
        rw [← Nat.mul_assoc]
        rfl
    _ ≤ twoTo 52 * (2 * (significand * twoTo shift * den) + twoTo shift * den) :=
        Nat.mul_le_mul_left _ h.ge
    _ = twoTo 53 * (significand * twoTo shift * den) + twoTo 52 * (twoTo shift * den) := by
        rw [Nat.mul_add, ← Nat.mul_assoc (twoTo 52)]
        rfl
    _ ≤ twoTo 53 * (significand * twoTo shift * den) + significand * twoTo shift * den :=
        Nat.add_le_add_left h.step_le _

omit h in
/-- A quotient may be reduced. -/
theorem of_mul_right {c : Nat} (hc : 0 < c)
    (h : NearQuotient (num * c) (den * c) significand shift) :
    NearQuotient num den significand shift := by
  refine ⟨h.least, h.most, Nat.le_of_mul_le_mul_right ?_ hc, Nat.le_of_mul_le_mul_right ?_ hc⟩
  · simpa only [Nat.add_mul, Nat.mul_assoc] using h.le
  · simpa only [Nat.add_mul, Nat.mul_assoc] using h.ge

end NearQuotient

theorem units_mul_le {num den : Nat} (hd : 0 < den) (h : twoTo 52 * den ≤ num * unitsPerOne) :
    units (rankOfRatio num den) * den ≤ 2 * (num * unitsPerOne) := by
  obtain ⟨significand, shift, hvalue, hnear⟩ := exists_nearQuotient hd h
  have hscaled := hnear.scaled_le
  rw [← hvalue, twoTo_53] at hscaled
  omega

end Binary64

end CloudAudit.Number
