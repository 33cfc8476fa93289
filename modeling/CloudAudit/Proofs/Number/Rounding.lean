import CloudAudit.Number.Binary64
import Mathlib.Data.Nat.Basic
import Mathlib.Order.Monotone.Basic

/-!
# Rounding of whole numbers

Ranks order magnitudes (`units_strictMono`). The rank nearest to a natural number is that of the
number rounded to 53 binary digits, a half to the even neighbour (`units_rankOfRatio_one`), so two
whole numbers compare as floating point numbers the way their rounded values do
(`greater_ofInt_iff`). Rounding keeps the order (`nearest_mono`) and leaves alone whatever has at
most 53 binary digits (`nearest_of_le`).
-/

namespace CloudAudit.Number

theorem twoTo_pos (k : Nat) : 0 < twoTo k := Nat.two_pow_pos k

theorem twoTo_add (j k : Nat) : twoTo (j + k) = twoTo j * twoTo k := Nat.pow_add 2 j k

theorem twoTo_52 : twoTo 52 = 4503599627370496 := rfl

theorem twoTo_53 : twoTo 53 = 9007199254740992 := rfl

theorem twoTo_le_iff {j k : Nat} : twoTo j ≤ twoTo k ↔ j ≤ k :=
  Nat.pow_le_pow_iff_right (by decide)

theorem twoTo_le {j k : Nat} (h : j ≤ k) : twoTo j ≤ twoTo k := twoTo_le_iff.mpr h

/-! ## Nearest quotients -/

theorem divEven_one (n : Nat) : divEven n 1 = n := by
  simp [divEven, Nat.mod_one]

theorem divEven_mul_right {c : Nat} (hc : 0 < c) (num den : Nat) :
    divEven (num * c) (den * c) = divEven num den := by
  unfold divEven
  have hbelow : 2 * (num % den * c) < den * c ↔ 2 * (num % den) < den := by
    rw [← Nat.mul_assoc, Nat.mul_lt_mul_right hc]
  have habove : den * c < 2 * (num % den * c) ↔ den < 2 * (num % den) := by
    rw [← Nat.mul_assoc, Nat.mul_lt_mul_right hc]
  simp only [Nat.mul_div_mul_right _ _ hc, Nat.mul_mod_mul_right, hbelow, habove]

/-- A multiple is its own quotient. -/
theorem divEven_mul_self {den : Nat} (hd : 0 < den) (a : Nat) : divEven (a * den) den = a := by
  simpa [divEven_one] using divEven_mul_right hd a 1

theorem divEven_le_succ (num den : Nat) : divEven num den ≤ num / den + 1 := by
  unfold divEven
  dsimp only
  split_ifs <;> omega

theorem le_divEven (num den : Nat) : num / den ≤ divEven num den := by
  unfold divEven
  dsimp only
  split_ifs <;> omega

theorem divEven_mono {m n : Nat} (den : Nat) (h : m ≤ n) : divEven m den ≤ divEven n den := by
  have hquot : m / den ≤ n / den := Nat.div_le_div_right h
  rcases Nat.lt_or_eq_of_le hquot with hlt | heq
  · calc divEven m den ≤ m / den + 1 := divEven_le_succ m den
      _ ≤ n / den := hlt
      _ ≤ divEven n den := le_divEven n den
  · have hm := Nat.div_add_mod m den
    have hn := Nat.div_add_mod n den
    rw [heq] at hm
    unfold divEven
    simp only [heq]
    split_ifs <;> omega

theorem le_divEven_of_mul_le {a num den : Nat} (hd : 0 < den) (h : a * den ≤ num) :
    a ≤ divEven num den :=
  divEven_mul_self hd a ▸ divEven_mono den h

theorem divEven_le_of_le_mul {a num den : Nat} (hd : 0 < den) (h : num ≤ a * den) :
    divEven num den ≤ a :=
  divEven_mul_self hd a ▸ divEven_mono den h

/-! ## Rounded whole numbers -/

/-- The least power of two that leaves a number no more than 53 binary digits in front of it. -/
def gridStep (n : Nat) : Nat := twoTo (n.log2 - 52)

/-- The nearest number with 53 binary digits, a half to the even neighbour. -/
def nearest (n : Nat) : Nat := divEven n (gridStep n) * gridStep n

theorem gridStep_pos (n : Nat) : 0 < gridStep n := twoTo_pos _

theorem gridStep_of_lt {n : Nat} (h : n < twoTo 53) : gridStep n = 1 := by
  have hsmall : n.log2 - 52 = 0 := by
    by_cases hn : n = 0
    · subst hn
      rfl
    · have := (Nat.log2_lt hn).mpr h
      omega
  rw [gridStep, hsmall]
  rfl

theorem nearest_of_dvd {n : Nat} (h : gridStep n ∣ n) : nearest n = n := by
  have hself : divEven n (gridStep n) = n / gridStep n := by
    simpa only [Nat.div_mul_cancel h] using divEven_mul_self (gridStep_pos n) (n / gridStep n)
  rw [nearest, hself, Nat.div_mul_cancel h]

theorem nearest_of_le {n : Nat} (h : n ≤ twoTo 53) : nearest n = n := by
  rcases Nat.lt_or_eq_of_le h with hlt | rfl
  · exact nearest_of_dvd (gridStep_of_lt hlt ▸ Nat.one_dvd n)
  · decide +kernel

@[simp] theorem nearest_zero : nearest 0 = 0 := nearest_of_le (Nat.zero_le _)

/-- Rounding stays between the neighbouring powers of two. -/
theorem twoTo_le_nearest {n : Nat} (hn : n ≠ 0) : twoTo n.log2 ≤ nearest n := by
  have hstep : twoTo n.log2 = twoTo (n.log2 - (n.log2 - 52)) * gridStep n := by
    rw [gridStep, ← twoTo_add, Nat.sub_add_cancel (Nat.sub_le _ _)]
  have hbound : twoTo (n.log2 - (n.log2 - 52)) * gridStep n ≤ n := hstep ▸ Nat.log2_self_le hn
  rw [hstep]
  exact Nat.mul_le_mul_right _ (le_divEven_of_mul_le (gridStep_pos n) hbound)

theorem nearest_le_twoTo (n : Nat) : nearest n ≤ twoTo (n.log2 + 1) := by
  have hstep : twoTo (n.log2 + 1) = twoTo (n.log2 + 1 - (n.log2 - 52)) * gridStep n := by
    rw [gridStep, ← twoTo_add, Nat.sub_add_cancel (by omega)]
  have hbound : n ≤ twoTo (n.log2 + 1 - (n.log2 - 52)) * gridStep n :=
    hstep ▸ Nat.le_of_lt Nat.lt_log2_self
  rw [hstep]
  exact Nat.mul_le_mul_right _ (divEven_le_of_le_mul (gridStep_pos n) hbound)

theorem nearest_mono {m n : Nat} (h : m ≤ n) : nearest m ≤ nearest n := by
  by_cases hm : m = 0
  · subst hm
    rw [nearest_zero]
    exact Nat.zero_le _
  have hn : n ≠ 0 := by omega
  have hlog : m.log2 ≤ n.log2 := (Nat.le_log2 hn).mpr (le_trans (Nat.log2_self_le hm) h)
  rcases Nat.lt_or_eq_of_le hlog with hlt | heq
  · -- a power of two lies between the two
    calc nearest m ≤ twoTo (m.log2 + 1) := nearest_le_twoTo m
      _ ≤ twoTo n.log2 := twoTo_le hlt
      _ ≤ nearest n := twoTo_le_nearest hn
  · have hstep : gridStep m = gridStep n := by rw [gridStep, gridStep, heq]
    unfold nearest
    rw [hstep]
    exact Nat.mul_le_mul_right _ (divEven_mono _ h)

/-! ## Magnitudes -/

namespace Binary64

/-- A significand that has carried into the next power of two is no exception. -/
theorem units_shift {q : Nat} (shift : Nat) (hleast : twoTo 52 ≤ q) (hmost : q ≤ twoTo 53) :
    units (shift * twoTo 52 + q) = q * twoTo shift := by
  have hpos := twoTo_pos 52
  have hdouble : twoTo 53 = 2 * twoTo 52 := rfl
  have hquot : (shift * twoTo 52 + q) / twoTo 52 = shift + q / twoTo 52 := by
    rw [Nat.add_comm, Nat.add_mul_div_right _ _ hpos, Nat.add_comm]
  have hrest : (shift * twoTo 52 + q) % twoTo 52 = q % twoTo 52 := by
    rw [Nat.add_comm, Nat.add_mul_mod_self_right]
  unfold units
  rw [if_neg (by omega), hquot, hrest]
  rcases Nat.lt_or_eq_of_le hmost with hlt | rfl
  · have hone : q / twoTo 52 = 1 := Nat.div_eq_of_lt_le (by omega) (by omega)
    have hmod : q % twoTo 52 = q - twoTo 52 := by
      rw [Nat.mod_eq_sub_mod hleast, Nat.mod_eq_of_lt (by omega)]
    rw [hone, hmod, Nat.add_sub_cancel, Nat.add_sub_cancel' hleast]
  · have htwo : twoTo 53 / twoTo 52 = 2 := rfl
    have hmod : twoTo 53 % twoTo 52 = 0 := rfl
    have hshift : shift + 2 - 1 = 1 + shift := by omega
    rw [htwo, hmod, Nat.add_zero, hshift, twoTo_add, ← Nat.mul_assoc]
    rfl

theorem units_lt_units_succ (rank : Nat) : units rank < units (rank + 1) := by
  have hdouble : twoTo 53 = 2 * twoTo 52 := rfl
  rcases Nat.lt_or_ge (rank + 1) (twoTo 52) with hsmall | hlarge
  · unfold units
    rw [if_pos (by omega), if_pos hsmall]
    exact Nat.lt_succ_self rank
  rcases Nat.lt_or_eq_of_le hlarge with hlarge | heq
  · -- both ranks have the exponent of the smaller one
    have hparts := Nat.div_add_mod' (rank - twoTo 52) (twoTo 52)
    have hmod := Nat.mod_lt (rank - twoTo 52) (twoTo_pos 52)
    generalize (rank - twoTo 52) / twoTo 52 = shift at hparts
    generalize (rank - twoTo 52) % twoTo 52 = fraction at hparts hmod
    have hrank : rank = shift * twoTo 52 + (twoTo 52 + fraction) := by omega
    have hsucc : rank + 1 = shift * twoTo 52 + (twoTo 52 + fraction + 1) := by omega
    rw [hsucc, units_shift shift (by omega) (by omega), hrank,
      units_shift shift (by omega) (by omega)]
    exact Nat.mul_lt_mul_of_pos_right (Nat.lt_succ_self _) (twoTo_pos shift)
  · have hleast : units (twoTo 52) = twoTo 52 := rfl
    rw [← heq, hleast, units, if_pos (by omega)]
    omega

/-- **Ranks order magnitudes.** -/
theorem units_strictMono : StrictMono units :=
  strictMono_nat_of_lt_succ units_lt_units_succ

/-! ## The rank of a whole number -/

theorem unitsPerOne_pos : 0 < unitsPerOne := twoTo_pos 1074

theorem log2_mul_twoTo {n : Nat} (hn : n ≠ 0) (k : Nat) : (n * twoTo k).log2 = n.log2 + k := by
  have hpos := twoTo_pos k
  refine (Nat.log2_eq_iff (Nat.mul_ne_zero hn hpos.ne')).mpr ⟨?_, ?_⟩
  · rw [Nat.pow_add]
    exact Nat.mul_le_mul_right _ (Nat.log2_self_le hn)
  · rw [Nat.add_right_comm, Nat.pow_add]
    exact Nat.mul_lt_mul_of_pos_right Nat.lt_log2_self hpos

/-- The rank nearest to a whole number is that of the number rounded. -/
theorem units_rankOfRatio_one (n : Nat) : units (rankOfRatio n 1) = nearest n * unitsPerOne := by
  by_cases hn : n = 0
  · subst hn
    decide +kernel
  have hlog : (n * twoTo 1074 / 1).log2 - 52 = n.log2 + 1022 := by
    rw [Nat.div_one, log2_mul_twoTo hn]
    omega
  have hrank : rankOfRatio n 1 = (n.log2 + 1022) * twoTo 52 +
      divEven (n * twoTo 1074) (twoTo (n.log2 + 1022)) := by
    unfold rankOfRatio unitsPerOne
    dsimp only
    rw [hlog, Nat.one_mul]
  have hleast : twoTo 52 ≤ divEven (n * twoTo 1074) (twoTo (n.log2 + 1022)) := by
    refine le_divEven_of_mul_le (twoTo_pos _) ?_
    have hsplit : 52 + (n.log2 + 1022) = n.log2 + 1074 := by omega
    rw [← twoTo_add, hsplit, twoTo_add]
    exact Nat.mul_le_mul_right _ (Nat.log2_self_le hn)
  have hmost : divEven (n * twoTo 1074) (twoTo (n.log2 + 1022)) ≤ twoTo 53 := by
    refine divEven_le_of_le_mul (twoTo_pos _) ?_
    have hsplit : 53 + (n.log2 + 1022) = n.log2 + 1 + 1074 := by omega
    rw [← twoTo_add, hsplit, twoTo_add]
    exact Nat.mul_le_mul_right _ (Nat.le_of_lt Nat.lt_log2_self)
  rw [hrank, units_shift _ hleast hmost]
  show divEven (n * twoTo 1074) (twoTo (n.log2 + 1022)) * twoTo (n.log2 + 1022) =
    nearest n * twoTo 1074
  rcases Nat.lt_or_ge n.log2 52 with hsmall | hlarge
  · -- all digits of the number fit into the significand
    have hlt : n < twoTo 53 := (Nat.log2_lt hn).mp (by omega)
    have hsplit : 1074 = (52 - n.log2) + (n.log2 + 1022) := by omega
    have hnum : n * twoTo 1074 = n * twoTo (52 - n.log2) * twoTo (n.log2 + 1022) := by
      rw [Nat.mul_assoc, ← twoTo_add, ← hsplit]
    rw [nearest_of_le hlt.le, hnum, divEven_mul_self (twoTo_pos _)]
  · have hsplit : n.log2 + 1022 = (n.log2 - 52) + 1074 := by omega
    rw [hsplit, twoTo_add, divEven_mul_right (twoTo_pos _), ← Nat.mul_assoc]
    rfl

theorem rankOfRatio_one_lt_iff (m n : Nat) :
    rankOfRatio m 1 < rankOfRatio n 1 ↔ nearest m < nearest n := by
  rw [← units_strictMono.lt_iff_lt, units_rankOfRatio_one, units_rankOfRatio_one,
    Nat.mul_lt_mul_right unitsPerOne_pos]

/-- The finite magnitudes are those below `2 ^ 1024`. -/
theorem lt_rankLimit_iff (rank : Nat) :
    rank < rankLimit ↔ units rank < twoTo 1024 * unitsPerOne := by
  have hlimit : units rankLimit = twoTo 1024 * unitsPerOne := by decide +kernel
  rw [← hlimit, units_strictMono.lt_iff_lt]

theorem rankOfRatio_one_lt_rankLimit {n : Nat} (h : n < wordLimit) :
    rankOfRatio n 1 < rankLimit := by
  have hnearest : nearest n ≤ twoTo 64 := by
    calc nearest n ≤ nearest (twoTo 64) := nearest_mono (Nat.le_of_lt h)
      _ = twoTo 64 := by decide +kernel
  rw [lt_rankLimit_iff, units_rankOfRatio_one]
  refine Nat.mul_lt_mul_of_pos_right ?_ unitsPerOne_pos
  exact Nat.lt_of_le_of_lt hnearest (by decide +kernel)

theorem ofRatio?_of_lt {num den : Nat} (negative : Bool) (h : rankOfRatio num den < rankLimit) :
    ofRatio? negative num den = some ⟨negative, rankOfRatio num den, h⟩ := by
  unfold ofRatio?
  generalize rankOfRatio num den = rank at *
  rw [dif_pos h]

theorem exists_ofRatio? {num den : Nat} (negative : Bool) (h : rankOfRatio num den < rankLimit) :
    ∃ x, ofRatio? negative num den = some x ∧ x.magnitude = units (rankOfRatio num den) :=
  ⟨_, ofRatio?_of_lt negative h, rfl⟩

end Binary64

/-! ## Comparisons -/

/-- The whole number with the same sign whose magnitude is rounded to 53 binary digits. -/
def nearestInt (n : Int) : Int := if n < 0 then -(nearest n.natAbs : Int) else nearest n.natAbs

theorem nearestInt_of_le {n : Int} (h : n.natAbs ≤ twoTo 53) : nearestInt n = n := by
  rw [nearestInt, nearest_of_le h]
  split_ifs <;> omega

theorem nearestInt_mono {m n : Int} (h : m ≤ n) : nearestInt m ≤ nearestInt n := by
  unfold nearestInt
  split_ifs
  · exact Int.neg_le_neg (Int.ofNat_le.mpr (nearest_mono (by omega)))
  · omega
  · omega
  · exact Int.ofNat_le.mpr (nearest_mono (by omega))

namespace Extended

-- about the function and not about a value of it, which `rfl` would begin to compute
theorem ofRatio_eq_match : ofRatio = fun negative num den =>
    match Binary64.ofRatio? negative num den with
    | some x => finite x
    | none => infinite negative := by
  rfl

theorem ofRatio_eq_elim (negative : Bool) (num den : Nat) :
    ofRatio negative num den =
      (Binary64.ofRatio? negative num den).elim (infinite negative) finite := by
  rw [ofRatio_eq_match]
  dsimp only
  cases Binary64.ofRatio? negative num den <;> rfl

/-- Every quotient is rounded to a value that has its place in the order. -/
theorem exists_key?_ofRatio (negative : Bool) (num den : Nat) :
    ∃ k, (ofRatio negative num den).key? = some k := by
  rw [ofRatio_eq_elim]
  cases Binary64.ofRatio? negative num den with
  | none => exact ⟨_, rfl⟩
  | some x => exact ⟨_, rfl⟩

theorem key?_ofInt {n : Int} (h : n.natAbs < wordLimit) : (ofInt n).key? =
    some (if n < 0 then -(Binary64.rankOfRatio n.natAbs 1 : Int)
      else Binary64.rankOfRatio n.natAbs 1) := by
  have hlt := Binary64.rankOfRatio_one_lt_rankLimit h
  rw [ofInt, ofRatio_eq_elim, Binary64.ofRatio?_of_lt _ hlt]
  generalize Binary64.rankOfRatio n.natAbs 1 = rank at hlt
  simp only [Option.elim_some, key?, Binary64.key, decide_eq_true_eq]

/-! ### Order by keys -/

section Keys

variable {x y : Extended} {j k : Int} (hx : x.key? = some j) (hy : y.key? = some k)

include hx hy

theorem compareBy_of_key? (test : Int → Int → Bool) : compareBy test x y = test j k := by
  rw [compareBy, hx, hy]

theorem same_iff_of_key? : x.same y = true ↔ j = k := by
  rw [same, compareBy_of_key? hx hy, beq_iff_eq]

theorem greater_iff_of_key? : x.greater y = true ↔ k < j := by
  rw [greater, compareBy_of_key? hx hy, decide_eq_true_eq]

theorem greaterOrSame_iff_of_key? : x.greaterOrSame y = true ↔ k ≤ j := by
  rw [greaterOrSame, compareBy_of_key? hx hy, decide_eq_true_eq]

end Keys

variable {a b : Int}

/-- **Whole numbers compare the way their rounded values do.** -/
theorem greater_ofInt_iff (ha : a.natAbs < wordLimit) (hb : b.natAbs < wordLimit) :
    (ofInt a).greater (ofInt b) = true ↔ nearestInt b < nearestInt a := by
  have hab := Binary64.rankOfRatio_one_lt_iff a.natAbs b.natAbs
  have hba := Binary64.rankOfRatio_one_lt_iff b.natAbs a.natAbs
  have ha₀ := Binary64.rankOfRatio_one_lt_iff 0 a.natAbs
  have hb₀ := Binary64.rankOfRatio_one_lt_iff 0 b.natAbs
  have hzero : Binary64.rankOfRatio 0 1 = 0 := by decide +kernel
  rw [hzero, nearest_zero] at ha₀ hb₀
  rw [greater_iff_of_key? (key?_ofInt ha) (key?_ofInt hb), nearestInt, nearestInt]
  generalize Binary64.rankOfRatio a.natAbs 1 = x at *
  generalize Binary64.rankOfRatio b.natAbs 1 = y at *
  split_ifs <;> omega

theorem greaterOrSame_ofInt_iff (ha : a.natAbs < wordLimit) (hb : b.natAbs < wordLimit) :
    (ofInt a).greaterOrSame (ofInt b) = true ↔ nearestInt b ≤ nearestInt a := by
  have hgreater := greater_ofInt_iff hb ha
  rw [greater_iff_of_key? (key?_ofInt hb) (key?_ofInt ha)] at hgreater
  rw [greaterOrSame_iff_of_key? (key?_ofInt ha) (key?_ofInt hb), ← not_lt, hgreater, not_lt]

theorem same_ofInt_iff (ha : a.natAbs < wordLimit) (hb : b.natAbs < wordLimit) :
    (ofInt a).same (ofInt b) = true ↔ nearestInt a = nearestInt b := by
  have hab := greaterOrSame_ofInt_iff ha hb
  have hba := greaterOrSame_ofInt_iff hb ha
  rw [greaterOrSame_iff_of_key? (key?_ofInt ha) (key?_ofInt hb)] at hab
  rw [greaterOrSame_iff_of_key? (key?_ofInt hb) (key?_ofInt ha)] at hba
  rw [same_iff_of_key? (key?_ofInt ha) (key?_ofInt hb), le_antisymm_iff, hba, hab,
    ← le_antisymm_iff]

end Extended

end CloudAudit.Number
