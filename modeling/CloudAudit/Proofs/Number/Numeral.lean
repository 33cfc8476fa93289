import CloudAudit.Number.Decimal
import CloudAudit.Proofs.Number.Digits
import Mathlib.Data.List.TakeWhile

/-!
# Numerals of whole numbers

The decimal numeral of a whole number, with a minus sign in front of a negative one, is read back as
the floating point value nearest to the number (`readExtended?_toString`), also when it is trimmed
before.
-/

namespace CloudAudit.Number

/-! ## Digits alone -/

theorem isDigit_of_mem_digitsOf {n : Nat} {c : Char} (h : c ∈ digitsOf n) : c.isDigit = true :=
  Nat.isDigit_of_mem_toDigits (by decide) (by decide) h

theorem exists_digitsOf_eq_cons (n : Nat) :
    ∃ c rest, digitsOf n = c :: rest ∧ c.isDigit = true := by
  obtain ⟨c, rest, h⟩ := List.exists_cons_of_length_pos
    (show 0 < (digitsOf n).length from Nat.length_toDigits_pos)
  exact ⟨c, rest, h, isDigit_of_mem_digitsOf (h ▸ List.mem_cons_self)⟩

theorem takeWhile_digitsOf (n : Nat) : (digitsOf n).takeWhile Char.isDigit = digitsOf n :=
  List.takeWhile_eq_self_iff.mpr fun _ hc => isDigit_of_mem_digitsOf hc

theorem dropWhile_digitsOf (n : Nat) : (digitsOf n).dropWhile Char.isDigit = [] :=
  List.dropWhile_eq_nil_iff.mpr fun _ hc => isDigit_of_mem_digitsOf hc

theorem readDecimal?_digitsOf (negative : Bool) (n : Nat) :
    readDecimal? negative (digitsOf n) = some ⟨negative, n, 0⟩ := by
  obtain ⟨c, rest, hcons, -⟩ := exists_digitsOf_eq_cons n
  have hsome : (digitsOf n).isEmpty = false := by rw [hcons]; rfl
  unfold readDecimal?
  rw [takeWhile_digitsOf, dropWhile_digitsOf]
  simp [hsome, readExponent?, ofDigits_digitsOf]

theorem toLower_of_isDigit {c : Char} (h : c.isDigit = true) : c.toLower = c := by
  simp only [Char.isDigit, Bool.and_eq_true, decide_eq_true_eq] at h
  have hmost : c.toNat ≤ 57 := h.2
  refine dif_neg fun hupper => ?_
  have hleast : 65 ≤ c.toNat := hupper.1
  omega

/-- A name begins with a letter. -/
theorem readNamed?_of_isDigit (negative : Bool) {c : Char} (h : c.isDigit = true)
    (rest : List Char) : readNamed? negative (c :: rest) = none := by
  have hname {d : Char} (hd : d.isDigit = false) {name : List Char} (hn : name.head? = some d) :
      (c :: rest).map Char.toLower ≠ name := by
    rintro rfl
    obtain rfl : c.toLower = d := Option.some.inj hn
    rw [toLower_of_isDigit h, h] at hd
    exact nomatch hd
  unfold readNamed?
  dsimp only
  rw [if_neg (not_or.mpr ⟨hname (d := 'i') rfl rfl, hname (d := 'i') rfl rfl⟩),
    if_neg (hname (d := 'n') rfl rfl)]

theorem takeSign_of_isDigit {c : Char} (h : c.isDigit = true) (rest : List Char) :
    takeSign (c :: rest) = (false, c :: rest) := by
  unfold takeSign
  split
  · next heq => obtain ⟨rfl, -⟩ := List.cons.inj heq; exact absurd h (by decide)
  · next heq => obtain ⟨rfl, -⟩ := List.cons.inj heq; exact absurd h (by decide)
  · rfl

theorem readExtended?_of_takeSign {cs : List Char} {negative : Bool} {n : Nat}
    (h : takeSign cs = (negative, digitsOf n)) :
    readExtended? cs = some (Decimal.toExtended ⟨negative, n, 0⟩) := by
  obtain ⟨c, rest, hcons, hc⟩ := exists_digitsOf_eq_cons n
  have hnamed : readNamed? negative (digitsOf n) = none :=
    hcons ▸ readNamed?_of_isDigit negative hc rest
  unfold readExtended?
  rw [h]
  dsimp only
  rw [hnamed, readDecimal?_digitsOf, Option.map_some]

/-! ## Whole numbers -/

theorem toExtended_whole (negative : Bool) {n : Nat} (hpos : n ≠ 0) (h : n < wordLimit) :
    Decimal.toExtended ⟨negative, n, 0⟩ = Extended.ofRatio negative n 1 := by
  have hlog : n.log2 < 64 := (Nat.log2_lt hpos).mpr h
  have hpower : n * tenTo (Int.toNat 0) = n := Nat.mul_one n
  unfold Decimal.toExtended
  dsimp only
  rw [if_neg hpos, if_pos (by omega), if_neg (by omega), hpower]

theorem toList_toString_ofNat (n : Nat) : (toString (Int.ofNat n)).toList = digitsOf n :=
  Nat.toList_repr

theorem toList_toString_negSucc (n : Nat) :
    (toString (Int.negSucc n)).toList = '-' :: digitsOf (n + 1) := by
  show ("-" ++ (n + 1).repr).toList = _
  rw [String.toList_append, Nat.toList_repr]
  rfl

theorem isBlank_of_mem_toString {n : Int} {c : Char} (h : c ∈ (toString n).toList) :
    Text.isBlank c = false := by
  cases n with
  | ofNat n =>
    rw [toList_toString_ofNat] at h
    exact isBlank_of_isDigit (isDigit_of_mem_digitsOf h)
  | negSucc n =>
    rw [toList_toString_negSucc] at h
    rcases List.mem_cons.mp h with rfl | h
    · decide
    · exact isBlank_of_isDigit (isDigit_of_mem_digitsOf h)

/-- **A whole number is read back from its numeral.** -/
theorem readExtended?_toString {n : Int} (h : n.natAbs < wordLimit) :
    readExtended? (toString n).toList = some (Extended.ofInt n) := by
  cases n with
  | ofNat n =>
    obtain ⟨c, rest, hcons, hc⟩ := exists_digitsOf_eq_cons n
    have hsign : takeSign (digitsOf n) = (false, digitsOf n) := hcons ▸ takeSign_of_isDigit hc rest
    rw [toList_toString_ofNat, readExtended?_of_takeSign hsign]
    by_cases hpos : n = 0
    · subst hpos
      decide +kernel
    · have hleast : ¬ Int.ofNat n < 0 := Int.not_lt.mpr (Int.natCast_nonneg n)
      rw [toExtended_whole false hpos h, Extended.ofInt, decide_eq_false hleast]
      rfl
  | negSucc n =>
    have hsign : takeSign ('-' :: digitsOf (n + 1)) = (true, digitsOf (n + 1)) := rfl
    rw [toList_toString_negSucc, readExtended?_of_takeSign hsign,
      toExtended_whole true (Nat.succ_ne_zero n) h, Extended.ofInt,
      decide_eq_true (Int.negSucc_lt_zero n), Int.natAbs_negSucc]

end CloudAudit.Number

namespace CloudAudit.Text

/-- Nothing is cut from a text without blank characters. -/
theorem trimChars_of_not_blank {cs : List Char} (h : ∀ c ∈ cs, isBlank c = false) :
    trimChars cs = cs := by
  have hkept {cs : List Char} (h : ∀ c ∈ cs, isBlank c = false) : cs.dropWhile isBlank = cs := by
    cases cs with
    | nil => rfl
    | cons c rest => exact List.dropWhile_cons_of_neg (by simp [h c List.mem_cons_self])
  unfold trimChars dropBlanks dropBlanksEnd
  rw [hkept h, hkept fun c hc => h c (List.mem_reverse.mp hc), List.reverse_reverse]

end CloudAudit.Text
