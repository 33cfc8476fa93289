import CloudAudit.Number.Natural
import CloudAudit.Text.Blank
import Mathlib.Data.Nat.Basic

/-!
# Digits

A number is read back from its digits, also with zeros in front of them (`ofDigits_padded`).
-/

namespace CloudAudit.Number

theorem ofDigits_digitsOf (n : Nat) : ofDigits (digitsOf n) = n :=
  Nat.ofDigitChars_toDigits (by decide) (by decide)

theorem ofDigits_zeros_append (count : Nat) (digits : List Char) :
    ofDigits (List.replicate count '0' ++ digits) = ofDigits digits := by
  induction count with
  | zero => rfl
  | succ count ih => exact ih

theorem ofDigits_padded (width n : Nat) : ofDigits (padded width n) = n :=
  (ofDigits_zeros_append _ _).trans (ofDigits_digitsOf n)

theorem isDigit_of_mem_padded {width n : Nat} {c : Char} (h : c ∈ padded width n) :
    c.isDigit = true := by
  rcases List.mem_append.mp h with h | h
  · rw [List.eq_of_mem_replicate h]
    rfl
  · exact Nat.isDigit_of_mem_toDigits (by decide) (by decide) h

theorem length_padded {width n : Nat} (hw : 0 < width) (hn : n < tenTo width) :
    (padded width n).length = width := by
  have hlength : (digitsOf n).length ≤ width :=
    (Nat.length_toDigits_le_iff (by decide) hw).mpr hn
  unfold padded
  rw [List.length_append, List.length_replicate]
  omega

theorem exists_padded_eq_cons {width n : Nat} (hw : 0 < width) (hn : n < tenTo width) :
    ∃ c rest, padded width n = c :: rest ∧ c.isDigit = true := by
  obtain ⟨c, rest, h⟩ := List.exists_cons_of_length_pos (length_padded hw hn ▸ hw)
  exact ⟨c, rest, h, isDigit_of_mem_padded (h ▸ List.mem_cons_self)⟩

/-- No digit is blank. -/
theorem isBlank_of_isDigit {c : Char} (h : c.isDigit = true) : Text.isBlank c = false := by
  simp only [Char.isDigit, Bool.and_eq_true, decide_eq_true_eq] at h
  have hleast : 48 ≤ c.toNat := h.1
  have hmost : c.toNat ≤ 57 := h.2
  unfold Text.isBlank
  simp only [Bool.or_eq_false_iff, Bool.and_eq_false_iff, decide_eq_false_iff_not,
    beq_eq_false_iff_ne]
  omega

end CloudAudit.Number
