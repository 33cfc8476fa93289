import CloudAudit.Proofs.Number.Numeral

/-!
# Unsigned numerals

What an unsigned number of 64 bits may look like, told without its reader: the reader accepts just
that (`readUnsigned?_eq_some_iff`), and the digits of a number are one of its numerals.
-/

namespace CloudAudit.Number

/-- Digits of a number of 64 bits, zeros in front allowed, and one plus sign before them. -/
structure IsUnsigned (cs : List Char) (n : Nat) : Prop where
  digits : ∃ digits, (cs = digits ∨ cs = '+' :: digits) ∧ digits ≠ [] ∧
    (∀ c ∈ digits, c.isDigit = true) ∧ ofDigits digits = n
  lt_limit : n < wordLimit

theorem isNumeral_iff {cs : List Char} :
    isNumeral cs = true ↔ cs ≠ [] ∧ ∀ c ∈ cs, c.isDigit = true := by
  simp [isNumeral]

theorem dropPlus_of_ne {cs : List Char} (h : cs.head? ≠ some '+') : dropPlus cs = cs := by
  unfold dropPlus
  split
  · exact absurd rfl h
  · rfl

/-- The text without its plus sign is the text, or lacks the sign only. -/
theorem eq_or_eq_cons_dropPlus (cs : List Char) : cs = dropPlus cs ∨ cs = '+' :: dropPlus cs := by
  unfold dropPlus
  split
  · exact .inr rfl
  · exact .inl rfl

theorem readUnsigned?_eq_some_iff {cs : List Char} {n : Nat} :
    readUnsigned? cs = some n ↔ IsUnsigned cs n := by
  simp only [readUnsigned?, Option.ite_none_right_eq_some, Bool.and_eq_true, isNumeral_iff,
    decide_eq_true_eq, Option.some.injEq]
  constructor
  · rintro ⟨⟨⟨hne, hdigits⟩, hlt⟩, rfl⟩
    exact ⟨⟨dropPlus cs, eq_or_eq_cons_dropPlus cs, hne, hdigits, rfl⟩, hlt⟩
  · rintro ⟨⟨digits, hcs, hne, hdigits, rfl⟩, hlt⟩
    have hdrop : dropPlus cs = digits := by
      rcases hcs with rfl | rfl
      · refine dropPlus_of_ne fun hhead => ?_
        exact absurd (hdigits '+' (List.mem_of_mem_head? hhead)) (by decide)
      · rfl
    rw [hdrop]
    exact ⟨⟨⟨hne, hdigits⟩, hlt⟩, rfl⟩

theorem isUnsigned_digitsOf {n : Nat} (h : n < wordLimit) : IsUnsigned (digitsOf n) n where
  digits := ⟨digitsOf n, .inl rfl, Nat.toDigits_ne_nil, fun _ => isDigit_of_mem_digitsOf,
    ofDigits_digitsOf n⟩
  lt_limit := h

end CloudAudit.Number
