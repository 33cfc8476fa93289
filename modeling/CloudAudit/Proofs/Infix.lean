import CloudAudit.Text.Blank
import CloudAudit.Text.Segments
import Mathlib.Data.List.Infix

/-!
# Texts inside texts

Where a text stands inside another one that is put together from parts, or that something was cut
from. A text with no blank at its ends is found in a text without the blanks around it just when it
is found in the text (`contains_trim`).
-/

namespace CloudAudit

section Infix

variable {α : Type} {needle : List α}

/-- An element that the text does not have cuts whatever it is looked for in. -/
theorem infix_append_cons_iff {c : α} (hc : c ∉ needle) (front rest : List α) :
    needle <:+: front ++ c :: rest ↔ needle <:+: front ∨ needle <:+: rest := by
  constructor
  · intro h
    rcases List.infix_append_iff.mp h with h | h | ⟨start, tail, rfl, hstart, htail⟩
    · exact .inl h
    -- whatever starts at the cut, or goes over it, has `c` in it or stops there
    · rcases List.infix_cons_iff.mp h with h | h
      · rcases List.prefix_cons_iff.mp h with rfl | ⟨tail, rfl, -⟩
        · exact .inl List.nil_infix
        · exact absurd List.mem_cons_self hc
      · exact .inr h
    · rcases List.prefix_cons_iff.mp htail with rfl | ⟨tail, rfl, -⟩
      · rw [List.append_nil]
        exact .inl hstart.isInfix
      · exact absurd (List.mem_append_right start List.mem_cons_self) hc
  · rintro (h | h)
    · exact h.trans (List.prefix_append front _).isInfix
    · exact h.trans ((List.suffix_cons c rest).trans (List.suffix_append front _)).isInfix

theorem infix_cons_iff_of_head?_ne {c : α} (hc : needle.head? ≠ some c) (hn : needle ≠ [])
    (rest : List α) : needle <:+: c :: rest ↔ needle <:+: rest := by
  rw [List.infix_cons_iff, or_iff_right]
  intro h
  rcases List.prefix_cons_iff.mp h with rfl | ⟨tail, rfl, -⟩
  · exact hn rfl
  · exact hc rfl

theorem not_infix_of_not_mem {c : α} (hc : c ∈ needle) {hay : List α} (h : c ∉ hay) :
    ¬ needle <:+: hay :=
  fun hi => h (hi.subset hc)

/-- Where each part is cut off from what follows, the parts can be looked at one by one. -/
theorem infix_flatMap_append_iff {β : Type} {parts : β → List α} {holds : β → Prop}
    (h : ∀ value rest, needle <:+: parts value ++ rest ↔ holds value ∨ needle <:+: rest)
    (values : List β) (rest : List α) :
    needle <:+: values.flatMap parts ++ rest ↔
      (∃ value ∈ values, holds value) ∨ needle <:+: rest := by
  induction values with
  | nil => simp
  | cons value others ih =>
    rw [List.flatMap_cons, List.append_assoc, h, ih, List.exists_mem_cons_iff, or_assoc]

end Infix

/-! ## Without the blanks around -/

section Cut

variable {α : Type} {needle : List α} {p : α → Bool}

/-- What is cut in front has no part in a text that begins with something else. -/
theorem infix_dropWhile_iff (h : ∀ c ∈ needle.head?, p c = false) (hay : List α) :
    needle <:+: hay.dropWhile p ↔ needle <:+: hay := by
  induction hay with
  | nil => rfl
  | cons c rest ih =>
    by_cases hc : p c = true
    · have hhead : needle.head? ≠ some c := fun he => by simp [h c he] at hc
      by_cases hn : needle = []
      · subst hn
        exact iff_of_true List.nil_infix List.nil_infix
      · rw [List.dropWhile_cons_of_pos hc, ih, infix_cons_iff_of_head?_ne hhead hn]
    · rw [List.dropWhile_cons_of_neg hc]

theorem infix_dropWhileEnd_iff (h : ∀ c ∈ needle.getLast?, p c = false) (hay : List α) :
    needle <:+: (hay.reverse.dropWhile p).reverse ↔ needle <:+: hay := by
  rw [← List.reverse_infix, List.reverse_reverse, infix_dropWhile_iff, List.reverse_infix]
  rwa [List.head?_reverse]

end Cut

namespace Text

theorem contains_iff {hay needle : String} :
    contains hay needle = true ↔ needle.toList <:+: hay.toList :=
  occursIn_iff

/-- Blanks around a text do not hide what is in it. -/
theorem contains_trim {needle : String} (hfirst : ∀ c ∈ needle.toList.head?, isBlank c = false)
    (hlast : ∀ c ∈ needle.toList.getLast?, isBlank c = false) (hay : String) :
    contains (trim hay) needle = contains hay needle := by
  rw [Bool.eq_iff_iff, contains_iff, contains_iff, trim, String.toList_ofList, trimChars,
    dropBlanksEnd, dropBlanks, infix_dropWhileEnd_iff hlast, infix_dropWhile_iff hfirst]

end Text

end CloudAudit
