import CloudAudit.Json.Printer
import CloudAudit.Proofs.Number.Numeral

/-!
# Line breaks in texts of JSON trees

Which line breaks of the strings in a tree get into its texts. The compact text escapes those that
are control characters (`lacks_compact_iff`). The text for people shows a string as it is, also in a
list, and an object as the compact text does (`lacks_display_iff`).
-/

namespace CloudAudit

namespace Text

/-! ## Line breaks -/

/-- The line breaks that are no control characters of ASCII: next line, and the separators of lines
and of paragraphs. -/
def isWideBreak (c : Char) : Bool :=
  let n := c.toNat
  n == 0x85 || n == 0x2028 || n == 0x2029

/-- Line feed, vertical tab, form feed and carriage return, and the wide ones. -/
def isLineBreak (c : Char) : Bool :=
  (10 ≤ c.toNat && c.toNat ≤ 13) || isWideBreak c

/-- The text has no character of a kind. -/
def Lacks (kind : Char → Bool) (s : String) : Prop := ∀ c ∈ s.toList, kind c = false

/-- Only the characters of the list are tried, and not all there are. -/
instance decidableForallMem (kind : Char → Bool) (cs : List Char) :
    Decidable (∀ c ∈ cs, kind c = false) :=
  List.decidableBAll (fun c => kind c = false) cs

instance (kind : Char → Bool) (s : String) : Decidable (Lacks kind s) :=
  inferInstanceAs (Decidable (∀ c ∈ s.toList, kind c = false))

variable {kind : Char → Bool}

theorem lacks_ofList_iff {cs : List Char} :
    Lacks kind (String.ofList cs) ↔ ∀ c ∈ cs, kind c = false := by
  rw [Lacks, String.toList_ofList]

theorem lacks_append_iff {s t : String} : Lacks kind (s ++ t) ↔ Lacks kind s ∧ Lacks kind t := by
  simp only [Lacks, String.toList_append, List.forall_mem_append]

theorem lacks_join_iff {separator : String} (h : Lacks kind separator) (parts : List String) :
    Lacks kind (join separator parts) ↔ ∀ part ∈ parts, Lacks kind part := by
  unfold join
  induction parts with
  | nil => simp [Lacks]
  | cons part others ih =>
    rw [List.forall_mem_cons, ← ih]
    cases others with
    | nil => simp [Lacks]
    | cons other others =>
      rw [String.intercalate_cons_cons, lacks_append_iff, lacks_append_iff, and_iff_left h]

theorem isLineBreak_of_isDigit {c : Char} (h : c.isDigit = true) : isLineBreak c = false := by
  simp only [Char.isDigit, Bool.and_eq_true, decide_eq_true_eq] at h
  have hleast : 48 ≤ c.toNat := h.1
  have hmost : c.toNat ≤ 57 := h.2
  simp only [isLineBreak, isWideBreak, Bool.or_eq_false_iff, Bool.and_eq_false_iff,
    decide_eq_false_iff_not, beq_eq_false_iff_ne]
  omega

theorem isLineBreak_eq_isWideBreak {c : Char} (h : 32 ≤ c.toNat) :
    isLineBreak c = isWideBreak c := by
  have hwide : (decide (10 ≤ c.toNat) && decide (c.toNat ≤ 13)) = false := by
    simp only [Bool.and_eq_false_iff, decide_eq_false_iff_not]
    omega
  rw [isLineBreak, hwide, Bool.false_or]

theorem isWideBreak_of_lt {c : Char} (h : c.toNat < 32) : isWideBreak c = false := by
  simp only [isWideBreak, Bool.or_eq_false_iff, beq_eq_false_iff_ne]
  omega

end Text

/-! ## Numbers -/

namespace Number

open Text

theorem lacks_toString (n : Int) : Lacks isLineBreak (toString n) := by
  intro c hc
  cases n with
  | ofNat n =>
    rw [toList_toString_ofNat] at hc
    exact isLineBreak_of_isDigit (isDigit_of_mem_digitsOf hc)
  | negSucc n =>
    rw [toList_toString_negSucc] at hc
    rcases List.mem_cons.mp hc with rfl | hc
    · decide
    · exact isLineBreak_of_isDigit (isDigit_of_mem_digitsOf hc)

section Decimals

variable {digits : List Char} (h : ∀ c ∈ digits, c.isDigit = true) (place : Int)

include h

theorem lacks_positional : Lacks isLineBreak (Decimal.positional digits place) := by
  have hdigits : ∀ c ∈ digits, isLineBreak c = false := fun c hc => isLineBreak_of_isDigit (h c hc)
  have hzeros (count : Nat) : ∀ c ∈ List.replicate count '0', isLineBreak c = false := by
    intro c hc
    rw [List.eq_of_mem_replicate hc]
    decide
  have htake := fun c hc => hdigits c (List.mem_of_mem_take (i := place.toNat) hc)
  have hdrop := fun c hc => hdigits c (List.mem_of_mem_drop (i := place.toNat) hc)
  have hzero : isLineBreak '0' = false := by decide
  have hpoint : isLineBreak '.' = false := by decide
  unfold Decimal.positional
  dsimp only
  rw [lacks_ofList_iff]
  split
  · exact List.forall_mem_cons.mpr
      ⟨hzero, List.forall_mem_cons.mpr ⟨hpoint, List.forall_mem_append.mpr ⟨hzeros _, hdigits⟩⟩⟩
  · split
    · exact List.forall_mem_append.mpr
        ⟨List.forall_mem_append.mpr ⟨hdigits, hzeros _⟩, by simp [hzero, hpoint]⟩
    · exact List.forall_mem_append.mpr ⟨htake, List.forall_mem_cons.mpr ⟨hpoint, hdrop⟩⟩

theorem lacks_scientific : Lacks isLineBreak (Decimal.scientific digits place) := by
  have hdigits : ∀ c ∈ digits, isLineBreak c = false := fun c hc => isLineBreak_of_isDigit (h c hc)
  have hpower : ∀ c ∈ digitsOf (place - 1).natAbs, isLineBreak c = false :=
    fun c hc => isLineBreak_of_isDigit (isDigit_of_mem_digitsOf hc)
  have htake := fun c hc => hdigits c (List.mem_of_mem_take (i := 1) hc)
  have hdrop := fun c hc => hdigits c (List.mem_of_mem_drop (i := 1) hc)
  have hpoint : isLineBreak '.' = false := by decide
  have hmark : ∀ c ∈ ['e', if place - 1 < 0 then '-' else '+'], isLineBreak c = false := by
    split <;> decide
  unfold Decimal.scientific
  dsimp only
  rw [lacks_ofList_iff]
  simp only [List.forall_mem_append]
  refine ⟨⟨⟨htake, ?_⟩, hmark⟩, hpower⟩
  split
  · exact nofun
  · exact List.forall_mem_cons.mpr ⟨hpoint, hdrop⟩

end Decimals

theorem lacks_jsonText (x : Binary64) : Lacks isLineBreak x.jsonText := by
  have hdigits : ∀ c ∈ digitsOf x.shortest.significand, c.isDigit = true :=
    fun _ => isDigit_of_mem_digitsOf
  refine lacks_append_iff.mpr ⟨?_, ?_⟩
  · unfold Decimal.signText
    split <;> decide
  · split
    · exact lacks_positional hdigits _
    · exact lacks_scientific hdigits _

end Number

/-! ## Trees -/

namespace Json

open Text Number

theorem isLineBreak_hexDigit (n : Nat) : isLineBreak (hexDigit n) = false := by
  have hall : ∀ c ∈ "0123456789abcdef".toList, isLineBreak c = false := by decide
  unfold hexDigit
  rw [List.getD_eq_getElem?_getD]
  cases h : "0123456789abcdef".toList[n]? with
  | none => decide
  | some c => exact hall c (List.mem_of_getElem? h)

/-- What stands for a character breaks a line only where the character is a wide break. -/
theorem lacks_escapeChar_iff (c : Char) :
    (∀ d ∈ escapeChar c, isLineBreak d = false) ↔ isWideBreak c = false := by
  unfold escapeChar
  split_ifs with hquote hslash hfeed hreturn htab hback hform hcontrol
  · subst hquote; decide
  · subst hslash; decide
  · subst hfeed; decide
  · subst hreturn; decide
  · subst htab; decide
  · exact iff_of_true (by decide) (isWideBreak_of_lt (by omega))
  · exact iff_of_true (by decide) (isWideBreak_of_lt (by omega))
  · refine iff_of_true ?_ (isWideBreak_of_lt hcontrol)
    simp only [List.forall_mem_cons, isLineBreak_hexDigit]
    decide
  · rw [List.forall_mem_singleton, isLineBreak_eq_isWideBreak (Nat.le_of_not_lt hcontrol)]

theorem lacks_quoted_iff (s : String) :
    Text.Lacks isLineBreak (quoted s) ↔ Text.Lacks isWideBreak s := by
  have hmark : Text.Lacks isLineBreak "\"" := by decide
  rw [quoted, lacks_append_iff, lacks_append_iff, and_iff_left hmark, and_iff_right hmark,
    replaceChars, lacks_ofList_iff, List.forall_mem_flatMap]
  simp only [lacks_escapeChar_iff]
  rfl

mutual

/-- No text in the tree has a character of a kind, and no key. -/
def Lacks (kind : Char → Bool) : Json → Prop
  | string s => Text.Lacks kind s
  | array items => LacksItems kind items
  | object members => LacksMembers kind members
  | _ => True

def LacksItems (kind : Char → Bool) : List Json → Prop
  | [] => True
  | item :: rest => Lacks kind item ∧ LacksItems kind rest

def LacksMembers (kind : Char → Bool) : List (String × Json) → Prop
  | [] => True
  | (key, value) :: rest => (Text.Lacks kind key ∧ Lacks kind value) ∧ LacksMembers kind rest

end

mutual

/-- No string that is shown as it is has a line break, and no text in an object a wide one. -/
def ShownInOneLine : Json → Prop
  | string s => Text.Lacks isLineBreak s
  | array items => AllShownInOneLine items
  | object members => LacksMembers isWideBreak members
  | _ => True

def AllShownInOneLine : List Json → Prop
  | [] => True
  | item :: rest => ShownInOneLine item ∧ AllShownInOneLine rest

end

/-! ### Their texts -/

/-- A bracketed list of parts goes on in one line just when all parts do. -/
theorem lacks_bracketed_iff {opening closing : String} (hopening : Text.Lacks isLineBreak opening)
    (hclosing : Text.Lacks isLineBreak closing) (parts : List String) :
    Text.Lacks isLineBreak (opening ++ Text.join "," parts ++ closing) ↔
      ∀ part ∈ parts, Text.Lacks isLineBreak part := by
  rw [lacks_append_iff, lacks_append_iff, and_iff_left hclosing, and_iff_right hopening,
    lacks_join_iff (by decide)]

mutual

theorem lacks_compact_iff (j : Json) :
    Text.Lacks isLineBreak j.compact ↔ j.Lacks isWideBreak := by
  match j with
  | .null => exact iff_of_true (by decide) trivial
  | .bool b => exact iff_of_true (by cases b <;> decide) trivial
  | .int n => exact iff_of_true (lacks_toString n) trivial
  | .float x => exact iff_of_true (lacks_jsonText x) trivial
  | .string s => exact lacks_quoted_iff s
  | .array items =>
    exact (lacks_bracketed_iff (by decide) (by decide) _).trans (lacks_compactItems_iff items)
  | .object members =>
    exact (lacks_bracketed_iff (by decide) (by decide) _).trans (lacks_compactMembers_iff members)

theorem lacks_compactItems_iff (items : List Json) :
    (∀ part ∈ compactItems items, Text.Lacks isLineBreak part) ↔
      LacksItems isWideBreak items := by
  match items with
  | [] => simp [compactItems, LacksItems]
  | item :: rest =>
    rw [compactItems, List.forall_mem_cons, lacks_compact_iff item, lacks_compactItems_iff rest,
      LacksItems]

theorem lacks_compactMembers_iff (members : List (String × Json)) :
    (∀ part ∈ compactMembers members, Text.Lacks isLineBreak part) ↔
      LacksMembers isWideBreak members := by
  match members with
  | [] => simp [compactMembers, LacksMembers]
  | (key, value) :: rest =>
    have hcolon : Text.Lacks isLineBreak ":" := by decide
    rw [compactMembers, List.forall_mem_cons, lacks_append_iff, lacks_append_iff,
      and_iff_left hcolon, lacks_quoted_iff, lacks_compact_iff value,
      lacks_compactMembers_iff rest, LacksMembers]

end

mutual

theorem lacks_display_iff (j : Json) :
    Text.Lacks isLineBreak j.display ↔ j.ShownInOneLine := by
  match j with
  | .string s => exact Iff.rfl
  | .array items =>
    exact (lacks_bracketed_iff (by decide) (by decide) _).trans (lacks_displayItems_iff items)
  | .object members => exact lacks_compact_iff (.object members)
  | .null => exact lacks_compact_iff .null
  | .bool b => exact lacks_compact_iff (.bool b)
  | .int n => exact lacks_compact_iff (.int n)
  | .float x => exact lacks_compact_iff (.float x)

theorem lacks_displayItems_iff (items : List Json) :
    (∀ part ∈ displayItems items, Text.Lacks isLineBreak part) ↔ AllShownInOneLine items := by
  match items with
  | [] => simp [displayItems, AllShownInOneLine]
  | item :: rest =>
    rw [displayItems, List.forall_mem_cons, lacks_display_iff item, lacks_displayItems_iff rest,
      AllShownInOneLine]

end

end Json

end CloudAudit
