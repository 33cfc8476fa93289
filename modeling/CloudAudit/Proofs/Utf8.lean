import CloudAudit.Text.Utf8

/-!
# Texts and their bytes

The bytes of a text are decoded to that text (`decodeLossy_toUTF8`). The first byte of a character
tells how many follow and in which range the next one is, and each byte that follows adds six bits.
-/

namespace CloudAudit.Text.Utf8

/-! ## First bytes -/

theorem start?_two {lead : Nat} (hlow : 2 ≤ lead) (hhigh : lead < 32) :
    start? (lead + 192) = some ⟨lead, [anyContinuation]⟩ := by
  unfold start?
  rw [if_pos (by omega), Nat.add_sub_cancel]

/-- Neither a shorter character nor half of a pair is spelled in three bytes. -/
theorem start?_three {lead middle : Nat} (hlead : lead < 16) (hmiddle : middle < 64)
    (hlow : lead = 0 → 32 ≤ middle) (hhigh : lead = 13 → middle < 32) :
    ∃ range, start? (lead + 224) = some ⟨lead, [range, anyContinuation]⟩ ∧
      range.1 ≤ middle + 128 ∧ middle + 128 ≤ range.2 := by
  by_cases hfirst : lead = 0
  · subst hfirst
    exact ⟨(0xA0, 0xBF), rfl, Nat.add_le_add_right (hlow rfl) 128, by omega⟩
  by_cases hpairs : lead = 13
  · subst hpairs
    exact ⟨(0x80, 0x9F), rfl, Nat.le_add_left 128 middle, by have := hhigh rfl; omega⟩
  refine ⟨anyContinuation, ?_, Nat.le_add_left 128 middle, ?_⟩
  · unfold start?
    rw [if_neg (by omega), if_neg (by omega), if_neg (by omega), if_pos (by omega),
      Nat.add_sub_cancel]
  · show middle + 128 ≤ 0xBF
    omega

/-- Neither a shorter character nor anything above the last one is spelled in four bytes. -/
theorem start?_four {lead second : Nat} (hlead : lead ≤ 4) (hsecond : second < 64)
    (hlow : lead = 0 → 16 ≤ second) (hhigh : lead = 4 → second < 16) :
    ∃ range, start? (lead + 240) = some ⟨lead, [range, anyContinuation, anyContinuation]⟩ ∧
      range.1 ≤ second + 128 ∧ second + 128 ≤ range.2 := by
  by_cases hfirst : lead = 0
  · subst hfirst
    exact ⟨(0x90, 0xBF), rfl, Nat.add_le_add_right (hlow rfl) 128, by omega⟩
  by_cases hlast : lead = 4
  · subst hlast
    exact ⟨(0x80, 0x8F), rfl, Nat.le_add_left 128 second, by have := hhigh rfl; omega⟩
  refine ⟨anyContinuation, ?_, Nat.le_add_left 128 second, ?_⟩
  · unfold start?
    rw [if_neg (by omega), if_neg (by omega), if_neg (by omega), if_neg (by omega),
      if_neg (by omega), if_pos (by omega), Nat.add_sub_cancel]
  · show second + 128 ≤ 0xBF
    omega

/-! ## Bytes one after the other -/

section Bytes

variable {n bits : Nat} {range next : Nat × Nat} {ranges : List (Nat × Nat)} (rest : List UInt8)

theorem decodeFrom_single (hn : n < 128) :
    decodeFrom none (UInt8.ofNat n :: rest) = Char.ofNat n :: decodeFrom none rest := by
  have hbyte : (UInt8.ofNat n).toNat = n :=
    UInt8.toNat_ofNat_of_lt' (show n < 256 by omega)
  rw [decodeFrom, hbyte, step, first, if_pos hn]
  rfl

theorem decodeFrom_start {pending : Pending} (hlow : 128 ≤ n) (hn : n < 256)
    (h : start? n = some pending) :
    decodeFrom none (UInt8.ofNat n :: rest) = decodeFrom (some pending) rest := by
  have hbyte : (UInt8.ofNat n).toNat = n := UInt8.toNat_ofNat_of_lt' hn
  rw [decodeFrom, hbyte, step, first, if_neg (Nat.not_lt.mpr hlow), h]
  rfl

theorem toNat_continuation (hn : n < 64) : (UInt8.ofNat (n + 128)).toNat = n + 128 :=
  UInt8.toNat_ofNat_of_lt' (show n + 128 < 256 by omega)

/-- A byte in its range adds its bits to those that were read. -/
theorem decodeFrom_more (hn : n < 64) (hlow : range.1 ≤ n + 128) (hhigh : n + 128 ≤ range.2) :
    decodeFrom (some ⟨bits, range :: next :: ranges⟩) (UInt8.ofNat (n + 128) :: rest) =
      decodeFrom (some ⟨bits * 64 + n, next :: ranges⟩) rest := by
  rw [decodeFrom, toNat_continuation hn, step, if_pos ⟨hlow, hhigh⟩, Nat.add_sub_cancel]
  rfl

/-- The last byte of a character ends it. -/
theorem decodeFrom_last (hn : n < 64) :
    decodeFrom (some ⟨bits, [anyContinuation]⟩) (UInt8.ofNat (n + 128) :: rest) =
      Char.ofNat (bits * 64 + n) :: decodeFrom none rest := by
  have hrange : anyContinuation.1 ≤ n + 128 ∧ n + 128 ≤ anyContinuation.2 :=
    ⟨Nat.le_add_left 128 n, by show n + 128 ≤ 0xBF; omega⟩
  rw [decodeFrom, toNat_continuation hn, step, if_pos hrange, Nat.add_sub_cancel]
  rfl

end Bytes

/-! ## Texts -/

/-- **Characters.** The bytes of a character are decoded to it, whatever comes after. -/
theorem decodeFrom_encode (c : Char) (rest : List UInt8) :
    decodeFrom none (String.utf8EncodeChar c ++ rest) = c :: decodeFrom none rest := by
  have hvalid : c.val.toNat < 0xD800 ∨ 0xDFFF < c.val.toNat ∧ c.val.toNat < 0x110000 := c.valid
  have hc : Char.ofNat c.val.toNat = c := Char.ofNat_toNat c
  unfold String.utf8EncodeChar
  generalize c.val.toNat = v at hvalid hc
  have hany : anyContinuation.1 ≤ v / 64 % 64 + 128 ∧ v / 64 % 64 + 128 ≤ anyContinuation.2 :=
    ⟨Nat.le_add_left 128 _, by show v / 64 % 64 + 128 ≤ 0xBF; omega⟩
  have hlast : v % 64 < 64 := Nat.mod_lt v (by decide)
  have hthird : v / 64 % 64 < 64 := Nat.mod_lt (v / 64) (by decide)
  have hsecond : v / 4096 % 64 < 64 := Nat.mod_lt (v / 4096) (by decide)
  dsimp only
  by_cases hone : v ≤ 127
  · rw [if_pos hone, List.singleton_append, decodeFrom_single rest (by omega), hc]
  rw [if_neg hone]
  by_cases htwo : v ≤ 2047
  · rw [if_pos htwo, List.cons_append, List.singleton_append,
      decodeFrom_start _ (by omega) (by omega) (start?_two (by omega) (by omega)),
      decodeFrom_last rest hlast]
    rw [show v / 64 % 32 * 64 + v % 64 = v by omega, hc]
  rw [if_neg htwo]
  by_cases hthree : v ≤ 65535
  · obtain ⟨range, hstart, hlow, hhigh⟩ :=
      @start?_three (v / 4096 % 16) (v / 64 % 64) (by omega) hthird (by omega) (by omega)
    rw [if_pos hthree, List.cons_append, List.cons_append, List.singleton_append,
      decodeFrom_start _ (by omega) (by omega) hstart, decodeFrom_more _ hthird hlow hhigh,
      decodeFrom_last rest hlast]
    rw [show (v / 4096 % 16 * 64 + v / 64 % 64) * 64 + v % 64 = v by omega, hc]
  · obtain ⟨range, hstart, hlow, hhigh⟩ :=
      @start?_four (v / 262144 % 8) (v / 4096 % 64) (by omega) hsecond (by omega) (by omega)
    rw [if_neg hthree, List.cons_append, List.cons_append, List.cons_append,
      List.singleton_append, decodeFrom_start _ (by omega) (by omega) hstart,
      decodeFrom_more _ hsecond hlow hhigh, decodeFrom_more _ hthird hany.1 hany.2,
      decodeFrom_last rest hlast]
    rw [show ((v / 262144 % 8 * 64 + v / 4096 % 64) * 64 + v / 64 % 64) * 64 + v % 64 = v by
      omega, hc]

theorem decodeFrom_flatMap (cs : List Char) :
    decodeFrom none (cs.flatMap String.utf8EncodeChar) = cs := by
  induction cs with
  | nil => rfl
  | cons c rest ih => rw [List.flatMap_cons, decodeFrom_encode, ih]

/-- **Texts.** What is valid stays as it is. -/
theorem decodeLossy_toUTF8 (text : String) : decodeLossy text.toUTF8.data.toList = text := by
  have hbytes : text.toUTF8.data.toList = text.toList.flatMap String.utf8EncodeChar := by
    rw [String.toUTF8_eq_toByteArray, ← String.utf8Encode_toList]
    exact List.toList_data_toByteArray
  rw [decodeLossy, hbytes, decodeFrom_flatMap, String.ofList_toList]

/-- A byte that starts no character, and a character that is cut off. -/
example : decodeLossy [0x61, 0xFF, 0x62, 0xE2, 0x82] = "a\ufffdb\ufffd" := by decide +kernel

end CloudAudit.Text.Utf8
