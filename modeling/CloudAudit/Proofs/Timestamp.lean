import CloudAudit.Proofs.Except
import CloudAudit.Proofs.Number.Digits
import CloudAudit.Timestamp

/-!
# Written timestamps are read back

The parts of a written moment are read one after the other: each number has as many digits as are
asked for at most, or ends in front of something that is no digit. So reading gives back the moment
that was written (`parse?_text`), from the first day of the year 0 to the last of the year 9999.
-/

namespace CloudAudit.Timestamp

open Number

/-! ## Parts -/

theorem takeWhile_isDigit_padded (width n : Nat) (rest : List Char)
    (h : ∀ c ∈ rest.head?, c.isDigit = false) :
    (padded width n ++ rest).takeWhile Char.isDigit = padded width n := by
  rw [List.takeWhile_append_of_pos fun c hc => isDigit_of_mem_padded hc]
  cases rest with
  | nil => simp
  | cons c rest => simp [h c rfl]

theorem dropBlanks_of_head {cs : List Char} (h : ∀ c ∈ cs.head?, Text.isBlank c = false) :
    Text.dropBlanks cs = cs := by
  cases cs with
  | nil => rfl
  | cons c rest => exact List.dropWhile_cons_of_neg (by simp [h c rfl])

section Padded

variable {width n : Nat} (hw : 0 < width) (hn : n < tenTo width) (rest : List Char)

include hw hn

theorem takeNumber?_padded : takeNumber? width (padded width n ++ rest) = some (n, rest) := by
  have hlength := length_padded hw hn
  have htake : (padded width n ++ rest).take width = padded width n := List.take_left' hlength
  have hdigits : (padded width n).takeWhile Char.isDigit = padded width n := by
    simpa using takeWhile_isDigit_padded width n [] nofun
  obtain ⟨c, more, hcons, -⟩ := exists_padded_eq_cons hw hn
  have hsome : (padded width n).isEmpty = false := by rw [hcons]; rfl
  unfold takeNumber?
  rw [htake, hdigits]
  dsimp only
  rw [hsome, if_neg Bool.false_ne_true, ofDigits_padded, hlength, List.drop_left' hlength]

theorem dropBlanks_padded :
    Text.dropBlanks (padded width n ++ rest) = padded width n ++ rest := by
  obtain ⟨c, more, hcons, hc⟩ := exists_padded_eq_cons hw hn
  refine dropBlanks_of_head fun first hf => ?_
  rw [hcons] at hf
  obtain rfl : c = first := Option.some.inj hf
  exact isBlank_of_isDigit hc

theorem takeField?_padded : takeField? width (padded width n ++ rest) = some (n, rest) := by
  rw [takeField?, dropBlanks_padded hw hn, takeNumber?_padded hw hn]

/-- A fraction of as many digits as its width says. -/
theorem takeFraction?_padded (h9 : width ≤ 9) (hrest : ∀ c ∈ rest.head?, c.isDigit = false) :
    takeFraction? ('.' :: padded width n ++ rest) = some (n * tenTo (9 - width), rest) := by
  have hlength := length_padded hw hn
  have hkept : (padded width n).take 9 = padded width n :=
    List.take_of_length_le (by rw [hlength]; exact h9)
  obtain ⟨c, more, hcons, -⟩ := exists_padded_eq_cons hw hn
  have hsome : (padded width n).isEmpty = false := by rw [hcons]; rfl
  rw [List.cons_append, takeFraction?, takeWhile_isDigit_padded width n rest hrest, hkept, hsome,
    if_neg Bool.false_ne_true, ofDigits_padded, hlength, List.drop_left' hlength]

end Padded

theorem takeMark?_self {mark : Char} (h : Text.isBlank mark = false) (rest : List Char) :
    takeMark? mark (mark :: rest) = some rest := by
  have hkept : Text.dropBlanks (mark :: rest) = mark :: rest :=
    dropBlanks_of_head fun c hc => Option.some.inj (Option.mem_def.mp hc) ▸ h
  rw [takeMark?, hkept]
  exact if_pos rfl

theorem takeYear?_padded {year : Nat} (h : year < tenTo 4) (rest : List Char) :
    takeYear? (padded 4 year ++ rest) = some ((year : Int), rest) := by
  have hnumber := takeNumber?_padded (by decide) h rest
  obtain ⟨c, more, hcons, hc⟩ := exists_padded_eq_cons (by decide) h
  rw [takeYear?, dropBlanks_padded (by decide) h]
  rw [hcons, List.cons_append] at hnumber ⊢
  split
  · next heq => obtain ⟨rfl, -⟩ := List.cons.inj heq; exact absurd hc (by decide)
  · next heq => obtain ⟨rfl, -⟩ := List.cons.inj heq; exact absurd hc (by decide)
  · rw [hnumber]
    rfl

/-- The nanoseconds are read back from any of the four forms. -/
theorem takeFraction?_fractionText {nano : Nat} (h : nano < 1000000000) {rest : List Char}
    (hrest : ∀ c ∈ rest.head?, c.isDigit = false ∧ c ≠ '.') :
    takeFraction? (fractionText nano ++ rest) = some (nano, rest) := by
  have hdigit : ∀ c ∈ rest.head?, c.isDigit = false := fun c hc => (hrest c hc).1
  have hforms (width : Nat) (hw : 0 < width) (h9 : width ≤ 9)
      (hdvd : nano % tenTo (9 - width) = 0) :
      takeFraction? ('.' :: padded width (nano / tenTo (9 - width)) ++ rest) =
        some (nano, rest) := by
    have hlimit : nano / tenTo (9 - width) < tenTo width := by
      refine Nat.div_lt_of_lt_mul ?_
      rw [tenTo, tenTo, Nat.pow_eq, Nat.pow_eq, ← Nat.pow_add, Nat.sub_add_cancel h9]
      exact h
    rw [takeFraction?_padded hw hlimit rest h9 hdigit,
      Nat.div_mul_cancel (Nat.dvd_of_mod_eq_zero hdvd)]
  unfold fractionText
  split
  · next hzero =>
    subst hzero
    cases rest with
    | nil => rfl
    | cons c rest =>
      have hc : c ≠ '.' := (hrest c rfl).2
      rw [List.nil_append, takeFraction?]
      exact fun _ h => hc (List.cons.inj h).1
  split
  · next hmod => exact hforms 3 (by decide) (by decide) hmod
  split
  · next hmod => exact hforms 6 (by decide) (by decide) hmod
  · simpa [tenTo] using hforms 9 (by decide) (by decide) (Nat.mod_one nano)

/-! ## Moments -/

theorem make?_self (date : Date) : Date.make? date.year date.month date.day = some date :=
  dif_pos ⟨⟨date.month_pos, date.month_le⟩, date.day_pos, date.day_le⟩

theorem ofLocal?_self (t : Timestamp) (h : inRange t.date.year = true) :
    ofLocal? t.date t.hour t.minute t.second t.nano 0 = some t := by
  have hminutes : (60 * t.hour + t.minute - 0 : Int) = t.minuteOfDay := by
    unfold hour minute
    omega
  have hlt := t.minute_lt
  have hnot : ¬ (t.minuteOfDay : Int) < 0 := by omega
  have hnot' : ¬ (1440 : Int) ≤ t.minuteOfDay := by omega
  have hhour : t.hour < 24 := by unfold hour; omega
  have hminute : t.minute < 60 := by unfold minute; omega
  have hmod : ((t.minuteOfDay : Int) % 1440).toNat = t.minuteOfDay := by omega
  unfold ofLocal?
  simp only [hminutes, hnot, hnot', if_false]
  rw [dif_pos ⟨hhour, hminute, t.second_le, t.nano_lt, h⟩]
  simp only [hmod]

theorem daysIn_le (year : Int) (month : Nat) : Calendar.daysIn year month ≤ 31 := by
  unfold Calendar.daysIn
  repeat' split
  all_goals decide

/-- The written form, part by part. -/
theorem toList_text {t : Timestamp} (hfirst : 0 ≤ t.date.year) (hlast : t.date.year ≤ 9999) :
    t.text.toList =
      padded 4 t.date.year.toNat ++ '-' :: (padded 2 t.date.month ++ '-' :: (padded 2 t.date.day
        ++ 'T' :: (padded 2 t.hour ++ ':' :: (padded 2 t.minute ++ ':' :: (padded 2 t.second
          ++ (fractionText t.nano ++ ['Z'])))))) := by
  have hyear : yearText t.date.year = padded 4 t.date.year.toNat := if_pos ⟨hfirst, hlast⟩
  rw [text, String.toList_ofList, localText, fields, hyear]
  simp only [List.append_assoc, List.cons_append, List.nil_append]

/-- **Reading what was written.** -/
theorem parse?_text {t : Timestamp} (hfirst : 0 ≤ t.date.year) (hlast : t.date.year ≤ 9999) :
    parse? t.text = some t := by
  have hyear : t.date.year.toNat < tenTo 4 := by
    show _ < 10000
    omega
  have hback : (t.date.year.toNat : Int) = t.date.year := Int.toNat_of_nonneg hfirst
  have hrange : inRange t.date.year = true := by
    unfold inRange
    simp only [Bool.and_eq_true, decide_eq_true_eq]
    omega
  have hmonth : t.date.month < tenTo 2 := Nat.lt_of_le_of_lt t.date.month_le (by decide)
  have hday : t.date.day < tenTo 2 :=
    Nat.lt_of_le_of_lt (Nat.le_trans t.date.day_le (daysIn_le _ _)) (by decide)
  have hhour : t.hour < tenTo 2 := by
    have := t.minute_lt
    show _ / 60 < 100
    omega
  have hminute : t.minute < tenTo 2 := by
    show _ % 60 < 100
    omega
  have hsecond : t.second < tenTo 2 := Nat.lt_of_le_of_lt t.second_le (by decide)
  have hfraction : takeFraction? (fractionText t.nano ++ ['Z']) = some (t.nano, ['Z']) :=
    takeFraction?_fractionText t.nano_lt fun c hc => Option.some.inj hc ▸ by decide
  have hoffset : takeOffset? (Text.dropBlanks ['Z']) = some (0, []) := rfl
  have hfield {n : Nat} (hn : n < tenTo 2) {rest : List Char} :=
    takeField?_padded (by decide : 0 < 2) hn rest
  have hguard {p : Prop} [Decidable p] (h : p) : (guard p : Option Unit) = some () := if_pos h
  rw [parse?, toList_text hfirst hlast]
  refine reads (takeYear?_padded hyear _) ?_
  refine reads (takeMark?_self (by decide) _) (reads (hfield hmonth) ?_)
  refine reads (takeMark?_self (by decide) _) (reads (hfield hday) ?_)
  rw [hback]
  refine reads (make?_self t.date) (reads (hguard hrange) (reads (hguard (.inl rfl)) ?_))
  refine reads (hfield hhour) ?_
  refine reads (takeMark?_self (by decide) _) (reads (hfield hminute) ?_)
  refine reads (takeMark?_self (by decide) _) (reads (hfield hsecond) ?_)
  refine reads hfraction (reads hoffset (reads (hguard rfl) ?_))
  exact ofLocal?_self t hrange

end CloudAudit.Timestamp
