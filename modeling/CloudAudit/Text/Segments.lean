/-!
# Segments of a text

Cutting a text at every occurrence of one character, putting it together again, and looking for
one text inside another. Main statements: `joinSegments_segments` (nothing is lost by cutting),
`segments_joinSegments` (nor by joining pieces without separators), `segments_append` (cutting a
text with a separator inside cuts its two halves) and `occursIn_iff`.
-/

namespace CloudAudit.Text

/-- The pieces between the occurrences of `sep`; always at least one. -/
def segments (sep : Char) : List Char → List (List Char)
  | [] => [[]]
  | c :: rest =>
    if c = sep then [] :: segments sep rest
    else
      match segments sep rest with
      | [] => [[c]]
      | first :: others => (c :: first) :: others

/-- The pieces with `sep` between any two neighbours. -/
def joinSegments (sep : Char) : List (List Char) → List Char
  | [] => []
  | [piece] => piece
  | piece :: others => piece ++ sep :: joinSegments sep others

theorem segments_ne_nil (sep : Char) (cs : List Char) : segments sep cs ≠ [] := by
  cases cs with
  | nil => simp [segments]
  | cons c rest =>
    simp only [segments]
    split
    · simp
    · split <;> simp

theorem joinSegments_cons (sep : Char) (piece : List Char) {others : List (List Char)}
    (h : others ≠ []) :
    joinSegments sep (piece :: others) = piece ++ sep :: joinSegments sep others := by
  cases others with
  | nil => exact absurd rfl h
  | cons p ps => rfl

theorem joinSegments_segments (sep : Char) (cs : List Char) :
    joinSegments sep (segments sep cs) = cs := by
  induction cs with
  | nil => rfl
  | cons c rest ih =>
    simp only [segments]
    split
    · next h =>
      rw [joinSegments_cons _ _ (segments_ne_nil sep rest), ih, h]
      rfl
    · split
      · next h => exact absurd h (segments_ne_nil sep rest)
      · next first others h =>
        rw [h] at ih
        cases others with
        | nil => simpa [joinSegments] using congrArg (c :: ·) ih
        | cons p ps => simpa [joinSegments] using congrArg (c :: ·) ih

theorem segments_append (sep : Char) (left right : List Char) :
    segments sep (left ++ sep :: right) = segments sep left ++ segments sep right := by
  induction left with
  | nil => simp [segments]
  | cons c rest ih =>
    simp only [List.cons_append, segments]
    split
    · simp [ih]
    · rw [ih]
      split
      · next h => exact absurd h (by simp [segments_ne_nil])
      · next first others h =>
        cases hs : segments sep rest with
        | nil => exact absurd hs (segments_ne_nil sep rest)
        | cons p ps =>
          rw [hs] at h
          simp only [List.cons_append, List.cons.injEq] at h
          simp [h.1, ← h.2]

theorem segments_of_not_mem {sep : Char} {cs : List Char} (h : sep ∉ cs) :
    segments sep cs = [cs] := by
  induction cs with
  | nil => rfl
  | cons c rest ih =>
    have hc : c ≠ sep := fun e => h (by simp [e])
    have hr : sep ∉ rest := fun e => h (by simp [e])
    simp [segments, hc, ih hr]

/-- Pieces without separators come back when they are joined and cut again. -/
theorem segments_joinSegments {sep : Char} {pieces : List (List Char)} (hne : pieces ≠ [])
    (h : ∀ piece ∈ pieces, sep ∉ piece) : segments sep (joinSegments sep pieces) = pieces := by
  induction pieces with
  | nil => exact absurd rfl hne
  | cons piece others ih =>
    have hpiece : segments sep piece = [piece] := segments_of_not_mem (h piece List.mem_cons_self)
    by_cases hothers : others = []
    · rw [hothers]
      exact hpiece
    · rw [joinSegments_cons _ _ hothers, segments_append, hpiece,
        ih hothers fun other ho => h other (List.mem_cons_of_mem _ ho)]
      rfl

theorem not_mem_of_mem_segments {sep : Char} {cs piece : List Char}
    (h : piece ∈ segments sep cs) : sep ∉ piece := by
  induction cs generalizing piece with
  | nil =>
    obtain rfl := List.mem_singleton.mp h
    exact List.not_mem_nil
  | cons c rest ih =>
    simp only [segments] at h
    split at h
    · rcases List.mem_cons.mp h with rfl | h
      · exact List.not_mem_nil
      · exact ih h
    · next hc =>
      split at h
      · next hs => exact absurd hs (segments_ne_nil sep rest)
      · next first others hs =>
        rcases List.mem_cons.mp h with rfl | h
        · have hfirst : sep ∉ first := ih (hs ▸ List.mem_cons_self)
          rintro (_ | ⟨_, hmem⟩)
          · exact hc rfl
          · exact hfirst hmem
        · exact ih (hs ▸ List.mem_cons_of_mem _ h)

theorem mem_joinSegments {sep c : Char} {piece : List Char} {pieces : List (List Char)}
    (h : piece ∈ pieces) (hc : c ∈ piece) : c ∈ joinSegments sep pieces := by
  induction pieces with
  | nil => exact nomatch h
  | cons first others ih =>
    cases others with
    | nil =>
      obtain rfl := List.mem_singleton.mp h
      exact hc
    | cons other others =>
      refine List.mem_append.mpr ?_
      rcases List.mem_cons.mp h with rfl | h
      · exact .inl hc
      · exact .inr (List.mem_cons_of_mem _ (ih h))

theorem mem_of_mem_segments {sep c : Char} {cs piece : List Char} (h : piece ∈ segments sep cs)
    (hc : c ∈ piece) : c ∈ cs :=
  joinSegments_segments sep cs ▸ mem_joinSegments h hc

/-- The texts between the occurrences of `sep`. -/
def split (sep : Char) (s : String) : List String :=
  (segments sep s.toList).map String.ofList

/-- Whether the first text stands somewhere inside the second. -/
def occursIn (needle : List Char) : List Char → Bool
  | [] => needle.isEmpty
  | c :: rest => needle.isPrefixOf (c :: rest) || occursIn needle rest

theorem occursIn_iff {needle hay : List Char} : occursIn needle hay = true ↔ needle <:+: hay := by
  induction hay with
  | nil => simp [occursIn]
  | cons c rest ih =>
    simp [occursIn, ih, List.infix_cons_iff]

/-- Whether `needle` stands somewhere inside `hay`. -/
def contains (hay needle : String) : Bool :=
  occursIn needle.toList hay.toList

/-- The text with every `old` character replaced by the characters `new` gives. -/
def replaceChars (f : Char → List Char) (s : String) : String :=
  String.ofList (s.toList.flatMap f)

/-- Equality up to the case of ASCII letters. -/
def sameFolded (s t : String) : Bool :=
  s.toList.map Char.toLower == t.toList.map Char.toLower

/-- The texts with `sep` between any two neighbours. -/
def join (sep : String) (parts : List String) : String :=
  sep.intercalate parts

theorem toList_join {separator : String} {sep : Char} (h : separator.toList = [sep])
    (parts : List String) :
    (join separator parts).toList = joinSegments sep (parts.map String.toList) := by
  rw [join, String.toList_intercalate, h]
  induction parts with
  | nil => rfl
  | cons part others ih =>
    cases others with
    | nil => simp [joinSegments]
    | cons other others =>
      rw [List.map_cons, List.map_cons, List.intercalate_cons_cons, ← List.map_cons, ih,
        joinSegments_cons _ _ (by simp)]
      simp

end CloudAudit.Text
