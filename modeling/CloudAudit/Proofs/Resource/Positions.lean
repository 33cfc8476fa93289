import CloudAudit.Proofs.Number.Unsigned
import CloudAudit.Resource.Path

/-!
# Positions in resources

A position is a way down into a tree, a step at a time: to the value under a key, or to the value at
a place in a list. The path of a position leads to the value there, every path that leads anywhere
leads down step by step, and a path behind a path goes on from where the first one leads
(`resolves_paths`).
-/

namespace CloudAudit.Resource

open Number

/-! ## Steps -/

/-- A step down into a tree: a key without dots, or a place in a list. Places are words of 64 bits,
and no list in memory is longer. -/
inductive Step where
  | key (name : String) (undotted : '.' ∉ name.toList)
  | item (place : UInt64)

namespace Step

/-- The value that the step leads to. -/
def into? : Step → Json → Option Json
  | key name _, .object members => members.lookup name
  | item place, .array items => items[place.toNat]?
  | _, _ => none

/-- A key as it is, and a place in decimal digits. -/
def text : Step → String
  | key name _ => name
  | item place => String.ofList (digitsOf place.toNat)

theorem not_mem_text (step : Step) : '.' ∉ step.text.toList := by
  cases step with
  | key name undotted => exact undotted
  | item place =>
    rw [text, String.toList_ofList]
    intro h
    exact absurd (isDigit_of_mem_digitsOf h) (by decide)

theorem text_eq_empty_iff {step : Step} : step.text = "" ↔ step = .key "" List.not_mem_nil := by
  cases step with
  | key name undotted => simp [text]
  | item place =>
    refine iff_of_false (fun h => ?_) nofun
    exact Nat.toDigits_ne_nil (String.ofList_eq_empty_iff.mp h)

end Step

/-- The value at a position. -/
def at? (value : Json) (position : List Step) : Option Json :=
  position.foldlM (fun value step => step.into? value) value

/-- The texts of the steps with dots between them. -/
def pathOf (position : List Step) : String :=
  Text.join "." (position.map Step.text)

/-! ## Segments -/

/-- Segments lead down from one value to another: each is a key that is there, or the numeral of a
place in a list. -/
inductive Leads : Json → List String → Json → Prop where
  | here (value : Json) : Leads value [] value
  | key {members : List (String × Json)} {name : String} {inner target : Json} {rest : List String}
    (found : members.lookup name = some inner) (further : Leads inner rest target) :
    Leads (.object members) (name :: rest) target
  | item {items : List Json} {numeral : String} {place : Nat} {inner target : Json}
    {rest : List String} (unsigned : IsUnsigned numeral.toList place)
    (found : items[place]? = some inner) (further : Leads inner rest target) :
    Leads (.array items) (numeral :: rest) target

theorem leads_nil_iff {value target : Json} : Leads value [] target ↔ value = target := by
  constructor
  · rintro ⟨⟩
    rfl
  · rintro rfl
    exact .here value

/-- The first segment leads one step down. -/
theorem leads_cons_iff {value target : Json} {segment : String} {rest : List String} :
    Leads value (segment :: rest) target ↔
      ∃ inner, step? value segment.toList = some inner ∧ Leads inner rest target := by
  constructor
  · intro h
    cases h with
    | key found further => exact ⟨_, by rwa [step?, String.ofList_toList], further⟩
    | item unsigned found further =>
      exact ⟨_, by rwa [step?, readUnsigned?_eq_some_iff.mpr unsigned], further⟩
  · rintro ⟨inner, hstep, further⟩
    cases value with
    | object members =>
      rw [step?, String.ofList_toList] at hstep
      exact .key hstep further
    | array items =>
      obtain ⟨place, hplace, hinner⟩ := Option.bind_eq_some_iff.mp hstep
      exact .item (readUnsigned?_eq_some_iff.mp hplace) hinner further
    | _ => exact nomatch hstep

theorem follow?_eq_some_iff {value target : Json} {segments : List String} :
    follow? value (segments.map String.toList) = some target ↔ Leads value segments target := by
  induction segments generalizing value with
  | nil => exact Option.some_inj.trans leads_nil_iff.symm
  | cons segment rest ih =>
    rw [leads_cons_iff]
    simp only [← ih]
    exact Option.bind_eq_some_iff

/-- What is at a position, its texts lead to. -/
theorem leads_of_at? {value target : Json} {position : List Step}
    (h : at? value position = some target) : Leads value (position.map Step.text) target := by
  induction position generalizing value with
  | nil => exact leads_nil_iff.mpr (Option.some.inj h)
  | cons step rest ih =>
    obtain ⟨inner, hinto, hrest⟩ := Option.bind_eq_some_iff.mp h
    match step, value, hinto with
    | .key _ _, .object _, found => exact .key found (ih hrest)
    | .item place, .array _, found =>
      refine .item ?_ found (ih hrest)
      rw [Step.text, String.toList_ofList]
      exact isUnsigned_digitsOf place.toNat_lt

/-! ## Paths -/

theorem toList_join (segments : List String) :
    (Text.join "." segments).toList = Text.joinSegments '.' (segments.map String.toList) :=
  Text.toList_join rfl segments

section Paths

variable {segments : List String} (hne : segments ≠ []) (hempty : segments ≠ [""])
  (hdots : ∀ segment ∈ segments, '.' ∉ segment.toList)

include hne hdots in
theorem segments_toList_join :
    Text.segments '.' (Text.join "." segments).toList = segments.map String.toList := by
  rw [toList_join, Text.segments_joinSegments (by simpa using hne) (by simpa using hdots)]

include hne hempty hdots in
theorem join_ne_empty : Text.join "." segments ≠ "" := by
  intro h
  have hsegments := segments_toList_join hne hdots
  rw [h] at hsegments
  have hone : segments.map String.toList = [""].map String.toList := hsegments.symm
  exact hempty ((List.map_inj_right fun _ _ => String.toList_inj.mp).mp hone)

end Paths

theorem resolve?_of_ne_empty {path : String} (h : path ≠ "") (value : Json) :
    resolve? value path = follow? value (Text.segments '.' path.toList) :=
  if_neg (by simpa using h)

/-- A path is a text of segments, and leads where they do. -/
theorem resolve?_eq_some_iff {value target : Json} {path : String} (h : path ≠ "") :
    resolve? value path = some target ↔
      ∃ segments, segments ≠ [] ∧ (∀ segment ∈ segments, '.' ∉ segment.toList) ∧
        Text.join "." segments = path ∧ Leads value segments target := by
  rw [resolve?_of_ne_empty h]
  constructor
  · intro hfollow
    have hback : (Text.split '.' path).map String.toList = Text.segments '.' path.toList := by
      simp [Text.split, Function.comp_def]
    refine ⟨Text.split '.' path, ?_, ?_, ?_, ?_⟩
    · simpa [Text.split] using Text.segments_ne_nil '.' path.toList
    · intro segment hs
      exact Text.not_mem_of_mem_segments (hback ▸ List.mem_map_of_mem hs)
    · rw [← String.toList_inj, toList_join, hback, Text.joinSegments_segments]
    · rwa [← follow?_eq_some_iff, hback]
  · rintro ⟨segments, hne, hdots, rfl, hleads⟩
    rwa [segments_toList_join hne hdots, follow?_eq_some_iff]

/-- A path behind a path goes on from where the first one leads. -/
theorem resolve?_append {p q : String} (hp : p ≠ "") (hq : q ≠ "") (value : Json) :
    resolve? value (p ++ "." ++ q) =
      (resolve? value p).bind fun inner => resolve? inner q := by
  have hboth : p ++ "." ++ q ≠ "" := by simp
  have hcut : (p ++ "." ++ q).toList = p.toList ++ '.' :: q.toList := by simp
  simp only [resolve?_of_ne_empty hp, resolve?_of_ne_empty hq, resolve?_of_ne_empty hboth, hcut,
    Text.segments_append, follow?_append]

/-- What the paths into a value come to. -/
structure Paths (value : Json) : Prop where
  /-- The path of a position leads to the value there, but for the empty key alone. -/
  reaches : ∀ position target, position ≠ [] → position ≠ [.key "" List.not_mem_nil] →
    at? value position = some target → resolve? value (pathOf position) = some target
  /-- A path leads nowhere but down its segments. -/
  leads : ∀ path target, path ≠ "" → (resolve? value path = some target ↔
    ∃ segments, segments ≠ [] ∧ (∀ segment ∈ segments, '.' ∉ segment.toList) ∧
      Text.join "." segments = path ∧ Leads value segments target)
  goes_on : ∀ p q, p ≠ "" → q ≠ "" → resolve? value (p ++ "." ++ q) =
    (resolve? value p).bind fun inner => resolve? inner q
  stays : resolve? value "" = some value

/-- **Paths lead to positions**, to all of them and to nothing else. -/
theorem resolves_paths (value : Json) : Paths value where
  reaches := by
    intro position target hne hempty hat
    have htexts : position.map Step.text ≠ [] := by simpa using hne
    have hdots : ∀ segment ∈ position.map Step.text, '.' ∉ segment.toList := by
      intro segment hs
      obtain ⟨step, -, rfl⟩ := List.mem_map.mp hs
      exact step.not_mem_text
    have hfirst : position.map Step.text ≠ [""] := by
      intro h
      obtain ⟨step, rfl, htext⟩ := List.map_eq_singleton_iff.mp h
      exact hempty (congrArg ([·]) (Step.text_eq_empty_iff.mp htext))
    have hpath : pathOf position ≠ "" := join_ne_empty htexts hfirst hdots
    exact (resolve?_eq_some_iff hpath).mpr ⟨_, htexts, hdots, rfl, leads_of_at? hat⟩
  leads := fun path target h => resolve?_eq_some_iff h
  goes_on := fun p q hp hq => resolve?_append hp hq value
  stays := rfl

end CloudAudit.Resource
