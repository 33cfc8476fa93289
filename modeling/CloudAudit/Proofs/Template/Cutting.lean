import CloudAudit.Template.Reader
import Mathlib.Data.List.Basic

/-!
# How a template is cut

A template is spelled by the tags in it, each with the text in front of it, and by the text at the
end. As long as the texts have no brace that opens a tag and the tags have no brace inside of them,
the template is cut into just these texts and tags (`Piece.cut?_spellTags`).
-/

namespace CloudAudit.Template

/-- A template tag by tag: the text in front of each and what is inside of it. -/
structure Source where
  tags : List (String × String)
  last : String

namespace Source

/-- The characters of tags with the texts in front of them, and of the text at the end. -/
def spellTags : List (String × String) → String → List Char
  | [], last => last.toList
  | (front, inside) :: rest, last =>
    front.toList ++ '{' :: '{' :: (inside.toList ++ '}' :: '}' :: spellTags rest last)

def text (source : Source) : String := String.ofList (spellTags source.tags source.last)

/-- The text in front is no part of a tag, and the tag is over where its braces close. -/
def isPlain (tag : String × String) : Bool :=
  !tag.1.toList.contains '{' && tag.1.toList.getLast? != some '\\' &&
    tag.2.toList.all (fun c => c != '{' && c != '}') && tag.2.toList.head? != some '!' &&
    (tag.2.toList.foldl Piece.Inside.next .outside matches .outside)

/-- What the tags spell, with the texts in front of them. -/
def readTags? : List (String × String) → Option (List (String × Tag))
  | [] => some []
  | (front, inside) :: rest => do
    let tag ← Tag.ofText? inside.toList
    return (front, tag) :: (← readTags? rest)

def pieces (last : String) : List (String × Tag) → List Piece
  | [] => Piece.addText last.toList.reverse []
  | (front, tag) :: rest => Piece.addText front.toList.reverse (.tag tag :: pieces last rest)

end Source

namespace Piece

/-! ## Single characters -/

theorem cut?_text_cons {c : Char} (h : c ≠ '{') (before rest : List Char) :
    cut? (.text before) (c :: rest) = cut? (.text (c :: before)) rest := by
  rw [cut?]
  exact fun _ hc _ => h hc

theorem cut?_tag_cons {c : Char} (hopen : c ≠ '{') (hclose : c ≠ '}') (inside : Inside)
    (braced : Bool) (before rest : List Char) :
    cut? (.tag inside braced before) (c :: rest) =
      cut? (.tag (inside.next c) braced (c :: before)) rest := by
  rw [cut?]
  · exact fun _ _ hc => hclose hc
  · exact fun _ _ _ hc _ => hclose hc
  · exact fun _ hc => hopen hc

theorem opened_of_head? {rest : List Char} (h : rest.head? ≠ some '!') :
    opened rest = .tag .outside false [] := by
  unfold opened
  split
  · exact absurd rfl h
  · exact absurd rfl h
  · rfl

/-- Two braces open a tag. -/
theorem cut?_open {before rest : List Char} (hb : before.head? ≠ some '\\')
    (hr : rest.head? ≠ some '!') :
    cut? (.text before) ('{' :: '{' :: rest) =
      (cut? (.tag .outside false []) rest).map (addText before) := by
  have hopened : cut? (opened rest) (afterMark (opened rest) rest) =
      cut? (.tag .outside false []) rest := by
    rw [opened_of_head? hr]
    rfl
  rw [cut?, hopened]
  · exact fun _ he => hb (congrArg List.head? he)
  · exact fun _ he => hb (congrArg List.head? he)

/-- Two braces close a tag. -/
theorem cut?_close (before rest : List Char) :
    cut? (.tag .outside false before) ('}' :: '}' :: rest) = (do
      let tag ← Tag.ofText? before.reverse
      return .tag tag :: (← cut? (.text []) rest)) := by
  rw [cut?]

/-! ## Texts and tags -/

/-- A text goes up to the next brace. -/
theorem cut?_text {cs : List Char} (h : '{' ∉ cs) (before rest : List Char) :
    cut? (.text before) (cs ++ rest) = cut? (.text (cs.reverse ++ before)) rest := by
  induction cs generalizing before with
  | nil => rfl
  | cons c cs ih =>
    rw [List.mem_cons, not_or] at h
    rw [List.cons_append, cut?_text_cons fun hc => h.1 hc.symm, ih h.2, List.reverse_cons,
      List.append_assoc]
    rfl

/-- The inside of a tag goes up to the next brace. -/
theorem cut?_inside {cs : List Char} (h : ∀ c ∈ cs, c ≠ '{' ∧ c ≠ '}') (inside : Inside)
    (braced : Bool) (before rest : List Char) :
    cut? (.tag inside braced before) (cs ++ rest) =
      cut? (.tag (cs.foldl Inside.next inside) braced (cs.reverse ++ before)) rest := by
  induction cs generalizing inside before with
  | nil => rfl
  | cons c cs ih =>
    obtain ⟨hopen, hclose⟩ := h c List.mem_cons_self
    rw [List.cons_append, cut?_tag_cons hopen hclose,
      ih fun other ho => h other (List.mem_cons_of_mem c ho), List.reverse_cons, List.append_assoc]
    rfl

/-- **Cutting.** The pieces are the tags, as far as they can be read, and the texts. -/
theorem cut?_spellTags {tags : List (String × String)} {last : String}
    (h : ∀ tag ∈ tags, Source.isPlain tag = true) (hlast : '{' ∉ last.toList) :
    cut? (.text []) (Source.spellTags tags last) =
      (Source.readTags? tags).map (Source.pieces last) := by
  induction tags with
  | nil =>
    have hend := cut?_text hlast [] []
    rw [List.append_nil, List.append_nil, cut?] at hend
    exact hend
  | cons tag rest ih =>
    obtain ⟨front, inside⟩ := tag
    have hplain := h (front, inside) List.mem_cons_self
    simp only [Source.isPlain, Bool.and_eq_true, Bool.not_eq_true', List.contains_eq_mem,
      decide_eq_false_iff_not, bne_iff_ne, List.all_eq_true] at hplain
    obtain ⟨⟨⟨⟨hfront, hslash⟩, hbraces⟩, hmark⟩, hquotes⟩ := hplain
    have hover : inside.toList.foldl Inside.next .outside = .outside := by
      generalize inside.toList.foldl Inside.next .outside = state at hquotes
      cases state <;> simp_all
    have hbefore : front.toList.reverse.head? ≠ some '\\' := by rwa [List.head?_reverse]
    have hinside : (inside.toList ++ '}' :: '}' :: Source.spellTags rest last).head? ≠
        some '!' := by
      rw [List.head?_append]
      cases hc : inside.toList.head? with
      | none => simp
      | some c => exact fun he => hmark (hc.trans he)
    have hrest := ih fun other ho => h other (List.mem_cons_of_mem _ ho)
    rw [Source.spellTags, cut?_text hfront, List.append_nil, cut?_open hbefore hinside,
      cut?_inside hbraces, hover, List.append_nil, cut?_close, List.reverse_reverse, hrest,
      Source.readTags?]
    cases Tag.ofText? inside.toList with
    | none => rfl
    | some tag => cases Source.readTags? rest <;> rfl

end Piece

theorem Source.read?_text {source : Source} (h : ∀ tag ∈ source.tags, isPlain tag = true)
    (hlast : '{' ∉ source.last.toList) :
    read? source.text =
      (readTags? source.tags).bind fun tags =>
        nest? [] [] (Layout.apply true {} (pieces source.last tags)) := by
  rw [read?, Piece.ofText?, text, String.toList_ofList, Piece.cut?_spellTags h hlast]
  cases readTags? source.tags <;> rfl

end CloudAudit.Template
