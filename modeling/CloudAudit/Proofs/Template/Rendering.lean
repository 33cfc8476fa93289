import CloudAudit.Report.Standard
import Mathlib.Data.List.Basic

/-!
# Rendering part by part

One lemma for each kind of node of the standard templates: what it renders to is put together from
what its parts render to. An iteration over a list of views is rendered view by view
(`renderNode_each`, `Scope.Shows.each`). `Scope.Shows` is all that a body needs to know of the
iterations around it.
-/

namespace CloudAudit.Template

variable {scope : Scope}

/-! ## Rows of nodes -/

theorem renderNodes_cons {node : Node} {rest : List Node} {first others : String}
    (hn : renderNode node scope = some first) (hr : renderNodes rest scope = some others) :
    renderNodes (node :: rest) scope = some (first ++ others) := by
  rw [renderNodes, hn, hr]
  rfl

theorem renderNodes_nil : renderNodes [] scope = some "" := by
  rw [renderNodes]

theorem renderNodes_append {nodes rest : List Node} {first others : String}
    (hn : renderNodes nodes scope = some first) (hr : renderNodes rest scope = some others) :
    renderNodes (nodes ++ rest) scope = some (first ++ others) := by
  induction nodes generalizing first with
  | nil =>
    rw [renderNodes_nil, Option.some.injEq] at hn
    rw [List.nil_append, ← hn, String.empty_append, hr]
  | cons node nodes ih =>
    rw [renderNodes] at hn
    simp only [Option.bind_eq_bind, Option.bind_eq_some_iff, Option.pure_def,
      Option.some.injEq] at hn
    obtain ⟨front, hfront, between, hbetween, rfl⟩ := hn
    rw [List.cons_append, String.append_assoc]
    exact renderNodes_cons hfront (ih hbetween)

theorem renderNodes_singleton {node : Node} {text : String}
    (h : renderNode node scope = some text) : renderNodes [node] scope = some text := by
  rw [renderNodes_cons h renderNodes_nil, String.append_empty]

/-! ## Nodes -/

theorem renderNode_text (content : String) : renderNode (.text content) scope = some content := by
  rw [renderNode]

theorem renderNode_field {keys : List String} {value : Json}
    (h : scope.lookup? 0 keys = some value) :
    renderNode (Templates.field keys) scope = some (shown value) := by
  rw [Templates.field, renderNode, Scope.find?, h, Option.map_some]

/-- A condition shows its body or the other one. -/
theorem renderNode_given {keys : List String} {body otherwise : List Node} {value : Json}
    (h : scope.lookup? 0 keys = some value) :
    renderNode (Templates.given keys body otherwise) scope =
      if holds false value then renderNodes body scope else renderNodes otherwise scope := by
  have harguments : [Templates.place keys].mapM scope.argument? = some [value] := by
    rw [List.mapM_cons, Templates.place, Scope.argument?, Scope.find?, h]
    rfl
  rw [Templates.given, renderNode, harguments]
  show (if (holds false value == true) = true then _ else _) = _
  rw [beq_true]

/-- An iteration shows its body once for each item. -/
theorem renderNode_each {α : Type} {keys : List String} {body : List Node} {values : List α}
    {view : Nat → α → Json} {text : Nat → α → String}
    (h : scope.lookup? 0 keys = some (.array (values.mapIdx view)))
    (hbody : ∀ position value,
      renderNodes body (scope.enter
        (turn [] values.length position "index" (.int position) (view position value))) =
      some (text position value)) :
    renderNode (Templates.each keys body) scope = some (String.join (values.mapIdx text)) := by
  have harguments : [Templates.place keys].mapM scope.argument? =
      some [.array (values.mapIdx view)] := by
    rw [List.mapM_cons, Templates.place, Scope.argument?, Scope.find?, h]
    rfl
  have hlevels : (turns [] (.array (values.mapIdx view))).mapM
      (fun level => renderNodes body (scope.enter level)) = some (values.mapIdx text) := by
    rw [turns, List.length_mapIdx, List.mapIdx_mapIdx, List.mapIdx_eq_zipIdx_map, List.mapM_map,
      List.mapIdx_eq_zipIdx_map]
    refine Eq.trans (congrArg (List.mapM · _) (funext fun entry => ?_)) List.mapM_pure
    exact hbody entry.2 entry.1
  rw [Templates.each, renderNode, harguments]
  dsimp only [List.mapM_nil, Option.bind_eq_bind, Option.bind_some, List.getElem?_cons_zero,
    Option.pure_def]
  split
  · next hnone =>
    rw [hnone] at hlevels
    rw [← Option.some.inj hlevels, renderNodes]
    rfl
  · rw [hlevels]
    rfl

/-- A call of a helper that makes text. -/
theorem renderNode_make {helper : TextHelper} {arguments : List Argument} {values : List Json}
    (h : arguments.mapM scope.argument? = some values) :
    renderNode (Templates.make helper arguments) scope = some (helper.text values) := by
  rw [Templates.make, renderNode, h]
  rfl

/-- A body that is shown when a value is the same as a text. -/
theorem renderNode_equality {keys : List String} {text : String} {body otherwise : List Node}
    {value : Json} (h : scope.lookup? 0 keys = some value) :
    renderNode (.call { helper := .equality,
                        arguments := [Templates.place keys, Templates.literal text] }
        body otherwise) scope =
      if value.same (.string text) then renderNodes body scope
      else renderNodes otherwise scope := by
  have harguments : [Templates.place keys, Templates.literal text].mapM scope.argument? =
      some [value, .string text] := by
    rw [List.mapM_cons, Templates.place, Scope.argument?, Scope.find?, h]
    rfl
  rw [renderNode, harguments]
  rfl

/-! ## Scopes without names -/

/-- Bare keys belong to the value, and no iteration around it gave a name. -/
structure Scope.Shows (scope : Scope) (value : Json) : Prop where
  here_eq : scope.here.value = value
  unnamed : ∀ name, scope.named? name = none

namespace Scope.Shows

theorem ofData (data : Json) : (Scope.ofData data).Shows data :=
  ⟨rfl, fun _ => rfl⟩

theorem lookup?_eq {value : Json} (h : scope.Shows value) (key : String) (more : List String) :
    scope.lookup? 0 (key :: more) = descend? value (key :: more) := by
  unfold Scope.lookup?
  dsimp only
  rw [h.unnamed key]
  exact congrArg (descend? · (key :: more)) h.here_eq

theorem lookup?_nil {value : Json} (h : scope.Shows value) : scope.lookup? 0 [] = some value :=
  congrArg some h.here_eq

/-- Inside a turn of an iteration that gives no names. -/
theorem turn {value : Json} (h : scope.Shows value) (count position : Nat) (keyName : String)
    (key item : Json) :
    (scope.enter (Template.turn [] count position keyName key item)).Shows item := by
  refine ⟨rfl, fun name => ?_⟩
  show Option.or none (scope.named? name) = none
  exact h.unnamed name

variable {value found : Json} {key : String} {more : List String}

theorem field (h : scope.Shows value) (hf : descend? value (key :: more) = some found) :
    renderNode (Templates.field (key :: more)) scope = some (shown found) :=
  renderNode_field ((h.lookup?_eq key more).trans hf)

theorem text {text : String} (h : scope.Shows value)
    (hf : descend? value (key :: more) = some (.string text)) :
    renderNode (Templates.field (key :: more)) scope = some text :=
  h.field hf

theorem count {n : Nat} (h : scope.Shows value)
    (hf : descend? value (key :: more) = some (.int n)) :
    renderNode (Templates.field (key :: more)) scope = some (toString n) :=
  h.field hf

theorem place (h : scope.Shows value) (hf : descend? value (key :: more) = some found) :
    scope.argument? (Templates.place (key :: more)) = some found :=
  (h.lookup?_eq key more).trans hf

/-- A helper that is given one value. -/
theorem make (h : scope.Shows value) (helper : TextHelper)
    (hf : descend? value (key :: more) = some found) :
    renderNode (Templates.make helper [Templates.place (key :: more)]) scope =
      some (helper.text [found]) := by
  refine renderNode_make ?_
  rw [List.mapM_cons, h.place hf]
  rfl

theorem percent {x : Number.Binary64} (h : scope.Shows value)
    (hf : descend? value (key :: more) = some (.float x)) :
    renderNode (Templates.make .percent [Templates.place (key :: more)]) scope =
      some (x.oneDecimal ++ "%") :=
  h.make .percent hf

/-- An iteration over the views of values. -/
theorem each {α : Type} {body : List Node} {values : List α} {view : α → Json}
    {text : α → String} (h : scope.Shows value)
    (hf : descend? value (key :: more) = some (.array (values.map view)))
    (hbody : ∀ (inner : Scope) (a : α), inner.Shows (view a) →
      renderNodes body inner = some (text a)) :
    renderNode (Templates.each (key :: more) body) scope =
      some (String.join (values.map text)) := by
  have hindexed {β : Type} (f : α → β) : values.mapIdx (fun _ a => f a) = values.map f := by
    rw [List.mapIdx_eq_zipIdx_map, ← Function.comp_def, ← List.map_map, List.zipIdx_map_fst]
  rw [← hindexed view] at hf
  rw [← hindexed text]
  refine renderNode_each ((h.lookup?_eq key more).trans hf) fun position a => ?_
  exact hbody _ a (h.turn _ _ _ _ _)

end Scope.Shows

end CloudAudit.Template
