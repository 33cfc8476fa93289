import CloudAudit.Control.Evaluation
import CloudAudit.Proofs.Number.Rounding
import Mathlib.Data.List.Basic

/-!
# Equality of values

The check for equality is one relation between values, and the checks for membership are put
together from it (`Check.one_equality`). It is reflexive and symmetric, and it keeps kinds of values
apart: lists and objects from scalars, null from all else, numbers from truth values, and any two
texts that differ. Texts alone agree with values of another kind.
-/

namespace CloudAudit

open Number

/-! ## The same tree -/

namespace Json

mutual

/-- A tree is the same as itself. -/
theorem same_self : ∀ j : Json, j.same j = true
  | .null => by rw [same]
  | .bool _ | .int _ | .string _ => by rw [same, beq_self_eq_true]
  | .float x => by rw [same, Binary64.same_refl]
  | .array items => by rw [same, sameItems_self items]
  | .object members => by rw [same, sameMembers_self members]

theorem sameItems_self : ∀ items : List Json, sameItems items items = true
  | [] => by rw [sameItems]
  | item :: rest => by rw [sameItems, same_self item, sameItems_self rest, Bool.and_self]

theorem sameMembers_self : ∀ members : List (String × Json), sameMembers members members = true
  | [] => by rw [sameMembers]
  | (key, value) :: rest => by
    rw [sameMembers, beq_self_eq_true, same_self value, sameMembers_self rest]
    rfl

end

mutual

/-- It does not matter which of two trees comes first. -/
theorem same_comm : ∀ a b : Json, a.same b = b.same a
  | .array as, b => by
    cases b with
    | array bs => rw [same, same, sameItems_comm as bs]
    | _ => simp only [same]
  | .object as, b => by
    cases b with
    | object bs => rw [same, same, sameMembers_comm as bs]
    | _ => simp only [same]
  | .float x, b => by
    cases b with
    | float y => rw [same, same, Binary64.same_comm]
    | _ => simp only [same]
  | .null, b | .bool _, b | .int _, b | .string _, b => by
    cases b <;> simp only [same, BEq.comm]

theorem sameItems_comm : ∀ as bs : List Json, sameItems as bs = sameItems bs as
  | [], [] => rfl
  | [], _ :: _ | _ :: _, [] => by simp [sameItems]
  | a :: as, b :: bs => by rw [sameItems, sameItems, same_comm a b, sameItems_comm as bs]

theorem sameMembers_comm :
    ∀ as bs : List (String × Json), sameMembers as bs = sameMembers bs as
  | [], [] => rfl
  | [], _ :: _ | _ :: _, [] => by simp [sameMembers]
  | (j, a) :: as, (k, b) :: bs => by
    rw [sameMembers, sameMembers, BEq.comm, same_comm a b, sameMembers_comm as bs]

end

/-! ## Agreement -/

/-- Neither a list nor an object. -/
def IsScalar : Json → Prop
  | array _ | object _ => False
  | _ => True

/-- An integer or a floating point number. -/
def IsNumber : Json → Prop
  | int _ | float _ => True
  | _ => False

theorem isSome_scalar?_iff (j : Json) : j.scalar?.isSome = true ↔ j.IsScalar := by
  cases j <;> simp [scalar?, IsScalar]

end Json

namespace Number.Extended

theorem same_comm (x y : Extended) : x.same y = y.same x := by
  unfold same compareBy
  cases x.key? <;> cases y.key? <;> simp only [BEq.comm]

theorem same_self_of_key? {x : Extended} {k : Int} (h : x.key? = some k) : x.same x = true :=
  (same_iff_of_key? h h).mpr rfl

end Number.Extended

theorem Scalar.agrees_comm (a b : Scalar) : a.agrees b = b.agrees a := by
  cases a <;> cases b <;> simp only [agrees, BEq.comm, Extended.same_comm]

namespace Json

/-- The number of a value has a place in the order. -/
theorem exists_key?_of_number? {j : Json} {x : Extended} (h : j.number? = some x) :
    ∃ k, x.key? = some k := by
  cases j with
  | int n =>
    obtain rfl : Extended.ofInt n = x := Option.some.inj h
    exact Extended.exists_key?_ofRatio _ _ _
  | float y =>
    obtain rfl : Extended.finite y = x := Option.some.inj h
    exact ⟨_, rfl⟩
  | _ => exact nomatch h

theorem agrees_of_scalar? {a b : Json} {x y : Scalar} (ha : a.scalar? = some x)
    (hb : b.scalar? = some y) : a.agrees b = x.agrees y := by
  rw [agrees, ha, hb]

theorem agrees_self (a : Json) : a.agrees a = true := by
  cases a with
  | null => rfl
  | bool b => exact beq_self_eq_true b
  | int n =>
    obtain ⟨k, hk⟩ := exists_key?_of_number? (j := int n) rfl
    exact Extended.same_self_of_key? hk
  | float x => exact Extended.same_self_of_key? (x := .finite x) rfl
  | string s => exact beq_self_eq_true s
  | array items => exact same_self (array items)
  | object members => exact same_self (object members)

theorem agrees_comm (a b : Json) : a.agrees b = b.agrees a := by
  unfold agrees
  cases a.scalar? <;> cases b.scalar?
  case some.some x y => exact Scalar.agrees_comm x y
  all_goals exact same_comm a b

theorem agrees_string_iff (s t : String) : (string s).agrees (string t) = true ↔ s = t :=
  beq_iff_eq

/-- A scalar agrees with scalars only. -/
theorem agrees_eq_false_of_isScalar {a b : Json} (ha : a.IsScalar) (hb : ¬ b.IsScalar) :
    a.agrees b = false := by
  cases b with
  | array | object =>
    cases a with
    | array | object => exact ha.elim
    | _ => rfl
  | _ => exact (hb trivial).elim

theorem isScalar_iff_of_agrees {a b : Json} (h : a.agrees b = true) :
    a.IsScalar ↔ b.IsScalar := by
  constructor
  · intro ha
    by_contra hb
    rw [agrees_eq_false_of_isScalar ha hb] at h
    exact nomatch h
  · intro hb
    by_contra ha
    rw [agrees_comm, agrees_eq_false_of_isScalar hb ha] at h
    exact nomatch h

theorem agrees_null_iff (a : Json) : a.agrees null = true ↔ a = null := by
  constructor
  · intro h
    cases a with
    | null => rfl
    | _ => exact nomatch h
  · rintro rfl
    exact agrees_self null

theorem agrees_bool_of_isNumber {a : Json} (b : Bool) (ha : a.IsNumber) :
    a.agrees (bool b) = false := by
  cases a with
  | int | float => rfl
  | _ => exact ha.elim

end Json

/-! ## The checks -/

namespace Check

/-- A rule passes on a resource when its check holds for what the path leads to. -/
theorem evaluate_passed_of_found {rule : Rule} {resource actual : Json}
    (h : Resource.resolve? resource rule.path = some actual) :
    (rule.evaluate resource).passed = rule.check.holds actual rule.expected := by
  rw [Rule.evaluate_passed, Rule.holds, h, Rule.passesOn]

/-- The check for equality, between a value found and a value expected, is a relation that keeps
kinds of values apart, and the checks for membership ask for a member that it relates. -/
structure OneEquality : Prop where
  evaluated : ∀ (rule : Rule) (resource actual : Json),
    Resource.resolve? resource rule.path = some actual →
      (rule.evaluate resource).passed = rule.check.holds actual rule.expected
  roundTrip : ∀ (rule : Rule) (resource : Json), rule.check = equals →
    Resource.resolve? resource rule.path = some rule.expected →
      (rule.evaluate resource).passed = true
  refl : ∀ a, equals.holds a a = true
  symm : ∀ a b, equals.holds a b = equals.holds b a
  text_iff : ∀ s t, equals.holds (.string s) (.string t) = true ↔ s = t
  isScalar_iff : ∀ a b, equals.holds a b = true → (a.IsScalar ↔ b.IsScalar)
  null_iff : ∀ a, equals.holds a .null = true ↔ a = .null
  number_bool : ∀ a b, a.IsNumber → equals.holds a (.bool b) = false
  oneOf_iff : ∀ a items, oneOf.holds a (.array items) = true ↔
    a.IsScalar ∧ ∃ x ∈ items, equals.holds a x = true
  contains_iff : ∀ items x, contains.holds (.array items) x = true ↔
    ∃ item ∈ items, equals.holds item x = true
  containsAny_iff : ∀ a items, containsAny.holds a (.array items) = true ↔
    ∃ x ∈ items, contains.holds a x = true

/-- **One equality is behind the checks.** -/
theorem one_equality : OneEquality where
  evaluated _ _ _ := evaluate_passed_of_found
  roundTrip rule resource hcheck hfound := by
    rw [evaluate_passed_of_found hfound, hcheck]
    exact Json.agrees_self rule.expected
  refl := Json.agrees_self
  symm := Json.agrees_comm
  text_iff := Json.agrees_string_iff
  isScalar_iff _ _ := Json.isScalar_iff_of_agrees
  null_iff := Json.agrees_null_iff
  number_bool _ := Json.agrees_bool_of_isNumber
  oneOf_iff a items := by
    show (a.scalar?.isSome && items.any a.agrees) = true ↔ _
    rw [Bool.and_eq_true, Json.isSome_scalar?_iff, List.any_eq_true]
    rfl
  contains_iff _ _ := List.any_eq_true
  containsAny_iff _ _ := List.any_eq_true

end Check

end CloudAudit
