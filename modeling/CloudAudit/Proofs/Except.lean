import Mathlib.Data.List.Basic
import Mathlib.Data.List.Forall2

/-!
# Programs that may fail

What is known about the parts of a program that gives a result, or none, once it is known what the
program comes to.
-/

namespace CloudAudit

variable {ε ε' α β : Type}

/-- A reader goes on with what it has read. -/
theorem reads {program : Option α} {next : α → Option β} {value : α} {result : β}
    (h : program = some value) (hnext : next value = some result) :
    program >>= next = some result := by
  rw [h]
  exact hnext

theorem mapM_mapError (g : ε → ε') (f : α → Except ε β) (inputs : List α) :
    (inputs.mapM fun input => (f input).mapError g) = (inputs.mapM f).mapError g := by
  induction inputs with
  | nil => rfl
  | cons input rest ih =>
    rw [List.mapM_cons, List.mapM_cons, ih]
    cases f input with
    | error e => rfl
    | ok result => cases rest.mapM f <;> rfl

theorem bind_eq_ok_iff {program : Except ε α} {next : α → Except ε β} {result : β} :
    program >>= next = .ok result ↔ ∃ value, program = .ok value ∧ next value = .ok result := by
  cases program with
  | error e => exact ⟨nofun, fun ⟨_, h, _⟩ => nomatch h⟩
  | ok value => exact ⟨fun h => ⟨value, rfl, h⟩, fun ⟨_, h, hnext⟩ => Except.ok.inj h ▸ hnext⟩

theorem bind_eq_error_iff {program : Except ε α} {next : α → Except ε β} {e : ε} :
    program >>= next = .error e ↔
      program = .error e ∨ ∃ value, program = .ok value ∧ next value = .error e := by
  cases program with
  | error fault =>
    have hbind : Except.error fault >>= next = .error fault := rfl
    rw [hbind]
    simp
  | ok value =>
    exact ⟨fun h => .inr ⟨value, rfl, h⟩,
      fun h => h.elim nofun fun ⟨_, h, hnext⟩ => Except.ok.inj h ▸ hnext⟩

theorem map_eq_ok_iff {program : Except ε α} {f : α → β} {result : β} :
    program.map f = .ok result ↔ ∃ value, program = .ok value ∧ f value = result := by
  cases program with
  | error e => exact ⟨nofun, fun ⟨_, h, _⟩ => nomatch h⟩
  | ok value =>
    constructor
    · intro h
      exact ⟨value, rfl, Except.ok.inj h⟩
    · rintro ⟨other, h, rfl⟩
      rw [← Except.ok.inj h]
      rfl

theorem toOption_eq_some_iff {program : Except ε α} {value : α} :
    program.toOption = some value ↔ program = .ok value := by
  cases program with
  | error e => exact ⟨nofun, nofun⟩
  | ok other => exact ⟨fun h => congrArg Except.ok (Option.some.inj h),
      fun h => congrArg some (Except.ok.inj h)⟩

section Guards

variable {p : Prop} [Decidable p] {fault : ε} {program : Except ε α}

theorem guard_eq_ok_iff {value : α} :
    (if p then .error fault else program) = .ok value ↔ ¬ p ∧ program = .ok value := by
  by_cases h : p
  · rw [if_pos h]
    exact ⟨nofun, fun hp => absurd h hp.1⟩
  · rw [if_neg h]
    exact ⟨fun hv => ⟨h, hv⟩, And.right⟩

theorem guard_eq_error_iff {e : ε} :
    (if p then .error fault else program) = .error e ↔
      p ∧ fault = e ∨ ¬ p ∧ program = .error e := by
  by_cases h : p
  · rw [if_pos h, Except.error.injEq]
    simp [h]
  · rw [if_neg h]
    simp [h]

end Guards

variable {f : α → Except ε β} {inputs : List α}

/-- A list is read item by item. -/
theorem mapM_eq_ok_iff {results : List β} :
    inputs.mapM f = .ok results ↔
      List.Forall₂ (fun input result => f input = .ok result) inputs results := by
  induction inputs generalizing results with
  | nil =>
    rw [List.mapM_nil, List.forall₂_nil_left_iff]
    exact ⟨fun h => (Except.ok.inj h).symm, fun h => h ▸ rfl⟩
  | cons input rest ih =>
    rw [List.mapM_cons, bind_eq_ok_iff, List.forall₂_cons_left_iff]
    constructor
    · rintro ⟨result, hfirst, h⟩
      obtain ⟨others, hrest, h⟩ := bind_eq_ok_iff.mp h
      exact ⟨result, others, hfirst, ih.mp hrest, (Except.ok.inj h).symm⟩
    · rintro ⟨result, others, hfirst, hrest, rfl⟩
      exact ⟨result, hfirst, bind_eq_ok_iff.mpr ⟨others, ih.mpr hrest, rfl⟩⟩

/-- The fault of a list is that of the first item that has one. -/
theorem mapM_eq_error_iff {e : ε} :
    inputs.mapM f = .error e ↔
      ∃ index input, inputs[index]? = some input ∧ f input = .error e ∧
        ∀ other ∈ inputs.take index, ∃ result, f other = .ok result := by
  induction inputs with
  | nil =>
    constructor
    · intro h
      exact nomatch h
    · rintro ⟨index, input, h, -⟩
      exact nomatch h
  | cons first rest ih =>
    rw [List.mapM_cons, bind_eq_error_iff]
    constructor
    · rintro (hfirst | ⟨result, hfirst, h⟩)
      · exact ⟨0, first, rfl, hfirst, nofun⟩
      obtain hrest | ⟨results, -, h⟩ := bind_eq_error_iff.mp h
      · obtain ⟨index, input, hi, hinput, hbefore⟩ := ih.mp hrest
        refine ⟨index + 1, input, hi, hinput, ?_⟩
        rw [List.take_succ_cons, List.forall_mem_cons]
        exact ⟨⟨result, hfirst⟩, hbefore⟩
      · exact nomatch h
    · rintro ⟨index, input, hi, hinput, hbefore⟩
      cases index with
      | zero =>
        obtain rfl : first = input := Option.some.inj hi
        exact .inl hinput
      | succ index =>
        rw [List.take_succ_cons, List.forall_mem_cons] at hbefore
        obtain ⟨⟨result, hfirst⟩, hbefore⟩ := hbefore
        have hrest := ih.mpr ⟨index, input, hi, hinput, hbefore⟩
        exact .inr ⟨result, hfirst, bind_eq_error_iff.mpr (.inl hrest)⟩

theorem exists_of_mapM_eq_error {e : ε} (h : inputs.mapM f = .error e) :
    ∃ input ∈ inputs, f input = .error e := by
  obtain ⟨index, input, hi, hinput, -⟩ := mapM_eq_error_iff.mp h
  exact ⟨input, List.mem_of_getElem? hi, hinput⟩

theorem getElem?_of_mapM_eq_ok {results : List β} (h : inputs.mapM f = .ok results) {index : Nat}
    {input : α} (hi : inputs[index]? = some input) :
    ∃ result, results[index]? = some result ∧ f input = .ok result := by
  have hread := mapM_eq_ok_iff.mp h
  obtain ⟨hlt, rfl⟩ := List.getElem?_eq_some_iff.mp hi
  have hlt' : index < results.length := hread.length_eq ▸ hlt
  exact ⟨results[index], List.getElem?_eq_getElem hlt', hread.get hlt hlt'⟩

end CloudAudit
