import CloudAudit.Program.Setup

/-!
# Running programs

How a program with a state runs that is put together from others: what it comes to without failures,
and what is known of its parts once it has come to a result.
-/

namespace CloudAudit

variable {σ α β ε : Type} {start : σ}

/-! ## Without failures -/

theorem run_bind_of_run {program : StateM σ α} {value : α}
    (h : program.run start = (value, start)) (next : α → StateM σ β) :
    (program >>= next).run start = (next value).run start := by
  rw [StateT.run_bind, h]
  rfl

theorem run_mapM_of_run {program : α → StateM σ β} {result : α → β}
    (h : ∀ input, (program input).run start = (result input, start)) (inputs : List α) :
    (inputs.mapM program).run start = (inputs.map result, start) := by
  induction inputs with
  | nil => rfl
  | cons input rest ih =>
    rw [List.mapM_cons, run_bind_of_run (h input), run_bind_of_run ih]
    rfl

theorem run_filterM_of_run {program : α → StateM σ Bool} {result : α → Bool}
    (h : ∀ input, (program input).run start = (result input, start)) (inputs : List α) :
    (inputs.filterM program).run start = (inputs.filter result, start) := by
  -- what is kept so far is in reverse
  have hkept (kept : List α) : (inputs.filterAuxM program kept).run start =
      ((inputs.filter result).reverse ++ kept, start) := by
    induction inputs generalizing kept with
    | nil => rfl
    | cons input rest ih =>
      rw [List.filterAuxM, run_bind_of_run (h input), ih, List.filter_cons]
      cases result input <;> simp
  rw [List.filterM, run_bind_of_run (hkept []), List.append_nil, List.reverse_reverse]
  rfl

/-! ## With failures -/

/-- A program with failures goes on after a result only. -/
theorem run_andThen (program : ExceptT ε (StateM σ) α) (next : α → ExceptT ε (StateM σ) β)
    (start : σ) :
    (program >>= next).run.run start =
      match program.run.run start with
      | (.ok value, middle) => (next value).run.run middle
      | (.error e, middle) => (.error e, middle) := by
  rw [ExceptT.run_bind, StateT.run_bind]
  obtain ⟨value | e, middle⟩ := program.run.run start <;> rfl

/-- A program without failures comes to a result in any case. -/
theorem run_lift_andThen (program : StateM σ α) (next : α → ExceptT ε (StateM σ) β) (start : σ) :
    (liftM program >>= next).run.run start =
      (next (program.run start).1).run.run (program.run start).2 := rfl

/-- What comes to a result has gone on after one. -/
theorem exists_of_andThen {program : ExceptT ε (StateM σ) α} {next : α → ExceptT ε (StateM σ) β}
    {result : β} (h : ((program >>= next).run.run start).1 = .ok result) :
    ∃ value middle, program.run.run start = (.ok value, middle) ∧
      ((next value).run.run middle).1 = .ok result := by
  rw [run_andThen] at h
  generalize program.run.run start = finish at h
  obtain ⟨e | value, middle⟩ := finish
  · exact nomatch h
  · exact ⟨value, middle, rfl, h⟩

variable {value : α} {finish : σ}

theorem run_of_lift {program : StateM σ α}
    (h : (ExceptT.lift program : ExceptT ε (StateM σ) α).run.run start = (.ok value, finish)) :
    program.run start = (value, finish) := by
  have hrun : (ExceptT.lift program : ExceptT ε (StateM σ) α).run.run start =
      (.ok (program.run start).1, (program.run start).2) := rfl
  obtain ⟨hvalue, hfinish⟩ := Prod.mk.inj (hrun.symm.trans h)
  exact Prod.ext (Except.ok.inj hvalue) hfinish

theorem eq_ok_of_orFail {failure : ε → CommandError} {result : Except ε α}
    (h : (orFail failure result : ExceptT CommandError (StateM σ) α).run.run start =
      (.ok value, finish)) : result = .ok value ∧ start = finish := by
  cases result with
  | error e => exact nomatch h
  | ok other =>
    obtain ⟨hvalue, rfl⟩ := Prod.mk.inj h
    exact ⟨congrArg Except.ok (Except.ok.inj hvalue), rfl⟩

end CloudAudit
