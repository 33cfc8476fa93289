import Mathlib.Algebra.BigOperators.Group.List.Basic
import Mathlib.Algebra.GroupWithZero.Nat
import Mathlib.Data.List.Induction
import Mathlib.Data.List.Nodup

/-!
# First occurrences

Lists from which repetitions are dropped, each value staying where it came first, and counts that
are split up by such a list of keys.
-/

namespace CloudAudit

variable {α β : Type} [DecidableEq β]

theorem nodup_eraseDups (values : List β) : values.eraseDups.Nodup := by
  match values with
  | [] => exact List.nodup_nil
  | value :: rest =>
    rw [List.eraseDups_cons, List.nodup_cons]
    have : (rest.filter fun other => !other == value).length < rest.length + 1 :=
      Nat.lt_succ_of_le (List.length_filter_le _ _)
    exact ⟨by simp, nodup_eraseDups _⟩
termination_by values.length

/-- A value at the end counts when it is new. -/
theorem eraseDups_append_singleton (values : List β) (value : β) :
    (values ++ [value]).eraseDups =
      if value ∈ values then values.eraseDups else values.eraseDups ++ [value] := by
  rw [List.eraseDups_append]
  by_cases h : value ∈ values
  · simp [List.removeAll, h]
  · simp [List.removeAll, h, List.eraseDups_cons]

/-- Each of the values once, in the order in which they come first. -/
structure FirstOccurrences (values firsts : List β) : Prop where
  mem_iff : ∀ value, value ∈ firsts ↔ value ∈ values
  ordered : firsts.Pairwise fun a b => values.idxOf a < values.idxOf b

theorem firstOccurrences_eraseDups (values : List β) :
    FirstOccurrences values values.eraseDups := by
  refine ⟨fun value => List.mem_eraseDups, ?_⟩
  induction values using List.reverseRecOn with
  | nil => exact List.Pairwise.nil
  | append_singleton values value ih =>
    have hkept : values.eraseDups.Pairwise fun a b =>
        (values ++ [value]).idxOf a < (values ++ [value]).idxOf b := by
      refine ih.imp_of_mem fun {a b} ha hb hlt => ?_
      rwa [List.idxOf_append_of_mem (List.mem_eraseDups.mp ha),
        List.idxOf_append_of_mem (List.mem_eraseDups.mp hb)]
    rw [eraseDups_append_singleton]
    split
    · exact hkept
    next hnew =>
    refine List.pairwise_append.mpr ⟨hkept, List.pairwise_singleton _ _, fun a ha b hb => ?_⟩
    obtain rfl := List.mem_singleton.mp hb
    rw [List.idxOf_append_of_mem (List.mem_eraseDups.mp ha), List.idxOf_append_of_notMem hnew]
    exact Nat.lt_add_right _ (List.idxOf_lt_length_of_mem (List.mem_eraseDups.mp ha))

theorem eraseDups_of_nodup {values : List β} (h : values.Nodup) : values.eraseDups = values := by
  induction values using List.reverseRecOn with
  | nil => rfl
  | append_singleton values value ih =>
    obtain ⟨hvalues, -, hne⟩ := List.nodup_append.mp h
    have hnew : value ∉ values := fun hm => hne value hm value List.mem_cons_self rfl
    rw [eraseDups_append_singleton, if_neg hnew, ih hvalues]

theorem eraseDups_filter (p : β → Bool) (values : List β) :
    (values.filter p).eraseDups = values.eraseDups.filter p := by
  induction values using List.reverseRecOn with
  | nil => rfl
  | append_singleton values value ih =>
    rw [List.filter_append, eraseDups_append_singleton]
    by_cases hp : p value = true
    · by_cases hm : value ∈ values <;> simp [hp, hm, ih, eraseDups_append_singleton]
    · by_cases hm : value ∈ values <;> simp [hp, hm, ih]

/-- What is new in a list after the values that its first occurrences begin with. -/
theorem eraseDups_removeAll_of_eq_append {before own rest : List β}
    (h : before.eraseDups ++ rest = own.eraseDups) : (own.removeAll before).eraseDups = rest := by
  obtain ⟨-, -, hne⟩ := List.nodup_append.mp (h ▸ nodup_eraseDups own)
  have hgone : before.eraseDups.filter (fun value => !before.contains value) = [] := by
    refine List.filter_eq_nil_iff.mpr fun value hv => ?_
    simpa using List.mem_eraseDups.mp hv
  have hkept : rest.filter (fun value => !before.contains value) = rest := by
    refine List.filter_eq_self.mpr fun value hv => ?_
    have hnot : value ∉ before := fun hb => hne value (List.mem_eraseDups.mpr hb) value hv rfl
    simpa using hnot
  show (own.filter _).eraseDups = rest
  rw [eraseDups_filter, ← h, List.filter_append]
  exact (congrArg₂ _ hgone hkept).trans (List.nil_append rest)

/-- Values around a list leave its first occurrences alone when those in front of it are the
beginning of its own, and those behind it are all its own. -/
theorem eraseDups_around_eq_iff {before own after : List β} :
    (before ++ own ++ after).eraseDups = own.eraseDups ↔
      before.eraseDups <+: own.eraseDups ∧ ∀ value ∈ after, value ∈ own := by
  constructor
  · intro h
    refine ⟨?_, fun value hv => ?_⟩
    · rw [← h, List.append_assoc, List.eraseDups_append]
      exact List.prefix_append _ _
    · rw [← List.mem_eraseDups, ← h, List.mem_eraseDups]
      exact List.mem_append_right _ hv
  · rintro ⟨⟨rest, hrest⟩, hafter⟩
    have hnone : after.removeAll (before ++ own) = [] := by
      refine List.filter_eq_nil_iff.mpr fun value hv => ?_
      simp [hafter value hv]
    rw [List.eraseDups_append, List.eraseDups_append, hnone,
      eraseDups_removeAll_of_eq_append hrest, List.eraseDups_nil, List.append_nil, hrest]

/-- What is counted under each of the keys is counted once altogether. -/
theorem sum_countP_of_keys {keys : List β} (hn : keys.Nodup) (key : α → β) (p : α → Bool)
    (values : List α) (hk : ∀ value ∈ values, key value ∈ keys) :
    (keys.map fun k => values.countP fun value => key value = k ∧ p value).sum =
      values.countP p := by
  induction values with
  | nil => simp
  | cons value rest ih =>
    have hr := ih fun other ho => hk other (List.mem_cons_of_mem _ ho)
    -- only the key of the value contributes, and it is there once
    have hone : (keys.map fun k => if key value = k ∧ p value then 1 else 0).sum =
        if p value then 1 else 0 := by
      rw [List.sum_map_eq_nsmul_single (key value) _ fun k hne _ => if_neg fun h => hne h.1.symm,
        List.count_eq_one_of_mem hn (hk value List.mem_cons_self)]
      simp
    simp only [List.countP_cons, decide_eq_true_eq]
    rw [List.sum_map_add, hr, hone]

/-- Values sorted under distinct keys, one of which each of them has. -/
theorem flatMap_filter_perm {keys : List β} (hn : keys.Nodup) (key : α → β) (values : List α)
    (hk : ∀ value ∈ values, key value ∈ keys) :
    (keys.flatMap fun k => values.filter fun value => key value == k).Perm values := by
  classical
  rw [List.perm_iff_count]
  intro value
  have hsum := sum_countP_of_keys hn key (fun other => other == value) values hk
  rw [List.count_flatMap, List.count_eq_countP, ← hsum]
  refine congrArg List.sum (List.map_congr_left fun k _ => ?_)
  rw [Function.comp_apply, List.count_eq_countP, List.countP_filter]
  refine List.countP_congr fun other _ => ?_
  simp [and_comm]

end CloudAudit
