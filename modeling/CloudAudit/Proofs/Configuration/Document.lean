import CloudAudit.Proofs.Configuration.Overrides
import CloudAudit.Proofs.Yaml.Entries

/-!
# Configurations in documents

A document spells the settings that it has entries for, and the others go without saying
(`spelled_of_document`).
-/

namespace CloudAudit

open Yaml

namespace Configuration

/-- The node that a document has for a setting of the engine. -/
def setting? (root : Option Node) (name : String) : Option Node :=
  (root.bind (Node.member? "engine")).bind (Node.member? name)

/-- Settings that a document spells, with what goes without saying in place of the others. -/
structure Spelled (root : Option Node) (engine : EngineSettings) : Prop where
  concurrency :
    Settled 1 [(setting? root "concurrency").map Node.IsNatural] engine.concurrency
  timeoutSeconds :
    Settled 30 [(setting? root "queryTimeoutSecs").map Node.IsNatural] engine.timeoutSeconds
  matchPolicy : Settled .any
    [(setting? root "matchPolicy").map fun node policy => node.IsChoice policy.name]
    engine.matchPolicy

section Readers

variable {path : String} {node : Node}

theorem matchPolicy_eq_ok_iff {policy : MatchPolicy} :
    matchPolicy path node = .ok policy ↔ node.IsChoice policy.name := by
  have hname (policy : MatchPolicy) : (MatchPolicy.ofName? policy.name).getD .any = policy := by
    cases policy <;> rfl
  unfold matchPolicy
  simp only [bind_eq_ok_iff, Node.choice_eq_ok_iff]
  constructor
  · rintro ⟨name, ⟨hmem, hchoice⟩, h⟩
    obtain ⟨other, rfl⟩ : ∃ other : MatchPolicy, name = other.name := by
      rcases List.mem_cons.mp hmem with rfl | hmem
      · exact ⟨.any, rfl⟩
      · exact ⟨.all, List.mem_singleton.mp hmem⟩
    obtain rfl : other = policy := (hname other).symm.trans (Except.ok.inj h)
    exact hchoice
  · intro hchoice
    refine ⟨policy.name, ⟨?_, hchoice⟩, congrArg Except.ok (hname policy)⟩
    cases policy <;> decide

theorem place_concurrency :
    Node.Place engineFields "concurrency" (Node.natural "usize") SeenEngine.concurrency :=
  ⟨by simp [engineFields], by simp [engineFields], by simp [engineFields]⟩

theorem place_timeoutSeconds :
    Node.Place engineFields "queryTimeoutSecs" (Node.natural "u64") SeenEngine.timeoutSeconds :=
  ⟨by simp [engineFields], by simp [engineFields], by simp [engineFields]⟩

theorem place_matchPolicy :
    Node.Place engineFields "matchPolicy" matchPolicy SeenEngine.matchPolicy :=
  ⟨by simp [engineFields], by simp [engineFields], by simp [engineFields]⟩

theorem place_engine : Node.Place fields "engine" engineSettings Seen.engine :=
  ⟨by simp [fields], by simp [fields], by simp [fields]⟩

theorem spelled_of_engineSettings {root : Option Node} {engine : EngineSettings}
    (hroot : root.bind (Node.member? "engine") = some node)
    (h : engineSettings path node = .ok engine) : Spelled root engine := by
  obtain ⟨seen, hseen, h⟩ := bind_eq_ok_iff.mp h
  obtain rfl := Except.ok.inj h
  have hsetting (name : String) : setting? root name = node.member? name := by
    rw [setting?, hroot, Option.bind_some]
  have hcount := place_concurrency.rel_of_record rfl hseen
  have htimeout := place_timeoutSeconds.rel_of_record rfl hseen
  have hpolicy := place_matchPolicy.rel_of_record rfl hseen
  simp only [Node.natural_eq_ok_iff, matchPolicy_eq_ok_iff, ← hsetting] at hcount htimeout hpolicy
  exact ⟨settled_getD hcount, settled_getD htimeout, settled_getD hpolicy⟩

theorem spelled_default {root : Option Node} (h : root.bind (Node.member? "engine") = none) :
    Spelled root {} := by
  have hsetting (name : String) : setting? root name = none := by
    rw [setting?, h, Option.bind_none]
  constructor <;> rw [hsetting] <;> rfl

theorem spelled_of_document {root : Option Node} {configuration : Configuration}
    (h : document root = .ok configuration) : Spelled root configuration.engine := by
  cases root with
  | none =>
    obtain rfl := Except.ok.inj h
    exact spelled_default rfl
  | some node =>
    obtain ⟨seen, hseen, h⟩ := bind_eq_ok_iff.mp h
    obtain rfl := Except.ok.inj h
    have hengine := place_engine.rel_of_record rfl hseen
    generalize hchild : node.member? "engine" = child? at hengine
    generalize seen.engine = engine? at hengine
    cases hengine with
    | none => exact spelled_default hchild
    | some hread => exact spelled_of_engineSettings hchild hread

end Readers

theorem parse?_eq_ok {text : String} {configuration : Configuration}
    (h : parse? text = .ok configuration) :
    ∃ root, Node.root? text = some root ∧ document root = .ok configuration := by
  unfold parse? at h
  split at h
  · exact nomatch h
  · next root hroot =>
    split at h
    · exact nomatch h
    · next read hread =>
      obtain ⟨_, -, h⟩ := bind_eq_ok_iff.mp h
      obtain rfl := Except.ok.inj h
      exact ⟨root, hroot, hread⟩

end Configuration

end CloudAudit
