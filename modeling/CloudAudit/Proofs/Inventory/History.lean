import CloudAudit.Inventory.Store
import CloudAudit.Proofs.Except
import Mathlib.Data.List.Induction
import Mathlib.Data.List.Nodup

/-!
# Histories of stores

A store remembers what was done to it: a query is answered by the latest failure of its type, or by
all resources of the type in the order in which they came, whatever was done about other types, and
all queries are counted (`keeps_history`). A snapshot is a history of its own, in which each member
brings the resources of one type.
-/

namespace CloudAudit.Store

/-- What can be done to a store. -/
inductive Operation where
  | addResources (resourceType : String) (resources : List Json)
  | addFailure (resourceType : String) (failure : QueryFailure)
  | query (resourceType : String)

namespace Operation

def resourceType : Operation → String
  | addResources resourceType _ | addFailure resourceType _ | query resourceType => resourceType

def isQuery : Operation → Bool
  | query _ => true
  | _ => false

/-- Does it to the store, which replies to a query. -/
def perform (operation : Operation) : StateM Store (Option Reply) := fun store =>
  match operation with
  | addResources resourceType resources => (none, store.addResources resourceType resources)
  | addFailure resourceType failure => (none, store.addFailure resourceType failure)
  | query resourceType => ((store.query resourceType).map some id)

/-- The resources that come with it for a type. -/
def resourcesFor? (resourceType : String) : Operation → Option (List Json)
  | addResources t resources => if t = resourceType then some resources else none
  | _ => none

/-- The failure that comes with it for a type. -/
def failureFor? (resourceType : String) : Operation → Option QueryFailure
  | addFailure t failure => if t = resourceType then some failure else none
  | _ => none

end Operation

open Operation

/-- Does one thing after the other, with the replies. -/
def session (operations : List Operation) : StateM Store (List (Option Reply)) :=
  operations.mapM perform

/-! ## What a history tells -/

/-- The latest failure of a type. -/
def latestFailure? (history : List Operation) (resourceType : String) : Option QueryFailure :=
  (history.filterMap (failureFor? resourceType)).getLast?

/-- The resources of a type in the order in which they came. -/
def collected (history : List Operation) (resourceType : String) : List Json :=
  (history.filterMap (resourcesFor? resourceType)).flatten

/-- The reply to a query after a history. -/
def told (history : List Operation) (resourceType : String) : Reply :=
  match latestFailure? history resourceType with
  | some failure => .error failure
  | none => .ok (collected history resourceType)

/-- The reply to an operation after a history, if it is a query. -/
def replyAfter? (history : List Operation) : Operation → Option Reply
  | .query resourceType => some (told history resourceType)
  | _ => none

section Types

variable (history : List Operation) (t : String)

/-- Nothing is found in the operations on other types. -/
theorem filterMap_filter_resourceType {α : Type} {part? : Operation → Option α}
    (h : ∀ operation, operation.resourceType ≠ t → part? operation = none) :
    (history.filter fun operation => operation.resourceType = t).filterMap part? =
      history.filterMap part? := by
  rw [List.filterMap_filter]
  refine List.filterMap_congr fun operation _ => ?_
  split
  · rfl
  · next hne => exact (h operation (by simpa using hne)).symm

/-- What is done about other types does not count. -/
theorem told_filter :
    told (history.filter fun operation => operation.resourceType = t) t = told history t := by
  have hfailures (operation : Operation) (h : operation.resourceType ≠ t) :
      operation.failureFor? t = none := by
    cases operation with
    | addFailure u failure => exact if_neg h
    | _ => rfl
  have hresources (operation : Operation) (h : operation.resourceType ≠ t) :
      operation.resourcesFor? t = none := by
    cases operation with
    | addResources u resources => exact if_neg h
    | _ => rfl
  unfold told latestFailure? collected
  rw [filterMap_filter_resourceType history t hfailures,
    filterMap_filter_resourceType history t hresources]

theorem latestFailure?_append_singleton (operation : Operation) :
    latestFailure? (history ++ [operation]) t =
      (operation.failureFor? t).or (latestFailure? history t) := by
  unfold latestFailure?
  rw [List.filterMap_append]
  cases h : operation.failureFor? t with
  | none => simp [h]
  | some failure => simp [h]

theorem collected_append_singleton (operation : Operation) :
    collected (history ++ [operation]) t =
      collected history t ++ (operation.resourcesFor? t).getD [] := by
  unfold collected
  rw [List.filterMap_append, List.flatten_append]
  cases h : operation.resourcesFor? t with
  | none => simp [h]
  | some resources => simp [h]

theorem collected_cons (operation : Operation) :
    collected (operation :: history) t =
      (operation.resourcesFor? t).getD [] ++ collected history t := by
  unfold collected
  rw [List.filterMap_cons]
  cases operation.resourcesFor? t <;> rfl

end Types

/-! ## What a store remembers -/

/-- The store answers and counts as its history tells. -/
structure Remembers (store : Store) (history : List Operation) : Prop where
  lookup_failures : ∀ t, store.failures.lookup t = latestFailure? history t
  held_eq : ∀ t, store.held t = collected history t
  queries_eq : store.queries = history.countP isQuery

theorem remembers_empty : Remembers {} [] := ⟨fun _ => rfl, fun _ => rfl, rfl⟩

namespace Remembers

variable {store : Store} {history : List Operation} (h : store.Remembers history)

include h

theorem answer_eq (t : String) : store.answer t = told history t := by
  have hfailure := h.lookup_failures t
  cases hlatest : latestFailure? history t with
  | none => simp [answer, told, hfailure, hlatest, h.held_eq]
  | some failure => simp [answer, told, hfailure, hlatest]

/-- A query is answered from what is remembered. -/
theorem reply_eq (operation : Operation) :
    (operation.perform.run store).1 = replyAfter? history operation := by
  cases operation with
  | query t => exact congrArg some (h.answer_eq t)
  | _ => rfl

/-- One more operation is remembered. -/
theorem perform (operation : Operation) :
    (operation.perform.run store).2.Remembers (history ++ [operation]) := by
  constructor
  · intro t
    rw [latestFailure?_append_singleton, ← h.lookup_failures]
    cases operation with
    | addResources u resources => rfl
    | addFailure u failure =>
      show ((u, failure) :: store.failures).lookup t = _
      by_cases htype : u = t
      · subst htype
        simp [failureFor?]
      · have hne : (t == u) = false := by simpa using Ne.symm htype
        simp [failureFor?, htype, List.lookup_cons, hne]
    | query u => rfl
  · intro t
    rw [collected_append_singleton, ← h.held_eq]
    cases operation with
    | addResources u resources =>
      refine (held_addResources store u t resources).trans (congrArg (store.held t ++ ·) ?_)
      show (if u = t then resources else []) = (if u = t then some resources else none).getD []
      split <;> rfl
    | addFailure u failure => exact (List.append_nil _).symm
    | query u => exact (List.append_nil _).symm
  · rw [List.countP_append, ← h.queries_eq]
    cases operation <;> rfl

theorem session (operations : List Operation) :
    ((session operations).run store).2.Remembers (history ++ operations) := by
  induction operations generalizing store history with
  | nil => rwa [List.append_nil]
  | cons operation rest ih =>
    rw [Store.session, List.mapM_cons, ← List.singleton_append, ← List.append_assoc]
    exact ih (h.perform operation)

/-- Each operation is replied to after those before it. -/
theorem getElem?_session (operations : List Operation) (index : Nat) :
    ((Store.session operations).run store).1[index]? =
      operations[index]?.map (replyAfter? (history ++ operations.take index)) := by
  induction operations generalizing store history index with
  | nil => rfl
  | cons operation rest ih =>
    rw [Store.session, List.mapM_cons]
    cases index with
    | zero =>
      rw [List.take_zero, List.append_nil]
      exact congrArg some (h.reply_eq operation)
    | succ index =>
      rw [List.take_succ_cons, ← List.singleton_append, ← List.append_assoc]
      exact ih (h.perform operation) index

end Remembers

/-- What a store does, whatever was done to it. -/
structure Kept (operations : List Operation) : Prop where
  /-- A query is answered as the operations before it tell, and nothing else is. -/
  reply_eq : ∀ index, ((session operations).run {}).1[index]? =
    operations[index]?.map (replyAfter? (operations.take index))
  queries_eq : ((session operations).run {}).2.queries = operations.countP isQuery
  other_types : ∀ t,
    told (operations.filter fun operation => operation.resourceType = t) t = told operations t

/-! ## Snapshots -/

/-- The additions of lists under names to a store. -/
def additions (entries : List (String × List Json)) : List Operation :=
  entries.map fun entry => .addResources entry.1 entry.2

/-- The members of the object of these lists. -/
def listMembers (entries : List (String × List Json)) : List (String × Json) :=
  entries.map fun entry => (entry.1, .array entry.2)

section Entries

variable {entries : List (String × List Json)} (t : String)

theorem lookup_listMembers : (listMembers entries).lookup t = (entries.lookup t).map .array := by
  induction entries with
  | nil => rfl
  | cons entry rest ih =>
    show List.lookup t ((entry.1, .array entry.2) :: listMembers rest) = _
    rw [List.lookup_cons, List.lookup_cons, ih]
    cases t == entry.1 <;> rfl

/-- Under different names, all that comes for a type is its own list. -/
theorem collected_additions (h : (entries.map Prod.fst).Nodup) :
    collected (additions entries) t = (entries.lookup t).getD [] := by
  induction entries with
  | nil => rfl
  | cons entry rest ih =>
    obtain ⟨name, items⟩ := entry
    obtain ⟨hfirst, hrest⟩ := List.nodup_cons.mp h
    show collected (.addResources name items :: additions rest) t = _
    rw [collected_cons, ih hrest, List.lookup_cons]
    by_cases htype : name = t
    · subst htype
      have hnone : rest.lookup name = none := List.lookup_eq_none_iff.mpr fun entry hm =>
        bne_iff_ne.mpr fun heq => hfirst (List.mem_map.mpr ⟨entry, hm, heq.symm⟩)
      rw [hnone, beq_self_eq_true]
      show (if name = name then some items else none).getD [] ++ [] = items
      rw [if_pos rfl, List.append_nil, Option.getD_some]
    · rw [beq_eq_false_iff_ne.mpr (Ne.symm htype)]
      show (if name = t then some items else none).getD [] ++ _ = _
      rw [if_neg htype, Option.getD_none, List.nil_append]

theorem latestFailure?_additions : latestFailure? (additions entries) t = none := by
  unfold latestFailure? additions
  rw [List.filterMap_map, List.getLast?_eq_none_iff, List.filterMap_eq_nil_iff]
  exact fun _ _ => rfl

/-- Queries leave what is told as it is. -/
theorem told_append_queries (history : List Operation) (types : List String) :
    told (history ++ types.map .query) t = told history t := by
  have hnothing {α : Type} {part? : Operation → Option α}
      (h : ∀ u, part? (.query u) = none) : (types.map Operation.query).filterMap part? = [] := by
    rw [List.filterMap_map, List.filterMap_eq_nil_iff]
    exact fun u _ => h u
  unfold told latestFailure? collected
  rw [List.filterMap_append, List.filterMap_append, hnothing fun _ => rfl, hnothing fun _ => rfl,
    List.append_nil, List.append_nil]

end Entries

/-- Adds the list of a member. -/
def addMember? (store : Store) (member : String × Json) : Except QueryFailure Store :=
  match member.2 with
  | .array items => .ok (store.addResources member.1 items)
  | _ => .error (.invalid member.1 "snapshot entry must be a list")

theorem ofMembers?_eq (members : List (String × Json)) :
    ofMembers? members = members.foldlM addMember? {} := rfl

end CloudAudit.Store

namespace CloudAudit

/-- The value is a list. -/
def Json.IsList (value : Json) : Prop := ∃ items, value = .array items

namespace Store

section Members

variable {members : List (String × Json)} {store after : Store}

theorem addMember?_of_not_isList {key : String} {value : Json} (h : ¬ value.IsList) :
    addMember? store (key, value) = .error (.invalid key "snapshot entry must be a list") := by
  cases value with
  | array items => exact absurd ⟨items, rfl⟩ h
  | _ => rfl

/-- Lists are added one after the other. -/
theorem foldlM_addMember?_listMembers (entries : List (String × List Json)) :
    (listMembers entries).foldlM addMember? store =
      .ok ((session (additions entries)).run store).2 := by
  induction entries generalizing store with
  | nil => rfl
  | cons entry rest ih =>
    rw [additions, List.map_cons, session, List.mapM_cons]
    exact ih

theorem isList_of_mem_listMembers {entries : List (String × List Json)} :
    ∀ member ∈ listMembers entries, member.2.IsList := by
  intro member hm
  obtain ⟨entry, -, rfl⟩ := List.mem_map.mp hm
  exact ⟨entry.2, rfl⟩

/-- Members are all lists, or one of them is the first that is none. -/
theorem eq_listMembers_or (members : List (String × Json)) :
    (∃ entries, members = listMembers entries) ∨
      ∃ entries key value rest,
        members = listMembers entries ++ (key, value) :: rest ∧ ¬ value.IsList := by
  induction members with
  | nil => exact .inl ⟨[], rfl⟩
  | cons member rest ih =>
    obtain ⟨key, value⟩ := member
    by_cases hlist : value.IsList
    · obtain ⟨items, rfl⟩ := hlist
      obtain ⟨entries, rfl⟩ | ⟨entries, other, value, rest, rfl, hvalue⟩ := ih
      · exact .inl ⟨(key, items) :: entries, rfl⟩
      · exact .inr ⟨(key, items) :: entries, other, value, rest, rfl, hvalue⟩
    · exact .inr ⟨[], key, value, rest, rfl, hlist⟩

theorem ofMembers?_listMembers (entries : List (String × List Json)) :
    ofMembers? (listMembers entries) = .ok ((session (additions entries)).run {}).2 :=
  foldlM_addMember?_listMembers entries

/-- The first member that is no list is what is wrong. -/
theorem ofMembers?_append_cons (entries : List (String × List Json)) {key : String} {value : Json}
    (rest : List (String × Json)) (h : ¬ value.IsList) :
    ofMembers? (listMembers entries ++ (key, value) :: rest) =
      .error (.invalid key "snapshot entry must be a list") := by
  rw [ofMembers?_eq, List.foldlM_append, foldlM_addMember?_listMembers]
  show List.foldlM addMember? _ ((key, value) :: rest) = _
  rw [List.foldlM_cons, addMember?_of_not_isList h]
  rfl

end Members

/-- Under this key stands the first member, in the order of keys, that is no list. -/
def FirstUnlisted (members : List (String × Json)) (key : String) : Prop :=
  ∃ value, (key, value) ∈ members ∧ ¬ value.IsList ∧
    ∀ other ∈ members, ¬ other.2.IsList → key ≤ other.1

/-- What is wrong with a snapshot. -/
inductive Refused : Json → QueryFailure → Prop where
  | unavailable {snapshot : Json} (h : ¬ ∃ members, snapshot = .object members) :
    Refused snapshot (.unavailable "snapshot must be an object keyed by resource type")
  | invalid {members : List (String × Json)} {key : String} (h : FirstUnlisted members key) :
    Refused (.object members) (.invalid key "snapshot entry must be a list")

/-- The list under a name in an object, if there is one. -/
def listed (snapshot : Json) (resourceType : String) : List Json :=
  match snapshot.field? resourceType with
  | some (.array items) => items
  | _ => []

/-- What becomes of a snapshot. -/
structure ReadsSnapshot (snapshot : Json) : Prop where
  accepted_iff : (∃ store, ofSnapshot? snapshot = .ok store) ↔
    ∃ members, snapshot = .object members ∧ ∀ member ∈ members, member.2.IsList
  /-- Whatever is asked, each type is answered by its list. -/
  replies : ∀ store, ofSnapshot? snapshot = .ok store → ∀ types : List String,
    ((session (types.map .query)).run store).1 =
      types.map fun resourceType => some (.ok (listed snapshot resourceType))
  queries_eq : ∀ store, ofSnapshot? snapshot = .ok store → store.queries = 0
  refused_iff : ∀ failure, ofSnapshot? snapshot = .error failure ↔ Refused snapshot failure

/-- Lists under different names are told by their names. -/
theorem told_additions {entries : List (String × List Json)} (h : (entries.map Prod.fst).Nodup)
    (t : String) : told (additions entries) t = .ok (listed (.object (listMembers entries)) t) := by
  have hlisted : listed (.object (listMembers entries)) t = (entries.lookup t).getD [] := by
    unfold listed
    rw [Json.field?, lookup_listMembers]
    cases entries.lookup t <;> rfl
  rw [told, latestFailure?_additions, collected_additions t h, hlisted]

theorem readsSnapshot_listMembers {entries : List (String × List Json)}
    (h : (entries.map Prod.fst).Nodup) : ReadsSnapshot (.object (listMembers entries)) := by
  have hread : ofSnapshot? (.object (listMembers entries)) =
      .ok ((session (additions entries)).run {}).2 := ofMembers?_listMembers entries
  have hremembers := remembers_empty.session (additions entries)
  refine ⟨⟨fun _ => ⟨_, rfl, isList_of_mem_listMembers⟩, fun _ => ⟨_, hread⟩⟩, ?_, ?_, ?_⟩
  · -- a query comes after the additions and after other queries, which do not count
    intro store hstore types
    obtain rfl := Except.ok.inj (hread.symm.trans hstore)
    refine List.ext_getElem? fun index => ?_
    rw [hremembers.getElem?_session, List.nil_append, ← List.map_take, List.getElem?_map,
      List.getElem?_map, Option.map_map]
    congr 1
    funext t
    show some (told (additions entries ++ (types.take index).map .query) t) = _
    rw [told_append_queries, told_additions h]
  · intro store hstore
    obtain rfl := Except.ok.inj (hread.symm.trans hstore)
    rw [hremembers.queries_eq, List.nil_append, List.countP_eq_zero]
    intro operation hm
    obtain ⟨entry, -, rfl⟩ := List.mem_map.mp hm
    exact Bool.false_ne_true
  · intro failure
    rw [hread]
    refine ⟨nofun, fun hrefused => ?_⟩
    cases hrefused with
    | unavailable hnone => exact absurd ⟨_, rfl⟩ hnone
    | invalid hfirst =>
      obtain ⟨value, hm, hvalue, -⟩ := hfirst
      exact absurd (isList_of_mem_listMembers _ hm) hvalue

/-- The keys before a member are less than its own, and those behind it are greater. -/
theorem firstUnlisted_append_cons {entries : List (String × List Json)} {key : String}
    {value : Json} {rest : List (String × Json)} (hvalue : ¬ value.IsList)
    (hkeys : ((listMembers entries ++ (key, value) :: rest).map Prod.fst).Pairwise (· < ·)) :
    FirstUnlisted (listMembers entries ++ (key, value) :: rest) key := by
  rw [List.map_append, List.map_cons, List.pairwise_append, List.pairwise_cons] at hkeys
  obtain ⟨-, ⟨hbehind, -⟩, -⟩ := hkeys
  refine ⟨value, List.mem_append_right _ List.mem_cons_self, hvalue, fun other hm hother => ?_⟩
  rcases List.mem_append.mp hm with hm | hm
  · exact absurd (isList_of_mem_listMembers other hm) hother
  · rcases List.mem_cons.mp hm with rfl | hm
    · exact String.le_refl _
    · exact Std.le_of_lt (hbehind _ (List.mem_map_of_mem hm))

theorem Refused.unique {snapshot : Json} {failure other : QueryFailure}
    (h : Refused snapshot failure) (hother : Refused snapshot other) : failure = other := by
  cases h with
  | unavailable hnone =>
    cases hother with
    | unavailable => rfl
    | invalid => exact absurd ⟨_, rfl⟩ hnone
  | invalid hfirst =>
    cases hother with
    | unavailable hnone => exact absurd ⟨_, rfl⟩ hnone
    | invalid hfirst' =>
      obtain ⟨value, hm, hvalue, hle⟩ := hfirst
      obtain ⟨value', hm', hvalue', hle'⟩ := hfirst'
      rw [String.le_antisymm (hle _ hm' hvalue') (hle' _ hm hvalue)]

theorem Refused.not_lists {snapshot : Json} {failure : QueryFailure}
    (h : Refused snapshot failure) :
    ¬ ∃ members, snapshot = .object members ∧ ∀ member ∈ members, member.2.IsList := by
  rintro ⟨members, rfl, hlists⟩
  cases h with
  | unavailable hnone => exact hnone ⟨members, rfl⟩
  | invalid hfirst =>
    obtain ⟨value, hm, hvalue, -⟩ := hfirst
    exact hvalue (hlists _ hm)

/-- It is enough that a snapshot is refused for one reason that holds. -/
theorem Refused.readsSnapshot {snapshot : Json} {failure : QueryFailure}
    (h : Refused snapshot failure) (hread : ofSnapshot? snapshot = .error failure) :
    ReadsSnapshot snapshot where
  accepted_iff := by
    rw [hread]
    exact ⟨nofun, fun hlists => absurd hlists h.not_lists⟩
  replies := fun _ hstore => nomatch hread.symm.trans hstore
  queries_eq := fun _ hstore => nomatch hread.symm.trans hstore
  refused_iff := fun other => by
    rw [hread, Except.error.injEq]
    exact ⟨fun heq => heq ▸ h, h.unique⟩

theorem readsSnapshot_object {members : List (String × Json)}
    (hkeys : (members.map Prod.fst).Pairwise (· < ·)) : ReadsSnapshot (.object members) := by
  obtain ⟨entries, rfl⟩ | ⟨entries, key, value, rest, rfl, hvalue⟩ := eq_listMembers_or members
  · have hfst : (listMembers entries).map Prod.fst = entries.map Prod.fst := List.map_map
    rw [hfst] at hkeys
    exact readsSnapshot_listMembers (hkeys.imp String.ne_of_lt)
  · exact (Refused.invalid (firstUnlisted_append_cons hvalue hkeys)).readsSnapshot
      (ofMembers?_append_cons entries rest hvalue)

/-- **A store answers as its history tells, and a snapshot is read as a history of lists.** -/
theorem keeps_history :
    (∀ operations, Kept operations) ∧
      ∀ snapshot : Json, snapshot.Canonical → ReadsSnapshot snapshot := by
  refine ⟨fun operations => ⟨fun index => ?_, ?_, told_filter operations⟩, fun snapshot h => ?_⟩
  · exact remembers_empty.getElem?_session operations index
  · exact (remembers_empty.session operations).queries_eq
  · cases snapshot with
    | object members =>
      unfold Json.Canonical at h
      exact readsSnapshot_object h.1
    | _ => exact (Refused.unavailable fun ⟨_, h⟩ => nomatch h).readsSnapshot rfl

/-- Of several members that are no lists, the first one is named. -/
theorem refuses_first_unlisted :
    (Json.object [("a", .array []), ("b", .null), ("c", .int 0)]).Canonical ∧
      ofSnapshot? (.object [("a", .array []), ("b", .null), ("c", .int 0)]) =
        .error (.invalid "b" "snapshot entry must be a list") := by
  have hcanonical : (Json.object [("a", .array []), ("b", .null), ("c", .int 0)]).Canonical := by
    simp only [Json.Canonical, Json.CanonicalMembers, Json.CanonicalItems, and_self, and_true]
    decide
  have hfirst : FirstUnlisted [("a", .array []), ("b", .null), ("c", .int 0)] "b" := by
    refine ⟨.null, by simp, (fun ⟨_, h⟩ => nomatch h), fun other hm hother => ?_⟩
    rcases List.mem_cons.mp hm with rfl | hm
    · exact absurd ⟨[], rfl⟩ hother
    · rcases List.mem_cons.mp hm with rfl | hm
      · decide
      · obtain rfl := List.mem_singleton.mp hm
        decide
  exact ⟨hcanonical, ((keeps_history.2 _ hcanonical).refused_iff _).mpr (.invalid hfirst)⟩

end Store

end CloudAudit
