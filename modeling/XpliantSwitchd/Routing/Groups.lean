import XpliantSwitchd.Routing.Defs
import Mathlib.Data.List.Range

/-!
# How a next-hop group is built

A group is filled by `nh_insert` only, one hardware slot after the other, so
the next hops of a group occupy consecutive slots from `nh_id` on.  The lemmas
of this module say what the copy and update loops do to the ids, the slots, the
size and the reference count of a group.
-/

namespace XpliantSwitchd
namespace Routing

/-- The next hops of a group occupy consecutive slots from its base. -/
def NhGroup.Laid (group : NhGroup) : Prop :=
  group.nhMap.map (·.xpNhId) = List.range' group.nhId group.nhMap.length

/-- A group is well formed when its ids are distinct, its next hops laid out
from its base, and it has room for all of them. -/
structure NhGroup.WellFormed (group : NhGroup) : Prop where
  idsOnce : group.ids.Nodup
  laid : group.Laid
  fits : group.nhMap.length ≤ group.size

@[simp] theorem NhGroup.length_ids (group : NhGroup) :
    group.ids.length = group.nhMap.length := by
  simp [NhGroup.ids]

/-! ## Insertion -/

section Insert

variable (env : Env) (group : NhGroup) (nh : NhEntry)

@[simp] theorem nhInsert_refCnt : (nhInsert env group nh).refCnt = group.refCnt :=
  rfl

@[simp] theorem nhInsert_nhId : (nhInsert env group nh).nhId = group.nhId := rfl

@[simp] theorem nhInsert_ids :
    (nhInsert env group nh).ids = group.ids ++ [nh.id] := by
  simp [nhInsert, NhGroup.ids]

@[simp] theorem nhInsert_length :
    (nhInsert env group nh).nhMap.length = group.nhMap.length + 1 := by
  simp [nhInsert]

theorem nhInsert_size :
    (nhInsert env group nh).size = max group.size (group.nhMap.length + 1) := by
  simp only [nhInsert]
  split <;> omega

theorem nhInsert_laid (laid : group.Laid) : (nhInsert env group nh).Laid := by
  unfold NhGroup.Laid at laid ⊢
  simp only [nhInsert, List.map_append, List.length_append, laid]
  rw [List.length_cons, List.length_nil, List.range'_concat]
  simp

end Insert

/-- Well-formedness after an insertion of a new id into a group with room. -/
theorem nhInsert_wellFormed
    (env : Env) {group : NhGroup} (wellFormed : group.WellFormed)
    {nh : NhEntry} (new : nh.id ∉ group.ids) :
    (nhInsert env group nh).WellFormed where
  idsOnce := by
    rw [nhInsert_ids]
    exact List.nodup_append.mpr
      ⟨wellFormed.idsOnce, by simp, by
        intro id member other otherMember
        simp only [List.mem_singleton] at otherMember
        subst otherMember
        rintro rfl
        exact new member⟩
  laid := nhInsert_laid env group nh wellFormed.laid
  fits := by
    rw [nhInsert_length, nhInsert_size]
    omega

/-! ## The copy loop -/

theorem nhInsertAll_refCnt (env : Env) (group : NhGroup) (entries : List NhEntry) :
    (nhInsertAll env group entries).refCnt = group.refCnt := by
  induction entries generalizing group with
  | nil => rfl
  | cons entry entries inductionHypothesis =>
      exact inductionHypothesis (nhInsert env group entry)

theorem nhInsertAll_nhId (env : Env) (group : NhGroup) (entries : List NhEntry) :
    (nhInsertAll env group entries).nhId = group.nhId := by
  induction entries generalizing group with
  | nil => rfl
  | cons entry entries inductionHypothesis =>
      exact inductionHypothesis (nhInsert env group entry)

theorem nhInsertAll_ids (env : Env) (group : NhGroup) (entries : List NhEntry) :
    (nhInsertAll env group entries).ids = group.ids ++ entries.map (·.id) := by
  induction entries generalizing group with
  | nil => simp [nhInsertAll]
  | cons entry entries inductionHypothesis =>
      have rest := inductionHypothesis (nhInsert env group entry)
      simp only [nhInsertAll, List.foldl_cons] at rest ⊢
      simp [rest]

theorem nhInsertAll_laid
    (env : Env) {group : NhGroup} (laid : group.Laid) (entries : List NhEntry) :
    (nhInsertAll env group entries).Laid := by
  induction entries generalizing group with
  | nil => exact laid
  | cons entry entries inductionHypothesis =>
      exact inductionHypothesis (nhInsert_laid env group entry laid)

theorem nhInsertAll_length
    (env : Env) (group : NhGroup) (entries : List NhEntry) :
    (nhInsertAll env group entries).nhMap.length =
      group.nhMap.length + entries.length := by
  have ids := congrArg List.length (nhInsertAll_ids env group entries)
  simpa using ids

theorem nhInsertAll_size
    (env : Env) {group : NhGroup} (entries : List NhEntry)
    (room : group.nhMap.length + entries.length ≤ group.size) :
    (nhInsertAll env group entries).size = group.size := by
  induction entries generalizing group with
  | nil => rfl
  | cons entry entries inductionHypothesis =>
      simp only [List.length_cons] at room
      have sameSize : (nhInsert env group entry).size = group.size := by
        rw [nhInsert_size]
        omega
      have roomAfter : (nhInsert env group entry).nhMap.length + entries.length ≤
          (nhInsert env group entry).size := by
        rw [nhInsert_length, sameSize]
        omega
      exact (inductionHypothesis roomAfter).trans sameSize

/-! ## Lookup and replacement -/

theorem nhLookup_eq_none
    {xdk : Outcome} {group : NhGroup} {id : String} :
    nhLookup xdk group id = none ↔ id ∉ group.ids := by
  rw [nhLookup, Traversal.find?_visit_eq_none]
  simp [NhGroup.ids]

theorem nhLookup_isSome
    {xdk : Outcome} {group : NhGroup} {id : String} :
    (nhLookup xdk group id).isSome ↔ id ∈ group.ids := by
  rw [← Option.ne_none_iff_isSome, ne_eq, nhLookup_eq_none, not_not]

theorem of_nhLookup
    {xdk : Outcome} {group : NhGroup} {id : String} {nh : NhEntry}
    (found : nhLookup xdk group id = some nh) :
    nh ∈ group.nhMap ∧ nh.id = id := by
  obtain ⟨member, test⟩ := xdk.nhOrder.of_find?_visit found
  exact ⟨member, by simpa using test⟩

theorem nhUpdate_keeps
    {hosts : List HostEntry} {nh updated : NhEntry} {request : RouteNexthop}
    (success : nhUpdate hosts nh request = .ok updated) :
    updated.id = nh.id ∧ updated.xpNhId = nh.xpNhId := by
  unfold nhUpdate at success
  cases state : request.state with
  | resolved =>
      simp only [state] at success
      cases host : hostById hosts request.l3EgressId with
      | none => simp [host] at success
      | some entry =>
          simp only [host, Except.ok.injEq] at success
          subst success
          exact ⟨rfl, rfl⟩
  | unresolved =>
      simp only [state, Except.ok.injEq] at success
      subst success
      exact ⟨rfl, rfl⟩

theorem nhCreate_id
    {env : Env} {hosts : List HostEntry} {request : RouteNexthop} {nh : NhEntry}
    (created : nhCreate env hosts request = some nh) : nh.id = request.id := by
  unfold nhCreate at created
  cases result : nhUpdate hosts (nhZero env) request with
  | error errno => simp [result] at created
  | ok entry =>
      simp only [result, Option.some.injEq] at created
      subst created
      rfl

@[simp] theorem replace_refCnt (group : NhGroup) (nh : NhEntry) :
    (group.replace nh).refCnt = group.refCnt := rfl

@[simp] theorem replace_nhId (group : NhGroup) (nh : NhEntry) :
    (group.replace nh).nhId = group.nhId := rfl

@[simp] theorem replace_size (group : NhGroup) (nh : NhEntry) :
    (group.replace nh).size = group.size := rfl

@[simp] theorem replace_hash (group : NhGroup) (nh : NhEntry) :
    (group.replace nh).hash = group.hash := rfl

@[simp] theorem replace_length (group : NhGroup) (nh : NhEntry) :
    (group.replace nh).nhMap.length = group.nhMap.length := by
  simp [NhGroup.replace, KeyedList.rewrite]

theorem replace_slots (group : NhGroup) (nh : NhEntry) :
    (group.replace nh).nhMap.map (·.xpNhId) = group.nhMap.map (·.xpNhId) := by
  simp only [NhGroup.replace, KeyedList.rewrite, List.map_map]
  apply List.map_congr_left
  intro entry _
  by_cases selected : entry.xpNhId = nh.xpNhId
  · simp [selected]
  · simp [selected]

/-- Slots of a laid group are distinct, so a slot determines the next hop. -/
theorem NhGroup.Laid.slotsOnce {group : NhGroup} (laid : group.Laid) :
    (group.nhMap.map (·.xpNhId)).Nodup := by
  rw [laid]
  exact List.nodup_range'

theorem replace_ids
    {group : NhGroup} (laid : group.Laid) {old nh : NhEntry}
    (member : old ∈ group.nhMap)
    (sameSlot : nh.xpNhId = old.xpNhId)
    (sameId : nh.id = old.id) :
    (group.replace nh).ids = group.ids := by
  simp only [NhGroup.ids, NhGroup.replace, KeyedList.rewrite, List.map_map]
  apply List.map_congr_left
  intro entry entryMember
  by_cases selected : entry.xpNhId = nh.xpNhId
  · have same : entry = old :=
      List.inj_on_of_nodup_map laid.slotsOnce entryMember member
        (selected.trans sameSlot)
    subst same
    simp [selected, sameId]
  · simp [selected]

theorem replace_laid {group : NhGroup} (laid : group.Laid) (nh : NhEntry) :
    (group.replace nh).Laid := by
  unfold NhGroup.Laid at laid ⊢
  rw [replace_slots, replace_length, laid, replace_nhId]

theorem replace_wellFormed
    {group : NhGroup} (wellFormed : group.WellFormed) {old nh : NhEntry}
    (member : old ∈ group.nhMap)
    (sameSlot : nh.xpNhId = old.xpNhId)
    (sameId : nh.id = old.id) :
    (group.replace nh).WellFormed where
  idsOnce := by
    rw [replace_ids wellFormed.laid member sameSlot sameId]
    exact wellFormed.idsOnce
  laid := replace_laid wellFormed.laid nh
  fits := by simpa using wellFormed.fits

/-! ## The update and fill loops -/

theorem nhGroupUpdate_keeps
    (env : Env) (xdk : Outcome) (hosts : List HostEntry) (group : NhGroup)
    (requests : List RouteNexthop) :
    (nhGroupUpdate env xdk hosts group requests).1.refCnt = group.refCnt ∧
      (nhGroupUpdate env xdk hosts group requests).1.nhId = group.nhId := by
  induction requests generalizing group with
  | nil => exact ⟨rfl, rfl⟩
  | cons request requests inductionHypothesis =>
      cases found : nhLookup xdk group request.id with
      | none =>
          cases created : nhCreate env hosts request with
          | none => simp [nhGroupUpdate, found, created]
          | some nh =>
              simpa [nhGroupUpdate, found, created]
                using inductionHypothesis (nhInsert env group nh)
      | some nh =>
          cases result : nhUpdate hosts nh request with
          | error errno => simp [nhGroupUpdate, found, result]
          | ok updated =>
              simpa [nhGroupUpdate, found, result]
                using inductionHypothesis (group.replace updated)

/-- A completed update loop keeps the group well formed and adds exactly the
requested ids that were missing. -/
theorem nhGroupUpdate_spec
    {env : Env} {xdk : Outcome} {hosts : List HostEntry} {group updated : NhGroup}
    {requests : List RouteNexthop}
    (wellFormed : group.WellFormed)
    (requestsOnce : (requests.map (·.id)).Nodup)
    (room : group.nhMap.length +
      requests.countP (fun request => !group.ids.contains request.id) ≤ group.size)
    (completed : nhGroupUpdate env xdk hosts group requests = (updated, none)) :
    updated.WellFormed ∧ updated.size = group.size ∧
      updated.nhMap.length = group.nhMap.length +
        requests.countP (fun request => !group.ids.contains request.id) ∧
      ∀ id, id ∈ updated.ids ↔ id ∈ group.ids ∨ id ∈ requests.map (·.id) := by
  induction requests generalizing group with
  | nil =>
      simp only [nhGroupUpdate, Prod.mk.injEq, and_true] at completed
      subst completed
      simp [wellFormed]
  | cons request requests inductionHypothesis =>
      obtain ⟨requestNew, restOnce⟩ := List.nodup_cons.mp requestsOnce
      unfold nhGroupUpdate at completed
      cases found : nhLookup xdk group request.id with
      | none =>
          have missing : request.id ∉ group.ids := nhLookup_eq_none.mp found
          simp only [found] at completed
          cases created : nhCreate env hosts request with
          | none => simp [created] at completed
          | some nh =>
              simp only [created] at completed
              have nhId : nh.id = request.id := nhCreate_id created
              have counted : requests.countP (fun other =>
                  !(nhInsert env group nh).ids.contains other.id) =
                  requests.countP fun other => !group.ids.contains other.id := by
                apply List.countP_congr
                intro other otherMember
                have different : other.id ≠ request.id := by
                  intro equal
                  exact requestNew (List.mem_map.mpr ⟨other, otherMember, equal⟩)
                simp [nhId, different]
              have missingCounts : (request :: requests).countP
                  (fun other => !group.ids.contains other.id) =
                  requests.countP (fun other => !group.ids.contains other.id) + 1 := by
                rw [List.countP_cons]
                simp [missing]
              rw [missingCounts] at room ⊢
              have sameSize : (nhInsert env group nh).size = group.size := by
                rw [nhInsert_size]
                omega
              obtain ⟨shape, size, length, ids⟩ := inductionHypothesis
                (nhInsert_wellFormed env wellFormed (nhId ▸ missing)) restOnce
                (by
                  rw [nhInsert_length, sameSize, counted]
                  omega)
                completed
              refine ⟨shape, size.trans sameSize, ?_, ?_⟩
              · rw [length, nhInsert_length, counted]
                omega
              · intro id
                rw [ids, nhInsert_ids, List.map_cons, List.mem_cons, nhId]
                simp only [List.mem_append, List.mem_singleton]
                tauto
      | some nh =>
          have present : request.id ∈ group.ids := by
            apply nhLookup_isSome.mp
            rw [found]
            rfl
          obtain ⟨nhMember, nhId⟩ := of_nhLookup found
          simp only [found] at completed
          cases result : nhUpdate hosts nh request with
          | error errno => simp [result] at completed
          | ok replacement =>
              simp only [result] at completed
              obtain ⟨sameId, sameSlot⟩ := nhUpdate_keeps result
              have sameIds : (group.replace replacement).ids = group.ids :=
                replace_ids wellFormed.laid nhMember sameSlot sameId
              have presentCounts : (request :: requests).countP
                  (fun other => !group.ids.contains other.id) =
                  requests.countP fun other => !group.ids.contains other.id := by
                rw [List.countP_cons]
                simp [present]
              rw [presentCounts] at room ⊢
              obtain ⟨shape, size, length, ids⟩ := inductionHypothesis
                (replace_wellFormed wellFormed nhMember sameSlot sameId) restOnce
                (by simpa [sameIds] using room) completed
              refine ⟨shape, size, ?_, ?_⟩
              · simpa [sameIds] using length
              · intro id
                rw [ids, sameIds, List.map_cons, List.mem_cons]
                constructor
                · rintro (member | member)
                  · exact .inl member
                  · exact .inr (.inr member)
                · rintro (member | rfl | member)
                  · exact .inl member
                  · exact .inl present
                  · exact .inr member

/-- When every requested id is already there, the update loop rewrites next
hops in place, whether or not it completes. -/
theorem nhGroupUpdate_inPlace
    {env : Env} {xdk : Outcome} {hosts : List HostEntry} {group : NhGroup}
    {requests : List RouteNexthop}
    (laid : group.Laid)
    (known : ∀ request ∈ requests, request.id ∈ group.ids) :
    let updated := (nhGroupUpdate env xdk hosts group requests).1
    updated.ids = group.ids ∧ updated.Laid ∧ updated.size = group.size ∧
      updated.hash = group.hash := by
  induction requests generalizing group with
  | nil => exact ⟨rfl, laid, rfl, rfl⟩
  | cons request requests inductionHypothesis =>
      have present := known request (List.mem_cons_self ..)
      cases found : nhLookup xdk group request.id with
      | none => exact absurd present (nhLookup_eq_none.mp found)
      | some nh =>
          obtain ⟨nhMember, _⟩ := of_nhLookup found
          cases result : nhUpdate hosts nh request with
          | error errno => simp [nhGroupUpdate, found, result, laid]
          | ok replacement =>
              obtain ⟨sameId, sameSlot⟩ := nhUpdate_keeps result
              have sameIds : (group.replace replacement).ids = group.ids :=
                replace_ids laid nhMember sameSlot sameId
              have rest := inductionHypothesis (replace_laid laid replacement) (by
                intro other otherMember
                rw [sameIds]
                exact known other (List.mem_cons_of_mem _ otherMember))
              simpa [nhGroupUpdate, found, result, sameIds] using rest

theorem nhGroupFill_keeps
    (env : Env) (hosts : List HostEntry) (group : NhGroup) (requests : List RouteNexthop) :
    (nhGroupFill env hosts group requests).1.refCnt = group.refCnt ∧
      (nhGroupFill env hosts group requests).1.nhId = group.nhId := by
  induction requests generalizing group with
  | nil => exact ⟨rfl, rfl⟩
  | cons request requests inductionHypothesis =>
      cases created : nhCreate env hosts request with
      | none => simp [nhGroupFill, created]
      | some nh =>
          simpa [nhGroupFill, created]
            using inductionHypothesis (nhInsert env group nh)

/-- A completed fill loop appends the requested ids in order. -/
theorem nhGroupFill_spec
    {env : Env} {hosts : List HostEntry} {group filled : NhGroup}
    {requests : List RouteNexthop}
    (laid : group.Laid)
    (room : group.nhMap.length + requests.length ≤ group.size)
    (completed : nhGroupFill env hosts group requests = (filled, none)) :
    filled.ids = group.ids ++ requests.map (·.id) ∧ filled.Laid ∧
      filled.size = group.size := by
  induction requests generalizing group with
  | nil =>
      simp only [nhGroupFill, Prod.mk.injEq, and_true] at completed
      subst completed
      simp [laid]
  | cons request requests inductionHypothesis =>
      unfold nhGroupFill at completed
      cases created : nhCreate env hosts request with
      | none => simp [created] at completed
      | some nh =>
          simp only [created] at completed
          simp only [List.length_cons] at room
          have sameSize : (nhInsert env group nh).size = group.size := by
            rw [nhInsert_size]
            omega
          obtain ⟨ids, shape, size⟩ := inductionHypothesis
            (nhInsert_laid env group nh laid)
            (by
              rw [nhInsert_length, sameSize]
              omega)
            completed
          refine ⟨?_, shape, size.trans sameSize⟩
          rw [ids, nhInsert_ids, nhCreate_id created]
          simp

end Routing
end XpliantSwitchd
