import XpliantSwitchd.Routing.Blocks

/-!
# What holds of every group in every run

A group is written in few places: it is published when it has been built, its
reference count moves, and the update in place rewrites its next hops.  A
property of groups that these writes keep holds of every group in every run.
Two such properties are used later: the next hops of a group sit in consecutive
slots, and a group holds no id twice.

Between requests the neighbour half of the plugin may change the host table, so
the runs of this module mix requests with such changes.
-/

namespace XpliantSwitchd
namespace Routing

/-- What can happen to the manager: a request, or new contents of the host
table. -/
inductive Change
  | request (request : Request)
  | hosts (hosts : List HostEntry)

/-- The state after a change. -/
def change (env : Env) (mgr : L3Mgr) : Change → L3Mgr
  | .request request => step env mgr request
  | .hosts hosts => { mgr with hostIdMap := hosts }

/-- A guard on requests, extended to changes of the host table. -/
def onRequests (guard : L3Mgr → Request → Prop) (mgr : L3Mgr) : Change → Prop
  | .request request => guard mgr request
  | .hosts _ => True

/-- The states that requests and changes of the host table can reach from a new
manager, when each request satisfies a guard in the state it meets. -/
def ReachedAmid (env : Env) (guard : L3Mgr → Request → Prop) (mgr : L3Mgr) :
    Prop :=
  Transition.Reach
    (fun initial => ∃ vrfId hosts, initial = l3MgrCreate vrfId hosts)
    (onRequests guard) (change env) mgr

/-- An invariant of the requests that a change of the host table keeps. -/
theorem ReachedAmid.invariant
    {env : Env} {guard : L3Mgr → Request → Prop} {mgr : L3Mgr}
    (property : L3Mgr → Prop)
    (created : ∀ vrfId hosts, property (l3MgrCreate vrfId hosts))
    (requested : ∀ mgr request, property mgr → guard mgr request →
      property (step env mgr request))
    (rehosted : ∀ mgr hosts, property mgr → property { mgr with hostIdMap := hosts })
    (reached : ReachedAmid env guard mgr) : property mgr := by
  refine Transition.Reach.invariant property ?_ ?_ reached
  · rintro initial ⟨vrfId, hosts, rfl⟩
    exact created vrfId hosts
  · intro current event holds guarded
    cases event with
    | request request => exact requested current request holds guarded
    | hosts hosts => exact rehosted current hosts holds

/-- The reference invariant does not look at the host table. -/
theorem RefInv.withHosts {mgr : L3Mgr} {locked : Option String}
    {held : GroupRef → Nat}
    (inv : RefInv mgr locked held) (hosts : List HostEntry) :
    RefInv { mgr with hostIdMap := hosts } locked held :=
  ⟨inv.pointsPublished, inv.publishedLive, inv.publishedOnce, inv.counted,
    inv.fresh, inv.prefixesOnce, inv.routeCounted⟩

theorem ReachedAmid.refInv
    {env : Env} {guard : L3Mgr → Request → Prop} {mgr : L3Mgr}
    (safe : ∀ mgr request, guard mgr request → RefSafe env mgr request)
    (reached : ReachedAmid env guard mgr) :
    RefInv mgr none fun _ => 0 :=
  reached.invariant (fun mgr => RefInv mgr none fun _ => 0) l3MgrCreate_refInv
    (fun mgr request inv guarded => inv.step (safe mgr request guarded))
    fun _ hosts inv => inv.withHosts hosts

/-! ## Properties of all groups -/

/-- A property holds of every group that exists. -/
def GroupsAll (property : NhGroup → Prop) (mgr : L3Mgr) : Prop :=
  ∀ ref group, mgr.groups ref = some group → property group

/-- A property of groups that does not depend on the reference count. -/
structure Uncounted (property : NhGroup → Prop) : Prop where
  freed : property NhGroup.freed
  recount : ∀ group count, property group → property { group with refCnt := count }

namespace GroupsAll

variable {property : NhGroup → Prop} {mgr mgr' : L3Mgr}

theorem of_groups (all : GroupsAll property mgr)
    (same : mgr'.groups = mgr.groups) : GroupsAll property mgr' := by
  intro ref group live
  rw [same] at live
  exact all ref group live

/-- The property holds of what a pointer leads to, also when the group was
freed. -/
theorem deref (all : GroupsAll property mgr) (uncounted : Uncounted property)
    (ref : GroupRef) : property (Routing.deref mgr ref) := by
  unfold Routing.deref
  cases live : mgr.groups ref with
  | none => exact uncounted.freed
  | some group => exact all ref group live

theorem store
    (all : GroupsAll property mgr)
    (ref : GroupRef)
    {content : Option NhGroup}
    (stored : ∀ group, content = some group → property group) :
    GroupsAll property (store mgr ref content) := by
  intro other group live
  simp only [Routing.store] at live
  by_cases same : other = ref
  · subst same
    rw [Function.update_self] at live
    exact stored group live
  · rw [Function.update_of_ne same] at live
    exact all other group live

theorem storeSome
    (all : GroupsAll property mgr)
    (ref : GroupRef)
    {group : NhGroup}
    (holds : property group) :
    GroupsAll property (Routing.store mgr ref (some group)) := by
  refine all.store ref ?_
  rintro _ ⟨⟩
  exact holds

theorem delete
    (all : GroupsAll property mgr) (xdk : Outcome) (group : NhGroup)
    (published : Option GroupRef) :
    GroupsAll property (nhGroupDelete xdk mgr group published) := by
  cases published with
  | none => exact all.of_groups rfl
  | some ref =>
      have emptied : GroupsAll property (Routing.store mgr ref none) :=
        all.store ref (by simp)
      exact emptied.of_groups rfl

theorem recount
    (all : GroupsAll property mgr) (uncounted : Uncounted property)
    (ref : GroupRef) (count : Nat) :
    GroupsAll property (Routing.store mgr ref
      (some { Routing.deref mgr ref with refCnt := count })) :=
  all.storeSome ref (uncounted.recount _ count (all.deref uncounted ref))

theorem unref
    (all : GroupsAll property mgr) (uncounted : Uncounted property)
    (xdk : Outcome) (pointer : Option GroupRef) :
    GroupsAll property (nhGroupUnref xdk mgr pointer) := by
  cases pointer with
  | none => exact all
  | some ref =>
      simp only [nhGroupUnref]
      split
      · exact all.delete xdk _ _
      · exact all.recount uncounted ref _

theorem publish
    (all : GroupsAll property mgr)
    {group : NhGroup}
    (holds : property group) :
    GroupsAll property (publish mgr group) :=
  (all.storeSome mgr.nextRef holds).of_groups rfl

theorem select
    (all : GroupsAll property mgr)
    (uncounted : Uncounted property)
    (xdk : Outcome)
    {group : NhGroup}
    (holds : property group) :
    GroupsAll property (selectGroup xdk mgr group).2 := by
  rcases selectGroup_cases xdk mgr group with
    ⟨ref, _, equation⟩ | ⟨hw, _, _, equation⟩ | ⟨hw, _, _, equation⟩
  · rw [equation]
    exact (all.recount uncounted ref _).of_groups rfl
  · rw [equation]
    have withHw : GroupsAll property { mgr with hw := hw } := all.of_groups rfl
    exact withHw.publish holds
  · rw [equation]
    exact all.of_groups rfl

theorem commit
    {xdk : Outcome}
    (all : GroupsAll property mgr) (uncounted : Uncounted property)
    (ipPrefix : String) (old new : Option GroupRef) (failure : Errno) :
    GroupsAll property (commitGroup xdk mgr ipPrefix old new failure).2 := by
  have written : GroupsAll property (modifyRoute mgr ipPrefix
      (writeHwRoute (new.map (Routing.deref mgr)))) := all.of_groups rfl
  cases update : xdk.updateIpRouteEntry with
  | true =>
      rw [commitGroup_success update]
      have pointed : GroupsAll property (modifyRoute (modifyRoute mgr ipPrefix
          (writeHwRoute (new.map (Routing.deref mgr)))) ipPrefix
          fun route => { route with nhGroup := new }) := written.of_groups rfl
      exact pointed.unref uncounted xdk old
  | false =>
      cases new with
      | none =>
          simp only [commitGroup, update, Bool.false_eq_true, if_false]
          exact all.of_groups rfl
      | some ref =>
          simp only [commitGroup, update, Bool.false_eq_true, if_false]
          exact written.delete xdk _ _

theorem alloc
    {env : Env} {xdk : Outcome} {size : Nat} {empty : NhGroup}
    (all : GroupsAll property mgr)
    (allocated : nhGroupAlloc env xdk mgr size = (some empty, mgr')) :
    GroupsAll property mgr' := by
  rw [(nhGroupAlloc_some allocated).2.2.2]
  exact all.of_groups rfl

theorem routeLookup (all : GroupsAll property mgr) (ipPrefix : String) :
    GroupsAll property (routeLookup mgr ipPrefix).2 := by
  unfold Routing.routeLookup
  cases findRoute mgr ipPrefix with
  | none => exact all
  | some route => exact all.of_groups rfl

theorem routeUnref
    (all : GroupsAll property mgr) (uncounted : Uncounted property)
    (xdk : Outcome) (ipPrefix : String) :
    GroupsAll property (routeUnref xdk mgr ipPrefix) := by
  unfold Routing.routeUnref
  cases findRoute mgr ipPrefix with
  | none => exact all
  | some route =>
      by_cases last : route.refCnt = 1
      · simp only [last, if_true]
        have removed : GroupsAll property (removeRoute mgr route.ipPrefix) :=
          all.of_groups rfl
        exact removed.unref uncounted xdk _
      · simp only [last, if_false]
        exact all.of_groups rfl

end GroupsAll

/-- A property of groups that the next hops left by a `DELETE_NH` have. -/
def Leaves (property : NhGroup → Prop) (env : Env) (xdk : Outcome)
    (request : OfprotoRoute) : Prop :=
  ∀ {empty old : NhGroup}, empty.nhMap = [] → property old →
    property (remainingGroup env xdk request empty old)

/-- A property of groups that every group a request builds or rewrites has. -/
structure Buildable (property : NhGroup → Prop) (env : Env) (xdk : Outcome)
    (hosts : List HostEntry) (request : OfprotoRoute) : Prop where
  filled : ∀ {mgr mgr₁ : L3Mgr} {empty group : NhGroup},
    nhGroupAlloc env xdk mgr request.nexthops.length = (some empty, mgr₁) →
    nhGroupFill env hosts empty request.nexthops = (group, none) →
    property group
  merged : ∀ {empty group : NhGroup} {old : Option NhGroup} {rc : Option Errno},
    empty.nhMap = [] →
    (∀ group, old = some group → property group) →
    mergedGroup env xdk hosts empty old request.nexthops = (group, rc) →
    property group
  updated : ∀ {group after : NhGroup} {rc : Option Errno}, property group →
    nhGroupUpdate env xdk hosts group request.nexthops = (after, rc) →
    property after
  remaining : Leaves property env xdk request

section Requests

variable {property : NhGroup → Prop} {env : Env} {xdk : Outcome} {mgr : L3Mgr}
  {request : OfprotoRoute}

/-- The group that `route_update` merges has the property. -/
theorem GroupsAll.merged
    {pointer : Option GroupRef} {size : Nat} {mgr₁ : L3Mgr} {empty group : NhGroup}
    {rc : Option Errno}
    (all : GroupsAll property mgr)
    (uncounted : Uncounted property)
    (buildable : Buildable property env xdk mgr.hostIdMap request)
    (allocated : nhGroupAlloc env xdk mgr size = (some empty, mgr₁))
    (merged : mergedGroup env xdk mgr.hostIdMap empty
      (pointer.map (Routing.deref mgr)) request.nexthops = (group, rc)) :
    property group := by
  refine buildable.merged (nhGroupAlloc_empty allocated).1 ?_ merged
  intro old isOld
  obtain ⟨ref, _, rfl⟩ := Option.map_eq_some_iff.mp isOld
  exact all.deref uncounted ref

/-- The group that `delete_nh_entry` builds has the property. -/
theorem GroupsAll.remaining
    {size : Nat} {mgr₁ : L3Mgr} {empty : NhGroup}
    (all : GroupsAll property mgr)
    (uncounted : Uncounted property)
    (leaves : Leaves property env xdk request)
    (allocated : nhGroupAlloc env xdk mgr size = (some empty, mgr₁))
    (ref : GroupRef) :
    property (remainingGroup env xdk request empty (Routing.deref mgr ref)) :=
  leaves (nhGroupAlloc_empty allocated).1 (all.deref uncounted ref)

theorem GroupsAll.routeUpdate
    (all : GroupsAll property mgr)
    (uncounted : Uncounted property)
    (buildable : Buildable property env xdk mgr.hostIdMap request)
    (route : RouteEntry) :
    GroupsAll property (routeUpdate env xdk mgr request route).2 := by
  generalize result : Routing.routeUpdate env xdk mgr request route = outcome
  have shape := routeUpdate_outcome env xdk mgr request route
  rw [result] at shape
  cases shape with
  | noMemory => exact all
  | unreachable allocated _ => exact (all.alloc allocated).of_groups rfl
  | notProgrammed allocated chosen merged =>
      have selected := (all.alloc allocated).select uncounted xdk
        (all.merged uncounted buildable allocated merged)
      rwa [chosen] at selected
  | regrouped building allocated merged chosen =>
      have selected := (all.alloc allocated).select uncounted xdk
        (all.merged uncounted buildable allocated merged)
      rw [chosen] at selected
      exact selected.commit uncounted _ _ _ _
  | @stopped ref group errno building pointer updated =>
      exact all.storeSome ref
        (buildable.updated (all.deref uncounted ref) updated)
  | @inPlace ref group hw success building pointer updated programmed =>
      exact (all.storeSome ref
        (buildable.updated (all.deref uncounted ref) updated)).of_groups rfl
  | noGroup => exact all

theorem GroupsAll.routeAdd
    (all : GroupsAll property mgr)
    (uncounted : Uncounted property)
    (buildable : Buildable property env xdk mgr.hostIdMap request) :
    GroupsAll property (routeAdd env xdk mgr request).2 := by
  have acquires : ∀ {ref mgr₁}, Acquired env xdk mgr request ref mgr₁ →
      GroupsAll property mgr₁ := by
    intro ref mgr₁ acquired
    cases acquired with
    | reused _ => exact all.recount uncounted _ _
    | @built empty group mgr₁ hw allocated filled _ =>
        have withHw : GroupsAll property { mgr₁ with hw := hw } :=
          (all.alloc allocated).of_groups rfl
        exact withHw.publish (buildable.filled allocated filled)
  generalize result : Routing.routeAdd env xdk mgr request = outcome
  have shape := routeAdd_outcome env xdk mgr request
  rw [result] at shape
  cases shape with
  | noMemory => exact all
  | unreachable allocated _ => exact (all.alloc allocated).of_groups rfl
  | notProgrammed allocated _ _ => exact (all.alloc allocated).of_groups rfl
  | refused acquired => exact (acquires acquired).unref uncounted xdk _
  | added acquired => exact (acquires acquired).of_groups rfl

theorem GroupsAll.deleteNhFrom
    (all : GroupsAll property mgr)
    (uncounted : Uncounted property)
    (leaves : Leaves property env xdk request)
    (ref : GroupRef) :
    GroupsAll property (deleteNhFrom env xdk mgr request ref).2 := by
  generalize result : Routing.deleteNhFrom env xdk mgr request ref = outcome
  have shape := deleteNhFrom_outcome env xdk mgr request ref
  rw [result] at shape
  cases shape with
  | noMemory => exact all
  | notProgrammed allocated chosen _ =>
      have selected := (all.alloc allocated).select uncounted xdk
        (all.remaining uncounted leaves allocated ref)
      rwa [chosen] at selected
  | regrouped _ allocated chosen =>
      have selected := (all.alloc allocated).select uncounted xdk
        (all.remaining uncounted leaves allocated ref)
      rw [chosen] at selected
      exact selected.commit uncounted _ _ _ _
  | emptied _ => exact all.commit uncounted _ _ _ _

end Requests

/-- Every request keeps a property of the groups that it builds. -/
theorem GroupsAll.step
    {property : NhGroup → Prop} {env : Env} {mgr : L3Mgr} {request : Request}
    (all : GroupsAll property mgr)
    (uncounted : Uncounted property)
    (buildable : Buildable property env request.xdk mgr.hostIdMap request.route) :
    GroupsAll property (step env mgr request) := by
  have looked := all.routeLookup request.route.ipPrefix
  unfold Routing.step routeEntryAction
  split
  · exact all
  · unfold dispatch
    cases request.action with
    | add =>
        simp only [addRouteEntry, Routing.routeLookup] at looked ⊢
        cases found : findRoute mgr request.route.ipPrefix with
        | none => exact all.routeAdd uncounted buildable
        | some route =>
            simp only [found] at looked ⊢
            exact (looked.routeUpdate uncounted buildable _).routeUnref uncounted _ _
    | delete =>
        simp only [deleteRouteEntry, Routing.routeLookup] at looked ⊢
        cases found : findRoute mgr request.route.ipPrefix with
        | none => exact all
        | some route =>
            simp only [found] at looked ⊢
            exact (looked.routeUnref uncounted _ _).routeUnref uncounted _ _
    | deleteNh =>
        simp only [deleteNhEntry, Routing.routeLookup] at looked ⊢
        cases found : findRoute mgr request.route.ipPrefix with
        | none => exact all
        | some route =>
            simp only [found] at looked ⊢
            cases route.nhGroup with
            | none => exact looked.routeUnref uncounted _ _
            | some ref =>
                exact (looked.deleteNhFrom uncounted buildable.remaining
                  ref).routeUnref uncounted _ _
    | unknown => exact all

/-- A property of the groups that the requests of a run build holds of every
group in every state reached. -/
theorem ReachedAmid.groupsAll
    {property : NhGroup → Prop} {env : Env} {guard : L3Mgr → Request → Prop}
    {mgr : L3Mgr}
    (uncounted : Uncounted property)
    (buildable : ∀ mgr request, guard mgr request →
      Buildable property env request.xdk mgr.hostIdMap request.route)
    (reached : ReachedAmid env guard mgr) : GroupsAll property mgr := by
  refine reached.invariant (GroupsAll property) ?_ ?_ ?_
  · intro vrfId hosts ref group live
    cases live
  · intro current request all guarded
    exact all.step uncounted (buildable current request guarded)
  · intro current hosts all
    exact all.of_groups rfl

/-! ## The update loop -/

/-- The group after one turn of the update loop, when the turn succeeds. -/
inductive Turned (env : Env) (hosts : List HostEntry) (group : NhGroup)
    (request : RouteNexthop) : NhGroup → Prop
  | inserted {nh : NhEntry} :
      request.id ∉ group.ids → nhCreate env hosts request = some nh →
      Turned env hosts group request (nhInsert env group nh)
  | replaced {nh updated : NhEntry} :
      nh ∈ group.nhMap → nh.id = request.id →
      nhUpdate hosts nh request = .ok updated →
      Turned env hosts group request (group.replace updated)

/-- What every turn keeps holds after the update loop, whether or not the loop
completes. -/
theorem nhGroupUpdate_rule
    {env : Env} {xdk : Outcome} {hosts : List HostEntry}
    {property : NhGroup → Prop} {group after : NhGroup}
    {requests : List RouteNexthop} {rc : Option Errno}
    (holds : property group)
    (result : nhGroupUpdate env xdk hosts group requests = (after, rc))
    (kept : ∀ group, ∀ request ∈ requests, ∀ turned, property group →
      Turned env hosts group request turned → property turned) :
    property after := by
  induction requests generalizing group with
  | nil =>
      cases result
      exact holds
  | cons request requests inductionHypothesis =>
      have keptHere := fun group => kept group request (List.mem_cons_self ..)
      have keptLater := fun group other (member : other ∈ requests) =>
        kept group other (List.mem_cons_of_mem _ member)
      cases found : nhLookup xdk group request.id with
      | none =>
          cases created : nhCreate env hosts request with
          | none =>
              simp only [nhGroupUpdate, found, created] at result
              cases result
              exact holds
          | some nh =>
              simp only [nhGroupUpdate, found, created] at result
              exact inductionHypothesis (keptHere _ _ holds
                (.inserted (nhLookup_eq_none.mp found) created)) result keptLater
      | some nh =>
          obtain ⟨member, sameId⟩ := of_nhLookup found
          cases accepted : nhUpdate hosts nh request with
          | error errno =>
              simp only [nhGroupUpdate, found, accepted] at result
              cases result
              exact holds
          | ok updated =>
              simp only [nhGroupUpdate, found, accepted] at result
              exact inductionHypothesis (keptHere _ _ holds
                (.replaced member sameId accepted)) result keptLater

/-! ## Consecutive slots -/

theorem uncounted_laid : Uncounted NhGroup.Laid where
  freed := rfl
  recount := fun _ _ laid => laid

theorem NhGroup.Laid.of_empty {group : NhGroup} (empty : group.nhMap = []) :
    group.Laid := by
  rw [NhGroup.Laid, empty]
  rfl

theorem Turned.laid
    {env : Env} {hosts : List HostEntry} {group turned : NhGroup}
    {request : RouteNexthop}
    (turn : Turned env hosts group request turned)
    (laid : group.Laid) : turned.Laid := by
  cases turn with
  | inserted _ _ => exact nhInsert_laid env group _ laid
  | replaced _ _ _ => exact replace_laid laid _

theorem buildable_laid (env : Env) (xdk : Outcome) (hosts : List HostEntry)
    (request : OfprotoRoute) : Buildable NhGroup.Laid env xdk hosts request where
  filled := by
    intro mgr mgr₁ empty group allocated filled
    exact (nhGroupFill_gained allocated filled).1
  merged := by
    intro empty group old rc noHops _ merged
    exact nhGroupUpdate_rule (nhInsertAll_laid env (.of_empty noHops) _) merged
      fun _ _ _ _ laid turn => turn.laid laid
  updated := by
    intro group after rc laid updated
    exact nhGroupUpdate_rule laid updated fun _ _ _ _ laid turn => turn.laid laid
  remaining := by
    intro empty old noHops _
    exact nhInsertAll_laid env (.of_empty noHops) _

theorem ReachedAmid.groupsLaid
    {env : Env} {guard : L3Mgr → Request → Prop} {mgr : L3Mgr}
    (reached : ReachedAmid env guard mgr) : GroupsAll NhGroup.Laid mgr :=
  reached.groupsAll uncounted_laid fun _ _ _ => buildable_laid _ _ _ _

/-! ## Distinct ids -/

/-- The next hops of a group are laid out and have distinct ids. -/
structure NhGroup.Arranged (group : NhGroup) : Prop where
  laid : group.Laid
  idsOnce : group.ids.Nodup

theorem uncounted_arranged : Uncounted NhGroup.Arranged where
  freed := ⟨rfl, List.nodup_nil⟩
  recount := fun _ _ arranged => ⟨arranged.laid, arranged.idsOnce⟩

/-- A turn of the update loop inserts a next hop only when its id is new. -/
theorem Turned.arranged
    {env : Env} {hosts : List HostEntry} {group turned : NhGroup}
    {request : RouteNexthop}
    (turn : Turned env hosts group request turned)
    (arranged : group.Arranged) : turned.Arranged := by
  cases turn with
  | @inserted nh absent created =>
      refine ⟨nhInsert_laid env group nh arranged.laid, ?_⟩
      rw [nhInsert_ids, nhCreate_id created, ← List.concat_eq_append]
      exact arranged.idsOnce.concat absent
  | @replaced nh updated member sameId result =>
      obtain ⟨keptId, keptSlot⟩ := nhUpdate_keeps result
      refine ⟨replace_laid arranged.laid updated, ?_⟩
      rw [replace_ids arranged.laid member keptSlot keptId]
      exact arranged.idsOnce

/-- Some next hops of a group, copied into an empty one. -/
theorem nhInsertAll_arranged
    (env : Env) {empty : NhGroup} (noHops : empty.nhMap = [])
    {entries : List NhEntry} (once : (entries.map (·.id)).Nodup) :
    (nhInsertAll env empty entries).Arranged where
  laid := nhInsertAll_laid env (.of_empty noHops) entries
  idsOnce := by
    have noIds : empty.ids = [] := by simp [NhGroup.ids, noHops]
    rw [nhInsertAll_ids, noIds, List.nil_append]
    exact once

theorem NhGroup.Arranged.visited {group : NhGroup} (arranged : group.Arranged)
    (xdk : Outcome) : ((xdk.nhOrder.visit group.nhMap).map (·.id)).Nodup :=
  ((xdk.nhOrder.perm group.nhMap).map _).nodup_iff.mpr arranged.idsOnce

/-- The copy that `route_update` makes of the group of a route. -/
theorem copied_arranged
    (env : Env) (xdk : Outcome) {empty : NhGroup} {old : Option NhGroup}
    (noHops : empty.nhMap = [])
    (oldArranged : ∀ group, old = some group → group.Arranged) :
    (nhInsertAll env empty
      ((old.map fun group => xdk.nhOrder.visit group.nhMap).getD [])).Arranged := by
  refine nhInsertAll_arranged env noHops ?_
  cases old with
  | none => exact List.nodup_nil
  | some group => exact (oldArranged group rfl).visited xdk

/-- A request that lists no id twice builds groups that hold no id twice. -/
theorem buildable_arranged
    (env : Env) (xdk : Outcome) (hosts : List HostEntry) {request : OfprotoRoute}
    (once : (request.nexthops.map (·.id)).Nodup) :
    Buildable NhGroup.Arranged env xdk hosts request where
  filled := by
    intro mgr mgr₁ empty group allocated filled
    obtain ⟨laid, ids, _⟩ := nhGroupFill_gained allocated filled
    exact ⟨laid, ids ▸ once⟩
  merged := by
    intro empty group old rc noHops oldArranged merged
    exact nhGroupUpdate_rule (copied_arranged env xdk noHops oldArranged) merged
      fun _ _ _ _ arranged turn => turn.arranged arranged
  updated := by
    intro group after rc arranged updated
    exact nhGroupUpdate_rule arranged updated
      fun _ _ _ _ arranged turn => turn.arranged arranged
  remaining := by
    intro empty old noHops arranged
    refine nhInsertAll_arranged env noHops ?_
    exact (arranged.visited xdk).sublist (List.Sublist.map _ List.filter_sublist)

end Routing
end XpliantSwitchd
