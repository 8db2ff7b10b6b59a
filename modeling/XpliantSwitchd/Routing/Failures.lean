import XpliantSwitchd.Routing.Shape

/-!
# Requests that fail

A request that returns an error should leave no trace in software.  Most of its
exits undo what was done before them: a group that is not needed is freed, a
reference that was taken is given back.  Two exits do not.  When the hardware
refuses to update a route, the route entry has been overwritten already and the
selected group is deleted.  When an update in place stops, the next hops before
the one it stopped at have been rewritten.
-/

namespace XpliantSwitchd
namespace Routing

/-- What a failed request should leave as it was: the routes with their groups,
hardware fields and reference counts, and the groups with their reference counts
and next hops. -/
structure Untouched (before after : L3Mgr) : Prop where
  routeMap : after.routeMap = before.routeMap
  groups : after.groups = before.groups
  nhGroupMap : after.nhGroupMap = before.nhGroupMap

namespace Untouched

variable {first second third : L3Mgr}

theorem refl (mgr : L3Mgr) : Untouched mgr mgr := ⟨rfl, rfl, rfl⟩

theorem trans (left : Untouched first second) (right : Untouched second third) :
    Untouched first third where
  routeMap := right.routeMap.trans left.routeMap
  groups := right.groups.trans left.groups
  nhGroupMap := right.nhGroupMap.trans left.nhGroupMap

theorem ofHw (mgr : L3Mgr) (hw : NextHopTable) :
    Untouched mgr { mgr with hw := hw } := ⟨rfl, rfl, rfl⟩

end Untouched

/-! ## Exits that undo -/

theorem untouched_alloc
    {env : Env} {xdk : Outcome} {mgr mgr' : L3Mgr} {size : Nat} {empty : NhGroup}
    (allocated : nhGroupAlloc env xdk mgr size = (some empty, mgr')) :
    Untouched mgr mgr' := by
  rw [(nhGroupAlloc_some allocated).2.2.2]
  exact .ofHw mgr _

/-- A group that could not be programmed is deleted before it is published. -/
theorem untouched_select
    {xdk : Outcome} {mgr mgr' : L3Mgr} {group : NhGroup}
    (selected : selectGroup xdk mgr group = (none, mgr')) :
    Untouched mgr mgr' := by
  rcases selectGroup_cases xdk mgr group with
    ⟨ref, _, equation⟩ | ⟨hw, _, _, equation⟩ | ⟨hw, _, _, equation⟩
  · rw [equation] at selected
    cases selected
  · rw [equation] at selected
    cases selected
  · rw [equation] at selected
    cases selected
    exact ⟨rfl, rfl, rfl⟩

/-- Writing a group back as it was changes nothing. -/
theorem untouched_store
    {mgr : L3Mgr} {locked : Option String} {held : GroupRef → Nat}
    {ref : GroupRef}
    (inv : RefInv mgr locked held)
    (published : ref ∈ mgr.nhGroupMap) :
    Untouched mgr (store mgr ref (some (deref mgr ref))) where
  routeMap := rfl
  groups := by
    rw [store, ← inv.live_of_published published, Function.update_eq_self]
  nhGroupMap := rfl

/-- A reference that is taken and given back leaves the count as it was. -/
theorem untouched_ref_unref
    {mgr : L3Mgr} {locked : Option String} {held : GroupRef → Nat}
    {ref : GroupRef}
    (inv : RefInv mgr locked held)
    (published : ref ∈ mgr.nhGroupMap)
    (xdk : Outcome) :
    Untouched mgr (nhGroupUnref xdk (nhGroupRef mgr ref) (some ref)) := by
  have live := inv.live_of_published published
  have positive := (inv.counted ref _ live).2
  have taken : deref (nhGroupRef mgr ref) ref =
      { deref mgr ref with refCnt := (deref mgr ref).refCnt + 1 } := by
    simp [nhGroupRef, store, deref]
  have shared : (deref mgr ref).refCnt + 1 ≠ 1 := by
    omega
  simp only [nhGroupUnref, taken, shared, if_false, Nat.add_sub_cancel]
  refine Untouched.trans (untouched_store inv published) ⟨rfl, ?_, rfl⟩
  simp only [store, nhGroupRef, Function.update_idem]

/-- A group that is published and released at once is gone again. -/
theorem untouched_publish_unref
    {mgr : L3Mgr} {locked : Option String} {held : GroupRef → Nat}
    {group : NhGroup}
    (inv : RefInv mgr locked held)
    (once : group.refCnt = 1)
    (xdk : Outcome) :
    Untouched mgr (nhGroupUnref xdk (publish mgr group) (some mgr.nextRef)) := by
  have published : deref (publish mgr group) mgr.nextRef = group := by
    simp [publish, deref]
  simp only [nhGroupUnref, published, once, if_true]
  obtain ⟨hw, equation⟩ := nhGroupDelete_published xdk (publish mgr group)
    { group with refCnt := 0 } mgr.nextRef
  rw [equation]
  refine ⟨rfl, ?_, ?_⟩
  · simp only [publish, Function.update_idem]
    rw [← inv.fresh mgr.nextRef (Nat.le_refl _), Function.update_eq_self]
  · simp [publish]

/-- The reference that `route_lookup` takes to a route is given back. -/
theorem untouched_lookup_unref
    {mgr after : L3Mgr} {ipPrefix : String} {route : RouteEntry}
    (inv : RefInv mgr none fun _ => 0)
    (found : findRoute mgr ipPrefix = some route)
    (untouched : Untouched (routeLookup mgr ipPrefix).2 after)
    (xdk : Outcome) :
    Untouched mgr (routeUnref xdk after ipPrefix) := by
  simp only [routeLookup, found] at untouched
  have counted : ∀ other ∈ mgr.routeMap, other.refCnt = 1 := by
    intro other member
    simpa using inv.routeCounted other member
  have routes : after.routeMap = KeyedList.rewrite (·.ipPrefix) ipPrefix
      (fun route => { route with refCnt := route.refCnt + 1 }) mgr.routeMap :=
    untouched.routeMap
  have taken : findRoute after ipPrefix =
      some { route with refCnt := route.refCnt + 1 } := by
    have samePrefix := findRoute_ipPrefix found
    have sameRoutes : findRoute after ipPrefix = findRoute (modifyRoute mgr ipPrefix
        fun route => { route with refCnt := route.refCnt + 1 }) ipPrefix := by
      rw [findRoute, routes]
      rfl
    rw [sameRoutes, findRoute_modifyRoute mgr ipPrefix ipPrefix (by intro _; rfl),
      found, Option.map_some, if_pos samePrefix]
  have lockedRoute : route.refCnt + 1 ≠ 1 := by
    have positive := counted route (List.mem_of_find?_eq_some found)
    omega
  simp only [routeUnref, taken, lockedRoute, if_false]
  refine ⟨?_, untouched.groups, untouched.nhGroupMap⟩
  rw [modifyRoute, routes, KeyedList.rewrite, KeyedList.rewrite, List.map_map]
  conv_rhs => rw [← List.map_id mgr.routeMap]
  apply List.map_congr_left
  intro other _
  by_cases selected : other.ipPrefix = ipPrefix
  · subst selected
    simp
  · simp [selected]

/-! ## Requests whose failure is undone -/

/-- A requested next hop that `nh_update` accepts: it is unresolved, or the host
table knows its host. -/
def hostKnown (hosts : List HostEntry) (nh : RouteNexthop) : Bool :=
  nh.state == .unresolved || (hostById hosts nh.l3EgressId).isSome

/-- A candidate group that `route_update` or `delete_nh_entry` gets hold of: an
equal group is published, or the hardware accepts every next hop. -/
def Obtained (xdk : Outcome) (mgr : L3Mgr) (group : NhGroup) : Prop :=
  (nhGroupLookupByGroup xdk mgr group).isSome ∨
    ∀ entry ∈ group.nhMap, xdk.setRouteNextHop entry.xpNhId = true

/-- A `DELETE_NH` request that leaves its route without next hops. -/
def Empties (mgr : L3Mgr) (request : Request) : Prop :=
  request.action = .deleteNh ∧
    ∃ route ref, findRoute mgr request.route.ipPrefix = some route ∧
      route.nhGroup = some ref ∧
      (deref mgr ref).size ≤ listedCount request.xdk request.route (deref mgr ref)

/-- A request that gets as far as updating its route on the hardware. -/
def UpdatesRoute (env : Env) (mgr : L3Mgr) (request : Request) : Prop :=
  (∃ group, candidateGroup env mgr request = some group ∧
    Obtained request.xdk mgr group) ∨ Empties mgr request

/-- An `ADD` request that only rewrites next hops of the group its route has. -/
def RewritesInPlace (mgr : L3Mgr) (request : Request) (group : NhGroup) : Prop :=
  request.action = .add ∧
    ∃ route ref, findRoute mgr request.route.ipPrefix = some route ∧
      route.nhGroup = some ref ∧ deref mgr ref = group ∧
      needsNewGroup request.xdk (some group) request.route.nexthops = false

/-- Some next hop of the request has an unknown host, or the hardware refuses
some next hop of the group. -/
def StopsIn (mgr : L3Mgr) (request : Request) (group : NhGroup) : Prop :=
  (∃ nh ∈ request.route.nexthops, hostKnown mgr.hostIdMap nh = false) ∨
    ∃ entry ∈ group.nhMap, request.xdk.setRouteNextHop entry.xpNhId = false

/-- The next hops listed before the first one with an unknown host already hold
what they would be updated to. -/
def Rewritten (hosts : List HostEntry) (nexthops : List RouteNexthop)
    (group : NhGroup) : Prop :=
  ∀ nh ∈ nexthops.takeWhile (hostKnown hosts), ∀ entry ∈ group.nhMap,
    entry.id = nh.id → nhUpdate hosts entry nh = .ok entry

instance (hosts : List HostEntry) (nexthops : List RouteNexthop)
    (group : NhGroup) : Decidable (Rewritten hosts nexthops group) :=
  inferInstanceAs (Decidable (∀ nh ∈ nexthops.takeWhile (hostKnown hosts),
    ∀ entry ∈ group.nhMap, entry.id = nh.id → nhUpdate hosts entry nh = .ok entry))

/-- The requests whose failure is undone: the hardware accepts the update of the
route if the request gets that far, and an update in place that stops has nothing
new to write before the place where it stops. -/
structure Undone (env : Env) (mgr : L3Mgr) (request : Request) : Prop where
  accepted : UpdatesRoute env mgr request → request.xdk.updateIpRouteEntry = true
  inPlace : ∀ group, RewritesInPlace mgr request group →
    StopsIn mgr request group →
    Rewritten mgr.hostIdMap request.route.nexthops group

theorem Undone.refSafe {env : Env} {mgr : L3Mgr} {request : Request}
    (undone : Undone env mgr request) : RefSafe env mgr request := by
  rintro refused ⟨group, candidate, reused⟩
  have accepted := undone.accepted (.inl ⟨group, candidate, .inl reused⟩)
  rw [refused] at accepted
  cases accepted

theorem nhUpdate_error_of_unknown
    {hosts : List HostEntry} {nh : NhEntry} {request : RouteNexthop}
    (unknown : hostKnown hosts request = false) :
    nhUpdate hosts nh request = .error .EHOSTUNREACH := by
  simp only [hostKnown, Bool.or_eq_false_iff, beq_eq_false_iff_ne,
    Option.isSome_eq_false_iff, Option.isNone_iff_eq_none] at unknown
  obtain ⟨notUnresolved, noHost⟩ := unknown
  cases state : request.state with
  | unresolved => exact absurd state notUnresolved
  | resolved => simp only [nhUpdate, state, noHost]

theorem hostKnown_of_nhUpdate
    {hosts : List HostEntry} {nh updated : NhEntry} {request : RouteNexthop}
    (success : nhUpdate hosts nh request = .ok updated) :
    hostKnown hosts request = true := by
  cases known : hostKnown hosts request with
  | true => rfl
  | false =>
      rw [nhUpdate_error_of_unknown known] at success
      cases success

/-- Replacing a next hop of a laid group by itself. -/
theorem replace_self {group : NhGroup} (laid : group.Laid) {nh : NhEntry}
    (member : nh ∈ group.nhMap) : group.replace nh = group := by
  have same : KeyedList.rewrite (·.xpNhId) nh.xpNhId (fun _ => nh) group.nhMap =
      group.nhMap := by
    unfold KeyedList.rewrite
    conv_rhs => rw [← List.map_id group.nhMap]
    apply List.map_congr_left
    intro entry entryMember
    by_cases selected : entry.xpNhId = nh.xpNhId
    · rw [if_pos selected]
      exact (List.inj_on_of_nodup_map laid.slotsOnce entryMember member selected).symm
    · rw [if_neg selected]
      rfl
  rw [NhGroup.replace, same]

/-- An update in place that has nothing new to write leaves the group as it
is. -/
theorem nhGroupUpdate_rewritten
    {env : Env} {xdk : Outcome} {hosts : List HostEntry} {group : NhGroup}
    {requests : List RouteNexthop}
    (laid : group.Laid)
    (known : ∀ request ∈ requests, request.id ∈ group.ids)
    (rewritten : Rewritten hosts requests group) :
    (nhGroupUpdate env xdk hosts group requests).1 = group := by
  induction requests with
  | nil => rfl
  | cons request requests inductionHypothesis =>
      cases found : nhLookup xdk group request.id with
      | none =>
          exact absurd (known request (List.mem_cons_self ..))
            (nhLookup_eq_none.mp found)
      | some nh =>
          obtain ⟨member, sameId⟩ := of_nhLookup found
          cases result : nhUpdate hosts nh request with
          | error errno => simp only [nhGroupUpdate, found, result]
          | ok updated =>
              have hostThere := hostKnown_of_nhUpdate result
              have unchanged : nhUpdate hosts nh request = .ok nh := by
                refine rewritten request ?_ nh member sameId
                rw [List.takeWhile_cons_of_pos hostThere]
                exact List.mem_cons_self ..
              rw [result, Except.ok.injEq] at unchanged
              subst unchanged
              simp only [nhGroupUpdate, found, result, replace_self laid member]
              refine inductionHypothesis ?_ ?_
              · intro other otherMember
                exact known other (List.mem_cons_of_mem _ otherMember)
              · intro other otherMember
                refine rewritten other ?_
                rw [List.takeWhile_cons_of_pos hostThere]
                exact List.mem_cons_of_mem _ otherMember

/-- An update loop over known next hops stops only at an unknown host. -/
theorem nhGroupUpdate_stopped
    {env : Env} {xdk : Outcome} {hosts : List HostEntry} {group updated : NhGroup}
    {requests : List RouteNexthop} {errno : Errno}
    (stopped : nhGroupUpdate env xdk hosts group requests =
      (updated, some errno)) :
    ∃ nh ∈ requests, hostKnown hosts nh = false := by
  by_contra! allKnown
  induction requests generalizing group with
  | nil => cases stopped
  | cons request requests inductionHypothesis =>
      have hostThere : hostKnown hosts request = true := by
        simpa using allKnown request (List.mem_cons_self ..)
      have accepts : ∀ nh, ∃ accepted, nhUpdate hosts nh request = .ok accepted := by
        intro nh
        unfold nhUpdate
        cases state : request.state with
        | unresolved => exact ⟨_, rfl⟩
        | resolved =>
            cases host : hostById hosts request.l3EgressId with
            | none => simp [hostKnown, state, host] at hostThere
            | some entry => exact ⟨_, rfl⟩
      have rest : ∀ nh ∈ requests, hostKnown hosts nh ≠ false := by
        intro nh member
        exact allKnown nh (List.mem_cons_of_mem _ member)
      cases found : nhLookup xdk group request.id with
      | none =>
          obtain ⟨accepted, success⟩ := accepts (nhZero env)
          simp only [nhGroupUpdate, found, nhCreate, success] at stopped
          exact inductionHypothesis stopped rest
      | some nh =>
          obtain ⟨accepted, success⟩ := accepts nh
          simp only [nhGroupUpdate, found, success] at stopped
          exact inductionHypothesis stopped rest

/-- Programming succeeds when the hardware accepts every next hop. -/
theorem setNextHops_accepted
    (xdk : Outcome) (hw : NextHopTable) (entries : List NhEntry) :
    (setNextHops xdk hw entries).2 = true ↔
      ∀ entry ∈ entries, xdk.setRouteNextHop entry.xpNhId = true := by
  induction entries generalizing hw with
  | nil => simp [setNextHops]
  | cons entry entries inductionHypothesis =>
      cases accepts : xdk.setRouteNextHop entry.xpNhId with
      | true => simp [setNextHops, accepts, inductionHypothesis]
      | false => simp [setNextHops, accepts]

/-- A selected group was found or accepted. -/
theorem obtained_of_select
    {xdk : Outcome} {mgr mgr' : L3Mgr} {group : NhGroup} {ref : GroupRef}
    (selected : selectGroup xdk mgr group = (some ref, mgr')) :
    Obtained xdk mgr group := by
  rcases selectGroup_cases xdk mgr group with
    ⟨found, lookup, _⟩ | ⟨hw, _, programmed, _⟩ | ⟨hw, _, _, equation⟩
  · left
    rw [lookup]
    rfl
  · right
    intro entry member
    have accepted := (setNextHops_accepted xdk mgr.hw
      (xdk.nhOrder.visit group.nhMap)).mp (by rw [programmed])
    exact accepted entry (xdk.nhOrder.mem_visit.mpr member)
  · rw [equation] at selected
    cases selected

/-- The group of an allocation is selected in the state before it. -/
theorem obtained_of_alloc
    {env : Env} {xdk : Outcome} {mgr mgr₁ mgr₂ : L3Mgr} {size : Nat}
    {empty group : NhGroup} {ref : GroupRef}
    (allocated : nhGroupAlloc env xdk mgr size = (some empty, mgr₁))
    (selected : selectGroup xdk mgr₁ group = (some ref, mgr₂)) :
    Obtained xdk mgr group := by
  have obtained := obtained_of_select selected
  rw [(nhGroupAlloc_some allocated).2.2.2] at obtained
  exact obtained

theorem commitGroup_rc
    {xdk : Outcome} (success : xdk.updateIpRouteEntry = true)
    (mgr : L3Mgr) (ipPrefix : String) (old new : Option GroupRef)
    (failure : Errno) :
    (commitGroup xdk mgr ipPrefix old new failure).1 = none := by
  rw [commitGroup_success success]

/-- A refused next hop of the updated group was a next hop of the group. -/
theorem refused_of_inPlace
    {env : Env} {xdk : Outcome} {hosts : List HostEntry}
    {group updated : NhGroup} {requests : List RouteNexthop}
    {hw hw' : NextHopTable} {rc : Option Errno}
    (laid : group.Laid)
    (known : ∀ request ∈ requests, request.id ∈ group.ids)
    (result : nhGroupUpdate env xdk hosts group requests = (updated, rc))
    (refused : setNextHops xdk hw (xdk.nhOrder.visit updated.nhMap) =
      (hw', false)) :
    ∃ entry ∈ group.nhMap, xdk.setRouteNextHop entry.xpNhId = false := by
  have sameSlots := (NhGroup.content_eq.mp
    (nhGroupUpdate_content laid known result)).2.1
  have notAll : ¬∀ entry ∈ xdk.nhOrder.visit updated.nhMap,
      xdk.setRouteNextHop entry.xpNhId = true := by
    intro all
    have success := (setNextHops_accepted xdk hw _).mpr all
    rw [refused] at success
    cases success
  push Not at notAll
  obtain ⟨entry, member, refuses⟩ := notAll
  have slot : entry.xpNhId ∈ updated.nhMap.map (·.xpNhId) :=
    List.mem_map_of_mem (xdk.nhOrder.mem_visit.mp member)
  rw [sameSlots] at slot
  obtain ⟨old, oldMember, same⟩ := List.mem_map.mp slot
  refine ⟨old, oldMember, ?_⟩
  rw [same]
  simpa using refuses

/-- A failed `route_update`. -/
theorem untouched_routeUpdate
    {env : Env} {xdk : Outcome} {mgr : L3Mgr} {locked : Option String}
    {held : GroupRef → Nat} {request : OfprotoRoute} {route : RouteEntry}
    (inv : RefInv mgr locked held)
    (laid : GroupsAll NhGroup.Laid mgr)
    (published : ∀ ref, route.nhGroup = some ref → ref ∈ mgr.nhGroupMap)
    (accepted : ∀ group,
      updateCandidate env xdk mgr request route.nhGroup = some group →
      Obtained xdk mgr group → xdk.updateIpRouteEntry = true)
    (inPlace : ∀ ref, route.nhGroup = some ref →
      needsNewGroup xdk (some (deref mgr ref)) request.nexthops = false →
      ((∃ nh ∈ request.nexthops, hostKnown mgr.hostIdMap nh = false) ∨
        ∃ entry ∈ (deref mgr ref).nhMap,
          xdk.setRouteNextHop entry.xpNhId = false) →
      Rewritten mgr.hostIdMap request.nexthops (deref mgr ref))
    (failed : (routeUpdate env xdk mgr request route).1 ≠ none) :
    Untouched mgr (routeUpdate env xdk mgr request route).2 := by
  generalize result : routeUpdate env xdk mgr request route = outcome at failed ⊢
  have shape := routeUpdate_outcome env xdk mgr request route
  rw [result] at shape
  cases shape with
  | noMemory => exact .refl mgr
  | unreachable allocated _ =>
      exact (untouched_alloc allocated).trans ⟨rfl, rfl, rfl⟩
  | notProgrammed allocated chosen _ =>
      exact (untouched_alloc allocated).trans (untouched_select chosen)
  | @regrouped empty group mgr₁ mgr₂ ref building allocated merged chosen =>
      have candidate :
          updateCandidate env xdk mgr request route.nhGroup = some group := by
        simp only [updateCandidate, building, if_true, allocated,
          Option.bind_some, merged]
      have success := accepted group candidate (obtained_of_alloc allocated chosen)
      exact absurd (commitGroup_rc success _ _ _ _ _) failed
  | @stopped ref group errno building pointer updated =>
      rw [pointer, Option.map_some] at building
      have rewritten := inPlace ref pointer building
        (.inl (nhGroupUpdate_stopped updated))
      have same := @nhGroupUpdate_rewritten env xdk _ _ _ (laid.deref uncounted_laid ref)
        (known_of_needsNewGroup building) rewritten
      rw [updated] at same
      subst same
      exact untouched_store inv (published ref pointer)
  | @inPlace ref group hw success building pointer updated programmed =>
      rw [pointer, Option.map_some] at building
      cases success with
      | true => exact absurd rfl failed
      | false =>
          have refused := refused_of_inPlace (laid.deref uncounted_laid ref)
            (known_of_needsNewGroup building) updated programmed
          have rewritten := inPlace ref pointer building (.inr refused)
          have same := @nhGroupUpdate_rewritten env xdk _ _ _ (laid.deref uncounted_laid ref)
            (known_of_needsNewGroup building) rewritten
          rw [updated] at same
          subst same
          exact (untouched_store inv (published ref pointer)).trans ⟨rfl, rfl, rfl⟩
  | noGroup => exact absurd rfl failed

/-- A failed `route_add`. -/
theorem untouched_routeAdd
    {env : Env} {xdk : Outcome} {mgr : L3Mgr} {request : OfprotoRoute}
    (inv : RefInv mgr none fun _ => 0)
    (failed : (routeAdd env xdk mgr request).1 ≠ none) :
    Untouched mgr (routeAdd env xdk mgr request).2 := by
  generalize result : routeAdd env xdk mgr request = outcome at failed ⊢
  have shape := routeAdd_outcome env xdk mgr request
  rw [result] at shape
  cases shape with
  | noMemory => exact .refl mgr
  | unreachable allocated _ =>
      exact (untouched_alloc allocated).trans ⟨rfl, rfl, rfl⟩
  | notProgrammed allocated _ _ =>
      exact (untouched_alloc allocated).trans ⟨rfl, rfl, rfl⟩
  | refused acquired =>
      cases acquired with
      | reused found =>
          exact untouched_ref_unref inv (xdk.groupOrder.of_find?_visit found).1 xdk
      | @built empty group mgr₁ hw allocated filled _ =>
          have once : group.refCnt = 1 := by
            have keeps := (nhGroupFill_keeps env mgr.hostIdMap empty
              request.nexthops).1
            rw [filled, (nhGroupAlloc_some allocated).2.2.1] at keeps
            exact keeps
          have allocatedInv := (inv.alloc allocated).withHw hw
          exact (untouched_alloc allocated).trans
            ((Untouched.ofHw mgr₁ hw).trans
              (untouched_publish_unref allocatedInv once xdk))
  | added _ => exact absurd rfl failed

/-- A failed `delete_nh_entry`. -/
theorem untouched_deleteNhFrom
    {env : Env} {xdk : Outcome} {mgr : L3Mgr} {request : OfprotoRoute}
    {ref : GroupRef}
    (emptied : (deref mgr ref).size ≤ listedCount xdk request (deref mgr ref) →
      xdk.updateIpRouteEntry = true)
    (accepted : ∀ group, deleteCandidate env xdk mgr request ref = some group →
      Obtained xdk mgr group → xdk.updateIpRouteEntry = true)
    (failed : (deleteNhFrom env xdk mgr request ref).1 ≠ none) :
    Untouched mgr (deleteNhFrom env xdk mgr request ref).2 := by
  generalize result : deleteNhFrom env xdk mgr request ref = outcome at failed ⊢
  have shape := deleteNhFrom_outcome env xdk mgr request ref
  rw [result] at shape
  cases shape with
  | noMemory => exact .refl mgr
  | notProgrammed allocated chosen _ =>
      exact (untouched_alloc allocated).trans (untouched_select chosen)
  | @regrouped empty mgr₁ mgr₂ new left allocated chosen =>
      have candidate : deleteCandidate env xdk mgr request ref =
          some (remainingGroup env xdk request empty (deref mgr ref)) := by
        unfold listedCount at left allocated
        simp only [deleteCandidate, left, if_true, allocated, Option.map_some]
        rfl
      have success := accepted _ candidate (obtained_of_alloc allocated chosen)
      exact absurd (commitGroup_rc success _ _ _ _ _) failed
  | emptied none_left =>
      exact absurd (commitGroup_rc (emptied none_left) _ _ _ _ _) failed

/-! ## Whole requests -/

section Requests

variable {env : Env} {mgr : L3Mgr} {request : Request}

theorem untouched_addRouteEntry
    (inv : RefInv mgr none fun _ => 0)
    (laid : GroupsAll NhGroup.Laid mgr)
    (undone : Undone env mgr request)
    (isAdd : request.action = .add)
    (failed : (addRouteEntry env request.xdk mgr request.route).1 ≠ none) :
    Untouched mgr (addRouteEntry env request.xdk mgr request.route).2 := by
  have looked := inv.lookup request.route.ipPrefix
  cases found : findRoute mgr request.route.ipPrefix with
  | none =>
      simp only [addRouteEntry, routeLookup, found] at failed ⊢
      exact untouched_routeAdd inv failed
  | some route =>
      simp only [found, Option.isSome_some, if_true] at looked
      simp only [routeLookup, found] at looked
      simp only [addRouteEntry, routeLookup, found] at failed ⊢
      refine untouched_lookup_unref inv found ?_ _
      simp only [routeLookup, found]
      refine untouched_routeUpdate looked (laid.of_groups rfl) ?_ ?_ ?_ failed
      · intro ref pointer
        exact inv.pointsPublished route (List.mem_of_find?_eq_some found) ref pointer
      · intro group candidate obtained
        rw [updateCandidate_modifyRoute] at candidate
        refine undone.accepted (.inl ⟨group, ?_, obtained⟩)
        simp only [candidateGroup, found, isAdd, Option.bind_some]
        exact candidate
      · intro ref pointer sufficient stops
        exact undone.inPlace _ ⟨isAdd, route, ref, found, pointer, rfl, sufficient⟩
          stops

theorem untouched_deleteRouteEntry
    (failed : (deleteRouteEntry request.xdk mgr request.route).1 ≠ none) :
    Untouched mgr (deleteRouteEntry request.xdk mgr request.route).2 := by
  cases found : findRoute mgr request.route.ipPrefix with
  | none =>
      simp only [deleteRouteEntry, routeLookup, found]
      exact .refl mgr
  | some route => simp [deleteRouteEntry, routeLookup, found] at failed

theorem untouched_deleteNhEntry
    (inv : RefInv mgr none fun _ => 0)
    (undone : Undone env mgr request)
    (isDeleteNh : request.action = .deleteNh)
    (failed : (deleteNhEntry env request.xdk mgr request.route).1 ≠ none) :
    Untouched mgr (deleteNhEntry env request.xdk mgr request.route).2 := by
  cases found : findRoute mgr request.route.ipPrefix with
  | none =>
      simp only [deleteNhEntry, routeLookup, found]
      exact .refl mgr
  | some route =>
      simp only [deleteNhEntry, routeLookup, found] at failed ⊢
      cases pointer : route.nhGroup with
      | none =>
          rw [pointer] at failed
          exact absurd rfl failed
      | some ref =>
          simp only [pointer] at failed ⊢
          refine untouched_lookup_unref inv found ?_ _
          simp only [routeLookup, found]
          refine untouched_deleteNhFrom ?_ ?_ failed
          · intro none_left
            exact undone.accepted
              (.inr ⟨isDeleteNh, route, ref, found, pointer, none_left⟩)
          · intro group candidate obtained
            rw [deleteCandidate_modifyRoute] at candidate
            refine undone.accepted (.inl ⟨group, ?_, obtained⟩)
            simp only [candidateGroup, found, isDeleteNh, Option.bind_some, pointer]
            exact candidate

/-- A failed request whose failure is undone. -/
theorem untouched_step
    (inv : RefInv mgr none fun _ => 0)
    (laid : GroupsAll NhGroup.Laid mgr)
    (undone : Undone env mgr request)
    (failed : (routeEntryAction env mgr request).rc ≠ none) :
    Untouched mgr (step env mgr request) := by
  unfold step
  unfold routeEntryAction at failed ⊢
  split
  · exact .refl mgr
  · rename_i asks
    rw [if_neg asks] at failed
    simp only [dispatch] at failed ⊢
    cases action : request.action with
    | add =>
        simp only [action] at failed ⊢
        exact untouched_addRouteEntry inv laid undone action failed
    | delete =>
        simp only [action] at failed ⊢
        exact untouched_deleteRouteEntry failed
    | deleteNh =>
        simp only [action] at failed ⊢
        exact untouched_deleteNhEntry inv undone action failed
    | unknown => exact .refl mgr

/-- In every run whose requests are undone when they fail, a request that
returns an error leaves the routes and the groups as they were. -/
theorem untouched_of_failed
    (reached : ReachedAmid env (Undone env) mgr)
    (undone : Undone env mgr request)
    (failed : (routeEntryAction env mgr request).rc ≠ none) :
    Untouched mgr (step env mgr request) :=
  untouched_step (reached.refInv fun _ _ safe => safe.refSafe) reached.groupsLaid
    undone failed

end Requests

/-- With an update of the route that the hardware accepts, only the group of the
route matters. -/
theorem Undone.of_accepted
    {env : Env} {mgr : L3Mgr} {request : Request}
    (accepted : request.xdk.updateIpRouteEntry = true)
    (inPlace : ∀ ref ∈ (findRoute mgr request.route.ipPrefix).bind (·.nhGroup),
      needsNewGroup request.xdk (some (deref mgr ref)) request.route.nexthops =
        false →
      Rewritten mgr.hostIdMap request.route.nexthops (deref mgr ref)) :
    Undone env mgr request where
  accepted := fun _ => accepted
  inPlace := by
    rintro group ⟨_, route, ref, found, pointer, rfl, sufficient⟩ _
    refine inPlace ref ?_ sufficient
    rw [found, Option.bind_some, pointer]
    rfl

/-- A host for resolved next hops of concrete requests. -/
def sampleHost (id : Nat) : HostEntry where
  id := id
  nhEntry :=
    { macDa := Vector.replicate 6 7, egressIntfId := 3, l3InterfaceId := 4,
      serviceInstId := 5, pktCmd := .fwd, propTTL := true, reasonCode := 0 }

/-- A request for next hops with their hosts. -/
def resolvingRequest (ipPrefix : String) (hosts : List (String × Option Int))
    (xdk : Outcome) : Request where
  action := .add
  route :=
    { family := .ipv4
      ipPrefix := ipPrefix
      nexthops := hosts.map fun (id, host) =>
        { id := id
          state := if host.isSome then .resolved else .unresolved
          type := .ipaddr
          l3EgressId := host.getD 0 } }
  xdk := xdk

/-- A route with two next hops, a merge that cannot be programmed, and a host
table that changes. -/
def unprogrammedRun : List Change :=
  [.request (sampleRequest .add "10.0.1.0/24" ["1.1.1.1", "2.2.2.2"] (accepting 0)),
   .hosts [sampleHost 1],
   .request (resolvingRequest "10.0.1.0/24" [("3.3.3.3", some 1)] (refusingSlots 10))]

/-- A request that stops at its second next hop, with nothing new for the
first. -/
def stoppingRequest : Request :=
  resolvingRequest "10.0.1.0/24" [("1.1.1.1", none), ("2.2.2.2", some 9)]
    (accepting 20)

theorem untouched_stoppingRequest :
    (routeEntryAction sampleEnv (Transition.run (change sampleEnv)
      (l3MgrCreate 0 []) unprogrammedRun) stoppingRequest).rc =
        some .EHOSTUNREACH ∧
    Untouched
      (Transition.run (change sampleEnv) (l3MgrCreate 0 []) unprogrammedRun)
      (step sampleEnv (Transition.run (change sampleEnv) (l3MgrCreate 0 [])
        unprogrammedRun) stoppingRequest) := by
  have failed : (routeEntryAction sampleEnv (Transition.run (change sampleEnv)
      (l3MgrCreate 0 []) unprogrammedRun) stoppingRequest).rc =
        some .EHOSTUNREACH := by
    decide
  refine ⟨failed, untouched_of_failed ?_ ?_ (by rw [failed]; simp)⟩
  · have start : ReachedAmid sampleEnv (Undone sampleEnv) (l3MgrCreate 0 []) :=
      .start ⟨0, [], rfl⟩
    refine start.of_run ⟨?_, trivial, ?_, trivial⟩
    · exact .of_accepted rfl (by decide)
    · exact .of_accepted rfl (by decide)
  · exact .of_accepted rfl (by decide)

/-- One route with two unresolved next hops, and a host. -/
def twoHopsRun : List Change :=
  [.request (sampleRequest .add "10.0.1.0/24" ["1.1.1.1", "2.2.2.2"] (accepting 0)),
   .hosts [sampleHost 1]]

/-- The hardware refuses to update the route, which keeps its group and now has
the size and the base of the deleted one; and an update in place stops at its
second next hop when the first has been rewritten. -/
theorem not_untouched_twoHopsRun :
    ((routeEntryAction sampleEnv
        (Transition.run (change sampleEnv) (l3MgrCreate 0 []) twoHopsRun)
        (sampleRequest .add "10.0.1.0/24" ["3.3.3.3"] (refusingUpdate 10))).rc =
          some .EACCES ∧
      ¬Untouched
        (Transition.run (change sampleEnv) (l3MgrCreate 0 []) twoHopsRun)
        (step sampleEnv
          (Transition.run (change sampleEnv) (l3MgrCreate 0 []) twoHopsRun)
          (sampleRequest .add "10.0.1.0/24" ["3.3.3.3"] (refusingUpdate 10)))) ∧
    ((routeEntryAction sampleEnv
        (Transition.run (change sampleEnv) (l3MgrCreate 0 []) twoHopsRun)
        (resolvingRequest "10.0.1.0/24" [("1.1.1.1", some 1), ("2.2.2.2", some 9)]
          (accepting 10))).rc = some .EHOSTUNREACH ∧
      ¬Untouched
        (Transition.run (change sampleEnv) (l3MgrCreate 0 []) twoHopsRun)
        (step sampleEnv
          (Transition.run (change sampleEnv) (l3MgrCreate 0 []) twoHopsRun)
          (resolvingRequest "10.0.1.0/24"
            [("1.1.1.1", some 1), ("2.2.2.2", some 9)] (accepting 10)))) := by
  refine ⟨⟨by decide, ?_⟩, by decide, ?_⟩
  · intro untouched
    exact absurd untouched.routeMap (by decide)
  · intro untouched
    exact absurd (congrFun untouched.groups 0) (by decide)

end Routing
end XpliantSwitchd
