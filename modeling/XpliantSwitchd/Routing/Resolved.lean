import XpliantSwitchd.Routing.Failures

/-!
# Resolved next hops reach the hardware

An `ADD` request may carry next hops whose host is known.  After a request that
succeeds, the slots that the group of the route uses for them should forward to
that host.  A request that builds a group or updates one in place writes the
host into every slot it uses.  A request that finds a published group with the
same ids takes that group as it is: what it knows about the hosts is dropped,
and the slots keep what earlier requests wrote.  The main result says that a
request ends with the resolved next hops in hardware exactly when it builds or
updates its group, or the group it takes over had them already.
-/

namespace XpliantSwitchd
namespace Routing

/-! ## What resolved means -/

/-- A next hop forwards to a host. -/
structure Carries (host : HostEntry) (entry : L3NextHopEntry) : Prop where
  macDa : entry.macDa = host.nhEntry.macDa
  egressIntfId : entry.egressIntfId = host.nhEntry.egressIntfId
  l3InterfaceId : entry.l3InterfaceId = host.nhEntry.l3InterfaceId
  serviceInstId : entry.serviceInstId = host.nhEntry.serviceInstId
  pktCmd : entry.pktCmd = .fwd

/-- A property of each listed next hop that is resolved to a live host. -/
def ForResolved (hosts : List HostEntry) (nexthops : List RouteNexthop)
    (property : String → HostEntry → Prop) : Prop :=
  ∀ nh ∈ nexthops, nh.state = .resolved → ∀ host,
    hostById hosts nh.l3EgressId = some host → property nh.id host

/-- The slot that a group uses for an id forwards to a host. -/
structure SlotCarries (hw : NextHopTable) (group : NhGroup) (id : String)
    (host : HostEntry) : Prop where
  used : id ∈ group.ids
  carried : ∀ nh ∈ group.nhMap, nh.id = id →
    ∃ entry, hw.slots nh.xpNhId = some (id, entry) ∧ Carries host entry

/-- The slots of a group forward to the hosts that a request names. -/
def GroupResolved (mgr : L3Mgr) (request : OfprotoRoute) (ref : GroupRef) : Prop :=
  ForResolved mgr.hostIdMap request.nexthops (SlotCarries mgr.hw (deref mgr ref))

/-- The slots of the group of a route forward to the hosts that a request
names. -/
def RouteResolved (mgr : L3Mgr) (request : OfprotoRoute) : Prop :=
  ∃ ref, pointers mgr request.ipPrefix = some (some ref) ∧
    GroupResolved mgr request ref

/-- The published group that an `ADD` request would take over. -/
def reusedGroup (env : Env) (mgr : L3Mgr) (request : Request) : Option GroupRef :=
  match findRoute mgr request.route.ipPrefix with
  | none => nhGroupLookupByRoute env request.xdk mgr request.route
  | some route =>
      (updateCandidate env request.xdk mgr request.route route.nhGroup).bind
        (nhGroupLookupByGroup request.xdk mgr)

/-! ## The update loop writes the hosts -/

theorem nhUpdate_carries
    {hosts : List HostEntry} {nh updated : NhEntry} {request : RouteNexthop}
    {host : HostEntry}
    (resolved : request.state = .resolved)
    (known : hostById hosts request.l3EgressId = some host)
    (success : nhUpdate hosts nh request = .ok updated) :
    Carries host updated.xpNh := by
  simp only [nhUpdate, resolved, known, Except.ok.injEq] at success
  subst success
  exact ⟨rfl, rfl, rfl, rfl, rfl⟩

theorem nhCreate_carries
    {env : Env} {hosts : List HostEntry} {nh : NhEntry} {request : RouteNexthop}
    {host : HostEntry}
    (resolved : request.state = .resolved)
    (known : hostById hosts request.l3EgressId = some host)
    (created : nhCreate env hosts request = some nh) :
    Carries host nh.xpNh := by
  cases result : nhUpdate hosts (nhZero env) request with
  | error errno => simp [nhCreate, result] at created
  | ok entry =>
      simp only [nhCreate, result, Option.some.injEq] at created
      subst created
      have carried : Carries host entry.xpNh :=
        nhUpdate_carries resolved known result
      exact carried

/-- The next hops of a group forward to the hosts that a request names. -/
def NhGroup.Holds (hosts : List HostEntry) (nexthops : List RouteNexthop)
    (group : NhGroup) : Prop :=
  ForResolved hosts nexthops fun id host =>
    id ∈ group.ids ∧ ∀ nh ∈ group.nhMap, nh.id = id → Carries host nh.xpNh

section Loop

variable {env : Env} {xdk : Outcome} {hosts : List HostEntry}

theorem mem_nhInsert {group : NhGroup} {nh entry : NhEntry} :
    entry ∈ (nhInsert env group nh).nhMap ↔
      entry ∈ group.nhMap ∨
        entry = { nh with xpNhId := group.nhId + group.nhMap.length } := by
  simp [nhInsert]

/-- The next hop in the slot of another one is that one. -/
theorem NhGroup.Arranged.same_slot
    {group : NhGroup} {nh entry : NhEntry}
    (arranged : group.Arranged)
    (member : nh ∈ group.nhMap)
    (entryMember : entry ∈ group.nhMap)
    (sameSlot : entry.xpNhId = nh.xpNhId) : entry = nh :=
  List.inj_on_of_nodup_map arranged.laid.slotsOnce entryMember member sameSlot

/-- The next hop with the id of another one is that one. -/
theorem NhGroup.Arranged.same_id
    {group : NhGroup} {nh entry : NhEntry}
    (arranged : group.Arranged)
    (member : nh ∈ group.nhMap)
    (entryMember : entry ∈ group.nhMap)
    (sameId : entry.id = nh.id) : entry = nh :=
  List.inj_on_of_nodup_map arranged.idsOnce entryMember member sameId

/-- A completed update loop starts with a turn that succeeds. -/
theorem nhGroupUpdate_cons
    {group after : NhGroup} {request : RouteNexthop}
    {requests : List RouteNexthop}
    (completed : nhGroupUpdate env xdk hosts group (request :: requests) =
      (after, none)) :
    ∃ turned, Turned env hosts group request turned ∧
      nhGroupUpdate env xdk hosts turned requests = (after, none) := by
  cases found : nhLookup xdk group request.id with
  | none =>
      cases created : nhCreate env hosts request with
      | none => simp [nhGroupUpdate, found, created] at completed
      | some nh =>
          simp only [nhGroupUpdate, found, created] at completed
          exact ⟨_, .inserted (nhLookup_eq_none.mp found) created, completed⟩
  | some nh =>
      obtain ⟨member, sameId⟩ := of_nhLookup found
      cases result : nhUpdate hosts nh request with
      | error errno => simp [nhGroupUpdate, found, result] at completed
      | ok updated =>
          simp only [nhGroupUpdate, found, result] at completed
          exact ⟨_, .replaced member sameId result, completed⟩

namespace Turned

variable {group turned : NhGroup} {request : RouteNexthop}

/-- A turn keeps the next hops with other ids. -/
theorem other_ids
    (turn : Turned env hosts group request turned)
    (arranged : group.Arranged)
    {entry : NhEntry}
    (different : entry.id ≠ request.id) :
    entry ∈ turned.nhMap ↔ entry ∈ group.nhMap := by
  cases turn with
  | @inserted nh absent created =>
      rw [mem_nhInsert]
      constructor
      · rintro (member | rfl)
        · exact member
        · exact absurd (nhCreate_id created) different
      · exact .inl
  | @replaced nh updated member sameId result =>
      obtain ⟨keptId, keptSlot⟩ := nhUpdate_keeps result
      rw [NhGroup.replace, KeyedList.mem_rewrite]
      constructor
      · rintro (⟨_, _, _, rfl⟩ | ⟨kept, _⟩)
        · exact absurd (keptId.trans sameId) different
        · exact kept
      · intro entryMember
        right
        refine ⟨entryMember, ?_⟩
        intro sameSlot
        have isOld := arranged.same_slot member entryMember (sameSlot.trans keptSlot)
        exact different (isOld ▸ sameId)

/-- A turn leaves the requested id in the group, and its next hop forwards to the
host of the request. -/
theorem carries
    (turn : Turned env hosts group request turned)
    (arranged : group.Arranged) :
    request.id ∈ turned.ids ∧
      (request.state = .resolved → ∀ host,
        hostById hosts request.l3EgressId = some host →
        ∀ nh ∈ turned.nhMap, nh.id = request.id → Carries host nh.xpNh) := by
  cases turn with
  | @inserted nh absent created =>
      have sameId := nhCreate_id created
      constructor
      · rw [nhInsert_ids, sameId]
        simp
      · intro resolved host known entry entryMember entryId
        rcases mem_nhInsert.mp entryMember with older | rfl
        · exact absurd (List.mem_map.mpr ⟨entry, older, entryId⟩) absent
        · have carried : Carries host nh.xpNh :=
            nhCreate_carries resolved known created
          exact carried
  | @replaced nh updated member sameId result =>
      obtain ⟨keptId, keptSlot⟩ := nhUpdate_keeps result
      constructor
      · rw [replace_ids arranged.laid member keptSlot keptId, ← sameId]
        exact List.mem_map_of_mem member
      · intro resolved host known entry entryMember entryId
        rw [NhGroup.replace, KeyedList.mem_rewrite] at entryMember
        rcases entryMember with ⟨_, _, _, rfl⟩ | ⟨older, otherSlot⟩
        · exact nhUpdate_carries resolved known result
        · have isOld := arranged.same_id member older (entryId.trans sameId.symm)
          subst isOld
          exact absurd keptSlot.symm otherSlot

end Turned

/-- The update loop keeps the next hops that are not requested. -/
theorem nhGroupUpdate_others
    {group after : NhGroup} {requests : List RouteNexthop}
    (arranged : group.Arranged)
    (completed : nhGroupUpdate env xdk hosts group requests = (after, none))
    {entry : NhEntry}
    (unlisted : ∀ request ∈ requests, entry.id ≠ request.id) :
    entry ∈ after.nhMap ↔ entry ∈ group.nhMap := by
  induction requests generalizing group with
  | nil =>
      cases completed
      rfl
  | cons request requests inductionHypothesis =>
      obtain ⟨here, rest⟩ := List.forall_mem_cons.mp unlisted
      obtain ⟨turned, turn, remaining⟩ := nhGroupUpdate_cons completed
      rw [inductionHypothesis (turn.arranged arranged) remaining rest,
        turn.other_ids arranged here]

/-- After a completed update loop the group holds what was requested. -/
theorem nhGroupUpdate_holds
    {group after : NhGroup} {requests : List RouteNexthop}
    (arranged : group.Arranged)
    (once : (requests.map (·.id)).Nodup)
    (completed : nhGroupUpdate env xdk hosts group requests = (after, none)) :
    after.Holds hosts requests := by
  induction requests generalizing group with
  | nil =>
      intro nh member
      cases member
  | cons request requests inductionHypothesis =>
      obtain ⟨new, restOnce⟩ := List.nodup_cons.mp once
      obtain ⟨turned, turn, remaining⟩ := nhGroupUpdate_cons completed
      have turnedArranged := turn.arranged arranged
      have unlisted : ∀ entry : NhEntry, entry.id = request.id →
          ∀ other ∈ requests, entry.id ≠ other.id := by
        intro entry sameId other otherMember equal
        exact new (List.mem_map.mpr ⟨other, otherMember, equal.symm.trans sameId⟩)
      intro nh member resolved host known
      rcases List.mem_cons.mp member with rfl | later
      · obtain ⟨present, carries⟩ := turn.carries arranged
        constructor
        · obtain ⟨entry, entryMember, entryId⟩ := List.mem_map.mp present
          refine List.mem_map.mpr ⟨entry, ?_, entryId⟩
          exact (nhGroupUpdate_others turnedArranged remaining
            (unlisted entry entryId)).mpr entryMember
        · intro entry entryMember entryId
          refine carries resolved host known entry ?_ entryId
          exact (nhGroupUpdate_others turnedArranged remaining
            (unlisted entry entryId)).mp entryMember
      · exact inductionHypothesis turnedArranged restOnce remaining nh later resolved
          host known

/-- On new ids the loop of `route_add` is the one of `route_update`. -/
theorem nhGroupFill_eq_update
    {group : NhGroup} {requests : List RouteNexthop}
    (once : (requests.map (·.id)).Nodup)
    (absent : ∀ request ∈ requests, request.id ∉ group.ids) :
    nhGroupFill env hosts group requests =
      nhGroupUpdate env xdk hosts group requests := by
  induction requests generalizing group with
  | nil => rfl
  | cons request requests inductionHypothesis =>
      obtain ⟨new, restOnce⟩ := List.nodup_cons.mp once
      obtain ⟨here, rest⟩ := List.forall_mem_cons.mp absent
      have found : nhLookup xdk group request.id = none := nhLookup_eq_none.mpr here
      cases created : nhCreate env hosts request with
      | none => simp only [nhGroupFill, nhGroupUpdate, found, created]
      | some nh =>
          simp only [nhGroupFill, nhGroupUpdate, found, created]
          refine inductionHypothesis restOnce ?_
          intro other otherMember inIds
          rw [nhInsert_ids, nhCreate_id created, List.mem_append,
            List.mem_singleton] at inIds
          rcases inIds with older | equal
          · exact rest other otherMember older
          · exact new (List.mem_map.mpr ⟨other, otherMember, equal⟩)

end Loop

/-! ## From the group to its slots -/

/-- A programmed group has in its slots what its next hops hold. -/
theorem NhGroup.Holds.programmed
    {xdk : Outcome} {hosts : List HostEntry} {nexthops : List RouteNexthop}
    {group : NhGroup} {hw hw' : NextHopTable} {success : Bool}
    (holds : group.Holds hosts nexthops)
    (succeeds : xdk.Succeeds)
    (laid : group.Laid)
    (programmed : setNextHops xdk hw (xdk.nhOrder.visit group.nhMap) =
      (hw', success)) :
    ForResolved hosts nexthops (SlotCarries hw' group) := by
  have slotsOnce : ((xdk.nhOrder.visit group.nhMap).map (·.xpNhId)).Nodup :=
    ((xdk.nhOrder.perm group.nhMap).map _).nodup_iff.mpr laid.slotsOnce
  intro nh member resolved host known
  obtain ⟨used, carries⟩ := holds nh member resolved host known
  refine ⟨used, ?_⟩
  intro entry entryMember entryId
  have slot := setNextHops_slots succeeds hw slotsOnce
    (xdk.nhOrder.mem_visit.mpr entryMember)
  rw [programmed, entryId] at slot
  exact ⟨_, slot, carries entry entryMember entryId⟩

/-- From one state to another a group keeps its next hops and what is in their
slots. -/
structure SameSlots (mgr mgr' : L3Mgr) (ref : GroupRef) : Prop where
  nhMap : (deref mgr' ref).nhMap = (deref mgr ref).nhMap
  slots : ∀ nh ∈ (deref mgr ref).nhMap,
    mgr'.hw.slots nh.xpNhId = mgr.hw.slots nh.xpNhId
  hosts : mgr'.hostIdMap = mgr.hostIdMap

namespace SameSlots

variable {mgr mgr₁ mgr₂ : L3Mgr} {ref : GroupRef}

theorem trans (first : SameSlots mgr mgr₁ ref)
    (second : SameSlots mgr₁ mgr₂ ref) : SameSlots mgr mgr₂ ref where
  nhMap := second.nhMap.trans first.nhMap
  slots := by
    intro nh member
    rw [second.slots nh (first.nhMap ▸ member), first.slots nh member]
  hosts := second.hosts.trans first.hosts

theorem resolved (same : SameSlots mgr mgr₁ ref) (request : OfprotoRoute) :
    GroupResolved mgr₁ request ref ↔ GroupResolved mgr request ref := by
  have carries : ∀ id host, SlotCarries mgr₁.hw (deref mgr₁ ref) id host ↔
      SlotCarries mgr.hw (deref mgr ref) id host := by
    intro id host
    have sameIds : (deref mgr₁ ref).ids = (deref mgr ref).ids := by
      rw [NhGroup.ids, NhGroup.ids, same.nhMap]
    constructor
    · rintro ⟨used, carried⟩
      refine ⟨sameIds ▸ used, ?_⟩
      intro nh member sameId
      rw [← same.slots nh member]
      exact carried nh (same.nhMap ▸ member) sameId
    · rintro ⟨used, carried⟩
      refine ⟨sameIds ▸ used, ?_⟩
      intro nh member sameId
      rw [same.nhMap] at member
      rw [same.slots nh member]
      exact carried nh member sameId
  unfold GroupResolved ForResolved
  rw [same.hosts]
  simp only [carries]

end SameSlots

/-- A change of a reference count keeps all slots. -/
theorem sameSlots_recount
    (mgr : L3Mgr) (ref other : GroupRef) (count : Nat) :
    SameSlots mgr
      (store mgr other (some { deref mgr other with refCnt := count })) ref where
  nhMap := by
    by_cases same : ref = other
    · subst same
      simp [deref, store]
    · simp [deref, store, Function.update_of_ne same]
  slots := fun _ _ => rfl
  hosts := rfl

/-- The next hops of two published groups have different slots. -/
theorem BlockInv.slots_ne
    {mgr : L3Mgr} {pending : Option Block} {locked : Option String}
    {held : GroupRef → Nat} {ref other : GroupRef} {nh otherNh : NhEntry}
    (inv : BlockInv mgr pending)
    (refInv : RefInv mgr locked held)
    (published : ref ∈ mgr.nhGroupMap)
    (otherPublished : other ∈ mgr.nhGroupMap)
    (different : ref ≠ other)
    (member : nh ∈ (deref mgr ref).nhMap)
    (otherMember : otherNh ∈ (deref mgr other).nhMap) :
    otherNh.xpNhId ≠ nh.xpNhId := by
  have housed := inv.housed ref _ (refInv.live_of_published published)
  have otherHoused := inv.housed other _ (refInv.live_of_published otherPublished)
  have bounds := housed.laid.slot_bounds member
  have otherBounds := otherHoused.laid.slot_bounds otherMember
  have fits := housed.fits
  have otherFits := otherHoused.fits
  have apart := inv.apart_published published otherPublished different
  simp only [Apart, NhGroup.block] at apart
  omega

/-- Releasing a group keeps the slots of another one, and of the same one when a
reference is left. -/
theorem BlockInv.sameSlots_unref
    {mgr : L3Mgr} {pending : Option Block} {locked : Option String}
    {held : GroupRef → Nat} {ref : GroupRef} {pointer : Option GroupRef}
    (inv : BlockInv mgr pending)
    (refInv : RefInv mgr locked held)
    (published : ref ∈ mgr.nhGroupMap)
    (inMap : ∀ other, pointer = some other → other ∈ mgr.nhGroupMap)
    (left : pointer = some ref → (deref mgr ref).refCnt ≠ 1)
    (xdk : Outcome) :
    SameSlots mgr (nhGroupUnref xdk mgr pointer) ref := by
  cases pointer with
  | none => exact ⟨rfl, fun _ _ => rfl, rfl⟩
  | some other =>
      simp only [nhGroupUnref]
      by_cases last : (deref mgr other).refCnt = 1
      · have different : ref ≠ other := by
          rintro rfl
          exact left rfl last
        rw [if_pos last]
        refine ⟨?_, ?_, rfl⟩
        · simp [nhGroupDelete, nhGroupFree, Routing.store, deref,
            Function.update_of_ne different]
        · intro nh member
          refine clearNextHops_frame xdk mgr.hw _ ?_
          intro entry entryMember
          exact inv.slots_ne refInv published (inMap other rfl) different member
            (xdk.nhOrder.mem_visit.mp entryMember)
      · rw [if_neg last]
        exact sameSlots_recount mgr ref other _

/-- Committing a group keeps its slots. -/
theorem BlockInv.sameSlots_commit
    {mgr : L3Mgr} {locked : Option String} {xdk : Outcome} {ref : GroupRef}
    {route : RouteEntry}
    (updates : xdk.updateIpRouteEntry = true)
    (inv : BlockInv mgr none)
    (refInv : RefInv mgr locked (hold (fun _ => 0) (some ref)))
    (published : ref ∈ mgr.nhGroupMap)
    (member : route ∈ mgr.routeMap)
    (failure : Errno) :
    SameSlots mgr (commitGroup xdk mgr route.ipPrefix route.nhGroup (some ref)
      failure).2 ref := by
  have isPublished : ∀ other, some ref = some other → other ∈ mgr.nhGroupMap := by
    intro other equal
    cases equal
    exact published
  have left : route.nhGroup = some ref → (deref mgr ref).refCnt ≠ 1 := by
    intro points
    have count := (refInv.counted ref _ (refInv.live_of_published published)).1
    have routed : 0 < routeRefs mgr ref :=
      List.countP_pos_iff.mpr ⟨route, member, by simp [points]⟩
    simp only [hold, if_true] at count
    omega
  have committed : BlockInv (Routing.modifyRoute
      (Routing.modifyRoute mgr route.ipPrefix
        (writeHwRoute ((some ref).map (deref mgr))))
      route.ipPrefix fun route => { route with nhGroup := some ref }) none :=
    inv.withRoutes (reflects_committed inv.reflects (some ref) route.ipPrefix)
  rw [commitGroup_success updates]
  have released := @BlockInv.sameSlots_unref _ _ _ _ ref route.nhGroup committed
    (refInv.pointed isPublished member) published
    (fun other points => refInv.pointsPublished route member other points) left xdk
  exact ⟨released.nhMap, released.slots, released.hosts⟩

/-! ## Requests -/

section Requests

variable {env : Env} {xdk : Outcome} {mgr : L3Mgr} {request : OfprotoRoute}

/-- A group that is published with its slots programmed. -/
theorem groupResolved_publish
    {group : NhGroup} {hw : NextHopTable}
    (resolved : ForResolved mgr.hostIdMap request.nexthops (SlotCarries hw group)) :
    GroupResolved (publish { mgr with hw := hw } group) request mgr.nextRef := by
  have isGroup : deref (publish { mgr with hw := hw } group) mgr.nextRef = group := by
    simp [deref, publish]
  unfold GroupResolved
  rw [isGroup]
  exact resolved

/-- A group filled by `route_add` holds what was requested. -/
theorem nhGroupFill_holds
    {mgr₁ : L3Mgr} {empty group : NhGroup}
    (once : (request.nexthops.map (·.id)).Nodup)
    (allocated : nhGroupAlloc env xdk mgr request.nexthops.length =
      (some empty, mgr₁))
    (filled : nhGroupFill env mgr.hostIdMap empty request.nexthops =
      (group, none)) :
    group.Holds mgr.hostIdMap request.nexthops := by
  have noHops := (nhGroupAlloc_empty allocated).1
  have noIds : empty.ids = [] := by simp [NhGroup.ids, noHops]
  have arranged : empty.Arranged := ⟨.of_empty noHops, by simp [noIds]⟩
  rw [@nhGroupFill_eq_update env xdk _ _ _ once (by simp [noIds])] at filled
  exact nhGroupUpdate_holds arranged once filled

/-- A `route_add` that succeeds has got a group and inserts the route. -/
theorem routeAdd_success
    (success : (routeAdd env xdk mgr request).1 = none) :
    ∃ ref mgr₁ addr len, routeAddGroup env xdk mgr request = (.ok ref, mgr₁) ∧
      (routeAdd env xdk mgr request).2 =
        insertRoute mgr₁ (newRoute mgr₁ request addr len ref) := by
  cases got : routeAddGroup env xdk mgr request with
  | mk result mgr₁ =>
      cases result with
      | error errno => simp [routeAdd, got] at success
      | ok ref =>
          cases parsed : env.stringToPrefix request.family request.ipPrefix with
          | none => simp [routeAdd, got, parsed] at success
          | some parsedPrefix =>
              obtain ⟨addr, len⟩ := parsedPrefix
              refine ⟨ref, mgr₁, addr, len, rfl, ?_⟩
              cases added : xdk.addIpRouteEntry with
              | false => simp [routeAdd, got, parsed, added] at success
              | true => simp [routeAdd, got, parsed, added, insertRoute, newRoute]

/-- What a new route gets. -/
theorem routeAddGroup_resolved
    {ref : GroupRef} {mgr₁ : L3Mgr}
    (succeeds : xdk.Succeeds)
    (once : (request.nexthops.map (·.id)).Nodup)
    (got : routeAddGroup env xdk mgr request = (.ok ref, mgr₁)) :
    GroupResolved mgr₁ request ref ↔
      ∀ reused, nhGroupLookupByRoute env xdk mgr request = some reused →
        GroupResolved mgr request reused := by
  cases lookup : nhGroupLookupByRoute env xdk mgr request with
  | some found =>
      simp only [routeAddGroup, lookup, Prod.mk.injEq, Except.ok.injEq] at got
      obtain ⟨rfl, rfl⟩ := got
      have same := (sameSlots_recount mgr found found
        ((deref mgr found).refCnt + 1)).resolved request
      simpa [nhGroupRef] using same
  | none =>
      rcases routeAddGroup_outcome env xdk mgr request with
        ⟨_, _, acquired, equation⟩ | ⟨_, _, _, equation⟩
      · rw [equation] at got
        cases got
        cases acquired with
        | reused found =>
            rw [lookup] at found
            cases found
        | built allocated filled programmed =>
            have holds := nhGroupFill_holds once allocated filled
            rw [← (nhGroupAlloc_empty allocated).2.2.2] at holds
            have laid := (nhGroupFill_gained allocated filled).1
            have resolved := groupResolved_publish
              (holds.programmed succeeds laid programmed)
            simpa using resolved
      · rw [equation] at got
        cases got

theorem routeAdd_resolved
    (succeeds : xdk.Succeeds)
    (once : (request.nexthops.map (·.id)).Nodup)
    (success : (routeAdd env xdk mgr request).1 = none) :
    RouteResolved (routeAdd env xdk mgr request).2 request ↔
      ∀ reused, nhGroupLookupByRoute env xdk mgr request = some reused →
        GroupResolved mgr request reused := by
  obtain ⟨ref, mgr₁, addr, len, got, equation⟩ := routeAdd_success success
  rw [equation, ← routeAddGroup_resolved succeeds once got]
  have pointer : pointers (insertRoute mgr₁ (newRoute mgr₁ request addr len ref))
      request.ipPrefix = some (some ref) := by
    simp [pointers, findRoute, insertRoute, newRoute]
  constructor
  · rintro ⟨other, isOther, resolved⟩
    rw [pointer] at isOther
    cases isOther
    exact resolved
  · intro resolved
    exact ⟨ref, pointer, resolved⟩

/-- The group that `route_update` selects in place of a merged one. -/
theorem selectGroup_resolved
    {mgr₂ : L3Mgr} {group : NhGroup} {ref : GroupRef}
    (succeeds : xdk.Succeeds)
    (laid : group.Laid)
    (holds : group.Holds mgr.hostIdMap request.nexthops)
    (chosen : selectGroup xdk mgr group = (some ref, mgr₂)) :
    GroupResolved mgr₂ request ref ↔
      ∀ reused, nhGroupLookupByGroup xdk mgr group = some reused →
        GroupResolved mgr request reused := by
  rcases selectGroup_cases xdk mgr group with
    ⟨found, lookup, equation⟩ | ⟨hw, lookup, programmed, equation⟩ |
    ⟨hw, _, _, equation⟩
  · rw [equation] at chosen
    cases chosen
    have same : SameSlots mgr (nhGroupFree (nhGroupRef mgr ref) group none) ref := by
      have counted := sameSlots_recount mgr ref ref ((deref mgr ref).refCnt + 1)
      exact ⟨counted.nhMap, counted.slots, counted.hosts⟩
    rw [lookup]
    simpa using same.resolved request
  · rw [equation] at chosen
    cases chosen
    have resolved := groupResolved_publish (holds.programmed succeeds laid programmed)
    simpa [lookup] using resolved
  · rw [equation] at chosen
    cases chosen

/-- What a route with next hops to add gets. -/
theorem regrouped_resolved
    {locked : Option String} {size : Nat} {empty group : NhGroup}
    {mgr₁ mgr₂ : L3Mgr} {ref : GroupRef} {route : RouteEntry}
    (succeeds : xdk.Succeeds)
    (refInv : RefInv mgr locked fun _ => 0)
    (pending : BlockInv mgr₁ (some group.block))
    (allocated : nhGroupAlloc env xdk mgr size = (some empty, mgr₁))
    (once : group.refCnt = 1)
    (housed : group.Housed)
    (holds : group.Holds mgr.hostIdMap request.nexthops)
    (chosen : selectGroup xdk mgr₁ group = (some ref, mgr₂))
    (member : route ∈ mgr.routeMap)
    (failure : Errno) :
    GroupResolved (commitGroup xdk mgr₂ route.ipPrefix route.nhGroup (some ref)
        failure).2 request ref ↔
      ∀ reused, nhGroupLookupByGroup xdk mgr group = some reused →
        GroupResolved mgr request reused := by
  obtain ⟨_, _, _, state⟩ := nhGroupAlloc_some allocated
  have refInv₁ := refInv.alloc allocated
  obtain ⟨held, inMap, sameRoutes, _⟩ := refInv₁.select once chosen
  have stillMember : route ∈ mgr₂.routeMap := by
    rw [sameRoutes, state]
    exact member
  have committed := (pending.select refInv₁ housed chosen).sameSlots_commit
    succeeds.updates held inMap stillMember failure
  have sameLookup : nhGroupLookupByGroup xdk mgr₁ group =
      nhGroupLookupByGroup xdk mgr group := by
    rw [state]
    rfl
  have same : ∀ reused, SameSlots mgr mgr₁ reused := by
    intro reused
    rw [state]
    exact ⟨rfl, fun _ _ => rfl, rfl⟩
  rw [← (nhGroupAlloc_empty allocated).2.2.2] at holds
  rw [committed.resolved, selectGroup_resolved succeeds housed.laid holds chosen,
    sameLookup]
  simp only [(same _).resolved]

theorem routeUpdate_resolved
    {locked : Option String} {route current : RouteEntry}
    (succeeds : xdk.Succeeds)
    (once : (request.nexthops.map (·.id)).Nodup)
    (asks : request.nexthops ≠ [])
    (fresh : FreshBlocks mgr xdk)
    (inv : BlockInv mgr none)
    (refInv : RefInv mgr locked fun _ => 0)
    (arranged : GroupsAll NhGroup.Arranged mgr)
    (member : current ∈ mgr.routeMap)
    (samePrefix : current.ipPrefix = route.ipPrefix)
    (sameGroup : current.nhGroup = route.nhGroup)
    (routed : pointers mgr route.ipPrefix = some route.nhGroup)
    (success : (routeUpdate env xdk mgr request route).1 = none) :
    ∃ ref, pointers (routeUpdate env xdk mgr request route).2 route.ipPrefix =
        some (some ref) ∧
      (GroupResolved (routeUpdate env xdk mgr request route).2 request ref ↔
        ∀ reused, (updateCandidate env xdk mgr request route.nhGroup).bind
          (nhGroupLookupByGroup xdk mgr) = some reused →
            GroupResolved mgr request reused) := by
  have oldHoused : ∀ ref, route.nhGroup = some ref → (deref mgr ref).Housed := by
    intro ref pointer
    exact inv.housed ref _ (refInv.live_of_published
      (refInv.pointsPublished current member ref (sameGroup.trans pointer)))
  generalize result : routeUpdate env xdk mgr request route = outcome at success ⊢
  have shape := routeUpdate_outcome env xdk mgr request route
  rw [result] at shape
  cases shape with
  | noMemory => cases success
  | unreachable _ _ => cases success
  | notProgrammed _ _ _ => cases success
  | stopped _ _ _ => cases success
  | noGroup sufficient pointer =>
      rw [pointer] at sufficient
      obtain ⟨nh, rest, isCons⟩ := List.exists_cons_of_ne_nil asks
      simp [needsNewGroup, isCons] at sufficient
  | @inPlace ref group hw isSuccess sufficient pointer updated programmed =>
      refine ⟨ref, routed.trans (congrArg some pointer), ?_⟩
      have noCandidate :
          updateCandidate env xdk mgr request route.nhGroup = none := by
        simp [updateCandidate, sufficient]
      have oldArranged := arranged.deref uncounted_arranged ref
      have holds := nhGroupUpdate_holds oldArranged once updated
      have laid : group.Laid := nhGroupUpdate_rule oldArranged.laid updated
        fun _ _ _ _ laid turn => turn.laid laid
      have resolved := holds.programmed succeeds laid programmed
      have isGroup : deref { store mgr ref (some group) with hw := hw } ref =
          group := by
        simp [deref, store]
      have groupResolved : GroupResolved
          { store mgr ref (some group) with hw := hw } request ref := by
        unfold GroupResolved
        rw [isGroup]
        exact resolved
      simpa [noCandidate] using groupResolved
  | @regrouped empty group mgr₁ mgr₂ ref building allocated merged chosen =>
      have isCandidate :
          updateCandidate env xdk mgr request route.nhGroup = some group := by
        simp only [updateCandidate, building, if_true, allocated,
          Option.bind_some, merged]
      have refOnce : group.refCnt = 1 := by
        rw [mergedGroup_refCnt merged, (nhGroupAlloc_some allocated).2.2.1]
      obtain ⟨housed, block⟩ := mergedGroup_housed oldHoused asks allocated merged
      have pending := inv.alloc
        (Nat.add_pos_left (List.length_pos_of_ne_nil asks) _) fresh allocated
      rw [← block] at pending
      have oldArranged : ∀ old, route.nhGroup.map (deref mgr) = some old →
          old.Arranged := by
        intro old isOld
        obtain ⟨oldRef, _, rfl⟩ := Option.map_eq_some_iff.mp isOld
        exact arranged.deref uncounted_arranged oldRef
      have holds := nhGroupUpdate_holds
        (copied_arranged env xdk (nhGroupAlloc_empty allocated).1 oldArranged) once
        merged
      obtain ⟨committed, _, equation, _, moved⟩ :=
        refInv.movedRegroup succeeds allocated refOnce chosen member .EACCES
      have resolved := regrouped_resolved succeeds refInv pending allocated refOnce
        housed holds chosen member .EACCES
      rw [samePrefix] at moved
      rw [samePrefix, sameGroup] at equation resolved
      rw [equation] at resolved ⊢
      refine ⟨ref, ?_, ?_⟩
      · rw [moved.pointers, Function.update_self]
      · rw [isCandidate]
        exact resolved

end Requests

/-! ## Runs -/

/-- The block invariant does not look at the host table. -/
theorem BlockInv.withHosts {mgr : L3Mgr} {pending : Option Block}
    (inv : BlockInv mgr pending) (hosts : List HostEntry) :
    BlockInv { mgr with hostIdMap := hosts } pending :=
  ⟨inv.housed, inv.apart, inv.owned, inv.positive, inv.reflects, inv.destroys⟩

/-- The XDK may refuse any call but the update of a route and creates blocks that
do not overlap the outstanding ones, and the request lists no id twice. -/
structure Orderly (mgr : L3Mgr) (request : Request) : Prop extends
    BlockSafe mgr request where
  once : (request.route.nexthops.map (·.id)).Nodup

theorem BlockSafe.refSafe {env : Env} {mgr : L3Mgr} {request : Request}
    (safe : BlockSafe mgr request) : RefSafe env mgr request := by
  intro refused
  rw [safe.updates] at refused
  cases refused

section Runs

variable {env : Env} {mgr : L3Mgr} {request : Request}

theorem ReachedAmid.blockInv (reached : ReachedAmid env Orderly mgr) :
    RefInv mgr none (fun _ => 0) ∧ BlockInv mgr none := by
  refine reached.invariant
    (fun mgr => RefInv mgr none (fun _ => 0) ∧ BlockInv mgr none) ?_ ?_ ?_
  · intro vrfId hosts
    refine ⟨l3MgrCreate_refInv vrfId hosts, ?_⟩
    constructor <;> simp [l3MgrCreate, publishedBlocks]
  · rintro current request ⟨currentRef, currentBlocks⟩ orderly
    exact ⟨currentRef.step orderly.refSafe,
      currentBlocks.step orderly.toBlockSafe currentRef⟩
  · rintro current hosts ⟨currentRef, currentBlocks⟩
    exact ⟨currentRef.withHosts hosts, currentBlocks.withHosts hosts⟩

theorem ReachedAmid.groupsArranged (reached : ReachedAmid env Orderly mgr) :
    GroupsAll NhGroup.Arranged mgr :=
  reached.groupsAll uncounted_arranged
    fun mgr request orderly =>
      buildable_arranged _ request.xdk mgr.hostIdMap orderly.once

theorem sameSlots_lookup (mgr : L3Mgr) (ipPrefix : String) (ref : GroupRef) :
    SameSlots mgr (routeLookup mgr ipPrefix).2 ref := by
  unfold routeLookup
  cases findRoute mgr ipPrefix with
  | none => exact ⟨rfl, fun _ _ => rfl, rfl⟩
  | some route => exact ⟨rfl, fun _ _ => rfl, rfl⟩

theorem RefInv.sameSlots_unlock
    {held : GroupRef → Nat} {ipPrefix : String}
    (refInv : RefInv mgr (some ipPrefix) held) (xdk : Outcome) (ref : GroupRef) :
    SameSlots mgr (Routing.routeUnref xdk mgr ipPrefix) ref := by
  unfold Routing.routeUnref
  cases found : findRoute mgr ipPrefix with
  | none => exact ⟨rfl, fun _ _ => rfl, rfl⟩
  | some route =>
      have twice : route.refCnt = 2 := by
        simpa [findRoute_ipPrefix found] using
          refInv.routeCounted route (List.mem_of_find?_eq_some found)
      simp only [twice]
      exact ⟨rfl, fun _ _ => rfl, rfl⟩

/-- An `ADD` for a route that exists. -/
theorem addFound_resolved
    {route : RouteEntry}
    (succeeds : request.xdk.Succeeds)
    (orderly : Orderly mgr request)
    (refInv : RefInv mgr none fun _ => 0)
    (inv : BlockInv mgr none)
    (arranged : GroupsAll NhGroup.Arranged mgr)
    (asks : request.route.nexthops ≠ [])
    (found : findRoute mgr request.route.ipPrefix = some route)
    (success : (addRouteEntry env request.xdk mgr request.route).1 = none) :
    RouteResolved (addRouteEntry env request.xdk mgr request.route).2
        request.route ↔
      ∀ ref, reusedGroup env mgr request = some ref →
        GroupResolved mgr request.route ref := by
  have looked := refInv.lookup request.route.ipPrefix
  rw [found, Option.isSome_some, if_pos rfl] at looked
  obtain ⟨routePrefix, current, member, samePrefix, sameGroup⟩ :=
    routeLookup_some found
  have equation : addRouteEntry env request.xdk mgr request.route =
      ((routeUpdate env request.xdk (routeLookup mgr request.route.ipPrefix).2
          request.route route).1,
        routeUnref request.xdk (routeUpdate env request.xdk
          (routeLookup mgr request.route.ipPrefix).2 request.route route).2
          request.route.ipPrefix) := by
    simp only [addRouteEntry, routeLookup, found]
  have routed : pointers (routeLookup mgr request.route.ipPrefix).2 route.ipPrefix =
      some route.nhGroup := by
    rw [(refInv.movedLookup request.route.ipPrefix).pointers,
      Function.update_eq_self, routePrefix, pointers, found]
    rfl
  rw [equation] at success ⊢
  obtain ⟨ref, pointer, resolved⟩ := routeUpdate_resolved succeeds orderly.once asks
    (orderly.fresh.lookup _) (inv.lookup _) looked (arranged.routeLookup _) member
    samePrefix sameGroup routed success
  have updated : RefInv (routeUpdate env request.xdk
      (routeLookup mgr request.route.ipPrefix).2 request.route route).2
      (some request.route.ipPrefix) fun _ => 0 := by
    refine looked.routeUpdate member samePrefix sameGroup ?_
    intro refused
    rw [orderly.updates] at refused
    cases refused
  rw [routePrefix] at pointer
  have unlocked := (updated.movedUnlock request.xdk).pointers
  rw [Function.update_eq_self] at unlocked
  have sameLookup : ∀ other, (updateCandidate env request.xdk
      (routeLookup mgr request.route.ipPrefix).2 request.route route.nhGroup).bind
        (nhGroupLookupByGroup request.xdk
          (routeLookup mgr request.route.ipPrefix).2) = some other ↔
      reusedGroup env mgr request = some other := by
    intro other
    simp only [reusedGroup, routeLookup, found, updateCandidate_modifyRoute]
    rfl
  have lookedSame : ∀ other, GroupResolved (routeLookup mgr request.route.ipPrefix).2
      request.route other ↔ GroupResolved mgr request.route other := by
    intro other
    exact (sameSlots_lookup mgr request.route.ipPrefix other).resolved request.route
  simp only [sameLookup, lookedSame] at resolved
  rw [← resolved, ← (updated.sameSlots_unlock request.xdk ref).resolved]
  constructor
  · rintro ⟨other, isOther, otherResolved⟩
    rw [unlocked, pointer] at isOther
    cases isOther
    exact otherResolved
  · intro refResolved
    exact ⟨ref, by rw [unlocked, pointer], refResolved⟩

/-- An `ADD` that succeeds, for a new route and for one that exists. -/
theorem addRequest_resolved
    (refInv : RefInv mgr none fun _ => 0)
    (inv : BlockInv mgr none)
    (arranged : GroupsAll NhGroup.Arranged mgr)
    (orderly : Orderly mgr request)
    (succeeds : request.xdk.Succeeds)
    (isAdd : request.action = .add)
    (success : (routeEntryAction env mgr request).rc = none) :
    RouteResolved (step env mgr request) request.route ↔
      ∀ ref, reusedGroup env mgr request = some ref →
        GroupResolved mgr request.route ref := by
  unfold step
  unfold routeEntryAction at success ⊢
  split
  · rename_i empty
    rw [if_pos empty] at success
    cases success
  · rename_i asks
    rw [if_neg asks] at success
    simp only [dispatch, isAdd] at success ⊢
    cases found : findRoute mgr request.route.ipPrefix with
    | none =>
        simp only [addRouteEntry, routeLookup, reusedGroup, found] at success ⊢
        exact routeAdd_resolved succeeds orderly.once success
    | some route =>
        exact addFound_resolved succeeds orderly refInv inv arranged asks found success

/-- In every run of requests that list no id twice and in which no route update is
refused, an `ADD` that succeeds leaves the hosts of its resolved next hops in the slots
of the route exactly when the published group that it takes over, if any, had them
there already. -/
theorem routeResolved_iff_reused
    (reached : ReachedAmid env Orderly mgr)
    (orderly : Orderly mgr request)
    (succeeds : request.xdk.Succeeds)
    (isAdd : request.action = .add)
    (success : (routeEntryAction env mgr request).rc = none) :
    RouteResolved (step env mgr request) request.route ↔
      ∀ ref, reusedGroup env mgr request = some ref →
        GroupResolved mgr request.route ref := by
  obtain ⟨refInv, inv⟩ := reached.blockInv
  exact addRequest_resolved refInv inv reached.groupsArranged orderly succeeds isAdd success

end Runs

/-- A route with a resolved next hop. -/
def resolvedRun : List Change :=
  [.hosts [sampleHost 1],
   .request (resolvingRequest "10.0.1.0/24" [("1.1.1.1", some 1)] (accepting 0))]

/-- Another route takes over a group whose next hop is resolved already. -/
theorem routeResolved_resolvedRun :
    reusedGroup sampleEnv
        (Transition.run (change sampleEnv) (l3MgrCreate 0 []) resolvedRun)
        (resolvingRequest "10.0.2.0/24" [("1.1.1.1", some 1)] (accepting 10)) =
      some 0 ∧
    RouteResolved
      (step sampleEnv
        (Transition.run (change sampleEnv) (l3MgrCreate 0 []) resolvedRun)
        (resolvingRequest "10.0.2.0/24" [("1.1.1.1", some 1)] (accepting 10)))
      (resolvingRequest "10.0.2.0/24" [("1.1.1.1", some 1)] (accepting 10)).route := by
  have start : ReachedAmid sampleEnv Orderly (l3MgrCreate 0 []) :=
    .start ⟨0, [], rfl⟩
  have reached : ReachedAmid sampleEnv Orderly
      (Transition.run (change sampleEnv) (l3MgrCreate 0 []) resolvedRun) :=
    start.of_run ⟨trivial, ⟨⟨rfl, accepting_fresh (by decide)⟩, by decide⟩, trivial⟩
  have reuses : reusedGroup sampleEnv
      (Transition.run (change sampleEnv) (l3MgrCreate 0 []) resolvedRun)
      (resolvingRequest "10.0.2.0/24" [("1.1.1.1", some 1)] (accepting 10)) =
        some 0 := by
    decide
  refine ⟨reuses, (routeResolved_iff_reused reached
    ⟨⟨rfl, accepting_fresh (by decide)⟩, by decide⟩ (accepting_succeeds 10) rfl
    (by decide)).mpr ?_⟩
  intro ref isRef nh member resolved host known
  rw [reuses] at isRef
  cases isRef
  simp only [resolvingRequest, List.map_cons, List.map_nil,
    List.mem_singleton] at member
  subst member
  cases known
  refine ⟨by decide, ?_⟩
  intro entry entryMember _
  have isEntry : entry ∈ [_] := entryMember
  cases List.mem_singleton.mp isEntry
  exact ⟨_, rfl, rfl, rfl, rfl, rfl, rfl⟩

/-- A route with an unresolved next hop, and a host for it. -/
def unresolvedRun : List Change :=
  [.request (sampleRequest .add "10.0.1.0/24" ["1.1.1.1"] (accepting 0)),
   .hosts [sampleHost 1]]

/-- Another route takes over the group, and its resolved next hop is not written:
the slot keeps the zero address. -/
theorem not_routeResolved_unresolvedRun :
    (routeEntryAction sampleEnv
        (Transition.run (change sampleEnv) (l3MgrCreate 0 []) unresolvedRun)
        (resolvingRequest "10.0.2.0/24" [("1.1.1.1", some 1)] (accepting 10))).rc =
      none ∧
    ¬RouteResolved
      (step sampleEnv
        (Transition.run (change sampleEnv) (l3MgrCreate 0 []) unresolvedRun)
        (resolvingRequest "10.0.2.0/24" [("1.1.1.1", some 1)] (accepting 10)))
      (resolvingRequest "10.0.2.0/24" [("1.1.1.1", some 1)] (accepting 10)).route := by
  refine ⟨by decide, ?_⟩
  rintro ⟨ref, pointer, resolved⟩
  have isZero : ref = 0 := by
    have pointers₀ : pointers (step sampleEnv
        (Transition.run (change sampleEnv) (l3MgrCreate 0 []) unresolvedRun)
        (resolvingRequest "10.0.2.0/24" [("1.1.1.1", some 1)] (accepting 10)))
        "10.0.2.0/24" = some (some 0) := by
      decide
    have same := pointer.symm.trans pointers₀
    simpa using same
  subst isZero
  obtain ⟨_, carried⟩ := resolved _ (List.mem_singleton.mpr rfl) rfl (sampleHost 1) rfl
  obtain ⟨entry, slot, carries⟩ := carried _ (List.mem_singleton.mpr rfl) rfl
  cases slot
  exact absurd carries.macDa (by decide)

end Routing
end XpliantSwitchd
