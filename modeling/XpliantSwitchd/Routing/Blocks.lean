import XpliantSwitchd.Routing.Slots

/-!
# Life of the next-hop blocks

A block of hardware next-hop slots is created for a group before the group is
filled, and is destroyed when the group turns out not to be needed, when it
cannot be filled or programmed, and when its last reference goes.  The invariant
of this module accounts for every block that has been created and not yet
destroyed: it belongs to one published group or to the one group that a running
request is building.  Requests may name a next hop twice and every call of the
XDK may fail, except the update of a route.
-/

namespace XpliantSwitchd
namespace Routing

/-- A group keeps its next hops inside its block, which is not empty. -/
structure NhGroup.Housed (group : NhGroup) : Prop where
  laid : group.Laid
  fits : group.nhMap.length ≤ group.size
  inhabited : 0 < group.size

/-- ECMP over a route may select a slot of a block. -/
def XpRoute.PointsInto (route : XpRoute) (block : Block) : Prop :=
  ∃ slot, (route.nhId ≤ slot ∧ slot < route.nhId + route.nhEcmpSize) ∧
    block.2 ≤ slot ∧ slot < block.2 + block.1

/-- A destroy call names a block that exists, which the call therefore ends, and
no route points into it. -/
structure DestroyCall.Proper (call : DestroyCall) : Prop where
  once : call.outstanding.Nodup
  created : call.block ∈ call.outstanding
  unrouted : ∀ route ∈ call.routes, ¬route.PointsInto call.block

/-- The property that holds between requests. -/
structure BlocksConsistent (mgr : L3Mgr) : Prop where
  /-- The blocks of different groups do not overlap. -/
  apart : ∀ ref other group otherGroup, ref ≠ other →
    mgr.groups ref = some group → mgr.groups other = some otherGroup →
    Apart group.block otherGroup.block
  /-- The next hops of a group have different slots. -/
  slotsOnce : ∀ ref group, mgr.groups ref = some group →
    (group.nhMap.map (·.xpNhId)).Nodup
  /-- The slots of a group lie inside its block. -/
  slotsInside : ∀ ref group, mgr.groups ref = some group →
    ∀ nh ∈ group.nhMap,
      group.nhId ≤ nh.xpNhId ∧ nh.xpNhId < group.nhId + group.size
  /-- Every destroy call so far was proper. -/
  destroys : ∀ call ∈ mgr.hw.destroyed, call.Proper
  /-- No block is outstanding twice. -/
  outstandingOnce : mgr.hw.blocks.Nodup
  /-- The outstanding blocks are those of the groups that routes reference. -/
  referenced : ∀ block, block ∈ mgr.hw.blocks ↔
    ∃ route ∈ mgr.routeMap, ∃ ref group, route.nhGroup = some ref ∧
      mgr.groups ref = some group ∧ group.block = block

/-- The blocks of the published groups. -/
def publishedBlocks (mgr : L3Mgr) : List Block :=
  mgr.nhGroupMap.map fun ref => (deref mgr ref).block

/-- The invariant inside a request.  `pending` is the block of a group that has
been allocated and not yet published. -/
structure BlockInv (mgr : L3Mgr) (pending : Option Block) : Prop where
  housed : ∀ ref group, mgr.groups ref = some group → group.Housed
  apart : mgr.hw.blocks.Pairwise Apart
  owned : mgr.hw.blocks.Perm (pending.toList ++ publishedBlocks mgr)
  positive : ∀ block, pending = some block → 0 < block.1
  reflects : ∀ route ∈ mgr.routeMap, route.Reflects mgr
  destroys : ∀ call ∈ mgr.hw.destroyed, call.Proper

/-! ## Ownership of blocks -/

section Ownership

variable {mgr : L3Mgr} {pending : Option Block} {locked : Option String}
  {held : GroupRef → Nat}

theorem BlockInv.ownedApart (inv : BlockInv mgr pending) :
    (pending.toList ++ publishedBlocks mgr).Pairwise Apart :=
  (inv.owned.pairwise_iff Apart.symm).mp inv.apart

/-- The block under construction is apart from the published ones. -/
theorem BlockInv.apart_pending
    {block : Block} {ref : GroupRef}
    (inv : BlockInv mgr (some block))
    (published : ref ∈ mgr.nhGroupMap) :
    Apart block (deref mgr ref).block := by
  have separate := (List.pairwise_cons.mp inv.ownedApart).1
  exact separate _ (List.mem_map.mpr ⟨ref, published, rfl⟩)

/-- The blocks of two published groups are apart. -/
theorem BlockInv.apart_published
    {ref other : GroupRef}
    (inv : BlockInv mgr pending)
    (published : ref ∈ mgr.nhGroupMap)
    (otherPublished : other ∈ mgr.nhGroupMap)
    (different : ref ≠ other) :
    Apart (deref mgr ref).block (deref mgr other).block := by
  have separate := (List.pairwise_append.mp inv.ownedApart).2.1
  rw [publishedBlocks, List.pairwise_map] at separate
  have symmetric : Std.Symm fun first second : GroupRef =>
      Apart (deref mgr first).block (deref mgr second).block :=
    ⟨fun _ _ => Apart.symm⟩
  exact separate.forall published otherPublished different

theorem BlockInv.positive_of_outstanding
    {block : Block}
    (inv : BlockInv mgr pending)
    (refInv : RefInv mgr locked held)
    (outstanding : block ∈ mgr.hw.blocks) : 0 < block.1 := by
  rcases List.mem_append.mp (inv.owned.mem_iff.mp outstanding) with
    isPending | isPublished
  · exact inv.positive block (Option.mem_toList.mp isPending)
  · obtain ⟨ref, published, rfl⟩ := List.mem_map.mp isPublished
    exact (inv.housed ref _ (refInv.live_of_published published)).inhabited

/-- Blocks that are apart and not empty are different. -/
theorem BlockInv.outstandingOnce
    (inv : BlockInv mgr pending)
    (refInv : RefInv mgr locked held) : mgr.hw.blocks.Nodup := by
  refine inv.apart.imp_of_mem ?_
  rintro first second firstMember secondMember apart rfl
  have positive := inv.positive_of_outstanding refInv firstMember
  unfold Apart at apart
  omega

/-- The destroy call for a block is proper when the routes use other blocks. -/
theorem BlockInv.proper
    {block : Block}
    (inv : BlockInv mgr pending)
    (refInv : RefInv mgr locked held)
    (outstanding : block ∈ mgr.hw.blocks)
    (elsewhere : ∀ route ∈ mgr.routeMap, ∀ ref, route.nhGroup = some ref →
      Apart (deref mgr ref).block block) :
    DestroyCall.Proper
      { block := block
        outstanding := mgr.hw.blocks
        routes := mgr.routeMap.map (·.xpRoute) } where
  once := inv.outstandingOnce refInv
  created := outstanding
  unrouted := by
    intro hwRoute member
    obtain ⟨route, routeMember, rfl⟩ := List.mem_map.mp member
    rintro ⟨slot, ⟨above, below⟩, inside⟩
    simp only at inside
    obtain ⟨size, base⟩ := inv.reflects route routeMember
    rw [size, base] at below
    rw [base] at above
    cases pointer : route.nhGroup with
    | none =>
        simp only [pointer, pointerSize, pointerBase, Option.map_none,
          Option.getD_none] at below
        omega
    | some ref =>
        have apart := elsewhere route routeMember ref pointer
        simp only [pointer, pointerSize, pointerBase, Option.map_some,
          Option.getD_some] at above below
        simp only [Apart, NhGroup.block] at apart
        omega

end Ownership

/-! ## Primitives -/

section Primitives

variable {mgr mgr' : L3Mgr} {pending : Option Block} {locked : Option String}
  {held : GroupRef → Nat}

/-- The contents of slots do not matter. -/
theorem BlockInv.withSlots
    (inv : BlockInv mgr pending)
    (slots : Nat → Option (String × L3NextHopEntry)) :
    BlockInv { mgr with hw := { mgr.hw with slots := slots } } pending :=
  ⟨inv.housed, inv.apart, inv.owned, inv.positive, inv.reflects, inv.destroys⟩

theorem BlockInv.set
    {xdk : Outcome} {entries : List NhEntry} {hw : NextHopTable}
    {success : Bool}
    (inv : BlockInv mgr pending)
    (programmed : setNextHops xdk mgr.hw entries = (hw, success)) :
    BlockInv { mgr with hw := hw } pending := by
  obtain ⟨slots, equation⟩ := setNextHops_onlySlots xdk mgr.hw entries
  rw [programmed] at equation
  simp only at equation
  rw [equation]
  exact inv.withSlots slots

theorem BlockInv.clear
    (inv : BlockInv mgr pending) (xdk : Outcome) (entries : List NhEntry) :
    BlockInv { mgr with hw := clearNextHops xdk mgr.hw entries } pending := by
  obtain ⟨slots, equation⟩ := clearNextHops_onlySlots xdk mgr.hw entries
  rw [equation]
  exact inv.withSlots slots

/-- Changes of the routes that keep them true to their groups. -/
theorem BlockInv.withRoutes
    (inv : BlockInv mgr pending) {routes : List RouteEntry}
    (reflects : ∀ route ∈ routes, route.Reflects mgr) :
    BlockInv { mgr with routeMap := routes } pending :=
  ⟨inv.housed, inv.apart, inv.owned, inv.positive, reflects, inv.destroys⟩

/-- Writing back a live group that keeps its block. -/
theorem BlockInv.store
    {ref : GroupRef} {group old : NhGroup}
    (inv : BlockInv mgr pending)
    (live : mgr.groups ref = some old)
    (housed : group.Housed)
    (sameBlock : group.block = old.block) :
    BlockInv (store mgr ref (some group)) pending := by
  have blocks : ∀ other,
      (deref (Routing.store mgr ref (some group)) other).block =
        (deref mgr other).block := by
    intro other
    by_cases equal : other = ref
    · subst equal
      simp [deref, Routing.store, live, sameBlock]
    · simp [deref, Routing.store, Function.update_of_ne equal]
  refine ⟨?_, inv.apart, ?_, inv.positive, ?_, inv.destroys⟩
  · intro other current currentLive
    by_cases equal : other = ref
    · subst equal
      have isGroup : group = current := by
        simpa [Routing.store] using currentLive
      exact isGroup ▸ housed
    · exact inv.housed other current (by
        simpa [Routing.store, Function.update_of_ne equal] using currentLive)
  · have same : publishedBlocks (Routing.store mgr ref (some group)) =
        publishedBlocks mgr :=
      List.map_congr_left fun other _ => blocks other
    rw [same]
    exact inv.owned
  · intro route member
    exact (inv.reflects route member).of_block fun other _ => blocks other

/-- A new block is created for the request. -/
theorem BlockInv.alloc
    {env : Env} {xdk : Outcome} {size : Nat} {empty : NhGroup}
    (inv : BlockInv mgr none)
    (positive : 0 < size)
    (fresh : FreshBlocks mgr xdk)
    (allocated : nhGroupAlloc env xdk mgr size = (some empty, mgr')) :
    BlockInv mgr' (some (size, empty.nhId)) := by
  obtain ⟨_, created, _, rfl⟩ := nhGroupAlloc_some allocated
  refine ⟨inv.housed, ?_, inv.owned.cons _, ?_, inv.reflects, inv.destroys⟩
  · exact List.pairwise_cons.mpr ⟨fresh size empty.nhId created, inv.apart⟩
  · intro block isPending
    cases isPending
    exact positive

/-- The block of a group that was not published is destroyed. -/
theorem BlockInv.free
    {group : NhGroup}
    (inv : BlockInv mgr (some group.block))
    (refInv : RefInv mgr locked held) :
    BlockInv (nhGroupFree mgr group none) none := by
  have outstanding : group.block ∈ mgr.hw.blocks :=
    inv.owned.mem_iff.mpr (List.mem_cons_self ..)
  have proper := inv.proper refInv outstanding (by
    intro route member ref points
    exact (inv.apart_pending (refInv.pointsPublished route member ref points)).symm)
  refine ⟨inv.housed, inv.apart.sublist List.erase_sublist, ?_, by simp,
    inv.reflects, ?_⟩
  · have left := inv.owned.erase group.block
    simp only [Option.toList_some, List.singleton_append,
      List.erase_cons_head] at left
    exact left
  · intro call member
    rcases List.mem_cons.mp member with rfl | earlier
    · exact proper
    · exact inv.destroys call earlier

theorem BlockInv.deleteUnpublished
    {group : NhGroup}
    (inv : BlockInv mgr (some group.block))
    (refInv : RefInv mgr locked held)
    (xdk : Outcome) :
    BlockInv (nhGroupDelete xdk mgr group none) none :=
  (inv.clear xdk _).free (refInv.withHw _)

/-- The group under construction is published with its block. -/
theorem BlockInv.publish
    {group : NhGroup}
    (inv : BlockInv mgr (some group.block))
    (refInv : RefInv mgr locked held)
    (housed : group.Housed) :
    BlockInv (publish mgr group) none := by
  have older : ∀ ref ∈ mgr.nhGroupMap,
      (deref (Routing.publish mgr group) ref).block = (deref mgr ref).block := by
    intro ref published
    have different : ref ≠ mgr.nextRef :=
      Nat.ne_of_lt (refInv.below_of_published published)
    simp [deref, Routing.publish, Function.update_of_ne different]
  refine ⟨?_, inv.apart, ?_, by simp, ?_, inv.destroys⟩
  · intro ref current live
    by_cases equal : ref = mgr.nextRef
    · subst equal
      have same : group = current := by simpa [Routing.publish] using live
      exact same ▸ housed
    · exact inv.housed ref current (by
        simpa [Routing.publish, Function.update_of_ne equal] using live)
  · have blocks : publishedBlocks (Routing.publish mgr group) =
        group.block :: publishedBlocks mgr := by
      have newest : (deref (Routing.publish mgr group) mgr.nextRef).block =
          group.block := by
        simp [deref, Routing.publish]
      exact congrArg₂ List.cons newest (List.map_congr_left older)
    rw [blocks]
    exact inv.owned
  · intro route member
    refine (inv.reflects route member).of_block ?_
    intro ref points
    exact older ref (refInv.pointsPublished route member ref points)

/-- Deleting a published group that no route points to. -/
theorem BlockInv.delete
    {ref : GroupRef} {group : NhGroup}
    (inv : BlockInv mgr none)
    (refInv : RefInv mgr locked held)
    (published : ref ∈ mgr.nhGroupMap)
    (sameBlock : group.block = (deref mgr ref).block)
    (unrouted : routeRefs mgr ref = 0)
    (xdk : Outcome) :
    BlockInv (nhGroupDelete xdk mgr group (some ref)) none := by
  obtain ⟨slots, cleared⟩ := clearNextHops_onlySlots xdk mgr.hw
    (xdk.nhOrder.visit group.nhMap)
  have kept : ∀ other, other ≠ ref →
      deref (nhGroupDelete xdk mgr group (some ref)) other =
        deref mgr other := by
    intro other different
    simp [deref, nhGroupDelete, nhGroupFree, Routing.store,
      Function.update_of_ne different]
  have elsewhere : ∀ route ∈ mgr.routeMap, route.nhGroup ≠ some ref := by
    intro route member points
    have notCounted := List.countP_eq_zero.mp unrouted route member
    simp [points] at notCounted
  have split : (publishedBlocks mgr).Perm (group.block ::
      publishedBlocks (nhGroupDelete xdk mgr group (some ref))) := by
    have moved := (List.perm_cons_erase published).map
      fun other => (deref mgr other).block
    have rest : publishedBlocks (nhGroupDelete xdk mgr group (some ref)) =
        (mgr.nhGroupMap.erase ref).map fun other => (deref mgr other).block := by
      refine List.map_congr_left fun other member => ?_
      have inRest : other ∈ mgr.nhGroupMap.erase ref := member
      rw [kept other (refInv.publishedOnce.mem_erase_iff.mp inRest).1]
    rw [rest, sameBlock]
    exact moved
  have owned : mgr.hw.blocks.Perm (group.block ::
      publishedBlocks (nhGroupDelete xdk mgr group (some ref))) :=
    inv.owned.trans split
  have proper := inv.proper refInv
    (owned.mem_iff.mpr (List.mem_cons_self ..)) (by
      intro route member other points
      have different : other ≠ ref := by
        rintro rfl
        exact elsewhere route member points
      rw [sameBlock]
      exact inv.apart_published
        (refInv.pointsPublished route member other points) published different)
  have blocks : (nhGroupDelete xdk mgr group (some ref)).hw.blocks =
      mgr.hw.blocks.erase group.block := by
    simp only [nhGroupDelete, nhGroupFree, cleared]
    rfl
  have destroyed : (nhGroupDelete xdk mgr group (some ref)).hw.destroyed =
      { block := group.block
        outstanding := mgr.hw.blocks
        routes := mgr.routeMap.map (·.xpRoute) } :: mgr.hw.destroyed := by
    simp only [nhGroupDelete, nhGroupFree, cleared]
    rfl
  refine ⟨?_, ?_, ?_, by simp, ?_, ?_⟩
  · intro other current live
    have different : other ≠ ref := by
      rintro rfl
      simp [nhGroupDelete, nhGroupFree, Routing.store] at live
    exact inv.housed other current (by
      simpa [nhGroupDelete, nhGroupFree, Routing.store,
        Function.update_of_ne different] using live)
  · rw [blocks]
    exact inv.apart.sublist List.erase_sublist
  · rw [blocks]
    have left := owned.erase group.block
    rw [List.erase_cons_head] at left
    exact left
  · intro route member
    refine (inv.reflects route member).of_block ?_
    intro other points
    have different : other ≠ ref := by
      rintro rfl
      exact elsewhere route member points
    rw [kept other different]
  · rw [destroyed]
    intro call member
    rcases List.mem_cons.mp member with rfl | earlier
    · exact proper
    · exact inv.destroys call earlier

/-- A change of the reference count keeps a group where it is. -/
theorem BlockInv.recount
    {ref : GroupRef}
    (inv : BlockInv mgr pending)
    (refInv : RefInv mgr locked held)
    (published : ref ∈ mgr.nhGroupMap)
    (count : Nat) :
    BlockInv (Routing.store mgr ref
      (some { deref mgr ref with refCnt := count })) pending := by
  have live := refInv.live_of_published published
  have housed := inv.housed ref _ live
  exact inv.store live ⟨housed.laid, housed.fits, housed.inhabited⟩ rfl

theorem BlockInv.unref
    {pointer : Option GroupRef}
    (inv : BlockInv mgr none)
    (refInv : RefInv mgr locked (hold held pointer))
    (published : ∀ ref, pointer = some ref → ref ∈ mgr.nhGroupMap)
    (xdk : Outcome) :
    BlockInv (nhGroupUnref xdk mgr pointer) none := by
  cases pointer with
  | none => exact inv
  | some ref =>
      have inMap := published ref rfl
      obtain ⟨count, _⟩ := refInv.counted ref _ (refInv.live_of_published inMap)
      simp only [hold, if_true] at count
      simp only [nhGroupUnref]
      split
      · have unrouted : routeRefs mgr ref = 0 := by omega
        exact inv.delete refInv inMap rfl unrouted xdk
      · exact inv.recount refInv inMap _

/-- Selecting a group settles the pending block. -/
theorem BlockInv.select
    {xdk : Outcome} {group : NhGroup} {result : Option GroupRef}
    (inv : BlockInv mgr (some group.block))
    (refInv : RefInv mgr locked fun _ => 0)
    (housed : group.Housed)
    (selected : selectGroup xdk mgr group = (result, mgr')) :
    BlockInv mgr' none := by
  rcases selectGroup_cases xdk mgr group with
    ⟨found, lookup, equation⟩ | ⟨hw, _, programmed, equation⟩ |
    ⟨hw, _, programmed, equation⟩
  · rw [equation] at selected
    cases selected
    have published := nhGroupLookupByGroup_published lookup
    exact (inv.recount refInv published _).free (refInv.ref published)
  · rw [equation] at selected
    cases selected
    exact (inv.set programmed).publish (refInv.withHw hw) housed
  · rw [equation] at selected
    cases selected
    exact (inv.set programmed).deleteUnpublished (refInv.withHw hw) xdk

/-- A committed route carries the size and base of its new group before the old
one is released. -/
theorem BlockInv.commit
    {xdk : Outcome} {new : Option GroupRef} {route : RouteEntry}
    (updates : xdk.updateIpRouteEntry = true)
    (inv : BlockInv mgr none)
    (refInv : RefInv mgr locked (hold (fun _ => 0) new))
    (published : ∀ ref, new = some ref → ref ∈ mgr.nhGroupMap)
    (member : route ∈ mgr.routeMap)
    (failure : Errno) :
    BlockInv (commitGroup xdk mgr route.ipPrefix route.nhGroup new failure).2
      none := by
  rw [commitGroup_success updates]
  refine BlockInv.unref ?_ (refInv.pointed published member) ?_ xdk
  · exact inv.withRoutes (reflects_committed inv.reflects new route.ipPrefix)
  · intro ref points
    exact refInv.pointsPublished route member ref points

end Primitives

/-! ## Room in a block

A group is allocated with room for every next hop that can be inserted, also
when a request names one twice, so that the size field never grows past the
block.
-/

theorem nhGroupUpdate_room
    (env : Env) (xdk : Outcome) (hosts : List HostEntry) {group : NhGroup}
    (requests : List RouteNexthop)
    (laid : group.Laid)
    (room : group.nhMap.length + requests.length ≤ group.size) :
    let updated := (nhGroupUpdate env xdk hosts group requests).1
    updated.Laid ∧ updated.nhMap.length ≤ group.size ∧
      updated.size = group.size := by
  induction requests generalizing group with
  | nil => exact ⟨laid, by simpa [nhGroupUpdate] using room, rfl⟩
  | cons request requests inductionHypothesis =>
      simp only [List.length_cons] at room
      cases found : nhLookup xdk group request.id with
      | none =>
          cases created : nhCreate env hosts request with
          | none =>
              simp only [nhGroupUpdate, found, created]
              exact ⟨laid, by omega, trivial⟩
          | some nh =>
              have sameSize : (nhInsert env group nh).size = group.size := by
                rw [nhInsert_size]
                omega
              have rest := inductionHypothesis (nhInsert_laid env group nh laid)
                (by
                  rw [nhInsert_length, sameSize]
                  omega)
              simpa [nhGroupUpdate, found, created, sameSize] using rest
      | some nh =>
          cases result : nhUpdate hosts nh request with
          | error errno =>
              simp only [nhGroupUpdate, found, result]
              exact ⟨laid, by omega, trivial⟩
          | ok replacement =>
              have rest := inductionHypothesis (replace_laid laid replacement)
                (by
                  rw [replace_length, replace_size]
                  omega)
              simpa [nhGroupUpdate, found, result] using rest

theorem nhGroupFill_room
    (env : Env) (hosts : List HostEntry) {group : NhGroup}
    (requests : List RouteNexthop)
    (laid : group.Laid)
    (room : group.nhMap.length + requests.length ≤ group.size) :
    let filled := (nhGroupFill env hosts group requests).1
    filled.Laid ∧ filled.nhMap.length ≤ group.size ∧
      filled.size = group.size := by
  induction requests generalizing group with
  | nil => exact ⟨laid, by simpa [nhGroupFill] using room, rfl⟩
  | cons request requests inductionHypothesis =>
      simp only [List.length_cons] at room
      cases created : nhCreate env hosts request with
      | none =>
          simp only [nhGroupFill, created]
          exact ⟨laid, by omega, trivial⟩
      | some nh =>
          have sameSize : (nhInsert env group nh).size = group.size := by
            rw [nhInsert_size]
            omega
          have rest := inductionHypothesis (nhInsert_laid env group nh laid)
            (by
              rw [nhInsert_length, sameSize]
              omega)
          simpa [nhGroupFill, created, sameSize] using rest

section Requests

variable {env : Env} {xdk : Outcome} {mgr mgr₁ : L3Mgr} {size : Nat}
  {empty group : NhGroup}

theorem nhGroupAlloc_empty
    (allocated : nhGroupAlloc env xdk mgr size = (some empty, mgr₁)) :
    empty.nhMap = [] ∧ empty.Laid ∧ empty.size = size ∧
      mgr₁.hostIdMap = mgr.hostIdMap := by
  obtain ⟨_, _, shape, state⟩ := nhGroupAlloc_some allocated
  rw [shape, state]
  exact ⟨rfl, rfl, rfl, rfl⟩

/-- The group built by `route_add` keeps the block created for it. -/
theorem nhGroupFill_housed
    {request : OfprotoRoute} {rc : Option Errno}
    (asks : request.nexthops ≠ [])
    (allocated : nhGroupAlloc env xdk mgr request.nexthops.length =
      (some empty, mgr₁))
    (filled : nhGroupFill env mgr.hostIdMap empty request.nexthops =
      (group, rc)) :
    group.Housed ∧ group.block = (request.nexthops.length, empty.nhId) := by
  obtain ⟨noHops, laid, emptySize, _⟩ := nhGroupAlloc_empty allocated
  have positive := List.length_pos_of_ne_nil asks
  have room := nhGroupFill_room env mgr.hostIdMap request.nexthops laid
    (by simp [noHops, emptySize])
  have keeps := (nhGroupFill_keeps env mgr.hostIdMap empty request.nexthops).2
  rw [filled] at room keeps
  obtain ⟨groupLaid, length, groupSize⟩ := room
  simp only at groupLaid length groupSize keeps
  refine ⟨⟨groupLaid, by omega, by omega⟩, ?_⟩
  rw [NhGroup.block, groupSize, emptySize, keeps]

/-- The group built by `route_update` keeps the block created for it. -/
theorem mergedGroup_housed
    {request : OfprotoRoute} {pointer : Option GroupRef} {rc : Option Errno}
    (oldHoused : ∀ ref, pointer = some ref → (deref mgr ref).Housed)
    (asks : request.nexthops ≠ [])
    (allocated : nhGroupAlloc env xdk mgr (request.nexthops.length +
        ((pointer.map (deref mgr)).map (·.size)).getD 0) = (some empty, mgr₁))
    (merged : mergedGroup env xdk mgr.hostIdMap empty (pointer.map (deref mgr))
      request.nexthops = (group, rc)) :
    group.Housed ∧ group.block = (request.nexthops.length +
      ((pointer.map (deref mgr)).map (·.size)).getD 0, empty.nhId) := by
  obtain ⟨noHops, laid, emptySize, _⟩ := nhGroupAlloc_empty allocated
  have positive := List.length_pos_of_ne_nil asks
  generalize copied : (((pointer.map (deref mgr)).map fun group =>
    xdk.nhOrder.visit group.nhMap).getD []) = copies at *
  have copiesFit : copies.length ≤
      ((pointer.map (deref mgr)).map (·.size)).getD 0 := by
    rw [← copied]
    cases pointer with
    | none => simp
    | some ref => simpa using (oldHoused ref rfl).fits
  have sameSize := @nhInsertAll_size env empty copies (by
    simp only [noHops, List.length_nil]
    omega)
  have length := nhInsertAll_length env empty copies
  have room := nhGroupUpdate_room env xdk mgr.hostIdMap request.nexthops
    (nhInsertAll_laid env laid copies) (by
      rw [length, sameSize, noHops, List.length_nil]
      omega)
  have base := mergedGroup_nhId merged
  unfold mergedGroup at merged
  rw [copied] at merged
  rw [merged] at room
  obtain ⟨groupLaid, groupLength, groupSize⟩ := room
  simp only at groupLaid groupLength groupSize
  refine ⟨⟨groupLaid, by omega, by omega⟩, ?_⟩
  rw [NhGroup.block, groupSize, sameSize, emptySize, base]

/-- The group built by `delete_nh_entry` keeps the block created for it. -/
theorem remainingGroup_housed
    {request : OfprotoRoute} {ref : GroupRef}
    (oldHoused : (deref mgr ref).Housed)
    (left : (deref mgr ref).size > listedCount xdk request (deref mgr ref))
    (allocated : nhGroupAlloc env xdk mgr ((deref mgr ref).size -
      listedCount xdk request (deref mgr ref)) = (some empty, mgr₁)) :
    (remainingGroup env xdk request empty (deref mgr ref)).Housed ∧
      (remainingGroup env xdk request empty (deref mgr ref)).block =
        ((deref mgr ref).size - listedCount xdk request (deref mgr ref),
          empty.nhId) := by
  obtain ⟨noHops, laid, emptySize, _⟩ := nhGroupAlloc_empty allocated
  have fits := oldHoused.fits
  have keptLength := length_unlisted xdk request (deref mgr ref)
  unfold remainingGroup
  generalize (xdk.nhOrder.visit (deref mgr ref).nhMap).filter
    (!isListed request ·) = kept at keptLength
  have sameSize := @nhInsertAll_size env empty kept (by
    simp only [noHops, List.length_nil]
    omega)
  have length := nhInsertAll_length env empty kept
  rw [noHops, List.length_nil] at length
  refine ⟨⟨nhInsertAll_laid env laid kept, by omega, by omega⟩, ?_⟩
  rw [NhGroup.block, sameSize, emptySize, nhInsertAll_nhId]

/-! ## Requests -/

theorem NhGroup.Housed.of_content {other : NhGroup}
    (housed : group.Housed)
    (same : other.content = group.content) : other.Housed where
  laid := by
    obtain ⟨_, slots, nhId, _, _⟩ := NhGroup.content_eq.mp same
    rw [NhGroup.Laid, slots, NhGroup.length_of_content same, nhId]
    exact housed.laid
  fits := by
    rw [NhGroup.length_of_content same, (NhGroup.content_eq.mp same).2.2.2.1]
    exact housed.fits
  inhabited := by
    rw [(NhGroup.content_eq.mp same).2.2.2.1]
    exact housed.inhabited

/-- Creation, selection and commit of a new group, one after the other. -/
theorem BlockInv.regroup
    {locked : Option String} {mgr₂ : L3Mgr} {ref : GroupRef} {route : RouteEntry}
    (updates : xdk.updateIpRouteEntry = true)
    (refInv : RefInv mgr locked fun _ => 0)
    (pending : BlockInv mgr₁ (some group.block))
    (allocated : nhGroupAlloc env xdk mgr size = (some empty, mgr₁))
    (once : group.refCnt = 1)
    (housed : group.Housed)
    (chosen : selectGroup xdk mgr₁ group = (some ref, mgr₂))
    (member : route ∈ mgr.routeMap)
    (failure : Errno) :
    BlockInv (commitGroup xdk mgr₂ route.ipPrefix route.nhGroup (some ref)
      failure).2 none := by
  have refInv₁ := refInv.alloc allocated
  have selected := pending.select refInv₁ housed chosen
  obtain ⟨held, inMap, sameRoutes, _⟩ := refInv₁.select once chosen
  have stillMember : route ∈ mgr₂.routeMap := by
    rw [sameRoutes, (nhGroupAlloc_some allocated).2.2.2]
    exact member
  refine selected.commit updates held ?_ stillMember _
  intro other equal
  cases equal
  exact inMap

/-- `route_update` accounts for its blocks. -/
theorem BlockInv.routeUpdate
    {locked : Option String} {request : OfprotoRoute} {route current : RouteEntry}
    (updates : xdk.updateIpRouteEntry = true)
    (fresh : FreshBlocks mgr xdk)
    (inv : BlockInv mgr none)
    (refInv : RefInv mgr locked fun _ => 0)
    (asks : request.nexthops ≠ [])
    (member : current ∈ mgr.routeMap)
    (samePrefix : current.ipPrefix = route.ipPrefix)
    (sameGroup : current.nhGroup = route.nhGroup) :
    BlockInv (Routing.routeUpdate env xdk mgr request route).2 none := by
  have live : ∀ ref, route.nhGroup = some ref →
      mgr.groups ref = some (deref mgr ref) := by
    intro ref pointer
    exact refInv.live_of_published
      (refInv.pointsPublished current member ref (sameGroup.trans pointer))
  have oldHoused : ∀ ref, route.nhGroup = some ref → (deref mgr ref).Housed := by
    intro ref pointer
    exact inv.housed ref _ (live ref pointer)
  have positive : ∀ extra, 0 < request.nexthops.length + extra := by
    intro extra
    have asked := List.length_pos_of_ne_nil asks
    omega
  have stored : ∀ ref group rc, route.nhGroup = some ref →
      needsNewGroup xdk (route.nhGroup.map (deref mgr)) request.nexthops =
        false →
      nhGroupUpdate env xdk mgr.hostIdMap (deref mgr ref) request.nexthops =
        (group, rc) →
      BlockInv (Routing.store mgr ref (some group)) none := by
    intro ref group rc pointer sufficient updated
    rw [pointer] at sufficient
    have content := nhGroupUpdate_content (oldHoused ref pointer).laid
      (known_of_needsNewGroup sufficient) updated
    exact inv.store (live ref pointer) ((oldHoused ref pointer).of_content content)
      (NhGroup.block_of_content content)
  generalize result : Routing.routeUpdate env xdk mgr request route = outcome
  have shape := routeUpdate_outcome env xdk mgr request route
  rw [result] at shape
  cases shape with
  | noMemory => exact inv
  | unreachable allocated merged =>
      obtain ⟨_, block⟩ := mergedGroup_housed oldHoused asks allocated merged
      have pending := inv.alloc (positive _) fresh allocated
      rw [← block] at pending
      exact pending.free (refInv.alloc allocated)
  | notProgrammed allocated chosen merged =>
      obtain ⟨housed, block⟩ := mergedGroup_housed oldHoused asks allocated merged
      have pending := inv.alloc (positive _) fresh allocated
      rw [← block] at pending
      exact pending.select (refInv.alloc allocated) housed chosen
  | stopped sufficient pointer updated =>
      exact stored _ _ _ pointer sufficient updated
  | inPlace sufficient pointer updated programmed =>
      exact (stored _ _ _ pointer sufficient updated).set programmed
  | noGroup => exact inv
  | regrouped _ allocated merged chosen =>
      obtain ⟨housed, block⟩ := mergedGroup_housed oldHoused asks allocated merged
      have pending := inv.alloc (positive _) fresh allocated
      rw [← block] at pending
      rw [← samePrefix, ← sameGroup]
      refine pending.regroup updates refInv allocated ?_ housed chosen member _
      rw [mergedGroup_refCnt merged, (nhGroupAlloc_some allocated).2.2.1]

/-- `delete_nh_entry` accounts for its blocks. -/
theorem BlockInv.deleteNhFrom
    {locked : Option String} {request : OfprotoRoute} {route : RouteEntry}
    {ref : GroupRef}
    (updates : xdk.updateIpRouteEntry = true)
    (fresh : FreshBlocks mgr xdk)
    (inv : BlockInv mgr none)
    (refInv : RefInv mgr locked fun _ => 0)
    (member : route ∈ mgr.routeMap)
    (samePrefix : route.ipPrefix = request.ipPrefix)
    (pointer : route.nhGroup = some ref) :
    BlockInv (Routing.deleteNhFrom env xdk mgr request ref).2 none := by
  have oldHoused := inv.housed ref _
    (refInv.live_of_published (refInv.pointsPublished route member ref pointer))
  generalize result : Routing.deleteNhFrom env xdk mgr request ref = outcome
  have shape := deleteNhFrom_outcome env xdk mgr request ref
  rw [result] at shape
  cases shape with
  | noMemory => exact inv
  | notProgrammed allocated chosen left =>
      obtain ⟨housed, block⟩ := remainingGroup_housed oldHoused left allocated
      have pending := inv.alloc (Nat.sub_pos_of_lt left) fresh allocated
      rw [← block] at pending
      exact pending.select (refInv.alloc allocated) housed chosen
  | emptied =>
      have unheld : RefInv mgr locked (hold (fun _ => 0) none) := by
        rwa [hold_none]
      rw [← samePrefix, ← pointer]
      refine inv.commit updates unheld ?_ member _
      intro other equal
      cases equal
  | regrouped left allocated chosen =>
      obtain ⟨housed, block⟩ := remainingGroup_housed oldHoused left allocated
      have pending := inv.alloc (Nat.sub_pos_of_lt left) fresh allocated
      rw [← block] at pending
      rw [← samePrefix, ← pointer]
      refine pending.regroup updates refInv allocated ?_ housed chosen member _
      rw [remainingGroup, nhInsertAll_refCnt, (nhGroupAlloc_some allocated).2.2.1]

theorem BlockInv.acquire
    {mgr' : L3Mgr} {request : OfprotoRoute} {ref : GroupRef}
    (fresh : FreshBlocks mgr xdk)
    (inv : BlockInv mgr none)
    (refInv : RefInv mgr none fun _ => 0)
    (asks : request.nexthops ≠ [])
    (acquired : Acquired env xdk mgr request ref mgr') :
    BlockInv mgr' none := by
  cases acquired with
  | reused found =>
      exact inv.recount refInv (xdk.groupOrder.of_find?_visit found).1 _
  | built allocated filled programmed =>
      obtain ⟨housed, block⟩ := nhGroupFill_housed asks allocated filled
      have pending :=
        inv.alloc (List.length_pos_of_ne_nil asks) fresh allocated
      rw [← block] at pending
      exact (pending.set programmed).publish ((refInv.alloc allocated).withHw _)
        housed

/-- `route_add` accounts for its blocks. -/
theorem BlockInv.routeAdd
    {request : OfprotoRoute}
    (fresh : FreshBlocks mgr xdk)
    (inv : BlockInv mgr none)
    (refInv : RefInv mgr none fun _ => 0)
    (asks : request.nexthops ≠ []) :
    BlockInv (Routing.routeAdd env xdk mgr request).2 none := by
  generalize result : Routing.routeAdd env xdk mgr request = outcome
  have shape := routeAdd_outcome env xdk mgr request
  rw [result] at shape
  cases shape with
  | noMemory => exact inv
  | unreachable allocated filled =>
      obtain ⟨_, block⟩ := nhGroupFill_housed asks allocated filled
      have pending :=
        inv.alloc (List.length_pos_of_ne_nil asks) fresh allocated
      rw [← block] at pending
      exact pending.free (refInv.alloc allocated)
  | notProgrammed allocated programmed filled =>
      obtain ⟨_, block⟩ := nhGroupFill_housed asks allocated filled
      have pending :=
        inv.alloc (List.length_pos_of_ne_nil asks) fresh allocated
      rw [← block] at pending
      exact (pending.set programmed).deleteUnpublished
        ((refInv.alloc allocated).withHw _) xdk
  | refused acquired =>
      obtain ⟨held, published, _⟩ := refInv.acquire acquired
      refine (inv.acquire fresh refInv asks acquired).unref held ?_ xdk
      intro other equal
      cases equal
      exact published
  | added acquired =>
      have acquiredInv := inv.acquire fresh refInv asks acquired
      refine acquiredInv.withRoutes ?_
      intro route member
      rcases List.mem_cons.mp member with rfl | older
      · exact ⟨rfl, rfl⟩
      · exact acquiredInv.reflects route older

theorem BlockInv.modifyRoute
    (inv : BlockInv mgr none) (ipPrefix : String)
    {change : RouteEntry → RouteEntry}
    (keepsHw : ∀ route, (change route).xpRoute = route.xpRoute)
    (keepsGroup : ∀ route, (change route).nhGroup = route.nhGroup) :
    BlockInv (Routing.modifyRoute mgr ipPrefix change) none :=
  inv.withRoutes (reflects_modified inv.reflects ipPrefix keepsHw keepsGroup)

theorem BlockInv.lookup
    (inv : BlockInv mgr none) (ipPrefix : String) :
    BlockInv (routeLookup mgr ipPrefix).2 none := by
  unfold routeLookup
  cases findRoute mgr ipPrefix with
  | none => exact inv
  | some route => exact inv.modifyRoute _ (by intro _; rfl) (by intro _; rfl)

theorem BlockInv.routeUnref
    {locked : Option String} {ipPrefix : String}
    (inv : BlockInv mgr none)
    (refInv : RefInv mgr locked fun _ => 0) :
    BlockInv (Routing.routeUnref xdk mgr ipPrefix) none := by
  unfold Routing.routeUnref
  cases found : findRoute mgr ipPrefix with
  | none => exact inv
  | some route =>
      have member := List.mem_of_find?_eq_some found
      simp only
      split
      · have removed : BlockInv (removeRoute mgr route.ipPrefix) none := by
          refine inv.withRoutes ?_
          intro other otherMember
          exact inv.reflects other (KeyedList.mem_remove.mp otherMember).1
        refine removed.unref (refInv.removeRoute member) ?_ xdk
        intro ref points
        exact refInv.pointsPublished route member ref points
      · exact inv.modifyRoute _ (by intro _; rfl) (by intro _; rfl)

end Requests

/-- The XDK may refuse any call but the update of a route, and creates blocks
that do not overlap the outstanding ones. -/
structure BlockSafe (mgr : L3Mgr) (request : Request) : Prop where
  updates : request.xdk.updateIpRouteEntry = true
  fresh : FreshBlocks mgr request.xdk

/-- One request accounts for its blocks. -/
theorem BlockInv.step
    {env : Env} {mgr : L3Mgr} {request : Request}
    (guarded : BlockSafe mgr request)
    (inv : BlockInv mgr none)
    (refInv : RefInv mgr none fun _ => 0) :
    BlockInv (Routing.step env mgr request) none := by
  have updates := guarded.updates
  have freshLooked := guarded.fresh.lookup request.route.ipPrefix
  refine @RefInv.step_rule env mgr request (fun mgr => BlockInv mgr none) refInv
    updates inv (inv.lookup _) ?_ ?_ ?_ ?_
  · intro current locked currentRef currentInv
    exact currentInv.routeUnref currentRef
  · intro _ asks
    exact inv.routeAdd guarded.fresh refInv asks
  · rintro looked route current _ asks rfl _ lookedRef member samePrefix sameGroup
    exact (inv.lookup _).routeUpdate updates freshLooked lookedRef asks member
      samePrefix sameGroup
  · rintro looked current ref rfl lookedRef member samePrefix pointer
    exact (inv.lookup _).deleteNhFrom updates freshLooked lookedRef member
      samePrefix pointer

/-- A live group is published, and what a pointer to it reads is the group. -/
theorem RefInv.published_of_live
    {mgr : L3Mgr} {locked : Option String} {held : GroupRef → Nat}
    {ref : GroupRef} {group : NhGroup}
    (refInv : RefInv mgr locked held)
    (live : mgr.groups ref = some group) :
    ref ∈ mgr.nhGroupMap ∧ deref mgr ref = group :=
  ⟨(refInv.publishedLive ref).mpr (by simp [live]), deref_of_live live⟩

/-- A live group is referenced by a route between requests. -/
theorem RefInv.routed_of_live
    {mgr : L3Mgr} {ref : GroupRef} {group : NhGroup}
    (refInv : RefInv mgr none fun _ => 0)
    (live : mgr.groups ref = some group) :
    ∃ route ∈ mgr.routeMap, route.nhGroup = some ref := by
  obtain ⟨count, positive⟩ := refInv.counted ref group live
  have referenced : 0 < routeRefs mgr ref := by omega
  obtain ⟨route, member, points⟩ := List.countP_pos_iff.mp referenced
  exact ⟨route, member, by simpa using points⟩

theorem BlockInv.consistent {mgr : L3Mgr}
    (inv : BlockInv mgr none)
    (refInv : RefInv mgr none fun _ => 0) : BlocksConsistent mgr where
  apart := by
    intro ref other group otherGroup different live otherLive
    obtain ⟨published, isGroup⟩ := refInv.published_of_live live
    obtain ⟨otherPublished, isOther⟩ := refInv.published_of_live otherLive
    rw [← isGroup, ← isOther]
    exact inv.apart_published published otherPublished different
  slotsOnce := fun ref group live => (inv.housed ref group live).laid.slotsOnce
  slotsInside := by
    intro ref group live nh member
    have housed := inv.housed ref group live
    have bounds := housed.laid.slot_bounds member
    have fits := housed.fits
    omega
  destroys := inv.destroys
  outstandingOnce := inv.outstandingOnce refInv
  referenced := by
    intro block
    rw [inv.owned.mem_iff]
    simp only [Option.toList_none, List.nil_append, publishedBlocks,
      List.mem_map]
    constructor
    · rintro ⟨ref, published, rfl⟩
      have live := refInv.live_of_published published
      obtain ⟨route, member, points⟩ := refInv.routed_of_live live
      exact ⟨route, member, ref, _, points, live, rfl⟩
    · rintro ⟨route, member, ref, group, points, live, rfl⟩
      refine ⟨ref, refInv.pointsPublished route member ref points, ?_⟩
      rw [deref_of_live live]

/-- In every run in which the hardware does not refuse to update a route, the
next-hop blocks are created, used and destroyed consistently. -/
theorem blocksConsistent_of_reached
    {env : Env} {mgr : L3Mgr}
    (reached : Reached env BlockSafe mgr) : BlocksConsistent mgr := by
  have inv : RefInv mgr none (fun _ => 0) ∧ BlockInv mgr none := by
    refine Transition.Reach.invariant
      (fun mgr => RefInv mgr none (fun _ => 0) ∧ BlockInv mgr none) ?_ ?_ reached
    · rintro _ ⟨vrfId, hosts, rfl⟩
      refine ⟨l3MgrCreate_refInv vrfId hosts, ?_⟩
      constructor <;> simp [l3MgrCreate, publishedBlocks]
    · rintro current request ⟨currentRef, currentBlocks⟩ guarded
      refine ⟨currentRef.step ?_, currentBlocks.step guarded currentRef⟩
      intro refused
      rw [guarded.updates] at refused
      cases refused
  exact inv.2.consistent inv.1

/-- The hardware refuses to program slots, to clear them and to add a route. -/
def refusingSlots (base : Nat) : Outcome :=
  { accepting base with
    setRouteNextHop := fun _ => false
    clearRouteNextHop := fun _ => false
    addIpRouteEntry := false }

/-- A request that names a next hop twice, a merge that cannot be programmed, a
merge that can, and a deletion. -/
def blockRun : List Request :=
  [sampleRequest .add "10.0.1.0/24" ["1.1.1.1", "1.1.1.1"] (accepting 0),
   sampleRequest .add "10.0.1.0/24" ["2.2.2.2"] (refusingSlots 10),
   sampleRequest .add "10.0.1.0/24" ["2.2.2.2"] (accepting 10),
   sampleRequest .delete "10.0.1.0/24" ["2.2.2.2"] (refusingSlots 20)]

theorem blocksConsistent_blockRun :
    BlocksConsistent (Transition.run (step sampleEnv) (l3MgrCreate 0 [])
      blockRun) ∧
    ((Transition.run (step sampleEnv) (l3MgrCreate 0 [])
      blockRun).hw.destroyed.map (·.block)) = [(3, 10), (2, 0), (3, 10)] := by
  constructor
  · refine blocksConsistent_of_reached
      (.next (.next (.next (.next (.start ⟨0, [], rfl⟩) ?_) ?_) ?_) ?_)
    · exact ⟨rfl, accepting_fresh (by decide)⟩
    · exact ⟨rfl, fun size => accepting_fresh (by decide) size⟩
    · exact ⟨rfl, accepting_fresh (by decide)⟩
    · exact ⟨rfl, fun size => accepting_fresh (by decide) size⟩
  · decide

end Routing
end XpliantSwitchd
