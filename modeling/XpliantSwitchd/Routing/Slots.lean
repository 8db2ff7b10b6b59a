import XpliantSwitchd.Routing.Refinement

/-!
# Groups and the hardware next-hop table

A group owns a block of slots of the hardware next-hop table.  The invariant of
this module says that a group has exactly as many next hops as it reserves
slots, that the blocks of different groups do not overlap, and that each slot of
a group is programmed with the next hop that sits there.  It is broken by one
kind of request only: an `ADD` that repeats some, but not all, of the next hops
a route already has reserves a slot twice.
-/

namespace XpliantSwitchd
namespace Routing

/-- A block of slots, as a size and a base. -/
abbrev Block := Nat × Nat

/-- Two blocks have no slot in common. -/
def Apart (first second : Block) : Prop :=
  first.2 + first.1 ≤ second.2 ∨ second.2 + second.1 ≤ first.2

theorem Apart.symm {first second : Block} (apart : Apart first second) :
    Apart second first := by
  unfold Apart at *
  omega

/-- The block of a group. -/
def NhGroup.block (group : NhGroup) : Block := (group.size, group.nhId)

/-- A slot of the group's block carries the id of the next hop in it. -/
def NhGroup.Programmed (group : NhGroup) (hw : NextHopTable) : Prop :=
  ∀ index id, group.ids[index]? = some id →
    ∃ entry, hw.slots (group.nhId + index) = some (id, entry)

/-- A group reserves exactly as many slots as it has next hops, and it has
one. -/
structure NhGroup.Exact (group : NhGroup) : Prop where
  wellFormed : group.WellFormed
  full : group.nhMap.length = group.size
  inhabited : 0 < group.size

theorem NhGroup.Exact.of_content {group other : NhGroup}
    (shape : group.Exact)
    (same : other.content = group.content) : other.Exact where
  wellFormed := shape.wellFormed.of_content same
  full := by
    rw [NhGroup.length_of_content same, (NhGroup.content_eq.mp same).2.2.2.1]
    exact shape.full
  inhabited := by
    rw [(NhGroup.content_eq.mp same).2.2.2.1]
    exact shape.inhabited

theorem NhGroup.Programmed.of_content {group other : NhGroup} {hw : NextHopTable}
    (programmed : group.Programmed hw)
    (same : other.content = group.content) : other.Programmed hw := by
  obtain ⟨ids, _, nhId, _, _⟩ := NhGroup.content_eq.mp same
  unfold NhGroup.Programmed
  rw [ids, nhId]
  exact programmed

theorem NhGroup.block_of_content {group other : NhGroup}
    (same : other.content = group.content) : other.block = group.block := by
  obtain ⟨_, _, nhId, size, _⟩ := NhGroup.content_eq.mp same
  rw [NhGroup.block, NhGroup.block, nhId, size]

/-- The base of the group behind a pointer. -/
def pointerBase (mgr : L3Mgr) (pointer : Option GroupRef) : Nat :=
  ((pointer.map (deref mgr)).map (·.nhId)).getD 0

/-- The hardware fields of a route are those of a group pointer. -/
def RouteEntry.Reflects (route : RouteEntry) (mgr : L3Mgr) : Prop :=
  route.xpRoute.nhEcmpSize = pointerSize mgr route.nhGroup ∧
    route.xpRoute.nhId = pointerBase mgr route.nhGroup

/-- The property that holds between requests. -/
structure SlotsConsistent (mgr : L3Mgr) : Prop where
  /-- A group has as many next hops as its size says. -/
  sized : ∀ ref group, mgr.groups ref = some group →
    group.size = group.nhMap.length
  /-- A route carries the size and the base of its group, or zeros. -/
  reflects : ∀ route ∈ mgr.routeMap, route.Reflects mgr
  /-- A route without next hops has no group. -/
  emptied : ∀ route ∈ mgr.routeMap,
    pointerIds mgr route.nhGroup = [] → route.nhGroup = none
  /-- Every slot that ECMP may select is programmed with a next hop of the
  route. -/
  programmed : ∀ route ∈ mgr.routeMap, ∀ slot,
    route.xpRoute.nhId ≤ slot →
    slot < route.xpRoute.nhId + route.xpRoute.nhEcmpSize →
    ∃ id ∈ pointerIds mgr route.nhGroup,
      ∃ entry, mgr.hw.slots slot = some (id, entry)

/-- The invariant inside a request.  `pending` is the block of a group that has
been allocated and not yet published. -/
structure SlotInv (mgr : L3Mgr) (pending : Option Block) : Prop where
  shaped : ∀ ref group, mgr.groups ref = some group → group.Exact
  owned : ∀ ref group, mgr.groups ref = some group →
    group.block ∈ mgr.hw.blocks
  apart : ∀ ref other group otherGroup, ref ≠ other →
    mgr.groups ref = some group → mgr.groups other = some otherGroup →
    Apart group.block otherGroup.block
  programmed : ∀ ref group, mgr.groups ref = some group →
    group.Programmed mgr.hw
  reserved : ∀ block, pending = some block → 0 < block.1 ∧
    block ∈ mgr.hw.blocks ∧
    ∀ ref group, mgr.groups ref = some group → Apart block group.block
  reflects : ∀ route ∈ mgr.routeMap, route.Reflects mgr

/-! ## Programming and clearing slots -/

theorem NhGroup.Laid.slot_of_index
    {group : NhGroup} (laid : group.Laid) {index : Nat} {nh : NhEntry}
    (at_index : group.nhMap[index]? = some nh) :
    nh.xpNhId = group.nhId + index := by
  have slot : (group.nhMap.map (·.xpNhId))[index]? = some nh.xpNhId := by
    simp [at_index]
  rw [laid, List.getElem?_eq_some_iff] at slot
  obtain ⟨_, equation⟩ := slot
  simpa using equation.symm

theorem NhGroup.Laid.slot_bounds
    {group : NhGroup} (laid : group.Laid) {nh : NhEntry}
    (member : nh ∈ group.nhMap) :
    group.nhId ≤ nh.xpNhId ∧ nh.xpNhId < group.nhId + group.nhMap.length := by
  have slot : nh.xpNhId ∈ group.nhMap.map (·.xpNhId) := List.mem_map_of_mem member
  rw [laid, List.mem_range'_1] at slot
  exact slot

/-- Programming slots changes nothing else. -/
theorem setNextHops_onlySlots
    (xdk : Outcome) (hw : NextHopTable) (entries : List NhEntry) :
    ∃ slots, (setNextHops xdk hw entries).1 = { hw with slots := slots } := by
  induction entries generalizing hw with
  | nil => exact ⟨hw.slots, rfl⟩
  | cons entry entries inductionHypothesis =>
      simp only [setNextHops]
      split
      · obtain ⟨slots, equation⟩ := inductionHypothesis { hw with
          slots := Function.update hw.slots entry.xpNhId
            (some (entry.id, entry.xpNh)) }
        exact ⟨slots, equation⟩
      · exact ⟨hw.slots, rfl⟩

theorem setNextHops_blocks
    (xdk : Outcome) (hw : NextHopTable) (entries : List NhEntry) :
    (setNextHops xdk hw entries).1.blocks = hw.blocks := by
  obtain ⟨slots, equation⟩ := setNextHops_onlySlots xdk hw entries
  rw [equation]

/-- Slots that are not programmed keep their contents. -/
theorem setNextHops_frame
    (xdk : Outcome) (hw : NextHopTable) (entries : List NhEntry) {slot : Nat}
    (untouched : ∀ entry ∈ entries, entry.xpNhId ≠ slot) :
    (setNextHops xdk hw entries).1.slots slot = hw.slots slot := by
  induction entries generalizing hw with
  | nil => rfl
  | cons entry entries inductionHypothesis =>
      obtain ⟨here, rest⟩ := List.forall_mem_cons.mp untouched
      simp only [setNextHops]
      split
      · rw [inductionHypothesis _ rest]
        simp [Function.update_of_ne here.symm]
      · rfl

/-- Each programmed slot carries its next hop. -/
theorem setNextHops_slots
    {xdk : Outcome} (succeeds : xdk.Succeeds) (hw : NextHopTable)
    {entries : List NhEntry}
    (once : (entries.map (·.xpNhId)).Nodup)
    {entry : NhEntry}
    (member : entry ∈ entries) :
    (setNextHops xdk hw entries).1.slots entry.xpNhId =
      some (entry.id, entry.xpNh) := by
  induction entries generalizing hw with
  | nil => cases member
  | cons head entries inductionHypothesis =>
      obtain ⟨headNew, restOnce⟩ := List.nodup_cons.mp once
      simp only [setNextHops, succeeds.sets, if_true]
      rcases List.mem_cons.mp member with rfl | inRest
      · rw [setNextHops_frame]
        · simp
        · intro other otherMember equal
          exact headNew (List.mem_map.mpr ⟨other, otherMember, equal⟩)
      · exact inductionHypothesis _ restOnce inRest

/-- Clearing slots changes nothing else. -/
theorem clearNextHops_onlySlots
    (xdk : Outcome) (hw : NextHopTable) (entries : List NhEntry) :
    ∃ slots, clearNextHops xdk hw entries = { hw with slots := slots } := by
  unfold clearNextHops
  induction entries generalizing hw with
  | nil => exact ⟨hw.slots, rfl⟩
  | cons entry entries inductionHypothesis =>
      rw [List.foldl_cons]
      split
      · obtain ⟨slots, equation⟩ := inductionHypothesis { hw with
          slots := Function.update hw.slots entry.xpNhId none }
        exact ⟨slots, equation⟩
      · exact inductionHypothesis hw

theorem clearNextHops_blocks
    (xdk : Outcome) (hw : NextHopTable) (entries : List NhEntry) :
    (clearNextHops xdk hw entries).blocks = hw.blocks := by
  obtain ⟨slots, equation⟩ := clearNextHops_onlySlots xdk hw entries
  rw [equation]

theorem clearNextHops_frame
    (xdk : Outcome) (hw : NextHopTable) (entries : List NhEntry) {slot : Nat}
    (untouched : ∀ entry ∈ entries, entry.xpNhId ≠ slot) :
    (clearNextHops xdk hw entries).slots slot = hw.slots slot := by
  unfold clearNextHops
  induction entries generalizing hw with
  | nil => rfl
  | cons entry entries inductionHypothesis =>
      obtain ⟨here, rest⟩ := List.forall_mem_cons.mp untouched
      rw [List.foldl_cons, inductionHypothesis _ rest]
      split
      · simp [Function.update_of_ne here.symm]
      · rfl

/-- Programming the next hops of a group programs the group. -/
theorem setNextHops_programs
    {xdk : Outcome} (succeeds : xdk.Succeeds) (hw : NextHopTable)
    {group : NhGroup} (laid : group.Laid) :
    group.Programmed
      (setNextHops xdk hw (xdk.nhOrder.visit group.nhMap)).1 := by
  intro index id at_index
  rw [NhGroup.ids, List.getElem?_map, Option.map_eq_some_iff] at at_index
  obtain ⟨nh, nhIndex, rfl⟩ := at_index
  have once : ((xdk.nhOrder.visit group.nhMap).map (·.xpNhId)).Nodup :=
    ((xdk.nhOrder.perm group.nhMap).map _).nodup_iff.mpr laid.slotsOnce
  have member : nh ∈ xdk.nhOrder.visit group.nhMap := by
    simpa using List.mem_of_getElem? nhIndex
  exact ⟨nh.xpNh, laid.slot_of_index nhIndex ▸
    setNextHops_slots succeeds hw once member⟩

/-- Blocks that are apart share no slot with the next hops of a group. -/
theorem NhGroup.WellFormed.slot_ne_of_apart
    {group other : NhGroup} (well : group.WellFormed)
    (apart : Apart group.block other.block)
    {nh : NhEntry} (member : nh ∈ group.nhMap)
    {index : Nat} (inside : index < other.size) :
    nh.xpNhId ≠ other.nhId + index := by
  have bounds := well.laid.slot_bounds member
  have fits := well.fits
  simp only [Apart, NhGroup.block] at apart
  omega

/-- A group stays programmed while slots outside its block change. -/
theorem NhGroup.Programmed.of_frame
    {group : NhGroup} {hw hw' : NextHopTable}
    (programmed : group.Programmed hw)
    (fits : group.nhMap.length ≤ group.size)
    (frame : ∀ index, index < group.size →
      hw'.slots (group.nhId + index) = hw.slots (group.nhId + index)) :
    group.Programmed hw' := by
  intro index id at_index
  have inside : index < group.nhMap.length := by
    obtain ⟨bound, _⟩ := List.getElem?_eq_some_iff.mp at_index
    simpa using bound
  rw [frame index (Nat.lt_of_lt_of_le inside fits)]
  exact programmed index id at_index

/-! ## Primitives -/

section Primitives

variable {mgr mgr' : L3Mgr} {pending : Option Block}

/-- Changes of the routes that keep them true to their groups. -/
theorem SlotInv.withRoutes
    (inv : SlotInv mgr pending) {routes : List RouteEntry}
    (reflects : ∀ route ∈ routes, route.Reflects mgr) :
    SlotInv { mgr with routeMap := routes } pending :=
  ⟨inv.shaped, inv.owned, inv.apart, inv.programmed, inv.reserved, reflects⟩

/-- A route stays true to its group while the block of the group stays. -/
theorem RouteEntry.Reflects.of_block
    {route : RouteEntry}
    (reflects : route.Reflects mgr)
    (same : ∀ ref, route.nhGroup = some ref →
      (deref mgr' ref).block = (deref mgr ref).block) :
    route.Reflects mgr' := by
  unfold RouteEntry.Reflects pointerSize pointerBase at *
  cases pointer : route.nhGroup with
  | none => simpa [pointer] using reflects
  | some ref =>
      have size := congrArg Prod.fst (same ref pointer)
      have nhId := congrArg Prod.snd (same ref pointer)
      simp only [NhGroup.block] at size nhId
      simpa [pointer, nhId, size] using reflects

theorem RouteEntry.Reflects.of_content
    {route : RouteEntry}
    (reflects : route.Reflects mgr)
    (same : ∀ ref, route.nhGroup = some ref →
      (deref mgr' ref).content = (deref mgr ref).content) :
    route.Reflects mgr' :=
  reflects.of_block fun ref points => NhGroup.block_of_content (same ref points)

/-- Writing back a live group with the same contents. -/
theorem SlotInv.store
    (inv : SlotInv mgr pending) {ref : GroupRef} {group old : NhGroup}
    (live : mgr.groups ref = some old)
    (same : group.content = old.content) :
    SlotInv (store mgr ref (some group)) pending := by
  have older : ∀ other current,
      (Routing.store mgr ref (some group)).groups other = some current →
      ∃ before, mgr.groups other = some before ∧
        current.content = before.content := by
    intro other current currentLive
    by_cases equal : other = ref
    · subst equal
      have isGroup : group = current := by
        simpa [Routing.store] using currentLive
      exact ⟨old, live, isGroup ▸ same⟩
    · exact ⟨current, by
        simpa [Routing.store, Function.update_of_ne equal] using currentLive, rfl⟩
  refine ⟨?_, ?_, ?_, ?_, ?_, ?_⟩
  · intro other current currentLive
    obtain ⟨before, beforeLive, content⟩ := older other current currentLive
    exact (inv.shaped other before beforeLive).of_content content
  · intro other current currentLive
    obtain ⟨before, beforeLive, content⟩ := older other current currentLive
    rw [NhGroup.block_of_content content]
    exact inv.owned other before beforeLive
  · intro first second firstGroup secondGroup different firstLive secondLive
    obtain ⟨before, beforeLive, content⟩ := older first firstGroup firstLive
    obtain ⟨before', beforeLive', content'⟩ := older second secondGroup secondLive
    rw [NhGroup.block_of_content content, NhGroup.block_of_content content']
    exact inv.apart first second before before' different beforeLive beforeLive'
  · intro other current currentLive
    obtain ⟨before, beforeLive, content⟩ := older other current currentLive
    exact (inv.programmed other before beforeLive).of_content content
  · intro block isPending
    obtain ⟨positive, owned, apart⟩ := inv.reserved block isPending
    refine ⟨positive, owned, ?_⟩
    intro other current currentLive
    obtain ⟨before, beforeLive, content⟩ := older other current currentLive
    rw [NhGroup.block_of_content content]
    exact apart other before beforeLive
  · intro route member
    refine (inv.reflects route member).of_content ?_
    intro other _
    by_cases equal : other = ref
    · subst equal
      simp [deref, Routing.store, live, same]
    · simp [deref, Routing.store, Function.update_of_ne equal]

/-- A new block is reserved for the request. -/
theorem SlotInv.alloc
    {env : Env} {xdk : Outcome} {size : Nat} {empty : NhGroup}
    (inv : SlotInv mgr none)
    (positive : 0 < size)
    (fresh : ∀ base, xdk.createRouteNextHop size = some base →
      ∀ block ∈ mgr.hw.blocks, Apart (size, base) block)
    (allocated : nhGroupAlloc env xdk mgr size = (some empty, mgr')) :
    SlotInv mgr' (some (size, empty.nhId)) := by
  obtain ⟨_, created, _, rfl⟩ := nhGroupAlloc_some allocated
  refine ⟨inv.shaped, ?_, inv.apart, inv.programmed, ?_, inv.reflects⟩
  · intro ref group live
    exact List.mem_cons_of_mem _ (inv.owned ref group live)
  · intro block isPending
    cases isPending
    refine ⟨positive, List.mem_cons_self .., ?_⟩
    intro ref group live
    exact fresh empty.nhId created _ (inv.owned ref group live)

/-- The block of an unpublished group is given back. -/
theorem SlotInv.free
    {block : Block} {group : NhGroup}
    (inv : SlotInv mgr (some block))
    (sameBase : group.nhId = block.2) :
    SlotInv (nhGroupFree mgr group none) none := by
  obtain ⟨positive, _, apart⟩ := inv.reserved block rfl
  refine ⟨inv.shaped, ?_, inv.apart, inv.programmed, by simp, inv.reflects⟩
  intro ref current live
  have different : current.block ≠ (group.size, group.nhId) := by
    intro equal
    have inhabited := (inv.shaped ref current live).inhabited
    have base : current.nhId = group.nhId := congrArg Prod.snd equal
    have separate := apart ref current live
    simp only [Apart, NhGroup.block] at separate
    omega
  exact (List.mem_erase_of_ne different).mpr (inv.owned ref current live)

/-- The slots of the pending group are programmed and the group published. -/
theorem SlotInv.publish
    {xdk : Outcome} {group : NhGroup} {hw : NextHopTable}
    (succeeds : xdk.Succeeds)
    (inv : SlotInv mgr (some group.block))
    (shaped : group.Exact)
    (unrouted : ∀ route ∈ mgr.routeMap, route.nhGroup ≠ some mgr.nextRef)
    (programmed : setNextHops xdk mgr.hw (xdk.nhOrder.visit group.nhMap) =
      (hw, true)) :
    SlotInv (publish { mgr with hw := hw } group) none := by
  obtain ⟨positive, owned, apart⟩ := inv.reserved group.block rfl
  have isHw : hw = (setNextHops xdk mgr.hw (xdk.nhOrder.visit group.nhMap)).1 := by
    rw [programmed]
  have blocks : hw.blocks = mgr.hw.blocks := by rw [isHw, setNextHops_blocks]
  have older : ∀ ref current,
      (Routing.publish { mgr with hw := hw } group).groups ref = some current →
      (ref = mgr.nextRef ∧ current = group) ∨
        (ref ≠ mgr.nextRef ∧ mgr.groups ref = some current) := by
    intro ref current live
    by_cases equal : ref = mgr.nextRef
    · subst equal
      have same : group = current := by simpa [Routing.publish] using live
      exact .inl ⟨rfl, same.symm⟩
    · exact .inr ⟨equal, by
        simpa [Routing.publish, Function.update_of_ne equal] using live⟩
  refine ⟨?_, ?_, ?_, ?_, by simp, ?_⟩
  · intro ref current live
    rcases older ref current live with ⟨_, rfl⟩ | ⟨_, before⟩
    · exact shaped
    · exact inv.shaped ref current before
  · intro ref current live
    change current.block ∈ hw.blocks
    rw [blocks]
    rcases older ref current live with ⟨_, rfl⟩ | ⟨_, before⟩
    · exact owned
    · exact inv.owned ref current before
  · intro first second firstGroup secondGroup different firstLive secondLive
    rcases older first firstGroup firstLive with ⟨rfl, rfl⟩ | ⟨_, before⟩
    · rcases older second secondGroup secondLive with ⟨rfl, _⟩ | ⟨_, before'⟩
      · exact absurd rfl different
      · exact apart second secondGroup before'
    · rcases older second secondGroup secondLive with ⟨rfl, rfl⟩ | ⟨_, before'⟩
      · exact (apart first firstGroup before).symm
      · exact inv.apart first second _ _ different before before'
  · intro ref current live
    change current.Programmed hw
    rcases older ref current live with ⟨_, rfl⟩ | ⟨_, before⟩
    · rw [isHw]
      exact setNextHops_programs succeeds mgr.hw shaped.wellFormed.laid
    · refine (inv.programmed ref current before).of_frame
        (inv.shaped ref current before).wellFormed.fits ?_
      intro index inside
      rw [isHw]
      apply setNextHops_frame
      intro entry member
      exact shaped.wellFormed.slot_ne_of_apart (apart ref current before)
        (by simpa using member) inside
  · intro route member
    refine (inv.reflects route member).of_content ?_
    intro ref points
    have different : ref ≠ mgr.nextRef := by
      rintro rfl
      exact unrouted route member points
    simp [deref, Routing.publish, Function.update_of_ne different]

/-- The slots of a live group are programmed again. -/
theorem SlotInv.reprogram
    {xdk : Outcome} {ref : GroupRef} {group : NhGroup} {hw : NextHopTable}
    {success : Bool}
    (succeeds : xdk.Succeeds)
    (inv : SlotInv mgr none)
    (live : mgr.groups ref = some group)
    (programmed : setNextHops xdk mgr.hw (xdk.nhOrder.visit group.nhMap) =
      (hw, success)) :
    SlotInv { mgr with hw := hw } none := by
  have isHw : hw = (setNextHops xdk mgr.hw (xdk.nhOrder.visit group.nhMap)).1 := by
    rw [programmed]
  have blocks : hw.blocks = mgr.hw.blocks := by rw [isHw, setNextHops_blocks]
  have shaped := inv.shaped ref group live
  refine ⟨inv.shaped, ?_, inv.apart, ?_, by simp, inv.reflects⟩
  · intro other current currentLive
    change current.block ∈ hw.blocks
    rw [blocks]
    exact inv.owned other current currentLive
  · intro other current currentLive
    change current.Programmed hw
    by_cases equal : other = ref
    · subst equal
      rw [live] at currentLive
      cases currentLive
      rw [isHw]
      exact setNextHops_programs succeeds mgr.hw shaped.wellFormed.laid
    · refine (inv.programmed other current currentLive).of_frame
        (inv.shaped other current currentLive).wellFormed.fits ?_
      intro index inside
      rw [isHw]
      apply setNextHops_frame
      intro entry member
      exact shaped.wellFormed.slot_ne_of_apart
        (inv.apart ref other group current (Ne.symm equal) live currentLive)
        (by simpa using member) inside

/-- Deleting a group that no route points to. -/
theorem SlotInv.delete
    {ref : GroupRef} {group old : NhGroup}
    (inv : SlotInv mgr none)
    (live : mgr.groups ref = some old)
    (sameHops : group.nhMap = old.nhMap)
    (sameBlock : group.block = old.block)
    (unrouted : routeRefs mgr ref = 0)
    (xdk : Outcome) :
    SlotInv (nhGroupDelete xdk mgr group (some ref)) none := by
  have oldShaped := inv.shaped ref old live
  have older : ∀ other current,
      (nhGroupDelete xdk mgr group (some ref)).groups other = some current →
      other ≠ ref ∧ mgr.groups other = some current := by
    intro other current currentLive
    by_cases equal : other = ref
    · subst equal
      simp [nhGroupDelete, nhGroupFree, Routing.store] at currentLive
    · exact ⟨equal, by
        simpa [nhGroupDelete, nhGroupFree, Routing.store,
          Function.update_of_ne equal] using currentLive⟩
  refine ⟨?_, ?_, ?_, ?_, by simp, ?_⟩
  · intro other current currentLive
    exact inv.shaped other current (older other current currentLive).2
  · intro other current currentLive
    obtain ⟨different, before⟩ := older other current currentLive
    have separate := inv.apart other ref current old different before live
    have notErased : current.block ≠ group.block := by
      intro equal
      have inhabited := oldShaped.inhabited
      rw [equal, sameBlock] at separate
      simp only [Apart, NhGroup.block] at separate
      omega
    have kept : current.block ∈ (clearNextHops xdk mgr.hw
        (xdk.nhOrder.visit group.nhMap)).blocks := by
      rw [clearNextHops_blocks]
      exact inv.owned other current before
    exact (List.mem_erase_of_ne notErased).mpr kept
  · intro first second firstGroup secondGroup different firstLive secondLive
    exact inv.apart first second _ _ different
      (older first firstGroup firstLive).2 (older second secondGroup secondLive).2
  · intro other current currentLive
    obtain ⟨different, before⟩ := older other current currentLive
    refine (inv.programmed other current before).of_frame
      (inv.shaped other current before).wellFormed.fits ?_
    intro index inside
    apply clearNextHops_frame
    intro entry member
    rw [sameHops] at member
    exact oldShaped.wellFormed.slot_ne_of_apart
      (inv.apart ref other old current (Ne.symm different) live before)
      (by simpa using member) inside
  · intro route member
    refine (inv.reflects route member).of_content ?_
    intro other points
    have different : other ≠ ref := by
      rintro rfl
      have notCounted := List.countP_eq_zero.mp unrouted route member
      simp [points] at notCounted
    simp [deref, nhGroupDelete, nhGroupFree, Routing.store,
      Function.update_of_ne different]

theorem SlotInv.unref
    {locked : Option String} {held : GroupRef → Nat} {pointer : Option GroupRef}
    (inv : SlotInv mgr none)
    (refInv : RefInv mgr locked (hold held pointer))
    (published : ∀ ref, pointer = some ref → ref ∈ mgr.nhGroupMap)
    (xdk : Outcome) :
    SlotInv (nhGroupUnref xdk mgr pointer) none := by
  cases pointer with
  | none => exact inv
  | some ref =>
      have live := refInv.live_of_published (published ref rfl)
      obtain ⟨count, _⟩ := refInv.counted ref _ live
      simp only [hold, if_true] at count
      simp only [nhGroupUnref]
      split
      · have unrouted : routeRefs mgr ref = 0 := by omega
        exact inv.delete live rfl rfl unrouted xdk
      · exact inv.store live rfl

theorem SlotInv.ref
    {locked : Option String} {held : GroupRef → Nat} {ref : GroupRef}
    (inv : SlotInv mgr pending)
    (refInv : RefInv mgr locked held)
    (published : ref ∈ mgr.nhGroupMap) :
    SlotInv (nhGroupRef mgr ref) pending :=
  inv.store (refInv.live_of_published published) rfl

/-- Selecting a group settles the pending block. -/
theorem SlotInv.select
    {xdk : Outcome} {locked : Option String} {group : NhGroup} {ref : GroupRef}
    (succeeds : xdk.Succeeds)
    (inv : SlotInv mgr (some group.block))
    (refInv : RefInv mgr locked fun _ => 0)
    (shaped : group.Exact)
    (selected : selectGroup xdk mgr group = (some ref, mgr')) :
    SlotInv mgr' none := by
  rcases selectGroup_cases xdk mgr group with
    ⟨found, lookup, equation⟩ | ⟨hw, lookup, programmed, equation⟩ |
    ⟨hw, lookup, _, equation⟩
  · rw [equation] at selected
    cases selected
    exact (inv.ref refInv (nhGroupLookupByGroup_published lookup)).free rfl
  · rw [equation] at selected
    cases selected
    refine inv.publish succeeds shaped ?_ programmed
    intro route member points
    have below := refInv.below_of_published
      (refInv.pointsPublished route member _ points)
    exact Nat.lt_irrefl _ below
  · rw [equation] at selected
    cases selected

/-- A route that is pointed to a group and written for it reflects it; the
other routes are left alone. -/
theorem reflects_committed
    (reflects : ∀ route ∈ mgr.routeMap, route.Reflects mgr)
    (new : Option GroupRef) (ipPrefix : String) :
    ∀ route ∈ (Routing.modifyRoute
        (Routing.modifyRoute mgr ipPrefix (writeHwRoute (new.map (deref mgr))))
        ipPrefix fun route => { route with nhGroup := new }).routeMap,
      route.Reflects mgr := by
  intro other otherMember
  rcases KeyedList.mem_rewrite.mp otherMember with
    ⟨old, oldMember, selected, rfl⟩ | ⟨oldMember, different⟩
  · rcases KeyedList.mem_rewrite.mp oldMember with
      ⟨before, _, _, rfl⟩ | ⟨_, different⟩
    · exact ⟨rfl, rfl⟩
    · exact absurd selected different
  · rcases KeyedList.mem_rewrite.mp oldMember with
      ⟨before, _, selected, rfl⟩ | ⟨before, _⟩
    · exact absurd selected different
    · exact reflects other before

/-- A committed route carries the size and base of its new group. -/
theorem SlotInv.commit
    {xdk : Outcome} {locked : Option String} {new : Option GroupRef}
    {route : RouteEntry}
    (succeeds : xdk.Succeeds)
    (inv : SlotInv mgr none)
    (refInv : RefInv mgr locked (hold (fun _ => 0) new))
    (published : ∀ ref, new = some ref → ref ∈ mgr.nhGroupMap)
    (member : route ∈ mgr.routeMap)
    (failure : Errno) :
    SlotInv (commitGroup xdk mgr route.ipPrefix route.nhGroup new failure).2
      none := by
  rw [commitGroup_success succeeds.updates]
  refine SlotInv.unref ?_ (refInv.pointed published member) ?_ xdk
  · exact inv.withRoutes (reflects_committed inv.reflects new route.ipPrefix)
  · intro ref points
    exact refInv.pointsPublished route member ref points

end Primitives

/-! ## Requests -/

section Requests

variable {env : Env} {xdk : Outcome} {mgr : L3Mgr}

/-- The XDK hands out blocks that do not overlap the ones in use. -/
def FreshBlocks (mgr : L3Mgr) (xdk : Outcome) : Prop :=
  ∀ size base, xdk.createRouteNextHop size = some base →
    ∀ block ∈ mgr.hw.blocks, Apart (size, base) block

theorem FreshBlocks.lookup
    (fresh : FreshBlocks mgr xdk) (ipPrefix : String) :
    FreshBlocks (routeLookup mgr ipPrefix).2 xdk := by
  unfold routeLookup
  cases findRoute mgr ipPrefix with
  | none => exact fresh
  | some route => exact fresh

/-- Writing software fields of a route keeps it true to its group. -/
theorem reflects_modified
    (reflects : ∀ route ∈ mgr.routeMap, route.Reflects mgr)
    (ipPrefix : String) {change : RouteEntry → RouteEntry}
    (keepsHw : ∀ route, (change route).xpRoute = route.xpRoute)
    (keepsGroup : ∀ route, (change route).nhGroup = route.nhGroup) :
    ∀ route ∈ (Routing.modifyRoute mgr ipPrefix change).routeMap,
      route.Reflects mgr := by
  intro route member
  rcases KeyedList.mem_rewrite.mp member with
    ⟨old, oldMember, _, rfl⟩ | ⟨oldMember, _⟩
  · unfold RouteEntry.Reflects
    rw [keepsHw, keepsGroup]
    exact reflects old oldMember
  · exact reflects route oldMember

theorem SlotInv.modifyRoute
    (inv : SlotInv mgr none) (ipPrefix : String)
    {change : RouteEntry → RouteEntry}
    (keepsHw : ∀ route, (change route).xpRoute = route.xpRoute)
    (keepsGroup : ∀ route, (change route).nhGroup = route.nhGroup) :
    SlotInv (Routing.modifyRoute mgr ipPrefix change) none :=
  inv.withRoutes (reflects_modified inv.reflects ipPrefix keepsHw keepsGroup)

theorem mergedGroup_nhId
    {hosts : List HostEntry} {empty group : NhGroup} {old : Option NhGroup}
    {nexthops : List RouteNexthop} {rc : Option Errno}
    (merged : mergedGroup env xdk hosts empty old nexthops = (group, rc)) :
    group.nhId = empty.nhId := by
  have keeps := (nhGroupUpdate_keeps env xdk hosts (nhInsertAll env empty
    ((old.map fun group => xdk.nhOrder.visit group.nhMap).getD []))
    nexthops).2
  unfold mergedGroup at merged
  rw [merged, nhInsertAll_nhId] at keeps
  exact keeps

/-- A merge without overlap reserves exactly the slots it needs. -/
theorem updateCandidate_exact
    {request : OfprotoRoute} {pointer : Option GroupRef} {candidate : NhGroup}
    (oldExact : ∀ ref, pointer = some ref → (deref mgr ref).Exact)
    (asks : request.nexthops ≠ [])
    (once : (request.nexthops.map (·.id)).Nodup)
    (disjoint : ∀ nh ∈ request.nexthops, nh.id ∉ pointerIds mgr pointer)
    (isCandidate : updateCandidate env xdk mgr request pointer = some candidate) :
    candidate.Exact := by
  obtain ⟨well, size, length, _⟩ := updateCandidate_spec
    (fun ref isRef => (oldExact ref isRef).wellFormed) once isCandidate
  have allNew : request.nexthops.countP
      (fun nh => !(pointerIds mgr pointer).contains nh.id) =
      request.nexthops.length := by
    rw [List.countP_eq_length]
    intro nh member
    simpa using disjoint nh member
  have oldFull : (pointerIds mgr pointer).length = pointerSize mgr pointer := by
    cases pointer with
    | none => rfl
    | some ref => simpa [pointerSize] using (oldExact ref rfl).full
  have nonempty := List.length_pos_of_ne_nil asks
  refine ⟨well, ?_, ?_⟩
  · rw [length, size, allNew, oldFull, Nat.add_comm]
  · rw [size]
    omega

/-- The next hops left by `DELETE_NH` fill the slots reserved for them. -/
theorem deleteCandidate_exact
    {request : OfprotoRoute} {ref : GroupRef} {candidate : NhGroup}
    (oldExact : (deref mgr ref).Exact)
    (left : (deref mgr ref).size > listedCount xdk request (deref mgr ref))
    (isCandidate : deleteCandidate env xdk mgr request ref = some candidate) :
    candidate.Exact := by
  obtain ⟨well, size, length, _⟩ :=
    deleteCandidate_spec oldExact.wellFormed isCandidate
  have full := oldExact.full
  exact ⟨well, by omega, by omega⟩

theorem SlotInv.exact_of_points
    {locked : Option String} {held : GroupRef → Nat} {route : RouteEntry}
    {pending : Option Block}
    (inv : SlotInv mgr pending)
    (refInv : RefInv mgr locked held)
    (member : route ∈ mgr.routeMap) :
    ∀ ref, route.nhGroup = some ref → (deref mgr ref).Exact := by
  intro ref points
  exact inv.shaped ref _
    (refInv.live_of_published (refInv.pointsPublished route member ref points))

/-- Allocation, selection and commit of a new group, one after the other. -/
theorem SlotInv.regroup
    {locked : Option String} {size : Nat} {empty group : NhGroup}
    {mgr₁ mgr₂ : L3Mgr} {ref : GroupRef} {route : RouteEntry}
    (succeeds : xdk.Succeeds)
    (fresh : FreshBlocks mgr xdk)
    (inv : SlotInv mgr none)
    (refInv : RefInv mgr locked fun _ => 0)
    (positive : 0 < size)
    (allocated : nhGroupAlloc env xdk mgr size = (some empty, mgr₁))
    (once : group.refCnt = 1)
    (sameSize : group.size = size)
    (sameBase : group.nhId = empty.nhId)
    (shaped : group.Exact)
    (chosen : selectGroup xdk mgr₁ group = (some ref, mgr₂))
    (member : route ∈ mgr.routeMap)
    (failure : Errno) :
    SlotInv (commitGroup xdk mgr₂ route.ipPrefix route.nhGroup (some ref)
      failure).2 none := by
  have pending := inv.alloc positive (fresh _) allocated
  rw [← sameSize, ← sameBase] at pending
  have refInv₁ := refInv.alloc allocated
  have selected := SlotInv.select succeeds pending refInv₁ shaped chosen
  obtain ⟨held, inMap, sameRoutes, _⟩ := refInv₁.select once chosen
  have stillMember : route ∈ mgr₂.routeMap := by
    rw [sameRoutes, (nhGroupAlloc_some allocated).2.2.2]
    exact member
  refine selected.commit succeeds held ?_ stillMember _
  intro other equal
  cases equal
  exact inMap

/-- `route_update` without overlap keeps the slots consistent. -/
theorem SlotInv.routeUpdate
    {locked : Option String} {request : OfprotoRoute} {route current : RouteEntry}
    (succeeds : xdk.Succeeds)
    (fresh : FreshBlocks mgr xdk)
    (inv : SlotInv mgr none)
    (refInv : RefInv mgr locked fun _ => 0)
    (asks : request.nexthops ≠ [])
    (once : (request.nexthops.map (·.id)).Nodup)
    (noOverlap : (∀ nh ∈ request.nexthops,
        nh.id ∈ pointerIds mgr route.nhGroup) ∨
      ∀ nh ∈ request.nexthops, nh.id ∉ pointerIds mgr route.nhGroup)
    (member : current ∈ mgr.routeMap)
    (samePrefix : current.ipPrefix = route.ipPrefix)
    (sameGroup : current.nhGroup = route.nhGroup) :
    SlotInv (Routing.routeUpdate env xdk mgr request route).2 none := by
  have oldExact : ∀ ref, route.nhGroup = some ref → (deref mgr ref).Exact := by
    rw [← sameGroup]
    exact inv.exact_of_points refInv member
  have live : ∀ ref, route.nhGroup = some ref →
      mgr.groups ref = some (deref mgr ref) := by
    intro ref pointer
    exact refInv.live_of_published
      (refInv.pointsPublished current member ref (sameGroup.trans pointer))
  have positive : ∀ size, 0 < request.nexthops.length + size :=
    fun size => Nat.add_pos_left (List.length_pos_of_ne_nil asks) size
  have stored : ∀ {ref : GroupRef} {group : NhGroup} {errno : Option Errno},
      needsNewGroup xdk (route.nhGroup.map (deref mgr)) request.nexthops =
        false →
      route.nhGroup = some ref →
      nhGroupUpdate env xdk mgr.hostIdMap (deref mgr ref) request.nexthops =
        (group, errno) →
      SlotInv (Routing.store mgr ref (some group)) none := by
    intro ref group errno sufficient pointer updated
    rw [pointer] at sufficient
    exact inv.store (live ref pointer) (nhGroupUpdate_content
      (oldExact ref pointer).wellFormed.laid
      (known_of_needsNewGroup sufficient) updated)
  generalize result : Routing.routeUpdate env xdk mgr request route = outcome
  have shape := routeUpdate_outcome env xdk mgr request route
  rw [result] at shape
  cases shape with
  | noMemory => exact inv
  | unreachable allocated merged =>
      exact (inv.alloc (positive _) (fresh _) allocated).free
        (mergedGroup_nhId merged)
  | notProgrammed _ chosen => exact absurd chosen (selectGroup_ne_none succeeds)
  | stopped sufficient pointer updated => exact stored sufficient pointer updated
  | @inPlace ref group hw success sufficient pointer updated programmed =>
      have groupLive :
          (Routing.store mgr ref (some group)).groups ref = some group := by
        simp [Routing.store]
      exact (stored sufficient pointer updated).reprogram succeeds groupLive
        programmed
  | noGroup => exact inv
  | @regrouped empty group mgr₁ mgr₂ ref building allocated merged chosen =>
      have isCandidate :
          updateCandidate env xdk mgr request route.nhGroup = some group := by
        simp only [updateCandidate, building, if_true, allocated,
          Option.bind_some, merged]
      have disjoint : ∀ nh ∈ request.nexthops,
          nh.id ∉ pointerIds mgr route.nhGroup := by
        rcases noOverlap with known | disjoint
        · have sufficient : needsNewGroup xdk (route.nhGroup.map (deref mgr))
              request.nexthops = false := by
            refine List.any_eq_false.mpr ?_
            intro nh nhMember
            have inOld := known nh nhMember
            cases pointer : route.nhGroup with
            | none => simp [pointer] at inOld
            | some old =>
                rw [pointer] at inOld
                simpa [Option.isSome_iff_ne_none] using
                  nhLookup_isSome.mpr inOld
          rw [building] at sufficient
          cases sufficient
        · exact disjoint
      have shaped := updateCandidate_exact oldExact asks once disjoint isCandidate
      have size := (updateCandidate_spec
        (fun ref isRef => (oldExact ref isRef).wellFormed) once isCandidate).2.1
      have once₁ : group.refCnt = 1 := by
        rw [mergedGroup_refCnt merged, (nhGroupAlloc_some allocated).2.2.1]
      rw [← samePrefix, ← sameGroup]
      exact inv.regroup succeeds fresh refInv (positive _) allocated once₁ size
        (mergedGroup_nhId merged) shaped chosen member _

theorem SlotInv.deleteNhFrom
    {locked : Option String} {request : OfprotoRoute} {route : RouteEntry}
    {ref : GroupRef}
    (succeeds : xdk.Succeeds)
    (fresh : FreshBlocks mgr xdk)
    (inv : SlotInv mgr none)
    (refInv : RefInv mgr locked fun _ => 0)
    (member : route ∈ mgr.routeMap)
    (samePrefix : route.ipPrefix = request.ipPrefix)
    (pointer : route.nhGroup = some ref) :
    SlotInv (Routing.deleteNhFrom env xdk mgr request ref).2 none := by
  have oldExact := inv.exact_of_points refInv member ref pointer
  generalize result : Routing.deleteNhFrom env xdk mgr request ref = outcome
  have shape := deleteNhFrom_outcome env xdk mgr request ref
  rw [result] at shape
  cases shape with
  | noMemory => exact inv
  | notProgrammed _ chosen => exact absurd chosen (selectGroup_ne_none succeeds)
  | emptied =>
      have unheld : RefInv mgr locked (hold (fun _ => 0) none) := by
        rwa [hold_none]
      rw [← samePrefix, ← pointer]
      refine inv.commit succeeds unheld ?_ member _
      intro other equal
      cases equal
  | @regrouped empty mgr₁ mgr₂ new left allocated chosen =>
      have isCandidate : deleteCandidate env xdk mgr request ref =
          some (remainingGroup env xdk request empty (deref mgr ref)) := by
        unfold listedCount at left allocated
        simp only [deleteCandidate, left, if_true, allocated, Option.map_some]
        rfl
      have once : (remainingGroup env xdk request empty
          (deref mgr ref)).refCnt = 1 := by
        rw [remainingGroup, nhInsertAll_refCnt,
          (nhGroupAlloc_some allocated).2.2.1]
      have size := (deleteCandidate_spec oldExact.wellFormed isCandidate).2.1
      rw [← samePrefix, ← pointer]
      refine inv.regroup succeeds fresh refInv ?_ allocated once ?_ ?_
        (deleteCandidate_exact oldExact left isCandidate) chosen member _
      · omega
      · omega
      · exact nhInsertAll_nhId ..

theorem SlotInv.acquire
    {mgr' : L3Mgr} {request : OfprotoRoute} {ref : GroupRef}
    (succeeds : xdk.Succeeds)
    (fresh : FreshBlocks mgr xdk)
    (inv : SlotInv mgr none)
    (refInv : RefInv mgr none fun _ => 0)
    (asks : request.nexthops ≠ [])
    (once : (request.nexthops.map (·.id)).Nodup)
    (acquired : Acquired env xdk mgr request ref mgr') :
    SlotInv mgr' none := by
  cases acquired with
  | reused found =>
      exact inv.ref refInv (xdk.groupOrder.of_find?_visit found).1
  | @built empty group mgr₁ hw allocated filled programmed =>
      have positive := List.length_pos_of_ne_nil asks
      obtain ⟨laid, ids, size⟩ := nhGroupFill_gained allocated filled
      have length : group.nhMap.length = request.nexthops.length := by
        simpa using congrArg List.length ids
      have shaped : group.Exact :=
        ⟨⟨ids ▸ once, laid, by omega⟩, by omega, by omega⟩
      have base : group.nhId = empty.nhId := by
        have keeps :=
          (nhGroupFill_keeps env mgr.hostIdMap empty request.nexthops).2
        rw [filled] at keeps
        exact keeps
      have pending := inv.alloc positive (fresh _) allocated
      rw [← size, ← base] at pending
      have refInv₁ := refInv.alloc allocated
      refine SlotInv.publish succeeds pending shaped ?_ programmed
      intro route member points
      exact Nat.lt_irrefl _ (refInv₁.below_of_published
        (refInv₁.pointsPublished route member _ points))

theorem SlotInv.routeAdd
    {request : OfprotoRoute}
    (succeeds : xdk.Succeeds)
    (fresh : FreshBlocks mgr xdk)
    (inv : SlotInv mgr none)
    (refInv : RefInv mgr none fun _ => 0)
    (asks : request.nexthops ≠ [])
    (once : (request.nexthops.map (·.id)).Nodup) :
    SlotInv (Routing.routeAdd env xdk mgr request).2 none := by
  generalize result : Routing.routeAdd env xdk mgr request = outcome
  have shape := routeAdd_outcome env xdk mgr request
  rw [result] at shape
  cases shape with
  | noMemory => exact inv
  | @unreachable empty group mgr₁ errno allocated filled =>
      have keeps := (nhGroupFill_keeps env mgr.hostIdMap empty request.nexthops).2
      rw [filled] at keeps
      exact (inv.alloc (List.length_pos_of_ne_nil asks) (fresh _) allocated).free
        keeps
  | @notProgrammed empty group mgr₁ hw allocated programmed =>
      have success := setNextHops_success succeeds mgr₁.hw
        (xdk.nhOrder.visit group.nhMap)
      rw [programmed] at success
      cases success
  | @refused ref mgr₁ errno acquired =>
      obtain ⟨held, published, _⟩ := refInv.acquire acquired
      refine (inv.acquire succeeds fresh refInv asks once acquired).unref held ?_ xdk
      intro other equal
      cases equal
      exact published
  | added acquired =>
      have acquiredInv := inv.acquire succeeds fresh refInv asks once acquired
      refine acquiredInv.withRoutes ?_
      intro route member
      rcases List.mem_cons.mp member with rfl | older
      · exact ⟨rfl, rfl⟩
      · exact acquiredInv.reflects route older

/-- An `ADD` for a route lists next hops that the route either all has or all
lacks. -/
def OverlapFree (mgr : L3Mgr) (request : Request) : Prop :=
  request.action = .add → ∀ pointer,
    pointers mgr request.route.ipPrefix = some pointer →
      (∀ nh ∈ request.route.nexthops, nh.id ∈ pointerIds mgr pointer) ∨
      ∀ nh ∈ request.route.nexthops, nh.id ∉ pointerIds mgr pointer

/-- The requests that keep the slots consistent. -/
structure Exactly (mgr : L3Mgr) (request : Request) : Prop where
  succeeds : request.xdk.Succeeds
  once : (request.route.nexthops.map (·.id)).Nodup
  fresh : FreshBlocks mgr request.xdk
  overlapFree : OverlapFree mgr request

theorem SlotInv.lookup
    (inv : SlotInv mgr none) (ipPrefix : String) :
    SlotInv (routeLookup mgr ipPrefix).2 none := by
  unfold routeLookup
  cases findRoute mgr ipPrefix with
  | none => exact inv
  | some route => exact inv.modifyRoute _ (by intro _; rfl) (by intro _; rfl)

theorem SlotInv.routeUnref
    {locked : Option String} {ipPrefix : String}
    (inv : SlotInv mgr none)
    (refInv : RefInv mgr locked fun _ => 0) :
    SlotInv (Routing.routeUnref xdk mgr ipPrefix) none := by
  unfold Routing.routeUnref
  cases found : findRoute mgr ipPrefix with
  | none => exact inv
  | some route =>
      have member := List.mem_of_find?_eq_some found
      simp only
      split
      · have removed : SlotInv (removeRoute mgr route.ipPrefix) none := by
          refine inv.withRoutes ?_
          intro other otherMember
          exact inv.reflects other (KeyedList.mem_remove.mp otherMember).1
        refine removed.unref (refInv.removeRoute member) ?_ xdk
        intro ref points
        exact refInv.pointsPublished route member ref points
      · exact inv.modifyRoute _ (by intro _; rfl) (by intro _; rfl)

end Requests

/-- A request looks its route up, runs the body of its action, and gives the
reference to the route back.  A property that each of these keeps is kept by the
request. -/
theorem RefInv.step_rule
    {env : Env} {mgr : L3Mgr} {request : Request} {property : L3Mgr → Prop}
    (refInv : RefInv mgr none fun _ => 0)
    (updates : request.xdk.updateIpRouteEntry = true)
    (holds : property mgr)
    (lookup : property (routeLookup mgr request.route.ipPrefix).2)
    (unref : ∀ mgr locked, RefInv mgr locked (fun _ => 0) → property mgr →
      property (Routing.routeUnref request.xdk mgr request.route.ipPrefix))
    (add : request.action = .add → request.route.nexthops ≠ [] →
      property (Routing.routeAdd env request.xdk mgr request.route).2)
    (update : ∀ looked route current, request.action = .add →
      request.route.nexthops ≠ [] →
      looked = (routeLookup mgr request.route.ipPrefix).2 →
      findRoute mgr request.route.ipPrefix = some route →
      RefInv looked (some request.route.ipPrefix) (fun _ => 0) →
      current ∈ looked.routeMap → current.ipPrefix = route.ipPrefix →
      current.nhGroup = route.nhGroup →
      property (Routing.routeUpdate env request.xdk looked request.route route).2)
    (deleteNh : ∀ looked current ref,
      looked = (routeLookup mgr request.route.ipPrefix).2 →
      RefInv looked (some request.route.ipPrefix) (fun _ => 0) →
      current ∈ looked.routeMap → current.ipPrefix = request.route.ipPrefix →
      current.nhGroup = some ref →
      property (Routing.deleteNhFrom env request.xdk looked request.route ref).2) :
    property (Routing.step env mgr request) := by
  have safe : ∀ {α : Prop}, request.xdk.updateIpRouteEntry = false → α := by
    intro α refused
    rw [updates] at refused
    cases refused
  unfold Routing.step routeEntryAction
  split
  · exact holds
  · rename_i asks
    unfold dispatch
    have looked := refInv.lookup request.route.ipPrefix
    cases found : findRoute mgr request.route.ipPrefix with
    | none =>
        cases action : request.action with
        | add =>
            simp only [Routing.addRouteEntry, routeLookup, found]
            exact add action asks
        | delete =>
            simp only [Routing.deleteRouteEntry, routeLookup, found]
            exact holds
        | deleteNh =>
            simp only [Routing.deleteNhEntry, routeLookup, found]
            exact holds
        | unknown => exact holds
    | some route =>
        obtain ⟨routePrefix, current, member, samePrefix, sameGroup⟩ :=
          routeLookup_some found
        simp only [found, Option.isSome_some, if_true] at looked
        cases action : request.action with
        | add =>
            have updated := update _ route current action asks rfl found looked
              member samePrefix sameGroup
            have kept := @RefInv.routeUpdate env request.xdk _ _ request.route _ _
              looked member samePrefix sameGroup safe
            simp only [routeLookup, found] at updated kept
            simp only [Routing.addRouteEntry, routeLookup, found]
            exact unref _ _ kept updated
        | delete =>
            have once := unref _ _ looked lookup
            have unlocked := looked.unlock request.xdk
            simp only [routeLookup, found] at once unlocked
            simp only [Routing.deleteRouteEntry, routeLookup, found]
            exact unref _ _ unlocked once
        | deleteNh =>
            cases pointer : route.nhGroup with
            | none =>
                have released := unref _ _ looked lookup
                simp only [routeLookup, found] at released
                simp only [Routing.deleteNhEntry, routeLookup, found, pointer]
                exact released
            | some ref =>
                have currentPrefix := samePrefix.trans routePrefix
                have currentGroup := sameGroup.trans pointer
                have deleted := deleteNh _ current ref rfl looked member
                  currentPrefix currentGroup
                have kept := @RefInv.deleteNhFrom env request.xdk _ _
                  request.route _ _ looked member currentPrefix currentGroup safe
                simp only [routeLookup, found] at deleted kept
                simp only [Routing.deleteNhEntry, routeLookup, found, pointer]
                exact unref _ _ kept deleted
        | unknown => exact holds

/-- One request keeps the slots consistent. -/
theorem SlotInv.step
    {env : Env} {mgr : L3Mgr} {request : Request}
    (guarded : Exactly mgr request)
    (inv : SlotInv mgr none)
    (refInv : RefInv mgr none fun _ => 0) :
    SlotInv (Routing.step env mgr request) none := by
  have succeeds := guarded.succeeds
  have freshLooked := guarded.fresh.lookup request.route.ipPrefix
  refine @RefInv.step_rule env mgr request (fun mgr => SlotInv mgr none) refInv
    succeeds.updates inv (inv.lookup _) ?_ ?_ ?_ ?_
  · intro current locked currentRef currentInv
    exact currentInv.routeUnref currentRef
  · intro _ asks
    exact inv.routeAdd succeeds guarded.fresh refInv asks guarded.once
  · rintro looked route current action asks rfl found lookedRef member samePrefix
      sameGroup
    have noOverlap := guarded.overlapFree action route.nhGroup
      (by simp [pointers, found])
    refine (inv.lookup _).routeUpdate succeeds freshLooked lookedRef asks
      guarded.once ?_ member samePrefix sameGroup
    simp only [routeLookup, found]
    exact noOverlap
  · rintro looked current ref rfl lookedRef member samePrefix pointer
    exact (inv.lookup _).deleteNhFrom succeeds freshLooked lookedRef member
      samePrefix pointer

theorem SlotInv.consistent {mgr : L3Mgr}
    (inv : SlotInv mgr none)
    (refInv : RefInv mgr none fun _ => 0) : SlotsConsistent mgr where
  sized := fun ref group live => (inv.shaped ref group live).full.symm
  reflects := inv.reflects
  emptied := by
    intro route member noIds
    cases pointer : route.nhGroup with
    | none => rfl
    | some ref =>
        have shaped := inv.exact_of_points refInv member ref pointer
        rw [pointer, pointerIds_some] at noIds
        have length := shaped.full
        have inhabited := shaped.inhabited
        rw [← NhGroup.length_ids, noIds] at length
        simp only [List.length_nil] at length
        omega
  programmed := by
    intro route member slot above below
    obtain ⟨size, base⟩ := inv.reflects route member
    cases pointer : route.nhGroup with
    | none =>
        rw [pointer] at size base
        simp only [pointerSize, pointerBase, Option.map_none, Option.getD_none]
          at size base
        omega
    | some ref =>
        have shaped := inv.exact_of_points refInv member ref pointer
        have live := refInv.live_of_published
          (refInv.pointsPublished route member ref pointer)
        rw [pointer] at size base
        simp only [pointerSize, pointerBase, Option.map_some, Option.getD_some]
          at size base
        have inside : slot - (deref mgr ref).nhId < (deref mgr ref).ids.length := by
          rw [NhGroup.length_ids, shaped.full]
          omega
        obtain ⟨entry, programmed⟩ := inv.programmed ref _ live
          (slot - (deref mgr ref).nhId) _ (List.getElem?_eq_getElem inside)
        have sameSlot : (deref mgr ref).nhId + (slot - (deref mgr ref).nhId) =
            slot := by omega
        rw [sameSlot] at programmed
        exact ⟨_, List.getElem_mem inside, entry, programmed⟩

/-- In every run without overlapping updates, groups, routes and the hardware
next-hop table agree. -/
theorem slotsConsistent_of_reached
    {env : Env} {mgr : L3Mgr}
    (reached : Reached env Exactly mgr) : SlotsConsistent mgr := by
  have inv : RefInv mgr none (fun _ => 0) ∧ SlotInv mgr none := by
    refine Transition.Reach.invariant
      (fun mgr => RefInv mgr none (fun _ => 0) ∧ SlotInv mgr none) ?_ ?_ reached
    · rintro _ ⟨vrfId, hosts, rfl⟩
      refine ⟨l3MgrCreate_refInv vrfId hosts, ?_⟩
      constructor <;> simp [l3MgrCreate]
    · rintro current request ⟨currentRef, currentSlots⟩ guarded
      exact ⟨currentRef.step (.of_succeeds guarded.succeeds),
        currentSlots.step guarded currentRef⟩
  exact inv.2.consistent inv.1

theorem accepting_fresh
    {mgr : L3Mgr} {base : Nat}
    (below : ∀ block ∈ mgr.hw.blocks, block.2 + block.1 ≤ base) :
    FreshBlocks mgr (accepting base) := by
  intro size created equation block member
  have isBase : base = created := Option.some.inj equation
  rw [← isBase]
  exact .inr (below block member)

theorem slotsConsistent_mergeRun :
    SlotsConsistent (Transition.run (step sampleEnv) (l3MgrCreate 0 [])
      mergeRun) := by
  refine slotsConsistent_of_reached
    (.next (.next (.start ⟨0, [], rfl⟩) ?_) ?_)
  · refine ⟨accepting_succeeds 0, by decide, ?_, ?_⟩
    · exact accepting_fresh (by decide)
    · intro _ pointer points
      cases points
  · refine ⟨accepting_succeeds 10, by decide, ?_, ?_⟩
    · exact accepting_fresh (by decide)
    · intro _ pointer points
      have isPointer : some 0 = pointer := Option.some.inj points
      rw [← isPointer]
      exact .inr (by decide)

/-- The second request repeats the next hop of the route and adds another. -/
def repeatRun : List Request :=
  [sampleRequest .add "10.0.1.0/24" ["1.1.1.1"] (accepting 0),
   sampleRequest .add "10.0.1.0/24" ["1.1.1.1", "2.2.2.2"] (accepting 10)]

/-- Three slots are reserved and announced for two next hops, and the third is
never programmed. -/
theorem not_slotsConsistent_repeatRun :
    Reached sampleEnv
      (fun mgr request => request.xdk.Succeeds ∧
        (request.route.nexthops.map (·.id)).Nodup ∧ FreshBlocks mgr request.xdk)
      (Transition.run (step sampleEnv) (l3MgrCreate 0 []) repeatRun) ∧
    ¬SlotsConsistent (Transition.run (step sampleEnv) (l3MgrCreate 0 [])
      repeatRun) := by
  constructor
  · refine .next (.next (.start ⟨0, [], rfl⟩)
      ⟨accepting_succeeds 0, by decide, ?_⟩) ⟨accepting_succeeds 10, by decide, ?_⟩
    · exact accepting_fresh (by decide)
    · exact accepting_fresh (by decide)
  · intro consistent
    have published : ∃ group ∈ (Transition.run (step sampleEnv)
        (l3MgrCreate 0 []) repeatRun).groups 1,
        group.size = 3 ∧ group.nhMap.length = 2 := by decide
    obtain ⟨group, live, size, length⟩ := published
    have sized := consistent.sized 1 group live
    omega

end Routing
end XpliantSwitchd
