import XpliantSwitchd.Routing.Outcomes
import XpliantSwitchd.Lib.Transition

/-!
# Reference counting of next-hop groups

The invariant of this module counts references: a live group is referenced by
the routes that point to it and by the pointers a running function holds.  Each
primitive moves references between the two, and the requests are chains of such
moves.  The one step that breaks the count is the error exit taken when the
hardware refuses to update a route: it deletes the selected group outright, also
when the group is an older one that other routes use.
-/

namespace XpliantSwitchd
namespace Routing

/-- Number of routes that point to a group. -/
def routeRefs (mgr : L3Mgr) (ref : GroupRef) : Nat :=
  mgr.routeMap.countP fun route => route.nhGroup == some ref

/-- The reference property that holds between requests. -/
structure RefsConsistent (mgr : L3Mgr) : Prop where
  /-- A route points to nothing or to a live, published group. -/
  pointsLive : ∀ route ∈ mgr.routeMap, ∀ ref, route.nhGroup = some ref →
    (mgr.groups ref).isSome ∧ ref ∈ mgr.nhGroupMap
  /-- A live group counts the routes that point to it, and there is one. -/
  counted : ∀ ref group, mgr.groups ref = some group →
    group.refCnt = routeRefs mgr ref ∧ 1 ≤ group.refCnt

/-- Add one local pointer, if it is not null, to the ones already held. -/
def hold (held : GroupRef → Nat) (pointer : Option GroupRef) : GroupRef → Nat :=
  fun ref => held ref + if pointer = some ref then 1 else 0

@[simp] theorem hold_none (held : GroupRef → Nat) : hold held none = held := by
  funext ref
  simp [hold]

/-- The reference invariant inside a request: `locked` is the prefix of the
route the request has looked up, and `held` counts its local pointers. -/
structure RefInv (mgr : L3Mgr) (locked : Option String)
    (held : GroupRef → Nat) : Prop where
  pointsPublished : ∀ route ∈ mgr.routeMap, ∀ ref,
    route.nhGroup = some ref → ref ∈ mgr.nhGroupMap
  publishedLive : ∀ ref, ref ∈ mgr.nhGroupMap ↔ (mgr.groups ref).isSome
  publishedOnce : mgr.nhGroupMap.Nodup
  counted : ∀ ref group, mgr.groups ref = some group →
    group.refCnt = routeRefs mgr ref + held ref ∧ 1 ≤ group.refCnt
  fresh : ∀ ref, mgr.nextRef ≤ ref → mgr.groups ref = none
  prefixesOnce : (mgr.routeMap.map (·.ipPrefix)).Nodup
  routeCounted : ∀ route ∈ mgr.routeMap,
    route.refCnt = if locked = some route.ipPrefix then 2 else 1

theorem RefInv.refsConsistent {mgr : L3Mgr}
    (inv : RefInv mgr none fun _ => 0) : RefsConsistent mgr where
  pointsLive := by
    intro route member ref points
    have published := inv.pointsPublished route member ref points
    exact ⟨(inv.publishedLive ref).mp published, published⟩
  counted := by
    intro ref group live
    simpa using inv.counted ref group live

/-- The invariant does not look at the hardware. -/
theorem RefInv.withHw {mgr : L3Mgr} {locked : Option String}
    {held : GroupRef → Nat}
    (inv : RefInv mgr locked held) (hw : NextHopTable) :
    RefInv { mgr with hw := hw } locked held :=
  ⟨inv.pointsPublished, inv.publishedLive, inv.publishedOnce, inv.counted,
    inv.fresh, inv.prefixesOnce, inv.routeCounted⟩

theorem l3MgrCreate_refInv (vrfId : Nat) (hosts : List HostEntry) :
    RefInv (l3MgrCreate vrfId hosts) none fun _ => 0 := by
  constructor <;> simp [l3MgrCreate]

/-! ## Primitives -/

/-- Deleting a group that no route and no other pointer refers to. -/
theorem RefInv.delete
    {mgr : L3Mgr} {locked : Option String} {held : GroupRef → Nat}
    {ref : GroupRef}
    (inv : RefInv mgr locked (hold held (some ref)))
    (unrouted : routeRefs mgr ref = 0)
    (unheld : held ref = 0)
    (xdk : Outcome) (group : NhGroup) :
    RefInv (nhGroupDelete xdk mgr group (some ref)) locked held := by
  obtain ⟨hw, equation⟩ := nhGroupDelete_published xdk mgr group ref
  rw [equation]
  refine ⟨?_, ?_, ?_, ?_, ?_, inv.prefixesOnce, inv.routeCounted⟩
  · intro route member other points
    have different : other ≠ ref := by
      rintro rfl
      have notCounted := List.countP_eq_zero.mp unrouted route member
      simp [points] at notCounted
    exact (List.mem_erase_of_ne different).mpr
      (inv.pointsPublished route member other points)
  · intro other
    rw [inv.publishedOnce.mem_erase_iff, inv.publishedLive other]
    by_cases equal : other = ref
    · subst equal
      simp
    · simp [equal]
  · exact inv.publishedOnce.erase ref
  · intro other current live
    have different : other ≠ ref := by
      rintro rfl
      simp at live
    have older : mgr.groups other = some current := by
      simpa [Function.update_of_ne different] using live
    have counted := inv.counted other current older
    simp only [hold, Option.some.injEq, Ne.symm different, if_false,
      Nat.add_zero] at counted
    exact counted
  · intro other above
    by_cases equal : other = ref
    · subst equal
      simp
    · simpa [Function.update_of_ne equal] using inv.fresh other above

/-- Writing back a group with another reference count. -/
theorem RefInv.storeCount
    {mgr : L3Mgr} {locked : Option String} {held held' : GroupRef → Nat}
    {ref : GroupRef} {group : NhGroup}
    (inv : RefInv mgr locked held)
    (published : ref ∈ mgr.nhGroupMap)
    (count : group.refCnt = routeRefs mgr ref + held' ref)
    (positive : 1 ≤ group.refCnt)
    (others : ∀ other, other ≠ ref → held' other = held other) :
    RefInv (store mgr ref (some group)) locked held' := by
  refine ⟨inv.pointsPublished, ?_, inv.publishedOnce, ?_, ?_,
    inv.prefixesOnce, inv.routeCounted⟩
  · intro other
    by_cases equal : other = ref
    · subst equal
      simp [store, published]
    · simpa [store, Function.update_of_ne equal] using inv.publishedLive other
  · intro other current live
    by_cases equal : other = ref
    · subst equal
      have same : group = current := by simpa [store] using live
      subst same
      exact ⟨count, positive⟩
    · have older : mgr.groups other = some current := by
        simpa [store, Function.update_of_ne equal] using live
      rw [others other equal]
      exact inv.counted other current older
  · intro other above
    have different : other ≠ ref := by
      rintro rfl
      have live := (inv.publishedLive other).mp published
      simp [inv.fresh other above] at live
    simpa [store, Function.update_of_ne different] using inv.fresh other above

theorem RefInv.live_of_published
    {mgr : L3Mgr} {locked : Option String} {held : GroupRef → Nat}
    {ref : GroupRef}
    (inv : RefInv mgr locked held)
    (published : ref ∈ mgr.nhGroupMap) :
    mgr.groups ref = some (deref mgr ref) := by
  obtain ⟨group, live⟩ :=
    Option.isSome_iff_exists.mp ((inv.publishedLive ref).mp published)
  rw [live, deref_of_live live]

/-- `nh_group_unref` gives up one local pointer. -/
theorem RefInv.unref
    {mgr : L3Mgr} {locked : Option String} {held : GroupRef → Nat}
    {pointer : Option GroupRef}
    (inv : RefInv mgr locked (hold held pointer))
    (published : ∀ ref, pointer = some ref → ref ∈ mgr.nhGroupMap)
    (xdk : Outcome) :
    RefInv (nhGroupUnref xdk mgr pointer) locked held := by
  cases pointer with
  | none => simpa [nhGroupUnref] using inv
  | some ref =>
      have inMap := published ref rfl
      have live := inv.live_of_published inMap
      obtain ⟨count, positive⟩ := inv.counted ref _ live
      simp only [hold, if_true] at count
      simp only [nhGroupUnref]
      split
      · rename_i last
        have unrouted : routeRefs mgr ref = 0 := by omega
        have unheld : held ref = 0 := by omega
        exact inv.delete unrouted unheld xdk _
      · rename_i shared
        refine inv.storeCount inMap ?_ ?_ ?_
        · simp only
          omega
        · simp only
          omega
        · intro other different
          simp [hold, Ne.symm different]

/-- A successful lookup takes one more reference. -/
theorem RefInv.ref
    {mgr : L3Mgr} {locked : Option String} {held : GroupRef → Nat}
    {ref : GroupRef}
    (inv : RefInv mgr locked held)
    (published : ref ∈ mgr.nhGroupMap) :
    RefInv (nhGroupRef mgr ref) locked (hold held (some ref)) := by
  obtain ⟨count, positive⟩ := inv.counted ref _ (inv.live_of_published published)
  refine inv.storeCount published ?_ ?_ ?_
  · simp only [hold, if_true]
    omega
  · simp only
    omega
  · intro other different
    simp [hold, Ne.symm different]

/-- A published group starts with the pointer of the function that built
it. -/
theorem RefInv.publish
    {mgr : L3Mgr} {locked : Option String} {held : GroupRef → Nat}
    (inv : RefInv mgr locked held)
    (unheld : held mgr.nextRef = 0)
    {group : NhGroup}
    (once : group.refCnt = 1) :
    RefInv (publish mgr group) locked (hold held (some mgr.nextRef)) ∧
      routeRefs (Routing.publish mgr group) mgr.nextRef = 0 := by
  have dead : mgr.groups mgr.nextRef = none := inv.fresh _ (Nat.le_refl _)
  have unpublished : mgr.nextRef ∉ mgr.nhGroupMap := by
    intro member
    have live := (inv.publishedLive _).mp member
    simp [dead] at live
  have unrouted : routeRefs mgr mgr.nextRef = 0 := by
    apply List.countP_eq_zero.mpr
    intro route member points
    simp only [beq_iff_eq] at points
    exact unpublished (inv.pointsPublished route member _ points)
  refine ⟨⟨?_, ?_, ?_, ?_, ?_, inv.prefixesOnce, inv.routeCounted⟩, unrouted⟩
  · intro route member ref points
    exact List.mem_cons_of_mem _ (inv.pointsPublished route member ref points)
  · intro ref
    by_cases equal : ref = mgr.nextRef
    · simp [Routing.publish, equal]
    · simpa [Routing.publish, equal, Function.update_of_ne equal]
        using inv.publishedLive ref
  · exact List.nodup_cons.mpr ⟨unpublished, inv.publishedOnce⟩
  · intro ref current live
    by_cases equal : ref = mgr.nextRef
    · subst equal
      have same : group = current := by simpa [Routing.publish] using live
      subst same
      have counted : routeRefs (Routing.publish mgr group) mgr.nextRef = 0 :=
        unrouted
      rw [counted]
      simp [hold, unheld, once]
    · have older : mgr.groups ref = some current := by
        simpa [Routing.publish, Function.update_of_ne equal] using live
      have counted := inv.counted ref current older
      simp only [hold, Option.some.injEq, Ne.symm equal, if_false,
        Nat.add_zero]
      exact counted
  · intro ref above
    have different : ref ≠ mgr.nextRef := Nat.ne_of_gt above
    have below : mgr.nextRef ≤ ref := Nat.le_of_succ_le above
    simpa [Routing.publish, Function.update_of_ne different]
      using inv.fresh ref below

/-! ## Routes -/

/-- Rewriting fields that references do not depend on. -/
theorem RefInv.modifyRoute
    {mgr : L3Mgr} {locked locked' : Option String} {held : GroupRef → Nat}
    (inv : RefInv mgr locked held)
    (ipPrefix : String)
    (change : RouteEntry → RouteEntry)
    (keepsPrefix : ∀ route, (change route).ipPrefix = route.ipPrefix)
    (keepsGroup : ∀ route, (change route).nhGroup = route.nhGroup)
    (counts : ∀ route ∈ mgr.routeMap,
      (if route.ipPrefix = ipPrefix then change route else route).refCnt =
        if locked' = some route.ipPrefix then 2 else 1) :
    RefInv (modifyRoute mgr ipPrefix change) locked' held := by
  have sameRefs : ∀ ref,
      routeRefs (Routing.modifyRoute mgr ipPrefix change) ref =
        routeRefs mgr ref := by
    intro ref
    unfold routeRefs Routing.modifyRoute KeyedList.rewrite
    rw [List.countP_map]
    apply List.countP_congr
    intro route _
    by_cases selected : route.ipPrefix = ipPrefix
    · simp [selected, keepsGroup]
    · simp [selected]
  refine ⟨?_, inv.publishedLive, inv.publishedOnce, ?_, inv.fresh, ?_, ?_⟩
  · intro route member ref points
    rcases KeyedList.mem_rewrite.mp member with
      ⟨old, oldMember, _, rfl⟩ | ⟨oldMember, _⟩
    · rw [keepsGroup] at points
      exact inv.pointsPublished old oldMember ref points
    · exact inv.pointsPublished route oldMember ref points
  · intro ref group live
    rw [sameRefs]
    exact inv.counted ref group live
  · rw [Routing.modifyRoute, KeyedList.map_rewrite fun route _ _ => keepsPrefix route]
    exact inv.prefixesOnce
  · intro route member
    rcases KeyedList.mem_rewrite.mp member with
      ⟨old, oldMember, selected, rfl⟩ | ⟨oldMember, different⟩
    · have count := counts old oldMember
      rw [if_pos selected] at count
      rw [keepsPrefix]
      exact count
    · have count := counts route oldMember
      rw [if_neg different] at count
      exact count

/-- `route_lookup` takes a reference to the route. -/
theorem RefInv.lookup
    {mgr : L3Mgr} {held : GroupRef → Nat}
    (inv : RefInv mgr none held)
    (ipPrefix : String) :
    RefInv (routeLookup mgr ipPrefix).2
      (if (findRoute mgr ipPrefix).isSome then some ipPrefix else none) held := by
  unfold routeLookup
  cases found : findRoute mgr ipPrefix with
  | none => simpa using inv
  | some route =>
      refine inv.modifyRoute _ _ (fun _ => rfl) (fun _ => rfl) ?_
      intro other member
      have single := inv.routeCounted other member
      by_cases selected : other.ipPrefix = ipPrefix
      · simp_all
      · simp_all [Ne.symm selected]

/-- `route_unref` gives the reference of `route_lookup` back. -/
theorem RefInv.unlock
    {mgr : L3Mgr} {held : GroupRef → Nat} {ipPrefix : String}
    (inv : RefInv mgr (some ipPrefix) held)
    (xdk : Outcome) :
    RefInv (routeUnref xdk mgr ipPrefix) none held := by
  unfold routeUnref
  cases found : findRoute mgr ipPrefix with
  | none =>
      refine ⟨inv.pointsPublished, inv.publishedLive, inv.publishedOnce,
        inv.counted, inv.fresh, inv.prefixesOnce, ?_⟩
      intro route member
      have different : ¬route.ipPrefix = ipPrefix := by
        simpa using List.find?_eq_none.mp found route member
      have count := inv.routeCounted route member
      simpa [Ne.symm different] using count
  | some route =>
      have routeMember := List.mem_of_find?_eq_some found
      have routePrefix : route.ipPrefix = ipPrefix := by
        simpa using List.find?_some found
      have twice : route.refCnt = 2 := by
        simpa [routePrefix] using inv.routeCounted route routeMember
      simp only [twice]
      refine inv.modifyRoute _ _ (fun _ => rfl) (fun _ => rfl) ?_
      intro other member
      have count := inv.routeCounted other member
      by_cases selected : other.ipPrefix = ipPrefix
      · simp_all
      · simp_all [Ne.symm selected]

/-- Writing `nh_group` of a route trades the pointer to the new group for the
one to the old group. -/
theorem RefInv.setGroup
    {mgr : L3Mgr} {locked : Option String} {held : GroupRef → Nat}
    {new : Option GroupRef} {route : RouteEntry}
    (inv : RefInv mgr locked (hold held new))
    (published : ∀ ref, new = some ref → ref ∈ mgr.nhGroupMap)
    (member : route ∈ mgr.routeMap) :
    RefInv (Routing.modifyRoute mgr route.ipPrefix fun route =>
        { route with nhGroup := new }) locked (hold held route.nhGroup) := by
  refine ⟨?_, inv.publishedLive, inv.publishedOnce, ?_, inv.fresh, ?_, ?_⟩
  · intro other otherMember ref points
    rcases KeyedList.mem_rewrite.mp otherMember with
      ⟨old, _, _, rfl⟩ | ⟨oldMember, _⟩
    · exact published ref points
    · exact inv.pointsPublished other oldMember ref points
  · intro ref group live
    obtain ⟨count, positive⟩ := inv.counted ref group live
    have moved := KeyedList.countP_rewrite inv.prefixesOnce member rfl
      (fun route : RouteEntry => { route with nhGroup := new })
      fun route => route.nhGroup == some ref
    simp only [beq_iff_eq] at moved
    refine ⟨?_, positive⟩
    simp only [hold, routeRefs, Routing.modifyRoute] at count ⊢
    omega
  · rw [Routing.modifyRoute, KeyedList.map_rewrite (by intro _ _ _; rfl)]
    exact inv.prefixesOnce
  · intro other otherMember
    rcases KeyedList.mem_rewrite.mp otherMember with
      ⟨old, oldMember, _, rfl⟩ | ⟨oldMember, _⟩
    · exact inv.routeCounted old oldMember
    · exact inv.routeCounted other oldMember

/-- Taking a route out of `route_map` leaves its group to the caller. -/
theorem RefInv.removeRoute
    {mgr : L3Mgr} {locked : Option String} {held : GroupRef → Nat}
    {route : RouteEntry}
    (inv : RefInv mgr locked held)
    (member : route ∈ mgr.routeMap) :
    RefInv (Routing.removeRoute mgr route.ipPrefix) locked
      (hold held route.nhGroup) := by
  refine ⟨?_, inv.publishedLive, inv.publishedOnce, ?_, inv.fresh,
    KeyedList.nodup_remove inv.prefixesOnce, ?_⟩
  · intro other otherMember ref points
    exact inv.pointsPublished other (KeyedList.mem_remove.mp otherMember).1
      ref points
  · intro ref group live
    obtain ⟨count, positive⟩ := inv.counted ref group live
    have removed := KeyedList.countP_remove inv.prefixesOnce member rfl
      fun route => route.nhGroup == some ref
    simp only [beq_iff_eq] at removed
    refine ⟨?_, positive⟩
    simp only [hold, routeRefs, Routing.removeRoute] at count ⊢
    omega
  · intro other otherMember
    exact inv.routeCounted other (KeyedList.mem_remove.mp otherMember).1

/-- `route_unref` of an unlocked route deletes it and releases its group. -/
theorem RefInv.unrefLast
    {mgr : L3Mgr}
    (inv : RefInv mgr none fun _ => 0)
    (xdk : Outcome) (ipPrefix : String) :
    RefInv (routeUnref xdk mgr ipPrefix) none fun _ => 0 := by
  unfold routeUnref
  cases found : findRoute mgr ipPrefix with
  | none => exact inv
  | some route =>
      have member := List.mem_of_find?_eq_some found
      have once : route.refCnt = 1 := by
        simpa using inv.routeCounted route member
      simp only [once, if_true]
      refine (inv.removeRoute member).unref ?_ xdk
      intro ref points
      exact inv.pointsPublished route member ref points

/-- A new route takes over the pointer to its group. -/
theorem RefInv.insertRoute
    {mgr : L3Mgr} {held : GroupRef → Nat} {route : RouteEntry}
    (inv : RefInv mgr none (hold held route.nhGroup))
    (published : ∀ ref, route.nhGroup = some ref → ref ∈ mgr.nhGroupMap)
    (absent : ∀ other ∈ mgr.routeMap, other.ipPrefix ≠ route.ipPrefix)
    (once : route.refCnt = 1) :
    RefInv (Routing.insertRoute mgr route) none held := by
  refine ⟨?_, inv.publishedLive, inv.publishedOnce, ?_, inv.fresh, ?_, ?_⟩
  · intro other member ref points
    rcases List.mem_cons.mp member with rfl | older
    · exact published ref points
    · exact inv.pointsPublished other older ref points
  · intro ref group live
    obtain ⟨count, positive⟩ := inv.counted ref group live
    refine ⟨?_, positive⟩
    simp only [hold, routeRefs, Routing.insertRoute, List.countP_cons,
      beq_iff_eq] at count ⊢
    omega
  · refine List.nodup_cons.mpr ⟨?_, inv.prefixesOnce⟩
    intro member
    obtain ⟨other, otherMember, equal⟩ := List.mem_map.mp member
    exact absent other otherMember equal
  · intro other member
    rcases List.mem_cons.mp member with rfl | older
    · simpa using once
    · exact inv.routeCounted other older

/-! ## Selecting and committing a group -/

/-- The selected group is held by the caller; a freshly published one is
referenced by no route. -/
theorem RefInv.select
    {mgr mgr' : L3Mgr} {locked : Option String} {xdk : Outcome}
    {group : NhGroup} {ref : GroupRef}
    (inv : RefInv mgr locked fun _ => 0)
    (once : group.refCnt = 1)
    (selected : selectGroup xdk mgr group = (some ref, mgr')) :
    RefInv mgr' locked (hold (fun _ => 0) (some ref)) ∧
      ref ∈ mgr'.nhGroupMap ∧ mgr'.routeMap = mgr.routeMap ∧
      (nhGroupLookupByGroup xdk mgr group = none → routeRefs mgr' ref = 0) := by
  rcases selectGroup_cases xdk mgr group with
    ⟨found, lookup, equation⟩ | ⟨hw, lookup, _, equation⟩ |
    ⟨hw, lookup, _, equation⟩
  · rw [equation] at selected
    cases selected
    have published := nhGroupLookupByGroup_published lookup
    exact ⟨(inv.ref published).withHw _, published, rfl, by simp [lookup]⟩
  · rw [equation] at selected
    cases selected
    obtain ⟨held, unrouted⟩ := (inv.withHw hw).publish rfl once
    exact ⟨held, List.mem_cons_self .., rfl, fun _ => unrouted⟩
  · rw [equation] at selected
    cases selected

theorem RefInv.select_none
    {mgr mgr' : L3Mgr} {locked : Option String} {held : GroupRef → Nat}
    {xdk : Outcome} {group : NhGroup}
    (inv : RefInv mgr locked held)
    (selected : selectGroup xdk mgr group = (none, mgr')) :
    RefInv mgr' locked held := by
  rcases selectGroup_cases xdk mgr group with
    ⟨found, lookup, equation⟩ | ⟨hw, lookup, _, equation⟩ |
    ⟨hw, lookup, _, equation⟩
  · rw [equation] at selected
    cases selected
  · rw [equation] at selected
    cases selected
  · rw [equation] at selected
    cases selected
    exact inv.withHw _

theorem RefInv.writeHwRoute
    {mgr : L3Mgr} {locked : Option String} {held : GroupRef → Nat}
    (inv : RefInv mgr locked held)
    (ipPrefix : String) (group : Option NhGroup) :
    RefInv (Routing.modifyRoute mgr ipPrefix (writeHwRoute group))
      locked held := by
  refine inv.modifyRoute _ _ (fun _ => rfl) (fun _ => rfl) ?_
  intro route member
  have count := inv.routeCounted route member
  by_cases selected : route.ipPrefix = ipPrefix
  · simpa [selected, Routing.writeHwRoute] using count
  · simpa [selected] using count

/-- A committed route holds the new group, and the caller is left with the
pointer to the old one. -/
theorem RefInv.pointed
    {mgr : L3Mgr} {locked : Option String} {new : Option GroupRef}
    {route : RouteEntry}
    (inv : RefInv mgr locked (hold (fun _ => 0) new))
    (published : ∀ ref, new = some ref → ref ∈ mgr.nhGroupMap)
    (member : route ∈ mgr.routeMap) :
    RefInv
      (Routing.modifyRoute
        (Routing.modifyRoute mgr route.ipPrefix
          (Routing.writeHwRoute (new.map (deref mgr))))
        route.ipPrefix fun route => { route with nhGroup := new })
      locked (hold (fun _ => 0) route.nhGroup) := by
  have written := inv.writeHwRoute route.ipPrefix (new.map (deref mgr))
  have writtenMember :
      Routing.writeHwRoute (new.map (deref mgr)) route ∈
        (Routing.modifyRoute mgr route.ipPrefix
          (Routing.writeHwRoute (new.map (deref mgr)))).routeMap :=
    KeyedList.mem_rewrite.mpr (.inl ⟨route, member, rfl, rfl⟩)
  have moved := written.setGroup published writtenMember
  exact moved

/-- Committing keeps the invariant, provided a refused update does not meet a
group that routes refer to. -/
theorem RefInv.commit
    {mgr : L3Mgr} {locked : Option String} {new : Option GroupRef}
    {route : RouteEntry} {xdk : Outcome}
    (inv : RefInv mgr locked (hold (fun _ => 0) new))
    (published : ∀ ref, new = some ref → ref ∈ mgr.nhGroupMap)
    (member : route ∈ mgr.routeMap)
    (unshared : xdk.updateIpRouteEntry = false →
      ∀ ref, new = some ref → routeRefs mgr ref = 0)
    (failure : Errno) :
    RefInv (commitGroup xdk mgr route.ipPrefix route.nhGroup new failure).2
      locked fun _ => 0 := by
  have written := inv.writeHwRoute route.ipPrefix (new.map (deref mgr))
  cases update : xdk.updateIpRouteEntry with
  | true =>
      rw [commitGroup_success update]
      refine RefInv.unref (inv.pointed published member) ?_ xdk
      intro ref points
      exact inv.pointsPublished route member ref points
  | false =>
      cases new with
      | none =>
          rw [hold_none] at written
          simp only [commitGroup, update]
          exact written
      | some ref =>
          simp only [commitGroup, update]
          refine written.delete ?_ rfl xdk _
          have before := unshared update ref rfl
          unfold routeRefs Routing.modifyRoute KeyedList.rewrite at *
          rw [List.countP_map]
          rw [List.countP_eq_zero] at before ⊢
          intro other otherMember points
          apply before other otherMember
          by_cases selected : other.ipPrefix = route.ipPrefix
          · simpa [selected, Routing.writeHwRoute] using points
          · simpa [selected] using points

/-! ## Requests -/

/-- The group `route_update` would hand to `nh_group_lookup_by_group`. -/
def updateCandidate (env : Env) (xdk : Outcome) (mgr : L3Mgr)
    (request : OfprotoRoute) (pointer : Option GroupRef) : Option NhGroup :=
  let old := pointer.map (deref mgr)
  if needsNewGroup xdk old request.nexthops then
    (nhGroupAlloc env xdk mgr
        (request.nexthops.length + (old.map (·.size)).getD 0)).1.bind fun empty =>
      match mergedGroup env xdk mgr.hostIdMap empty old request.nexthops with
      | (group, none) => some group
      | (_, some _) => none
  else none

/-- The group `delete_nh_entry` would hand to `nh_group_lookup_by_group`. -/
def deleteCandidate (env : Env) (xdk : Outcome) (mgr : L3Mgr)
    (request : OfprotoRoute) (ref : GroupRef) : Option NhGroup :=
  let old := deref mgr ref
  let removed := (xdk.nhOrder.visit old.nhMap).countP (isListed request)
  if old.size > removed then
    (nhGroupAlloc env xdk mgr (old.size - removed)).1.map fun empty =>
      nhInsertAll env empty
        ((xdk.nhOrder.visit old.nhMap).filter (!isListed request ·))
  else none

/-- The group with the next hops that a request leaves a route with. -/
def candidateGroup (env : Env) (mgr : L3Mgr) (request : Request) :
    Option NhGroup :=
  (findRoute mgr request.route.ipPrefix).bind fun route =>
    match request.action with
    | .add => updateCandidate env request.xdk mgr request.route route.nhGroup
    | .deleteNh =>
        route.nhGroup.bind
          (deleteCandidate env request.xdk mgr request.route)
    | _ => none

/-- A request leaves a route with next hops for which `nh_group_map` already
holds a group. -/
def ReusesGroup (env : Env) (mgr : L3Mgr) (request : Request) : Prop :=
  ∃ group, candidateGroup env mgr request = some group ∧
    (nhGroupLookupByGroup request.xdk mgr group).isSome

theorem mergedGroup_refCnt
    {env : Env} {xdk : Outcome} {hosts : List HostEntry}
    {empty group : NhGroup} {old : Option NhGroup}
    {nexthops : List RouteNexthop} {rc : Option Errno}
    (merged : mergedGroup env xdk hosts empty old nexthops = (group, rc)) :
    group.refCnt = empty.refCnt := by
  have keeps := (nhGroupUpdate_keeps env xdk hosts (nhInsertAll env empty
    ((old.map fun group => xdk.nhOrder.visit group.nhMap).getD []))
    nexthops).1
  unfold mergedGroup at merged
  rw [merged, nhInsertAll_refCnt] at keeps
  exact keeps

theorem RefInv.alloc
    {env : Env} {xdk : Outcome} {mgr mgr' : L3Mgr} {size : Nat}
    {result : Option NhGroup} {locked : Option String} {held : GroupRef → Nat}
    (inv : RefInv mgr locked held)
    (allocated : nhGroupAlloc env xdk mgr size = (result, mgr')) :
    RefInv mgr' locked held := by
  cases result with
  | none => exact nhGroupAlloc_none allocated ▸ inv
  | some group =>
      rw [(nhGroupAlloc_some allocated).2.2.2]
      exact inv.withHw _

theorem RefInv.storeUpdated
    {env : Env} {xdk : Outcome} {mgr : L3Mgr} {locked : Option String}
    {requests : List RouteNexthop} {ref : GroupRef} {group : NhGroup}
    {rc : Option Errno}
    (inv : RefInv mgr locked fun _ => 0)
    (published : ref ∈ mgr.nhGroupMap)
    (updated : nhGroupUpdate env xdk mgr.hostIdMap (deref mgr ref) requests =
      (group, rc)) :
    RefInv (store mgr ref (some group)) locked fun _ => 0 := by
  obtain ⟨count, positive⟩ := inv.counted ref _ (inv.live_of_published published)
  have keeps := (nhGroupUpdate_keeps env xdk mgr.hostIdMap (deref mgr ref)
    requests).1
  rw [updated] at keeps
  exact inv.storeCount published (keeps.trans count) (keeps ▸ positive)
    fun _ _ => rfl

theorem RefInv.routeUpdate
    {env : Env} {xdk : Outcome} {mgr : L3Mgr} {locked : Option String}
    {request : OfprotoRoute} {route current : RouteEntry}
    (inv : RefInv mgr locked fun _ => 0)
    (member : current ∈ mgr.routeMap)
    (samePrefix : current.ipPrefix = route.ipPrefix)
    (sameGroup : current.nhGroup = route.nhGroup)
    (safe : xdk.updateIpRouteEntry = false → ∀ group,
      updateCandidate env xdk mgr request route.nhGroup = some group →
      nhGroupLookupByGroup xdk mgr group = none) :
    RefInv (routeUpdate env xdk mgr request route).2 locked fun _ => 0 := by
  have published : ∀ ref, route.nhGroup = some ref → ref ∈ mgr.nhGroupMap := by
    intro ref pointer
    exact inv.pointsPublished current member ref (sameGroup.trans pointer)
  generalize result : Routing.routeUpdate env xdk mgr request route = outcome
  have shape := routeUpdate_outcome env xdk mgr request route
  rw [result] at shape
  cases shape with
  | noMemory => exact inv
  | unreachable allocated _ => exact (inv.alloc allocated).withHw _
  | notProgrammed allocated chosen =>
      exact (inv.alloc allocated).select_none chosen
  | stopped _ pointer updated => exact inv.storeUpdated (published _ pointer) updated
  | inPlace _ pointer updated _ =>
      exact (inv.storeUpdated (published _ pointer) updated).withHw _
  | noGroup => exact inv
  | @regrouped empty group mgr₁ mgr₂ ref building allocated merged chosen =>
      have once : group.refCnt = 1 := by
        rw [mergedGroup_refCnt merged, (nhGroupAlloc_some allocated).2.2.1]
      have candidate :
          updateCandidate env xdk mgr request route.nhGroup = some group := by
        simp only [updateCandidate, building, if_true, allocated,
          Option.bind_some, merged]
      have sameLookup : nhGroupLookupByGroup xdk mgr₁ group =
          nhGroupLookupByGroup xdk mgr group := by
        rw [(nhGroupAlloc_some allocated).2.2.2]
        rfl
      have sameRoutes₁ : mgr₁.routeMap = mgr.routeMap := by
        rw [(nhGroupAlloc_some allocated).2.2.2]
      obtain ⟨held, inMap, sameRoutes, unrouted⟩ :=
        (inv.alloc allocated).select once chosen
      have stillMember : current ∈ mgr₂.routeMap := by
        rw [sameRoutes, sameRoutes₁]
        exact member
      rw [← samePrefix, ← sameGroup]
      refine held.commit ?_ stillMember ?_ _
      · intro other equal
        cases equal
        exact inMap
      · intro refused other equal
        cases equal
        exact unrouted (sameLookup.trans (safe refused group candidate))

theorem RefInv.acquire
    {env : Env} {xdk : Outcome} {mgr mgr' : L3Mgr} {request : OfprotoRoute}
    {ref : GroupRef}
    (inv : RefInv mgr none fun _ => 0)
    (acquired : Acquired env xdk mgr request ref mgr') :
    RefInv mgr' none (hold (fun _ => 0) (some ref)) ∧
      ref ∈ mgr'.nhGroupMap ∧ mgr'.routeMap = mgr.routeMap := by
  cases acquired with
  | reused found =>
      have published := (xdk.groupOrder.of_find?_visit found).1
      exact ⟨inv.ref published, published, rfl⟩
  | @built empty group mgr₁ hw allocated filled programmed =>
      have once : group.refCnt = 1 := by
        have keeps :=
          (nhGroupFill_keeps env mgr.hostIdMap empty request.nexthops).1
        rw [filled, (nhGroupAlloc_some allocated).2.2.1] at keeps
        exact keeps
      have sameRoutes : mgr₁.routeMap = mgr.routeMap := by
        rw [(nhGroupAlloc_some allocated).2.2.2]
      obtain ⟨held, _⟩ := ((inv.alloc allocated).withHw hw).publish rfl once
      exact ⟨held, List.mem_cons_self .., sameRoutes⟩

theorem RefInv.routeAdd
    {env : Env} {xdk : Outcome} {mgr : L3Mgr} {request : OfprotoRoute}
    (inv : RefInv mgr none fun _ => 0)
    (absent : findRoute mgr request.ipPrefix = none) :
    RefInv (routeAdd env xdk mgr request).2 none fun _ => 0 := by
  generalize result : Routing.routeAdd env xdk mgr request = outcome
  have shape := routeAdd_outcome env xdk mgr request
  rw [result] at shape
  cases shape with
  | noMemory => exact inv
  | unreachable allocated _ => exact (inv.alloc allocated).withHw _
  | notProgrammed allocated _ => exact (inv.alloc allocated).withHw _
  | refused acquired =>
      obtain ⟨held, published, _⟩ := inv.acquire acquired
      refine held.unref ?_ xdk
      intro other equal
      cases equal
      exact published
  | added acquired =>
      obtain ⟨held, published, sameRoutes⟩ := inv.acquire acquired
      refine held.insertRoute ?_ ?_ rfl
      · intro other equal
        cases equal
        exact published
      · intro other member
        rw [sameRoutes] at member
        simpa [newRoute] using List.find?_eq_none.mp absent other member

theorem RefInv.deleteNhFrom
    {env : Env} {xdk : Outcome} {mgr : L3Mgr} {locked : Option String}
    {request : OfprotoRoute} {route : RouteEntry} {ref : GroupRef}
    (inv : RefInv mgr locked fun _ => 0)
    (member : route ∈ mgr.routeMap)
    (samePrefix : route.ipPrefix = request.ipPrefix)
    (pointer : route.nhGroup = some ref)
    (safe : xdk.updateIpRouteEntry = false → ∀ group,
      deleteCandidate env xdk mgr request ref = some group →
      nhGroupLookupByGroup xdk mgr group = none) :
    RefInv (deleteNhFrom env xdk mgr request ref).2 locked fun _ => 0 := by
  generalize result : Routing.deleteNhFrom env xdk mgr request ref = outcome
  have shape := deleteNhFrom_outcome env xdk mgr request ref
  rw [result] at shape
  cases shape with
  | noMemory => exact inv
  | notProgrammed allocated chosen =>
      exact (inv.alloc allocated).select_none chosen
  | emptied =>
      have unheld : RefInv mgr locked (hold (fun _ => 0) none) := by
        rwa [hold_none]
      rw [← samePrefix, ← pointer]
      refine unheld.commit ?_ member ?_ _
      · intro other equal
        cases equal
      · intro _ other equal
        cases equal
  | @regrouped empty mgr₁ mgr₂ new left allocated chosen =>
      have once : (remainingGroup env xdk request empty
          (deref mgr ref)).refCnt = 1 := by
        rw [remainingGroup, nhInsertAll_refCnt,
          (nhGroupAlloc_some allocated).2.2.1]
      have candidate : deleteCandidate env xdk mgr request ref =
          some (remainingGroup env xdk request empty (deref mgr ref)) := by
        unfold listedCount at left allocated
        simp only [deleteCandidate, left, if_true, allocated, Option.map_some]
        rfl
      have sameLookup := congrArg (fun current => nhGroupLookupByGroup xdk current
        (remainingGroup env xdk request empty (deref mgr ref)))
        (nhGroupAlloc_some allocated).2.2.2
      have sameRoutes₁ : mgr₁.routeMap = mgr.routeMap := by
        rw [(nhGroupAlloc_some allocated).2.2.2]
      obtain ⟨held, inMap, sameRoutes, unrouted⟩ :=
        (inv.alloc allocated).select once chosen
      have stillMember : route ∈ mgr₂.routeMap := by
        rw [sameRoutes, sameRoutes₁]
        exact member
      rw [← samePrefix, ← pointer]
      refine held.commit ?_ stillMember ?_ _
      · intro other equal
        cases equal
        exact inMap
      · intro refused other equal
        cases equal
        exact unrouted (sameLookup.trans (safe refused _ candidate))

/-- The steps under which the reference count is kept: the hardware may refuse
to update a route only when the request does not reuse a group. -/
def RefSafe (env : Env) (mgr : L3Mgr) (request : Request) : Prop :=
  request.xdk.updateIpRouteEntry = false → ¬ReusesGroup env mgr request

/-- A looked-up route is in the table with its prefix and its group. -/
theorem routeLookup_some
    {mgr : L3Mgr} {ipPrefix : String} {route : RouteEntry}
    (found : findRoute mgr ipPrefix = some route) :
    route.ipPrefix = ipPrefix ∧
      ∃ current ∈ (routeLookup mgr ipPrefix).2.routeMap,
        current.ipPrefix = route.ipPrefix ∧ current.nhGroup = route.nhGroup := by
  have member := List.mem_of_find?_eq_some found
  have samePrefix : route.ipPrefix = ipPrefix := by
    simpa using List.find?_some found
  refine ⟨samePrefix, { route with refCnt := route.refCnt + 1 }, ?_, rfl, rfl⟩
  simp only [routeLookup, found]
  exact KeyedList.mem_rewrite.mpr (.inl ⟨route, member, samePrefix, rfl⟩)

theorem nhGroupAlloc_fst
    (env : Env) (xdk : Outcome) (mgr mgr' : L3Mgr) (size : Nat) :
    (nhGroupAlloc env xdk mgr size).1 = (nhGroupAlloc env xdk mgr' size).1 := by
  unfold nhGroupAlloc
  split
  · rfl
  · split <;> rfl

theorem updateCandidate_modifyRoute
    (env : Env) (xdk : Outcome) (mgr : L3Mgr) (ipPrefix : String)
    (change : RouteEntry → RouteEntry) (request : OfprotoRoute)
    (pointer : Option GroupRef) :
    updateCandidate env xdk (modifyRoute mgr ipPrefix change) request pointer =
      updateCandidate env xdk mgr request pointer := by
  simp only [updateCandidate]
  rw [nhGroupAlloc_fst env xdk (modifyRoute mgr ipPrefix change) mgr]
  rfl

theorem deleteCandidate_modifyRoute
    (env : Env) (xdk : Outcome) (mgr : L3Mgr) (ipPrefix : String)
    (change : RouteEntry → RouteEntry) (request : OfprotoRoute)
    (ref : GroupRef) :
    deleteCandidate env xdk (modifyRoute mgr ipPrefix change) request ref =
      deleteCandidate env xdk mgr request ref := by
  simp only [deleteCandidate]
  rw [nhGroupAlloc_fst env xdk (modifyRoute mgr ipPrefix change) mgr]
  rfl

theorem RefInv.addRouteEntry
    {env : Env} {mgr : L3Mgr} {request : Request}
    (inv : RefInv mgr none fun _ => 0)
    (isAdd : request.action = .add)
    (safe : RefSafe env mgr request) :
    RefInv (addRouteEntry env request.xdk mgr request.route).2 none
      fun _ => 0 := by
  have looked := inv.lookup request.route.ipPrefix
  cases found : findRoute mgr request.route.ipPrefix with
  | none =>
      simp only [Routing.addRouteEntry, routeLookup, found]
      exact inv.routeAdd found
  | some route =>
      obtain ⟨_, current, member, samePrefix, sameGroup⟩ :=
        routeLookup_some found
      simp only [found, Option.isSome_some, if_true] at looked
      simp only [routeLookup, found] at looked member
      simp only [Routing.addRouteEntry, routeLookup, found]
      refine (looked.routeUpdate member samePrefix sameGroup ?_).unlock _
      intro refused group candidate
      have unused := safe refused
      simp only [ReusesGroup, not_exists, not_and, Bool.not_eq_true,
        Option.isSome_eq_false_iff, Option.isNone_iff_eq_none] at unused
      refine unused group ?_
      simp only [candidateGroup, found, isAdd, Option.bind_some]
      rw [← candidate, updateCandidate_modifyRoute]

theorem RefInv.deleteRouteEntry
    {xdk : Outcome} {mgr : L3Mgr} {request : OfprotoRoute}
    (inv : RefInv mgr none fun _ => 0) :
    RefInv (deleteRouteEntry xdk mgr request).2 none fun _ => 0 := by
  have looked := inv.lookup request.ipPrefix
  cases found : findRoute mgr request.ipPrefix with
  | none =>
      simp only [Routing.deleteRouteEntry, routeLookup, found]
      exact inv
  | some route =>
      simp only [found, Option.isSome_some, if_true] at looked
      simp only [routeLookup, found] at looked
      simp only [Routing.deleteRouteEntry, routeLookup, found]
      exact (looked.unlock xdk).unrefLast xdk _

theorem RefInv.deleteNhEntry
    {env : Env} {mgr : L3Mgr} {request : Request}
    (inv : RefInv mgr none fun _ => 0)
    (isDeleteNh : request.action = .deleteNh)
    (safe : RefSafe env mgr request) :
    RefInv (deleteNhEntry env request.xdk mgr request.route).2 none
      fun _ => 0 := by
  have looked := inv.lookup request.route.ipPrefix
  cases found : findRoute mgr request.route.ipPrefix with
  | none =>
      simp only [Routing.deleteNhEntry, routeLookup, found]
      exact inv
  | some route =>
      obtain ⟨routePrefix, current, member, samePrefix, sameGroup⟩ :=
        routeLookup_some found
      simp only [found, Option.isSome_some, if_true] at looked
      simp only [routeLookup, found] at looked member
      simp only [Routing.deleteNhEntry, routeLookup, found]
      cases pointer : route.nhGroup with
      | none => exact looked.unlock _
      | some ref =>
          refine (looked.deleteNhFrom member (samePrefix.trans routePrefix)
            (sameGroup.trans pointer) ?_).unlock _
          intro refused group candidate
          have unused := safe refused
          simp only [ReusesGroup, not_exists, not_and, Bool.not_eq_true,
            Option.isSome_eq_false_iff, Option.isNone_iff_eq_none] at unused
          refine unused group ?_
          simp only [candidateGroup, found, isDeleteNh, Option.bind_some, pointer]
          rw [← candidate, deleteCandidate_modifyRoute]

/-- One request keeps the reference invariant. -/
theorem RefInv.step
    {env : Env} {mgr : L3Mgr} {request : Request}
    (inv : RefInv mgr none fun _ => 0)
    (safe : RefSafe env mgr request) :
    RefInv (step env mgr request) none fun _ => 0 := by
  unfold Routing.step routeEntryAction
  split
  · exact inv
  · unfold dispatch
    cases action : request.action with
    | add => exact inv.addRouteEntry action safe
    | delete => exact inv.deleteRouteEntry
    | deleteNh => exact inv.deleteNhEntry action safe
    | unknown => exact inv

/-- The states that requests can reach from a new manager, when each request
satisfies a guard in the state it meets. -/
def Reached (env : Env) (guard : L3Mgr → Request → Prop) (mgr : L3Mgr) : Prop :=
  Transition.Reach
    (fun initial => ∃ vrfId hosts, initial = l3MgrCreate vrfId hosts)
    guard (step env) mgr

theorem Reached.refInv
    {env : Env} {guard : L3Mgr → Request → Prop} {mgr : L3Mgr}
    (safe : ∀ mgr request, guard mgr request → RefSafe env mgr request)
    (reached : Reached env guard mgr) :
    RefInv mgr none fun _ => 0 := by
  refine Transition.Reach.invariant (fun mgr => RefInv mgr none fun _ => 0)
    ?_ ?_ reached
  · rintro _ ⟨vrfId, hosts, rfl⟩
    exact l3MgrCreate_refInv vrfId hosts
  · intro current request inv guarded
    exact inv.step (safe current request guarded)

/-- In every run whose requests are safe, the routes and the groups they share
agree on the references between them. -/
theorem refsConsistent_of_reached
    {env : Env} {mgr : L3Mgr}
    (reached : Reached env (RefSafe env) mgr) : RefsConsistent mgr :=
  (reached.refInv fun _ _ safe => safe).refsConsistent

/-- A refused update of a route whose merged group is a new one. -/
def refusedMergeRun : List Request :=
  [sampleRequest .add "10.0.1.0/24" ["1.1.1.1"] (accepting 0),
   sampleRequest .add "10.0.1.0/24" ["2.2.2.2"] (refusingUpdate 10)]

theorem refsConsistent_refusedMergeRun :
    RefsConsistent (Transition.run (step sampleEnv) (l3MgrCreate 0 [])
      refusedMergeRun) := by
  refine refsConsistent_of_reached
    (.next (.next (.start ⟨0, [], rfl⟩) ?_) ?_)
  · intro refused
    cases refused
  · rintro _ ⟨group, candidate, reused⟩
    have unused : ∀ group ∈ candidateGroup sampleEnv
        (step sampleEnv (l3MgrCreate 0 [])
          (sampleRequest .add "10.0.1.0/24" ["1.1.1.1"] (accepting 0)))
        (sampleRequest .add "10.0.1.0/24" ["2.2.2.2"] (refusingUpdate 10)),
        nhGroupLookupByGroup (refusingUpdate 10)
          (step sampleEnv (l3MgrCreate 0 [])
            (sampleRequest .add "10.0.1.0/24" ["1.1.1.1"] (accepting 0)))
          group = none := by decide
    have missing := unused group candidate
    have found := Option.isSome_iff_ne_none.mp reused
    exact found missing

/-- Two routes come to share a group while the hardware refuses the update of
the second one. -/
def sharedGroupRun : List Request :=
  [sampleRequest .add "10.0.1.0/24" ["1.1.1.1", "2.2.2.2"] (accepting 0),
   sampleRequest .add "10.0.2.0/24" ["1.1.1.1"] (accepting 10),
   sampleRequest .add "10.0.2.0/24" ["2.2.2.2"] (refusingUpdate 20)]

/-- The refused update deletes the group that the first route uses. -/
theorem not_refsConsistent_sharedGroupRun :
    ¬RefsConsistent (Transition.run (step sampleEnv) (l3MgrCreate 0 [])
      sharedGroupRun) := by
  intro consistent
  have dangling : ∃ route ∈ (Transition.run (step sampleEnv) (l3MgrCreate 0 [])
      sharedGroupRun).routeMap, route.nhGroup = some 0 := by decide
  have freed : (Transition.run (step sampleEnv) (l3MgrCreate 0 [])
      sharedGroupRun).groups 0 = none := by decide
  obtain ⟨route, member, points⟩ := dangling
  have live := (consistent.pointsLive route member 0 points).1
  rw [freed] at live
  exact absurd live (by decide)

end Routing
end XpliantSwitchd
