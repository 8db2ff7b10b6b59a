import XpliantSwitchd.Routing.Groups

/-!
# The ways a route request can end

For each function of the route half this module lists, once, how it can end and
what state it leaves.  The invariants are derived from these lists and never
unfold the functions themselves.
-/

namespace XpliantSwitchd
namespace Routing

/-! ## Allocation, deletion and selection of groups -/

theorem nhGroupDelete_published
    (xdk : Outcome) (mgr : L3Mgr) (group : NhGroup) (ref : GroupRef) :
    ∃ hw, nhGroupDelete xdk mgr group (some ref) =
      { mgr with
        hw := hw
        nhGroupMap := mgr.nhGroupMap.erase ref
        groups := Function.update mgr.groups ref none } :=
  ⟨_, rfl⟩

theorem deref_of_live {mgr : L3Mgr} {ref : GroupRef} {group : NhGroup}
    (live : mgr.groups ref = some group) : deref mgr ref = group := by
  simp [deref, live]

theorem nhGroupAlloc_none
    {env : Env} {xdk : Outcome} {mgr mgr' : L3Mgr} {size : Nat}
    (refused : nhGroupAlloc env xdk mgr size = (none, mgr')) : mgr' = mgr := by
  unfold nhGroupAlloc at refused
  split at refused
  · cases refused
    rfl
  · split at refused
    · cases refused
      rfl
    · cases refused

theorem nhGroupAlloc_some
    {env : Env} {xdk : Outcome} {mgr mgr' : L3Mgr} {size : Nat}
    {group : NhGroup}
    (allocated : nhGroupAlloc env xdk mgr size = (some group, mgr')) :
    size ≤ env.maxNhPerRoute ∧
    xdk.createRouteNextHop size = some group.nhId ∧
    group = { nhMap := [], refCnt := 1, nhId := group.nhId, size := size,
              hash := 0 } ∧
    mgr' = { mgr with hw :=
      { mgr.hw with blocks := (size, group.nhId) :: mgr.hw.blocks } } := by
  unfold nhGroupAlloc at allocated
  split at allocated
  · cases allocated
  · rename_i bounded
    split at allocated
    · cases allocated
    · rename_i nhId created
      cases allocated
      exact ⟨Nat.le_of_not_gt bounded, created, rfl, rfl⟩

/-- What `selectGroup` can do: reuse a published group and free the new one,
publish the new one, or fail to program it. -/
theorem selectGroup_cases (xdk : Outcome) (mgr : L3Mgr) (group : NhGroup) :
    (∃ ref, nhGroupLookupByGroup xdk mgr group = some ref ∧
      selectGroup xdk mgr group =
        (some ref, nhGroupFree (nhGroupRef mgr ref) group none)) ∨
    (∃ hw, nhGroupLookupByGroup xdk mgr group = none ∧
      setNextHops xdk mgr.hw (xdk.nhOrder.visit group.nhMap) = (hw, true) ∧
      selectGroup xdk mgr group =
        (some mgr.nextRef, publish { mgr with hw := hw } group)) ∨
    (∃ hw, nhGroupLookupByGroup xdk mgr group = none ∧
      setNextHops xdk mgr.hw (xdk.nhOrder.visit group.nhMap) = (hw, false) ∧
      selectGroup xdk mgr group =
        (none, nhGroupDelete xdk { mgr with hw := hw } group none)) := by
  unfold selectGroup nhGroupAdd
  cases found : nhGroupLookupByGroup xdk mgr group with
  | some ref => exact .inl ⟨ref, rfl, rfl⟩
  | none =>
      cases programmed :
          setNextHops xdk mgr.hw (xdk.nhOrder.visit group.nhMap) with
      | mk hw success =>
          cases success with
          | true => exact .inr (.inl ⟨hw, rfl, rfl, rfl⟩)
          | false => exact .inr (.inr ⟨hw, rfl, rfl, rfl⟩)

theorem nhGroupLookupByGroup_published
    {xdk : Outcome} {mgr : L3Mgr} {group : NhGroup} {ref : GroupRef}
    (found : nhGroupLookupByGroup xdk mgr group = some ref) :
    ref ∈ mgr.nhGroupMap :=
  (xdk.groupOrder.of_find?_visit found).1

/-- Releasing a group and writing software fields of a route do not
interfere. -/
theorem modifyRoute_nhGroupUnref
    (xdk : Outcome) (mgr : L3Mgr) (pointer : Option GroupRef)
    (ipPrefix : String) {change : RouteEntry → RouteEntry}
    (keepsHw : ∀ route, (change route).xpRoute = route.xpRoute) :
    modifyRoute (nhGroupUnref xdk mgr pointer) ipPrefix change =
      nhGroupUnref xdk (modifyRoute mgr ipPrefix change) pointer := by
  have sameHw : (modifyRoute mgr ipPrefix change).routeMap.map (·.xpRoute) =
      mgr.routeMap.map (·.xpRoute) :=
    KeyedList.map_rewrite fun route _ _ => keepsHw route
  cases pointer with
  | none => rfl
  | some ref =>
      simp only [nhGroupUnref]
      by_cases last : (deref mgr ref).refCnt = 1
      · have lastAfter : (deref (modifyRoute mgr ipPrefix change) ref).refCnt = 1 :=
          last
        rw [if_pos last, if_pos lastAfter]
        simp only [nhGroupDelete, nhGroupFree, sameHw]
        rfl
      · have sharedAfter :
            ¬(deref (modifyRoute mgr ipPrefix change) ref).refCnt = 1 := last
        rw [if_neg last, if_neg sharedAfter]
        rfl

/-- The write of the hardware fields of a route in `commitGroup`. -/
def writeHwRoute (group : Option NhGroup) (route : RouteEntry) : RouteEntry :=
  { route with xpRoute := { route.xpRoute with
      nhEcmpSize := (group.map (·.size)).getD 0
      nhId := (group.map (·.nhId)).getD 0 } }

/-- A committed group replaces the old one, whose reference is released. -/
theorem commitGroup_success
    {xdk : Outcome} (success : xdk.updateIpRouteEntry = true)
    (mgr : L3Mgr) (ipPrefix : String) (old new : Option GroupRef)
    (failure : Errno) :
    commitGroup xdk mgr ipPrefix old new failure =
      (none, nhGroupUnref xdk
        (modifyRoute
          (modifyRoute mgr ipPrefix (writeHwRoute (new.map (deref mgr))))
          ipPrefix fun route => { route with nhGroup := new }) old) := by
  simp only [commitGroup, success, if_true]
  rw [modifyRoute_nhGroupUnref _ _ _ _ (by intro _; rfl)]
  rfl

/-! ## `route_update` -/

/-- The ways `route_update` can end. -/
inductive UpdateOutcome (env : Env) (xdk : Outcome) (mgr : L3Mgr)
    (request : OfprotoRoute) (route : RouteEntry) :
    Option Errno × L3Mgr → Prop
  | noMemory :
      UpdateOutcome env xdk mgr request route (some .ENOMEM, mgr)
  | unreachable {empty group : NhGroup} {mgr₁ : L3Mgr} {errno : Errno} :
      nhGroupAlloc env xdk mgr (request.nexthops.length +
        ((route.nhGroup.map (deref mgr)).map (·.size)).getD 0) =
          (some empty, mgr₁) →
      mergedGroup env xdk mgr.hostIdMap empty (route.nhGroup.map (deref mgr))
        request.nexthops = (group, some errno) →
      UpdateOutcome env xdk mgr request route
        (some errno, nhGroupFree mgr₁ group none)
  | notProgrammed {empty group : NhGroup} {mgr₁ mgr₂ : L3Mgr} :
      nhGroupAlloc env xdk mgr (request.nexthops.length +
        ((route.nhGroup.map (deref mgr)).map (·.size)).getD 0) =
          (some empty, mgr₁) →
      selectGroup xdk mgr₁ group = (none, mgr₂) →
      mergedGroup env xdk mgr.hostIdMap empty (route.nhGroup.map (deref mgr))
        request.nexthops = (group, none) →
      UpdateOutcome env xdk mgr request route (some .EHOSTUNREACH, mgr₂)
  | regrouped {empty group : NhGroup} {mgr₁ mgr₂ : L3Mgr} {ref : GroupRef} :
      needsNewGroup xdk (route.nhGroup.map (deref mgr)) request.nexthops = true →
      nhGroupAlloc env xdk mgr (request.nexthops.length +
        ((route.nhGroup.map (deref mgr)).map (·.size)).getD 0) =
          (some empty, mgr₁) →
      mergedGroup env xdk mgr.hostIdMap empty (route.nhGroup.map (deref mgr))
        request.nexthops = (group, none) →
      selectGroup xdk mgr₁ group = (some ref, mgr₂) →
      UpdateOutcome env xdk mgr request route
        (commitGroup xdk mgr₂ route.ipPrefix route.nhGroup (some ref) .EACCES)
  | stopped {ref : GroupRef} {group : NhGroup} {errno : Errno} :
      needsNewGroup xdk (route.nhGroup.map (deref mgr)) request.nexthops =
        false →
      route.nhGroup = some ref →
      nhGroupUpdate env xdk mgr.hostIdMap (deref mgr ref) request.nexthops =
        (group, some errno) →
      UpdateOutcome env xdk mgr request route
        (some errno, store mgr ref (some group))
  | inPlace {ref : GroupRef} {group : NhGroup} {hw : NextHopTable}
      {success : Bool} :
      needsNewGroup xdk (route.nhGroup.map (deref mgr)) request.nexthops =
        false →
      route.nhGroup = some ref →
      nhGroupUpdate env xdk mgr.hostIdMap (deref mgr ref) request.nexthops =
        (group, none) →
      setNextHops xdk mgr.hw (xdk.nhOrder.visit group.nhMap) = (hw, success) →
      UpdateOutcome env xdk mgr request route
        (if success then none else some .EACCES,
          { store mgr ref (some group) with hw := hw })
  | noGroup :
      needsNewGroup xdk (route.nhGroup.map (deref mgr)) request.nexthops =
        false →
      route.nhGroup = none →
      UpdateOutcome env xdk mgr request route (none, mgr)

theorem routeUpdate_outcome
    (env : Env) (xdk : Outcome) (mgr : L3Mgr) (request : OfprotoRoute)
    (route : RouteEntry) :
    UpdateOutcome env xdk mgr request route
      (routeUpdate env xdk mgr request route) := by
  unfold routeUpdate
  simp only
  split
  · rename_i building
    split
    · rename_i mgr₁ allocated
      rw [nhGroupAlloc_none allocated]
      exact .noMemory
    · rename_i empty mgr₁ allocated
      have sameHosts : mgr₁.hostIdMap = mgr.hostIdMap := by
        rw [(nhGroupAlloc_some allocated).2.2.2]
      rw [sameHosts]
      split
      · rename_i group errno merged
        exact .unreachable allocated merged
      · rename_i group merged
        split
        · rename_i mgr₂ chosen
          exact .notProgrammed allocated chosen merged
        · rename_i ref mgr₂ chosen
          exact .regrouped building allocated merged chosen
  · rename_i sufficient
    have building : needsNewGroup xdk (route.nhGroup.map (deref mgr))
        request.nexthops = false := by simpa using sufficient
    split
    · rename_i pointer
      exact .noGroup building pointer
    · rename_i ref pointer
      split
      · rename_i group errno updated
        exact .stopped building pointer updated
      · rename_i group updated
        split
        · rename_i hw programmed
          exact .inPlace building pointer updated programmed
        · rename_i hw programmed
          exact .inPlace building pointer updated programmed

/-! ## `route_add` -/

/-- The two ways `route_add` gets a group: it reuses a published one, or builds,
programs and publishes a new one. -/
inductive Acquired (env : Env) (xdk : Outcome) (mgr : L3Mgr)
    (request : OfprotoRoute) : GroupRef → L3Mgr → Prop
  | reused {ref : GroupRef} :
      nhGroupLookupByRoute env xdk mgr request = some ref →
      Acquired env xdk mgr request ref (nhGroupRef mgr ref)
  | built {empty group : NhGroup} {mgr₁ : L3Mgr} {hw : NextHopTable} :
      nhGroupAlloc env xdk mgr request.nexthops.length = (some empty, mgr₁) →
      nhGroupFill env mgr.hostIdMap empty request.nexthops = (group, none) →
      setNextHops xdk mgr₁.hw (xdk.nhOrder.visit group.nhMap) = (hw, true) →
      Acquired env xdk mgr request mgr₁.nextRef
        (publish { mgr₁ with hw := hw } group)

/-- The route entry `route_add` creates. -/
def newRoute (mgr : L3Mgr) (request : OfprotoRoute) (addr : List UInt8)
    (len : Nat) (ref : GroupRef) : RouteEntry where
  ipPrefix := request.ipPrefix
  refCnt := 1
  xpRoute :=
    { family := request.family, addr := addr, ipMaskLen := len,
      vrfId := mgr.vrfId, nhEcmpSize := (deref mgr ref).size,
      nhId := (deref mgr ref).nhId }
  nhGroup := some ref

/-- Insertion of a route into `route_map`. -/
def insertRoute (mgr : L3Mgr) (route : RouteEntry) : L3Mgr :=
  { mgr with routeMap := route :: mgr.routeMap }

/-- Removal of the route of a prefix from `route_map`. -/
def removeRoute (mgr : L3Mgr) (ipPrefix : String) : L3Mgr :=
  { mgr with routeMap := KeyedList.remove (·.ipPrefix) ipPrefix mgr.routeMap }

/-- The ways `route_add` can end. -/
inductive AddOutcome (env : Env) (xdk : Outcome) (mgr : L3Mgr)
    (request : OfprotoRoute) : Option Errno × L3Mgr → Prop
  | noMemory :
      AddOutcome env xdk mgr request (some .ENOMEM, mgr)
  | unreachable {empty group : NhGroup} {mgr₁ : L3Mgr} {errno : Errno} :
      nhGroupAlloc env xdk mgr request.nexthops.length = (some empty, mgr₁) →
      nhGroupFill env mgr.hostIdMap empty request.nexthops =
        (group, some errno) →
      AddOutcome env xdk mgr request (some errno, nhGroupFree mgr₁ group none)
  | notProgrammed {empty group : NhGroup} {mgr₁ : L3Mgr} {hw : NextHopTable} :
      nhGroupAlloc env xdk mgr request.nexthops.length = (some empty, mgr₁) →
      setNextHops xdk mgr₁.hw (xdk.nhOrder.visit group.nhMap) = (hw, false) →
      nhGroupFill env mgr.hostIdMap empty request.nexthops = (group, none) →
      AddOutcome env xdk mgr request
        (some .EHOSTUNREACH, nhGroupDelete xdk { mgr₁ with hw := hw } group none)
  | refused {ref : GroupRef} {mgr₁ : L3Mgr} {errno : Errno} :
      Acquired env xdk mgr request ref mgr₁ →
      AddOutcome env xdk mgr request
        (some errno, nhGroupUnref xdk mgr₁ (some ref))
  | added {ref : GroupRef} {mgr₁ : L3Mgr} {addr : List UInt8} {len : Nat} :
      Acquired env xdk mgr request ref mgr₁ →
      AddOutcome env xdk mgr request
        (none, insertRoute mgr₁ (newRoute mgr₁ request addr len ref))

theorem routeAddGroup_outcome
    (env : Env) (xdk : Outcome) (mgr : L3Mgr) (request : OfprotoRoute) :
    (∃ ref mgr₁, Acquired env xdk mgr request ref mgr₁ ∧
      routeAddGroup env xdk mgr request = (.ok ref, mgr₁)) ∨
    (∃ errno mgr₁, AddOutcome env xdk mgr request (some errno, mgr₁) ∧
      routeAddGroup env xdk mgr request = (.error errno, mgr₁)) := by
  unfold routeAddGroup
  split
  · rename_i ref found
    exact .inl ⟨ref, _, .reused found, rfl⟩
  · split
    · rename_i mgr₁ allocated
      rw [nhGroupAlloc_none allocated]
      exact .inr ⟨_, _, .noMemory, rfl⟩
    · rename_i empty mgr₁ allocated
      have sameHosts : mgr₁.hostIdMap = mgr.hostIdMap := by
        rw [(nhGroupAlloc_some allocated).2.2.2]
      rw [sameHosts]
      split
      · rename_i group errno filled
        exact .inr ⟨_, _, .unreachable allocated filled, rfl⟩
      · rename_i group filled
        unfold nhGroupAdd
        cases programmed :
            setNextHops xdk mgr₁.hw (xdk.nhOrder.visit group.nhMap) with
        | mk hw success =>
            cases success with
            | true => exact .inl ⟨_, _, .built allocated filled programmed, rfl⟩
            | false =>
                exact .inr
                  ⟨_, _, .notProgrammed allocated programmed filled, rfl⟩

theorem routeAdd_outcome
    (env : Env) (xdk : Outcome) (mgr : L3Mgr) (request : OfprotoRoute) :
    AddOutcome env xdk mgr request (routeAdd env xdk mgr request) := by
  unfold routeAdd
  rcases routeAddGroup_outcome env xdk mgr request with
    ⟨ref, mgr₁, acquired, equation⟩ | ⟨errno, mgr₁, failed, equation⟩
  · rw [equation]
    simp only
    split
    · exact .refused acquired
    · split
      · exact .added acquired
      · exact .refused acquired
  · rw [equation]
    exact failed

/-! ## `delete_nh_entry` -/

/-- The group `delete_nh_entry` builds from the next hops that are not
listed. -/
def remainingGroup (env : Env) (xdk : Outcome) (request : OfprotoRoute)
    (empty old : NhGroup) : NhGroup :=
  nhInsertAll env empty
    ((xdk.nhOrder.visit old.nhMap).filter (!isListed request ·))

/-- Number of next hops of a group that a request lists. -/
def listedCount (xdk : Outcome) (request : OfprotoRoute) (old : NhGroup) : Nat :=
  (xdk.nhOrder.visit old.nhMap).countP (isListed request)

/-- The next hops of a group are the listed and the remaining ones. -/
theorem length_unlisted
    (xdk : Outcome) (request : OfprotoRoute) (old : NhGroup) :
    ((xdk.nhOrder.visit old.nhMap).filter (!isListed request ·)).length +
      listedCount xdk request old = old.nhMap.length := by
  have split := List.length_eq_countP_add_countP (isListed request)
    (l := xdk.nhOrder.visit old.nhMap)
  rw [Traversal.length_visit] at split
  rw [← List.countP_eq_length_filter, listedCount, split, Nat.add_comm]
  simp

/-- The ways `delete_nh_entry` can end for a route with a group. -/
inductive DeleteNhOutcome (env : Env) (xdk : Outcome) (mgr : L3Mgr)
    (request : OfprotoRoute) (ref : GroupRef) : Option Errno × L3Mgr → Prop
  | noMemory :
      DeleteNhOutcome env xdk mgr request ref (some .ENOMEM, mgr)
  | notProgrammed {empty : NhGroup} {mgr₁ mgr₂ : L3Mgr} :
      nhGroupAlloc env xdk mgr ((deref mgr ref).size -
        listedCount xdk request (deref mgr ref)) = (some empty, mgr₁) →
      selectGroup xdk mgr₁
        (remainingGroup env xdk request empty (deref mgr ref)) =
          (none, mgr₂) →
      (deref mgr ref).size > listedCount xdk request (deref mgr ref) →
      DeleteNhOutcome env xdk mgr request ref (some .EHOSTUNREACH, mgr₂)
  | regrouped {empty : NhGroup} {mgr₁ mgr₂ : L3Mgr} {new : GroupRef} :
      (deref mgr ref).size > listedCount xdk request (deref mgr ref) →
      nhGroupAlloc env xdk mgr ((deref mgr ref).size -
        listedCount xdk request (deref mgr ref)) = (some empty, mgr₁) →
      selectGroup xdk mgr₁
        (remainingGroup env xdk request empty (deref mgr ref)) =
          (some new, mgr₂) →
      DeleteNhOutcome env xdk mgr request ref
        (commitGroup xdk mgr₂ request.ipPrefix (some ref) (some new) .EPERM)
  | emptied :
      (deref mgr ref).size ≤ listedCount xdk request (deref mgr ref) →
      DeleteNhOutcome env xdk mgr request ref
        (commitGroup xdk mgr request.ipPrefix (some ref) none .EPERM)

theorem deleteNhFrom_outcome
    (env : Env) (xdk : Outcome) (mgr : L3Mgr) (request : OfprotoRoute)
    (ref : GroupRef) :
    DeleteNhOutcome env xdk mgr request ref
      (deleteNhFrom env xdk mgr request ref) := by
  unfold deleteNhFrom
  simp only
  split
  · rename_i some_left
    split
    · rename_i mgr₁ allocated
      rw [nhGroupAlloc_none allocated]
      exact .noMemory
    · rename_i empty mgr₁ allocated
      split
      · rename_i mgr₂ chosen
        exact .notProgrammed allocated chosen some_left
      · rename_i new mgr₂ chosen
        exact .regrouped some_left allocated chosen
  · rename_i none_left
    exact .emptied (Nat.le_of_not_gt none_left)

end Routing
end XpliantSwitchd
