import XpliantSwitchd.Routing.Slots

/-!
# Route entries of the hardware

The hardware keeps a route entry for each prefix, which names a block of slots.  This
module follows the calls that add, update and remove route entries, beside the state
of the manager, and says once what a request does to the entries that the manager
remembers and to those of the hardware.
-/

namespace XpliantSwitchd
namespace Routing

/-! ## The route entries of the hardware -/

/-- The bits of the prefix of a route entry, as the hardware reads them. -/
abbrev PrefixBits := Family → List UInt8 → Nat → List Bool

/-- What the hardware tells route entries apart by: the family, the VRF and the
prefix. -/
abbrev RouteKey := Family × Nat × List Bool

/-- The key of `xpsL3RouteEntry_t`. -/
def XpRoute.key (bits : PrefixBits) (route : XpRoute) : RouteKey :=
  (route.family, route.vrfId, bits route.family route.addr route.ipMaskLen)

/-- The route entries of the hardware: the number of slots and the first slot. -/
abbrev Fib := RouteKey → Option (Nat × Nat)

section Calls

variable (env : Env) (bits : PrefixBits)

/-- `xpsL3AddIpRouteEntry` and `xpsL3UpdateIpRouteEntry`. -/
def Fib.write (fib : Fib) (route : XpRoute) : Fib :=
  Function.update fib (route.key bits) (some (route.nhEcmpSize, route.nhId))

/-- `xpsL3RemoveIpRouteEntry`. -/
def Fib.erase (fib : Fib) (route : XpRoute) : Fib :=
  Function.update fib (route.key bits) none

/-- A request together with the outcome of `xpsL3RemoveIpRouteEntry`. -/
structure RouteRequest extends Request where
  removeIpRouteEntry : Bool

/-- The call in `commitGroup`. -/
def commitFib (xdk : Outcome) (mgr : L3Mgr) (ipPrefix : String)
    (new : Option GroupRef) (fib : Fib) : Fib :=
  match findRoute mgr ipPrefix with
  | none => fib
  | some route =>
      if xdk.updateIpRouteEntry then
        fib.write bits (writeHwRoute (new.map (deref mgr)) route).xpRoute
      else fib

/-- The calls in `route_update`. -/
def updateFib (xdk : Outcome) (mgr : L3Mgr) (request : OfprotoRoute)
    (route : RouteEntry) (fib : Fib) : Fib :=
  let old := route.nhGroup.map (deref mgr)
  if needsNewGroup xdk old request.nexthops then
    match nhGroupAlloc env xdk mgr
        (request.nexthops.length + (old.map (·.size)).getD 0) with
    | (none, _) => fib
    | (some empty, mgr) =>
        match mergedGroup env xdk mgr.hostIdMap empty old request.nexthops with
        | (_, some _) => fib
        | (group, none) =>
            match selectGroup xdk mgr group with
            | (none, _) => fib
            | (some ref, mgr) => commitFib bits xdk mgr route.ipPrefix (some ref) fib
  else fib

/-- The call in `route_add`. -/
def addFib (xdk : Outcome) (mgr : L3Mgr) (request : OfprotoRoute) (fib : Fib) : Fib :=
  match routeAddGroup env xdk mgr request with
  | (.error _, _) => fib
  | (.ok ref, mgr) =>
      match env.stringToPrefix request.family request.ipPrefix with
      | none => fib
      | some (addr, len) =>
          if xdk.addIpRouteEntry then
            fib.write bits (newRoute mgr request addr len ref).xpRoute
          else fib

/-- The call in `route_unref`, when it comes to `route_delete`. -/
def unrefFib (removes : Bool) (mgr : L3Mgr) (ipPrefix : String) (fib : Fib) : Fib :=
  match findRoute mgr ipPrefix with
  | none => fib
  | some route =>
      if route.refCnt = 1 then
        if removes then fib.erase bits route.xpRoute else fib
      else fib

/-- The calls in `delete_nh_entry` for a route that has a group. -/
def deleteNhFib (xdk : Outcome) (mgr : L3Mgr) (request : OfprotoRoute)
    (ref : GroupRef) (fib : Fib) : Fib :=
  let old := deref mgr ref
  let removed := (xdk.nhOrder.visit old.nhMap).countP (isListed request)
  if old.size > removed then
    match nhGroupAlloc env xdk mgr (old.size - removed) with
    | (none, _) => fib
    | (some empty, mgr) =>
        match selectGroup xdk mgr (remainingGroup env xdk request empty old) with
        | (none, _) => fib
        | (some new, mgr) => commitFib bits xdk mgr request.ipPrefix (some new) fib
  else commitFib bits xdk mgr request.ipPrefix none fib

/-- The calls of a request. -/
def routeFib (mgr : L3Mgr) (request : RouteRequest) (fib : Fib) : Fib :=
  let route := request.route
  if route.nexthops = [] then fib
  else
    match request.action, routeLookup mgr route.ipPrefix with
    | .add, (some found, mgr) =>
        unrefFib bits request.removeIpRouteEntry
          (routeUpdate env request.xdk mgr route found).2 route.ipPrefix
          (updateFib env bits request.xdk mgr route found fib)
    | .add, (none, mgr) => addFib env bits request.xdk mgr route fib
    | .delete, (some _, mgr) =>
        unrefFib bits request.removeIpRouteEntry
          (routeUnref request.xdk mgr route.ipPrefix) route.ipPrefix
          (unrefFib bits request.removeIpRouteEntry mgr route.ipPrefix fib)
    | .delete, (none, _) => fib
    | .deleteNh, (some found, mgr) =>
        match found.nhGroup with
        | none => unrefFib bits request.removeIpRouteEntry mgr route.ipPrefix fib
        | some ref =>
            unrefFib bits request.removeIpRouteEntry
              (deleteNhFrom env request.xdk mgr route ref).2 route.ipPrefix
              (deleteNhFib env bits request.xdk mgr route ref fib)
    | .deleteNh, (none, _) => fib
    | .unknown, _ => fib

end Calls

/-! ## What a request does to the entries -/

/-- The routes with the entries that were written for them. -/
def L3Mgr.entries (mgr : L3Mgr) : List (String × XpRoute) :=
  mgr.routeMap.map fun route => (route.ipPrefix, route.xpRoute)

/-- Write the slots of the entry of a prefix. -/
def writeSlots (size nhId : Nat) (entry : String × XpRoute) : String × XpRoute :=
  (entry.1, { entry.2 with nhEcmpSize := size, nhId := nhId })

/-- A function that holds a route leaves the entries and the hardware alone, or
writes the slots of the route to both. -/
inductive Committed (bits : PrefixBits) (ipPrefix : String) (mgr : L3Mgr) (fib : Fib) :
    Option Errno → L3Mgr → Fib → Prop
  | quiet {rc : Option Errno} {mgr' : L3Mgr} :
      mgr'.entries = mgr.entries → Committed bits ipPrefix mgr fib rc mgr' fib
  | wrote {mgr' : L3Mgr} {route : XpRoute} {size nhId : Nat} :
      (ipPrefix, route) ∈ mgr.entries →
      mgr'.entries = KeyedList.rewrite (·.1) ipPrefix (writeSlots size nhId)
        mgr.entries →
      Committed bits ipPrefix mgr fib none mgr'
        (fib.write bits (writeSlots size nhId (ipPrefix, route)).2)

/-- What a request does to the entries of the routes and to the hardware. -/
inductive FibEffect (env : Env) (bits : PrefixBits) (mgr : L3Mgr) (request : Request)
    (fib : Fib) : Option Errno → L3Mgr → Fib → Prop
  | rejected {errno : Errno} {mgr' : L3Mgr} :
      mgr'.entries = mgr.entries →
      FibEffect env bits mgr request fib (some errno) mgr' fib
  | unchanged {mgr' : L3Mgr} :
      (request.action = .add → request.route.ipPrefix ∈ mgr.entries.map (·.1)) →
      request.action ≠ .delete →
      mgr'.entries = mgr.entries →
      FibEffect env bits mgr request fib none mgr' fib
  | added {mgr' : L3Mgr} {addr : List UInt8} {len size nhId : Nat} :
      request.action = .add →
      request.route.ipPrefix ∉ mgr.entries.map (·.1) →
      env.stringToPrefix request.route.family request.route.ipPrefix =
        some (addr, len) →
      mgr'.entries = (request.route.ipPrefix,
        ⟨request.route.family, addr, len, mgr.vrfId, size, nhId⟩) :: mgr.entries →
      FibEffect env bits mgr request fib none mgr' (fib.write bits
        ⟨request.route.family, addr, len, mgr.vrfId, size, nhId⟩)
  | written {mgr' : L3Mgr} {route : XpRoute} {size nhId : Nat} :
      request.action ≠ .delete →
      (request.route.ipPrefix, route) ∈ mgr.entries →
      mgr'.entries = KeyedList.rewrite (·.1) request.route.ipPrefix
        (writeSlots size nhId) mgr.entries →
      FibEffect env bits mgr request fib none mgr'
        (fib.write bits (writeSlots size nhId (request.route.ipPrefix, route)).2)
  | removed {mgr' : L3Mgr} {route : XpRoute} :
      request.action = .delete →
      (request.route.ipPrefix, route) ∈ mgr.entries →
      mgr'.entries = KeyedList.remove (·.1) request.route.ipPrefix mgr.entries →
      FibEffect env bits mgr request fib none mgr' (fib.erase bits route)

theorem entries_of_routeMap {mgr mgr' : L3Mgr}
    (same : mgr'.routeMap = mgr.routeMap) : mgr'.entries = mgr.entries := by
  rw [L3Mgr.entries, L3Mgr.entries, same]

theorem findRoute_of_routeMap {mgr mgr' : L3Mgr}
    (same : mgr'.routeMap = mgr.routeMap) (ipPrefix : String) :
    findRoute mgr' ipPrefix = findRoute mgr ipPrefix := by
  rw [findRoute, findRoute, same]

theorem mem_entries_of_findRoute {mgr : L3Mgr} {ipPrefix : String} {route : RouteEntry}
    (found : findRoute mgr ipPrefix = some route) :
    (ipPrefix, route.xpRoute) ∈ mgr.entries := by
  have samePrefix : route.ipPrefix = ipPrefix := by
    simpa using List.find?_some found
  rw [← samePrefix]
  exact List.mem_map_of_mem (List.mem_of_find?_eq_some found)

theorem notMem_entries_of_findRoute {mgr : L3Mgr} {ipPrefix : String}
    (absent : findRoute mgr ipPrefix = none) : ipPrefix ∉ mgr.entries.map (·.1) := by
  intro member
  obtain ⟨_, entry, rfl⟩ := List.mem_map.mp member
  obtain ⟨route, isRoute, rfl⟩ := List.mem_map.mp entry
  simpa using List.find?_eq_none.mp absent route isRoute

section Effects

variable {env : Env} {bits : PrefixBits} {xdk : Outcome} {mgr mgr' : L3Mgr} {fib : Fib}

/-! ### Groups -/

theorem nhGroupUnref_routeMap (xdk : Outcome) (mgr : L3Mgr) (pointer : Option GroupRef) :
    (nhGroupUnref xdk mgr pointer).routeMap = mgr.routeMap := by
  cases pointer with
  | none => rfl
  | some ref =>
      unfold nhGroupUnref
      simp only
      split <;> rfl

theorem nhGroupAlloc_routeMap {size : Nat} {empty : NhGroup}
    (allocated : nhGroupAlloc env xdk mgr size = (some empty, mgr')) :
    mgr'.routeMap = mgr.routeMap := by
  rw [(nhGroupAlloc_some allocated).2.2.2]

theorem selectGroup_routeMap (xdk : Outcome) (mgr : L3Mgr) (group : NhGroup) :
    (selectGroup xdk mgr group).2.routeMap = mgr.routeMap := by
  rcases selectGroup_cases xdk mgr group with
    ⟨ref, _, result⟩ | ⟨hw, _, _, result⟩ | ⟨hw, _, _, result⟩ <;> rw [result] <;> rfl

theorem routeMap_of_acquired {request : OfprotoRoute} {ref : GroupRef}
    (acquired : Acquired env xdk mgr request ref mgr') :
    mgr'.routeMap = mgr.routeMap ∧ mgr'.vrfId = mgr.vrfId := by
  cases acquired with
  | reused _ => exact ⟨rfl, rfl⟩
  | built allocated _ _ =>
      rw [(nhGroupAlloc_some allocated).2.2.2]
      exact ⟨rfl, rfl⟩

/-! ### Routes -/

/-- Writing fields of a route that have no part in its entry. -/
theorem entries_modifyRoute (ipPrefix : String) {change : RouteEntry → RouteEntry}
    (keepsPrefix : ∀ route, (change route).ipPrefix = route.ipPrefix)
    (keepsHw : ∀ route, (change route).xpRoute = route.xpRoute) :
    (modifyRoute mgr ipPrefix change).entries = mgr.entries := by
  apply KeyedList.map_rewrite
  intro route _ _
  rw [keepsPrefix, keepsHw]

theorem entries_routeLookup (mgr : L3Mgr) (ipPrefix : String) :
    (routeLookup mgr ipPrefix).2.entries = mgr.entries := by
  unfold routeLookup
  cases findRoute mgr ipPrefix with
  | none => rfl
  | some route => exact entries_modifyRoute ipPrefix (fun _ => rfl) (fun _ => rfl)

/-- The commit of a group. -/
theorem committed_commitGroup
    {ipPrefix : String} {route : RouteEntry}
    (updates : xdk.updateIpRouteEntry = true)
    (found : findRoute mgr ipPrefix = some route)
    (old new : Option GroupRef) (failure : Errno) :
    Committed bits ipPrefix mgr fib (commitGroup xdk mgr ipPrefix old new failure).1
      (commitGroup xdk mgr ipPrefix old new failure).2
      (commitFib bits xdk mgr ipPrefix new fib) := by
  have result : commitFib bits xdk mgr ipPrefix new fib = fib.write bits
      (writeSlots (((new.map (deref mgr)).map (·.size)).getD 0)
        (((new.map (deref mgr)).map (·.nhId)).getD 0) (ipPrefix, route.xpRoute)).2 := by
    rw [commitFib, found]
    simp only [updates, if_true]
    rfl
  rw [result, commitGroup_success updates]
  refine .wrote (mem_entries_of_findRoute found) ?_
  have pointed := @entries_modifyRoute
    (modifyRoute mgr ipPrefix (writeHwRoute (new.map (deref mgr)))) ipPrefix
    (fun route => { route with nhGroup := new }) (fun _ => rfl) (fun _ => rfl)
  rw [entries_of_routeMap (nhGroupUnref_routeMap ..), pointed]
  exact KeyedList.map_rewrite_view (fun _ => rfl) (fun _ => rfl)

theorem Committed.of_entries
    {ipPrefix : String} {before : L3Mgr} {rc : Option Errno} {fib' : Fib}
    (committed : Committed bits ipPrefix mgr fib rc mgr' fib')
    (same : mgr.entries = before.entries) :
    Committed bits ipPrefix before fib rc mgr' fib' := by
  cases committed with
  | quiet entries => exact .quiet (entries.trans same)
  | wrote member entries => exact .wrote (same ▸ member) (same ▸ entries)

/-- `route_update`. -/
theorem committed_routeUpdate
    {request : OfprotoRoute} {route : RouteEntry}
    (updates : xdk.updateIpRouteEntry = true)
    (found : (findRoute mgr route.ipPrefix).isSome) :
    Committed bits route.ipPrefix mgr fib (routeUpdate env xdk mgr request route).1
      (routeUpdate env xdk mgr request route).2
      (updateFib env bits xdk mgr request route fib) := by
  unfold routeUpdate updateFib
  simp only
  split
  · rcases allocated : nhGroupAlloc env xdk mgr (request.nexthops.length +
        ((route.nhGroup.map (deref mgr)).map (·.size)).getD 0) with ⟨_ | empty, mgr₁⟩
    · rw [nhGroupAlloc_none allocated]
      exact .quiet rfl
    · have routes₁ := nhGroupAlloc_routeMap allocated
      simp only
      rcases mergedGroup env xdk mgr₁.hostIdMap empty (route.nhGroup.map (deref mgr))
        request.nexthops with ⟨group, _ | errno⟩
      · have routes₂ := selectGroup_routeMap xdk mgr₁ group
        simp only
        rcases chosen : selectGroup xdk mgr₁ group with ⟨_ | new, mgr₂⟩
        · rw [chosen] at routes₂
          exact .quiet (entries_of_routeMap (routes₂.trans routes₁))
        · rw [chosen] at routes₂
          rw [← findRoute_of_routeMap (routes₂.trans routes₁)] at found
          obtain ⟨current, isCurrent⟩ := Option.isSome_iff_exists.mp found
          exact (committed_commitGroup updates isCurrent _ _ _).of_entries
            (entries_of_routeMap (routes₂.trans routes₁))
      · exact .quiet (entries_of_routeMap routes₁)
  · split
    · exact .quiet rfl
    · split
      · exact .quiet rfl
      · split <;> exact .quiet rfl

/-- `delete_nh_entry` for a route that has a group. -/
theorem committed_deleteNhFrom
    {request : OfprotoRoute} {ref : GroupRef}
    (updates : xdk.updateIpRouteEntry = true)
    (found : (findRoute mgr request.ipPrefix).isSome) :
    Committed bits request.ipPrefix mgr fib (deleteNhFrom env xdk mgr request ref).1
      (deleteNhFrom env xdk mgr request ref).2
      (deleteNhFib env bits xdk mgr request ref fib) := by
  unfold deleteNhFrom deleteNhFib remainingGroup
  simp only
  split
  · rcases allocated : nhGroupAlloc env xdk mgr ((deref mgr ref).size -
        (xdk.nhOrder.visit (deref mgr ref).nhMap).countP (isListed request)) with
      ⟨_ | empty, mgr₁⟩
    · rw [nhGroupAlloc_none allocated]
      exact .quiet rfl
    · have routes₁ := nhGroupAlloc_routeMap allocated
      simp only
      generalize nhInsertAll env empty _ = group
      have routes₂ := selectGroup_routeMap xdk mgr₁ group
      rcases chosen : selectGroup xdk mgr₁ group with ⟨_ | new, mgr₂⟩
      · rw [chosen] at routes₂
        exact .quiet (entries_of_routeMap (routes₂.trans routes₁))
      · rw [chosen] at routes₂
        rw [← findRoute_of_routeMap (routes₂.trans routes₁)] at found
        obtain ⟨current, isCurrent⟩ := Option.isSome_iff_exists.mp found
        exact (committed_commitGroup updates isCurrent _ _ _).of_entries
          (entries_of_routeMap (routes₂.trans routes₁))
  · obtain ⟨current, isCurrent⟩ := Option.isSome_iff_exists.mp found
    exact committed_commitGroup updates isCurrent _ _ _

/-- `route_unref` of a route that somebody else holds too. -/
theorem entries_routeUnref_shared
    {ipPrefix : String} (removes : Bool)
    (inv : RefInv mgr (some ipPrefix) fun _ => 0) :
    (routeUnref xdk mgr ipPrefix).entries = mgr.entries ∧
      unrefFib bits removes mgr ipPrefix fib = fib := by
  unfold routeUnref unrefFib
  cases found : findRoute mgr ipPrefix with
  | none => exact ⟨rfl, rfl⟩
  | some route =>
      have member := List.mem_of_find?_eq_some found
      have samePrefix : route.ipPrefix = ipPrefix := by
        simpa using List.find?_some found
      have shared : route.refCnt ≠ 1 := by
        rw [inv.routeCounted route member, samePrefix]
        simp
      simp only [if_neg shared, and_true]
      exact entries_modifyRoute ipPrefix (fun _ => rfl) (fun _ => rfl)

/-- `route_unref` of a route that nobody else holds. -/
theorem entries_routeUnref_last
    {ipPrefix : String} {route : RouteEntry}
    (inv : RefInv mgr none fun _ => 0)
    (found : findRoute mgr ipPrefix = some route) :
    (routeUnref xdk mgr ipPrefix).entries =
        KeyedList.remove (·.1) ipPrefix mgr.entries ∧
      unrefFib bits true mgr ipPrefix fib = fib.erase bits route.xpRoute := by
  have member := List.mem_of_find?_eq_some found
  have samePrefix : route.ipPrefix = ipPrefix := by
    simpa using List.find?_some found
  have last : route.refCnt = 1 := by
    simp [inv.routeCounted route member]
  unfold routeUnref unrefFib
  simp only [found, if_pos last, if_true, and_true]
  rw [routeDelete, entries_of_routeMap (nhGroupUnref_routeMap ..), samePrefix]
  exact KeyedList.map_remove_view fun _ => rfl

/-- `route_add`. -/
theorem fibEffect_routeAdd
    {request : Request}
    (isAdd : request.action = .add)
    (absent : findRoute mgr request.route.ipPrefix = none) :
    FibEffect env bits mgr request fib (routeAdd env request.xdk mgr request.route).1
      (routeAdd env request.xdk mgr request.route).2
      (addFib env bits request.xdk mgr request.route fib) := by
  unfold routeAdd addFib
  rcases routeAddGroup_outcome env request.xdk mgr request.route with
    ⟨ref, mgr₁, acquired, result⟩ | ⟨errno, mgr₁, failed, result⟩
  · obtain ⟨routes, sameVrf⟩ := routeMap_of_acquired acquired
    simp only [result]
    cases parsed : env.stringToPrefix request.route.family request.route.ipPrefix with
    | none =>
        exact .rejected (entries_of_routeMap
          ((nhGroupUnref_routeMap request.xdk mgr₁ (some ref)).trans routes))
    | some parts =>
        simp only [newRoute, sameVrf]
        split
        · refine .added isAdd (notMem_entries_of_findRoute absent) parsed ?_
          rw [← entries_of_routeMap routes]
          rfl
        · exact .rejected (entries_of_routeMap
            ((nhGroupUnref_routeMap request.xdk mgr₁ (some ref)).trans routes))
  · simp only [result]
    have sameRoutes : mgr₁.routeMap = mgr.routeMap := by
      generalize isRc : some errno = rc at failed
      cases failed with
      | noMemory => rfl
      | unreachable allocated _ =>
          have routes := nhGroupAlloc_routeMap allocated
          exact routes
      | notProgrammed allocated _ _ =>
          have routes := nhGroupAlloc_routeMap allocated
          exact routes
      | refused acquired =>
          exact (nhGroupUnref_routeMap ..).trans (routeMap_of_acquired acquired).1
      | added _ => cases isRc
    exact .rejected (entries_of_routeMap sameRoutes)

/-- A commit, and what is left of it after the route is given back. -/
theorem Committed.effect
    {request : Request} {rc : Option Errno} {mgr'' : L3Mgr} {fib' : Fib}
    (committed : Committed bits request.route.ipPrefix mgr fib rc mgr' fib')
    (notDelete : request.action ≠ .delete)
    (known : request.route.ipPrefix ∈ mgr.entries.map (·.1))
    (after : mgr''.entries = mgr'.entries) :
    FibEffect env bits mgr request fib rc mgr'' fib' := by
  cases committed with
  | @quiet rc _ entries =>
      cases rc with
      | none => exact .unchanged (fun _ => known) notDelete (after.trans entries)
      | some errno => exact .rejected (after.trans entries)
  | wrote member entries => exact .written notDelete member (after.trans entries)

/-- What a request does to the entries and to the hardware, when the hardware does not
refuse to update a route or to remove one. -/
theorem fibEffect
    {request : RouteRequest}
    (inv : RefInv mgr none fun _ => 0)
    (updates : request.xdk.updateIpRouteEntry = true)
    (removes : request.removeIpRouteEntry = true) :
    FibEffect env bits mgr request.toRequest fib
      (routeEntryAction env mgr request.toRequest).rc
      (step env mgr request.toRequest) (routeFib env bits mgr request fib) := by
  have safe : ∀ {α : Prop}, request.xdk.updateIpRouteEntry = false → α := by
    intro α refused
    rw [updates] at refused
    cases refused
  unfold step routeEntryAction routeFib
  simp only
  split
  · exact .rejected rfl
  · unfold dispatch
    have looked := inv.lookup request.route.ipPrefix
    have sameEntries := entries_routeLookup mgr request.route.ipPrefix
    cases found : findRoute mgr request.route.ipPrefix with
    | none =>
        cases action : request.action with
        | add =>
            simp only [addRouteEntry, routeLookup, found]
            exact fibEffect_routeAdd action found
        | delete =>
            simp only [deleteRouteEntry, routeLookup, found]
            exact .rejected rfl
        | deleteNh =>
            simp only [deleteNhEntry, routeLookup, found]
            exact .unchanged (by simp [action]) (by simp [action]) rfl
        | unknown => exact .rejected rfl
    | some route =>
        have known : request.route.ipPrefix ∈ mgr.entries.map (·.1) :=
          List.mem_map.mpr ⟨_, mem_entries_of_findRoute found, rfl⟩
        obtain ⟨routePrefix, current, member, samePrefix, sameGroup⟩ :=
          routeLookup_some found
        simp only [found, Option.isSome_some, if_true] at looked
        have stillFound : (findRoute (routeLookup mgr request.route.ipPrefix).2
            request.route.ipPrefix).isSome := by
          rw [findRoute, List.find?_isSome]
          exact ⟨current, member, by simpa using samePrefix.trans routePrefix⟩
        cases action : request.action with
        | add =>
            have committed := @committed_routeUpdate env bits request.xdk
              (routeLookup mgr request.route.ipPrefix).2 fib request.route route
              updates (routePrefix ▸ stillFound)
            have kept := @RefInv.routeUpdate env request.xdk _ _ request.route _ _
              looked member samePrefix sameGroup safe
            have released := @entries_routeUnref_shared bits request.xdk _
              (updateFib env bits request.xdk
                (routeLookup mgr request.route.ipPrefix).2 request.route route fib)
              _ request.removeIpRouteEntry kept
            rw [routePrefix] at committed
            replace committed := committed.of_entries sameEntries
            simp only [routeLookup, found] at committed released
            simp only [addRouteEntry, routeLookup, found]
            rw [released.2]
            exact committed.effect (by simp [action]) known released.1
        | delete =>
            have once := @entries_routeUnref_shared bits request.xdk _ fib _
              request.removeIpRouteEntry looked
            have unlocked := looked.unlock request.xdk
            have left : findRoute (routeUnref request.xdk
                (routeLookup mgr request.route.ipPrefix).2 request.route.ipPrefix)
                request.route.ipPrefix ≠ none := by
              intro absent
              refine notMem_entries_of_findRoute absent ?_
              rw [once.1, sameEntries]
              exact known
            obtain ⟨last, isLast⟩ := Option.ne_none_iff_exists'.mp left
            have released := @entries_routeUnref_last bits request.xdk _ fib _ last
              unlocked isLast
            have member := mem_entries_of_findRoute isLast
            rw [once.1, sameEntries] at member released
            simp only [routeLookup, found] at once released
            simp only [deleteRouteEntry, routeLookup, found, removes]
            rw [← removes, once.2, removes, released.2]
            exact .removed action member released.1
        | deleteNh =>
            cases pointer : route.nhGroup with
            | none =>
                have released := @entries_routeUnref_shared bits request.xdk _ fib _
                  request.removeIpRouteEntry looked
                rw [sameEntries] at released
                simp only [routeLookup, found] at released
                simp only [deleteNhEntry, routeLookup, found, pointer]
                rw [released.2]
                exact .unchanged (by simp [action]) (by simp [action]) released.1
            | some ref =>
                have committed := @committed_deleteNhFrom env bits request.xdk
                  (routeLookup mgr request.route.ipPrefix).2 fib request.route ref
                  updates stillFound
                have kept := @RefInv.deleteNhFrom env request.xdk _ _ request.route
                  current ref looked member (samePrefix.trans routePrefix)
                  (sameGroup.trans pointer) safe
                have released := @entries_routeUnref_shared bits request.xdk _
                  (deleteNhFib env bits request.xdk
                    (routeLookup mgr request.route.ipPrefix).2 request.route ref fib)
                  _ request.removeIpRouteEntry kept
                replace committed := committed.of_entries sameEntries
                simp only [routeLookup, found] at committed released
                simp only [deleteNhEntry, routeLookup, found, pointer]
                rw [released.2]
                exact committed.effect (by simp [action]) known released.1
        | unknown => exact .rejected rfl

end Effects

end Routing
end XpliantSwitchd
