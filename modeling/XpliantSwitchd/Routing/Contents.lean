import XpliantSwitchd.Routing.References

/-!
# What a request does to routes and group contents

Reference counts apart, a request does very little: it moves the group pointer
of one route, publishes at most one group, and otherwise only drops groups.
`Moved` states this once, and every request is shown to be such a move.
-/

namespace XpliantSwitchd
namespace Routing

/-- The group pointer of each prefix that has a route. -/
def pointers (mgr : L3Mgr) (ipPrefix : String) : Option (Option GroupRef) :=
  (findRoute mgr ipPrefix).map (·.nhGroup)

/-- The fields of a group that a reference count does not touch: ids, slots,
base, size and hash. -/
def NhGroup.content (group : NhGroup) :
    List String × List Nat × Nat × Nat × Nat :=
  (group.ids, group.nhMap.map (·.xpNhId), group.nhId, group.size, group.hash)

theorem NhGroup.content_eq {group other : NhGroup} :
    group.content = other.content ↔
      group.ids = other.ids ∧
      group.nhMap.map (·.xpNhId) = other.nhMap.map (·.xpNhId) ∧
      group.nhId = other.nhId ∧ group.size = other.size ∧
      group.hash = other.hash := by
  simp [NhGroup.content]

theorem NhGroup.length_of_content {group other : NhGroup}
    (same : group.content = other.content) :
    group.nhMap.length = other.nhMap.length := by
  have ids := congrArg List.length (NhGroup.content_eq.mp same).1
  simpa using ids

theorem NhGroup.WellFormed.of_content {group other : NhGroup}
    (wellFormed : group.WellFormed)
    (same : other.content = group.content) : other.WellFormed := by
  obtain ⟨ids, slots, nhId, size, _⟩ := NhGroup.content_eq.mp same
  have length := NhGroup.length_of_content same
  refine ⟨ids ▸ wellFormed.idsOnce, ?_, ?_⟩
  · unfold NhGroup.Laid
    rw [slots, nhId, length]
    exact wellFormed.laid
  · rw [length, size]
    exact wellFormed.fits

/-- From `mgr` to `mgr'` the pointer of one prefix becomes `pointer`, the group
`published` is published, and groups that survive keep their contents. -/
structure Moved (mgr mgr' : L3Mgr) (ipPrefix : String)
    (pointer : Option (Option GroupRef)) (published : Option NhGroup) :
    Prop where
  pointers : pointers mgr' = Function.update (pointers mgr) ipPrefix pointer
  kept : ∀ ref group', ref < mgr.nextRef → mgr'.groups ref = some group' →
    ∃ group, mgr.groups ref = some group ∧ group'.content = group.content
  fresh : ∀ ref group', mgr.nextRef ≤ ref → mgr'.groups ref = some group' →
    ∃ group, published = some group ∧ ref = mgr.nextRef ∧
      group'.content = group.content
  nextRef : mgr'.nextRef = mgr.nextRef + if published.isSome then 1 else 0
  hosts : mgr'.hostIdMap = mgr.hostIdMap

namespace Moved

variable {mgr mgr₁ mgr₂ : L3Mgr} {ipPrefix : String}
  {pointer pointer' : Option (Option GroupRef)} {published : Option NhGroup}

/-- A move that leaves all pointers alone. -/
theorem quiet
    (samePointers : Routing.pointers mgr₁ = Routing.pointers mgr)
    (kept : ∀ ref group', mgr₁.groups ref = some group' →
      ∃ group, mgr.groups ref = some group ∧ group'.content = group.content)
    (dead : ∀ ref, mgr.nextRef ≤ ref → mgr.groups ref = none)
    (nextRef : mgr₁.nextRef = mgr.nextRef)
    (hosts : mgr₁.hostIdMap = mgr.hostIdMap) :
    Moved mgr mgr₁ ipPrefix (Routing.pointers mgr ipPrefix) none where
  pointers := by rw [samePointers, Function.update_eq_self]
  kept := fun ref group' _ live => kept ref group' live
  fresh := by
    intro ref group' above live
    obtain ⟨group, older, _⟩ := kept ref group' live
    rw [dead ref above] at older
    cases older
  nextRef := by simp [nextRef]
  hosts := hosts

/-- A move that leaves all groups alone. -/
theorem reroute
    (moved : Routing.pointers mgr₁ =
      Function.update (Routing.pointers mgr) ipPrefix pointer)
    (sameGroups : mgr₁.groups = mgr.groups)
    (dead : ∀ ref, mgr.nextRef ≤ ref → mgr.groups ref = none)
    (nextRef : mgr₁.nextRef = mgr.nextRef)
    (hosts : mgr₁.hostIdMap = mgr.hostIdMap) :
    Moved mgr mgr₁ ipPrefix pointer none where
  pointers := moved
  kept := by
    intro ref group' _ live
    rw [sameGroups] at live
    exact ⟨group', live, rfl⟩
  fresh := by
    intro ref group' above live
    rw [sameGroups, dead ref above] at live
    cases live
  nextRef := by simp [nextRef]
  hosts := hosts

/-- A move followed by one that publishes nothing. -/
theorem trans
    (first : Moved mgr mgr₁ ipPrefix pointer published)
    (second : Moved mgr₁ mgr₂ ipPrefix pointer' none) :
    Moved mgr mgr₂ ipPrefix pointer' published where
  pointers := by
    rw [second.pointers, first.pointers, Function.update_idem]
  kept := by
    intro ref group' below live
    have below₁ : ref < mgr₁.nextRef := by
      rw [first.nextRef]
      exact Nat.lt_add_right _ below
    obtain ⟨group₁, live₁, same₁⟩ := second.kept ref group' below₁ live
    obtain ⟨group, older, same⟩ := first.kept ref group₁ below live₁
    exact ⟨group, older, same₁.trans same⟩
  fresh := by
    intro ref group' above live
    rcases Nat.lt_or_ge ref mgr₁.nextRef with below₁ | above₁
    · obtain ⟨group₁, live₁, same₁⟩ := second.kept ref group' below₁ live
      obtain ⟨group, isPublished, isNext, same⟩ :=
        first.fresh ref group₁ above live₁
      exact ⟨group, isPublished, isNext, same₁.trans same⟩
    · obtain ⟨_, impossible, _⟩ := second.fresh ref group' above₁ live
      cases impossible
  nextRef := by
    have := first.nextRef
    have := second.nextRef
    simp_all
  hosts := second.hosts.trans first.hosts

/-- A move followed by one that leaves all pointers alone. -/
theorem thenQuiet
    (first : Moved mgr mgr₁ ipPrefix pointer published)
    (second : Moved mgr₁ mgr₂ ipPrefix (Routing.pointers mgr₁ ipPrefix) none) :
    Moved mgr mgr₂ ipPrefix pointer published := by
  rw [first.pointers, Function.update_self] at second
  exact first.trans second

/-- A move that publishes nothing followed by another one. -/
theorem trans'
    (first : Moved mgr mgr₁ ipPrefix pointer none)
    (second : Moved mgr₁ mgr₂ ipPrefix pointer' published) :
    Moved mgr mgr₂ ipPrefix pointer' published := by
  have sameNext : mgr₁.nextRef = mgr.nextRef := by simpa using first.nextRef
  refine ⟨?_, ?_, ?_, ?_, second.hosts.trans first.hosts⟩
  · rw [second.pointers, first.pointers, Function.update_idem]
  · intro ref group' below live
    obtain ⟨group₁, live₁, same₁⟩ :=
      second.kept ref group' (sameNext ▸ below) live
    obtain ⟨group, older, same⟩ := first.kept ref group₁ below live₁
    exact ⟨group, older, same₁.trans same⟩
  · intro ref group' above live
    obtain ⟨group, isPublished, isNext, same⟩ :=
      second.fresh ref group' (sameNext ▸ above) live
    exact ⟨group, isPublished, isNext.trans sameNext, same⟩
  · rw [second.nextRef, sameNext]

end Moved

/-! ## Primitives -/

section Primitives

variable {mgr mgr' : L3Mgr} {locked : Option String} {held : GroupRef → Nat}

/-- Changes of the hardware alone. -/
theorem RefInv.movedHw (inv : RefInv mgr locked held) (hw : NextHopTable)
    (ipPrefix : String) :
    Moved mgr { mgr with hw := hw } ipPrefix (pointers mgr ipPrefix) none := by
  refine .reroute ?_ rfl inv.fresh rfl rfl
  rw [Function.update_eq_self]
  rfl

/-- Writing back a published group with the same contents. -/
theorem RefInv.movedStore
    (inv : RefInv mgr locked held)
    {ref : GroupRef} {group : NhGroup}
    (published : ref ∈ mgr.nhGroupMap)
    (same : group.content = (deref mgr ref).content)
    (ipPrefix : String) :
    Moved mgr (store mgr ref (some group)) ipPrefix (pointers mgr ipPrefix)
      none := by
  refine .quiet rfl ?_ inv.fresh rfl rfl
  intro other group' live
  by_cases equal : other = ref
  · subst equal
    have isGroup : group = group' := by simpa [store] using live
    exact ⟨_, inv.live_of_published published, isGroup ▸ same⟩
  · have older : mgr.groups other = some group' := by
      simpa [store, Function.update_of_ne equal] using live
    exact ⟨group', older, rfl⟩

theorem RefInv.movedDelete
    (inv : RefInv mgr locked held)
    (xdk : Outcome) (group : NhGroup) (ref : GroupRef) (ipPrefix : String) :
    Moved mgr (nhGroupDelete xdk mgr group (some ref)) ipPrefix
      (pointers mgr ipPrefix) none := by
  refine .quiet rfl ?_ inv.fresh rfl rfl
  intro other group' live
  obtain ⟨hw, equation⟩ := nhGroupDelete_published xdk mgr group ref
  rw [equation] at live
  by_cases equal : other = ref
  · subst equal
    simp at live
  · have older : mgr.groups other = some group' := by
      simpa [Function.update_of_ne equal] using live
    exact ⟨group', older, rfl⟩

theorem RefInv.movedUnref
    (inv : RefInv mgr locked held)
    {pointer : Option GroupRef}
    (published : ∀ ref, pointer = some ref → ref ∈ mgr.nhGroupMap)
    (xdk : Outcome) (ipPrefix : String) :
    Moved mgr (nhGroupUnref xdk mgr pointer) ipPrefix (pointers mgr ipPrefix)
      none := by
  cases pointer with
  | none => exact inv.movedHw mgr.hw ipPrefix
  | some ref =>
      simp only [nhGroupUnref]
      split
      · exact inv.movedDelete xdk _ ref ipPrefix
      · refine inv.movedStore (published ref rfl) ?_ ipPrefix
        rfl

theorem RefInv.movedRef
    (inv : RefInv mgr locked held)
    {ref : GroupRef}
    (published : ref ∈ mgr.nhGroupMap)
    (ipPrefix : String) :
    Moved mgr (nhGroupRef mgr ref) ipPrefix (pointers mgr ipPrefix) none := by
  refine inv.movedStore published ?_ ipPrefix
  rfl

theorem RefInv.movedPublish
    (inv : RefInv mgr locked held) (group : NhGroup) (ipPrefix : String) :
    Moved mgr (Routing.publish mgr group) ipPrefix (pointers mgr ipPrefix)
      (some group) where
  pointers := by
    rw [Function.update_eq_self]
    rfl
  kept := by
    intro ref group' below live
    have different : ref ≠ mgr.nextRef := Nat.ne_of_lt below
    have older : mgr.groups ref = some group' := by
      simpa [Routing.publish, Function.update_of_ne different] using live
    exact ⟨group', older, rfl⟩
  fresh := by
    intro ref group' above live
    by_cases equal : ref = mgr.nextRef
    · subst equal
      have isGroup : group = group' := by
        simpa [Routing.publish] using live
      exact ⟨group, rfl, rfl, by rw [isGroup]⟩
    · have older : mgr.groups ref = some group' := by
        simpa [Routing.publish, Function.update_of_ne equal] using live
      rw [inv.fresh ref above] at older
      cases older
  nextRef := by simp [Routing.publish]
  hosts := rfl

/-- Looking up a prefix after the route of a prefix was rewritten. -/
theorem findRoute_modifyRoute
    (mgr : L3Mgr) (target ipPrefix : String) {change : RouteEntry → RouteEntry}
    (keepsPrefix : ∀ route, (change route).ipPrefix = route.ipPrefix) :
    findRoute (modifyRoute mgr target change) ipPrefix =
      (findRoute mgr ipPrefix).map fun route =>
        if route.ipPrefix = target then change route else route := by
  unfold findRoute modifyRoute KeyedList.rewrite
  rw [List.find?_map]
  congr 2
  funext route
  by_cases selected : route.ipPrefix = target
  · simp [selected, keepsPrefix]
  · simp [selected]

theorem findRoute_ipPrefix
    {ipPrefix : String} {route : RouteEntry}
    (found : findRoute mgr ipPrefix = some route) :
    route.ipPrefix = ipPrefix := by
  simpa using List.find?_some found

/-- Rewriting fields other than the group pointer. -/
theorem RefInv.movedModify
    (inv : RefInv mgr locked held)
    (target : String) {change : RouteEntry → RouteEntry}
    (keepsPrefix : ∀ route, (change route).ipPrefix = route.ipPrefix)
    (keepsGroup : ∀ route, (change route).nhGroup = route.nhGroup)
    (ipPrefix : String) :
    Moved mgr (Routing.modifyRoute mgr target change) ipPrefix
      (pointers mgr ipPrefix) none := by
  refine .reroute ?_ rfl inv.fresh rfl rfl
  rw [Function.update_eq_self]
  funext other
  unfold pointers
  rw [findRoute_modifyRoute mgr target other keepsPrefix, Option.map_map]
  congr 1
  funext route
  simp only [Function.comp_apply]
  split
  · exact keepsGroup route
  · rfl

/-- Writing the group pointer of a route that exists. -/
theorem RefInv.movedSetGroup
    (inv : RefInv mgr locked held)
    {ipPrefix : String}
    (exists_route : (findRoute mgr ipPrefix).isSome)
    (new : Option GroupRef) :
    Moved mgr
      (Routing.modifyRoute mgr ipPrefix fun route => { route with nhGroup := new })
      ipPrefix (some new) none := by
  refine .reroute ?_ rfl inv.fresh rfl rfl
  funext other
  unfold pointers
  rw [findRoute_modifyRoute mgr ipPrefix other (by intro _; rfl),
    Option.map_map]
  by_cases equal : other = ipPrefix
  · subst equal
    obtain ⟨route, found⟩ := Option.isSome_iff_exists.mp exists_route
    simp [found, findRoute_ipPrefix found]
  · rw [Function.update_of_ne equal]
    cases found : findRoute mgr other with
    | none => rfl
    | some route =>
        have different : route.ipPrefix ≠ ipPrefix := by
          rw [findRoute_ipPrefix found]
          exact equal
        simp [different]

theorem RefInv.movedInsert
    (inv : RefInv mgr locked held) (route : RouteEntry) :
    Moved mgr (Routing.insertRoute mgr route) route.ipPrefix
      (some route.nhGroup) none := by
  refine .reroute ?_ rfl inv.fresh rfl rfl
  funext other
  unfold pointers findRoute Routing.insertRoute
  rw [List.find?_cons]
  by_cases equal : other = route.ipPrefix
  · subst equal
    simp
  · have different : (route.ipPrefix == other) = false := by
      simpa using Ne.symm equal
    rw [Function.update_of_ne equal, different]

theorem RefInv.movedRemove
    (inv : RefInv mgr locked held) (ipPrefix : String) :
    Moved mgr (Routing.removeRoute mgr ipPrefix) ipPrefix none none := by
  refine .reroute ?_ rfl inv.fresh rfl rfl
  funext other
  unfold pointers findRoute Routing.removeRoute KeyedList.remove
  rw [List.find?_filter]
  by_cases equal : other = ipPrefix
  · subst equal
    simp
  · rw [Function.update_of_ne equal]
    congr 2
    funext route
    by_cases selected : route.ipPrefix = other
    · simp [selected, equal]
    · simp [selected]

end Primitives

/-! ## Requests whose XDK calls succeed -/

/-- Every call of the XDK during a request succeeds. -/
structure Outcome.Succeeds (xdk : Outcome) : Prop where
  creates : ∀ size, (xdk.createRouteNextHop size).isSome
  sets : ∀ slot, xdk.setRouteNextHop slot = true
  clears : ∀ slot, xdk.clearRouteNextHop slot = true
  adds : xdk.addIpRouteEntry = true
  updates : xdk.updateIpRouteEntry = true

theorem accepting_succeeds (base : Nat) : (accepting base).Succeeds :=
  ⟨fun _ => rfl, fun _ => rfl, fun _ => rfl, rfl, rfl⟩

theorem setNextHops_success
    {xdk : Outcome} (succeeds : xdk.Succeeds) (hw : NextHopTable)
    (entries : List NhEntry) : (setNextHops xdk hw entries).2 = true := by
  induction entries generalizing hw with
  | nil => rfl
  | cons entry entries inductionHypothesis =>
      simp only [setNextHops, succeeds.sets, if_true]
      exact inductionHypothesis _

/-- The group a request gives a route: one that lookup by contents finds, or
the candidate itself, now published. -/
inductive Chosen (xdk : Outcome) (mgr : L3Mgr) (candidate : NhGroup) :
    GroupRef → Option NhGroup → Prop
  | reused {ref : GroupRef} :
      nhGroupLookupByGroup xdk mgr candidate = some ref →
      Chosen xdk mgr candidate ref none
  | published : Chosen xdk mgr candidate mgr.nextRef (some candidate)

/-- The group a new route gets: one that lookup by request finds, or one built
from the requested next hops. -/
inductive Gained (env : Env) (mgr : L3Mgr) (request : Request) :
    GroupRef → Option NhGroup → Prop
  | reused {ref : GroupRef} :
      nhGroupLookupByRoute env request.xdk mgr request.route = some ref →
      Gained env mgr request ref none
  | built {group : NhGroup} :
      group.Laid →
      group.ids = request.route.nexthops.map (·.id) →
      group.size = request.route.nexthops.length →
      Gained env mgr request mgr.nextRef (some group)

/-- What a request does when the XDK succeeds, by its return code. -/
inductive Effect (env : Env) (mgr : L3Mgr) (request : Request) :
    Option Errno → L3Mgr → Prop
  | rejected {errno : Errno} {published : Option NhGroup} {mgr' : L3Mgr} :
      (published.isSome → ∃ ref, Gained env mgr request ref published) →
      Moved mgr mgr' request.route.ipPrefix
        (pointers mgr request.route.ipPrefix) published →
      Effect env mgr request (some errno) mgr'
  | inPlace {ref : GroupRef} {mgr' : L3Mgr} :
      request.action = .add →
      pointers mgr request.route.ipPrefix = some (some ref) →
      (∀ nh ∈ request.route.nexthops, nh.id ∈ (deref mgr ref).ids) →
      Moved mgr mgr' request.route.ipPrefix
        (pointers mgr request.route.ipPrefix) none →
      Effect env mgr request none mgr'
  | added {ref : GroupRef} {published : Option NhGroup} {mgr' : L3Mgr} :
      request.action = .add →
      pointers mgr request.route.ipPrefix = none →
      Gained env mgr request ref published →
      Moved mgr mgr' request.route.ipPrefix (some (some ref)) published →
      Effect env mgr request none mgr'
  | regrouped {candidate : NhGroup} {ref : GroupRef}
      {published : Option NhGroup} {mgr' : L3Mgr} :
      candidateGroup env mgr request = some candidate →
      Chosen request.xdk mgr candidate ref published →
      Moved mgr mgr' request.route.ipPrefix (some (some ref)) published →
      Effect env mgr request none mgr'
  | deleted {mgr' : L3Mgr} :
      request.action = .delete →
      Moved mgr mgr' request.route.ipPrefix none none →
      Effect env mgr request none mgr'
  | nothingToDelete {mgr' : L3Mgr} :
      request.action = .deleteNh →
      (∀ ref, pointers mgr request.route.ipPrefix ≠ some (some ref)) →
      Moved mgr mgr' request.route.ipPrefix
        (pointers mgr request.route.ipPrefix) none →
      Effect env mgr request none mgr'
  | emptied {ref : GroupRef} {mgr' : L3Mgr} :
      request.action = .deleteNh →
      pointers mgr request.route.ipPrefix = some (some ref) →
      (deref mgr ref).size ≤
        listedCount request.xdk request.route (deref mgr ref) →
      Moved mgr mgr' request.route.ipPrefix (some none) none →
      Effect env mgr request none mgr'

/-- The choice of a group does not look at the routes. -/
theorem Chosen.of_modifyRoute
    {xdk : Outcome} {mgr : L3Mgr} {candidate : NhGroup} {ref : GroupRef}
    {published : Option NhGroup} {ipPrefix : String}
    {change : RouteEntry → RouteEntry}
    (chosen : Chosen xdk (modifyRoute mgr ipPrefix change) candidate ref
      published) :
    Chosen xdk mgr candidate ref published := by
  cases chosen with
  | reused lookup => exact .reused lookup
  | published => exact .published

section Requests

variable {env : Env} {mgr : L3Mgr}

theorem RefInv.movedAlloc
    {xdk : Outcome} {mgr' : L3Mgr} {size : Nat} {result : Option NhGroup}
    {locked : Option String} {held : GroupRef → Nat}
    (inv : RefInv mgr locked held)
    (allocated : nhGroupAlloc env xdk mgr size = (result, mgr'))
    (ipPrefix : String) :
    Moved mgr mgr' ipPrefix (pointers mgr ipPrefix) none := by
  cases result with
  | none =>
      rw [nhGroupAlloc_none allocated]
      exact inv.movedHw mgr.hw ipPrefix
  | some group =>
      rw [(nhGroupAlloc_some allocated).2.2.2]
      exact inv.movedHw _ ipPrefix

theorem RefInv.movedSelect
    {xdk : Outcome} {mgr' : L3Mgr} {group : NhGroup} {ref : GroupRef}
    {locked : Option String}
    (inv : RefInv mgr locked fun _ => 0)
    (selected : selectGroup xdk mgr group = (some ref, mgr'))
    (ipPrefix : String) :
    ∃ published, Chosen xdk mgr group ref published ∧
      Moved mgr mgr' ipPrefix (pointers mgr ipPrefix) published := by
  rcases selectGroup_cases xdk mgr group with
    ⟨found, lookup, equation⟩ | ⟨hw, lookup, _, equation⟩ |
    ⟨hw, lookup, _, equation⟩
  · rw [equation] at selected
    cases selected
    have isPublished := nhGroupLookupByGroup_published lookup
    exact ⟨none, .reused lookup, (inv.movedRef isPublished ipPrefix).trans
      ((inv.ref isPublished).movedHw _ ipPrefix)⟩
  · rw [equation] at selected
    cases selected
    exact ⟨some group, .published, (inv.movedHw hw ipPrefix).trans'
      ((inv.withHw hw).movedPublish group ipPrefix)⟩
  · rw [equation] at selected
    cases selected

theorem selectGroup_ne_none
    {xdk : Outcome} (succeeds : xdk.Succeeds) {group : NhGroup} {mgr' : L3Mgr} :
    selectGroup xdk mgr group ≠ (none, mgr') := by
  rcases selectGroup_cases xdk mgr group with
    ⟨found, lookup, equation⟩ | ⟨hw, lookup, _, equation⟩ |
    ⟨hw, lookup, programmed, equation⟩
  · simp [equation]
  · simp [equation]
  · have success := setNextHops_success succeeds mgr.hw
      (xdk.nhOrder.visit group.nhMap)
    rw [programmed] at success
    cases success

/-- A committed group becomes the group of the route. -/
theorem RefInv.movedCommit
    {locked : Option String} {new : Option GroupRef} {route : RouteEntry}
    {xdk : Outcome}
    (succeeds : xdk.Succeeds)
    (inv : RefInv mgr locked (hold (fun _ => 0) new))
    (published : ∀ ref, new = some ref → ref ∈ mgr.nhGroupMap)
    (member : route ∈ mgr.routeMap)
    (failure : Errno) :
    ∃ mgr', commitGroup xdk mgr route.ipPrefix route.nhGroup new failure =
        (none, mgr') ∧
      Moved mgr mgr' route.ipPrefix (some new) none := by
  refine ⟨_, commitGroup_success succeeds.updates mgr _ _ _ failure, ?_⟩
  have written := inv.writeHwRoute route.ipPrefix (new.map (deref mgr))
  have writtenMember :
      Routing.writeHwRoute (new.map (deref mgr)) route ∈
        (Routing.modifyRoute mgr route.ipPrefix
          (Routing.writeHwRoute (new.map (deref mgr)))).routeMap :=
    KeyedList.mem_rewrite.mpr (.inl ⟨route, member, rfl, rfl⟩)
  have found : (findRoute (Routing.modifyRoute mgr route.ipPrefix
      (Routing.writeHwRoute (new.map (deref mgr)))) route.ipPrefix).isSome := by
    rw [findRoute, List.find?_isSome]
    exact ⟨_, writtenMember, by simp [Routing.writeHwRoute]⟩
  have pointed := written.setGroup published writtenMember
  have movedWrite : Moved mgr (Routing.modifyRoute mgr route.ipPrefix
      (Routing.writeHwRoute (new.map (deref mgr)))) route.ipPrefix
      (pointers mgr route.ipPrefix) none :=
    inv.movedModify _ (by intro _; rfl) (by intro _; rfl) _
  have movedSet := movedWrite.trans (written.movedSetGroup found new)
  refine movedSet.thenQuiet (pointed.movedUnref ?_ xdk route.ipPrefix)
  intro ref points
  exact inv.pointsPublished route member ref points

/-- Allocation, selection and commit of a new group, one after the other. -/
theorem RefInv.movedRegroup
    {xdk : Outcome} {locked : Option String} {size : Nat}
    {empty group : NhGroup} {mgr₁ mgr₂ : L3Mgr} {ref : GroupRef}
    {route : RouteEntry}
    (succeeds : xdk.Succeeds)
    (inv : RefInv mgr locked fun _ => 0)
    (allocated : nhGroupAlloc env xdk mgr size = (some empty, mgr₁))
    (once : group.refCnt = 1)
    (chosen : selectGroup xdk mgr₁ group = (some ref, mgr₂))
    (member : route ∈ mgr.routeMap)
    (failure : Errno) :
    ∃ mgr' published,
      commitGroup xdk mgr₂ route.ipPrefix route.nhGroup (some ref) failure =
        (none, mgr') ∧
      Chosen xdk mgr group ref published ∧
      Moved mgr mgr' route.ipPrefix (some (some ref)) published := by
  have inv₁ := inv.alloc allocated
  have movedAlloc := inv.movedAlloc allocated route.ipPrefix
  have sameState := (nhGroupAlloc_some allocated).2.2.2
  obtain ⟨published, choice, movedSelect⟩ :=
    inv₁.movedSelect chosen route.ipPrefix
  obtain ⟨held, inMap, sameRoutes, _⟩ := inv₁.select once chosen
  have stillMember : route ∈ mgr₂.routeMap := by
    rw [sameRoutes, sameState]
    exact member
  have isPublished : ∀ other, some ref = some other → other ∈ mgr₂.nhGroupMap := by
    intro other equal
    cases equal
    exact inMap
  obtain ⟨mgr', equation, movedCommit⟩ :=
    held.movedCommit succeeds isPublished stillMember failure
  refine ⟨mgr', published, equation, ?_,
    (movedAlloc.trans' movedSelect).trans movedCommit⟩
  subst sameState
  cases choice with
  | reused lookup => exact .reused lookup
  | published => exact .published

/-- Every live group is well formed. -/
def GroupsWell (mgr : L3Mgr) : Prop :=
  ∀ ref group, mgr.groups ref = some group → group.WellFormed

/-- Groups that survive a move stay well formed. -/
theorem GroupsWell.moved
    {mgr' : L3Mgr} {ipPrefix : String} {pointer : Option (Option GroupRef)}
    {published : Option NhGroup}
    (well : GroupsWell mgr)
    (moved : Moved mgr mgr' ipPrefix pointer published)
    (publishedWell : ∀ group, published = some group → group.WellFormed) :
    GroupsWell mgr' := by
  intro ref group' live
  rcases Nat.lt_or_ge ref mgr.nextRef with below | above
  · obtain ⟨group, older, same⟩ := moved.kept ref group' below live
    exact (well ref group older).of_content same
  · obtain ⟨group, isPublished, _, same⟩ := moved.fresh ref group' above live
    exact (publishedWell group isPublished).of_content same

/-- An update in place keeps the contents of a group. -/
theorem nhGroupUpdate_content
    {xdk : Outcome} {hosts : List HostEntry} {group updated : NhGroup}
    {requests : List RouteNexthop} {rc : Option Errno}
    (laid : group.Laid)
    (known : ∀ request ∈ requests, request.id ∈ group.ids)
    (result : nhGroupUpdate env xdk hosts group requests = (updated, rc)) :
    updated.content = group.content := by
  have keeps := (nhGroupUpdate_keeps env xdk hosts group requests).2
  have inPlace : updated.ids = group.ids ∧ updated.Laid ∧
      updated.size = group.size ∧ updated.hash = group.hash := by
    have spec := @nhGroupUpdate_inPlace env xdk hosts group requests laid known
    rwa [result] at spec
  rw [result] at keeps
  obtain ⟨ids, laidAfter, size, hash⟩ := inPlace
  have length : updated.nhMap.length = group.nhMap.length := by
    simpa using congrArg List.length ids
  refine NhGroup.content_eq.mpr ⟨ids, ?_, keeps, size, hash⟩
  rw [laidAfter, laid, length, keeps]

theorem known_of_needsNewGroup
    {xdk : Outcome} {group : NhGroup} {requests : List RouteNexthop}
    (sufficient : needsNewGroup xdk (some group) requests = false) :
    ∀ request ∈ requests, request.id ∈ group.ids := by
  intro request member
  have known := List.any_eq_false.mp sufficient request member
  apply nhLookup_isSome.mp
  simpa [Option.isSome_iff_ne_none] using known

/-- The ways `route_update` can end when the XDK succeeds. -/
theorem RefInv.updateEffect
    {xdk : Outcome} {locked : Option String} {request : OfprotoRoute}
    {route current : RouteEntry} {outcome : Option Errno × L3Mgr}
    (succeeds : xdk.Succeeds)
    (inv : RefInv mgr locked fun _ => 0)
    (well : GroupsWell mgr)
    (asks : request.nexthops ≠ [])
    (member : current ∈ mgr.routeMap)
    (samePrefix : current.ipPrefix = route.ipPrefix)
    (sameGroup : current.nhGroup = route.nhGroup)
    (result : Routing.routeUpdate env xdk mgr request route = outcome) :
    (outcome.1.isSome ∧ Moved mgr outcome.2 route.ipPrefix
      (pointers mgr route.ipPrefix) none) ∨
    (outcome.1 = none ∧ ∃ ref, route.nhGroup = some ref ∧
      (∀ nh ∈ request.nexthops, nh.id ∈ (deref mgr ref).ids) ∧
      Moved mgr outcome.2 route.ipPrefix (pointers mgr route.ipPrefix) none) ∨
    (outcome.1 = none ∧ ∃ candidate ref published,
      updateCandidate env xdk mgr request route.nhGroup = some candidate ∧
      Chosen xdk mgr candidate ref published ∧
      Moved mgr outcome.2 route.ipPrefix (some (some ref)) published) := by
  have published : ∀ ref, route.nhGroup = some ref → ref ∈ mgr.nhGroupMap := by
    intro ref pointer
    exact inv.pointsPublished current member ref (sameGroup.trans pointer)
  have stored : ∀ {ref : GroupRef} {group : NhGroup} {errno : Option Errno},
      needsNewGroup xdk (route.nhGroup.map (deref mgr)) request.nexthops =
        false →
      route.nhGroup = some ref →
      nhGroupUpdate env xdk mgr.hostIdMap (deref mgr ref) request.nexthops =
        (group, errno) →
      (∀ nh ∈ request.nexthops, nh.id ∈ (deref mgr ref).ids) ∧
        Moved mgr (store mgr ref (some group)) route.ipPrefix
          (pointers mgr route.ipPrefix) none := by
    intro ref group errno sufficient pointer updated
    rw [pointer] at sufficient
    have known := known_of_needsNewGroup sufficient
    have live := inv.live_of_published (published ref pointer)
    have laid := (well ref _ live).laid
    exact ⟨known, inv.movedStore (published ref pointer)
      (nhGroupUpdate_content laid known updated) _⟩
  have shape := routeUpdate_outcome env xdk mgr request route
  rw [result] at shape
  cases shape with
  | noMemory => exact .inl ⟨rfl, inv.movedHw mgr.hw _⟩
  | unreachable allocated _ =>
      exact .inl ⟨rfl, (inv.movedAlloc allocated _).thenQuiet
        ((inv.alloc allocated).movedHw _ _)⟩
  | notProgrammed _ chosen => exact absurd chosen (selectGroup_ne_none succeeds)
  | stopped sufficient pointer updated =>
      exact .inl ⟨rfl, (stored sufficient pointer updated).2⟩
  | @inPlace ref group hw success sufficient pointer updated programmed =>
      have isSuccess := setNextHops_success succeeds mgr.hw
        (xdk.nhOrder.visit group.nhMap)
      rw [programmed] at isSuccess
      obtain ⟨known, moved⟩ := stored sufficient pointer updated
      simp only at isSuccess
      refine .inr (.inl ⟨by simp [isSuccess], ref, pointer, known, ?_⟩)
      exact moved.thenQuiet
        ((inv.storeUpdated (published ref pointer) updated).movedHw hw _)
  | noGroup sufficient pointer =>
      rw [pointer] at sufficient
      obtain ⟨nh, rest, isCons⟩ := List.exists_cons_of_ne_nil asks
      simp [needsNewGroup, isCons] at sufficient
  | @regrouped empty group mgr₁ mgr₂ ref building allocated merged chosen =>
      have once : group.refCnt = 1 := by
        rw [mergedGroup_refCnt merged, (nhGroupAlloc_some allocated).2.2.1]
      have candidate :
          updateCandidate env xdk mgr request route.nhGroup = some group := by
        simp only [updateCandidate, building, if_true, allocated,
          Option.bind_some, merged]
      obtain ⟨committed, fresh, equation, choice, moved⟩ :=
        inv.movedRegroup succeeds allocated once chosen member .EACCES
      rw [samePrefix, sameGroup] at equation
      rw [samePrefix] at moved
      rw [equation]
      exact .inr (.inr ⟨rfl, group, ref, fresh, candidate, choice, moved⟩)

theorem RefInv.movedLookup
    {held : GroupRef → Nat} (inv : RefInv mgr none held) (ipPrefix : String) :
    Moved mgr (routeLookup mgr ipPrefix).2 ipPrefix (pointers mgr ipPrefix)
      none := by
  unfold routeLookup
  cases findRoute mgr ipPrefix with
  | none => exact inv.movedHw mgr.hw ipPrefix
  | some route =>
      exact inv.movedModify _ (by intro _; rfl) (by intro _; rfl) _

theorem RefInv.movedUnlock
    {held : GroupRef → Nat} {ipPrefix : String}
    (inv : RefInv mgr (some ipPrefix) held) (xdk : Outcome) :
    Moved mgr (routeUnref xdk mgr ipPrefix) ipPrefix (pointers mgr ipPrefix)
      none := by
  unfold routeUnref
  cases found : findRoute mgr ipPrefix with
  | none => exact inv.movedHw mgr.hw ipPrefix
  | some route =>
      have twice : route.refCnt = 2 := by
        simpa [findRoute_ipPrefix found] using
          inv.routeCounted route (List.mem_of_find?_eq_some found)
      simp only [twice]
      exact inv.movedModify _ (by intro _; rfl) (by intro _; rfl) _

/-- Well-formedness of a group that `route_add` filled. -/
theorem nhGroupFill_gained
    {xdk : Outcome} {mgr₁ : L3Mgr} {hosts : List HostEntry} {request : OfprotoRoute}
    {empty group : NhGroup}
    (allocated : nhGroupAlloc env xdk mgr request.nexthops.length =
      (some empty, mgr₁))
    (filled : nhGroupFill env hosts empty request.nexthops = (group, none)) :
    group.Laid ∧ group.ids = request.nexthops.map (·.id) ∧
      group.size = request.nexthops.length := by
  have shape := (nhGroupAlloc_some allocated).2.2.1
  have noHops : empty.nhMap = [] := by rw [shape]
  have size : empty.size = request.nexthops.length := by rw [shape]
  have noIds : empty.ids = [] := by simp [NhGroup.ids, noHops]
  have laid : empty.Laid := by simp [NhGroup.Laid, noHops]
  obtain ⟨ids, laidAfter, sameSize⟩ :=
    nhGroupFill_spec laid (by simp [noHops, size]) filled
  exact ⟨laidAfter, by simpa [noIds] using ids, sameSize.trans size⟩

/-- The ways `route_add` can end when the XDK succeeds. -/
theorem RefInv.addEffect
    {request : Request} {outcome : Option Errno × L3Mgr}
    (inv : RefInv mgr none fun _ => 0)
    (isAdd : request.action = .add)
    (absent : findRoute mgr request.route.ipPrefix = none)
    (result : Routing.routeAdd env request.xdk mgr request.route = outcome) :
    Effect env mgr request outcome.1 outcome.2 := by
  have unrouted : pointers mgr request.route.ipPrefix = none := by
    simp [pointers, absent]
  have gained : ∀ {ref : GroupRef} {mgr₁ : L3Mgr},
      Acquired env request.xdk mgr request.route ref mgr₁ →
      ∃ published, Gained env mgr request ref published ∧
        Moved mgr mgr₁ request.route.ipPrefix
          (pointers mgr request.route.ipPrefix) published := by
    intro ref mgr₁ acquired
    cases acquired with
    | reused found =>
        have isPublished := (request.xdk.groupOrder.of_find?_visit found).1
        exact ⟨none, .reused found, inv.movedRef isPublished _⟩
    | @built empty group mgr₁ hw allocated filled programmed =>
        have inv₁ := inv.alloc allocated
        have sameNext : mgr₁.nextRef = mgr.nextRef := by
          rw [(nhGroupAlloc_some allocated).2.2.2]
        have samePointers : pointers mgr₁ = pointers mgr := by
          rw [(nhGroupAlloc_some allocated).2.2.2]
          rfl
        obtain ⟨laid, ids, size⟩ := nhGroupFill_gained allocated filled
        refine ⟨some group, ?_, ?_⟩
        · rw [sameNext]
          exact .built laid ids size
        · rw [← samePointers]
          exact (inv.movedAlloc allocated _).trans'
            ((inv₁.movedHw hw _).trans'
              ((inv₁.withHw hw).movedPublish group _))
  have shape := routeAdd_outcome env request.xdk mgr request.route
  rw [result] at shape
  cases shape with
  | noMemory => exact .rejected (by simp) (inv.movedHw mgr.hw _)
  | unreachable allocated _ =>
      exact .rejected (by simp) ((inv.movedAlloc allocated _).thenQuiet
        ((inv.alloc allocated).movedHw _ _))
  | notProgrammed allocated _ =>
      exact .rejected (by simp) ((inv.movedAlloc allocated _).thenQuiet
        ((inv.alloc allocated).movedHw _ _))
  | @refused ref mgr₁ errno acquired =>
      obtain ⟨published, choice, moved⟩ := gained acquired
      obtain ⟨held, isPublished, _⟩ := inv.acquire acquired
      have inMap : ∀ other, some ref = some other →
          other ∈ mgr₁.nhGroupMap := by
        intro other equal
        cases equal
        exact isPublished
      exact .rejected (fun _ => ⟨ref, choice⟩)
        (moved.thenQuiet (held.movedUnref inMap request.xdk _))
  | @added ref mgr₁ addr len acquired =>
      obtain ⟨published, choice, moved⟩ := gained acquired
      obtain ⟨held, _, _⟩ := inv.acquire acquired
      exact .added isAdd unrouted choice
        (moved.trans (held.movedInsert (newRoute mgr₁ request.route addr len ref)))

theorem RefInv.movedUnrefLast
    (inv : RefInv mgr none fun _ => 0) (xdk : Outcome) (ipPrefix : String) :
    Moved mgr (routeUnref xdk mgr ipPrefix) ipPrefix none none := by
  unfold routeUnref
  cases found : findRoute mgr ipPrefix with
  | none =>
      have quiet := inv.movedHw mgr.hw ipPrefix
      simpa [pointers, found] using quiet
  | some route =>
      have member := List.mem_of_find?_eq_some found
      have once : route.refCnt = 1 := by
        simpa using inv.routeCounted route member
      have samePrefix := findRoute_ipPrefix found
      subst samePrefix
      simp only [once, if_true]
      refine (inv.movedRemove route.ipPrefix).thenQuiet
        ((inv.removeRoute member).movedUnref ?_ xdk _)
      intro ref points
      exact inv.pointsPublished route member ref points

/-- `ADD` for a prefix that has a route. -/
theorem RefInv.addFoundEffect
    {request : Request} {route : RouteEntry}
    (succeeds : request.xdk.Succeeds)
    (inv : RefInv mgr none fun _ => 0)
    (well : GroupsWell mgr)
    (isAdd : request.action = .add)
    (asks : request.route.nexthops ≠ [])
    (found : findRoute mgr request.route.ipPrefix = some route) :
    Effect env mgr request
      (Routing.addRouteEntry env request.xdk mgr request.route).1
      (Routing.addRouteEntry env request.xdk mgr request.route).2 := by
  have looked := inv.lookup request.route.ipPrefix
  have movedLookup := inv.movedLookup request.route.ipPrefix
  obtain ⟨routePrefix, current, member, samePrefix, sameGroup⟩ :=
    routeLookup_some found
  have routed : pointers mgr request.route.ipPrefix = some route.nhGroup := by
    simp [pointers, found]
  simp only [found, Option.isSome_some, if_true] at looked
  simp only [routeLookup, found] at looked member movedLookup
  simp only [Routing.addRouteEntry, routeLookup, found]
  generalize lookedUp : Routing.modifyRoute mgr request.route.ipPrefix
    (fun route => { route with refCnt := route.refCnt + 1 }) = mgr₀ at *
  have updated : RefInv
      (Routing.routeUpdate env request.xdk mgr₀ request.route route).2
      (some request.route.ipPrefix) fun _ => 0 := by
    refine looked.routeUpdate member samePrefix sameGroup ?_
    intro refused
    rw [succeeds.updates] at refused
    cases refused
  generalize result : Routing.routeUpdate env request.xdk mgr₀ request.route
    route = outcome at *
  have movedUnlock := updated.movedUnlock request.xdk
  have well₀ : GroupsWell mgr₀ := lookedUp ▸ well
  rcases looked.updateEffect succeeds well₀ asks member samePrefix sameGroup
      result with
    ⟨failed, moved⟩ | ⟨isNone, ref, pointer, known, moved⟩ |
    ⟨isNone, candidate, ref, published, candidateIs, choice, moved⟩
  · rw [routePrefix] at moved
    obtain ⟨errno, isErrno⟩ := Option.isSome_iff_exists.mp failed
    rw [isErrno]
    exact .rejected (by simp) ((movedLookup.thenQuiet moved).thenQuiet movedUnlock)
  · rw [routePrefix] at moved
    rw [isNone]
    subst lookedUp
    exact .inPlace isAdd (routed.trans (congrArg some pointer)) known
      ((movedLookup.thenQuiet moved).thenQuiet movedUnlock)
  · rw [routePrefix] at moved
    rw [isNone]
    subst lookedUp
    rw [updateCandidate_modifyRoute] at candidateIs
    have isCandidate : candidateGroup env mgr request = some candidate := by
      simp only [candidateGroup, found, Option.bind_some, isAdd]
      exact candidateIs
    exact .regrouped isCandidate choice.of_modifyRoute
      ((movedLookup.trans' moved).thenQuiet movedUnlock)

/-- `DELETE` for a prefix that has a route. -/
theorem RefInv.deleteFoundEffect
    {request : Request} {route : RouteEntry}
    (inv : RefInv mgr none fun _ => 0)
    (isDelete : request.action = .delete)
    (found : findRoute mgr request.route.ipPrefix = some route) :
    Effect env mgr request
      (Routing.deleteRouteEntry request.xdk mgr request.route).1
      (Routing.deleteRouteEntry request.xdk mgr request.route).2 := by
  have looked := inv.lookup request.route.ipPrefix
  have movedLookup := inv.movedLookup request.route.ipPrefix
  simp only [found, Option.isSome_some, if_true] at looked
  simp only [routeLookup, found] at looked movedLookup
  simp only [Routing.deleteRouteEntry, routeLookup, found]
  exact .deleted isDelete
    ((movedLookup.thenQuiet (looked.movedUnlock request.xdk)).trans
      ((looked.unlock request.xdk).movedUnrefLast request.xdk _))

/-- `DELETE_NH` for a prefix that has a route. -/
theorem RefInv.deleteNhFoundEffect
    {request : Request} {route : RouteEntry}
    (succeeds : request.xdk.Succeeds)
    (inv : RefInv mgr none fun _ => 0)
    (isDeleteNh : request.action = .deleteNh)
    (found : findRoute mgr request.route.ipPrefix = some route) :
    Effect env mgr request
      (Routing.deleteNhEntry env request.xdk mgr request.route).1
      (Routing.deleteNhEntry env request.xdk mgr request.route).2 := by
  have looked := inv.lookup request.route.ipPrefix
  have movedLookup := inv.movedLookup request.route.ipPrefix
  obtain ⟨routePrefix, current, member, samePrefix, sameGroup⟩ :=
    routeLookup_some found
  have routed : pointers mgr request.route.ipPrefix = some route.nhGroup := by
    simp [pointers, found]
  simp only [found, Option.isSome_some, if_true] at looked
  simp only [routeLookup, found] at looked member movedLookup
  simp only [Routing.deleteNhEntry, routeLookup, found]
  generalize lookedUp : Routing.modifyRoute mgr request.route.ipPrefix
    (fun route => { route with refCnt := route.refCnt + 1 }) = mgr₀ at *
  cases pointer : route.nhGroup with
  | none =>
      exact .nothingToDelete isDeleteNh (by simp [routed, pointer])
        (movedLookup.thenQuiet (looked.movedUnlock request.xdk))
  | some ref =>
      have currentPrefix := samePrefix.trans routePrefix
      have currentGroup := sameGroup.trans pointer
      have deleted : RefInv
          (Routing.deleteNhFrom env request.xdk mgr₀ request.route ref).2
          (some request.route.ipPrefix) fun _ => 0 := by
        refine looked.deleteNhFrom member currentPrefix currentGroup ?_
        intro refused
        rw [succeeds.updates] at refused
        cases refused
      have shape := deleteNhFrom_outcome env request.xdk mgr₀ request.route ref
      simp only
      generalize Routing.deleteNhFrom env request.xdk mgr₀ request.route ref =
        outcome at *
      have movedUnlock := deleted.movedUnlock request.xdk
      cases shape with
      | noMemory => exact .rejected (by simp) (movedLookup.thenQuiet movedUnlock)
      | notProgrammed _ chosen =>
          exact absurd chosen (selectGroup_ne_none succeeds)
      | emptied none_left =>
          have unheld : RefInv mgr₀ (some request.route.ipPrefix)
              (hold (fun _ => 0) none) := by rwa [hold_none]
          obtain ⟨mgr', equation, moved⟩ := unheld.movedCommit succeeds
            (by intro _ equal; cases equal) member .EPERM
          rw [currentPrefix, currentGroup] at equation
          rw [currentPrefix] at moved
          rw [equation] at movedUnlock ⊢
          subst lookedUp
          exact .emptied isDeleteNh (routed.trans (congrArg some pointer)) none_left
            ((movedLookup.trans moved).thenQuiet movedUnlock)
      | @regrouped empty mgr₁ mgr₂ new left allocated chosen =>
          have once : (remainingGroup env request.xdk request.route empty
              (deref mgr₀ ref)).refCnt = 1 := by
            rw [remainingGroup, nhInsertAll_refCnt,
              (nhGroupAlloc_some allocated).2.2.1]
          obtain ⟨mgr', published, equation, choice, moved⟩ :=
            looked.movedRegroup succeeds allocated once chosen member .EPERM
          rw [currentPrefix, currentGroup] at equation
          rw [currentPrefix] at moved
          rw [equation] at movedUnlock ⊢
          have candidateIs : deleteCandidate env request.xdk mgr₀ request.route
              ref = some (remainingGroup env request.xdk request.route empty
                (deref mgr₀ ref)) := by
            unfold listedCount at left allocated
            simp only [deleteCandidate, left, if_true, allocated,
              Option.map_some]
            rfl
          subst lookedUp
          rw [deleteCandidate_modifyRoute] at candidateIs
          have isCandidate : candidateGroup env mgr request =
              some (remainingGroup env request.xdk request.route empty
                (deref mgr ref)) := by
            simp only [candidateGroup, found, Option.bind_some, isDeleteNh,
              pointer]
            exact candidateIs
          exact .regrouped isCandidate choice.of_modifyRoute
            ((movedLookup.trans' moved).thenQuiet movedUnlock)

/-- What a request does to the software state when the XDK succeeds. -/
theorem RefInv.effect
    {request : Request}
    (succeeds : request.xdk.Succeeds)
    (inv : RefInv mgr none fun _ => 0)
    (well : GroupsWell mgr) :
    Effect env mgr request (routeEntryAction env mgr request).rc
      (Routing.step env mgr request) := by
  unfold Routing.step routeEntryAction
  split
  · exact .rejected (by simp) (inv.movedHw mgr.hw _)
  · rename_i asks
    unfold dispatch
    cases found : findRoute mgr request.route.ipPrefix with
    | none =>
        have unrouted : pointers mgr request.route.ipPrefix = none := by
          simp [pointers, found]
        cases action : request.action with
        | add =>
            simp only [Routing.addRouteEntry, routeLookup, found]
            exact inv.addEffect action found rfl
        | delete =>
            simp only [Routing.deleteRouteEntry, routeLookup, found]
            exact .rejected (by simp) (inv.movedHw mgr.hw _)
        | deleteNh =>
            simp only [Routing.deleteNhEntry, routeLookup, found]
            exact .nothingToDelete action (by simp [unrouted])
              (inv.movedHw mgr.hw _)
        | unknown => exact .rejected (by simp) (inv.movedHw mgr.hw _)
    | some route =>
        cases action : request.action with
        | add => exact inv.addFoundEffect succeeds well action asks found
        | delete => exact inv.deleteFoundEffect action found
        | deleteNh => exact inv.deleteNhFoundEffect succeeds action found
        | unknown => exact .rejected (by simp) (inv.movedHw mgr.hw _)

end Requests

end Routing
end XpliantSwitchd
