import XpliantSwitchd.Routing.Blocks
import XpliantSwitchd.Routing.Forwarding

/-!
# Teardown of the routes

When its last reference goes, the manager deletes its routes in the order of the hash
table, and then the groups that are left over.  No group is left over: each one goes
with the last route that uses it, and takes its block of slots with it.
-/

namespace XpliantSwitchd
namespace Routing

/-- What the XDK and the hash tables do while the manager is destroyed. -/
structure TeardownOutcome extends Outcome where
  routeOrder : Traversal RouteEntry
  removeIpRouteEntry : String → Bool

/-- The loop of `ops_xp_l3_mgr_destroy` over `route_map`. -/
def destroyRoutes (xdk : TeardownOutcome) (mgr : L3Mgr) : L3Mgr :=
  (xdk.routeOrder.visit mgr.routeMap).foldl (routeDelete xdk.toOutcome) mgr

/-- The loop of `ops_xp_l3_mgr_destroy` over `nh_group_map`. -/
def destroyGroups (xdk : TeardownOutcome) (mgr : L3Mgr) : L3Mgr :=
  (xdk.groupOrder.visit mgr.nhGroupMap).foldl
    (fun mgr ref => nhGroupDelete xdk.toOutcome mgr (deref mgr ref) (some ref)) mgr

/-- The routes and the groups of `ops_xp_l3_mgr_destroy`. -/
def l3MgrDestroy (xdk : TeardownOutcome) (mgr : L3Mgr) : L3Mgr :=
  destroyGroups xdk (destroyRoutes xdk mgr)

/-- The calls of `xpsL3RemoveIpRouteEntry` in `ops_xp_l3_mgr_destroy`. -/
def destroyFib (bits : PrefixBits) (xdk : TeardownOutcome) (mgr : L3Mgr) (fib : Fib) :
    Fib :=
  (xdk.routeOrder.visit mgr.routeMap).foldl
    (fun fib route =>
      if xdk.removeIpRouteEntry route.ipPrefix then fib.erase bits route.xpRoute
      else fib) fib

/-- What deletions do to the hardware.  They destroy blocks that are outstanding, and
clear the slots of the groups that they free unless the XDK refuses. -/
structure Deletes (xdk : Outcome) (mgr mgr' : L3Mgr) : Prop where
  balanced : ∃ calls : List DestroyCall,
    mgr'.hw.destroyed = calls ++ mgr.hw.destroyed ∧
      (calls.map (·.block) ++ mgr'.hw.blocks).Perm mgr.hw.blocks
  cleared : ∀ ref group, mgr.groups ref = some group →
    (∃ current, mgr'.groups ref = some current ∧ current.nhMap = group.nhMap) ∨
      ∀ nh ∈ group.nhMap, xdk.clearRouteNextHop nh.xpNhId = true →
        mgr'.hw.slots nh.xpNhId = none
  unwritten : ∀ slot, mgr.hw.slots slot = none → mgr'.hw.slots slot = none

/-- Nothing of the manager is left.  Every outstanding block was destroyed once, by a
proper call, every slot was cleared unless the XDK refused, and the hardware has the
route entries whose removal was refused. -/
structure Dismantled (bits : PrefixBits) (xdk : TeardownOutcome) (mgr mgr' : L3Mgr)
    (fib' : Fib) : Prop where
  noRoutes : mgr'.routeMap = []
  noGroups : mgr'.nhGroupMap = [] ∧ ∀ ref, mgr'.groups ref = none
  noBlocks : mgr'.hw.blocks = []
  destroyed : ∃ calls : List DestroyCall,
    mgr'.hw.destroyed = calls ++ mgr.hw.destroyed ∧
      (calls.map (·.block)).Perm mgr.hw.blocks ∧ ∀ call ∈ calls, call.Proper
  cleared : ∀ ref group, mgr.groups ref = some group → ∀ nh ∈ group.nhMap,
    xdk.clearRouteNextHop nh.xpNhId = true → mgr'.hw.slots nh.xpNhId = none
  refused : ∀ key slots, fib' key = some slots ↔
    ∃ route ∈ mgr.routeMap, xdk.removeIpRouteEntry route.ipPrefix = false ∧
      route.xpRoute.key bits = key ∧
      (route.xpRoute.nhEcmpSize, route.xpRoute.nhId) = slots

/-! ## Deletions -/

section Deletions

variable {xdk : Outcome} {mgr mgr' mgr'' : L3Mgr}

theorem Deletes.refl : Deletes xdk mgr mgr where
  balanced := ⟨[], rfl, List.Perm.refl _⟩
  cleared := fun _ group live => .inl ⟨group, live, rfl⟩
  unwritten := fun _ empty => empty

theorem Deletes.trans
    (first : Deletes xdk mgr mgr')
    (second : Deletes xdk mgr' mgr'') : Deletes xdk mgr mgr'' where
  balanced := by
    obtain ⟨calls, destroyed, blocks⟩ := first.balanced
    obtain ⟨later, laterDestroyed, laterBlocks⟩ := second.balanced
    refine ⟨later ++ calls, ?_, ?_⟩
    · rw [laterDestroyed, destroyed, List.append_assoc]
    · calc
        ((later ++ calls).map (·.block) ++ mgr''.hw.blocks).Perm
            (calls.map (·.block) ++ (later.map (·.block) ++ mgr''.hw.blocks)) := by
          rw [List.map_append, List.append_assoc]
          exact List.perm_append_comm_assoc _ _ _
        _ |>.Perm (calls.map (·.block) ++ mgr'.hw.blocks) := laterBlocks.append_left _
        _ |>.Perm mgr.hw.blocks := blocks
  cleared := by
    intro ref group live
    rcases first.cleared ref group live with ⟨current, stillLive, same⟩ | gone
    · rcases second.cleared ref current stillLive with
        ⟨latest, latestLive, latestSame⟩ | gone
      · exact .inl ⟨latest, latestLive, latestSame.trans same⟩
      · rw [same] at gone
        exact .inr gone
    · refine .inr fun nh member accepted => ?_
      exact second.unwritten _ (gone nh member accepted)
  unwritten := fun slot empty => second.unwritten slot (first.unwritten slot empty)

theorem clearNextHops_empty
    (xdk : Outcome) (hw : NextHopTable) (entries : List NhEntry) {slot : Nat}
    (empty : hw.slots slot = none) :
    (clearNextHops xdk hw entries).slots slot = none := by
  unfold clearNextHops
  induction entries generalizing hw with
  | nil => exact empty
  | cons entry entries inductionHypothesis =>
      rw [List.foldl_cons]
      apply inductionHypothesis
      split
      · by_cases here : slot = entry.xpNhId
        · simp [here]
        · simpa [Function.update_of_ne here] using empty
      · exact empty

/-- A clear that the XDK accepts empties the slot. -/
theorem clearNextHops_accepted
    (xdk : Outcome) (hw : NextHopTable) {entries : List NhEntry} {entry : NhEntry}
    (member : entry ∈ entries)
    (accepted : xdk.clearRouteNextHop entry.xpNhId = true) :
    (clearNextHops xdk hw entries).slots entry.xpNhId = none := by
  induction entries generalizing hw with
  | nil => cases member
  | cons head entries inductionHypothesis =>
      rcases List.mem_cons.mp member with rfl | later
      · refine clearNextHops_empty xdk _ entries ?_
        simp [accepted]
      · exact inductionHypothesis _ later

/-- The deletion of a group destroys its block and clears its slots. -/
theorem Deletes.delete
    {ref : GroupRef} {group : NhGroup}
    (outstanding : group.block ∈ mgr.hw.blocks)
    (sameHops : ∀ live, mgr.groups ref = some live → live.nhMap = group.nhMap) :
    Deletes xdk mgr (nhGroupDelete xdk mgr group (some ref)) := by
  obtain ⟨slots, equation⟩ := clearNextHops_onlySlots xdk mgr.hw
    (xdk.nhOrder.visit group.nhMap)
  refine ⟨?_, ?_, ?_⟩
  · refine ⟨[⟨group.block, mgr.hw.blocks, mgr.routeMap.map (·.xpRoute)⟩], ?_, ?_⟩
    · simp only [nhGroupDelete, nhGroupFree, equation]
      rfl
    · simp only [nhGroupDelete, nhGroupFree, equation]
      exact (List.perm_cons_erase outstanding).symm
  · intro other current live
    by_cases here : other = ref
    · subst here
      refine .inr fun nh member accepted => ?_
      rw [sameHops current live] at member
      exact clearNextHops_accepted xdk mgr.hw (xdk.nhOrder.mem_visit.mpr member) accepted
    · refine .inl ⟨current, ?_, rfl⟩
      simpa [nhGroupDelete, nhGroupFree, store, Function.update_of_ne here] using live
  · intro slot empty
    exact clearNextHops_empty xdk mgr.hw _ empty

theorem Deletes.unref
    {pointer : Option GroupRef} {locked : Option String} {held : GroupRef → Nat}
    (blocks : BlockInv mgr none)
    (refs : RefInv mgr locked held)
    (published : ∀ ref, pointer = some ref → ref ∈ mgr.nhGroupMap) :
    Deletes xdk mgr (nhGroupUnref xdk mgr pointer) := by
  cases pointer with
  | none => exact .refl
  | some ref =>
      have live := refs.live_of_published (published ref rfl)
      simp only [nhGroupUnref]
      split
      · refine .delete ?_ ?_
        · exact blocks.owned.mem_iff.mpr (List.mem_map.mpr ⟨ref, published ref rfl, rfl⟩)
        · intro current isCurrent
          rw [live] at isCurrent
          cases isCurrent
          rfl
      · refine ⟨⟨[], rfl, List.Perm.refl _⟩, ?_, fun _ empty => empty⟩
        intro other current isLive
        by_cases here : other = ref
        · subst here
          rw [live] at isLive
          cases isLive
          exact .inl ⟨{ deref mgr other with refCnt := (deref mgr other).refCnt - 1 },
            by simp [store], rfl⟩
        · exact .inl ⟨current, by simpa [store, Function.update_of_ne here] using isLive,
            rfl⟩

/-! ## The loops -/

/-- Deleting a route keeps the invariants. -/
theorem routeDelete_spec
    {route : RouteEntry}
    (refs : RefInv mgr none fun _ => 0)
    (blocks : BlockInv mgr none)
    (member : route ∈ mgr.routeMap) :
    RefInv (routeDelete xdk mgr route) none (fun _ => 0) ∧
      BlockInv (routeDelete xdk mgr route) none ∧
      Deletes xdk mgr (routeDelete xdk mgr route) := by
  have removedRefs := refs.removeRoute member
  have removedBlocks : BlockInv (removeRoute mgr route.ipPrefix) none := by
    refine blocks.withRoutes ?_
    intro other otherMember
    exact blocks.reflects other (KeyedList.mem_remove.mp otherMember).1
  have published : ∀ ref, route.nhGroup = some ref →
      ref ∈ (removeRoute mgr route.ipPrefix).nhGroupMap := by
    intro ref points
    exact refs.pointsPublished route member ref points
  have removed : Deletes xdk mgr (removeRoute mgr route.ipPrefix) :=
    ⟨⟨[], rfl, List.Perm.refl _⟩, fun _ group live => .inl ⟨group, live, rfl⟩,
      fun _ empty => empty⟩
  exact ⟨removedRefs.unref published xdk, removedBlocks.unref removedRefs published xdk,
    removed.trans (.unref removedBlocks removedRefs published)⟩

/-- Deleting the routes one after the other leaves none. -/
theorem foldl_routeDelete_spec
    {routes : List RouteEntry}
    (refs : RefInv mgr none fun _ => 0)
    (blocks : BlockInv mgr none)
    (remaining : routes.Perm mgr.routeMap) :
    RefInv (routes.foldl (routeDelete xdk) mgr) none (fun _ => 0) ∧
      BlockInv (routes.foldl (routeDelete xdk) mgr) none ∧
      Deletes xdk mgr (routes.foldl (routeDelete xdk) mgr) ∧
      (routes.foldl (routeDelete xdk) mgr).routeMap = [] := by
  induction routes generalizing mgr with
  | nil => exact ⟨refs, blocks, .refl, remaining.nil_eq.symm⟩
  | cons route routes inductionHypothesis =>
      have member : route ∈ mgr.routeMap := remaining.mem_iff.mp (List.mem_cons_self ..)
      obtain ⟨nextRefs, nextBlocks, deletes⟩ := @routeDelete_spec xdk _ _ refs blocks member
      have left : routes.Perm (routeDelete xdk mgr route).routeMap := by
        rw [routeDelete, nhGroupUnref_routeMap]
        exact (remaining.trans
          (KeyedList.perm_cons_remove refs.prefixesOnce member rfl)).cons_inv
      obtain ⟨endRefs, endBlocks, rest, noRoutes⟩ :=
        inductionHypothesis nextRefs nextBlocks left
      exact ⟨endRefs, endBlocks, deletes.trans rest, noRoutes⟩

/-- Without routes there are no groups. -/
theorem RefInv.noGroups
    (refs : RefInv mgr none fun _ => 0)
    (noRoutes : mgr.routeMap = []) :
    mgr.nhGroupMap = [] ∧ ∀ ref, mgr.groups ref = none := by
  have freed : ∀ ref, mgr.groups ref = none := by
    intro ref
    by_contra live
    obtain ⟨group, isGroup⟩ := Option.ne_none_iff_exists'.mp live
    obtain ⟨route, member, _⟩ := refs.routed_of_live isGroup
    rw [noRoutes] at member
    cases member
  refine ⟨List.eq_nil_iff_forall_not_mem.mpr ?_, freed⟩
  intro ref published
  rw [refs.publishedLive ref, freed ref] at published
  cases published

/-- The loop over the routes leaves nothing to the loop over the groups. -/
theorem l3MgrDestroy_spec
    {xdk : TeardownOutcome}
    (refs : RefInv mgr none fun _ => 0)
    (blocks : BlockInv mgr none) :
    RefInv (l3MgrDestroy xdk mgr) none (fun _ => 0) ∧
      BlockInv (l3MgrDestroy xdk mgr) none ∧
      Deletes xdk.toOutcome mgr (l3MgrDestroy xdk mgr) ∧
      (l3MgrDestroy xdk mgr).routeMap = [] := by
  have spec := @foldl_routeDelete_spec xdk.toOutcome mgr _ refs blocks
    (xdk.routeOrder.perm mgr.routeMap)
  have noGroups := (spec.1.noGroups spec.2.2.2).1
  have nothingLeft : l3MgrDestroy xdk mgr = destroyRoutes xdk mgr := by
    unfold l3MgrDestroy destroyGroups
    rw [show (destroyRoutes xdk mgr).nhGroupMap = [] from noGroups, Traversal.visit_nil,
      List.foldl_nil]
  rw [nothingLeft]
  exact spec

end Deletions

/-! ## The route entries of the hardware -/

section Entries

variable {bits : PrefixBits} {fib : Fib} {key : RouteKey} {slots : Nat × Nat}

/-- An entry is left unless the removal of its route is accepted. -/
theorem foldl_erase_eq_some
    (accepts : String → Bool) (routes : List RouteEntry) :
    routes.foldl (fun fib route =>
        if accepts route.ipPrefix then fib.erase bits route.xpRoute else fib) fib key =
          some slots ↔
      fib key = some slots ∧
        ∀ route ∈ routes, route.xpRoute.key bits = key → accepts route.ipPrefix = false := by
  induction routes generalizing fib with
  | nil => simp
  | cons route routes inductionHypothesis =>
      rw [List.foldl_cons, inductionHypothesis, List.forall_mem_cons]
      cases accepted : accepts route.ipPrefix with
      | false => simp
      | true =>
          by_cases here : key = route.xpRoute.key bits
          · simp [Fib.erase, here]
          · simp [Fib.erase, Function.update_of_ne here, Ne.symm here]

theorem destroyFib_eq_some
    {mgr : L3Mgr} {xdk : TeardownOutcome}
    (installed : Installed bits mgr.entries fib) :
    destroyFib bits xdk mgr fib key = some slots ↔
      ∃ route ∈ mgr.routeMap, xdk.removeIpRouteEntry route.ipPrefix = false ∧
        route.xpRoute.key bits = key ∧
        (route.xpRoute.nhEcmpSize, route.xpRoute.nhId) = slots := by
  unfold destroyFib
  rw [foldl_erase_eq_some, installed.exact]
  simp only [Traversal.mem_visit, L3Mgr.entries, List.mem_map, exists_exists_and_eq_and]
  constructor
  · rintro ⟨⟨route, member, isKey, isSlots⟩, refused⟩
    exact ⟨route, member, refused route member isKey, isKey, isSlots⟩
  · rintro ⟨route, member, refused, isKey, isSlots⟩
    refine ⟨⟨route, member, isKey, isSlots⟩, fun other otherMember sameKey => ?_⟩
    have same := installed.apart (route.ipPrefix, route.xpRoute)
      (List.mem_map.mpr ⟨route, member, rfl⟩) (other.ipPrefix, other.xpRoute)
      (List.mem_map.mpr ⟨other, otherMember, rfl⟩) (isKey.trans sameKey.symm)
    have samePrefix : route.ipPrefix = other.ipPrefix := congrArg Prod.fst same
    rw [← samePrefix]
    exact refused

end Entries

/-! ## Runs -/

/-- The XDK may refuse any call but the update and the removal of a route, it creates
blocks that do not overlap the outstanding ones, and two texts do not name one
prefix. -/
structure Dismantlable (env : Env) (bits : PrefixBits) (router : Router)
    (request : RouteRequest) : Prop where
  safe : BlockSafe router.mgr request.toRequest
  removes : request.removeIpRouteEntry = true
  distinct : request.action = .add → ∀ entry ∈ router.mgr.entries,
    entry.1 ≠ request.route.ipPrefix →
      requestedKey env bits router.mgr.vrfId request.route ≠ some (entry.2.key bits)

/-- After every such run the manager is destroyed without a trace, in whatever order
the routes are visited and whatever the XDK refuses meanwhile. -/
theorem dismantled_of_reached
    {env : Env} {bits : PrefixBits} {router : Router}
    (reached : Transition.Reach
      (fun initial => ∃ vrfId hosts, initial = Router.start vrfId hosts)
      (Dismantlable env bits) (Router.step env bits) router)
    (xdk : TeardownOutcome) :
    Dismantled bits xdk router.mgr (l3MgrDestroy xdk router.mgr)
      (destroyFib bits xdk router.mgr router.fib) := by
  have inv : RefInv router.mgr none (fun _ => 0) ∧ BlockInv router.mgr none ∧
      Installed bits router.mgr.entries router.fib := by
    refine Transition.Reach.invariant
      (fun router => RefInv router.mgr none (fun _ => 0) ∧ BlockInv router.mgr none ∧
        Installed bits router.mgr.entries router.fib) ?_ ?_ reached
    · rintro _ ⟨vrfId, hosts, rfl⟩
      have initial : Router.Inv env bits (Router.start vrfId hosts) := .init vrfId hosts
      refine ⟨initial.refs, ?_, initial.installed⟩
      constructor <;> simp [Router.start, l3MgrCreate, publishedBlocks]
    · rintro current request ⟨refs, blocks, installed⟩ ⟨safe, removes, distinct⟩
      refine ⟨refs.step ?_, blocks.step safe refs, installed.step distinct
        (fibEffect refs safe.updates removes)⟩
      intro refused
      rw [safe.updates] at refused
      cases refused
  obtain ⟨refs, blocks, installed⟩ := inv
  obtain ⟨endRefs, endBlocks, deletes, noRoutes⟩ :=
    @l3MgrDestroy_spec router.mgr xdk refs blocks
  have noGroups := endRefs.noGroups noRoutes
  have noBlocks : (l3MgrDestroy xdk router.mgr).hw.blocks = [] := by
    have owned := endBlocks.owned
    rw [publishedBlocks, noGroups.1] at owned
    exact owned.eq_nil
  refine ⟨noRoutes, noGroups, noBlocks, ?_, ?_, fun _ _ => destroyFib_eq_some installed⟩
  · obtain ⟨calls, destroyed, balanced⟩ := deletes.balanced
    rw [noBlocks, List.append_nil] at balanced
    refine ⟨calls, destroyed, balanced, fun call member => ?_⟩
    apply endBlocks.destroys call
    rw [destroyed]
    exact List.mem_append_left _ member
  · intro ref group live
    rcases deletes.cleared ref group live with ⟨current, stillLive, _⟩ | cleared
    · rw [noGroups.2 ref] at stillLive
      cases stillLive
    · exact cleared

/-- The hardware refuses to clear a slot and to remove a route. -/
def refusingTeardown : TeardownOutcome :=
  { accepting 0 with
    clearRouteNextHop := fun slot => slot ≠ 10
    routeOrder := .id
    removeIpRouteEntry := fun ipPrefix => ipPrefix ≠ "10.1.0.0/16" }

/-- Two routes, one of them with a merged group. -/
def dismantledRun : List RouteRequest :=
  [sampleRouteRequest .add "10.0.0.0/8" ["1.1.1.1"] 0,
   sampleRouteRequest .add "10.1.0.0/16" ["2.2.2.2"] 5,
   sampleRouteRequest .add "10.1.0.0/16" ["1.1.1.1", "3.3.3.3"] 10]

def dismantledRouter : Router :=
  Transition.run (Router.step nestedEnv leadingBits) (Router.start 0 []) dismantledRun

theorem dismantled_dismantledRouter :
    Dismantled leadingBits refusingTeardown dismantledRouter.mgr
      (l3MgrDestroy refusingTeardown dismantledRouter.mgr)
      (destroyFib leadingBits refusingTeardown dismantledRouter.mgr
        dismantledRouter.fib) := by
  have guarded : Transition.Guarded (Dismantlable nestedEnv leadingBits)
      (Router.step nestedEnv leadingBits) (Router.start 0 []) dismantledRun := by
    refine ⟨⟨⟨rfl, accepting_fresh (by decide)⟩, rfl, ?_⟩,
      ⟨⟨rfl, accepting_fresh (by decide)⟩, rfl, ?_⟩,
      ⟨⟨rfl, accepting_fresh (by decide)⟩, rfl, ?_⟩, trivial⟩
    · intro _ entry member
      cases member
    · intro _
      decide
    · intro _
      decide
  exact dismantled_of_reached (.of_run (.start ⟨0, [], rfl⟩) guarded) refusingTeardown

end Routing
end XpliantSwitchd
