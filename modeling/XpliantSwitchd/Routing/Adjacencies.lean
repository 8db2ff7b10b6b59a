import XpliantSwitchd.Routing.Resolved

/-!
# What the slots hold

Every slot of the hardware next-hop table is written from a next hop of a group.  A
property of what next hops hold, which the requests of a run keep, is therefore one of
every slot.  The property of this module says where the contents come from: they are
those of a host that a request has named for the next hop, or those of a next hop that
no host is known for.
-/

namespace XpliantSwitchd
namespace Routing

/-! ## Properties of all slots -/

/-- What a group remembers of its next hops has a property. -/
def NhGroup.Each (property : String → L3NextHopEntry → Prop) (group : NhGroup) : Prop :=
  ∀ nh ∈ group.nhMap, property nh.id nh.xpNh

/-- What the slots hold has a property. -/
def SlotsAll (property : String → L3NextHopEntry → Prop) (hw : NextHopTable) : Prop :=
  ∀ slot id entry, hw.slots slot = some (id, entry) → property id entry

section Slots

variable {property : String → L3NextHopEntry → Prop} {env : Env} {xdk : Outcome}
  {hw : NextHopTable} {mgr : L3Mgr} {request : OfprotoRoute}

theorem uncounted_each : Uncounted (NhGroup.Each property) where
  freed := by
    intro nh member
    cases member
  recount := fun _ _ each => each

theorem NhGroup.Each.of_noHops {group : NhGroup} (noHops : group.nhMap = []) :
    group.Each property := by
  intro nh member
  rw [noHops] at member
  cases member

theorem NhGroup.Each.visited {group : NhGroup} (each : group.Each property)
    (xdk : Outcome) : ∀ nh ∈ xdk.nhOrder.visit group.nhMap, property nh.id nh.xpNh :=
  fun nh member => each nh (xdk.nhOrder.mem_visit.mp member)

theorem nhInsert_each
    {group : NhGroup} {nh : NhEntry}
    (each : group.Each property)
    (holds : property nh.id nh.xpNh) : (nhInsert env group nh).Each property := by
  intro entry member
  rcases mem_nhInsert.mp member with older | rfl
  · exact each entry older
  · exact holds

theorem nhInsertAll_each
    {group : NhGroup} {entries : List NhEntry}
    (each : group.Each property)
    (holds : ∀ nh ∈ entries, property nh.id nh.xpNh) :
    (nhInsertAll env group entries).Each property := by
  induction entries generalizing group with
  | nil => exact each
  | cons entry entries inductionHypothesis =>
      obtain ⟨here, rest⟩ := List.forall_mem_cons.mp holds
      exact inductionHypothesis (nhInsert_each each here) rest

namespace SlotsAll

theorem set
    {entries : List NhEntry}
    (all : SlotsAll property hw)
    (holds : ∀ nh ∈ entries, property nh.id nh.xpNh) :
    SlotsAll property (setNextHops xdk hw entries).1 := by
  induction entries generalizing hw with
  | nil => exact all
  | cons nh entries inductionHypothesis =>
      obtain ⟨here, rest⟩ := List.forall_mem_cons.mp holds
      simp only [setNextHops]
      split
      · refine inductionHypothesis ?_ rest
        intro slot id entry written
        simp only at written
        by_cases same : slot = nh.xpNhId
        · subst same
          rw [Function.update_self] at written
          cases written
          exact here
        · rw [Function.update_of_ne same] at written
          exact all slot id entry written
      · exact all

/-- Writing the next hops of a group whose contents have the property. -/
theorem setGroup
    {group : NhGroup} {after : NextHopTable} {success : Bool}
    (all : SlotsAll property hw)
    (each : group.Each property)
    (programmed : setNextHops xdk hw (xdk.nhOrder.visit group.nhMap) =
      (after, success)) : SlotsAll property after := by
  have written := @set _ xdk _ _ all (each.visited xdk)
  rwa [programmed] at written

theorem clear (all : SlotsAll property hw) (entries : List NhEntry) :
    SlotsAll property (clearNextHops xdk hw entries) := by
  induction entries generalizing hw with
  | nil => exact all
  | cons nh entries inductionHypothesis =>
      simp only [clearNextHops, List.foldl_cons]
      refine inductionHypothesis ?_
      split
      · intro slot id entry kept
        simp only at kept
        by_cases same : slot = nh.xpNhId
        · subst same
          rw [Function.update_self] at kept
          cases kept
        · rw [Function.update_of_ne same] at kept
          exact all slot id entry kept
      · exact all

theorem delete
    (all : SlotsAll property mgr.hw) (xdk : Outcome) (group : NhGroup)
    (published : Option GroupRef) :
    SlotsAll property (nhGroupDelete xdk mgr group published).hw := by
  cases published with
  | none => exact all.clear _
  | some ref => exact all.clear _

theorem unref
    (all : SlotsAll property mgr.hw) (xdk : Outcome) (pointer : Option GroupRef) :
    SlotsAll property (nhGroupUnref xdk mgr pointer).hw := by
  cases pointer with
  | none => exact all
  | some ref =>
      simp only [nhGroupUnref]
      split
      · exact all.delete xdk _ _
      · exact all

theorem alloc
    {size : Nat} {empty : NhGroup} {mgr₁ : L3Mgr}
    (all : SlotsAll property mgr.hw)
    (allocated : nhGroupAlloc env xdk mgr size = (some empty, mgr₁)) :
    SlotsAll property mgr₁.hw := by
  rw [(nhGroupAlloc_some allocated).2.2.2]
  exact all

theorem select
    {group : NhGroup}
    (all : SlotsAll property mgr.hw)
    (each : group.Each property) :
    SlotsAll property (selectGroup xdk mgr group).2.hw := by
  rcases selectGroup_cases xdk mgr group with
    ⟨ref, _, equation⟩ | ⟨hw, _, programmed, equation⟩ | ⟨hw, _, programmed, equation⟩
  · rw [equation]
    exact all
  · rw [equation]
    exact all.setGroup each programmed
  · rw [equation]
    exact (all.setGroup each programmed).delete xdk _ _

theorem commit
    (all : SlotsAll property mgr.hw)
    (ipPrefix : String) (old new : Option GroupRef) (failure : Errno) :
    SlotsAll property (commitGroup xdk mgr ipPrefix old new failure).2.hw := by
  have written : SlotsAll property
      (modifyRoute mgr ipPrefix (writeHwRoute (new.map (deref mgr)))).hw := all
  cases update : xdk.updateIpRouteEntry with
  | true =>
      rw [commitGroup_success update]
      have pointed : SlotsAll property (modifyRoute (modifyRoute mgr ipPrefix
          (writeHwRoute (new.map (deref mgr)))) ipPrefix
          fun route => { route with nhGroup := new }).hw := all
      exact pointed.unref xdk old
  | false =>
      simp only [commitGroup, update, Bool.false_eq_true, if_false]
      cases new with
      | none => exact written
      | some ref => exact written.delete xdk _ _

theorem routeUnref (all : SlotsAll property mgr.hw) (ipPrefix : String) :
    SlotsAll property (routeUnref xdk mgr ipPrefix).hw := by
  unfold Routing.routeUnref
  cases findRoute mgr ipPrefix with
  | none => exact all
  | some route =>
      by_cases last : route.refCnt = 1
      · simp only [last, if_true]
        have removed : SlotsAll property (removeRoute mgr route.ipPrefix).hw := all
        exact removed.unref xdk _
      · simp only [last, if_false]
        exact all

theorem routeUpdate
    (all : SlotsAll property mgr.hw)
    (groups : GroupsAll (NhGroup.Each property) mgr)
    (buildable : Buildable (NhGroup.Each property) env xdk mgr.hostIdMap request)
    (route : RouteEntry) :
    SlotsAll property (routeUpdate env xdk mgr request route).2.hw := by
  generalize result : Routing.routeUpdate env xdk mgr request route = outcome
  have shape := routeUpdate_outcome env xdk mgr request route
  rw [result] at shape
  cases shape with
  | noMemory => exact all
  | unreachable allocated _ =>
      have reserved := all.alloc allocated
      exact reserved
  | notProgrammed allocated chosen merged =>
      have selected := @select _ xdk _ _ (all.alloc allocated)
        (groups.merged uncounted_each buildable allocated merged)
      rwa [chosen] at selected
  | regrouped building allocated merged chosen =>
      have selected := @select _ xdk _ _ (all.alloc allocated)
        (groups.merged uncounted_each buildable allocated merged)
      rw [chosen] at selected
      exact selected.commit _ _ _ _
  | stopped _ _ _ => exact all
  | inPlace _ _ updated programmed =>
      exact all.setGroup
        (buildable.updated (groups.deref uncounted_each _) updated) programmed
  | noGroup => exact all

theorem routeAdd
    (all : SlotsAll property mgr.hw)
    (buildable : Buildable (NhGroup.Each property) env xdk mgr.hostIdMap request) :
    SlotsAll property (routeAdd env xdk mgr request).2.hw := by
  have acquires : ∀ {ref mgr₁}, Acquired env xdk mgr request ref mgr₁ →
      SlotsAll property mgr₁.hw := by
    intro ref mgr₁ acquired
    cases acquired with
    | reused _ => exact all
    | built allocated filled programmed =>
        exact (all.alloc allocated).setGroup (buildable.filled allocated filled)
          programmed
  generalize result : Routing.routeAdd env xdk mgr request = outcome
  have shape := routeAdd_outcome env xdk mgr request
  rw [result] at shape
  cases shape with
  | noMemory => exact all
  | unreachable allocated _ =>
      have reserved := all.alloc allocated
      exact reserved
  | notProgrammed allocated programmed filled =>
      exact ((all.alloc allocated).setGroup (buildable.filled allocated filled)
        programmed).delete xdk _ _
  | refused acquired => exact (acquires acquired).unref xdk _
  | added acquired =>
      have kept := acquires acquired
      exact kept

theorem deleteNhFrom
    (all : SlotsAll property mgr.hw)
    (groups : GroupsAll (NhGroup.Each property) mgr)
    (leaves : Leaves (NhGroup.Each property) env xdk request)
    (ref : GroupRef) :
    SlotsAll property (deleteNhFrom env xdk mgr request ref).2.hw := by
  generalize result : Routing.deleteNhFrom env xdk mgr request ref = outcome
  have shape := deleteNhFrom_outcome env xdk mgr request ref
  rw [result] at shape
  cases shape with
  | noMemory => exact all
  | notProgrammed allocated chosen _ =>
      have selected := @select _ xdk _ _ (all.alloc allocated)
        (groups.remaining uncounted_each leaves allocated ref)
      rwa [chosen] at selected
  | regrouped _ allocated chosen =>
      have selected := @select _ xdk _ _ (all.alloc allocated)
        (groups.remaining uncounted_each leaves allocated ref)
      rw [chosen] at selected
      exact selected.commit _ _ _ _
  | emptied _ => exact all.commit _ _ _ _

end SlotsAll

theorem leaves_each : Leaves (NhGroup.Each property) env xdk request := by
  intro empty old noHops each
  refine nhInsertAll_each (.of_noHops noHops) ?_
  intro nh member
  exact each.visited xdk nh (List.mem_filter.mp member).1

end Slots

/-- What the groups remember of their next hops and what the slots hold have a
property. -/
structure ContentsAll (property : String → L3NextHopEntry → Prop) (mgr : L3Mgr) :
    Prop where
  groups : GroupsAll (NhGroup.Each property) mgr
  slots : SlotsAll property mgr.hw

theorem ContentsAll.mono
    {property other : String → L3NextHopEntry → Prop} {mgr : L3Mgr}
    (all : ContentsAll property mgr)
    (implies : ∀ id entry, property id entry → other id entry) :
    ContentsAll other mgr where
  groups := fun ref group live nh member =>
    implies _ _ (all.groups ref group live nh member)
  slots := fun slot id entry held => implies _ _ (all.slots slot id entry held)

/-- A request keeps a property that the next hops of an `ADD` have. -/
theorem ContentsAll.step
    {property : String → L3NextHopEntry → Prop} {env : Env} {mgr : L3Mgr}
    {request : Request}
    (all : ContentsAll property mgr)
    (refInv : RefInv mgr none fun _ => 0)
    (updates : request.xdk.updateIpRouteEntry = true)
    (buildable : request.action = .add →
      Buildable (NhGroup.Each property) env request.xdk mgr.hostIdMap request.route) :
    ContentsAll property (step env mgr request) := by
  have looked : ContentsAll property (routeLookup mgr request.route.ipPrefix).2 ∧
      (routeLookup mgr request.route.ipPrefix).2.hostIdMap = mgr.hostIdMap := by
    refine ⟨⟨all.groups.routeLookup _, ?_⟩, ?_⟩
    · unfold routeLookup
      split <;> exact all.slots
    · unfold routeLookup
      split <;> rfl
  obtain ⟨lookedAll, sameHosts⟩ := looked
  refine refInv.step_rule updates all lookedAll ?_ ?_ ?_ ?_
  · intro current locked _ currentAll
    exact ⟨currentAll.groups.routeUnref uncounted_each _ _,
      currentAll.slots.routeUnref _⟩
  · intro isAdd _
    exact ⟨all.groups.routeAdd uncounted_each (buildable isAdd),
      all.slots.routeAdd (buildable isAdd)⟩
  · rintro _ route _ isAdd _ rfl _ _ _ _ _
    have built := buildable isAdd
    rw [← sameHosts] at built
    exact ⟨lookedAll.groups.routeUpdate uncounted_each built route,
      lookedAll.slots.routeUpdate lookedAll.groups built route⟩
  · rintro _ _ ref rfl _ _ _ _
    exact ⟨lookedAll.groups.deleteNhFrom uncounted_each leaves_each ref,
      lookedAll.slots.deleteNhFrom lookedAll.groups leaves_each ref⟩

/-! ## Where the contents come from -/

/-- What a next hop holds for a host, and while no host is known. -/
def adjacency (env : Env) : Option HostEntry → L3NextHopEntry
  | none =>
      { (nhZero env).xpNh with pktCmd := if env.zeroCmd ≠ .fwd then .trap else .fwd }
  | some host =>
      { (nhZero env).xpNh with
        macDa := host.nhEntry.macDa
        egressIntfId := host.nhEntry.egressIntfId
        l3InterfaceId := host.nhEntry.l3InterfaceId
        serviceInstId := host.nhEntry.serviceInstId
        pktCmd := .fwd }

/-- The hosts that a request names for its next hops. -/
def namedHosts (hosts : List HostEntry) (nexthops : List RouteNexthop) :
    List (String × HostEntry) :=
  nexthops.filterMap fun nh =>
    if nh.state = .resolved then (hostById hosts nh.l3EgressId).map (nh.id, ·) else none

/-- A next hop holds what it has been told: one of the hosts named for it, or
nothing yet. -/
def Adjacent (env : Env) (told : List (String × HostEntry)) (id : String)
    (entry : L3NextHopEntry) : Prop :=
  ∃ host? : Option HostEntry, (∀ host, host? = some host → (id, host) ∈ told) ∧
    entry = adjacency env host?

section Adjacent

variable {env : Env} {told : List (String × HostEntry)} {hosts : List HostEntry}

theorem forResolved_namedHosts (hosts : List HostEntry) (nexthops : List RouteNexthop) :
    ForResolved hosts nexthops fun id host => (id, host) ∈ namedHosts hosts nexthops := by
  intro nh member resolved host known
  refine List.mem_filterMap.mpr ⟨nh, member, ?_⟩
  rw [if_pos resolved, known]
  rfl

theorem Adjacent.mono {other : List (String × HostEntry)} {id : String}
    {entry : L3NextHopEntry}
    (adjacent : Adjacent env told id entry)
    (included : told ⊆ other) : Adjacent env other id entry := by
  obtain ⟨host?, named, isEntry⟩ := adjacent
  exact ⟨host?, fun host isHost => included (named host isHost), isEntry⟩

/-- A host that is named replaces the one before; a next hop that is requested without
one keeps what it has. -/
theorem Adjacent.update
    {nh updated : NhEntry} {id : String} {request : RouteNexthop}
    (adjacent : Adjacent env told id nh.xpNh)
    (named : request.state = .resolved → ∀ host,
      hostById hosts request.l3EgressId = some host → (id, host) ∈ told)
    (success : nhUpdate hosts nh request = .ok updated) :
    Adjacent env told id updated.xpNh := by
  obtain ⟨host?, hostNamed, isEntry⟩ := adjacent
  cases state : request.state with
  | resolved =>
      cases known : hostById hosts request.l3EgressId with
      | none => simp [nhUpdate, state, known] at success
      | some host =>
          refine ⟨some host, ?_, ?_⟩
          · rintro _ ⟨⟩
            exact named state host known
          · simp only [nhUpdate, state, known, Except.ok.injEq] at success
            rw [← success, isEntry]
            cases host? <;> rfl
  | unresolved =>
      refine ⟨host?, hostNamed, ?_⟩
      simp only [nhUpdate, state, Except.ok.injEq] at success
      rw [← success, isEntry]
      cases host? with
      | none => by_cases zero : env.zeroCmd = .fwd <;> simp [adjacency, nhZero, zero]
      | some host => simp [adjacency, nhZero]

/-- A new next hop holds the host that is named for it, if any. -/
theorem nhCreate_adjacent
    {nh : NhEntry} {request : RouteNexthop}
    (named : request.state = .resolved → ∀ host,
      hostById hosts request.l3EgressId = some host → (request.id, host) ∈ told)
    (created : nhCreate env hosts request = some nh) :
    Adjacent env told nh.id nh.xpNh := by
  rw [nhCreate_id created]
  cases state : request.state with
  | resolved =>
      cases known : hostById hosts request.l3EgressId with
      | none => simp [nhCreate, nhUpdate, state, known] at created
      | some host =>
          refine ⟨some host, ?_, ?_⟩
          · rintro _ ⟨⟩
            exact named state host known
          · simp only [nhCreate, nhUpdate, state, known, Option.some.injEq] at created
            rw [← created]
            rfl
  | unresolved =>
      refine ⟨none, ?_, ?_⟩
      · rintro _ ⟨⟩
      · simp only [nhCreate, nhUpdate, state, Option.some.injEq] at created
        rw [← created]
        by_cases zero : env.zeroCmd = .fwd <;> simp [adjacency, nhZero, zero]

theorem Turned.adjacent
    {group turned : NhGroup} {request : RouteNexthop}
    (turn : Turned env hosts group request turned)
    (named : request.state = .resolved → ∀ host,
      hostById hosts request.l3EgressId = some host → (request.id, host) ∈ told)
    (each : group.Each (Adjacent env told)) : turned.Each (Adjacent env told) := by
  cases turn with
  | inserted _ created => exact nhInsert_each each (nhCreate_adjacent named created)
  | @replaced nh updated member sameId result =>
      intro entry entryMember
      rw [NhGroup.replace, KeyedList.mem_rewrite] at entryMember
      rcases entryMember with ⟨_, _, _, rfl⟩ | ⟨kept, _⟩
      · rw [(nhUpdate_keeps result).1]
        refine (each nh member).update ?_ result
        rw [sameId]
        exact named
      · exact each entry kept

theorem nhGroupFill_adjacent
    {group filled : NhGroup} {requests : List RouteNexthop} {rc : Option Errno}
    (named : ForResolved hosts requests fun id host => (id, host) ∈ told)
    (each : group.Each (Adjacent env told))
    (result : nhGroupFill env hosts group requests = (filled, rc)) :
    filled.Each (Adjacent env told) := by
  induction requests generalizing group with
  | nil =>
      cases result
      exact each
  | cons request requests inductionHypothesis =>
      obtain ⟨here, rest⟩ := List.forall_mem_cons.mp named
      cases created : nhCreate env hosts request with
      | none =>
          simp only [nhGroupFill, created] at result
          cases result
          exact each
      | some nh =>
          simp only [nhGroupFill, created] at result
          exact inductionHypothesis rest
            (nhInsert_each each (nhCreate_adjacent here created)) result

/-- A request whose hosts are written down builds groups that hold what they were
told. -/
theorem buildable_adjacent
    (xdk : Outcome) {request : OfprotoRoute}
    (named : ForResolved hosts request.nexthops fun id host => (id, host) ∈ told) :
    Buildable (NhGroup.Each (Adjacent env told)) env xdk hosts request where
  filled := by
    intro mgr mgr₁ empty group allocated filled
    exact nhGroupFill_adjacent named
      (.of_noHops (nhGroupAlloc_empty allocated).1) filled
  merged := by
    intro empty group old rc noHops oldEach merged
    refine nhGroupUpdate_rule (nhInsertAll_each (.of_noHops noHops) ?_) merged
      fun _ request member _ each turn => turn.adjacent (named request member) each
    cases old with
    | none =>
        intro nh member
        cases member
    | some group => exact (oldEach group rfl).visited xdk
  updated := by
    intro group after rc each updated
    exact nhGroupUpdate_rule each updated
      fun _ request member _ each turn => turn.adjacent (named request member) each
  remaining := leaves_each

end Adjacent

end Routing
end XpliantSwitchd
