import XpliantSwitchd.L3Intf.Effects
import Mathlib.Data.List.Nodup

/-!
# The life of an L3 interface

Whatever the XDK answers, the L3 interface of a bundle is in the hardware as it was asked
for, until the bundle gives it up: it has the VRF and routes, its port, VLAN or
sub-interface leads to it, and its name is that of the bundle.  A constructor that fails
spoils no interface of another bundle.  What a bundle gives up stays in the hardware.
-/

namespace XpliantSwitchd
namespace L3Intf

open Vlans

variable {env : Env} {xdk : L3Xdk env} {state after : State}

/-- What a request is about leads to an interface. -/
def Request.LeadsTo (hw : L3Hw) (id : Nat) : Request → Prop
  | .vlan vid => hw.arpBcCmd vid = .fwdMirror
  | .port ifId => hw.portIntf ifId = some id
  | .sub ifId vid => hw.subIntf (ifId, vid) = some id

/-- An interface is in the hardware as a request asks for it, under a name. -/
structure Serves (xdk : L3Xdk env) (state : State) (request : Request) (name : String)
    (l3Intf : L3Interface) : Prop where
  record : l3Intf = ⟨l3Intf.l3IntfId, request.intfId env, state.vrfId, request.vid⟩
  ready : Ready l3Intf.l3IntfId request.type state.vrfId state.hw
  leads : request.LeadsTo state.hw l3Intf.l3IntfId
  named : (l3Intf.l3IntfId, name) ∈ state.dev.ifIdToName
  below : ∀ type, xdk.interfaceType l3Intf.intfId = some type → type = .port ∨ type = .lag
  own : xdk.interfaceType l3Intf.l3IntfId = some (.router request.type)

/-- A bundle has an L3 interface with an id. -/
def RoutedBundle.Holds (bundle : RoutedBundle) (id : Nat) : Prop :=
  ∃ l3Intf, bundle.l3Intf = some l3Intf ∧ l3Intf.l3IntfId = id

/-- An id that is no L3 interface. -/
def Plain (xdk : L3Xdk env) (id : Nat) : Prop :=
  ∀ type, xdk.interfaceType id ≠ some (.router type)

/-- Every interface of a bundle serves a request, no two bundles have the same, and only
they are named. -/
structure Sound (xdk : L3Xdk env) (state : State) (bundles : List RoutedBundle) : Prop where
  auxs : (bundles.map (·.aux)).Nodup
  hwIds : state.hw.ids.Nodup
  nameIds : (state.dev.ifIdToName.map (·.1)).Nodup
  serves : ∀ bundle ∈ bundles, ∀ l3Intf, bundle.l3Intf = some l3Intf →
    ∃ request, Serves xdk state request bundle.name l3Intf
  distinct : ∀ bundle ∈ bundles, ∀ other ∈ bundles, ∀ id, bundle.Holds id → other.Holds id →
    bundle.aux = other.aux
  names : ∀ entry ∈ state.dev.ifIdToName, ¬Plain xdk entry.1 →
    ∃ bundle ∈ bundles, bundle.Holds entry.1
  plain : ∀ bundle ∈ bundles, Plain xdk bundle.intfId

/-- What settings ask for. -/
def RoutedSettings.request (s : RoutedSettings) : Option Request :=
  match s.type with
  | .system => some (.port (if s.isLag then s.intfId else s.portIntfId))
  | .vlansubint => some (.sub s.portIntfId s.vlanId)
  | .internal => some (.vlan s.vlanId)
  | _ => none

/-- No bundle has the interface that a request asks for. -/
def Request.Unheld (env : Env) (bundles : List RoutedBundle) (request : Request) : Prop :=
  ∀ bundle ∈ bundles, ∀ l3Intf, bundle.l3Intf = some l3Intf →
    ¬(l3Intf.intfId = request.intfId env ∧ l3Intf.vlanId = request.vid)

section Keeping

theorem Serves.mem_ids {request : Request} {name : String} {l3Intf : L3Interface}
    (serves : Serves xdk state request name l3Intf) : l3Intf.l3IntfId ∈ state.hw.ids := by
  obtain ⟨intf, member, same, _⟩ := serves.ready
  exact List.mem_map.2 ⟨intf, member, same⟩

theorem Serves.not_plain {request : Request} {name : String} {l3Intf : L3Interface}
    (serves : Serves xdk state request name l3Intf) : ¬Plain xdk l3Intf.l3IntfId :=
  fun plain => plain _ serves.own

/-- Work on another interface for another request. -/
theorem Serves.of_worksOn {request other : Request} {name : String} {l3Intf : L3Interface}
    {id : Nat} (serves : Serves xdk state other name l3Intf) (different : request ≠ other)
    (fresh : id ∉ state.hw.ids)
    (works : WorksOn id request
      { state with hw := createIntf id request.type state.hw } after) :
    Serves xdk after other name l3Intf := by
  have foreign : l3Intf.l3IntfId ≠ id := fun same => fresh (same ▸ serves.mem_ids)
  refine ⟨?_, ?_, ?_, ?_, serves.below, serves.own⟩
  · rw [works.vrfId]
    exact serves.record
  · obtain ⟨intf, member, same, rest⟩ := serves.ready
    rw [works.vrfId]
    refine ⟨intf, (works.hw.intfs intf (same ▸ foreign)).2 ?_, same, rest⟩
    exact List.mem_cons_of_mem _ member
  · have leads := serves.leads
    cases other with
    | vlan vid => exact (works.hw.arpBcCmd vid different).trans leads
    | port ifId => exact (works.hw.portIntf ifId different).trans leads
    | sub ifId vid => exact (works.hw.subIntf ifId vid different).trans leads
  · rw [works.dev]
    exact serves.named

/-- The hardware is the same and the name is still there. -/
theorem Serves.of_dev {request : Request} {name : String} {l3Intf : L3Interface}
    {dev : Dev} {calls : Nat} (serves : Serves xdk state request name l3Intf)
    (named : (l3Intf.l3IntfId, name) ∈ dev.ifIdToName) :
    Serves xdk { state with dev := dev, calls := calls } request name l3Intf :=
  ⟨serves.record, serves.ready, serves.leads, named, serves.below, serves.own⟩

/-- An interface that serves a request has an id below it that does not tell its type, so
disabling it takes its name away and nothing else. -/
theorem disableL3Interface_eq {request : Request} {name : String} {l3Intf : L3Interface}
    (serves : Serves xdk state request name l3Intf) :
    disableL3Interface xdk state l3Intf =
      { state with dev := Bundles.devRemoveIntfEntry state.dev l3Intf.l3IntfId } := by
  unfold disableL3Interface
  cases isType : xdk.interfaceType l3Intf.intfId with
  | none => rfl
  | some type => obtain rfl | rfl := serves.below type isType <;> rfl

/-- For the same reason nothing is updated. -/
theorem updateL3Interface_eq {request : Request} {name : String} {l3Intf : L3Interface}
    (serves : Serves xdk state request name l3Intf) :
    updateL3Interface xdk state l3Intf = state := by
  unfold updateL3Interface
  cases isType : xdk.interfaceType l3Intf.intfId with
  | none => rfl
  | some type => obtain rfl | rfl := serves.below type isType <;> rfl

variable {bundles : List RoutedBundle}

/-- The names of L3 interfaces are as before. -/
def SameNames (xdk : L3Xdk env) (before after : Dev) : Prop :=
  (after.ifIdToName.map (·.1)).Nodup ∧
    ∀ entry, ¬Plain xdk entry.1 → (entry ∈ after.ifIdToName ↔ entry ∈ before.ifIdToName)

theorem sound_dev {dev : Dev} (sound : Sound xdk state bundles)
    (names : SameNames xdk state.dev dev) :
    Sound xdk { state with dev := dev } bundles where
  auxs := sound.auxs
  hwIds := sound.hwIds
  nameIds := names.1
  serves := by
    intro bundle member l3Intf holds
    obtain ⟨request, serves⟩ := sound.serves bundle member l3Intf holds
    exact ⟨request, serves.of_dev ((names.2 (l3Intf.l3IntfId, bundle.name)
      serves.not_plain).2 serves.named)⟩
  distinct := sound.distinct
  names := fun entry member special =>
    sound.names entry ((names.2 entry special).1 member) special
  plain := sound.plain

theorem sound_perm {others : List RoutedBundle} (perm : others.Perm bundles)
    (sound : Sound xdk state bundles) : Sound xdk state others where
  auxs := (perm.map _).nodup_iff.2 sound.auxs
  hwIds := sound.hwIds
  nameIds := sound.nameIds
  serves := fun bundle member => sound.serves bundle (perm.mem_iff.1 member)
  distinct := fun bundle member other otherMember =>
    sound.distinct bundle (perm.mem_iff.1 member) other (perm.mem_iff.1 otherMember)
  names := by
    intro entry member special
    obtain ⟨bundle, bundleMember, holds⟩ := sound.names entry member special
    exact ⟨bundle, perm.mem_iff.2 bundleMember, holds⟩
  plain := fun bundle member => sound.plain bundle (perm.mem_iff.1 member)

variable {bundle : RoutedBundle} {rest : List RoutedBundle}

/-- The first bundle is written to, and not its interface. -/
theorem sound_head (changed : RoutedBundle) (aux : changed.aux = bundle.aux)
    (l3Intf : changed.l3Intf = bundle.l3Intf)
    (name : bundle.l3Intf = none ∨ changed.name = bundle.name)
    (plain : Plain xdk changed.intfId) (sound : Sound xdk state (bundle :: rest)) :
    Sound xdk state (changed :: rest) := by
  have holds : ∀ id, changed.Holds id ↔ bundle.Holds id := by
    intro id
    rw [RoutedBundle.Holds, RoutedBundle.Holds, l3Intf]
  refine ⟨?_, sound.hwIds, sound.nameIds, ?_, ?_, ?_, ?_⟩
  · rw [List.map_cons, aux]
    exact sound.auxs
  · rw [List.forall_mem_cons]
    refine ⟨?_, fun other member => sound.serves other (List.mem_cons_of_mem _ member)⟩
    intro record has
    rw [l3Intf] at has
    obtain free | same := name
    · rw [free] at has
      exact nomatch has
    · rw [same]
      exact sound.serves bundle List.mem_cons_self record has
  · have old := sound.distinct
    simp only [List.forall_mem_cons, holds, aux] at old ⊢
    exact old
  · intro entry member special
    obtain ⟨other, otherMember, has⟩ := sound.names entry member special
    obtain rfl | later := List.mem_cons.1 otherMember
    · exact ⟨changed, List.mem_cons_self, (holds _).2 has⟩
    · exact ⟨other, List.mem_cons_of_mem _ later, has⟩
  · rw [List.forall_mem_cons]
    exact ⟨plain, fun other member => sound.plain other (List.mem_cons_of_mem _ member)⟩

/-- A bundle without an interface comes. -/
theorem sound_cons (free : bundle.l3Intf = none)
    (fresh : ∀ other ∈ rest, other.aux ≠ bundle.aux) (plain : Plain xdk bundle.intfId)
    (sound : Sound xdk state rest) : Sound xdk state (bundle :: rest) := by
  have none : ∀ id, ¬bundle.Holds id := by
    rintro id ⟨l3Intf, has, _⟩
    rw [free] at has
    exact nomatch has
  refine ⟨?_, sound.hwIds, sound.nameIds, ?_, ?_, ?_, ?_⟩
  · rw [List.map_cons, List.nodup_cons]
    refine ⟨fun listed => ?_, sound.auxs⟩
    obtain ⟨other, member, same⟩ := List.mem_map.1 listed
    exact fresh other member same
  · rw [List.forall_mem_cons]
    refine ⟨fun record has => ?_, sound.serves⟩
    rw [free] at has
    exact nomatch has
  · have old := sound.distinct
    simp only [List.forall_mem_cons]
    refine ⟨⟨fun id has => absurd has (none id), fun other _ id has => absurd has (none id)⟩,
      fun other member => ⟨fun id _ has => absurd has (none id), old other member⟩⟩
  · intro entry member special
    obtain ⟨other, otherMember, has⟩ := sound.names entry member special
    exact ⟨other, List.mem_cons_of_mem _ otherMember, has⟩
  · rw [List.forall_mem_cons]
    exact ⟨plain, sound.plain⟩

/-- A bundle without an interface goes. -/
theorem sound_tail (free : bundle.l3Intf = none) (sound : Sound xdk state (bundle :: rest)) :
    Sound xdk state rest where
  auxs := (List.nodup_cons.1 sound.auxs).2
  hwIds := sound.hwIds
  nameIds := sound.nameIds
  serves := fun other member => sound.serves other (List.mem_cons_of_mem _ member)
  distinct := fun left leftMember right rightMember =>
    sound.distinct left (List.mem_cons_of_mem _ leftMember) right
      (List.mem_cons_of_mem _ rightMember)
  names := by
    intro entry member special
    obtain ⟨other, otherMember, l3Intf, has, same⟩ := sound.names entry member special
    obtain rfl | later := List.mem_cons.1 otherMember
    · rw [free] at has
      exact nomatch has
    · exact ⟨other, later, l3Intf, has, same⟩
  plain := fun other member => sound.plain other (List.mem_cons_of_mem _ member)

theorem mem_devRemoveIntfEntry {dev : Dev} (nodup : (dev.ifIdToName.map (·.1)).Nodup)
    {id : Nat} {entry : Nat × String} :
    entry ∈ (Bundles.devRemoveIntfEntry dev id).ifIdToName ↔
      entry ∈ dev.ifIdToName ∧ entry.1 ≠ id := by
  unfold Bundles.devRemoveIntfEntry
  rw [KeyedList.eraseP_eq_remove nodup, KeyedList.mem_remove]

theorem nodup_devRemoveIntfEntry {dev : Dev} (nodup : (dev.ifIdToName.map (·.1)).Nodup)
    (id : Nat) : ((Bundles.devRemoveIntfEntry dev id).ifIdToName.map (·.1)).Nodup :=
  nodup.sublist (List.eraseP_sublist.map _)

/-- The first bundle gives up its interface. -/
theorem sound_disable {l3Intf : L3Interface} (has : bundle.l3Intf = some l3Intf)
    (sound : Sound xdk state (bundle :: rest)) :
    Sound xdk (disableL3Interface xdk state l3Intf)
      ({ bundle with l3Intf := none } :: rest) := by
  obtain ⟨request, serves⟩ := sound.serves bundle List.mem_cons_self l3Intf has
  have fresh := (List.nodup_cons.1 sound.auxs).1
  have foreign : ∀ other ∈ rest, ¬other.Holds l3Intf.l3IntfId := by
    intro other member holds
    refine fresh (List.mem_map.2 ⟨other, member, ?_⟩)
    exact (sound.distinct bundle List.mem_cons_self other (List.mem_cons_of_mem _ member)
      l3Intf.l3IntfId ⟨l3Intf, has, rfl⟩ holds).symm
  rw [disableL3Interface_eq serves]
  refine ⟨sound.auxs, sound.hwIds, nodup_devRemoveIntfEntry sound.nameIds _, ?_, ?_, ?_, ?_⟩
  · rw [List.forall_mem_cons]
    refine ⟨fun _ given => (nomatch given), ?_⟩
    intro other member record holds
    obtain ⟨otherRequest, otherServes⟩ :=
      sound.serves other (List.mem_cons_of_mem _ member) record holds
    refine ⟨otherRequest, otherServes.of_dev ?_⟩
    refine (mem_devRemoveIntfEntry sound.nameIds).2 ⟨otherServes.named, fun same => ?_⟩
    exact foreign other member ⟨record, holds, same⟩
  · have old := sound.distinct
    simp only [List.forall_mem_cons]
    refine ⟨⟨fun _ _ _ => trivial, ?_⟩, fun other member => ⟨?_, ?_⟩⟩
    · rintro other _ id ⟨_, given, _⟩
      exact nomatch given
    · rintro id _ ⟨_, given, _⟩
      exact nomatch given
    · exact fun third thirdMember => old other (List.mem_cons_of_mem _ member) third
        (List.mem_cons_of_mem _ thirdMember)
  · intro entry member special
    obtain ⟨old, different⟩ := (mem_devRemoveIntfEntry sound.nameIds).1 member
    obtain ⟨other, otherMember, record, holds, same⟩ := sound.names entry old special
    obtain rfl | later := List.mem_cons.1 otherMember
    · rw [has] at holds
      exact absurd ((congrArg _ (Option.some.inj holds)).trans same).symm different
    · exact ⟨other, List.mem_cons_of_mem _ later, record, holds, same⟩
  · have old := sound.plain
    rw [List.forall_mem_cons] at old ⊢
    exact old

/-- Work on a new interface for a request that no bundle has. -/
theorem sound_worksOn {request : Request} {id : Nat} (fresh : id ∉ state.hw.ids)
    (unused : request.Unheld env bundles)
    (works : WorksOn id request
      { state with hw := createIntf id request.type state.hw } after)
    (sound : Sound xdk state bundles) : Sound xdk after bundles where
  auxs := sound.auxs
  hwIds := by
    rw [works.hw.ids]
    exact List.nodup_cons.2 ⟨fresh, sound.hwIds⟩
  nameIds := by
    rw [works.dev]
    exact sound.nameIds
  serves := by
    intro bundle member l3Intf has
    obtain ⟨other, serves⟩ := sound.serves bundle member l3Intf has
    refine ⟨other, serves.of_worksOn ?_ fresh works⟩
    rintro rfl
    refine unused bundle member l3Intf has ⟨?_, ?_⟩
    · rw [serves.record]
    · rw [serves.record]
  distinct := sound.distinct
  names := by
    rw [works.dev]
    exact sound.names
  plain := sound.plain

/-- A bundle without an interface gets one that nobody has, and names it. -/
theorem sound_give {l3Intf : L3Interface} (request : Request)
    (free : bundle.l3Intf = none)
    (unheld : ∀ other ∈ rest, ¬other.Holds l3Intf.l3IntfId)
    (record : l3Intf = ⟨l3Intf.l3IntfId, request.intfId env, state.vrfId, request.vid⟩)
    (ready : Ready l3Intf.l3IntfId request.type state.vrfId state.hw)
    (leads : request.LeadsTo state.hw l3Intf.l3IntfId)
    (below : ∀ type, xdk.interfaceType l3Intf.intfId = some type → type = .port ∨ type = .lag)
    (own : xdk.interfaceType l3Intf.l3IntfId = some (.router request.type))
    (sound : Sound xdk state (bundle :: rest)) :
    Sound xdk
      { state with
        dev := Bundles.devAddIntfEntry state.dev l3Intf.l3IntfId bundle.name }
      ({ bundle with l3Intf := some l3Intf } :: rest) := by
  have unnamed : ∀ entry ∈ state.dev.ifIdToName, entry.1 ≠ l3Intf.l3IntfId := by
    intro entry member same
    obtain ⟨other, otherMember, has⟩ := sound.names entry member
      fun plain => plain _ (same ▸ own)
    obtain rfl | later := List.mem_cons.1 otherMember
    · obtain ⟨held, isHeld, _⟩ := has
      rw [free] at isHeld
      exact nomatch isHeld
    · exact unheld other later (same ▸ has)
  have added : (Bundles.devAddIntfEntry state.dev l3Intf.l3IntfId bundle.name).ifIdToName =
      (l3Intf.l3IntfId, bundle.name) :: state.dev.ifIdToName := by
    have absent : state.dev.ifIdToName.any (·.1 == l3Intf.l3IntfId) = false := by
      rw [List.any_eq_false]
      intro entry member
      simpa using unnamed entry member
    unfold Bundles.devAddIntfEntry
    rw [absent]
    rfl
  refine ⟨sound.auxs, sound.hwIds, ?_, ?_, ?_, ?_, ?_⟩
  · rw [added, List.map_cons, List.nodup_cons]
    refine ⟨fun listed => ?_, sound.nameIds⟩
    obtain ⟨entry, member, same⟩ := List.mem_map.1 listed
    exact unnamed entry member same
  · rw [List.forall_mem_cons]
    constructor
    · intro held isHeld
      obtain rfl := Option.some.inj isHeld
      exact ⟨request, record, ready, leads, added ▸ List.mem_cons_self, below, own⟩
    · intro other member held isHeld
      obtain ⟨otherRequest, serves⟩ :=
        sound.serves other (List.mem_cons_of_mem _ member) held isHeld
      exact ⟨otherRequest, serves.of_dev (added ▸ List.mem_cons_of_mem _ serves.named)⟩
  · have old := sound.distinct
    simp only [List.forall_mem_cons] at old ⊢
    refine ⟨⟨fun _ _ _ => trivial, ?_⟩, fun other member => ⟨?_, (old.2 other member).2⟩⟩
    · rintro other member id ⟨held, isHeld, rfl⟩ has
      obtain rfl := Option.some.inj isHeld
      exact absurd has (unheld other member)
    · rintro id has ⟨held, isHeld, rfl⟩
      obtain rfl := Option.some.inj isHeld
      exact absurd has (unheld other member)
  · intro entry member special
    rw [added] at member
    obtain rfl | old := List.mem_cons.1 member
    · exact ⟨_, List.mem_cons_self, l3Intf, rfl, rfl⟩
    · obtain ⟨other, otherMember, held, isHeld, same⟩ := sound.names entry old special
      obtain rfl | later := List.mem_cons.1 otherMember
      · rw [free] at isHeld
        exact nomatch isHeld
      · exact ⟨other, List.mem_cons_of_mem _ later, held, isHeld, same⟩
  · have old := sound.plain
    rw [List.forall_mem_cons] at old ⊢
    exact old

end Keeping

/-! ## The calls -/

section Calls

variable {bundle : RoutedBundle} {rest : List RoutedBundle} {request : Request}
  {mac : MacAddr} {ifName : String} {made : Option L3Interface}

/-- An enabling function does nothing, or it calls its constructor. -/
theorem enable_cases
    (enabled : request.enable xdk state ifName mac = some (made, after)) :
    (made = none ∧ after = state) ∨
      nameIntf ifName (request.create xdk state mac) = some (made, after) ∧
        ∀ type, xdk.interfaceType (request.intfId env) = some type →
          type = .port ∨ type = .lag := by
  cases made with
  | some l3Intf => exact .inr (enable_names enabled)
  | none =>
      cases request with
      | vlan vid =>
          simp only [Request.enable, enableL3VlanInterface] at enabled
          split_ifs at enabled
          · refine .inr ⟨enabled, ?_⟩
            intro type isType
            rw [Request.intfId, xdk.interfaceType_invalid] at isType
            cases isType
          · simp only [Option.some.injEq, Prod.mk.injEq, true_and] at enabled
            exact .inl ⟨rfl, enabled.symm⟩
      | port ifId =>
          simp only [Request.enable, enableL3Interface] at enabled
          split at enabled
          · rename_i isPort
            refine .inr ⟨enabled, fun type isType => .inl ?_⟩
            rw [Request.intfId, isPort] at isType
            exact (Option.some.inj isType).symm
          · rename_i isLag
            refine .inr ⟨enabled, fun type isType => .inr ?_⟩
            rw [Request.intfId, isLag] at isType
            exact (Option.some.inj isType).symm
          · simp only [Option.some.injEq, Prod.mk.injEq, true_and] at enabled
            exact .inl ⟨rfl, enabled.symm⟩
      | sub ifId vid =>
          simp only [Request.enable, enableL3Subinterface] at enabled
          split at enabled
          · rename_i isPort
            refine .inr ⟨enabled, fun type isType => .inl ?_⟩
            rw [Request.intfId, isPort] at isType
            exact (Option.some.inj isType).symm
          · simp only [Option.some.injEq, Prod.mk.injEq, true_and] at enabled
            exact .inl ⟨rfl, enabled.symm⟩

/-- A bundle without an interface asks for one. -/
theorem sound_enable (free : bundle.l3Intf = none) (unheld : request.Unheld env rest)
    (enabled : request.enable xdk state bundle.name mac = some (made, after))
    (sound : Sound xdk state (bundle :: rest)) :
    Sound xdk after ({ bundle with l3Intf := made } :: rest) := by
  have nothing : { bundle with l3Intf := none } = bundle := by
    rw [← free]
  have unused : request.Unheld env (bundle :: rest) := by
    rw [Request.Unheld, List.forall_mem_cons]
    refine ⟨fun l3Intf has => ?_, unheld⟩
    rw [free] at has
    exact nomatch has
  obtain ⟨rfl, rfl⟩ | ⟨named, below⟩ := enable_cases enabled
  · rw [nothing]
    exact sound
  · have fresh := xdk.allocate_notMem state.hw.ids request.type
    rcases created : request.create xdk state mac with _ | ⟨result, between⟩
    · rw [created] at named
      exact nomatch named
    · have kept : Sound xdk between (bundle :: rest) := by
        obtain ⟨_, rfl⟩ | ⟨works, _⟩ := create_cases created
        · exact ⟨sound.auxs, sound.hwIds, sound.nameIds, fun other member l3Intf has =>
            (sound.serves other member l3Intf has).imp fun _ serves =>
              serves.of_dev serves.named, sound.distinct, sound.names, sound.plain⟩
        · exact sound_worksOn fresh unused works sound
      rw [created] at named
      cases result with
      | none =>
          obtain ⟨rfl, rfl⟩ := Prod.mk.inj (Option.some.inj named)
          rw [nothing]
          exact kept
      | some l3Intf =>
          obtain ⟨rfl, rfl⟩ := Prod.mk.inj (Option.some.inj named)
          have isMade := made_of_create created
          have record := isMade.record
          have sameId : l3Intf.l3IntfId = xdk.allocate state.hw.ids request.type := by
            rw [record]
          obtain ⟨isNone, _⟩ | ⟨works, isNone | ready⟩ := create_cases created
          · exact nomatch isNone
          · exact nomatch isNone
          · refine sound_give request free ?_ ?_ ?_ ?_ ?_ ?_ kept
            · rintro other member ⟨held, has, same⟩
              obtain ⟨_, serves⟩ := sound.serves other (List.mem_cons_of_mem _ member) held has
              exact fresh (sameId ▸ same ▸ serves.mem_ids)
            · rw [works.vrfId, sameId]
              exact record
            · rw [works.vrfId, sameId]
              exact ready
            · obtain ⟨portIntf, subIntf, arpBcCmd, _⟩ := isMade.bindings
              cases request with
              | vlan vid => exact (congrFun arpBcCmd vid).trans (Function.update_self _ _ _)
              | port ifId => exact (congrFun portIntf ifId).trans (Function.update_self _ _ _)
              | sub ifId vid =>
                  exact (congrFun subIntf (ifId, vid)).trans (Function.update_self _ _ _)
            · rw [record]
              exact below
            · rw [sameId]
              exact xdk.interfaceType_allocate state.hw.ids request.type

/-- The interface that there is, is kept or given up. -/
theorem sound_keep (s : RoutedSettings) (sound : Sound xdk state (bundle :: rest)) :
    Sound xdk (bundleKeepL3 xdk state bundle s).2
      ((bundleKeepL3 xdk state bundle s).1 :: rest) := by
  unfold bundleKeepL3
  cases has : bundle.l3Intf with
  | none => exact sound
  | some l3Intf =>
      obtain ⟨request, serves⟩ := sound.serves bundle List.mem_cons_self l3Intf has
      simp only [updateL3Interface_eq serves]
      split_ifs
      · exact sound_disable has sound
      · exact sound
      · exact sound

/-- The rest of the bundle is as before. -/
theorem bundleKeepL3_fields (s : RoutedSettings) :
    (bundleKeepL3 xdk state bundle s).1.name = bundle.name ∧
    (bundleKeepL3 xdk state bundle s).1.isLag = bundle.isLag ∧
    (bundleKeepL3 xdk state bundle s).1.intfId = bundle.intfId ∧
    (bundleKeepL3 xdk state bundle s).1.aux = bundle.aux := by
  unfold bundleKeepL3
  cases bundle.l3Intf with
  | none => exact ⟨rfl, rfl, rfl, rfl⟩
  | some l3Intf =>
      simp only
      split_ifs <;> exact ⟨rfl, rfl, rfl, rfl⟩

/-- A bundle calls at most the enabling function that its settings ask for. -/
theorem bundleEnableL3_cases {s : RoutedSettings} {changed : RoutedBundle}
    (isLag : bundle.isLag = s.isLag) (intfId : bundle.intfId = s.intfId)
    (returned : bundleEnableL3 xdk state bundle s = some (changed, after)) :
    (changed = bundle ∧ after = state) ∨
      ∃ request below made, s.request = some request ∧ request.vid = s.vlanId ∧
        (below = s.intfId ∨ below = s.portIntfId) ∧
        request.enable xdk state bundle.name s.mac = some (made, after) ∧
        changed = { bundle with intfId := below, l3Intf := made } := by
  have called : ∀ (caller : RoutedBundle) (request : Request),
      caller.enabled (request.enable xdk state caller.name s.mac) = some (changed, after) →
      ∃ made, request.enable xdk state caller.name s.mac = some (made, after) ∧
        changed = { caller with l3Intf := made } := by
    intro caller request result
    rcases enabled : request.enable xdk state caller.name s.mac with _ | ⟨made, between⟩
    · rw [enabled] at result
      exact nomatch result
    · rw [enabled] at result
      obtain ⟨rfl, rfl⟩ := Prod.mk.inj (Option.some.inj result)
      exact ⟨made, rfl, rfl⟩
  unfold bundleEnableL3 at returned
  unfold RoutedSettings.request
  cases type : s.type with
  | system =>
      simp only [type] at returned ⊢
      have vlanId : s.vlanId = 0 := by rw [RoutedSettings.vlanId, type]
      rw [← isLag, ← intfId]
      split_ifs at returned ⊢
      · obtain ⟨made, enabled, rfl⟩ := called bundle (.port bundle.intfId) returned
        exact .inr ⟨_, bundle.intfId, made, rfl, vlanId.symm, .inl rfl, enabled, rfl⟩
      · obtain ⟨made, enabled, rfl⟩ := called { bundle with intfId := s.portIntfId }
          (.port s.portIntfId) returned
        exact .inr ⟨_, s.portIntfId, made, rfl, vlanId.symm, .inr rfl, enabled, rfl⟩
  | vlansubint =>
      simp only [type] at returned ⊢
      split_ifs at returned
      · obtain ⟨made, enabled, rfl⟩ := called { bundle with intfId := s.portIntfId }
          (.sub s.portIntfId s.vlanId) returned
        exact .inr ⟨_, s.portIntfId, made, rfl, rfl, .inr rfl, enabled, rfl⟩
      · obtain ⟨rfl, rfl⟩ := Prod.mk.inj (Option.some.inj returned)
        exact .inl ⟨rfl, rfl⟩
  | internal =>
      simp only [type] at returned ⊢
      split_ifs at returned
      · obtain ⟨made, enabled, rfl⟩ := called bundle (.vlan s.vlanId) returned
        exact .inr ⟨_, bundle.intfId, made, rfl, rfl, .inl intfId, enabled, rfl⟩
      · obtain ⟨rfl, rfl⟩ := Prod.mk.inj (Option.some.inj returned)
        exact .inl ⟨rfl, rfl⟩
  | loopback | other code =>
      simp only [type] at returned
      obtain ⟨rfl, rfl⟩ := Prod.mk.inj (Option.some.inj returned)
      exact .inl ⟨rfl, rfl⟩

/-- A bundle gets the interface that its settings ask for, or none. -/
theorem sound_bundleEnableL3 {s : RoutedSettings} {changed : RoutedBundle}
    (free : bundle.l3Intf = none) (isLag : bundle.isLag = s.isLag)
    (intfId : bundle.intfId = s.intfId) (plain : Plain xdk s.portIntfId)
    (unheld : ∀ request, s.request = some request → request.Unheld env rest)
    (returned : bundleEnableL3 xdk state bundle s = some (changed, after))
    (sound : Sound xdk state (bundle :: rest)) :
    Sound xdk after (changed :: rest) := by
  obtain ⟨rfl, rfl⟩ | ⟨request, below, made, asked, _, place, enabled, rfl⟩ :=
    bundleEnableL3_cases isLag intfId returned
  · exact sound
  · have isPlain : Plain xdk below := by
      obtain rfl | rfl := place
      · rw [← intfId]
        exact sound.plain bundle List.mem_cons_self
      · exact plain
    have placed := @sound_head env xdk state bundle rest { bundle with intfId := below } rfl
      rfl (.inr rfl) isPlain sound
    exact @sound_enable env xdk state after { bundle with intfId := below } rest request s.mac
      made free (unheld request asked) enabled placed

/-- Nothing is done for a loopback, or the interface is kept or given up, or after that one is
asked for. -/
theorem bundleUpdateL3Config_cases {s : RoutedSettings} {changed : RoutedBundle}
    (returned : bundleUpdateL3Config xdk state bundle s = some (changed, after)) :
    (s.type = .loopback ∧ changed = bundle ∧ after = state) ∨
      (changed = (bundleKeepL3 xdk state bundle s).1 ∧
        after = (bundleKeepL3 xdk state bundle s).2) ∨
      ((bundleKeepL3 xdk state bundle s).1.l3Intf = none ∧ s.enable = true ∧
        bundleEnableL3 xdk (bundleKeepL3 xdk state bundle s).2
          (bundleKeepL3 xdk state bundle s).1 s = some (changed, after)) := by
  unfold bundleUpdateL3Config at returned
  split_ifs at returned with loopback
  · obtain ⟨rfl, rfl⟩ := Prod.mk.inj (Option.some.inj returned)
    exact .inl ⟨loopback, rfl, rfl⟩
  · simp only at returned
    split_ifs at returned with asked
    · exact .inr (.inr ⟨asked.1, asked.2, returned⟩)
    · obtain ⟨rfl, rfl⟩ := Prod.mk.inj (Option.some.inj returned)
      exact .inr (.inl ⟨rfl, rfl⟩)

theorem sound_bundleUpdateL3Config {s : RoutedSettings} {changed : RoutedBundle}
    (isLag : bundle.isLag = s.isLag) (intfId : bundle.intfId = s.intfId)
    (plain : Plain xdk s.portIntfId)
    (unheld : ∀ request, s.request = some request → request.Unheld env rest)
    (returned : bundleUpdateL3Config xdk state bundle s = some (changed, after))
    (sound : Sound xdk state (bundle :: rest)) :
    Sound xdk after (changed :: rest) := by
  obtain ⟨_, sameLag, sameId, _⟩ := @bundleKeepL3_fields env xdk state bundle s
  have kept := sound_keep s sound
  obtain ⟨_, rfl, rfl⟩ | ⟨rfl, rfl⟩ | ⟨free, _, asked⟩ := bundleUpdateL3Config_cases returned
  · exact sound
  · exact kept
  · exact sound_bundleEnableL3 free (sameLag.trans isLag) (sameId.trans intfId) plain unheld
      asked kept

theorem bundleFor_fields (router : Router) (aux : Nat) (s : RoutedSettings) :
    (router.bundleFor aux s).aux = aux ∧ (router.bundleFor aux s).isLag = s.isLag ∧
      (router.bundleFor aux s).intfId = s.intfId := by
  unfold Router.bundleFor
  cases found : router.bundle? aux with
  | none => exact ⟨rfl, rfl, rfl⟩
  | some bundle => exact ⟨by simpa using List.find?_some found, rfl, rfl⟩

/-- The bundle is there, with the name, the id below it and the LAG that settings give it. -/
theorem sound_bundleFor {router : Router} {aux : Nat} {s : RoutedSettings}
    (named : ∀ bundle ∈ router.bundles, bundle.aux = aux → bundle.name = s.name)
    (below : Plain xdk s.intfId) (sound : Sound xdk router.state router.bundles) :
    Sound xdk router.state
      (router.bundleFor aux s :: KeyedList.remove (·.aux) aux router.bundles) := by
  unfold Router.bundleFor Router.bundle?
  cases found : router.bundles.find? (·.aux == aux) with
  | none =>
      have absent : ∀ bundle ∈ router.bundles, bundle.aux ≠ aux := by
        simpa using List.find?_eq_none.1 found
      rw [KeyedList.remove_of_absent absent]
      exact sound_cons rfl absent below sound
  | some bundle =>
      obtain ⟨member, same⟩ := (KeyedList.find?_key_eq_some sound.auxs).1 found
      have ordered := sound_perm
        (KeyedList.perm_cons_remove sound.auxs member same).symm sound
      exact @sound_head env xdk router.state bundle _ _ rfl rfl
        (.inr (named bundle member same).symm) below ordered

theorem sound_bundleDestroy {router : Router} {vlanXdk : Xdk} {aux : Nat}
    (sound : Sound xdk router.state router.bundles) :
    Sound xdk (bundleDestroy xdk vlanXdk router aux).state
      (bundleDestroy xdk vlanXdk router aux).bundles := by
  unfold bundleDestroy Router.bundle?
  cases found : router.bundles.find? (·.aux == aux) with
  | none => exact sound
  | some bundle =>
      obtain ⟨member, same⟩ := (KeyedList.find?_key_eq_some sound.auxs).1 found
      have ordered := sound_perm (KeyedList.perm_cons_remove sound.auxs member same).symm sound
      -- the bundle first gives up its interface and then its place
      have left : ∀ state, Sound xdk state
          ({ bundle with l3Intf := none } :: KeyedList.remove (·.aux) aux router.bundles) →
          Sound xdk { state with dev := releaseIntfId env vlanXdk state.dev bundle }
            (KeyedList.remove (·.aux) aux router.bundles) := by
        intro state given
        refine sound_dev (@sound_tail env xdk state { bundle with l3Intf := none } _ rfl given)
          ?_
        have isPlain := sound.plain bundle member
        obtain names | names := @releaseIntfId_ifIdToName env vlanXdk state.dev bundle
        · exact ⟨names ▸ given.nameIds, fun entry _ => by rw [names]⟩
        · refine ⟨names ▸ given.nameIds.sublist (List.eraseP_sublist.map _), ?_⟩
          intro entry special
          rw [names, KeyedList.eraseP_eq_remove given.nameIds, KeyedList.mem_remove]
          refine and_iff_left fun equal => special ?_
          rw [equal]
          exact isPlain
      dsimp only
      cases has : bundle.l3Intf with
      | none =>
          refine left router.state ?_
          exact @sound_head env xdk _ bundle _ _ rfl has.symm (.inl has)
            (sound.plain bundle member) ordered
      | some l3Intf => exact left _ (sound_disable has ordered)

/-- What settings leave of the bundles, however far they come. -/
theorem sound_bundleSet {router changed : Router} {aux : Nat} {s : RoutedSettings}
    {course : Course}
    (named : ∀ bundle ∈ router.bundles, bundle.aux = aux → bundle.name = s.name)
    (below : Plain xdk s.intfId) (plain : Plain xdk s.portIntfId)
    (unheld : ∀ request, s.request = some request →
      request.Unheld env (KeyedList.remove (·.aux) aux router.bundles))
    (returned : bundleSet xdk router aux s course = some changed)
    (sound : Sound xdk router.state router.bundles) :
    Sound xdk changed.state changed.bundles := by
  have start := sound_bundleFor named below sound
  obtain ⟨_, isLag, intfId⟩ := bundleFor_fields router aux s
  cases course with
  | stopped =>
      obtain rfl := Option.some.inj returned
      exact start
  | emptied vlanXdk =>
      obtain rfl := Option.some.inj returned
      exact sound_bundleDestroy start
  | configured =>
      unfold bundleSet at returned
      rcases updated : bundleUpdateL3Config xdk router.state (router.bundleFor aux s) s with
        _ | ⟨bundle, state⟩
      · simp only [updated] at returned
        exact nomatch returned
      · simp only [updated] at returned
        obtain rfl := Option.some.inj returned
        exact sound_bundleUpdateL3Config isLag intfId plain unheld updated start

end Calls

end L3Intf
end XpliantSwitchd
