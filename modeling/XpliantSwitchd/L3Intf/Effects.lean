import XpliantSwitchd.L3Intf.Routed
import XpliantSwitchd.L3Intf.RoundTrip

/-!
# What a constructor of an L3 interface touches

Wherever the XDK lets it stop, a constructor has worked on one new interface of the
hardware and on what its request is about: the port, the sub-interface or the VLAN.  The
interface has its VRF and routes when the constructor returns it.
-/

namespace XpliantSwitchd
namespace L3Intf

open Vlans

variable {env : Env} {xdk : L3Xdk env} {state after : State} {mac : MacAddr}

/-! ## What survives the calls of a constructor -/

/-- A property of states that survives some calls of the XDK. -/
structure Stable (effects : List (L3Hw → L3Hw)) (property : State → Prop) : Prop where
  call : ∀ state calls, ∀ effect ∈ effects, property state →
    property { state with hw := effect state.hw, calls := calls }
  count : ∀ state calls, property state → property { state with calls := calls }
  once : ∀ state once routerMac, property state →
    property { state with once := once, routerMac := routerMac }

section Surviving

variable {effects : List (L3Hw → L3Hw)} {property : State → Prop}

theorem Stable.of_call {effect : L3Hw → L3Hw} (stable : Stable effects property)
    (listed : effect ∈ effects) (holds : property state) :
    property (state.call xdk effect).2 := by
  unfold State.call
  split_ifs
  · exact stable.call state _ effect listed holds
  · exact stable.count state _ holds

theorem Stable.of_callAll {made : List (L3Hw → L3Hw)} (stable : Stable effects property)
    (listed : ∀ effect ∈ made, effect ∈ effects) (holds : property state) :
    property (state.callAll xdk made).2 := by
  induction made generalizing state with
  | nil => exact holds
  | cons effect rest inductionHypothesis =>
      have later : ∀ other ∈ rest, other ∈ effects := fun other member =>
        listed other (List.mem_cons_of_mem _ member)
      have here := listed effect List.mem_cons_self
      cases first : xdk.succeeds state.calls with
      | false =>
          rw [callAll_cons_of_fails first]
          exact stable.count state _ holds
      | true =>
          rw [callAll_cons_of_succeeds first]
          exact inductionHypothesis later (stable.call state _ effect here holds)

/-- The calls of `l3_iface_mac_set`. -/
def macEffects (l3IntfId : Nat) (mac : MacAddr) (vid : Nat) : List (L3Hw → L3Hw) :=
  [setEgressRouterMacMsbs (macCopyAndReverse mac).toList.tail,
    setIntfEgressRouterMacLsb l3IntfId (MacAddr.firstByte (macCopyAndReverse mac)),
    addIngressRouterMac (if vid ≠ 0 then some vid else none) (macCopyAndReverse mac)]

theorem Stable.of_routerMacInit {l3IntfId vid : Nat} {result : Option Errno}
    (stable : Stable effects property)
    (listed : ∀ effect ∈ macEffects l3IntfId mac vid, effect ∈ effects)
    (holds : property state) (returned : routerMacInit xdk state mac = some (result, after)) :
    property after := by
  unfold routerMacInit at returned
  cases once : state.once with
  | done =>
      simp only [once, Option.some.injEq, Prod.mk.injEq] at returned
      exact returned.2 ▸ holds
  | started =>
      simp only [once] at returned
      exact nomatch returned
  | idle =>
      simp only [once] at returned
      have called := @Stable.of_call env xdk _ _ _ _ stable
        (listed _ List.mem_cons_self)
        (stable.once state .started (MacAddr.setLastByte mac 0) holds)
      split_ifs at returned
      · simp only [Option.some.injEq, Prod.mk.injEq] at returned
        exact returned.2 ▸ called
      · simp only [Option.some.injEq, Prod.mk.injEq] at returned
        exact returned.2 ▸ stable.once _ .done _ called

theorem Stable.of_macSet {l3IntfId vid : Nat} {result : Option Errno}
    (stable : Stable effects property)
    (listed : ∀ effect ∈ macEffects l3IntfId mac vid, effect ∈ effects)
    (holds : property state)
    (returned : l3IfaceMacSet xdk state l3IntfId mac vid = some (result, after)) :
    property after := by
  unfold l3IfaceMacSet at returned
  rcases isInit : routerMacInit xdk state mac with _ | ⟨_ | errno, between⟩
  · simp only [isInit] at returned
    exact nomatch returned
  · have kept := stable.of_routerMacInit listed holds isInit
    simp only [isInit, Option.some.injEq, Prod.mk.injEq] at returned
    rw [← returned.2]
    refine stable.of_callAll ?_ kept
    intro effect member
    exact listed effect (List.mem_cons_of_mem _ member)
  · have kept := stable.of_routerMacInit listed holds isInit
    simp only [isInit, Option.some.injEq, Prod.mk.injEq] at returned
    exact returned.2 ▸ kept

theorem Stable.of_ifaceFinish {id vid : Nat} {last : List (L3Hw → L3Hw)}
    {record : L3Interface} {made : Option L3Interface} (stable : Stable effects property)
    (listed : ∀ effect ∈ macEffects id mac vid ++ last, effect ∈ effects)
    (holds : property state)
    (returned : ifaceFinish xdk state id mac vid last record = some (made, after)) :
    property after ∧ (made = none ∨ made = some record) := by
  unfold ifaceFinish at returned
  rcases isSet : l3IfaceMacSet xdk state id mac vid with _ | ⟨_ | errno, between⟩
  · simp only [isSet] at returned
    exact nomatch returned
  · have kept := stable.of_macSet
      (fun effect member => listed effect (List.mem_append_left _ member)) holds isSet
    have finished := @Stable.of_callAll env xdk _ _ _ last stable
      (fun effect member => listed effect (List.mem_append_right _ member)) kept
    simp only [isSet] at returned
    split_ifs at returned
    · simp only [Option.some.injEq, Prod.mk.injEq] at returned
      exact ⟨returned.2 ▸ finished, .inl returned.1.symm⟩
    · simp only [Option.some.injEq, Prod.mk.injEq] at returned
      exact ⟨returned.2 ▸ finished, .inr returned.1.symm⟩
  · have kept := stable.of_macSet
      (fun effect member => listed effect (List.mem_append_left _ member)) holds isSet
    simp only [isSet, Option.some.injEq, Prod.mk.injEq] at returned
    exact ⟨returned.2 ▸ kept, .inl returned.1.symm⟩

end Surviving

/-! ## What a constructor leaves alone -/

/-- Work on the interface with an id for a request. -/
structure Confined (id : Nat) (request : Request) (before after : L3Hw) : Prop where
  intfs : ∀ intf : HwL3Intf, intf.id ≠ id → (intf ∈ after.intfs ↔ intf ∈ before.intfs)
  ids : after.ids = before.ids
  portIntf : ∀ ifId, request ≠ .port ifId → after.portIntf ifId = before.portIntf ifId
  subIntf : ∀ ifId vid, request ≠ .sub ifId vid →
    after.subIntf (ifId, vid) = before.subIntf (ifId, vid)
  arpBcCmd : ∀ vid, request ≠ .vlan vid → after.arpBcCmd vid = before.arpBcCmd vid

/-- The calls that a request makes once there is an interface. -/
def Request.effects (request : Request) (id vrfId : Nat) (mac : MacAddr) :
    List (L3Hw → L3Hw) :=
  request.setup id ++
    ([setIntfVrf id vrfId, setIntfIpv4UcRoutingEn id, setIntfIpv6UcRoutingEn id] ++
      (macEffects id mac request.vid ++ request.last))

section Confinement

variable {id : Nat} {request : Request} {hw : L3Hw}

theorem Confined.trans {before between last : L3Hw} (first : Confined id request before between)
    (second : Confined id request between last) : Confined id request before last where
  intfs intf other := (second.intfs intf other).trans (first.intfs intf other)
  ids := second.ids.trans first.ids
  portIntf ifId other := (second.portIntf ifId other).trans (first.portIntf ifId other)
  subIntf ifId vid other := (second.subIntf ifId vid other).trans (first.subIntf ifId vid other)
  arpBcCmd vid other := (second.arpBcCmd vid other).trans (first.arpBcCmd vid other)

/-- A write to an interface leaves the others alone. -/
theorem confined_onIntf {change : HwL3Intf → HwL3Intf}
    (keeps : ∀ intf, (change intf).id = intf.id) :
    Confined id request hw (onIntf id change hw) where
  intfs := by
    intro intf other
    unfold onIntf
    rw [KeyedList.mem_rewrite]
    constructor
    · rintro (⟨old, _, same, rfl⟩ | ⟨member, _⟩)
      · exact absurd ((keeps old).trans same) other
      · exact member
    · exact fun member => .inr ⟨member, other⟩
  ids := keepsIds_onIntf id keeps hw
  portIntf _ _ := rfl
  subIntf _ _ _ := rfl
  arpBcCmd _ _ := rfl

/-- A call of a constructor leaves everything alone that is not its own. -/
theorem confined_effect {vrfId : Nat} {effect : L3Hw → L3Hw}
    (listed : effect ∈ request.effects id vrfId mac) : Confined id request hw (effect hw) := by
  have other : ∀ bind : L3Hw → L3Hw, (bind hw).intfs = hw.intfs →
      (∀ ifId, request ≠ .port ifId → (bind hw).portIntf ifId = hw.portIntf ifId) →
      (∀ ifId vid, request ≠ .sub ifId vid →
        (bind hw).subIntf (ifId, vid) = hw.subIntf (ifId, vid)) →
      (∀ vid, request ≠ .vlan vid → (bind hw).arpBcCmd vid = hw.arpBcCmd vid) →
      Confined id request hw (bind hw) := by
    intro bind intfs portIntf subIntf arpBcCmd
    exact ⟨fun intf _ => by rw [intfs], by rw [L3Hw.ids, L3Hw.ids, intfs], portIntf, subIntf,
      arpBcCmd⟩
  have plain : ∀ bind : L3Hw → L3Hw, (bind hw).intfs = hw.intfs →
      (bind hw).portIntf = hw.portIntf → (bind hw).subIntf = hw.subIntf →
      (bind hw).arpBcCmd = hw.arpBcCmd → Confined id request hw (bind hw) := by
    intro bind intfs portIntf subIntf arpBcCmd
    exact other bind intfs (fun _ _ => by rw [portIntf]) (fun _ _ _ => by rw [subIntf])
      (fun _ _ => by rw [arpBcCmd])
  unfold Request.effects macEffects at listed
  simp only [List.mem_append, List.mem_cons, List.not_mem_nil, or_false] at listed
  obtain setup | (rfl | rfl | rfl) | (rfl | rfl | rfl) | last := listed
  · cases request with
    | vlan vid => exact absurd setup List.not_mem_nil
    | port ifId =>
        obtain rfl | rfl : effect = initIntf id ∨ effect = bindPort ifId (some id) := by
          simpa [Request.setup] using setup
        · exact confined_onIntf fun _ => rfl
        · refine other _ rfl ?_ (fun _ _ _ => rfl) (fun _ _ => rfl)
          intro port different
          exact Function.update_of_ne (fun same => different (by rw [same])) _ _
    | sub ifId vid =>
        obtain rfl | rfl : effect = initIntf id ∨ effect = bindSub ifId vid (some id) := by
          simpa [Request.setup] using setup
        · exact confined_onIntf fun _ => rfl
        · refine other _ rfl (fun _ _ => rfl) ?_ (fun _ _ => rfl)
          intro port tag different
          refine Function.update_of_ne (fun same => different ?_) _ _
          rw [(Prod.mk.inj same).1, (Prod.mk.inj same).2]
  · exact confined_onIntf fun _ => rfl
  · exact confined_onIntf fun _ => rfl
  · exact confined_onIntf fun _ => rfl
  · exact plain _ rfl rfl rfl rfl
  · exact confined_onIntf fun _ => rfl
  · exact plain _ rfl rfl rfl rfl
  · cases request with
    | vlan vid =>
        obtain rfl : effect = setArpBcCmd vid .fwdMirror := by simpa [Request.last] using last
        refine other _ rfl (fun _ _ => rfl) (fun _ _ _ => rfl) ?_
        intro tag different
        exact Function.update_of_ne (fun same => different (by rw [same])) _ _
    | port ifId => exact absurd last List.not_mem_nil
    | sub ifId vid => exact absurd last List.not_mem_nil

end Confinement

/-- Work that leaves the rest of the ofproto alone too. -/
structure WorksOn (id : Nat) (request : Request) (before after : State) : Prop where
  hw : Confined id request before.hw after.hw
  dev : after.dev = before.dev
  vrfId : after.vrfId = before.vrfId

theorem stable_worksOn (id : Nat) (request : Request) (vrfId : Nat) (before : State) :
    Stable (request.effects id vrfId mac) (WorksOn id request before) where
  call _ _ _ listed works :=
    ⟨works.hw.trans (confined_effect listed), works.dev, works.vrfId⟩
  count _ _ works := ⟨works.hw, works.dev, works.vrfId⟩
  once _ _ _ works := ⟨works.hw, works.dev, works.vrfId⟩

/-! ## What a constructor makes -/

/-- An interface of the hardware that has the VRF and routes. -/
def Ready (id : Nat) (type : RouterType) (vrfId : Nat) (hw : L3Hw) : Prop :=
  ∃ intf ∈ hw.intfs, intf.id = id ∧ intf.type = type ∧ intf.vrf = vrfId ∧
    intf.ipv4UcRoutingEn = true ∧ intf.ipv6UcRoutingEn = true ∧
      (intf.isInitialized = true ∨ type = .vlan)

theorem ready_onIntf {id own vrfId : Nat} {type : RouterType} {hw : L3Hw}
    {change : HwL3Intf → HwL3Intf}
    (keeps : ∀ intf, (change intf).id = intf.id ∧ (change intf).type = intf.type ∧
      (change intf).vrf = intf.vrf ∧ (change intf).ipv4UcRoutingEn = intf.ipv4UcRoutingEn ∧
      (change intf).ipv6UcRoutingEn = intf.ipv6UcRoutingEn ∧
      (change intf).isInitialized = intf.isInitialized)
    (ready : Ready own type vrfId hw) : Ready own type vrfId (onIntf id change hw) := by
  obtain ⟨intf, member, isOwn, isType, isVrf, ipv4, ipv6, initialized⟩ := ready
  obtain ⟨sameId, sameType, sameVrf, sameIpv4, sameIpv6, sameInit⟩ := keeps intf
  unfold onIntf Ready
  by_cases same : intf.id = id
  · refine ⟨change intf, KeyedList.mem_rewrite.2 (.inl ⟨intf, member, same, rfl⟩), ?_⟩
    rw [sameId, sameType, sameVrf, sameIpv4, sameIpv6, sameInit]
    exact ⟨isOwn, isType, isVrf, ipv4, ipv6, initialized⟩
  · exact ⟨intf, KeyedList.mem_rewrite.2 (.inr ⟨member, same⟩), isOwn, isType, isVrf, ipv4,
      ipv6, initialized⟩

/-- The last calls of a constructor leave a ready interface ready. -/
theorem stable_ready (id own vrfId vid : Nat) (type : RouterType) (request : Request) :
    Stable (macEffects id mac vid ++ request.last)
      fun state => Ready own type vrfId state.hw where
  call := by
    intro state calls effect listed ready
    unfold macEffects at listed
    simp only [List.mem_append, List.mem_cons, List.not_mem_nil, or_false] at listed
    obtain (rfl | rfl | rfl) | last := listed
    · exact ready
    · exact ready_onIntf (fun _ => ⟨rfl, rfl, rfl, rfl, rfl, rfl⟩) ready
    · exact ready
    · cases request with
      | vlan tag =>
          obtain rfl : effect = setArpBcCmd tag .fwdMirror := by
            simpa [Request.last] using last
          exact ready
      | port ifId => exact absurd last List.not_mem_nil
      | sub ifId tag => exact absurd last List.not_mem_nil
  count _ _ ready := ready
  once _ _ _ ready := ready

/-- The first calls of a constructor make an interface ready. -/
theorem ready_setUp (request : Request) (before : State) (id : Nat) :
    Ready id request.type before.vrfId (request.setUp before id) := by
  refine ⟨⟨id, request.type, request.type ≠ .vlan, before.vrfId, true, true, 0⟩, ?_, rfl, rfl,
    rfl, rfl, rfl, ?_⟩
  · cases request <;>
      simp [Request.setUp, Request.setup, Request.type, runEffects, createIntf, initIntf,
        bindPort, bindSub, setIntfVrf, setIntfIpv4UcRoutingEn, setIntfIpv6UcRoutingEn, onIntf,
        KeyedList.rewrite]
  · cases request <;> simp [Request.type]

/-- A constructor makes nothing at all, or it works on a new interface, which is ready when
it is returned. -/
theorem create_cases {request : Request} {made : Option L3Interface}
    (returned : request.create xdk state mac = some (made, after)) :
    (made = none ∧ after = { state with calls := state.calls + 1 }) ∨
      WorksOn (xdk.allocate state.hw.ids request.type) request
        { state with
          hw := createIntf (xdk.allocate state.hw.ids request.type) request.type state.hw }
        after ∧
      (made = none ∨ Ready (xdk.allocate state.hw.ids request.type) request.type state.vrfId
        after.hw) := by
  rw [create_eq] at returned
  rcases equation : state.callAll xdk
      (createIntf (xdk.allocate state.hw.ids request.type) request.type ::
        (request.setup (xdk.allocate state.hw.ids request.type) ++
          [setIntfVrf (xdk.allocate state.hw.ids request.type) state.vrfId,
            setIntfIpv4UcRoutingEn (xdk.allocate state.hw.ids request.type),
            setIntfIpv6UcRoutingEn (xdk.allocate state.hw.ids request.type)]))
    with ⟨done, between⟩
  rw [ifaceCreate_of_equation equation] at returned
  generalize newId : xdk.allocate state.hw.ids request.type = id at *
  cases first : xdk.succeeds state.calls with
  | false =>
      rw [callAll_cons_of_fails first, Prod.mk.injEq] at equation
      obtain ⟨rfl, rfl⟩ := equation
      simp only [Bool.false_eq_true, if_false, Option.some.injEq, Prod.mk.injEq] at returned
      exact .inl ⟨returned.1.symm, returned.2.symm⟩
  | true =>
      refine .inr ?_
      have stable := @stable_worksOn mac id request state.vrfId
        { state with hw := createIntf id request.type state.hw }
      have works : WorksOn id request
          { state with hw := createIntf id request.type state.hw } between := by
        rw [callAll_cons_of_succeeds first] at equation
        have called := @Stable.of_callAll env xdk
          { state with
            hw := createIntf id request.type state.hw
            calls := state.calls + 1 }
          _ _ (request.setup id ++
            [setIntfVrf id state.vrfId, setIntfIpv4UcRoutingEn id,
              setIntfIpv6UcRoutingEn id]) stable ?_
          ⟨⟨fun _ _ => Iff.rfl, rfl, fun _ _ => rfl, fun _ _ _ => rfl, fun _ _ => rfl⟩, rfl,
            rfl⟩
        · rw [equation] at called
          exact called
        · intro effect member
          unfold Request.effects
          rw [← List.append_assoc]
          exact List.mem_append_left _ member
      cases done with
      | false =>
          simp only [Bool.false_eq_true, if_false, Option.some.injEq, Prod.mk.injEq] at returned
          exact ⟨returned.2 ▸ works, .inl returned.1.symm⟩
      | true =>
          rw [if_pos rfl] at returned
          have finished := stable.of_ifaceFinish (fun effect member => ?_) works returned
          · refine ⟨finished.1, ?_⟩
            have ready : Ready id request.type state.vrfId between.hw := by
              have all := callAll_of_done (congrArg Prod.fst equation)
              rw [equation, Prod.mk.injEq] at all
              rw [all.2]
              exact ready_setUp request state id
            exact .inr ((stable_ready id id state.vrfId request.vid request.type
              request).of_ifaceFinish (fun _ member => member) ready returned).1
          · unfold Request.effects
            exact List.mem_append_right _ (List.mem_append_right _ member)

/-! ## The names of interfaces -/

section Names

variable {vlanXdk : Xdk} {dev : Dev}

@[simp] theorem call_ifIdToName (effect : Hw → Hw) :
    (dev.call vlanXdk effect).2.ifIdToName = dev.ifIdToName := by
  unfold Dev.call
  split_ifs <;> rfl

@[simp] theorem vlanMemberRemove_ifIdToName (vlanId intfId : Nat) :
    (vlanMemberRemove env vlanXdk dev vlanId intfId).2.ifIdToName = dev.ifIdToName := by
  unfold vlanMemberRemove
  cases vlanMemberLookup env dev vlanId intfId with
  | none => split_ifs <;> rfl
  | some member =>
      simp only
      split_ifs <;> simp [Dev.setVlan]

@[simp] theorem clearMembership_ifIdToName (intfId : Nat) (vlanIds : List Nat) :
    (clearMembership env vlanXdk intfId vlanIds dev).2.ifIdToName = dev.ifIdToName := by
  induction vlanIds generalizing dev with
  | nil => rfl
  | cons vlanId vlanIds inductionHypothesis =>
      unfold clearMembership
      split_ifs
      · exact inductionHypothesis
      · have removed := @vlanMemberRemove_ifIdToName env vlanXdk dev vlanId intfId
        rcases equation : vlanMemberRemove env vlanXdk dev vlanId intfId with
          ⟨_ | errno, between⟩
        · rw [equation] at removed
          exact inductionHypothesis.trans removed
        · rw [equation] at removed
          exact removed

@[simp] theorem lagDetachPortOnHw_ifIdToName (lagId ifId : Nat) :
    (Bundles.lagDetachPortOnHw env vlanXdk dev lagId ifId).ifIdToName = dev.ifIdToName := by
  unfold Bundles.lagDetachPortOnHw Bundles.lagIsPortAttached
  simp only
  split_ifs <;> simp

@[simp] theorem lagDestroy_ifIdToName (lagId : Nat) :
    (Bundles.lagDestroy env vlanXdk dev lagId).ifIdToName = dev.ifIdToName := by
  have detached : ∀ ports : List Nat, ∀ dev : Dev,
      (ports.foldl (fun dev ifId => Bundles.lagDetachPortOnHw env vlanXdk dev lagId ifId)
        dev).ifIdToName = dev.ifIdToName := by
    intro ports
    induction ports with
    | nil => exact fun _ => rfl
    | cons port ports inductionHypothesis =>
        intro dev
        exact (inductionHypothesis _).trans (lagDetachPortOnHw_ifIdToName lagId port)
  unfold Bundles.lagDestroy
  simp only
  split_ifs
  · simp
  · simp [detached]

/-- What `bundle_destroy` does to the names. -/
theorem releaseIntfId_ifIdToName (bundle : RoutedBundle) :
    (releaseIntfId env vlanXdk dev bundle).ifIdToName = dev.ifIdToName ∨
      (releaseIntfId env vlanXdk dev bundle).ifIdToName =
        dev.ifIdToName.eraseP (·.1 == bundle.intfId) := by
  unfold releaseIntfId vlanPortClearAllMembership Bundles.devRemoveIntfEntry
  split_ifs
  · exact .inr (by simp)
  · exact .inr (by simp)
  · exact .inl (by simp)

end Names

end L3Intf
end XpliantSwitchd
