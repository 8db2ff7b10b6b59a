import XpliantSwitchd.Bundles.Defs

/-!
# L3 interfaces

This module embeds the part of `ops-xp-routing.c` that makes and destroys the L3
interfaces of ports, sub-interfaces and VLANs.  A call of the XDK is a numbered
step that has its effect on the hardware or fails without one.
-/

namespace XpliantSwitchd
namespace L3Intf

open Vlans

/-- The types of L3 interfaces of the XDK. -/
inductive RouterType
  | port | subinterface | vlan
  deriving DecidableEq

/-- `xpsInterfaceType_e`.  The plugin names these and types of tunnels. -/
inductive IntfType
  | port | lag | router (type : RouterType) | other (code : Nat)
  deriving DecidableEq

/-- An L3 interface of the hardware. -/
structure HwL3Intf where
  id : Nat
  type : RouterType
  isInitialized : Bool
  vrf : Nat
  ipv4UcRoutingEn : Bool
  ipv6UcRoutingEn : Bool
  egressRouterMacLsb : UInt8
  deriving DecidableEq

/-- The L3 side of the hardware: interfaces, what they are bound to, the command
for ARP broadcasts of each VLAN and the MAC addresses of the router. -/
structure L3Hw where
  intfs : List HwL3Intf
  portIntf : Nat → Option Nat
  subIntf : Nat × Nat → Option Nat
  arpBcCmd : Nat → PktCmd
  egressRouterMacMsbs : List UInt8
  ingressRouterMacs : List (Option Nat × MacAddr)

/-- The ids of the L3 interfaces. -/
def L3Hw.ids (hw : L3Hw) : List Nat := hw.intfs.map (·.id)

/-- `struct ovsthread_once`: not started, started but not done, done. -/
inductive Once
  | idle | started | done
  deriving DecidableEq

/-- `xp_l3_intf_t`. -/
structure L3Interface where
  l3IntfId : Nat
  intfId : Nat
  l3Vrf : Nat
  vlanId : Nat
  deriving DecidableEq

/-- An ofproto with its device and the static data of `l3_iface_mac_set`. -/
structure State where
  dev : Dev
  vrfId : Nat
  hw : L3Hw
  routerMac : MacAddr
  once : Once
  calls : Nat

/-- The answers of the XDK.  The type of an interface depends on its id only: a
new L3 interface has an id that is not in use and that tells its type, and the
invalid id has no type. -/
structure L3Xdk (env : Env) extends Xdk where
  interfaceType : Nat → Option IntfType
  allocate : List Nat → RouterType → Nat
  allocate_notMem : ∀ ids type, allocate ids type ∉ ids
  interfaceType_allocate : ∀ ids type,
    interfaceType (allocate ids type) = some (.router type)
  interfaceType_invalid : interfaceType env.intfInvalidId = none

variable {env : Env}

/-- A call of the XDK with its effect on the hardware. -/
def State.call (xdk : L3Xdk env) (state : State) (effect : L3Hw → L3Hw) : Bool × State :=
  if xdk.succeeds state.calls then
    (true, { state with hw := effect state.hw, calls := state.calls + 1 })
  else (false, { state with calls := state.calls + 1 })

/-- Calls in a row, up to the first one that fails. -/
def State.callAll (xdk : L3Xdk env) : State → List (L3Hw → L3Hw) → Bool × State
  | state, [] => (true, state)
  | state, effect :: effects =>
      match state.call xdk effect with
      | (true, state) => state.callAll xdk effects
      | (false, state) => (false, state)

/-! ## Calls of the XDK -/

/-- `xpsL3CreatePortIntf`, `xpsL3CreateSubIntf` and `xpsL3CreateVlanIntf`. -/
def createIntf (id : Nat) (type : RouterType) (hw : L3Hw) : L3Hw :=
  { hw with
    intfs :=
      { id := id
        type := type
        isInitialized := false
        vrf := 0
        ipv4UcRoutingEn := false
        ipv6UcRoutingEn := false
        egressRouterMacLsb := 0 } :: hw.intfs }

/-- Write to an L3 interface of the hardware. -/
def onIntf (id : Nat) (change : HwL3Intf → HwL3Intf) (hw : L3Hw) : L3Hw :=
  { hw with intfs := KeyedList.rewrite (·.id) id change hw.intfs }

/-- `xpsL3InitPortIntf` and `xpsL3InitSubIntf`. -/
def initIntf (id : Nat) : L3Hw → L3Hw :=
  onIntf id ({ · with isInitialized := true })

/-- `xpsL3DeInitPortIntf` and `xpsL3DeInitSubIntf`. -/
def deInitIntf (id : Nat) : L3Hw → L3Hw :=
  onIntf id ({ · with isInitialized := false })

/-- `xpsL3SetIntfVrf`. -/
def setIntfVrf (id vrf : Nat) : L3Hw → L3Hw :=
  onIntf id ({ · with vrf := vrf })

/-- `xpsL3SetIntfIpv4UcRoutingEn` with `1`. -/
def setIntfIpv4UcRoutingEn (id : Nat) : L3Hw → L3Hw :=
  onIntf id ({ · with ipv4UcRoutingEn := true })

/-- `xpsL3SetIntfIpv6UcRoutingEn` with `1`. -/
def setIntfIpv6UcRoutingEn (id : Nat) : L3Hw → L3Hw :=
  onIntf id ({ · with ipv6UcRoutingEn := true })

/-- `xpsL3SetIntfEgressRouterMacLSB`. -/
def setIntfEgressRouterMacLsb (id : Nat) (lsb : UInt8) : L3Hw → L3Hw :=
  onIntf id ({ · with egressRouterMacLsb := lsb })

/-- `xpsL3DestroyPortIntf`, `xpsL3DestroySubIntf` and `xpsL3DestroyVlanIntf`. -/
def destroyIntf (id : Nat) (hw : L3Hw) : L3Hw :=
  { hw with intfs := KeyedList.remove (·.id) id hw.intfs }

/-- `xpsL3BindPortIntf`, and `xpsL3UnBindPortIntf` with no interface. -/
def bindPort (ifId : Nat) (id : Option Nat) (hw : L3Hw) : L3Hw :=
  { hw with portIntf := Function.update hw.portIntf ifId id }

/-- `xpsL3BindSubIntf`, and `xpsL3UnBindSubIntf` with no interface. -/
def bindSub (ifId vid : Nat) (id : Option Nat) (hw : L3Hw) : L3Hw :=
  { hw with subIntf := Function.update hw.subIntf (ifId, vid) id }

/-- `xpsVlanSetArpBcCmd`. -/
def setArpBcCmd (vid : Nat) (cmd : PktCmd) (hw : L3Hw) : L3Hw :=
  { hw with arpBcCmd := Function.update hw.arpBcCmd vid cmd }

/-- `xpsL3SetEgressRouterMacMSbs`. -/
def setEgressRouterMacMsbs (msbs : List UInt8) (hw : L3Hw) : L3Hw :=
  { hw with egressRouterMacMsbs := msbs }

/-- `xpsL3AddIngressRouterVlanMac`, and `xpsL3AddIngressRouterMac` with no VLAN. -/
def addIngressRouterMac (vid : Option Nat) (mac : MacAddr) (hw : L3Hw) : L3Hw :=
  { hw with ingressRouterMacs := (vid, mac) :: hw.ingressRouterMacs }

/-! ## Making an interface -/

/-- The block of `l3_iface_mac_set` that runs once.  Without a result the caller
waits for another one to be done with the block. -/
def routerMacInit (xdk : L3Xdk env) (state : State) (mac : MacAddr) :
    Option (Option Errno × State) :=
  match state.once with
  | .done => some (none, state)
  | .started => none
  | .idle =>
      let state := { state with once := .started, routerMac := MacAddr.setLastByte mac 0 }
      let (setMsbs, state) := state.call xdk
        (setEgressRouterMacMsbs (macCopyAndReverse mac).toList.tail)
      if !setMsbs then some (some .EFAULT, state)
      else some (none, { state with once := .done })

/-- `l3_iface_mac_set`. -/
def l3IfaceMacSet (xdk : L3Xdk env) (state : State) (l3IntfId : Nat) (mac : MacAddr)
    (vid : Nat) : Option (Option Errno × State) :=
  match routerMacInit xdk state mac with
  | none => none
  | some (some errno, state) => some (some errno, state)
  | some (none, state) =>
      let xpMac := macCopyAndReverse mac
      let (done, state) := state.callAll xdk
        [setIntfEgressRouterMacLsb l3IntfId (MacAddr.firstByte xpMac),
         addIngressRouterMac (if vid ≠ 0 then some vid else none) xpMac]
      some (if done then none else some .EFAULT, state)

/-- The course of the three functions below.  An interface of the given type is
created and set up, gets the VRF, the routing flags and the MAC address, and the
last calls are made; the record is freed at the first error. -/
def ifaceCreate (xdk : L3Xdk env) (state : State) (type : RouterType)
    (setup : Nat → List (L3Hw → L3Hw)) (mac : MacAddr) (vid : Nat)
    (last : List (L3Hw → L3Hw)) (intfId : Nat) : Option (Option L3Interface × State) :=
  let id := xdk.allocate state.hw.ids type
  let vrfId := state.vrfId
  let (done, state) := state.callAll xdk
    (createIntf id type :: (setup id ++
      [setIntfVrf id vrfId, setIntfIpv4UcRoutingEn id, setIntfIpv6UcRoutingEn id]))
  if !done then some (none, state)
  else
    match l3IfaceMacSet xdk state id mac vid with
    | none => none
    | some (some _, state) => some (none, state)
    | some (none, state) =>
        let (done, state) := state.callAll xdk last
        if !done then some (none, state)
        else some (some ⟨id, intfId, vrfId, vid⟩, state)

/-- `l3_vlan_iface_create`. -/
def l3VlanIfaceCreate (xdk : L3Xdk env) (state : State) (vid : Nat) (mac : MacAddr) :
    Option (Option L3Interface × State) :=
  ifaceCreate xdk state .vlan (fun _ => []) mac vid [setArpBcCmd vid .fwdMirror]
    env.intfInvalidId

/-- `l3_port_iface_create`. -/
def l3PortIfaceCreate (xdk : L3Xdk env) (state : State) (ifId : Nat) (mac : MacAddr) :
    Option (Option L3Interface × State) :=
  ifaceCreate xdk state .port (fun id => [initIntf id, bindPort ifId (some id)]) mac 0 []
    ifId

/-- `l3_sub_iface_create`. -/
def l3SubIfaceCreate (xdk : L3Xdk env) (state : State) (ifId vid : Nat) (mac : MacAddr) :
    Option (Option L3Interface × State) :=
  ifaceCreate xdk state .subinterface (fun id => [initIntf id, bindSub ifId vid (some id)])
    mac vid [] ifId

/-- The end of the enabling functions: the interface gets its name. -/
def nameIntf (ifName : String) :
    Option (Option L3Interface × State) → Option (Option L3Interface × State)
  | some (some l3Intf, state) =>
      some (some l3Intf,
        { state with dev := Bundles.devAddIntfEntry state.dev l3Intf.l3IntfId ifName })
  | result => result

/-- `ops_xp_routing_enable_l3_interface`. -/
def enableL3Interface (xdk : L3Xdk env) (state : State) (ifId : Nat) (ifName : String)
    (mac : MacAddr) : Option (Option L3Interface × State) :=
  match xdk.interfaceType ifId with
  | some .port | some .lag => nameIntf ifName (l3PortIfaceCreate xdk state ifId mac)
  | _ => some (none, state)

/-- `ops_xp_routing_enable_l3_subinterface`. -/
def enableL3Subinterface (xdk : L3Xdk env) (state : State) (ifId : Nat)
    (ifName : String) (vid : Nat) (mac : MacAddr) :
    Option (Option L3Interface × State) :=
  match xdk.interfaceType ifId with
  | some .port => nameIntf ifName (l3SubIfaceCreate xdk state ifId vid mac)
  | _ => some (none, state)

/-- `ops_xp_routing_enable_l3_vlan_interface`. -/
def enableL3VlanInterface (xdk : L3Xdk env) (state : State) (vid : Nat)
    (ifName : String) (mac : MacAddr) : Option (Option L3Interface × State) :=
  if vlanIsExisting env state.dev vid then
    nameIntf ifName (l3VlanIfaceCreate xdk state vid mac)
  else some (none, state)

/-- An L3 interface that is asked for: of a VLAN, of a port or a LAG, or of a VLAN on
a port. -/
inductive Request
  | vlan (vid : Nat)
  | port (ifId : Nat)
  | sub (ifId vid : Nat)
  deriving DecidableEq

/-- The constructor for a request. -/
def Request.create (xdk : L3Xdk env) (state : State) (mac : MacAddr) :
    Request → Option (Option L3Interface × State)
  | .vlan vid => l3VlanIfaceCreate xdk state vid mac
  | .port ifId => l3PortIfaceCreate xdk state ifId mac
  | .sub ifId vid => l3SubIfaceCreate xdk state ifId vid mac

/-- The enabling function for a request. -/
def Request.enable (xdk : L3Xdk env) (state : State) (ifName : String) (mac : MacAddr) :
    Request → Option (Option L3Interface × State)
  | .vlan vid => enableL3VlanInterface xdk state vid ifName mac
  | .port ifId => enableL3Interface xdk state ifId ifName mac
  | .sub ifId vid => enableL3Subinterface xdk state ifId ifName vid mac

/-! ## Destroying an interface -/

/-- Calls whose status is logged and ignored. -/
def State.callEach (xdk : L3Xdk env) (state : State) (effects : List (L3Hw → L3Hw)) :
    State :=
  effects.foldl (fun state effect => (state.call xdk effect).2) state

/-- The switch of `ops_xp_routing_disable_l3_interface`. -/
def teardown (xdk : L3Xdk env) (state : State) (l3Intf : L3Interface) (type : IntfType) :
    State :=
  match type with
  | .router .port => state.callEach xdk
      [bindPort l3Intf.intfId none, deInitIntf l3Intf.l3IntfId, destroyIntf l3Intf.l3IntfId]
  | .router .subinterface => state.callEach xdk
      [bindSub l3Intf.intfId l3Intf.vlanId none, deInitIntf l3Intf.l3IntfId,
       destroyIntf l3Intf.l3IntfId]
  | .router .vlan => state.callEach xdk
      [destroyIntf l3Intf.l3IntfId, setArpBcCmd l3Intf.vlanId .fwd]
  | _ => state

/-- `ops_xp_routing_disable_l3_interface`.  The type is that of `intf_id`, or
`XPS_PORT` where the XDK does not tell it. -/
def disableL3Interface (xdk : L3Xdk env) (state : State) (l3Intf : L3Interface) : State :=
  let type := (xdk.interfaceType l3Intf.intfId).getD .port
  teardown xdk { state with dev := Bundles.devRemoveIntfEntry state.dev l3Intf.l3IntfId }
    l3Intf type

/-! ## What the calls leave alone -/

/-- A call on the L3 interfaces there are. -/
def KeepsIds (effect : L3Hw → L3Hw) : Prop :=
  ∀ hw, (effect hw).ids = hw.ids

/-- A write to an interface that keeps its id. -/
theorem keepsIds_onIntf
    (id : Nat)
    {change : HwL3Intf → HwL3Intf}
    (keeps : ∀ intf, (change intf).id = intf.id) :
    KeepsIds (onIntf id change) :=
  fun _ => KeyedList.map_rewrite fun intf _ _ => keeps intf

/-- The calls of every constructor on an interface that was set up. -/
theorem keepsIds_routing (id vrfId : Nat) :
    ∀ effect ∈ [setIntfVrf id vrfId, setIntfIpv4UcRoutingEn id, setIntfIpv6UcRoutingEn id],
      KeepsIds effect := by
  rw [List.forall_mem_cons, List.forall_mem_cons, List.forall_mem_singleton]
  refine ⟨?_, ?_, ?_⟩
  · exact keepsIds_onIntf id fun _ => rfl
  · exact keepsIds_onIntf id fun _ => rfl
  · exact keepsIds_onIntf id fun _ => rfl

/-- The calls of `l3_iface_mac_set` after its block. -/
theorem keepsIds_macSet (id : Nat) (lsb : UInt8) (vid : Option Nat) (mac : MacAddr) :
    ∀ effect ∈ [setIntfEgressRouterMacLsb id lsb, addIngressRouterMac vid mac],
      KeepsIds effect := by
  rw [List.forall_mem_cons, List.forall_mem_singleton]
  exact ⟨keepsIds_onIntf id fun _ => rfl, fun _ => rfl⟩

theorem destroyIntf_ids (id : Nat) (hw : L3Hw) :
    (destroyIntf id hw).ids = hw.ids.filter (· != id) := by
  unfold destroyIntf L3Hw.ids KeyedList.remove
  rw [List.filter_map]
  rfl

namespace State

variable {xdk : L3Xdk env} {state : State}

theorem call_of_succeeds
    (succeeds : xdk.succeeds state.calls = true)
    (effect : L3Hw → L3Hw) :
    state.call xdk effect =
      (true, { state with hw := effect state.hw, calls := state.calls + 1 }) :=
  if_pos succeeds

theorem call_of_fails
    (fails : xdk.succeeds state.calls = false)
    (effect : L3Hw → L3Hw) :
    state.call xdk effect = (false, { state with calls := state.calls + 1 }) :=
  if_neg (by simp [fails])

end State

/-! ## The parts of a request -/

/-- The type of the interface that a request makes. -/
def Request.type : Request → RouterType
  | .vlan _ => .vlan
  | .port _ => .port
  | .sub _ _ => .subinterface

/-- The id below the interface that a request makes. -/
def Request.intfId (env : Env) : Request → Nat
  | .vlan _ => env.intfInvalidId
  | .port ifId | .sub ifId _ => ifId

/-- The VLAN of the interface that a request makes. -/
def Request.vid : Request → Nat
  | .vlan vid | .sub _ vid => vid
  | .port _ => 0

/-- The calls that a request makes between the creation and the VRF. -/
def Request.setup (id : Nat) : Request → List (L3Hw → L3Hw)
  | .vlan _ => []
  | .port ifId => [initIntf id, bindPort ifId (some id)]
  | .sub ifId vid => [initIntf id, bindSub ifId vid (some id)]

/-- The calls that a request makes at its end. -/
def Request.last : Request → List (L3Hw → L3Hw)
  | .vlan vid => [setArpBcCmd vid .fwdMirror]
  | .port _ | .sub _ _ => []

/-- A constructor by the parts of its request. -/
theorem create_eq (xdk : L3Xdk env) (state : State) (mac : MacAddr) (request : Request) :
    request.create xdk state mac =
      ifaceCreate xdk state request.type (fun id => request.setup id) mac request.vid
        request.last (request.intfId env) := by
  cases request <;> rfl

/-- An interface is initialized and then bound. -/
theorem keepsIds_initAndBind
    (id : Nat)
    (bind : L3Hw → L3Hw)
    (keepsBind : KeepsIds bind) :
    ∀ effect ∈ [initIntf id, bind], KeepsIds effect := by
  rw [List.forall_mem_cons, List.forall_mem_singleton]
  exact ⟨keepsIds_onIntf id fun _ => rfl, keepsBind⟩

theorem keepsIds_setup (request : Request) (id : Nat) :
    ∀ effect ∈ request.setup id, KeepsIds effect := by
  intro effect listed
  cases request with
  | vlan vid => exact absurd listed List.not_mem_nil
  | port ifId =>
      exact keepsIds_initAndBind id (bindPort ifId (some id)) (fun _ => rfl) effect listed
  | sub ifId vid =>
      exact keepsIds_initAndBind id (bindSub ifId vid (some id)) (fun _ => rfl) effect listed

theorem keepsIds_last (request : Request) :
    ∀ effect ∈ request.last, KeepsIds effect := by
  intro effect listed
  cases request with
  | vlan vid =>
      rw [List.mem_singleton.mp listed]
      exact fun _ => rfl
  | port ifId => exact absurd listed List.not_mem_nil
  | sub ifId vid => exact absurd listed List.not_mem_nil

end L3Intf
end XpliantSwitchd
