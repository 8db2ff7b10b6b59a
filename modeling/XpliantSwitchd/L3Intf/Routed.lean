import XpliantSwitchd.L3Intf.Defs
import XpliantSwitchd.Ofprotos.Defs

/-!
# The bundles of a router

This module embeds the L3 part of `ops-xp-ofproto-provider.c`: a bundle of an ofproto with
a VRF has at most one L3 interface, which `bundle_update_l3_config` makes, keeps or takes
away as the settings of the bundle ask for, and `bundle_destroy` takes away.

The LAG of a bundle is part of its settings: they say what
`bundle_create_remove_hw_lag` leaves in the bundle.  The addresses of a bundle are host
entries and no part of this model, as are its ports, one of which is the first slave: what
the calls for a LAG and for the ports come to is the course of a call.
-/

namespace XpliantSwitchd
namespace L3Intf

open Vlans
open Ofprotos (NetdevType)

/-- The L3 part of `struct bundle_xpliant`.  `aux` is what the switch daemon knows it by. -/
structure RoutedBundle where
  aux : Nat
  name : String
  intfId : Nat
  isLag : Bool
  l3Intf : Option L3Interface

/-- What is read of `struct ofproto_bundle_settings`, of the netdev of the first slave
(`type`, `subintfVlan`, `mac` and the id `portIntfId`) and of the LAG. -/
structure RoutedSettings where
  name : String
  isLag : Bool
  intfId : Nat
  portsUpdated : Bool
  type : NetdevType
  vlan : Int
  subintfVlan : Nat
  portIntfId : Nat
  mac : MacAddr
  enable : Bool

/-- An ofproto with a VRF and its bundles. -/
structure Router where
  state : State
  bundles : List RoutedBundle

variable {env : Env}

/-- `ops_xp_routing_update_l3_interface`. -/
def updateL3Interface (xdk : L3Xdk env) (state : State) (l3Intf : L3Interface) : State :=
  match (xdk.interfaceType l3Intf.intfId).getD .port with
  | .router .port =>
      (state.call xdk (bindPort l3Intf.intfId (some l3Intf.l3IntfId))).2
  | .router .subinterface =>
      (state.call xdk (bindSub l3Intf.intfId l3Intf.vlanId (some l3Intf.l3IntfId))).2
  | _ => state

/-- The `vlan_id` of `bundle_update_l3_config`, an `xpsVlan_t`. -/
def RoutedSettings.vlanId (s : RoutedSettings) : Nat :=
  match s.type with
  | .internal => (s.vlan % 65536).toNat
  | .vlansubint => s.subintfVlan
  | _ => 0

/-- The bundle with what an enabling function returned. -/
def RoutedBundle.enabled (bundle : RoutedBundle) :
    Option (Option L3Interface × State) → Option (RoutedBundle × State)
  | none => none
  | some (l3Intf, state) => some ({ bundle with l3Intf := l3Intf }, state)

/-- The part of `bundle_update_l3_config` that makes an interface. -/
def bundleEnableL3 (xdk : L3Xdk env) (state : State) (bundle : RoutedBundle)
    (s : RoutedSettings) : Option (RoutedBundle × State) :=
  match s.type with
  | .system =>
      let bundle := if bundle.isLag then bundle else { bundle with intfId := s.portIntfId }
      bundle.enabled (enableL3Interface xdk state bundle.intfId bundle.name s.mac)
  | .vlansubint =>
      if s.vlanId ≠ 0 then
        let bundle := { bundle with intfId := s.portIntfId }
        bundle.enabled
          (enableL3Subinterface xdk state bundle.intfId bundle.name s.vlanId s.mac)
      else some (bundle, state)
  | .internal =>
      if s.vlanId ≠ 0 then
        bundle.enabled (enableL3VlanInterface xdk state s.vlanId bundle.name s.mac)
      else some (bundle, state)
  | _ => some (bundle, state)

/-- The part of `bundle_update_l3_config` about the interface that there is. -/
def bundleKeepL3 (xdk : L3Xdk env) (state : State) (bundle : RoutedBundle)
    (s : RoutedSettings) : RoutedBundle × State :=
  match bundle.l3Intf with
  | none => (bundle, state)
  | some l3Intf =>
      if l3Intf.vlanId ≠ s.vlanId ∨ s.enable = false then
        ({ bundle with l3Intf := none }, disableL3Interface xdk state l3Intf)
      else if bundle.isLag ∧ s.portsUpdated then
        (bundle, updateL3Interface xdk state l3Intf)
      else (bundle, state)

/-- `bundle_update_l3_config`.  Without a result a call waits for ever. -/
def bundleUpdateL3Config (xdk : L3Xdk env) (state : State) (bundle : RoutedBundle)
    (s : RoutedSettings) : Option (RoutedBundle × State) :=
  if s.type = .loopback then some (bundle, state)
  else
    let (bundle, state) := bundleKeepL3 xdk state bundle s
    if bundle.l3Intf = none ∧ s.enable then bundleEnableL3 xdk state bundle s
    else some (bundle, state)

/-- `bundle_lookup`. -/
def Router.bundle? (router : Router) (aux : Nat) : Option RoutedBundle :=
  router.bundles.find? (·.aux == aux)

/-- The bundle that `ofproto_xpliant_bundle_set` goes on with. -/
def Router.bundleFor (router : Router) (aux : Nat) (s : RoutedSettings) : RoutedBundle :=
  match router.bundle? aux with
  | none => ⟨aux, s.name, s.intfId, s.isLag, none⟩
  | some bundle => { bundle with name := s.name, intfId := s.intfId, isLag := s.isLag }

/-- The part of `bundle_destroy` about the id below the bundle. -/
def releaseIntfId (env : Env) (xdk : Xdk) (dev : Dev) (bundle : RoutedBundle) : Dev :=
  let dev := (vlanPortClearAllMembership env xdk dev bundle.intfId).2
  if bundle.intfId ≠ env.intfInvalidId then
    let dev := Bundles.devRemoveIntfEntry dev bundle.intfId
    if bundle.isLag then Bundles.lagDestroy env xdk dev bundle.intfId else dev
  else dev

/-- `bundle_destroy`, with the answers of the XDK to the calls for VLANs and LAGs. -/
def bundleDestroy (xdk : L3Xdk env) (vlanXdk : Xdk) (router : Router) (aux : Nat) : Router :=
  match router.bundle? aux with
  | none => router
  | some bundle =>
      let state :=
        match bundle.l3Intf with
        | none => router.state
        | some l3Intf => disableL3Interface xdk router.state l3Intf
      ⟨{ state with dev := releaseIntfId env vlanXdk state.dev bundle },
        KeyedList.remove (·.aux) aux router.bundles⟩

/-- How far `ofproto_xpliant_bundle_set` comes: to the end, to a LAG that is only allocated or
that the XDK refuses, or to a bundle that is left without ports. -/
inductive Course
  | configured | stopped | emptied (vlanXdk : Xdk)

/-- `ofproto_xpliant_bundle_set` with settings. -/
def bundleSet (xdk : L3Xdk env) (router : Router) (aux : Nat) (s : RoutedSettings)
    (course : Course) : Option Router :=
  let bundle := router.bundleFor aux s
  let others := KeyedList.remove (·.aux) aux router.bundles
  match course with
  | .stopped => some ⟨router.state, bundle :: others⟩
  | .emptied vlanXdk => some (bundleDestroy xdk vlanXdk ⟨router.state, bundle :: others⟩ aux)
  | .configured =>
      match bundleUpdateL3Config xdk router.state bundle s with
      | none => none
      | some (bundle, state) => some ⟨state, bundle :: others⟩

/-- The calls for the bundles of a router, and what others do to the device. -/
inductive Event
  | set (aux : Nat) (s : RoutedSettings) (course : Course)
  | destroy (aux : Nat) (vlanXdk : Xdk)
  | others (dev : Dev)

/-- The router after an event; there is none once a call waits for ever. -/
def step (xdk : L3Xdk env) : Option Router → Event → Option Router
  | none, _ => none
  | some router, .set aux s course => bundleSet xdk router aux s course
  | some router, .destroy aux vlanXdk => some (bundleDestroy xdk vlanXdk router aux)
  | some router, .others dev => some { router with state := { router.state with dev := dev } }

end L3Intf
end XpliantSwitchd
