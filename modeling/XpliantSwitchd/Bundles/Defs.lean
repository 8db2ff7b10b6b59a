import XpliantSwitchd.Bundles.Lag
import XpliantSwitchd.Lib.Traversal

/-!
# Bundles of a bridge

This module embeds the bundle and VLAN functions of
`ops-xp-ofproto-provider.c` for an ofproto without a VRF.  A bundle is known to
its ports by a pointer, here a number that is never used again, and to the switch
daemon by its `aux`.
-/

namespace XpliantSwitchd
namespace Bundles

open Vlans

/-- The interface types of the switch daemon. -/
inductive InterfaceType
  | system | internal | vlansubint | loopback | other
  deriving DecidableEq

/-- `struct ofport_xpliant` with the netdev of the port, without its pointer to
a bundle. -/
structure OfPort where
  ofpPort : Nat
  name : String
  type : InterfaceType
  isXpliantClass : Bool
  ifId : Nat
  portNum : Nat
  deriving DecidableEq

/-- The ports of an ofproto on a device.  Ports have numbers and netdevs have
names of their own. -/
structure Bridge extends Env where
  ports : List OfPort
  ofpPort_nodup : (ports.map (·.ofpPort)).Nodup
  name_nodup : (ports.map (·.name)).Nodup

/-- `get_ofp_port`. -/
def Bridge.port? (bridge : Bridge) (ofpPort : Nat) : Option OfPort :=
  bridge.ports.find? (·.ofpPort == ofpPort)

/-- `enum port_vlan_mode`. -/
inductive PortVlanMode
  | access | trunk | nativeUntagged | nativeTagged
  deriving DecidableEq

/-- `struct bundle_xpliant` without its L3 part.  `id` stands for its address. -/
structure Bundle (count : Nat) where
  id : Nat
  aux : Nat
  name : String
  intfId : Nat
  isLag : Bool
  ports : List Nat
  portsUpdated : Bool
  vlanMode : PortVlanMode
  vlan : Int
  trunks : Option (BitVec count)
  deriving DecidableEq

/-- The part of `struct ofproto_bundle_settings` that a bridge reads. -/
structure Settings (count : Nat) where
  name : String
  slaves : List Nat
  hwBondShouldExist : Bool
  bondHandleAllocOnly : Bool
  vlanMode : PortVlanMode
  vlan : Int
  trunks : Option (BitVec count)
  deriving DecidableEq

/-- An ofproto: its device, the `bundle` pointers of its ports and its bundles.
The interface ids of the LAGs that were destroyed are remembered, which the code
does not do. -/
structure Ofproto (count : Nat) where
  dev : Dev
  portBundle : Nat → Option Nat
  bundles : List (Bundle count)
  nextBundle : Nat
  destroyedLags : List Nat

variable {count : Nat}

/-- The bundle behind a pointer. -/
def Ofproto.bundle? (ofproto : Ofproto count) (id : Nat) : Option (Bundle count) :=
  ofproto.bundles.find? (·.id == id)

/-- Write to the bundle behind a pointer. -/
def Ofproto.modify (ofproto : Ofproto count) (id : Nat)
    (change : Bundle count → Bundle count) : Ofproto count :=
  { ofproto with bundles := KeyedList.rewrite (·.id) id change ofproto.bundles }

/-- `bundle_lookup`. -/
def bundleLookup (ofproto : Ofproto count) (aux : Nat) : Option (Bundle count) :=
  ofproto.bundles.find? (·.aux == aux)

/-- A VLAN is in the trunks of a bundle; a null bitmap has none. -/
def Bundle.isTrunked (bundle : Bundle count) (vid : Nat) : Bool :=
  bundle.trunks.any (·.getLsbD vid)

/-- The encapsulation of a bundle in a VLAN of its trunks. -/
def Bundle.encapType (bundle : Bundle count) (vid : Nat) : EncapType :=
  if bundle.vlan ≠ vid ∨ bundle.vlanMode = .nativeTagged then .tagged else .untagged

/-! ## Bitmaps -/

/-- `bitmap_set1`. -/
def bitmapSet1 (bitmap : BitVec count) (offset : Nat) : BitVec count :=
  bitmap ||| BitVec.twoPow count offset

/-- `bitmap_set0`. -/
def bitmapSet0 (bitmap : BitVec count) (offset : Nat) : BitVec count :=
  bitmap &&& ~~~BitVec.twoPow count offset

/-- `ops_xp_vlan_bitmap_xor` of a bitmap and one that may be null. -/
def vlanBitmapXor (left : BitVec count) (right : Option (BitVec count)) :
    BitVec count :=
  match right with
  | none => left
  | some right => left ^^^ right

/-- The positions that `VLAN_BITMAP_FOR_EACH_1` visits. -/
def bitmapOnes (bitmap : BitVec count) : List Nat :=
  (List.range count).filter bitmap.getLsbD

/-! ## VLAN configuration -/

/-- `ops_xp_port_default_vlan_set`. -/
def portDefaultVlanSet (xdk : Xdk) (dev : Dev) (portNum vlanId : Nat) :
    Option Errno × Dev :=
  let (gotConfig, dev) := dev.call xdk id
  if !gotConfig then (some .EPERM, dev)
  else if dev.hw.ports portNum = ⟨vlanId, true⟩ then (none, dev)
  else
    let (setConfig, dev) := dev.call xdk fun hw =>
      { hw with ports := Function.update hw.ports portNum ⟨vlanId, true⟩ }
    if setConfig then (none, dev) else (some .EPERM, dev)

/-- A conversion of an `int` to `xpsVlan_t`. -/
def xpsVlan (value : Int) : Nat := (value % 2 ^ 16).toNat

/-- The VLAN that the settings ask for. -/
def settingsVlan (env : Env) (s : Settings count) : Nat :=
  match s.vlanMode with
  | .trunk => defaultVlanId
  | _ => if isVlanIdValid env (xpsVlan s.vlan) then xpsVlan s.vlan else defaultVlanId

/-- The trunks that the settings ask for. -/
def settingsTrunks (env : Env) (s : Settings count) : BitVec count :=
  match s.vlanMode with
  | .access => bitmapSet1 0 (settingsVlan env s)
  | .trunk => s.trunks.getD 0
  | .nativeUntagged | .nativeTagged =>
      bitmapSet1 (s.trunks.getD 0) (settingsVlan env s)

/-- The frame type that the settings ask for. -/
def settingsFrameType (s : Settings count) : FrameType :=
  match s.vlanMode with
  | .access => .unPri
  | _ => .all

/-- Take a VLAN out of the trunks, and the interface out of the VLAN. -/
def dropVlan (env : Env) (xdk : Xdk) (dev : Dev) (intfId vid : Nat)
    (trunks : BitVec count) : Option Errno × BitVec count × Dev :=
  let trunks := bitmapSet0 trunks vid
  if vlanIsExisting env dev vid then
    let (errno, dev) := vlanMemberRemove env xdk dev vid intfId
    (errno, trunks, dev)
  else (none, trunks, dev)

/-- The part of `bundle_update_vlan_config` for VLANs whose tagging changes. -/
def dropRetagged (env : Env) (xdk : Xdk) (dev : Dev) (intfId vlan oldVlan : Nat)
    (old new : BitVec count) : Option Errno × BitVec count × Dev :=
  let (errno, old, dev) :=
    if old.getLsbD vlan then dropVlan env xdk dev intfId vlan old
    else (none, old, dev)
  match errno with
  | some errno => (some errno, old, dev)
  | none =>
      if new.getLsbD oldVlan then dropVlan env xdk dev intfId oldVlan old
      else (none, old, dev)

/-- The loop over the ports that updates the PVID. -/
def setPvids (xdk : Xdk) (vlan : Nat) : List OfPort → Dev → Option Errno × Dev
  | [], dev => (none, dev)
  | port :: ports, dev =>
      match portDefaultVlanSet xdk dev port.portNum vlan with
      | (none, dev) => setPvids xdk vlan ports dev
      | (some errno, dev) => (some errno, dev)

/-- The loop over the changed VLANs. -/
def updateParticipation (env : Env) (xdk : Xdk) (bundle : Bundle count) :
    List Nat → Dev → Option Errno × Dev
  | [], dev => (none, dev)
  | vid :: vids, dev =>
      if vlanIsExisting env dev vid then
        let result :=
          if bundle.isTrunked vid then
            vlanMemberAdd env xdk dev vid bundle.intfId (bundle.encapType vid)
          else vlanMemberRemove env xdk dev vid bundle.intfId
        match result with
        | (none, dev) => updateParticipation env xdk bundle vids dev
        | (some errno, dev) => (some errno, dev)
      else updateParticipation env xdk bundle vids dev

/-- The part of `bundle_update_vlan_config` after the bitmaps were found to
differ.  The bundle has its new trunks already. -/
def applyTrunks (env : Env) (xdk : Xdk) (dev : Dev) (bundle : Bundle count)
    (ports : List OfPort) (frameType : FrameType) (trunksDiff : BitVec count) :
    Option Errno × Dev :=
  let (setField, dev) := dev.call xdk fun hw =>
    { hw with frameTypes := Function.update hw.frameTypes bundle.intfId frameType }
  if !setField then (some .EPERM, dev)
  else
    match setPvids xdk (xpsVlan bundle.vlan) ports dev with
    | (some errno, dev) => (some errno, dev)
    | (none, dev) => updateParticipation env xdk bundle (bitmapOnes trunksDiff) dev

/-- The VLAN of a bundle before the update. -/
def Bundle.oldVlan (bundle : Bundle count) : Nat :=
  if bundle.vlan ≠ -1 then xpsVlan bundle.vlan else defaultVlanId

/-- The trunks that the bitmaps are compared with: those of the bundle, without
VLANs whose tagging changes. -/
def trunksToCompare (env : Env) (xdk : Xdk) (dev : Dev) (bundle : Bundle count)
    (s : Settings count) : Option Errno × Option (BitVec count) × Dev :=
  match bundle.trunks with
  | none => (none, none, dev)
  | some old =>
      if bundle.oldVlan ≠ settingsVlan env s ∨ bundle.vlanMode ≠ s.vlanMode then
        let (errno, old, dev) := dropRetagged env xdk dev bundle.intfId
          (settingsVlan env s) bundle.oldVlan old (settingsTrunks env s)
        (errno, some old, dev)
      else (none, some old, dev)

/-- `bundle_update_vlan_config`. -/
def bundleUpdateVlanConfig (bridge : Bridge) (xdk : Xdk) (dev : Dev)
    (bundle : Bundle count) (s : Settings count) :
    Option Errno × Bundle count × Dev :=
  let trunks := settingsTrunks bridge.toEnv s
  let (errno, oldTrunks, dev) := trunksToCompare bridge.toEnv xdk dev bundle s
  let bundle :=
    { bundle with
      vlanMode := s.vlanMode
      vlan := settingsVlan bridge.toEnv s
      trunks := oldTrunks }
  match errno with
  | some errno => (some errno, bundle, dev)
  | none =>
      if some trunks ≠ bundle.trunks ∨ (bundle.isLag && bundle.portsUpdated) then
        let trunksDiff := vlanBitmapXor trunks bundle.trunks
        let bundle := { bundle with trunks := some trunks }
        let (errno, dev) := applyTrunks bridge.toEnv xdk dev bundle
          (bundle.ports.filterMap bridge.port?) (settingsFrameType s) trunksDiff
        (errno, bundle, dev)
      else (none, bundle, dev)

/-! ## Ports of a bundle -/

/-- The end of `bundle_del_port`: a port of no bundle is in the default VLAN. -/
def joinDefaultVlan (env : Env) (xdk : Xdk) (dev : Dev) (port : OfPort) : Dev :=
  if port.type = .system then
    if !vlanPortIsMember env dev defaultVlanId port.ifId then
      (vlanMemberAdd env xdk dev defaultVlanId port.ifId .untagged).2
    else
      let dev := (vlanMemberSetTagging env xdk dev defaultVlanId port.ifId false).2
      (portDefaultVlanSet xdk dev port.portNum defaultVlanId).2
  else dev

/-- `bundle_del_port`. -/
def bundleDelPort (bridge : Bridge) (xdk : Xdk) (ofproto : Ofproto count)
    (port : OfPort) : Ofproto count :=
  match ofproto.portBundle port.ofpPort with
  | none => ofproto
  | some id =>
      let ofproto := ofproto.modify id fun bundle =>
        { bundle with ports := bundle.ports.erase port.ofpPort, portsUpdated := true }
      { ofproto with
        portBundle := Function.update ofproto.portBundle port.ofpPort none
        dev := joinDefaultVlan bridge.toEnv xdk ofproto.dev port }

/-- `ops_xp_dev_add_intf_entry`. -/
def devAddIntfEntry (dev : Dev) (intfId : Nat) (intfName : String) : Dev :=
  if dev.ifIdToName.any (·.1 == intfId) then dev
  else { dev with ifIdToName := (intfId, intfName) :: dev.ifIdToName }

/-- `ops_xp_dev_remove_intf_entry`. -/
def devRemoveIntfEntry (dev : Dev) (intfId : Nat) : Dev :=
  { dev with ifIdToName := dev.ifIdToName.eraseP (·.1 == intfId) }

/-- `ops_xp_lag_destroy` for a LAG of the ofproto. -/
def Ofproto.lagDestroy (ofproto : Ofproto count) (bridge : Bridge) (xdk : Xdk)
    (lagId : Nat) : Ofproto count :=
  { ofproto with
    dev := Bundles.lagDestroy bridge.toEnv xdk ofproto.dev lagId
    destroyedLags := lagId :: ofproto.destroyedLags }

/-- The part of `bundle_destroy` about the interface of the bundle. -/
def releaseIntf (bridge : Bridge) (xdk : Xdk) (ofproto : Ofproto count)
    (bundle : Bundle count) : Ofproto count :=
  let dev := (vlanPortClearAllMembership bridge.toEnv xdk ofproto.dev bundle.intfId).2
  if bundle.intfId ≠ bridge.intfInvalidId then
    let ofproto := { ofproto with dev := devRemoveIntfEntry dev bundle.intfId }
    if bundle.isLag then ofproto.lagDestroy bridge xdk bundle.intfId else ofproto
  else { ofproto with dev := dev }

/-- `bundle_destroy`.  A bundle of a bridge has no addresses and no L3 interface;
the flush of its learned MAC addresses is not part of this model. -/
def bundleDestroy (bridge : Bridge) (xdk : Xdk) (ofproto : Ofproto count) (id : Nat) :
    Ofproto count :=
  match ofproto.bundle? id with
  | none => ofproto
  | some bundle =>
      let ofproto := releaseIntf bridge xdk ofproto bundle
      let ofproto := (bundle.ports.filterMap bridge.port?).foldl
        (bundleDelPort bridge xdk) ofproto
      { ofproto with bundles := KeyedList.remove (·.id) id ofproto.bundles }

/-- `ofproto_xpliant_bundle_remove`. -/
def bundleRemove (bridge : Bridge) (xdk : Xdk) (ofproto : Ofproto count)
    (port : OfPort) : Ofproto count :=
  match (ofproto.portBundle port.ofpPort).bind ofproto.bundle? with
  | none => ofproto
  | some bundle =>
      let (setField, dev) :=
        if bundle.intfId ≠ bridge.intfInvalidId then
          ofproto.dev.call xdk fun hw =>
            { hw with frameTypes := Function.update hw.frameTypes bundle.intfId .all }
        else (true, ofproto.dev)
      let ofproto := { ofproto with dev := dev }
      if !setField then ofproto
      else
        let ofproto := bundleDelPort bridge xdk ofproto port
        if (ofproto.bundle? bundle.id).any (·.ports.isEmpty) then
          bundleDestroy bridge xdk ofproto bundle.id
        else ofproto

/-- `bundle_add_port`. -/
def bundleAddPort (bridge : Bridge) (xdk : Xdk) (id : Nat) (ofproto : Ofproto count)
    (ofpPort : Nat) : Ofproto count :=
  match bridge.port? ofpPort with
  | none => ofproto
  | some port =>
      if ofproto.portBundle ofpPort = some id then ofproto
      else
        let ofproto := bundleRemove bridge xdk ofproto port
        let ofproto := ofproto.modify id fun bundle =>
          { bundle with ports := bundle.ports ++ [ofpPort], portsUpdated := true }
        { ofproto with
          portBundle := Function.update ofproto.portBundle ofpPort (some id)
          dev :=
            if port.type = .system then
              (vlanMemberRemove bridge.toEnv xdk ofproto.dev defaultVlanId port.ifId).2
            else ofproto.dev }

/-! ## Bundles -/

/-- How a call ends: it returns, or it goes on for ever. -/
inductive Ending
  | returned (errno : Option Errno)
  | endless
  deriving DecidableEq

/-- `bundle_create_remove_hw_lag`. -/
def bundleCreateRemoveHwLag (bridge : Bridge) (xdk : Xdk) (ofproto : Ofproto count)
    (bundle : Bundle count) (s : Settings count) : Option Errno × Ofproto count :=
  if bundle.intfId = bridge.intfInvalidId &&
      (s.hwBondShouldExist || s.bondHandleAllocOnly) then
    match lagCreate xdk ofproto.dev with
    | (none, dev) => (some .EFAULT, { ofproto with dev := dev })
    | (some lagId, dev) =>
        (none, { ofproto with dev := dev }.modify bundle.id fun bundle =>
          { bundle with intfId := lagId, isLag := true })
  else if bundle.intfId ≠ bridge.intfInvalidId && bundle.isLag &&
      !s.hwBondShouldExist then
    (none, (ofproto.lagDestroy bridge xdk bundle.intfId).modify bundle.id
      fun bundle => { bundle with intfId := bridge.intfInvalidId, isLag := false })
  else (none, ofproto)

/-- The list of interfaces that `bundle_update_hw_lag_config` builds, unless a
slave has the wrong type. -/
def lagIfList (bridge : Bridge) (slaves : List Nat) : Option (List Nat) :=
  (slaves.filterMap bridge.port?).mapM fun port =>
    if port.type = .system then some port.ifId else none

/-- `bundle_update_hw_lag_config`.  The slaves are counted with a `uint8_t`, which is 0
again after 256 of them and so never gets past a longer list. -/
def bundleUpdateHwLagConfig (bridge : Bridge) (xdk : Xdk) (dev : Dev)
    (bundle : Bundle count) (s : Settings count) : Ending × Dev :=
  match lagIfList bridge (s.slaves.take 256) with
  | none => (.returned (some .EINVAL), dev)
  | some ifList =>
      if s.slaves.length < 256 then
        let (errno, dev) := lagAttachPorts bridge.toEnv xdk dev bundle.intfId ifList
        (.returned errno, dev)
      else (.endless, dev)

/-- `bundle_update_single_slave_config`. -/
def bundleUpdateSingleSlaveConfig (bridge : Bridge) (xdk : Xdk)
    (ofproto : Ofproto count) (bundle : Bundle count) :
    Option Errno × Ofproto count :=
  match bundle.ports.head?.bind bridge.port? with
  | none => (none, ofproto)
  | some port =>
      if bundle.name ≠ port.name then (none, ofproto)
      else if !port.isXpliantClass then
        (some .EINVAL, bundleDestroy bridge xdk ofproto bundle.id)
      else
        (none, ofproto.modify bundle.id fun bundle =>
          { bundle with intfId := port.ifId })

/-- A bundle as `ofproto_xpliant_bundle_set` makes it. -/
def Bundle.new (bridge : Bridge) (id aux : Nat) (name : String) : Bundle count where
  id := id
  aux := aux
  name := name
  intfId := bridge.intfInvalidId
  isLag := false
  ports := []
  portsUpdated := false
  vlanMode := .access
  vlan := -1
  trunks := none

/-- The bundle of an `aux`, made when there is none, with the name of the
settings. -/
def bundleObtain (bridge : Bridge) (ofproto : Ofproto count) (aux : Nat)
    (name : String) : Nat × Ofproto count :=
  match bundleLookup ofproto aux with
  | some bundle =>
      (bundle.id, ofproto.modify bundle.id fun bundle =>
        { bundle with portsUpdated := false, name := name })
  | none =>
      (ofproto.nextBundle,
        { ofproto with
          bundles := .new bridge ofproto.nextBundle aux name :: ofproto.bundles
          nextBundle := ofproto.nextBundle + 1 })

/-- The L2 part at the end of `ofproto_xpliant_bundle_set`.  The return code of
`bundle_update_vlan_config` is ignored. -/
def bundleConfigureL2 (bridge : Bridge) (xdk : Xdk) (ofproto : Ofproto count)
    (bundle : Bundle count) (s : Settings count) : Option Errno × Ofproto count :=
  let (errno, ofproto) :=
    if !bundle.isLag && s.slaves.length == 1 then
      bundleUpdateSingleSlaveConfig bridge xdk ofproto bundle
    else (none, ofproto)
  match errno, ofproto.bundle? bundle.id with
  | some errno, _ => (some errno, ofproto)
  | none, none => (none, ofproto)
  | none, some bundle =>
      if bundle.intfId ≠ bridge.intfInvalidId then
        let (_, bundle, dev) := bundleUpdateVlanConfig bridge xdk ofproto.dev bundle s
        let dev := devAddIntfEntry dev bundle.intfId bundle.name
        (none, { ofproto with dev := dev }.modify bundle.id fun _ => bundle)
      else (none, ofproto)

/-- `ofproto_xpliant_bundle_set` from the update of the port set on. -/
def bundleSetPorts (bridge : Bridge) (xdk : Xdk) (ofproto : Ofproto count)
    (bundle : Bundle count) (s : Settings count) : Ending × Ofproto count :=
  let ofproto := ((bundle.ports.filter (· ∉ s.slaves)).filterMap bridge.port?).foldl
    (bundleDelPort bridge xdk) ofproto
  let ofproto := s.slaves.foldl (bundleAddPort bridge xdk bundle.id) ofproto
  match ofproto.bundle? bundle.id with
  | none => (.returned none, ofproto)
  | some bundle =>
      if bundle.ports.isEmpty then
        (.returned none, bundleDestroy bridge xdk ofproto bundle.id)
      else
        let (ending, dev) :=
          if bundle.isLag then
            bundleUpdateHwLagConfig bridge xdk ofproto.dev bundle s
          else (.returned none, ofproto.dev)
        let ofproto := { ofproto with dev := dev }
        match ending with
        | .returned none =>
            let (errno, ofproto) := bundleConfigureL2 bridge xdk ofproto bundle s
            (.returned errno, ofproto)
        | ending => (ending, ofproto)

/-- `ofproto_xpliant_bundle_set`, with the state in which it returns or goes on for
ever. -/
def bundleSet (bridge : Bridge) (xdk : Xdk) (ofproto : Ofproto count) (aux : Nat)
    (settings : Option (Settings count)) : Ending × Ofproto count :=
  match settings with
  | none =>
      match bundleLookup ofproto aux with
      | none => (.returned none, ofproto)
      | some bundle => (.returned none, bundleDestroy bridge xdk ofproto bundle.id)
  | some s =>
      let (id, ofproto) := bundleObtain bridge ofproto aux s.name
      match ofproto.bundle? id with
      | none => (.returned none, ofproto)
      | some bundle =>
          let (errno, ofproto) := bundleCreateRemoveHwLag bridge xdk ofproto bundle s
          if s.bondHandleAllocOnly || errno.isSome then (.returned errno, ofproto)
          else
            match ofproto.bundle? id with
            | none => (.returned none, ofproto)
            | some bundle => bundleSetPorts bridge xdk ofproto bundle s

/-! ## VLANs -/

/-- The loop of `ofproto_xpliant_set_vlan` that adds bundles to a new VLAN. -/
def addTrunked (env : Env) (xdk : Xdk) (vid : Nat) :
    List (Bundle count) → Dev → Option Errno × Dev
  | [], dev => (none, dev)
  | bundle :: bundles, dev =>
      if bundle.isTrunked vid then
        match vlanMemberAdd env xdk dev vid bundle.intfId (bundle.encapType vid) with
        | (none, dev) => addTrunked env xdk vid bundles dev
        | (some _, dev) => (some .EPERM, dev)
      else addTrunked env xdk vid bundles dev

/-- The loop of `ofproto_xpliant_set_vlan` that removes bundles from a VLAN. -/
def removeTrunked (env : Env) (xdk : Xdk) (vid : Nat) :
    List (Bundle count) → Dev → Option Errno × Dev
  | [], dev => (none, dev)
  | bundle :: bundles, dev =>
      if bundle.isTrunked vid then
        match vlanMemberRemove env xdk dev vid bundle.intfId with
        | (none, dev) => removeTrunked env xdk vid bundles dev
        | (some _, dev) => (some .EPERM, dev)
      else removeTrunked env xdk vid bundles dev

/-- `ofproto_xpliant_set_vlan`, for a bundle order of the hash table. -/
def setVlan (bridge : Bridge) (xdk : Xdk) (order : Traversal (Bundle count))
    (ofproto : Ofproto count) (vid : Nat) (add : Bool) :
    Option Errno × Ofproto count :=
  let bundles := order.visit ofproto.bundles
  let (errno, dev) :=
    if add then
      let (errno, dev) :=
        if vid ≠ defaultVlanId then vlanCreate bridge.toEnv xdk ofproto.dev vid
        else (none, ofproto.dev)
      match errno with
      | some errno => (some errno, dev)
      | none => addTrunked bridge.toEnv xdk vid bundles dev
    else
      match removeTrunked bridge.toEnv xdk vid bundles ofproto.dev with
      | (some errno, dev) => (some errno, dev)
      | (none, dev) =>
          if vid ≠ defaultVlanId && vlanIsMembershipEmpty bridge.toEnv dev vid then
            vlanRemove bridge.toEnv xdk dev vid
          else (none, dev)
  (errno, { ofproto with dev := dev })

/-! ## Runs -/

/-- The operations of the switch daemon on a bridge.  A VLAN id is a position of
the bitmaps. -/
inductive Event (count : Nat)
  | bundleSet (aux : Nat) (settings : Option (Settings count))
  | bundleRemove (ofpPort : Nat)
  | setVlan (vid : Fin count) (add : Bool)

/-- An operation with the answers of the XDK and the order of the bundles. -/
structure Operation (count : Nat) where
  event : Event count
  xdk : Xdk
  order : Traversal (Bundle count)

/-- The state after an operation. -/
def step (bridge : Bridge) (ofproto : Ofproto bridge.vlanMaxCount)
    (operation : Operation bridge.vlanMaxCount) : Ofproto bridge.vlanMaxCount :=
  match operation.event with
  | .bundleSet aux settings =>
      (bundleSet bridge operation.xdk ofproto aux settings).2
  | .bundleRemove ofpPort =>
      match bridge.port? ofpPort with
      | none => ofproto
      | some port => bundleRemove bridge operation.xdk ofproto port
  | .setVlan vid add =>
      (setVlan bridge operation.xdk operation.order ofproto vid add).2

end Bundles
end XpliantSwitchd
