import XpliantSwitchd.Basic
import XpliantSwitchd.Lib.KeyedList
import Mathlib.Logic.Function.Basic

/-!
# The VLAN manager

This module embeds `ops-xp-vlan.c` and the device it writes to.  A call of the
XDK is a numbered step that succeeds with its effect on the hardware or fails
without one, so every pattern of failures is covered.
-/

namespace XpliantSwitchd
namespace Vlans

/-- `xpL2EncapType_e`.  The plugin names two of its values. -/
inductive EncapType
  | untagged | tagged | other (code : Nat)
  deriving DecidableEq

/-- `struct xp_vlan_member_entry`; `intfId` is the hash of its node. -/
structure Member where
  intfId : Nat
  encapType : EncapType
  deriving DecidableEq

/-- `struct xp_vlan`, without the tables of tunnel VNIs. -/
structure Vlan where
  isExisting : Bool
  members : List Member
  deriving DecidableEq

/-- `xpsPortFrameType_e`. -/
inductive FrameType
  | all | unPri
  deriving DecidableEq

/-- The part of `xpsPortConfig_t` that the plugin writes. -/
structure PortConfig where
  pvid : Nat
  pvidModeAllPkt : Bool
  deriving DecidableEq

/-- The hardware: VLANs with their members, LAGs with their ports, ports and
interfaces. -/
structure Hw where
  vlans : Nat → Option (List Member)
  lags : List (Nat × List Nat)
  ports : Nat → PortConfig
  frameTypes : Nat → FrameType

/-- A device with the table of its VLAN manager.  `calls` counts the calls of
the XDK. -/
structure Dev where
  table : Nat → Vlan
  ifIdToName : List (Nat × String)
  hw : Hw
  calls : Nat

/-- `XP_DEFAULT_VLAN_ID`. -/
def defaultVlanId : Nat := 1

/-- What the code takes from the XDK's headers and from other parts of the
plugin.  VLAN ids fit a bitmap and the default VLAN has a valid id. -/
structure Env where
  vlanMinId : Nat
  vlanMaxId : Nat
  vlanMaxCount : Nat
  isTunnelIntf : Nat → Bool
  encapOfBool : Bool → EncapType
  intfInvalidId : Nat
  netdevFromPortNum : Nat → Bool
  min_le_default : vlanMinId ≤ defaultVlanId
  default_le_max : defaultVlanId ≤ vlanMaxId
  max_lt_count : vlanMaxId < vlanMaxCount
  count_le : vlanMaxCount ≤ 2 ^ 16

/-- The answers of the XDK, by the number of the call. -/
structure Xdk where
  succeeds : Nat → Bool
  lagCreate : Nat → Nat

/-- A call of the XDK with its effect on the hardware. -/
def Dev.call (xdk : Xdk) (effect : Hw → Hw) (dev : Dev) : Bool × Dev :=
  if xdk.succeeds dev.calls then
    (true, { dev with hw := effect dev.hw, calls := dev.calls + 1 })
  else (false, { dev with calls := dev.calls + 1 })

/-- Change the members of a VLAN of the hardware. -/
def Hw.onVlan (vlanId : Nat) (change : List Member → List Member) (hw : Hw) : Hw :=
  { hw with
    vlans := Function.update hw.vlans vlanId ((hw.vlans vlanId).map change) }

/-! ## Predicates -/

/-- `ops_xp_is_vlan_id_valid`. -/
def isVlanIdValid (env : Env) (vlanId : Nat) : Bool :=
  env.vlanMinId ≤ vlanId && vlanId ≤ env.vlanMaxId

/-- `ops_xp_vlan_is_existing`. -/
def vlanIsExisting (env : Env) (dev : Dev) (vlanId : Nat) : Bool :=
  isVlanIdValid env vlanId && (dev.table vlanId).isExisting

/-- `vlan_member_lookup`. -/
def vlanMemberLookup (env : Env) (dev : Dev) (vlanId intfId : Nat) : Option Member :=
  if vlanIsExisting env dev vlanId then
    (dev.table vlanId).members.find? (·.intfId == intfId)
  else none

/-- `ops_xp_vlan_port_is_member`. -/
def vlanPortIsMember (env : Env) (dev : Dev) (vlanId intfId : Nat) : Bool :=
  (vlanMemberLookup env dev vlanId intfId).isSome

/-- `ops_xp_vlan_port_is_tagged_member`. -/
def vlanPortIsTaggedMember (env : Env) (dev : Dev) (vlanId intfId : Nat) : Bool :=
  (vlanMemberLookup env dev vlanId intfId).any (·.encapType == .tagged)

/-- `ops_xp_vlan_port_is_untagged_member`. -/
def vlanPortIsUntaggedMember (env : Env) (dev : Dev) (vlanId intfId : Nat) : Bool :=
  (vlanMemberLookup env dev vlanId intfId).any (·.encapType == .untagged)

/-- `ops_xp_vlan_is_membership_empty`. -/
def vlanIsMembershipEmpty (env : Env) (dev : Dev) (vlanId : Nat) : Bool :=
  if vlanIsExisting env dev vlanId then (dev.table vlanId).members.isEmpty else true

/-! ## VLANs -/

/-- Write an entry of the table. -/
def Dev.setVlan (dev : Dev) (vlanId : Nat) (vlan : Vlan) : Dev :=
  { dev with table := Function.update dev.table vlanId vlan }

/-- `ops_xp_vlan_create`. -/
def vlanCreate (env : Env) (xdk : Xdk) (dev : Dev) (vlanId : Nat) :
    Option Errno × Dev :=
  if !isVlanIdValid env vlanId then (some Errno.ENXIO, dev)
  else if (dev.table vlanId).isExisting then (some .EEXIST, dev)
  else
    let (created, dev) := dev.call xdk fun hw =>
      { hw with vlans := Function.update hw.vlans vlanId (some []) }
    if !created then (some .EPERM, dev)
    else
      let (gotConfig, dev) := dev.call xdk id
      if !gotConfig then (some .EPERM, dev)
      else
        let (_, dev) := dev.call xdk id
        let (setConfig, dev) := dev.call xdk id
        if !setConfig then (some .EPERM, dev)
        else
          (none, dev.setVlan vlanId { dev.table vlanId with isExisting := true })

/-- `ops_xp_vlan_remove`. -/
def vlanRemove (env : Env) (xdk : Xdk) (dev : Dev) (vlanId : Nat) :
    Option Errno × Dev :=
  if !vlanIsExisting env dev vlanId then (none, dev)
  else
    let dev := dev.setVlan vlanId { isExisting := false, members := [] }
    let (destroyed, dev) := dev.call xdk fun hw =>
      { hw with vlans := Function.update hw.vlans vlanId none }
    if destroyed then (none, dev) else (some .EPERM, dev)

/-! ## Members -/

/-- `ops_xp_vlan_member_add`. -/
def vlanMemberAdd (env : Env) (xdk : Xdk) (dev : Dev) (vlanId intfId : Nat)
    (encapType : EncapType) : Option Errno × Dev :=
  if !vlanIsExisting env dev vlanId then (some Errno.ENXIO, dev)
  else if vlanPortIsMember env dev vlanId intfId then (none, dev)
  else
    let (added, dev) := dev.call xdk (Hw.onVlan vlanId (⟨intfId, encapType⟩ :: ·))
    if !added then (some .EPERM, dev)
    else
      let vlan := dev.table vlanId
      (none, dev.setVlan vlanId
        { vlan with members := ⟨intfId, encapType⟩ :: vlan.members })

/-- `ops_xp_vlan_member_remove`.  The flush of learned MAC addresses at its end
is not part of this model. -/
def vlanMemberRemove (env : Env) (xdk : Xdk) (dev : Dev) (vlanId intfId : Nat) :
    Option Errno × Dev :=
  if !vlanIsExisting env dev vlanId then (some Errno.ENXIO, dev)
  else
    match vlanMemberLookup env dev vlanId intfId with
    | none => (none, dev)
    | some _ =>
        let (disabled, dev) :=
          if env.isTunnelIntf intfId then (true, dev) else dev.call xdk id
        if !disabled then (some .EPERM, dev)
        else
          let (removed, dev) := dev.call xdk
            (Hw.onVlan vlanId (List.eraseP (·.intfId == intfId)))
          if !removed then (some .EPERM, dev)
          else
            let vlan := dev.table vlanId
            (none, dev.setVlan vlanId
              { vlan with members := vlan.members.eraseP (·.intfId == intfId) })

/-- The loop of `ops_xp_vlan_members_remove_all`. -/
def removeMembers (env : Env) (xdk : Xdk) (vlanId : Nat) :
    List Member → Dev → Option Errno × Dev
  | [], dev => (none, dev)
  | member :: members, dev =>
      match vlanMemberRemove env xdk dev vlanId member.intfId with
      | (none, dev) => removeMembers env xdk vlanId members dev
      | (some errno, dev) => (some errno, dev)

/-- `ops_xp_vlan_members_remove_all`.  The table shrinks during the iteration, so
which nodes are visited depends on its buckets: `visit` tells. -/
def vlanMembersRemoveAll (env : Env) (xdk : Xdk) (visit : List Member → List Member)
    (dev : Dev) (vlanId : Nat) : Option Errno × Dev :=
  if !vlanIsExisting env dev vlanId then (some Errno.ENXIO, dev)
  else removeMembers env xdk vlanId (visit (dev.table vlanId).members) dev

/-- `ops_xp_vlan_member_set_tagging`.  The flag is passed on as an
encapsulation type. -/
def vlanMemberSetTagging (env : Env) (xdk : Xdk) (dev : Dev) (vlanId intfId : Nat)
    (tagging : Bool) : Option Errno × Dev :=
  if !vlanIsExisting env dev vlanId then (some Errno.ENXIO, dev)
  else
    let isTagged := vlanPortIsTaggedMember env dev vlanId intfId
    let isUntagged := vlanPortIsUntaggedMember env dev vlanId intfId
    if isTagged && tagging then (none, dev)
    else if !isTagged && isUntagged && !tagging then (none, dev)
    else if !isTagged && !isUntagged then (some .EOPNOTSUPP, dev)
    else
      match vlanMemberRemove env xdk dev vlanId intfId with
      | (some errno, dev) => (some errno, dev)
      | (none, dev) =>
          vlanMemberAdd env xdk dev vlanId intfId (env.encapOfBool tagging)

/-- The loop of `ops_xp_vlan_port_clear_all_membership`. -/
def clearMembership (env : Env) (xdk : Xdk) (intfId : Nat) :
    List Nat → Dev → Option Errno × Dev
  | [], dev => (none, dev)
  | vlanId :: vlanIds, dev =>
      if !vlanIsExisting env dev vlanId then
        clearMembership env xdk intfId vlanIds dev
      else
        match vlanMemberRemove env xdk dev vlanId intfId with
        | (none, dev) => clearMembership env xdk intfId vlanIds dev
        | (some errno, dev) => (some errno, dev)

/-- The valid VLAN ids in increasing order. -/
def vlanIds (env : Env) : List Nat :=
  List.range' env.vlanMinId (env.vlanMaxId + 1 - env.vlanMinId)

/-- `ops_xp_vlan_port_clear_all_membership`. -/
def vlanPortClearAllMembership (env : Env) (xdk : Xdk) (dev : Dev) (intfId : Nat) :
    Option Errno × Dev :=
  clearMembership env xdk intfId (vlanIds env) dev

end Vlans
end XpliantSwitchd
