import Mathlib.Data.Finset.Basic
import XpliantSwitchd.Classifier.Key
import XpliantSwitchd.Lib.KeyedList

/-!
# Classifier lists on interfaces

This module embeds the part of `ops-xp-classifier.c` that applies lists to
interfaces, removes them and replaces them.  A list that is applied anywhere in a
table has one entry in the hash map of that table; the entries of one list in
different tables share an ACL id.  The TCAM manager, the TCAM and the port and
router settings belong to the XDK and are a parameter.
-/

namespace XpliantSwitchd
namespace Classifier

open Ternary

/-- `enum ops_cls_direction`. -/
inductive Direction
  | ingress | egress | other
  deriving DecidableEq, Repr

/-- `OPS_CLS_INTERFACE_*`. -/
inductive InterfaceType
  | port | vlan | other
  deriving DecidableEq, Repr

/-- `struct ops_cls_interface_info`.  `l3Only` is `OPS_CLS_INTERFACE_L3ONLY`. -/
structure InterfaceInfo where
  interface : InterfaceType
  l3Only : Bool
  deriving DecidableEq, Repr

/-- The values of `xpAclType_e` that `ops_xp_cls_get_type` returns. -/
inductive AclType
  | iacl0 | iacl1 | iacl2 | eacl | total
  deriving DecidableEq, Repr

/-- The three hash maps: `classifier_hmap_pacl`, `_bacl` and `_racl`. -/
inductive AclTable
  | pacl | bacl | racl
  deriving DecidableEq, Repr

/-- `ops_xp_cls_get_type`. -/
def clsGetType (info : InterfaceInfo) : Direction → AclType
  | .ingress =>
      match info.interface with
      | .port => .iacl0
      | .vlan => if info.l3Only then .iacl2 else .iacl1
      | .other => .total
  | .egress => .eacl
  | .other => .total

/-- The hash map for a type. -/
def AclType.table : AclType → Option AclTable
  | .iacl0 => some .pacl
  | .iacl1 => some .bacl
  | .iacl2 => some .racl
  | .eacl | .total => none

/-- The type of a table. -/
def AclTable.aclType : AclTable → AclType
  | .pacl => .iacl0
  | .bacl => .iacl1
  | .racl => .iacl2

/-- `struct xp_acl_rule`. -/
structure AclRule where
  ruleId : Nat
  counterEn : Bool
  count : Nat
  deriving DecidableEq

/-- `struct xp_acl_entry`. -/
structure AclEntry (Uuid : Type) where
  listUid : Uuid
  aclId : Byte
  numRules : UInt16
  ruleList : List AclRule
  numIntfs : UInt16
  intfInfo : InterfaceInfo
  clsDirection : Direction
  deriving DecidableEq

/-- `struct ops_cls_list`.  `entries` is `none` for a null pointer. -/
structure ClsList (Uuid : Type) where
  listId : Uuid
  entries : Option (List ListEntry)

/-- `OPS_CLS_STATUS_*`. -/
inductive StatusCode
  | success | hwUnsupportedErr | hwResourceErr | hwConfigErr
  deriving DecidableEq, Repr

/-- `struct ops_cls_pd_status`. -/
structure PdStatus where
  statusCode : StatusCode
  entryId : Nat
  deriving DecidableEq, Repr

/-- `OPS_CLS_STATUS_SUCCESS`, as callers and `ops_xp_cls_acl_add` initialise
it. -/
def PdStatus.success : PdStatus := { statusCode := .success, entryId := 0 }

/-- The fields that `xpsPortSetField` sets here. -/
inductive PortField
  | aclEn | aclId
  deriving DecidableEq, Repr

/-- What the code reads of a bundle: the interface ids of its ports and the id
of its L3 interface. -/
structure BundleView where
  ports : List Nat
  l3Intf : Option Nat
  deriving DecidableEq

/-- The XDK calls on the TCAM manager, the TCAM and the ACL settings.  The code
logs the failure of a write and goes on. -/
structure Xdk (Hw : Type) where
  zeroCmd : PktCmd
  tcamMgrAllocEntry : Hw → AclType → (priority : Nat) → Option Nat × Hw
  tcamMgrTcamIdFromEntryGet : Hw → AclType → (entryId : Nat) → Option Nat
  tcamMgrFreeEntry : Hw → AclType → (entryId : Nat) → Hw
  iaclWriteKey : Hw → AclTable → (tcamId : Nat) → IaclkeyFieldList → Hw
  iaclWriteData : Hw → AclTable → (tcamId : Nat) → IaclData → Hw
  l3SetRouterAclId : Hw → (l3IntfId : Nat) → Byte → Hw
  l3SetRouterAclEnable : Hw → (l3IntfId : Nat) → Bool → Hw
  portSetField : Hw → (intf : Nat) → PortField → Byte → Hw

/-- What `xpsAclIdAllocEntry` returns during an operation, and what the variables
hold that a failed call leaves unset. -/
structure Outcome where
  aclIdAllocEntry : Option Byte
  unsetAclId : Byte
  unsetRuleIndex : Nat → Nat
  unsetTcamId : Nat → Nat

/-- The classifier with the ACL-ID allocator and the hardware behind it. -/
structure Cls (Uuid Hw : Type) where
  classifierHmap : AclTable → List (AclEntry Uuid)
  aclIds : Finset Byte
  hw : Hw

/-- `ops_xp_cls_init`. -/
def clsInit (Uuid : Type) {Hw : Type} (hw : Hw) : Cls Uuid Hw where
  classifierHmap _ := []
  aclIds := ∅
  hw := hw

section Operations

variable {Uuid Hw : Type} [DecidableEq Uuid] (xdk : Xdk Hw) (outcome : Outcome)

/-- `ops_xp_cls_lookup_from_hmap_type`. -/
def clsLookupFromHmapType (clsUid : Uuid) (hmap : List (AclEntry Uuid)) :
    Option (AclEntry Uuid) :=
  hmap.find? (·.listUid == clsUid)

/-- `ops_xp_cls_hmap_lookup`. -/
def clsHmapLookup (cls : Cls Uuid Hw) (clsUid : Uuid) (info : InterfaceInfo)
    (direction : Direction) : Option (AclEntry Uuid) :=
  match (clsGetType info direction).table with
  | some table => clsLookupFromHmapType clsUid (cls.classifierHmap table)
  | none => none

/-! ## Rules -/

/-- Write a rule to the TCAM of a table; there is none for the other types. -/
def writeRule (aclType : AclType) (tcamId : Nat)
    (rule : IaclkeyFieldList × IaclData) (hw : Hw) : Hw :=
  match aclType.table with
  | some table =>
      xdk.iaclWriteData (xdk.iaclWriteKey hw table tcamId rule.1) table tcamId rule.2
  | none => hw

/-- One round of the loop of `ops_xp_cls_create_rule_entry_list`. -/
def createRule (aclType : AclType) (aclId : Byte) (numEntries : Nat)
    (created : List AclRule × Hw) (item : ListEntry × Nat) : List AclRule × Hw :=
  let (entry, i) := item
  let (answer, hw) := xdk.tcamMgrAllocEntry created.2 aclType (numEntries - i)
  let ruleIndex := answer.getD (outcome.unsetRuleIndex i)
  let rule : AclRule :=
    { ruleId := ruleIndex, counterEn := entry.entryActions.count, count := 0 }
  let tcamId := (xdk.tcamMgrTcamIdFromEntryGet hw aclType ruleIndex).getD
    (outcome.unsetTcamId i)
  (created.1 ++ [rule],
    writeRule xdk aclType tcamId (ruleOfEntry xdk.zeroCmd aclId entry) hw)

/-- `ops_xp_cls_create_rule_entry_list`. -/
def clsCreateRuleEntryList (classifier : AclEntry Uuid) (entries : List ListEntry)
    (hw : Hw) : List AclRule × Hw :=
  entries.zipIdx.foldl
    (createRule xdk outcome (clsGetType classifier.intfInfo classifier.clsDirection)
      classifier.aclId entries.length) ([], hw)

/-- One round of the loop of `ops_xp_cls_destroy_rule_entry_list`. -/
def destroyRule (aclType : AclType) (hw : Hw) (rule : AclRule) : Hw :=
  let tcamId := (xdk.tcamMgrTcamIdFromEntryGet hw aclType rule.ruleId).getD
    (outcome.unsetTcamId rule.ruleId)
  let hw := writeRule xdk aclType tcamId (allocResetFieldData xdk.zeroCmd) hw
  xdk.tcamMgrFreeEntry hw aclType rule.ruleId

/-- `ops_xp_cls_destroy_rule_entry_list`. -/
def clsDestroyRuleEntryList (classifier : AclEntry Uuid) (hw : Hw) : Hw :=
  classifier.ruleList.foldl
    (destroyRule xdk outcome (clsGetType classifier.intfInfo classifier.clsDirection))
    hw

/-! ## Entries -/

/-- The entries of the three maps in the order of the searches. -/
def Cls.allEntries (cls : Cls Uuid Hw) : List (AclEntry Uuid) :=
  cls.classifierHmap .pacl ++ cls.classifierHmap .bacl ++ cls.classifierHmap .racl

/-- The ACL id that the three searches of `ops_xp_cls_acl_add` end with. -/
def allocatedAclId (cls : Cls Uuid Hw) (listId : Uuid) : Option Byte :=
  (cls.allEntries.filter (·.listUid == listId)).getLast?.map (·.aclId)

/-- `ops_xp_cls_acl_add` on a new entry for an interface.  The entry goes to no
map when the type has none. -/
def clsAclAdd (cls : Cls Uuid Hw) (list : ClsList Uuid) (info : InterfaceInfo)
    (direction : Direction) : PdStatus × AclEntry Uuid × Cls Uuid Hw :=
  let (status, aclId, aclIds) :=
    match allocatedAclId cls list.listId with
    | some aclId => (PdStatus.success, aclId, cls.aclIds)
    | none =>
        match outcome.aclIdAllocEntry with
        | some aclId => (PdStatus.success, aclId, insert aclId cls.aclIds)
        | none => ({ PdStatus.success with statusCode := .hwResourceErr },
            outcome.unsetAclId, cls.aclIds)
  let aclEntry : AclEntry Uuid :=
    { listUid := list.listId, aclId := aclId, numRules := 0, ruleList := [],
      numIntfs := 0, intfInfo := info, clsDirection := direction }
  let (aclEntry, hw) :=
    match list.entries with
    | some entries =>
        let (rules, hw) := clsCreateRuleEntryList xdk outcome aclEntry entries cls.hw
        ({ aclEntry with
           ruleList := rules, numRules := UInt16.ofNat entries.length }, hw)
    | none => (aclEntry, cls.hw)
  let hmap :=
    match (clsGetType info direction).table with
    | some table => Function.update cls.classifierHmap table
        (aclEntry :: cls.classifierHmap table)
    | none => cls.classifierHmap
  (status, aclEntry, { classifierHmap := hmap, aclIds := aclIds, hw := hw })

/-- `ops_xp_cls_acl_delete` of an entry of a table. -/
def clsAclDelete (cls : Cls Uuid Hw) (aclEntry : AclEntry Uuid) (table : AclTable) :
    Cls Uuid Hw :=
  let hw := clsDestroyRuleEntryList xdk outcome aclEntry cls.hw
  let hmap := Function.update cls.classifierHmap table
    (KeyedList.remove (·.listUid) aclEntry.listUid (cls.classifierHmap table))
  let cls := { cls with classifierHmap := hmap, hw := hw }
  if cls.allEntries.any fun e =>
      e.listUid == aclEntry.listUid && e.aclId == aclEntry.aclId then cls
  else { cls with aclIds := cls.aclIds.erase aclEntry.aclId }

/-- Write `num_intfs` of the entry of a list in a table. -/
def adjustIntfs (cls : Cls Uuid Hw) (table : AclTable) (listId : Uuid)
    (change : UInt16 → UInt16) : Cls Uuid Hw :=
  { cls with
    classifierHmap := Function.update cls.classifierHmap table
      (KeyedList.rewrite (·.listUid) listId
        (fun e => { e with numIntfs := change e.numIntfs })
        (cls.classifierHmap table)) }

/-! ## Apply, remove and replace -/

/-- The operators that `ops_xp_cls_validate_entries` refuses. -/
def L4PortOp.unsupported : L4PortOp → Bool
  | .neq | .lt | .gt | .range => true
  | .none | .eq => false

/-- An entry that `ops_xp_cls_validate_entries` refuses. -/
def ListEntry.unsupported (entry : ListEntry) : Bool :=
  entry.entryFields.l4SrcPortOp.unsupported ||
    entry.entryFields.l4DstPortOp.unsupported

/-- `ops_xp_cls_validate_entries`. -/
def clsValidateEntries (list : ClsList Uuid) (pdStatus : PdStatus) : PdStatus :=
  (list.entries.getD []).zipIdx.foldl (fun status item =>
    if item.1.unsupported then
      { statusCode := .hwUnsupportedErr, entryId := item.2 }
    else status) pdStatus

/-- The check of the bundle with which the operations begin. -/
def bundleReady (bundle : Option BundleView) (info : InterfaceInfo) : Bool :=
  match bundle with
  | none => false
  | some bundle => bundle.l3Intf.isSome || !info.l3Only

/-- Set the ACL of a router interface or of the ports of a bundle. -/
def setInterfaceAcl (bundle : BundleView) (info : InterfaceInfo) (enable : Bool)
    (aclId : Byte) (hw : Hw) : Hw :=
  match info.interface with
  | .vlan =>
      match info.l3Only, bundle.l3Intf with
      | true, some l3Intf =>
          xdk.l3SetRouterAclEnable (xdk.l3SetRouterAclId hw l3Intf aclId) l3Intf enable
      | _, _ => hw
  | .port =>
      bundle.ports.foldl (fun hw intf =>
        xdk.portSetField
          (xdk.portSetField hw intf .aclEn (if enable then 1#8 else 0#8))
          intf .aclId aclId) hw
  | .other => hw

/-- `ops_xp_cls_apply`.  The status of `ops_xp_cls_acl_add` goes to a local
variable and not to the caller. -/
def clsApply (cls : Cls Uuid Hw) (list : ClsList Uuid) (bundle : Option BundleView)
    (info : InterfaceInfo) (direction : Direction) (pdStatus : PdStatus) :
    Option Errno × PdStatus × Cls Uuid Hw :=
  match bundle with
  | none => (some .EPERM, pdStatus, cls)
  | some view =>
      if !bundleReady bundle info then (some .EPERM, pdStatus, cls)
      else
        let pdStatus := clsValidateEntries list pdStatus
        if pdStatus.statusCode = .hwUnsupportedErr then (none, pdStatus, cls)
        else
          let (aclEntry, cls) :=
            match clsHmapLookup cls list.listId info direction with
            | some aclEntry => (aclEntry, cls)
            | none => (clsAclAdd xdk outcome cls list info direction).2
          let cls := { cls with
            hw := setInterfaceAcl xdk view info true aclEntry.aclId cls.hw }
          match (clsGetType info direction).table with
          | some table => (none, pdStatus, adjustIntfs cls table list.listId (· + 1))
          | none => (none, pdStatus, cls)

/-- `ops_xp_cls_remove`. -/
def clsRemove (cls : Cls Uuid Hw) (listId : Uuid) (bundle : Option BundleView)
    (info : InterfaceInfo) (direction : Direction) : Option Errno × Cls Uuid Hw :=
  match bundle with
  | none => (some .EPERM, cls)
  | some view =>
      if !bundleReady bundle info then (some .EPERM, cls)
      else
        match (clsGetType info direction).table,
            clsHmapLookup cls listId info direction with
        | some table, some aclEntry =>
            let cls := { cls with hw := setInterfaceAcl xdk view info false 0#8 cls.hw }
            let cls := adjustIntfs cls table listId (· - 1)
            if aclEntry.numIntfs - 1 = 0 then
              (none, clsAclDelete xdk outcome cls aclEntry table)
            else (none, cls)
        | _, _ => (none, cls)

/-- `ops_xp_cls_replace`. -/
def clsReplace (cls : Cls Uuid Hw) (listIdOrig : Uuid) (listNew : ClsList Uuid)
    (bundle : Option BundleView) (info : InterfaceInfo) (direction : Direction)
    (pdStatus : PdStatus) : Option Errno × PdStatus × Cls Uuid Hw :=
  match bundle with
  | none => (some .EPERM, pdStatus, cls)
  | some view =>
      if !bundleReady bundle info then (some .EPERM, pdStatus, cls)
      else
        match (clsGetType info direction).table,
            clsHmapLookup cls listIdOrig info direction with
        | some table, some aclEntry =>
            let cls := { cls with hw := setInterfaceAcl xdk view info false 0#8 cls.hw }
            let cls := adjustIntfs cls table listIdOrig (· - 1)
            let (_, pdStatus, cls) :=
              clsApply xdk outcome cls listNew bundle info direction pdStatus
            if pdStatus.statusCode = .success then
              match clsLookupFromHmapType listIdOrig (cls.classifierHmap table) with
              | some aclEntry =>
                  if aclEntry.numIntfs = 0 then
                    (none, pdStatus, clsAclDelete xdk outcome cls aclEntry table)
                  else (none, pdStatus, cls)
              | none => (none, pdStatus, cls)
            else
              let cls := { cls with
                hw := setInterfaceAcl xdk view info true aclEntry.aclId cls.hw }
              (none, pdStatus, adjustIntfs cls table listIdOrig (· + 1))
        | _, _ => (none, pdStatus, cls)

end Operations

end Classifier
end XpliantSwitchd
