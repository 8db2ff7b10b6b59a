import Mathlib.Data.Fintype.Defs
import Mathlib.Tactic.IntervalCases
import XpliantSwitchd.Basic
import XpliantSwitchd.Lib.Ternary

/-!
# The TCAM key of a classifier rule

This module embeds the encoder of `ops-xp-classifier.c`: the field list that
matches every packet, and the functions that write the conditions of one list
entry and the ACL id into it.  The host has the least significant byte first, as
the key of the hardware has, and only the IPv4 addresses come in network order.
-/

namespace XpliantSwitchd
namespace Classifier

open Ternary

/-- `xpIaclV4KeyFlds`, in the order of the comments of `iaclV4KeyByteMask`. -/
inductive V4Fld
  | keyType | aclId | macDa | macSa | etherType | ctag | stag | dip | sip
  | l4SrcPort | l4DestPort | ivif | icmpCode | icmpMsgType | protocol | dscpEcn
  | bd | ttl | pktLen | tcpFlags | vrfId | fragment
  deriving DecidableEq, Repr

/-- `iaclV4KeyByteMask`. -/
def iaclV4KeyByteMask : V4Fld → Nat
  | .keyType => 0x1
  | .aclId => 0x1
  | .macDa => 0x3f
  | .macSa => 0x3f
  | .etherType => 0x3
  | .ctag => 0x3
  | .stag => 0x3
  | .dip => 0xf
  | .sip => 0xf
  | .l4SrcPort => 0x3
  | .l4DestPort => 0x3
  | .ivif => 0x3
  | .icmpCode => 0x1
  | .icmpMsgType => 0x1
  | .protocol => 0x1
  | .dscpEcn => 0x1
  | .bd => 0x3
  | .ttl => 0x1
  | .pktLen => 0x1
  | .tcpFlags => 0x1
  | .vrfId => 0x3
  | .fragment => 0x1

/-- `ops_v4_key_fields`. -/
inductive KeyField
  | keyTypeV4 | id | macDa | macSa | v4EtherType | dipV4 | sipV4 | l4DestPort
  | l4SrcPort | ivif | icmpCode | icmpMsgType | protocol | dscpEcn | bd
  deriving DecidableEq, Repr

/-- All key fields. -/
def KeyField.all : List KeyField :=
  [.keyTypeV4, .id, .macDa, .macSa, .v4EtherType, .dipV4, .sipV4, .l4DestPort,
    .l4SrcPort, .ivif, .icmpCode, .icmpMsgType, .protocol, .dscpEcn, .bd]

instance : Fintype KeyField where
  elems := ⟨KeyField.all, by decide⟩
  complete field := by cases field <;> decide

/-- The fields of `iacl_key_v4`. -/
def KeyField.v4Field : KeyField → V4Fld
  | .keyTypeV4 => .keyType
  | .id => .aclId
  | .macDa => .macDa
  | .macSa => .macSa
  | .v4EtherType => .etherType
  | .dipV4 => .dip
  | .sipV4 => .sip
  | .l4DestPort => .l4DestPort
  | .l4SrcPort => .l4SrcPort
  | .ivif => .ivif
  | .icmpCode => .icmpCode
  | .icmpMsgType => .icmpMsgType
  | .protocol => .protocol
  | .dscpEcn => .dscpEcn
  | .bd => .bd

/-- The loop that counts the bytes of a mask.  A `uint32_t` is zero after 32
shifts. -/
def countBytes : (shifts byteMask : Nat) → Nat
  | 0, _ => 0
  | shifts + 1, byteMask =>
      if byteMask = 0 then 0
      else byteMask % 2 + countBytes shifts (byteMask / 2)

/-- The size of a field in bytes, as it is left in `iacl_key_v4`. -/
def KeyField.size (field : KeyField) : Nat :=
  countBytes 32 (iaclV4KeyByteMask field.v4Field)

/-- `xpIaclkeyField_t`. -/
structure IaclkeyField where
  v4Fld : V4Fld
  value : List Byte
  mask : List Byte
  deriving DecidableEq

/-- `xpsIaclkeyFieldList_t`. -/
structure IaclkeyFieldList where
  isValid : Bool
  fldList : KeyField → IaclkeyField

/-- `xpsIaclData_t`. -/
structure IaclData where
  isTerminal : Bool
  enPktCmdUpd : Bool
  pktCmd : PktCmd
  deriving DecidableEq

/-- The fields that an entry can ask for. -/
inductive MatchFlag
  | srcIpaddr | destIpaddr | l4SrcPort | l4DestPort | protocol | tos | tcpFlags
  | icmpCode | icmpType | vlan | srcMac | dstMac | l2Ethertype | l2Cos
  deriving DecidableEq, Repr

/-- The operators on L4 ports. -/
inductive L4PortOp
  | none | eq | neq | lt | gt | range
  deriving DecidableEq, Repr

/-- The match fields of `struct ops_cls_list_entry`.  Addresses are as they lie
in memory, in network order. -/
structure EntryFields where
  entryFlags : MatchFlag → Bool
  srcIpAddress : BitVec 32
  srcIpAddressMask : BitVec 32
  dstIpAddress : BitVec 32
  dstIpAddressMask : BitVec 32
  l4SrcPortMin : BitVec 16
  l4SrcPortOp : L4PortOp
  l4DstPortMin : BitVec 16
  l4DstPortOp : L4PortOp
  protocol : Byte
  tos : Byte
  tosMask : Byte
  icmpCode : Byte
  icmpType : Byte
  vlan : BitVec 16
  l2Ethertype : BitVec 16

/-- The action flags of an entry. -/
structure EntryActions where
  permit : Bool
  deny : Bool
  count : Bool

/-- `struct ops_cls_list_entry`. -/
structure ListEntry where
  entryFields : EntryFields
  entryActions : EntryActions

/-! ## The encoder -/

/-- A field that is not compared. -/
def IaclkeyField.reset (field : KeyField) : IaclkeyField where
  v4Fld := field.v4Field
  value := List.replicate field.size 0#8
  mask := List.replicate field.size 0xff#8

/-- `ops_xp_alloc_reset_field_data`: a key that is not valid and compares
nothing, and empty data. -/
def allocResetFieldData (zeroCmd : PktCmd) : IaclkeyFieldList × IaclData :=
  ({ isValid := false, fldList := IaclkeyField.reset },
   { isTerminal := false, enPktCmdUpd := false, pktCmd := zeroCmd })

/-- `ops_xp_cls_reverse_byte_order`. -/
def clsReverseByteOrder (src : BitVec 32) : BitVec 32 :=
  ((src >>> 24) &&& 0xff#32) ||| ((src <<< 8) &&& 0xff0000#32) |||
    ((src >>> 8) &&& 0xff00#32) ||| ((src <<< 24) &&& 0xff000000#32)

/-- Rewrite a field when a flag is set. -/
def IaclkeyFieldList.writeWhen (key : IaclkeyFieldList) (flag : Bool)
    (field : KeyField) (write : IaclkeyField → IaclkeyField) : IaclkeyFieldList :=
  if flag then
    { key with
      fldList := Function.update key.fldList field (write (key.fldList field)) }
  else key

/-- Copy a value and compare all of its bits. -/
def writeExact {width : Nat} (field : KeyField) (value : BitVec width)
    (old : IaclkeyField) : IaclkeyField where
  v4Fld := field.v4Field
  value := memcpy old.value (store field.size value) field.size
  mask := memset old.mask 0#8 field.size

/-- Copy an address and its mask in reverse byte order, the mask inverted. -/
def writeAddress (field : KeyField) (address addressMask : BitVec 32)
    (old : IaclkeyField) : IaclkeyField where
  v4Fld := field.v4Field
  value := memcpy old.value (store field.size (clsReverseByteOrder address))
    field.size
  mask := memcpy old.mask
    (store field.size (0xffffffff#32 ^^^ clsReverseByteOrder addressMask))
    field.size

/-- Copy the type of service and its mask. -/
def writeTos (tos tosMask : Byte) (old : IaclkeyField) : IaclkeyField where
  v4Fld := KeyField.dscpEcn.v4Field
  value := memcpy old.value (store KeyField.dscpEcn.size tos) KeyField.dscpEcn.size
  mask := memcpy old.mask (store KeyField.dscpEcn.size tosMask)
    KeyField.dscpEcn.size

/-- The key part of `ops_xp_cls_populate_iacl_entires`. -/
def populateKey (entry : EntryFields) (key : IaclkeyFieldList) : IaclkeyFieldList :=
  let flags := entry.entryFlags
  let key := key.writeWhen (flags .srcIpaddr) .sipV4
    (writeAddress .sipV4 entry.srcIpAddress entry.srcIpAddressMask)
  let key := key.writeWhen (flags .destIpaddr) .dipV4
    (writeAddress .dipV4 entry.dstIpAddress entry.dstIpAddressMask)
  let key := key.writeWhen (flags .l4SrcPort) .l4SrcPort
    (writeExact .l4SrcPort entry.l4SrcPortMin)
  let key := key.writeWhen (flags .l4DestPort) .l4DestPort
    (writeExact .l4DestPort entry.l4DstPortMin)
  let key := key.writeWhen (flags .protocol) .protocol
    (writeExact .protocol entry.protocol)
  let key := key.writeWhen (flags .tos) .dscpEcn (writeTos entry.tos entry.tosMask)
  let key := key.writeWhen (flags .icmpCode) .icmpCode
    (writeExact .icmpCode entry.icmpCode)
  let key := key.writeWhen (flags .icmpType) .icmpMsgType
    (writeExact .icmpMsgType entry.icmpType)
  let key := key.writeWhen (flags .vlan) .bd (writeExact .bd entry.vlan)
  key.writeWhen (flags .l2Ethertype) .v4EtherType
    (writeExact .v4EtherType entry.l2Ethertype)

/-- The data part of `ops_xp_cls_populate_iacl_entires`. -/
def populateData (actions : EntryActions) (data : IaclData) : IaclData where
  isTerminal := true
  enPktCmdUpd := true
  pktCmd := if actions.permit then .fwd else if actions.deny then .drop else data.pktCmd

/-- `ops_xp_cls_populate_iacl_entires`. -/
def populateIaclEntires (entry : ListEntry) (rule : IaclkeyFieldList × IaclData) :
    IaclkeyFieldList × IaclData :=
  (populateKey entry.entryFields rule.1, populateData entry.entryActions rule.2)

/-- The key and the data that `ops_xp_cls_create_rule_entry_list` writes for one
entry. -/
def ruleOfEntry (zeroCmd : PktCmd) (aclId : Byte) (entry : ListEntry) :
    IaclkeyFieldList × IaclData :=
  let (key, data) := allocResetFieldData zeroCmd
  let (key, data) := populateIaclEntires entry ({ key with isValid := true }, data)
  (key.writeWhen true .id fun old =>
    { v4Fld := KeyField.id.v4Field
      value := memset old.value aclId 1
      mask := memset old.mask 0#8 1 }, data)

/-! ## Packets -/

/-- What the hardware takes from a packet to compare with a key.  Addresses are
in network order. -/
structure Packet where
  keyType : Byte
  aclId : Byte
  macDa : BitVec 48
  macSa : BitVec 48
  etherType : BitVec 16
  dstIp : BitVec 32
  srcIp : BitVec 32
  l4DestPort : BitVec 16
  l4SrcPort : BitVec 16
  ivif : BitVec 16
  icmpCode : Byte
  icmpType : Byte
  protocol : Byte
  tos : Byte
  vlan : BitVec 16

/-- The packet's bytes at the place of a key field. -/
def Packet.keyBytes (packet : Packet) : KeyField → List Byte
  | .keyTypeV4 => store 1 packet.keyType
  | .id => store 1 packet.aclId
  | .macDa => store 6 packet.macDa
  | .macSa => store 6 packet.macSa
  | .v4EtherType => store 2 packet.etherType
  | .dipV4 => store 4 (clsReverseByteOrder packet.dstIp)
  | .sipV4 => store 4 (clsReverseByteOrder packet.srcIp)
  | .l4DestPort => store 2 packet.l4DestPort
  | .l4SrcPort => store 2 packet.l4SrcPort
  | .ivif => store 2 packet.ivif
  | .icmpCode => store 1 packet.icmpCode
  | .icmpMsgType => store 1 packet.icmpType
  | .protocol => store 1 packet.protocol
  | .dscpEcn => store 1 packet.tos
  | .bd => store 2 packet.vlan

/-- A valid key matches a packet on all fields. -/
def IaclkeyFieldList.Matches (key : IaclkeyFieldList) (packet : Packet) : Prop :=
  key.isValid = true ∧ ∀ field, bytesMatch (key.fldList field).value
    (key.fldList field).mask (packet.keyBytes field) = true

instance (key : IaclkeyFieldList) (packet : Packet) :
    Decidable (key.Matches packet) :=
  inferInstanceAs (Decidable (_ ∧ _))

/-! ## What a rule matches -/

/-- The flags of fields that the encoder puts into the key. -/
def MatchFlag.isHandled : MatchFlag → Bool
  | .tcpFlags | .srcMac | .dstMac | .l2Cos => false
  | _ => true

/-- The match fields of an entry that asks only for what the encoder handles. -/
structure HandledFields extends EntryFields where
  handled : ∀ flag, entryFlags flag = true → flag.isHandled = true
  l4SrcPortEq : entryFlags .l4SrcPort = true → l4SrcPortOp = .eq
  l4DestPortEq : entryFlags .l4DestPort = true → l4DstPortOp = .eq

/-- A packet agrees with an entry on every flagged field except the type of
service, on the bits that the entry's mask selects. -/
structure AgreesButTos (entry : EntryFields) (packet : Packet) : Prop where
  srcIp : entry.entryFlags .srcIpaddr = true →
    (entry.srcIpAddress ^^^ packet.srcIp) &&& entry.srcIpAddressMask = 0#32
  dstIp : entry.entryFlags .destIpaddr = true →
    (entry.dstIpAddress ^^^ packet.dstIp) &&& entry.dstIpAddressMask = 0#32
  l4SrcPort : entry.entryFlags .l4SrcPort = true →
    entry.l4SrcPortMin = packet.l4SrcPort
  l4DestPort : entry.entryFlags .l4DestPort = true →
    entry.l4DstPortMin = packet.l4DestPort
  protocol : entry.entryFlags .protocol = true → entry.protocol = packet.protocol
  icmpCode : entry.entryFlags .icmpCode = true → entry.icmpCode = packet.icmpCode
  icmpType : entry.entryFlags .icmpType = true → entry.icmpType = packet.icmpType
  vlan : entry.entryFlags .vlan = true → entry.vlan = packet.vlan
  etherType : entry.entryFlags .l2Ethertype = true →
    entry.l2Ethertype = packet.etherType

/-- A packet agrees with an entry on every flagged field. -/
structure Agrees (entry : EntryFields) (packet : Packet) : Prop
    extends AgreesButTos entry packet where
  tos : entry.entryFlags .tos = true →
    (entry.tos ^^^ packet.tos) &&& entry.tosMask = 0#8

@[simp] theorem writeWhen_fldList_self (key : IaclkeyFieldList) (flag : Bool)
    (field : KeyField) (write : IaclkeyField → IaclkeyField) :
    (key.writeWhen flag field write).fldList field =
      if flag then write (key.fldList field) else key.fldList field := by
  cases flag <;> simp [IaclkeyFieldList.writeWhen]

@[simp] theorem writeWhen_fldList_other (key : IaclkeyFieldList) (flag : Bool)
    {field other : KeyField} (write : IaclkeyField → IaclkeyField)
    (different : other ≠ field) :
    (key.writeWhen flag field write).fldList other = key.fldList other := by
  cases flag <;> simp [IaclkeyFieldList.writeWhen, different]

@[simp] theorem writeWhen_isValid (key : IaclkeyFieldList) (flag : Bool)
    (field : KeyField) (write : IaclkeyField → IaclkeyField) :
    (key.writeWhen flag field write).isValid = key.isValid := by
  cases flag <;> rfl

/-- A field of a key compared with the bytes of a packet. -/
def IaclkeyField.Compares (data : IaclkeyField) (input : List Byte) : Prop :=
  bytesMatch data.value data.mask input = true

theorem reset_compares (field : KeyField) (input : List Byte) :
    (IaclkeyField.reset field).Compares input :=
  bytesMatch_wildcard ..

theorem writeExact_compares {width : Nat} (field : KeyField) (flag : Bool)
    (value input : BitVec width)
    (fits : width ≤ 8 * field.size) :
    (if flag then writeExact field value (.reset field) else .reset field
      : IaclkeyField).Compares (store field.size input) ↔
      (flag = true → value = input) := by
  cases flag with
  | false => simp [reset_compares]
  | true =>
      simp only [if_true, forall_const, IaclkeyField.Compares, writeExact,
        IaclkeyField.reset]
      rw [memcpy_store value List.length_replicate,
        memset_all 0#8 List.length_replicate]
      exact bytesMatch_exact fits value input

/-- Byte `i` goes to byte `3 - i`. -/
theorem getLsbD_clsReverseByteOrder (word : BitVec 32) {bit : Nat}
    (bound : bit < 32) :
    (clsReverseByteOrder word).getLsbD bit =
      word.getLsbD (8 * (3 - bit / 8) + bit % 8) := by
  unfold clsReverseByteOrder
  interval_cases bit <;> simp

theorem clsReverseByteOrder_compare (value input mask : BitVec 32) :
    (clsReverseByteOrder value ^^^ clsReverseByteOrder input) &&&
        clsReverseByteOrder mask = 0#32 ↔
      (value ^^^ input) &&& mask = 0#32 := by
  have reversed : ∀ word other third : BitVec 32,
      (word ^^^ other) &&& third = 0#32 →
      (clsReverseByteOrder word ^^^ clsReverseByteOrder other) &&&
        clsReverseByteOrder third = 0#32 := by
    intro word other third equal
    apply BitVec.eq_of_getLsbD_eq
    intro bit bound
    have atBit := congrArg (BitVec.getLsbD · (8 * (3 - bit / 8) + bit % 8)) equal
    simpa [getLsbD_clsReverseByteOrder _ bound] using atBit
  have twice : ∀ word, clsReverseByteOrder (clsReverseByteOrder word) = word := by
    intro word
    apply BitVec.eq_of_getLsbD_eq
    intro bit bound
    have inside : 8 * (3 - bit / 8) + bit % 8 < 32 := by omega
    have back : 8 * (3 - (8 * (3 - bit / 8) + bit % 8) / 8) +
        (8 * (3 - bit / 8) + bit % 8) % 8 = bit := by omega
    rw [getLsbD_clsReverseByteOrder _ bound, getLsbD_clsReverseByteOrder _ inside,
      back]
  constructor
  · intro equal
    have again := reversed _ _ _ equal
    rwa [twice, twice, twice] at again
  · exact reversed value input mask

theorem writeAddress_compares {field : KeyField} (flag : Bool)
    (address addressMask input : BitVec 32)
    (sized : field.size = 4) :
    (if flag then writeAddress field address addressMask (.reset field)
      else .reset field : IaclkeyField).Compares
        (store 4 (clsReverseByteOrder input)) ↔
      (flag = true → (address ^^^ input) &&& addressMask = 0#32) := by
  cases flag with
  | false => simp [reset_compares]
  | true =>
      simp only [if_true, forall_const, IaclkeyField.Compares, writeAddress,
        IaclkeyField.reset, sized]
      rw [memcpy_store _ List.length_replicate,
        memcpy_store _ List.length_replicate, bytesMatch_store (by decide)]
      have inverted : ~~~(0xffffffff#32 ^^^ clsReverseByteOrder addressMask) =
          clsReverseByteOrder addressMask := by
        have ones : 0xffffffff#32 = BitVec.allOnes 32 := by decide
        rw [ones, BitVec.allOnes_xor, BitVec.not_not]
      rw [inverted]
      exact clsReverseByteOrder_compare address input addressMask

theorem writeTos_compares (flag : Bool) (tos tosMask input : Byte) :
    (if flag then writeTos tos tosMask (.reset .dscpEcn) else .reset .dscpEcn
      : IaclkeyField).Compares (store 1 input) ↔
      (flag = true → (tos ^^^ input) &&& ~~~tosMask = 0#8) := by
  have sized : KeyField.dscpEcn.size = 1 := by decide
  cases flag with
  | false => simp [reset_compares]
  | true =>
      simp only [if_true, forall_const, IaclkeyField.Compares, writeTos,
        IaclkeyField.reset, sized]
      rw [memcpy_store _ List.length_replicate,
        memcpy_store _ List.length_replicate, bytesMatch_store (by decide)]

theorem writeAclId_compares (aclId input : Byte) :
    bytesMatch (memset (IaclkeyField.reset .id).value aclId 1)
      (memset (IaclkeyField.reset .id).mask 0#8 1) (store 1 input) = true ↔
      input = aclId := by
  have single : List.replicate 1 aclId = store 1 aclId := by
    simp [store]
  rw [memset_all aclId (by decide), memset_all 0#8 (by decide), single,
    bytesMatch_exact (by decide)]
  exact eq_comm

/-- The code's comparison of the type of service. -/
def TosCompared (entry : EntryFields) (packet : Packet) : Prop :=
  entry.entryFlags .tos = true → (entry.tos ^^^ packet.tos) &&& ~~~entry.tosMask = 0#8

section Rule

variable (zeroCmd : PktCmd) (aclId : Byte) (entry : ListEntry)

/-- The fields of a rule's key. -/
theorem ruleOfEntry_fldList (field : KeyField) :
    (ruleOfEntry zeroCmd aclId entry).1.fldList field =
      let fields := entry.entryFields
      let flags := fields.entryFlags
      match field with
      | .sipV4 => if flags .srcIpaddr then writeAddress .sipV4 fields.srcIpAddress
          fields.srcIpAddressMask (.reset .sipV4) else .reset .sipV4
      | .dipV4 => if flags .destIpaddr then writeAddress .dipV4 fields.dstIpAddress
          fields.dstIpAddressMask (.reset .dipV4) else .reset .dipV4
      | .l4SrcPort => if flags .l4SrcPort then writeExact .l4SrcPort
          fields.l4SrcPortMin (.reset .l4SrcPort) else .reset .l4SrcPort
      | .l4DestPort => if flags .l4DestPort then writeExact .l4DestPort
          fields.l4DstPortMin (.reset .l4DestPort) else .reset .l4DestPort
      | .protocol => if flags .protocol then writeExact .protocol fields.protocol
          (.reset .protocol) else .reset .protocol
      | .dscpEcn => if flags .tos then writeTos fields.tos fields.tosMask
          (.reset .dscpEcn) else .reset .dscpEcn
      | .icmpCode => if flags .icmpCode then writeExact .icmpCode fields.icmpCode
          (.reset .icmpCode) else .reset .icmpCode
      | .icmpMsgType => if flags .icmpType then writeExact .icmpMsgType
          fields.icmpType (.reset .icmpMsgType) else .reset .icmpMsgType
      | .bd => if flags .vlan then writeExact .bd fields.vlan (.reset .bd)
          else .reset .bd
      | .v4EtherType => if flags .l2Ethertype then writeExact .v4EtherType
          fields.l2Ethertype (.reset .v4EtherType) else .reset .v4EtherType
      | .id =>
          { v4Fld := KeyField.id.v4Field
            value := memset (IaclkeyField.reset .id).value aclId 1
            mask := memset (IaclkeyField.reset .id).mask 0#8 1 }
      | other => .reset other := by
  cases field <;>
    simp [ruleOfEntry, allocResetFieldData, populateIaclEntires, populateKey]

/-- Which packets a rule matches. -/
theorem ruleOfEntry_matches (packet : Packet) :
    (ruleOfEntry zeroCmd aclId entry).1.Matches packet ↔
      packet.aclId = aclId ∧ AgreesButTos entry.entryFields packet ∧
        TosCompared entry.entryFields packet := by
  have compares : (ruleOfEntry zeroCmd aclId entry).1.Matches packet ↔
      ∀ field, ((ruleOfEntry zeroCmd aclId entry).1.fldList field).Compares
        (packet.keyBytes field) := by
    simp [IaclkeyFieldList.Matches, IaclkeyField.Compares, ruleOfEntry,
      populateIaclEntires, populateKey]
  rw [compares]
  simp only [ruleOfEntry_fldList]
  constructor
  · intro all
    refine ⟨?_, ⟨?_, ?_, ?_, ?_, ?_, ?_, ?_, ?_, ?_⟩, ?_⟩
    · exact (writeAclId_compares aclId packet.aclId).mp (all .id)
    · exact (writeAddress_compares _ _ _ _ (by decide)).mp (all .sipV4)
    · exact (writeAddress_compares _ _ _ _ (by decide)).mp (all .dipV4)
    · exact (writeExact_compares .l4SrcPort _ _ _ (by decide)).mp (all .l4SrcPort)
    · exact (writeExact_compares .l4DestPort _ _ _ (by decide)).mp (all .l4DestPort)
    · exact (writeExact_compares .protocol _ _ _ (by decide)).mp (all .protocol)
    · exact (writeExact_compares .icmpCode _ _ _ (by decide)).mp (all .icmpCode)
    · exact (writeExact_compares .icmpMsgType _ _ _ (by decide)).mp (all .icmpMsgType)
    · exact (writeExact_compares .bd _ _ _ (by decide)).mp (all .bd)
    · exact (writeExact_compares .v4EtherType _ _ _ (by decide)).mp (all .v4EtherType)
    · exact (writeTos_compares _ _ _ _).mp (all .dscpEcn)
  · rintro ⟨sameId, agrees, tos⟩ field
    cases field with
    | id => exact (writeAclId_compares aclId packet.aclId).mpr sameId
    | sipV4 => exact (writeAddress_compares _ _ _ _ (by decide)).mpr agrees.srcIp
    | dipV4 => exact (writeAddress_compares _ _ _ _ (by decide)).mpr agrees.dstIp
    | l4SrcPort =>
        exact (writeExact_compares .l4SrcPort _ _ _ (by decide)).mpr agrees.l4SrcPort
    | l4DestPort =>
        exact (writeExact_compares .l4DestPort _ _ _ (by decide)).mpr agrees.l4DestPort
    | protocol =>
        exact (writeExact_compares .protocol _ _ _ (by decide)).mpr agrees.protocol
    | icmpCode =>
        exact (writeExact_compares .icmpCode _ _ _ (by decide)).mpr agrees.icmpCode
    | icmpMsgType =>
        exact (writeExact_compares .icmpMsgType _ _ _ (by decide)).mpr agrees.icmpType
    | bd =>
        exact (writeExact_compares .bd _ _ _ (by decide)).mpr agrees.vlan
    | v4EtherType =>
        exact (writeExact_compares .v4EtherType _ _ _ (by decide)).mpr agrees.etherType
    | dscpEcn => exact (writeTos_compares _ _ _ _).mpr tos
    | keyTypeV4 => exact reset_compares ..
    | macDa => exact reset_compares ..
    | macSa => exact reset_compares ..
    | ivif => exact reset_compares ..

end Rule

/-- A rule matches exactly the packets that carry its ACL id and agree with the
entry if and only if the entry does not ask for the type of service, whose mask
is written without being inverted. -/
theorem ruleOfEntry_exact_iff (zeroCmd : PktCmd) (aclId : Byte)
    (fields : HandledFields) (actions : EntryActions) :
    (∀ packet, (ruleOfEntry zeroCmd aclId
        ⟨fields.toEntryFields, actions⟩).1.Matches packet ↔
      packet.aclId = aclId ∧ Agrees fields.toEntryFields packet) ↔
      fields.entryFlags .tos = false := by
  obtain ⟨entry, _, _, _⟩ := fields
  simp only [ruleOfEntry_matches]
  constructor
  · intro exact
    by_contra flagged
    have asked : entry.entryFlags .tos = true := by simpa using flagged
    have probe : ∀ tos : Byte, (entry.tos ^^^ tos) &&& ~~~entry.tosMask = 0#8 ↔
        (entry.tos ^^^ tos) &&& entry.tosMask = 0#8 := by
      intro tos
      let packet : Packet :=
        { keyType := 0#8, aclId := aclId, macDa := 0#48, macSa := 0#48,
          etherType := entry.l2Ethertype, dstIp := entry.dstIpAddress,
          srcIp := entry.srcIpAddress, l4DestPort := entry.l4DstPortMin,
          l4SrcPort := entry.l4SrcPortMin, ivif := 0#16,
          icmpCode := entry.icmpCode, icmpType := entry.icmpType,
          protocol := entry.protocol, tos := tos, vlan := entry.vlan }
      have others : AgreesButTos entry packet := by
        constructor <;> simp [packet]
      constructor
      · intro compared
        have agrees := (exact packet).mp ⟨rfl, others, fun _ => compared⟩
        exact agrees.2.tos asked
      · intro selected
        have matched := (exact packet).mpr ⟨rfl, others, fun _ => selected⟩
        exact matched.2.2 asked
    have masked := probe (entry.tos ^^^ entry.tosMask)
    have inverted := probe (entry.tos ^^^ ~~~entry.tosMask)
    have cancel : ∀ word : Byte, entry.tos ^^^ (entry.tos ^^^ word) = word := by
      intro word
      rw [← BitVec.xor_assoc, BitVec.xor_self, BitVec.zero_xor]
    rw [cancel] at masked inverted
    have noMask : entry.tosMask = 0#8 := by
      simpa [BitVec.and_self, BitVec.and_not_self] using masked
    rw [noMask] at inverted
    revert inverted
    decide
  · intro unasked packet
    have skipped : TosCompared entry packet := by
      intro asked
      rw [unasked] at asked
      cases asked
    constructor
    · rintro ⟨sameId, others, _⟩
      refine ⟨sameId, others, ?_⟩
      intro asked
      rw [unasked] at asked
      cases asked
    · rintro ⟨sameId, agrees⟩
      exact ⟨sameId, agrees.toAgreesButTos, skipped⟩

/-- The fields of an entry for expedited forwarding: DSCP 46, whatever the ECN
bits. -/
def expeditedFields : HandledFields where
  entryFlags flag := flag == .tos
  srcIpAddress := 0#32
  srcIpAddressMask := 0#32
  dstIpAddress := 0#32
  dstIpAddressMask := 0#32
  l4SrcPortMin := 0#16
  l4SrcPortOp := .none
  l4DstPortMin := 0#16
  l4DstPortOp := .none
  protocol := 0#8
  tos := 0xb8#8
  tosMask := 0xfc#8
  icmpCode := 0#8
  icmpType := 0#8
  vlan := 0#16
  l2Ethertype := 0#16
  handled := by
    intro flag asked
    rw [beq_iff_eq.mp asked]
    rfl
  l4SrcPortEq := nofun
  l4DestPortEq := nofun

/-- A best-effort packet under ACL 7. -/
def bestEffortPacket : Packet :=
  { keyType := 0#8, aclId := 7#8, macDa := 0#48, macSa := 0#48,
    etherType := 0x800#16, dstIp := 0#32, srcIp := 0#32, l4DestPort := 0#16,
    l4SrcPort := 0#16, ivif := 0#16, icmpCode := 0#8, icmpType := 0#8,
    protocol := 17#8, tos := 0#8, vlan := 1#16 }

/-- The rule for expedited forwarding permits best-effort packets. -/
theorem expedited_matches_bestEffort :
    (ruleOfEntry .fwd 7#8 ⟨expeditedFields.toEntryFields,
        { permit := true, deny := false, count := false }⟩).1.Matches
      bestEffortPacket ∧
    ¬ (bestEffortPacket.aclId = 7#8 ∧
      Agrees expeditedFields.toEntryFields bestEffortPacket) := by
  constructor
  · decide
  · rintro ⟨_, agrees⟩
    have tos := agrees.tos (by decide)
    revert tos
    decide

end Classifier
end XpliantSwitchd
