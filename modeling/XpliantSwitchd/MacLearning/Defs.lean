import XpliantSwitchd.Basic
import XpliantSwitchd.Lib.Traversal
import XpliantSwitchd.Lib.KeyedList

/-!
# MAC learning

This module embeds `ops-xp-mac-learning.c` with `OPS_XP_ML_EVENT_PROCESSING`
undefined, as the build has it.  The software table is keyed by the index that
the hardware gave an entry.  Every change of it is recorded for the switch
daemon in the current one of two event buffers, and a handoff passes the current
buffer to the daemon and starts the other one.
-/

namespace XpliantSwitchd
namespace MacLearning

/-- `xpsFdbEntry_t`. -/
structure FdbEntry where
  macAddr : MacAddr
  vlanId : Nat
  intfId : Nat
  serviceInstId : Nat
  isStatic : Bool
  isControl : Bool
  pktCmd : PktCmd
  deriving DecidableEq

/-- The pair by which the hardware finds an entry. -/
def FdbEntry.key (entry : FdbEntry) : Nat × MacAddr :=
  (entry.vlanId, entry.macAddr)

/-- `struct xp_mac_entry`: the index is the hash of its node in `table`. -/
structure MacEntry where
  index : Nat
  fdb : FdbEntry
  deriving DecidableEq

/-- The pair an entry is about. -/
def MacEntry.key (e : MacEntry) : Nat × MacAddr := e.fdb.key

/-- Write the interface of an entry. -/
def MacEntry.withIntf (e : MacEntry) (intfId : Nat) : MacEntry :=
  { e with fdb := { e.fdb with intfId := intfId } }

/-- `mac_event`. -/
inductive MlearnEvent
  | add | del
  deriving DecidableEq, Repr

/-- `struct mlearn_hmap_node`.  `hash` is the hash under which the node is
inserted and `slot` its place in the array of the buffer. -/
structure MlearnNode where
  slot : Nat
  hash : Nat
  mac : MacAddr
  vlan : Nat
  port : Nat
  portName : String
  hwUnit : Nat
  oper : MlearnEvent
  deriving DecidableEq

/-- `struct mlearn_hmap`.  A search by hash meets the node that was inserted
last, so the nodes are kept with the last one first.  The table has its final
number of buckets from the start and is never rehashed. -/
structure MlearnHmap where
  table : List MlearnNode
  actualSize : Nat
  deriving DecidableEq

/-- A cleared buffer. -/
def MlearnHmap.empty : MlearnHmap := { table := [], actualSize := 0 }

/-- What a handoff passes on: the nodes of the buffer, and, for reference, the
software table at that moment. -/
structure Handoff where
  nodes : List MlearnNode
  table : List MacEntry
  deriving DecidableEq

/-- The hardware FDB. -/
abbrev HwFdb := List (Nat × FdbEntry)

/-- `struct xp_mac_learning` with the hardware FDB behind it.  `inUse` is
`curr_mlearn_table_in_use`, and `handoffs` lists the handoffs so far, the latest
first. -/
structure Ml where
  table : List MacEntry
  maxEntries : Nat
  pluginInterface : Bool
  mlearnEventTables : Bool → MlearnHmap
  inUse : Bool
  hw : HwFdb
  handoffs : List Handoff

/-- What the code takes from outside: the id of the device, the capacity of an
event buffer, the length limit of a port name and the names of interfaces. -/
structure Env where
  devId : Nat
  bufferSize : Nat
  bufferSizePos : 0 < bufferSize
  portNameSize : Nat
  getIntfName : Nat → Nat → Option String
  zeroCmd : PktCmd

/-- What the XDK, the VLAN manager and the hash table do during one event.
`addEntry` is the pair of indices returned by `xpsFdbAddEntry`, or `none` when
the call fails; the removals by index fail or succeed one by one. -/
structure Outcome where
  isLearning : Nat → Bool
  findFails : Bool
  addEntry : Option (Nat × Nat)
  writeEntry : Bool
  removeEntry : Bool
  removeEntryByIndex : Nat → Bool
  order : Traversal MacEntry

/-- `ops_xp_mac_learning_create`, on a hardware FDB that may already hold
entries. -/
def macLearningCreate (maxEntries : Nat) (pluginInterface : Bool) (hw : HwFdb) :
    Ml where
  table := []
  maxEntries := maxEntries
  pluginInterface := pluginInterface
  mlearnEventTables := fun _ => .empty
  inUse := false
  hw := hw
  handoffs := []

/-- `ops_xp_mac_learning_set_max_entries`. -/
def setMaxEntries (ml : Ml) (maxEntries : Nat) : Ml :=
  { ml with maxEntries :=
      if maxEntries < 10 then 10
      else if maxEntries > 1000 * 1000 then 1000 * 1000
      else maxEntries }

/-! ## The hardware FDB -/

/-- Answers of `xpsFdbFindEntry`. -/
inductive FindResult
  | found (index : Nat) | miss | error
  deriving DecidableEq

/-- `xpsFdbFindEntry`. -/
def fdbFindEntry (xdk : Outcome) (hw : HwFdb) (entry : FdbEntry) : FindResult :=
  if xdk.findFails then .error
  else
    match hw.find? (·.2.key == entry.key) with
    | some (index, _) => .found index
    | none => .miss

/-- `xpsFdbAddEntry`.  When the two indices differ, the occupant of the first
has been moved to the second. -/
def fdbAddEntry (xdk : Outcome) (hw : HwFdb) (entry : FdbEntry) :
    Option (Nat × Nat) × HwFdb :=
  match xdk.addEntry with
  | none => (none, hw)
  | some (index, reHashIndex) =>
      (some (index, reHashIndex), (index, entry) ::
        KeyedList.rewrite Prod.fst index (fun slot => (reHashIndex, slot.2)) hw)

/-- `xpsFdbWriteEntry`. -/
def fdbWriteEntry (xdk : Outcome) (hw : HwFdb) (index : Nat) (entry : FdbEntry) :
    Bool × HwFdb :=
  if xdk.writeEntry then
    (true, KeyedList.rewrite Prod.fst index (fun _ => (index, entry)) hw)
  else (false, hw)

/-- `xpsFdbRemoveEntry`.  The code logs a failure and goes on. -/
def fdbRemoveEntry (xdk : Outcome) (hw : HwFdb) (entry : FdbEntry) : HwFdb :=
  if xdk.removeEntry then KeyedList.remove (·.2.key) entry.key hw else hw

/-- `xpsFdbRemoveEntryByIndex`. -/
def fdbRemoveEntryByIndex (xdk : Outcome) (hw : HwFdb) (index : Nat) :
    Bool × HwFdb :=
  if xdk.removeEntryByIndex index then (true, KeyedList.remove Prod.fst index hw)
  else (false, hw)

/-! ## Event buffers -/

/-- The buffer in use. -/
def currTable (ml : Ml) : MlearnHmap := ml.mlearnEventTables ml.inUse

/-- Write the buffer in use. -/
def setCurrTable (ml : Ml) (mhmap : MlearnHmap) : Ml :=
  { ml with mlearnEventTables :=
      Function.update ml.mlearnEventTables ml.inUse mhmap }

/-- `ops_xp_mac_learning_mlearn_table_is_full`. -/
def mlearnTableIsFull (env : Env) (mhmap : MlearnHmap) : Bool :=
  mhmap.actualSize == env.bufferSize

/-- `ops_xp_mac_learning_mlearn_entry_fill_data`. -/
def mlearnEntryFillData (env : Env) (node : MlearnNode) (entry : FdbEntry)
    (event : MlearnEvent) : MlearnNode :=
  { node with
    mac := macCopyAndReverse entry.macAddr
    port := entry.intfId
    vlan := entry.vlanId
    hwUnit := env.devId
    oper := event
    portName :=
      match env.getIntfName entry.intfId entry.serviceInstId with
      | some name => name.take (env.portNameSize - 1) |>.toString
      | none => "" }

/-- `ops_xp_mac_learning_process_mlearn`. -/
def processMlearn (ml : Ml) : Ml :=
  if ml.pluginInterface && !(currTable ml).table.isEmpty then
    { ml with
      handoffs := ⟨(currTable ml).table, ml.table⟩ :: ml.handoffs
      inUse := !ml.inUse
      mlearnEventTables :=
        Function.update ml.mlearnEventTables (!ml.inUse) .empty }
  else ml

/-- Rewrite the first node with a given hash. -/
def fillFirst (hash : Nat) (fill : MlearnNode → MlearnNode) :
    List MlearnNode → List MlearnNode
  | [] => []
  | node :: nodes =>
      if node.hash = hash then fill node :: nodes
      else node :: fillFirst hash fill nodes

/-- Copy a node to the next free slot of a buffer and insert it under another
hash.  A full buffer drops it. -/
def copyNode (env : Env) (mhmap : MlearnHmap) (node : MlearnNode) (hash : Nat) :
    MlearnHmap :=
  if mhmap.actualSize < env.bufferSize then
    { table := { node with slot := mhmap.actualSize, hash := hash } :: mhmap.table
      actualSize := mhmap.actualSize + 1 }
  else mhmap

/-- A slot of a buffer as `memset` leaves it. -/
def MlearnNode.zero : MlearnNode where
  slot := 0
  hash := 0
  mac := Vector.replicate 6 0
  vlan := 0
  port := 0
  portName := ""
  hwUnit := 0
  oper := .add

/-- The buffer after an event was recorded in it. -/
def recordEvent (env : Env) (mhmap : MlearnHmap) (entry : FdbEntry)
    (index reHashIndex : Nat) (event : MlearnEvent) : MlearnHmap :=
  match mhmap.table.find? (·.hash == index) with
  | some node =>
      let mhmap := if index ≠ reHashIndex then copyNode env mhmap node reHashIndex
        else mhmap
      { mhmap with table :=
          fillFirst index (mlearnEntryFillData env · entry event) mhmap.table }
  | none =>
      copyNode env mhmap (mlearnEntryFillData env .zero entry event) index

/-- `ops_xp_mac_learning_mlearn_action_add`. -/
def mlearnActionAdd (env : Env) (ml : Ml) (entry : FdbEntry)
    (index reHashIndex : Nat) (event : MlearnEvent) : Ml :=
  let mhmap := recordEvent env (currTable ml) entry index reHashIndex event
  let ml := setCurrTable ml mhmap
  if mlearnTableIsFull env mhmap then processMlearn ml else ml

/-! ## The learning table -/

/-- `ops_xp_ml_addr_is_multicast`. -/
def mlAddrIsMulticast (mac : MacAddr) (normalOrder : Bool) : Bool :=
  if normalOrder then MacAddr.firstByte mac &&& 1 != 0
  else MacAddr.lastByte mac &&& 1 != 0

/-- `ops_xp_mac_learning_may_learn`. -/
def mayLearn (xdk : Outcome) (srcMac : MacAddr) (vlan : Nat) : Bool :=
  xdk.isLearning vlan && !mlAddrIsMulticast srcMac false

/-- `ops_xp_mac_learning_lookup`. -/
def lookup (ml : Ml) (index : Nat) : Option MacEntry :=
  ml.table.find? (·.index == index)

/-- `ops_xp_mac_learning_lookup_by_vlan_and_mac`. -/
def lookupByVlanAndMac (xdk : Outcome) (ml : Ml) (vlanId : Nat)
    (macAddr : MacAddr) : Option MacEntry :=
  (xdk.order.visit ml.table).find? (·.key == (vlanId, macAddr))

/-- Put an entry into `table` after a successful `xpsFdbAddEntry` and record
it. -/
def insertEntry (env : Env) (ml : Ml) (entry : FdbEntry)
    (index reHashIndex : Nat) : Ml :=
  mlearnActionAdd env { ml with table := ⟨index, entry⟩ :: ml.table }
    entry index reHashIndex .add

/-- `ops_xp_mac_learning_insert`. -/
def insert (env : Env) (xdk : Outcome) (ml : Ml) (entry : FdbEntry) :
    Option Errno × Ml :=
  if ml.table.length ≥ ml.maxEntries then (some .EPERM, ml)
  else
    match fdbAddEntry xdk ml.hw entry with
    | (none, _) => (some .EPERM, ml)
    | (some (index, reHashIndex), hw) =>
        let ml := { ml with hw := hw }
        if index = reHashIndex then
          (none, insertEntry env ml entry index reHashIndex)
        else
          match lookup ml index with
          | some _ =>
              let table := KeyedList.rewrite (·.index) index
                (fun e => { e with index := reHashIndex }) ml.table
              (none, insertEntry env { ml with table := table } entry index
                reHashIndex)
          | none =>
              let hw := fdbRemoveEntry xdk ml.hw entry
              let hw := (fdbRemoveEntryByIndex xdk hw reHashIndex).2
              (some .ENOENT, { ml with hw := hw })

/-- `ops_xp_mac_learning_expire`. -/
def expire (env : Env) (xdk : Outcome) (ml : Ml) (e : MacEntry) :
    Option Errno × Ml :=
  match fdbRemoveEntryByIndex xdk ml.hw e.index with
  | (false, _) => (some .EPERM, ml)
  | (true, hw) =>
      let ml := { ml with
        hw := hw
        table := KeyedList.remove (·.index) e.index ml.table }
      (none, mlearnActionAdd env ml e.fdb e.index e.index .del)

/-- Expire a list of entries, as the loops over `table` do. -/
def expireAll (env : Env) (xdk : Outcome) (ml : Ml) (entries : List MacEntry) : Ml :=
  entries.foldl (fun ml e => (expire env xdk ml e).2) ml

/-- The common loop of the flush functions: expire the entries that satisfy a
test. -/
def flushWhere (env : Env) (xdk : Outcome) (ml : Ml) (test : FdbEntry → Bool) : Ml :=
  expireAll env xdk ml ((xdk.order.visit ml.table).filter fun e => test e.fdb)

/-- `ops_xp_mac_learning_flush`. -/
def flush (env : Env) (xdk : Outcome) (ml : Ml) (dynamicOnly : Bool) : Ml :=
  flushWhere env xdk ml fun entry => !dynamicOnly || !entry.isStatic

/-- `ops_xp_mac_learning_flush_intfId`. -/
def flushIntfId (env : Env) (xdk : Outcome) (ml : Ml) (intfId : Nat)
    (dynamicOnly : Bool) : Ml :=
  flushWhere env xdk ml fun entry =>
    entry.intfId == intfId && (!dynamicOnly || !entry.isStatic)

/-- `ops_xp_mac_learning_process_port_down`. -/
def processPortDown (env : Env) (xdk : Outcome) (ml : Ml) (intfId : Nat) : Ml :=
  flushIntfId env xdk ml intfId true

/-- `ops_xp_mac_learning_flush_vlan`. -/
def flushVlan (env : Env) (xdk : Outcome) (ml : Ml) (vlanId : Nat) : Ml :=
  flushWhere env xdk ml fun entry => entry.vlanId == vlanId

/-- `ops_xp_mac_learning_flush_vlan_intf`. -/
def flushVlanIntf (env : Env) (xdk : Outcome) (ml : Ml) (vlanId intfId : Nat) : Ml :=
  flushWhere env xdk ml fun entry =>
    entry.vlanId == vlanId && entry.intfId == intfId

/-- `ops_xp_mac_learning_process_vlan_removed`. -/
def processVlanRemoved (env : Env) (xdk : Outcome) (ml : Ml) (vlan : Nat) : Ml :=
  flushVlan env xdk ml vlan

/-- The loop of `ops_xp_mac_learning_on_vni_removed`. -/
def onVniRemoved (env : Env) (xdk : Outcome) (ml : Ml) (vlan vni ifId : Nat) : Ml :=
  flushWhere env xdk ml fun entry =>
    entry.vlanId == vlan && entry.intfId == ifId && entry.serviceInstId == vni

/-- The reason codes that `ops_xp_mac_learning_learn` tells apart. -/
inductive ReasonCode
  | macSaNew | ivifSaMiss | macSaMove | other
  deriving DecidableEq, Repr

/-- `struct xp_ml_learning_data`. -/
structure LearningData where
  fdb : FdbEntry
  reasonCode : ReasonCode
  deriving DecidableEq

/-- The case of `ops_xp_mac_learning_learn` for a new address. -/
def learnNew (env : Env) (xdk : Outcome) (ml : Ml) (entry : FdbEntry) :
    Option Errno × Ml :=
  match fdbFindEntry xdk ml.hw entry with
  | .miss => insert env xdk ml entry
  | .error => (some .ENOENT, ml)
  | .found _ => (some .EEXIST, ml)

/-- The case of `ops_xp_mac_learning_learn` for an address that moved. -/
def learnMove (env : Env) (xdk : Outcome) (ml : Ml) (entry : FdbEntry) :
    Option Errno × Ml :=
  match fdbFindEntry xdk ml.hw entry with
  | .miss => (some .ENOENT, ml)
  | .error => (some .ENOENT, ml)
  | .found index =>
      match lookup ml index with
      | none => (some .EPERM, { ml with hw := fdbRemoveEntry xdk ml.hw entry })
      | some updE =>
          let updE := updE.withIntf entry.intfId
          let table := KeyedList.rewrite (·.index) index (fun _ => updE) ml.table
          let ml := mlearnActionAdd env { ml with table := table } updE.fdb index
            index .add
          match fdbWriteEntry xdk ml.hw index updE.fdb with
          | (true, hw) => (none, { ml with hw := hw })
          | (false, _) => (none, (expire env xdk ml updE).2)

/-- `ops_xp_mac_learning_learn`. -/
def learn (env : Env) (xdk : Outcome) (ml : Ml) (data : LearningData) :
    Option Errno × Ml :=
  if !mayLearn xdk data.fdb.macAddr data.fdb.vlanId then (some .EPERM, ml)
  else
    let entry := { data.fdb with pktCmd := .fwd, isControl := false }
    match data.reasonCode with
    | .macSaNew => learnNew env xdk ml entry
    | .ivifSaMiss => learnNew env xdk ml entry
    | .macSaMove => learnMove env xdk ml entry
    | .other => (none, ml)

/-- `ops_xp_mac_learning_age_by_index`. -/
def ageByIndex (env : Env) (xdk : Outcome) (ml : Ml) (index : Nat) :
    Option Errno × Ml :=
  match lookup ml index with
  | some e => expire env xdk ml e
  | none => (none, ml)

/-- `ops_xp_mac_learning_age_by_vlan_and_mac`. -/
def ageByVlanAndMac (env : Env) (xdk : Outcome) (ml : Ml) (vlan : Nat)
    (macAddr : MacAddr) : Option Errno × Ml :=
  match lookupByVlanAndMac xdk ml vlan macAddr with
  | some e => expire env xdk ml e
  | none => (some .EPERM, ml)

/-- `sizeof(struct ethhdr)`. -/
def ethHdrSize : Nat := 14

/-- The data that `ops_xp_mac_learning_on_learning` takes from a packet. -/
def learningData (env : Env) (ingressVif : Nat) (reasonCode : ReasonCode)
    (bdId : Nat) (srcMacAddr : MacAddr) : LearningData where
  fdb :=
    { macAddr := macCopyAndReverse srcMacAddr, vlanId := bdId,
      intfId := ingressVif, serviceInstId := 0, isStatic := false,
      isControl := false, pktCmd := env.zeroCmd }
  reasonCode := reasonCode

/-- `ops_xp_mac_learning_on_learning`, on the source address and the size of the
packet. -/
def onLearning (env : Env) (xdk : Outcome) (ml : Ml) (ingressVif : Nat)
    (reasonCode : ReasonCode) (bdId : Nat) (srcMacAddr : MacAddr)
    (bufSize : Nat) : Ml :=
  if bufSize < ethHdrSize then ml
  else (learn env xdk ml
    (learningData env ingressVif reasonCode bdId srcMacAddr)).2

/-- The operations on a learning table. -/
inductive Event
  | learning (ingressVif : Nat) (reasonCode : ReasonCode) (bdId : Nat)
      (srcMacAddr : MacAddr) (bufSize : Nat)
  | learn (data : LearningData)
  | expire (e : MacEntry)
  | aging (index : Nat)
  | ageByVlanAndMac (vlan : Nat) (macAddr : MacAddr)
  | flush (dynamicOnly : Bool)
  | flushIntfId (intfId : Nat) (dynamicOnly : Bool)
  | flushVlan (vlanId : Nat)
  | flushVlanIntf (vlanId intfId : Nat)
  | vlanRemoved (vlan : Nat)
  | portDown (intfId : Nat)
  | vniRemoved (vlan vni ifId : Nat)
  | mlearnTimer
  | setMaxEntries (maxEntries : Nat)

/-- One operation under the write lock. -/
def handle (env : Env) (xdk : Outcome) (ml : Ml) : Event → Ml
  | .learning ingressVif reasonCode bdId srcMacAddr bufSize =>
      onLearning env xdk ml ingressVif reasonCode bdId srcMacAddr bufSize
  | .learn data => (learn env xdk ml data).2
  | .expire e => (expire env xdk ml e).2
  | .aging index => (ageByIndex env xdk ml index).2
  | .ageByVlanAndMac vlan macAddr => (ageByVlanAndMac env xdk ml vlan macAddr).2
  | .flush dynamicOnly => flush env xdk ml dynamicOnly
  | .flushIntfId intfId dynamicOnly => flushIntfId env xdk ml intfId dynamicOnly
  | .flushVlan vlanId => flushVlan env xdk ml vlanId
  | .flushVlanIntf vlanId intfId => flushVlanIntf env xdk ml vlanId intfId
  | .vlanRemoved vlan => processVlanRemoved env xdk ml vlan
  | .portDown intfId => processPortDown env xdk ml intfId
  | .vniRemoved vlan vni ifId => onVniRemoved env xdk ml vlan vni ifId
  | .mlearnTimer => processMlearn ml
  | .setMaxEntries maxEntries => setMaxEntries ml maxEntries

/-- An operation together with what the XDK does during it. -/
structure Operation where
  event : Event
  xdk : Outcome

/-- The state after an operation. -/
def step (env : Env) (ml : Ml) (operation : Operation) : Ml :=
  handle env operation.xdk ml operation.event

end MacLearning
end XpliantSwitchd
