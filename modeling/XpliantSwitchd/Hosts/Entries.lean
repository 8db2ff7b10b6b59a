import XpliantSwitchd.Hosts.Ownership

/-!
# Host entries in memory

The records behind the host entries, by their addresses.  A record is linked in
`host_map` and in `host_id_map`, or it is on `dummy_host_list`; it is cleared and used
again whole, and only its id survives.  The ids of the model in `Hosts.Defs` are those
of the records here.
-/

namespace XpliantSwitchd
namespace Hosts

/-- `xp_host_entry_t` in memory, without its nodes. -/
structure HostRecord where
  id : BitVec 32
  isIpv6Addr : Bool
  destAddr : List UInt8
  macAddr : MacAddr
  xpHost : XpHost
  deriving DecidableEq

/-- A node of one of the maps: its hash, and the address of the record it is in. -/
structure Link where
  hash : Nat
  address : Nat
  deriving DecidableEq

/-- The host half of `xp_l3_mgr_t`, with the memory of its records.  Records are never
given back, so the address of a fresh one is the number of those before it. -/
structure HostMem where
  vrfId : Nat
  memory : Nat → HostRecord
  allocated : Nat
  nextHostId : BitVec 32
  dummyHostList : List Nat
  hostMap : List Link
  hostIdMap : List Link
  hw : List (Nat × XpHost)

/-- What the XDK does during one operation, and the order of the nodes with one
hash. -/
structure EntryOutcome where
  addIpHostEntry : Option (Nat × Nat)
  removeIpHostEntryByIndex : Bool
  order : Traversal Link

/-- A cleared next hop. -/
def zeroNextHop (env : Env) : L3NextHopEntry :=
  { macDa := Vector.replicate 6 0, egressIntfId := 0, l3InterfaceId := 0,
    serviceInstId := 0, pktCmd := env.zeroCmd, propTTL := false, reasonCode := 0 }

/-- A record of zeros, but for its id. -/
def HostRecord.cleared (env : Env) (id : BitVec 32) : HostRecord :=
  { id := id, isIpv6Addr := false, destAddr := [], macAddr := Vector.replicate 6 0,
    xpHost := { isIpv6 := false, addr := [], vrfId := 0, nhEntry := zeroNextHop env } }

/-- The manager after `ops_xp_l3_mgr_create`. -/
def hostMemCreate (env : Env) (vrfId : Nat) : HostMem where
  vrfId := vrfId
  memory := fun _ => .cleared env 0
  allocated := 0
  nextHostId := 0
  dummyHostList := []
  hostMap := []
  hostIdMap := []
  hw := []

namespace HostMem

/-- Write a record. -/
def write (mem : HostMem) (address : Nat) (change : HostRecord → HostRecord) : HostMem :=
  { mem with memory := Function.update mem.memory address (change (mem.memory address)) }

/-- `host_entry_alloc`. -/
def hostEntryAlloc (env : Env) (mem : HostMem) : Nat × HostMem :=
  match mem.dummyHostList with
  | [] =>
      (mem.allocated, { mem with
        memory := Function.update mem.memory mem.allocated (.cleared env mem.nextHostId)
        allocated := mem.allocated + 1
        nextHostId := mem.nextHostId + 1 })
  | address :: rest => (address, { mem with dummyHostList := rest })

/-- `host_entry_free`. -/
def hostEntryFree (env : Env) (mem : HostMem) (address : Nat) : HostMem :=
  { mem.write address (fun record => .cleared env record.id) with
    dummyHostList := address :: mem.dummyHostList }

/-- The next hop that an add writes. -/
def fillNextHop (env : Env) (args : AddArgs) (nhEntry : L3NextHopEntry) : L3NextHopEntry :=
  if args.isLocal then { nhEntry with reasonCode := env.hostTableHit, propTTL := false }
  else
    { nhEntry with
      l3InterfaceId := args.l3IntfId
      egressIntfId := args.portIntfId
      serviceInstId := args.vid
      pktCmd := .fwd
      propTTL := false
      macDa :=
        match args.nextHopMacAddr.bind env.etherAton with
        | some mac => macCopyAndReverse mac
        | none => nhEntry.macDa }

/-- What an add writes into a record before it looks at the address. -/
def fillRecord (env : Env) (args : AddArgs) (vrfId : Nat) (record : HostRecord) : HostRecord :=
  { record with
    macAddr :=
      if args.isLocal then record.macAddr
      else (args.nextHopMacAddr.bind env.etherAton).getD record.macAddr
    xpHost := { record.xpHost with
      nhEntry := fillNextHop env args record.xpHost.nhEntry
      vrfId := vrfId } }

/-- What an add writes for a valid address. -/
def fillAddr (isIpv6Addr : Bool) (addr : List UInt8) (record : HostRecord) : HostRecord :=
  { record with
    isIpv6Addr := isIpv6Addr
    destAddr := addr
    xpHost := { record.xpHost with isIpv6 := isIpv6Addr, addr := addr } }

/-- Move the node that a search by hash finds to another hash. -/
def rehash (order : Traversal Link) (hostMap : List Link) (hash rehash : Nat) : List Link :=
  match (order.visit hostMap).find? (·.hash == hash) with
  | none => hostMap
  | some link =>
      ⟨rehash, link.address⟩ :: KeyedList.remove (·.address) link.address hostMap

/-- `ops_xp_routing_add_host_entry`, with what is written to `*l3_egress_id`. -/
def addHostEntry (env : Env) (outcome : EntryOutcome) (mem : HostMem) (args : AddArgs) :
    Option Errno × Option Int × HostMem :=
  let (e, mem) := mem.hostEntryAlloc env
  let mem := mem.write e (fillRecord env args mem.vrfId)
  match env.stringToPrefix args.isIpv6Addr args.ipAddr with
  | none => (some .EPFNOSUPPORT, none, mem.hostEntryFree env e)
  | some (addr, _) =>
      let mem := mem.write e (fillAddr args.isIpv6Addr addr)
      match outcome.addIpHostEntry with
      | none => (some .EAGAIN, none, mem.hostEntryFree env e)
      | some (hash, reHash) =>
          let hostMap :=
            if hash ≠ reHash then rehash outcome.order mem.hostMap hash reHash
            else mem.hostMap
          (none, some (mem.memory e).id.toInt, { mem with
            hostMap := ⟨hash, e⟩ :: hostMap
            hostIdMap := ⟨(mem.memory e).id.toNat, e⟩ :: mem.hostIdMap
            hw := (hash, (mem.memory e).xpHost) ::
              KeyedList.rewrite Prod.fst hash (fun slot => (reHash, slot.2)) mem.hw })

/-- Take the node of a record out of both maps. -/
def unlink (mem : HostMem) (address : Nat) : HostMem :=
  { mem with
    hostIdMap := KeyedList.remove (·.address) address mem.hostIdMap
    hostMap := KeyedList.remove (·.address) address mem.hostMap }

/-- `ops_xp_routing_delete_host_entry`. -/
def deleteHostEntry (env : Env) (outcome : EntryOutcome) (mem : HostMem)
    (l3EgressId : Int) : Option Errno × HostMem :=
  match (outcome.order.visit mem.hostIdMap).find? (·.hash == sizeT l3EgressId) with
  | none => (none, mem)
  | some node =>
      let index := (mem.hostMap.find? (·.address == node.address)).map (·.hash)
      let mem := (mem.unlink node.address).hostEntryFree env node.address
      if outcome.removeIpHostEntryByIndex then
        (none, { mem with hw := mem.hw.filter fun slot => some slot.1 != index })
      else (some .EHOSTDOWN, mem)

end HostMem

/-- A host is added, or deleted by the `int` that an add returned or by any other. -/
inductive EntryEvent
  | add (args : AddArgs) (outcome : EntryOutcome)
  | delete (l3EgressId : Int) (outcome : EntryOutcome)

/-- The state after an event. -/
def entryStep (env : Env) (mem : HostMem) : EntryEvent → HostMem
  | .add args outcome => (mem.addHostEntry env outcome args).2.2
  | .delete l3EgressId outcome => (mem.deleteHostEntry env outcome l3EgressId).2

/-! ## Where a record is -/

/-- The live entries are those in `host_map`. -/
def HostMem.live (mem : HostMem) : List Nat := mem.hostMap.map (·.address)

/-- Every record but those that are `held` is in both maps, under its own id, or on the
free list.  The ids are the numbers of the records. -/
structure Tracked (held : List Nat) (mem : HostMem) : Prop where
  ids : ∀ address < mem.allocated, (mem.memory address).id = BitVec.ofNat 32 address
  next : mem.nextHostId = BitVec.ofNat 32 mem.allocated
  placed : (held ++ (mem.live ++ mem.dummyHostList)).Perm (List.range mem.allocated)
  both : (mem.hostIdMap.map (·.address)).Perm mem.live
  hashes : ∀ link ∈ mem.hostIdMap, link.hash = (mem.memory link.address).id.toNat

/-- A record that is written keeps its id when the change does. -/
theorem HostMem.id_write
    (mem : HostMem)
    (address : Nat)
    {change : HostRecord → HostRecord}
    (keeps : ∀ record, (change record).id = record.id)
    (other : Nat) :
    ((mem.write address change).memory other).id = (mem.memory other).id := by
  unfold HostMem.write
  by_cases same : other = address
  · subst same
    simp only [Function.update_self, keeps]
  · simp only [Function.update_of_ne same]

namespace Tracked

variable {env : Env} {mem : HostMem} {held : List Nat} {address : Nat}

theorem below (tracked : Tracked held mem)
    (member : address ∈ held ++ (mem.live ++ mem.dummyHostList)) :
    address < mem.allocated :=
  List.mem_range.mp (tracked.placed.mem_iff.mp member)

theorem nodup (tracked : Tracked held mem) :
    (held ++ (mem.live ++ mem.dummyHostList)).Nodup :=
  tracked.placed.nodup_iff.mpr List.nodup_range

theorem liveNodup (tracked : Tracked held mem) : mem.live.Nodup :=
  tracked.nodup.of_append_right.of_append_left

theorem hostMemCreate (env : Env) (vrfId : Nat) : Tracked [] (hostMemCreate env vrfId) where
  ids := fun _ below => absurd below (Nat.not_lt_zero _)
  next := rfl
  placed := List.Perm.refl _
  both := List.Perm.refl _
  hashes := fun _ member => absurd member List.not_mem_nil

theorem write
    (tracked : Tracked held mem)
    (address : Nat)
    (change : HostRecord → HostRecord)
    (keeps : ∀ record, (change record).id = record.id) :
    Tracked held (mem.write address change) := by
  constructor
  · intro other inside
    rw [HostMem.id_write mem address keeps]
    exact tracked.ids other inside
  · exact tracked.next
  · exact tracked.placed
  · exact tracked.both
  · intro link member
    rw [HostMem.id_write mem address keeps]
    exact tracked.hashes link member

/-- A record that was never used gets the next id. -/
theorem allocFresh (tracked : Tracked [] mem) :
    Tracked [mem.allocated] { mem with
      memory := Function.update mem.memory mem.allocated (.cleared env mem.nextHostId)
      allocated := mem.allocated + 1
      nextHostId := mem.nextHostId + 1 } := by
  have unchanged : ∀ address < mem.allocated,
      Function.update mem.memory mem.allocated (.cleared env mem.nextHostId) address =
        mem.memory address :=
    fun address inside => Function.update_of_ne (Nat.ne_of_lt inside) ..
  constructor
  · intro address inside
    rcases Nat.lt_succ_iff_lt_or_eq.mp inside with old | rfl
    · simp only [unchanged address old]
      exact tracked.ids address old
    · simp only [Function.update_self]
      exact tracked.next
  · simp only
    rw [tracked.next, BitVec.ofNat_add]
    rfl
  · rw [List.range_succ]
    exact (tracked.placed.cons _).trans (List.perm_append_singleton _ _).symm
  · exact tracked.both
  · intro link member
    have inside : link.address < mem.allocated := by
      apply tracked.below
      apply List.mem_append_right
      apply List.mem_append_left
      exact tracked.both.mem_iff.mp (List.mem_map_of_mem member)
    simp only [unchanged _ inside]
    exact tracked.hashes link member

/-- An allocated record is in neither map and not on the free list. -/
theorem alloc (tracked : Tracked [] mem) :
    Tracked [(mem.hostEntryAlloc env).1] (mem.hostEntryAlloc env).2 := by
  unfold HostMem.hostEntryAlloc
  split
  · exact tracked.allocFresh
  · rename_i address rest someFree
    have placed := tracked.placed
    rw [someFree] at placed
    have taken : (address :: (mem.live ++ rest)).Perm (mem.live ++ address :: rest) :=
      List.perm_middle.symm
    exact ⟨tracked.ids, tracked.next, taken.trans placed, tracked.both, tracked.hashes⟩

/-- A freed record is on the free list. -/
theorem free (tracked : Tracked [address] mem) :
    Tracked [] (mem.hostEntryFree env address) := by
  have cleared := tracked.write address (fun record => .cleared env record.id) fun _ => rfl
  refine ⟨cleared.ids, cleared.next, ?_, cleared.both, cleared.hashes⟩
  exact List.perm_middle.trans tracked.placed

/-- A node that moves to another hash stays the node of its record. -/
theorem map_address_rehash (order : Traversal Link) {hostMap : List Link} (hash reHash : Nat)
    (nodup : (hostMap.map (·.address)).Nodup) :
    ((HostMem.rehash order hostMap hash reHash).map (·.address)).Perm
      (hostMap.map (·.address)) := by
  unfold HostMem.rehash
  split
  · exact List.Perm.refl _
  · rename_i link found
    have member := (order.of_find?_visit found).1
    exact ((KeyedList.perm_cons_remove nodup member rfl).map (·.address)).symm

/-- A record that is linked in both maps is live. -/
theorem link
    (tracked : Tracked [address] mem)
    {hostMap : List Link}
    (sameAddresses : (hostMap.map (·.address)).Perm mem.live)
    (hash : Nat)
    (hw : List (Nat × XpHost)) :
    Tracked [] { mem with
      hostMap := ⟨hash, address⟩ :: hostMap
      hostIdMap := ⟨(mem.memory address).id.toNat, address⟩ :: mem.hostIdMap
      hw := hw } := by
  constructor
  · exact tracked.ids
  · exact tracked.next
  · exact ((sameAddresses.append_right _).cons address).trans tracked.placed
  · exact (tracked.both.trans sameAddresses.symm).cons address
  · intro link member
    rcases List.mem_cons.mp member with rfl | old
    · rfl
    · exact tracked.hashes link old

/-- A live record that is taken out of the maps is in neither. -/
theorem unlink (tracked : Tracked [] mem) (isLive : address ∈ mem.live) :
    Tracked [address] (mem.unlink address) := by
  obtain ⟨link, member, same⟩ := List.mem_map.mp isLive
  have inIdMap := tracked.both.mem_iff.mpr isLive
  obtain ⟨idLink, idMember, idSame⟩ := List.mem_map.mp inIdMap
  have fromMap : mem.live.Perm (address :: (mem.unlink address).live) := by
    have moved := (KeyedList.perm_cons_remove tracked.liveNodup member same).map (·.address)
    rw [List.map_cons, same] at moved
    exact moved
  have fromIdMap : (mem.hostIdMap.map (·.address)).Perm
      (address :: (mem.unlink address).hostIdMap.map (·.address)) := by
    have idNodup := tracked.both.nodup_iff.mpr tracked.liveNodup
    have moved := (KeyedList.perm_cons_remove idNodup idMember idSame).map (·.address)
    rw [List.map_cons, idSame] at moved
    exact moved
  constructor
  · exact tracked.ids
  · exact tracked.next
  · exact ((fromMap.append_right _).symm).trans tracked.placed
  · apply List.Perm.cons_inv
    exact (fromIdMap.symm.trans tracked.both).trans fromMap
  · intro link member
    exact tracked.hashes link (KeyedList.mem_remove.mp member).1

/-! ## Runs -/

theorem addHostEntry (tracked : Tracked [] mem) (outcome : EntryOutcome) (args : AddArgs) :
    Tracked [] (mem.addHostEntry env outcome args).2.2 := by
  have allocated : Tracked [(mem.hostEntryAlloc env).1] (mem.hostEntryAlloc env).2 :=
    tracked.alloc
  have filled := allocated.write (mem.hostEntryAlloc env).1
    (HostMem.fillRecord env args (mem.hostEntryAlloc env).2.vrfId) fun _ => rfl
  unfold HostMem.addHostEntry
  simp only
  split
  · exact filled.free
  · rename_i addr prefixLen valid
    have addressed := filled.write (mem.hostEntryAlloc env).1
      (HostMem.fillAddr args.isIpv6Addr addr) fun _ => rfl
    split
    · exact addressed.free
    · rename_i hash reHash added
      apply addressed.link
      split
      · exact map_address_rehash outcome.order hash reHash addressed.liveNodup
      · exact List.Perm.refl _

theorem deleteHostEntry (tracked : Tracked [] mem) (outcome : EntryOutcome)
    (l3EgressId : Int) :
    Tracked [] (mem.deleteHostEntry env outcome l3EgressId).2 := by
  unfold HostMem.deleteHostEntry
  split
  · exact tracked
  · rename_i node found
    have member := (outcome.order.of_find?_visit found).1
    have isLive := tracked.both.mem_iff.mp (List.mem_map_of_mem member)
    have freed : Tracked [] ((mem.unlink node.address).hostEntryFree env node.address) :=
      (tracked.unlink isLive).free
    simp only
    split
    · exact ⟨freed.ids, freed.next, freed.placed, freed.both, freed.hashes⟩
    · exact freed

theorem entryStep (tracked : Tracked [] mem) (event : EntryEvent) :
    Tracked [] (entryStep env mem event) := by
  cases event with
  | add args outcome => exact tracked.addHostEntry outcome args
  | delete l3EgressId outcome => exact tracked.deleteHostEntry outcome l3EgressId

end Tracked

/-- What is said of the ids: live entries have distinct ids, `host_id_map` holds exactly
the live entries under their own ids, no entry is both live and free, and every id
below `next_host_id` is that of exactly one entry, which is live or free. -/
structure IdsConsistent (mem : HostMem) : Prop where
  distinct : (mem.live.map fun address => (mem.memory address).id).Nodup
  mapped : (mem.hostIdMap.map (·.address)).Perm mem.live
  underOwnIds : ∀ link ∈ mem.hostIdMap, link.hash = (mem.memory link.address).id.toNat
  apart : ∀ address ∈ mem.live, address ∉ mem.dummyHostList
  owned : ∀ id < mem.nextHostId, ∃ address,
    (address ∈ mem.live ∨ address ∈ mem.dummyHostList) ∧ (mem.memory address).id = id ∧
      ∀ other, (other ∈ mem.live ∨ other ∈ mem.dummyHostList) →
        (mem.memory other).id = id → other = address

section Ids

variable {mem : HostMem}

theorem Tracked.mem_iff (tracked : Tracked [] mem) {address : Nat} :
    address ∈ mem.live ∨ address ∈ mem.dummyHostList ↔ address < mem.allocated := by
  rw [← List.mem_append, ← List.mem_range]
  exact tracked.placed.mem_iff

/-- Below `2 ^ 32` records, the id of a record is its number. -/
theorem Tracked.toNat_id
    (tracked : Tracked [] mem)
    (unwrapped : mem.allocated < 2 ^ 32)
    {address : Nat}
    (inside : address < mem.allocated) :
    (mem.memory address).id.toNat = address := by
  rw [tracked.ids address inside, BitVec.toNat_ofNat]
  exact Nat.mod_eq_of_lt (lt_trans inside unwrapped)

theorem Tracked.idsConsistent
    (tracked : Tracked [] mem)
    (unwrapped : mem.allocated < 2 ^ 32) :
    IdsConsistent mem := by
  have number : ∀ {address}, address < mem.allocated →
      (mem.memory address).id.toNat = address :=
    tracked.toNat_id unwrapped
  constructor
  · apply tracked.liveNodup.map_on
    intro address isLive other otherLive same
    rw [← number (tracked.mem_iff.mp (.inl isLive)), same,
      number (tracked.mem_iff.mp (.inl otherLive))]
  · exact tracked.both
  · exact tracked.hashes
  · intro address isLive isFree
    have nodup : (mem.live ++ mem.dummyHostList).Nodup := tracked.nodup
    exact (List.nodup_append.mp nodup).2.2 address isLive address isFree rfl
  · intro id below
    have inside : id.toNat < mem.allocated := by
      have less := BitVec.lt_def.mp below
      rw [tracked.next, BitVec.toNat_ofNat, Nat.mod_eq_of_lt unwrapped] at less
      exact less
    refine ⟨id.toNat, tracked.mem_iff.mpr inside, ?_, ?_⟩
    · exact BitVec.eq_of_toNat_eq (number inside)
    · intro other placed same
      rw [← same, number (tracked.mem_iff.mp placed)]

end Ids

/-- In every run of adds and deletes, with any outcomes, in which fewer than `2 ^ 32`
records were allocated, the ids are consistent. -/
theorem idsConsistent_run
    (env : Env)
    (vrfId : Nat)
    (events : List EntryEvent)
    (unwrapped : (Transition.run (entryStep env) (hostMemCreate env vrfId) events).allocated <
      2 ^ 32) :
    IdsConsistent (Transition.run (entryStep env) (hostMemCreate env vrfId) events) := by
  have tracked : Tracked []
      (Transition.run (entryStep env) (hostMemCreate env vrfId) events) :=
    Transition.run_invariant (Tracked []) (fun _ event tracked => tracked.entryStep event)
      (.hostMemCreate env vrfId) events
  exact tracked.idsConsistent unwrapped

/-- The arguments for a local address. -/
def sampleArgs (ipAddr : String) : AddArgs where
  portIntfId := 0
  isIpv6Addr := false
  ipAddr := ipAddr
  nextHopMacAddr := none
  l3IntfId := 0
  vid := 0
  isLocal := true

/-- A bad address, a refused add, two adds of which the second moves the first, a delete
that fails in the hardware, and an add that uses the freed record again. -/
def recycledRun : List EntryEvent :=
  [.add (sampleArgs "10.0.0") ⟨some (5, 5), true, .id⟩,
    .add (sampleArgs "10.0.0.1/24") ⟨none, true, .id⟩,
    .add (sampleArgs "10.0.0.1/24") ⟨some (5, 5), true, .id⟩,
    .add (sampleArgs "10.0.1.1/24") ⟨some (5, 7), true, .id⟩,
    .delete 0 ⟨none, false, .id⟩,
    .add (sampleArgs "10.0.0.1/24") ⟨some (9, 9), true, .id⟩]

theorem idsConsistent_recycledRun :
    (Transition.run (entryStep sampleEnv) (hostMemCreate sampleEnv 0) recycledRun).hostMap =
        [⟨9, 0⟩, ⟨5, 1⟩] ∧
      IdsConsistent
        (Transition.run (entryStep sampleEnv) (hostMemCreate sampleEnv 0) recycledRun) :=
  ⟨by decide, idsConsistent_run sampleEnv 0 recycledRun (by decide)⟩

/-! ## The ids of the model above -/

/-- The answers to an operation on records, for the model of `Hosts.Defs`. -/
def EntryOutcome.toOutcome (outcome : EntryOutcome) : Outcome where
  addIpHostEntry := fun _ => outcome.addIpHostEntry
  removeIpHostEntryByIndex := fun _ => outcome.removeIpHostEntryByIndex
  addrOrder := .id
  shashOrder := .id
  freedId := (·.id)

/-- An event in the model of `Hosts.Defs`. -/
def idStep (env : Env) (mgr : HostMgr) : EntryEvent → HostMgr
  | .add args outcome => (Hosts.addHostEntry env outcome.toOutcome mgr args).2.2
  | .delete l3EgressId outcome =>
      (Hosts.deleteHostEntry outcome.toOutcome mgr l3EgressId).2

/-- The counter, the free list and the live ids of `Hosts.Defs` stand for those of the
records. -/
structure StandsFor (mgr : HostMgr) (mem : HostMem) : Prop where
  next : mgr.nextHostId = mem.allocated
  dummies : mgr.dummyHostList =
    mem.dummyHostList.map fun address => (mem.memory address).id.toNat
  live : (mgr.hosts.map (·.id)).Perm (mem.hostIdMap.map (·.hash))

/-- An id of 32 bits, read as an `int`. -/
theorem toInt32_toNat (id : BitVec 32) : toInt32 id.toNat = id.toInt := by
  unfold toInt32
  rw [BitVec.toInt_eq_toNat_cond]
  split <;> split <;> omega

namespace StandsFor

variable {env : Env} {mgr : HostMgr} {mem : HostMem}

theorem init (env : Env) (vrfId : Nat) :
    StandsFor (l3MgrCreate vrfId) (hostMemCreate env vrfId) :=
  ⟨rfl, rfl, List.Perm.refl _⟩

/-- The id that is allocated there is the id of the record. -/
theorem alloc
    (standsFor : StandsFor mgr mem)
    (tracked : Tracked [] mem) :
    (Hosts.hostEntryAlloc mgr).1 =
        ((mem.hostEntryAlloc env).2.memory (mem.hostEntryAlloc env).1).id.toNat ∧
      StandsFor (Hosts.hostEntryAlloc mgr).2 (mem.hostEntryAlloc env).2 := by
  have next := standsFor.next
  have dummies := standsFor.dummies
  have live := standsFor.live
  unfold Hosts.hostEntryAlloc HostMem.hostEntryAlloc
  cases free : mem.dummyHostList with
  | nil =>
      rw [free, List.map_nil] at dummies
      simp only [dummies]
      refine ⟨?_, ?_, ?_, live⟩
      · rw [Function.update_self, next]
        change _ = mem.nextHostId.toNat
        rw [tracked.next, BitVec.toNat_ofNat]
      · exact congrArg (· + 1) next
      · rfl
  | cons address rest =>
      rw [free, List.map_cons] at dummies
      simp only [dummies]
      exact ⟨trivial, next, rfl, live⟩

/-- Writing a record leaves the ids alone. -/
theorem write
    (standsFor : StandsFor mgr mem)
    (address : Nat)
    {change : HostRecord → HostRecord}
    (keeps : ∀ record, (change record).id = record.id) :
    StandsFor mgr (mem.write address change) := by
  refine ⟨standsFor.next, ?_, standsFor.live⟩
  simp only [HostMem.id_write mem address keeps]
  exact standsFor.dummies

/-- The id that is freed there is the id of the record. -/
theorem free
    (standsFor : StandsFor mgr mem)
    (address : Nat) :
    StandsFor (Hosts.hostEntryFree mgr (mem.memory address).id.toNat)
      (mem.hostEntryFree env address) := by
  have cleared := @write mgr mem standsFor address
    (fun record => .cleared env record.id) fun _ => rfl
  have sameId : ((mem.hostEntryFree env address).memory address).id =
      (mem.memory address).id :=
    @HostMem.id_write mem address (fun record => .cleared env record.id) (fun _ => rfl)
      address
  refine ⟨cleared.next, ?_, cleared.live⟩
  have dummies := cleared.dummies
  unfold Hosts.hostEntryFree
  rw [dummies, ← sameId]
  rfl

/-- An add ends in both models in the same way, with the same id. -/
theorem addHostEntry
    (standsFor : StandsFor mgr mem)
    (tracked : Tracked [] mem)
    (outcome : EntryOutcome)
    (args : AddArgs) :
    (Hosts.addHostEntry env outcome.toOutcome mgr args).1 =
        (mem.addHostEntry env outcome args).1 ∧
      (Hosts.addHostEntry env outcome.toOutcome mgr args).2.1.map toInt32 =
        (mem.addHostEntry env outcome args).2.1 ∧
      StandsFor (Hosts.addHostEntry env outcome.toOutcome mgr args).2.2
        (mem.addHostEntry env outcome args).2.2 := by
  have counted : StandsFor { mgr with calls := mgr.calls + 1 } mem :=
    ⟨standsFor.next, standsFor.dummies, standsFor.live⟩
  obtain ⟨sameId, allocated⟩ := @alloc env _ _ counted tracked
  have filled := @write _ _ allocated (mem.hostEntryAlloc env).1
    (HostMem.fillRecord env args (mem.hostEntryAlloc env).2.vrfId) fun _ => rfl
  have filledId := @HostMem.id_write (mem.hostEntryAlloc env).2 (mem.hostEntryAlloc env).1
    (HostMem.fillRecord env args (mem.hostEntryAlloc env).2.vrfId) (fun _ => rfl)
    (mem.hostEntryAlloc env).1
  unfold Hosts.addHostEntry HostMem.addHostEntry
  simp only
  cases env.stringToPrefix args.isIpv6Addr args.ipAddr with
  | none =>
      have freed := @free env _ _ filled (mem.hostEntryAlloc env).1
      rw [filledId, ← sameId] at freed
      exact ⟨rfl, rfl, freed⟩
  | some parts =>
      obtain ⟨addr, len⟩ := parts
      have addressed := @write _ _ filled (mem.hostEntryAlloc env).1
        (HostMem.fillAddr args.isIpv6Addr addr) fun _ => rfl
      have addressedId := (@HostMem.id_write _ (mem.hostEntryAlloc env).1
        (HostMem.fillAddr args.isIpv6Addr addr) (fun _ => rfl)
        (mem.hostEntryAlloc env).1).trans filledId
      simp only [EntryOutcome.toOutcome]
      cases outcome.addIpHostEntry with
      | none =>
          have freed := @free env _ _ addressed (mem.hostEntryAlloc env).1
          rw [addressedId, ← sameId] at freed
          exact ⟨rfl, rfl, freed⟩
      | some indices =>
          obtain ⟨hash, reHash⟩ := indices
          refine ⟨rfl, ?_, addressed.next, addressed.dummies, ?_⟩
          · simp only [addressedId, Option.map_some, sameId, toInt32_toNat]
          · have moved : ∀ hosts : List HostEntry,
                (if hash ≠ reHash then
                    KeyedList.rewrite (·.index) hash
                      (fun old => { old with index := reHash }) hosts
                  else hosts).map (·.id) = hosts.map (·.id) := by
              intro hosts
              split
              · exact KeyedList.map_rewrite fun _ _ _ => rfl
              · rfl
            simp only [List.map_cons, moved, addressedId, ← sameId]
            exact addressed.live.cons _

theorem exists_live_iff (standsFor : StandsFor mgr mem) (id : Nat) :
    (∃ e ∈ mgr.hosts, e.id = id) ↔ ∃ link ∈ mem.hostIdMap, link.hash = id := by
  rw [← List.mem_map, ← List.mem_map]
  exact standsFor.live.mem_iff

/-- Both models take the entry with an id out. -/
theorem unlink
    (standsFor : StandsFor mgr mem)
    (tracked : Tracked [] mem)
    {l3EgressId : Int}
    {e : HostEntry}
    {node : Link}
    (isEntry : hostById mgr l3EgressId = some e)
    (visited : node ∈ mem.hostIdMap)
    (sameId : e.id = node.hash) :
    StandsFor { mgr with hosts := mgr.hosts.eraseP (·.id == sizeT l3EgressId) }
      (mem.unlink node.address) := by
  have idNodup := tracked.both.nodup_iff.mpr tracked.liveNodup
  refine ⟨standsFor.next, standsFor.dummies, ?_⟩
  have erased := (KeyedList.perm_cons_eraseP isEntry).map (·.id)
  have removed := (KeyedList.perm_cons_remove idNodup visited rfl).map (·.hash)
  have both := (erased.symm.trans standsFor.live).trans removed
  rw [List.map_cons, List.map_cons, sameId] at both
  exact both.cons_inv

/-- A delete finds an entry in both models or in none. -/
theorem deleteHostEntry
    (standsFor : StandsFor mgr mem)
    (tracked : Tracked [] mem)
    (outcome : EntryOutcome)
    (l3EgressId : Int) :
    (Hosts.deleteHostEntry outcome.toOutcome mgr l3EgressId).1 =
        (mem.deleteHostEntry env outcome l3EgressId).1 ∧
      StandsFor (Hosts.deleteHostEntry outcome.toOutcome mgr l3EgressId).2
        (mem.deleteHostEntry env outcome l3EgressId).2 := by
  unfold Hosts.deleteHostEntry HostMem.deleteHostEntry
  cases found : (outcome.order.visit mem.hostIdMap).find? (·.hash == sizeT l3EgressId) with
  | none =>
      have absent : hostById mgr l3EgressId = none := by
        rw [hostById, List.find?_eq_none]
        intro e member passes
        obtain ⟨link, linked, same⟩ :=
          (standsFor.exists_live_iff e.id).mp ⟨e, member, rfl⟩
        refine List.find?_eq_none.mp found link (outcome.order.mem_visit.mpr linked) ?_
        rw [same]
        exact passes
      rw [absent]
      exact ⟨rfl, standsFor⟩
  | some node =>
      obtain ⟨visited, sameHash⟩ := outcome.order.of_find?_visit found
      have sized : node.hash = sizeT l3EgressId := by simpa using sameHash
      obtain ⟨e, isEntry⟩ : ∃ e, hostById mgr l3EgressId = some e := by
        rw [← Option.isSome_iff_exists, hostById, List.find?_isSome]
        obtain ⟨e, member, same⟩ :=
          (standsFor.exists_live_iff node.hash).mpr ⟨node, visited, rfl⟩
        exact ⟨e, member, by simpa [same] using sized⟩
      have sameId : e.id = node.hash := by
        have passes := List.find?_some isEntry
        rw [sized]
        simpa using passes
      have unlinked := standsFor.unlink tracked isEntry visited sameId
      have freed := @free env _ _ unlinked node.address
      have ownId : ((mem.unlink node.address).memory node.address).id.toNat = e.id :=
        (sameId.trans (tracked.hashes node visited)).symm
      rw [ownId] at freed
      rw [isEntry]
      obtain ⟨_, accepted, order⟩ := outcome
      cases accepted with
      | true => exact ⟨rfl, freed.next, freed.dummies, freed.live⟩
      | false => exact ⟨rfl, freed⟩

theorem step
    (standsFor : StandsFor mgr mem)
    (tracked : Tracked [] mem)
    (event : EntryEvent) :
    StandsFor (idStep env mgr event) (Hosts.entryStep env mem event) := by
  cases event with
  | add args outcome => exact (standsFor.addHostEntry tracked outcome args).2.2
  | delete l3EgressId outcome =>
      exact (standsFor.deleteHostEntry tracked outcome l3EgressId).2

end StandsFor

/-- In every run the ids of `Hosts.Defs` are those of the records: it has the same
counter, the same free list and the same live ids, and the next add gives out the same
id. -/
theorem standsFor_run
    (env : Env)
    (vrfId : Nat)
    (events : List EntryEvent) :
    StandsFor (Transition.run (idStep env) (l3MgrCreate vrfId) events)
      (Transition.run (entryStep env) (hostMemCreate env vrfId) events) := by
  suffices general : ∀ mgr mem, StandsFor mgr mem → Tracked [] mem →
      StandsFor (Transition.run (idStep env) mgr events)
        (Transition.run (entryStep env) mem events) from
    general _ _ (.init env vrfId) (.hostMemCreate env vrfId)
  induction events with
  | nil =>
      intro mgr mem standsFor _
      exact standsFor
  | cons event events inductionHypothesis =>
      intro mgr mem standsFor tracked
      exact inductionHypothesis _ _ (standsFor.step tracked event)
        (tracked.entryStep event)

end Hosts
end XpliantSwitchd
