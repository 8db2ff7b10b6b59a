import XpliantSwitchd.Basic
import XpliantSwitchd.Lib.Traversal
import XpliantSwitchd.Lib.KeyedList

/-!
# Host entries and the addresses of bundles

This module embeds the host half of `ops-xp-routing.c` and the functions of
`ops-xp-ofproto-provider.c` that keep a host entry for each address of a bundle.
An address record knows its host entry by an id only.  Ids are given out in
order and are used again through `dummy_host_list`.

Calls of `ops_xp_routing_add_host_entry` are numbered.  The number of the call
that made a host entry is kept with the entry, the number of the latest
successful call for an address record is kept with the record, and each delete
for a record is noted with what it removed.  The code reads none of this.
-/

namespace XpliantSwitchd
namespace Hosts

/-- `xpsL3HostEntry_t`. -/
structure XpHost where
  isIpv6 : Bool
  addr : List UInt8
  vrfId : Nat
  nhEntry : L3NextHopEntry
  deriving DecidableEq

/-- `xp_host_entry_t`.  `index` is the hash of its node in `host_map` and `id`
the one of its node in `host_id_map`; a live entry is in both maps. -/
structure HostEntry where
  id : Nat
  index : Nat
  isIpv6Addr : Bool
  destAddr : List UInt8
  macAddr : MacAddr
  xpHost : XpHost
  call : Nat
  deriving DecidableEq

/-- A delete for an address record: the call that made the record's host entry
and the call that made the entry removed. -/
structure Removal where
  owner : Option Nat
  removed : Option Nat
  deriving DecidableEq

/-- The host half of `xp_l3_mgr_t` with the hardware host table behind it.
`nextHostId` counts the fresh ids; the `uint32_t` of the source is its value
modulo `2 ^ 32`. -/
structure HostMgr where
  vrfId : Nat
  nextHostId : Nat
  dummyHostList : List Nat
  hosts : List HostEntry
  hw : List (Nat × XpHost)
  calls : Nat
  removals : List Removal

/-- What the code takes from outside: the parsers, and constants of the XDK. -/
structure Env where
  stringToPrefix : (isIpv6 : Bool) → String → Option (List UInt8 × Nat)
  etherAton : String → Option MacAddr
  hostTableHit : Nat
  zeroCmd : PktCmd
  invalidId : Nat

/-- `xp_net_addr_t`, with the call that made its host entry. -/
structure NetAddr where
  id : Nat
  address : String
  owner : Option Nat
  deriving DecidableEq

/-- What the XDK and the hash tables do during one operation, and what a read
through `bundle->ip6addr` yields after it has been freed.  An add returns the
index of the new entry and the index to which its occupant was moved. -/
structure Outcome where
  addIpHostEntry : (call : Nat) → Option (Nat × Nat)
  removeIpHostEntryByIndex : (index : Nat) → Bool
  addrOrder : Traversal NetAddr
  shashOrder : Traversal String
  freedId : NetAddr → Nat

/-- `ops_xp_l3_mgr_create`. -/
def l3MgrCreate (vrfId : Nat) : HostMgr where
  vrfId := vrfId
  nextHostId := 0
  dummyHostList := []
  hosts := []
  hw := []
  calls := 0
  removals := []

/-! ## Host entries -/

/-- `host_entry_alloc`. -/
def hostEntryAlloc (mgr : HostMgr) : Nat × HostMgr :=
  match mgr.dummyHostList with
  | [] => (mgr.nextHostId % 2 ^ 32, { mgr with nextHostId := mgr.nextHostId + 1 })
  | id :: rest => (id, { mgr with dummyHostList := rest })

/-- `host_entry_free`. -/
def hostEntryFree (mgr : HostMgr) (id : Nat) : HostMgr :=
  { mgr with dummyHostList := id :: mgr.dummyHostList }

/-- The arguments of `ops_xp_routing_add_host_entry`. -/
structure AddArgs where
  portIntfId : Nat
  isIpv6Addr : Bool
  ipAddr : String
  nextHopMacAddr : Option String
  l3IntfId : Nat
  vid : Nat
  isLocal : Bool
  deriving DecidableEq

/-- The next hop that an add writes into a cleared entry. -/
def hostNextHop (env : Env) (args : AddArgs) : L3NextHopEntry :=
  let zero : L3NextHopEntry :=
    { macDa := Vector.replicate 6 0, egressIntfId := 0, l3InterfaceId := 0,
      serviceInstId := 0, pktCmd := env.zeroCmd, propTTL := false, reasonCode := 0 }
  if args.isLocal then { zero with reasonCode := env.hostTableHit }
  else
    { zero with
      l3InterfaceId := args.l3IntfId
      egressIntfId := args.portIntfId
      serviceInstId := args.vid
      pktCmd := .fwd
      macDa :=
        match args.nextHopMacAddr.bind env.etherAton with
        | some mac => macCopyAndReverse mac
        | none => zero.macDa }

/-- `ops_xp_routing_add_host_entry`.  The second component is what is written to
`*l3_egress_id`. -/
def addHostEntry (env : Env) (xdk : Outcome) (mgr : HostMgr) (args : AddArgs) :
    Option Errno × Option Nat × HostMgr :=
  let (id, mgr) := hostEntryAlloc { mgr with calls := mgr.calls + 1 }
  match env.stringToPrefix args.isIpv6Addr args.ipAddr with
  | none => (some .EPFNOSUPPORT, none, hostEntryFree mgr id)
  | some (addr, _) =>
      let call := mgr.calls - 1
      match xdk.addIpHostEntry call with
      | none => (some .EAGAIN, none, hostEntryFree mgr id)
      | some (hash, rehash) =>
          let xpHost : XpHost :=
            { isIpv6 := args.isIpv6Addr, addr := addr, vrfId := mgr.vrfId,
              nhEntry := hostNextHop env args }
          let e : HostEntry :=
            { id := id, index := hash, isIpv6Addr := args.isIpv6Addr,
              destAddr := addr
              macAddr :=
                if args.isLocal then Vector.replicate 6 0
                else (args.nextHopMacAddr.bind env.etherAton).getD
                  (Vector.replicate 6 0)
              xpHost := xpHost, call := call }
          let hosts :=
            if hash ≠ rehash then
              KeyedList.rewrite (·.index) hash (fun old => { old with index := rehash })
                mgr.hosts
            else mgr.hosts
          (none, some id, { mgr with
            hosts := e :: hosts
            hw := (hash, xpHost) ::
              KeyedList.rewrite Prod.fst hash (fun slot => (rehash, slot.2)) mgr.hw })

/-- A `uint32_t` read as an `int`. -/
def toInt32 (id : Nat) : Int := if id < 2 ^ 31 then id else (id : Int) - 2 ^ 32

/-- `hmap_first_with_hash` on `host_id_map`. -/
def hostById (mgr : HostMgr) (l3EgressId : Int) : Option HostEntry :=
  mgr.hosts.find? (·.id == sizeT l3EgressId)

/-- `ops_xp_routing_delete_host_entry`. -/
def deleteHostEntry (xdk : Outcome) (mgr : HostMgr) (l3EgressId : Int) :
    Option Errno × HostMgr :=
  match hostById mgr l3EgressId with
  | none => (none, mgr)
  | some e =>
      let mgr := { mgr with hosts := mgr.hosts.eraseP (·.id == sizeT l3EgressId) }
      let mgr := hostEntryFree mgr e.id
      if xdk.removeIpHostEntryByIndex e.index then
        (none, { mgr with hw := KeyedList.remove Prod.fst e.index mgr.hw })
      else (some .EHOSTDOWN, mgr)

/-! ## Address records -/

/-- Delete the host entry of a record, through an id. -/
def deleteForRecord (xdk : Outcome) (mgr : HostMgr) (addr : NetAddr) (id : Nat) :
    HostMgr :=
  let removed := (hostById mgr (toInt32 id)).map (·.call)
  let mgr := (deleteHostEntry xdk mgr (toInt32 id)).2
  { mgr with removals := ⟨addr.owner, removed⟩ :: mgr.removals }

/-- Delete the host entry of a record. -/
def deleteRecord (xdk : Outcome) (mgr : HostMgr) (addr : NetAddr) : HostMgr :=
  deleteForRecord xdk mgr addr addr.id

/-- Add a local host entry for a record.  A failed add leaves the record's id. -/
def addForRecord (env : Env) (xdk : Outcome) (mgr : HostMgr) (isIpv6 : Bool)
    (addr : NetAddr) : NetAddr × HostMgr :=
  let (_, l3EgressId, mgr) := addHostEntry env xdk mgr
    { portIntfId := env.invalidId, isIpv6Addr := isIpv6, ipAddr := addr.address,
      nextHopMacAddr := none, l3IntfId := env.invalidId, vid := 0, isLocal := true }
  match l3EgressId with
  | some id => ({ addr with id := id, owner := some (mgr.calls - 1) }, mgr)
  | none => (addr, mgr)

/-- The address records of a `struct bundle_xpliant`. -/
structure BundleIps where
  ip4addr : Option NetAddr
  ip6addr : Option NetAddr
  secondaryIp4addr : List NetAddr
  secondaryIp6addr : List NetAddr
  deriving DecidableEq

/-- A bundle without addresses. -/
def BundleIps.empty : BundleIps :=
  { ip4addr := none, ip6addr := none, secondaryIp4addr := [], secondaryIp6addr := [] }

/-- The IP part of `struct ofproto_bundle_settings`. -/
structure Settings where
  primaryIpv4Changed : Bool
  primaryIpv6Changed : Bool
  secondaryIpv4Changed : Bool
  secondaryIpv6Changed : Bool
  ip4Address : Option String
  ip6Address : Option String
  ip4AddressSecondary : List String
  ip6AddressSecondary : List String
  deriving DecidableEq

/-- A record as `xzalloc` leaves it, with its address. -/
def NetAddr.new (address : String) : NetAddr :=
  { id := 0, address := address, owner := none }

/-- The part of `port_ip_reconfigure` for the primary address of a family. -/
def primaryReconfigure (env : Env) (xdk : Outcome) (isIpv6 : Bool) (mgr : HostMgr)
    (current : Option NetAddr) (requested : Option String) :
    Option NetAddr × HostMgr :=
  match requested, current with
  | some address, some addr =>
      if addr.address ≠ address then
        let mgr := deleteRecord xdk mgr addr
        let (addr, mgr) := addForRecord env xdk mgr isIpv6
          { addr with address := address }
        (some addr, mgr)
      else (some addr, mgr)
  | some address, none =>
      let (addr, mgr) := addForRecord env xdk mgr isIpv6 (.new address)
      (some addr, mgr)
  | none, some addr => (none, deleteRecord xdk mgr addr)
  | none, none => (none, mgr)

/-- `shash_add_once`. -/
def shashAddOnce (newIpList : List String) (address : String) : List String :=
  if address ∈ newIpList then newIpList else newIpList ++ [address]

/-- `port_ip4_addr_find` and `port_ip6_addr_find`. -/
def portIpAddrFind (secondary : List NetAddr) (address : String) : Option NetAddr :=
  secondary.find? (·.address == address)

/-- One round of the second loop of the secondary reconcilers. -/
def addSecondary (env : Env) (xdk : Outcome) (isIpv6 : Bool)
    (state : List NetAddr × HostMgr) (address : String) : List NetAddr × HostMgr :=
  match portIpAddrFind state.1 address with
  | some _ => state
  | none =>
      let (addr, mgr) := addForRecord env xdk state.2 isIpv6 (.new address)
      (addr :: state.1, mgr)

/-- `port_config_secondary_ipv4_addr` and `port_config_secondary_ipv6_addr`. -/
def portConfigSecondaryAddr (env : Env) (xdk : Outcome) (isIpv6 : Bool)
    (mgr : HostMgr) (secondary : List NetAddr) (requested : List String) :
    List NetAddr × HostMgr :=
  let newIpList := requested.foldl shashAddOnce []
  let mgr := ((xdk.addrOrder.visit secondary).filter (·.address ∉ newIpList)).foldl
    (deleteRecord xdk) mgr
  let secondary := secondary.filter (·.address ∈ newIpList)
  (xdk.shashOrder.visit newIpList).foldl (addSecondary env xdk isIpv6) (secondary, mgr)

/-- `port_ip_reconfigure`. -/
def portIpReconfigure (env : Env) (xdk : Outcome) (mgr : HostMgr) (ips : BundleIps)
    (s : Settings) : BundleIps × HostMgr :=
  let (ip4addr, mgr) :=
    if s.primaryIpv4Changed then
      primaryReconfigure env xdk false mgr ips.ip4addr s.ip4Address
    else (ips.ip4addr, mgr)
  let (ip6addr, mgr) :=
    if s.primaryIpv6Changed then
      primaryReconfigure env xdk true mgr ips.ip6addr s.ip6Address
    else (ips.ip6addr, mgr)
  let (secondaryIp4addr, mgr) :=
    if s.secondaryIpv4Changed then
      portConfigSecondaryAddr env xdk false mgr ips.secondaryIp4addr
        s.ip4AddressSecondary
    else (ips.secondaryIp4addr, mgr)
  let (secondaryIp6addr, mgr) :=
    if s.secondaryIpv6Changed then
      portConfigSecondaryAddr env xdk true mgr ips.secondaryIp6addr
        s.ip6AddressSecondary
    else (ips.secondaryIp6addr, mgr)
  (⟨ip4addr, ip6addr, secondaryIp4addr, secondaryIp6addr⟩, mgr)

/-- `port_unconfigure_ips`.  The last loop goes through `bundle->ip6addr`, which
is freed or null by then. -/
def portUnconfigureIps (xdk : Outcome) (mgr : HostMgr) (ips : BundleIps) : HostMgr :=
  let mgr := ips.ip4addr.toList.foldl (deleteRecord xdk) mgr
  let mgr := (xdk.addrOrder.visit ips.secondaryIp4addr).foldl (deleteRecord xdk) mgr
  let mgr := ips.ip6addr.toList.foldl (deleteRecord xdk) mgr
  (xdk.addrOrder.visit ips.secondaryIp6addr).foldl
    (fun mgr addr => deleteForRecord xdk mgr addr (xdk.freedId addr)) mgr

/-! ## The manager, the bundles and the neighbours -/

/-- A neighbour's host entry: its id, which the switch daemon holds as an `int`,
and the call that made the entry. -/
structure Neighbour where
  id : Nat
  call : Nat
  deriving DecidableEq

/-- The `l3_egress_id` of a neighbour. -/
def Neighbour.l3EgressId (neighbour : Neighbour) : Int := toInt32 neighbour.id

/-- A manager with the bundles of its ofproto and the neighbours. -/
structure System where
  mgr : HostMgr
  bundles : List (Nat × BundleIps)
  neighbours : List Neighbour

/-- The operations. -/
inductive Event
  | reconfigure (bundle : Nat) (s : Settings)
  | destroy (bundle : Nat)
  | remoteAdd (args : AddArgs)
  | remoteDelete (l3EgressId : Int)

/-- An operation together with what the XDK does during it. -/
structure Operation where
  event : Event
  xdk : Outcome

/-- The addresses of a bundle; a bundle that does not exist yet is created
without any. -/
def System.ips (system : System) (bundle : Nat) : BundleIps :=
  ((system.bundles.find? (·.1 == bundle)).map Prod.snd).getD .empty

/-- The state after an operation. -/
def step (env : Env) (system : System) (operation : Operation) : System :=
  match operation.event with
  | .reconfigure bundle s =>
      let (ips, mgr) := portIpReconfigure env operation.xdk system.mgr
        (system.ips bundle) s
      { system with
        mgr := mgr
        bundles := (bundle, ips) :: KeyedList.remove Prod.fst bundle system.bundles }
  | .destroy bundle =>
      { system with
        mgr := portUnconfigureIps operation.xdk system.mgr (system.ips bundle)
        bundles := KeyedList.remove Prod.fst bundle system.bundles }
  | .remoteAdd args =>
      let (_, l3EgressId, mgr) := addHostEntry env operation.xdk system.mgr
        { args with isLocal := false }
      match l3EgressId with
      | some id =>
          { system with
            mgr := mgr
            neighbours := ⟨id, mgr.calls - 1⟩ :: system.neighbours }
      | none => { system with mgr := mgr }
  | .remoteDelete l3EgressId =>
      { system with
        mgr := (deleteHostEntry operation.xdk system.mgr l3EgressId).2
        neighbours := KeyedList.remove Neighbour.l3EgressId l3EgressId system.neighbours }

end Hosts
end XpliantSwitchd
