import XpliantSwitchd.Basic
import XpliantSwitchd.Lib.Traversal
import XpliantSwitchd.Lib.KeyedList

/-!
# Routes and next-hop groups

This module embeds the route half of `ops-xp-routing.c`.  Routes share ECMP
next-hop groups by reference.  A group lives on a heap of its own and is found
for reuse through `nh_group_map`; a route holds a reference or none.  A group
that has been allocated but not yet published in `nh_group_map` is reachable
from one local pointer only and is therefore passed around as a value.

Reads of a freed group have no defined result in C.  They yield `NhGroup.freed`
here, and the invariants proved later show that they do not happen.
-/

namespace XpliantSwitchd
namespace Routing

/-- Address families of a route. -/
inductive Family
  | ipv4 | ipv6
  deriving DecidableEq, Repr

/-- Resolution state of a requested next hop. -/
inductive NhState
  | unresolved | resolved
  deriving DecidableEq, Repr

/-- Whether a requested next hop is a port or an address. -/
inductive NhType
  | ipaddr | port
  deriving DecidableEq, Repr

/-- `struct ofproto_route_nexthop`.  The error text of the source is
`strerror` of `rc` and is not kept separately. -/
structure RouteNexthop where
  id : String
  state : NhState
  type : NhType
  l3EgressId : Int
  rc : Option Errno := none
  deriving DecidableEq

/-- `struct ofproto_route`. -/
structure OfprotoRoute where
  family : Family
  ipPrefix : String
  nexthops : List RouteNexthop
  deriving DecidableEq

/-- `enum ofproto_route_action`, with one value for the ones the code does not
know. -/
inductive RouteAction
  | add | delete | deleteNh | unknown
  deriving DecidableEq, Repr

/-- The part of a host entry that a resolved next hop copies. -/
structure HostEntry where
  id : Nat
  nhEntry : L3NextHopEntry
  deriving DecidableEq

/-- `xp_nh_entry_t`: one next hop of a group. -/
structure NhEntry where
  xpNh : L3NextHopEntry
  xpNhId : Nat
  id : String
  nhPort : Bool
  deriving DecidableEq

/-- `xp_nh_group_entry_t`.  The nodes of `nh_map` are kept in insertion
order. -/
structure NhGroup where
  nhMap : List NhEntry
  refCnt : Nat
  nhId : Nat
  size : Nat
  hash : Nat
  deriving DecidableEq

/-- What a read of a freed group yields. -/
def NhGroup.freed : NhGroup :=
  { nhMap := [], refCnt := 0, nhId := 0, size := 0, hash := 0 }

/-- The next-hop ids held by a group. -/
def NhGroup.ids (group : NhGroup) : List String := group.nhMap.map (·.id)

/-- Pointers to published groups. -/
abbrev GroupRef := Nat

/-- `xpsL3RouteEntry_t`. -/
structure XpRoute where
  family : Family
  addr : List UInt8
  ipMaskLen : Nat
  vrfId : Nat
  nhEcmpSize : Nat
  nhId : Nat
  deriving DecidableEq

/-- `xp_route_entry_t`. -/
structure RouteEntry where
  ipPrefix : String
  refCnt : Nat
  xpRoute : XpRoute
  nhGroup : Option GroupRef
  deriving DecidableEq

/-- One call of `xpsL3DestroyRouteNextHop`: its `(size, base)` block, the blocks
that had been created and not destroyed when it was issued, and the entries
that the routes of `route_map` had in hardware at that moment. -/
structure DestroyCall where
  block : Nat × Nat
  outstanding : List (Nat × Nat)
  routes : List XpRoute
  deriving DecidableEq

/-- The hardware next-hop table.  A programmed slot remembers, beside its
contents, the id of the next hop it was programmed for.  `blocks` are the
`(size, base)` blocks that were created and for which no destroy call has been
issued; `destroyed` lists the destroy calls, the latest first. -/
structure NextHopTable where
  slots : Nat → Option (String × L3NextHopEntry)
  blocks : List (Nat × Nat)
  destroyed : List DestroyCall

/-- The route half of `xp_l3_mgr_t` with the hardware table behind it. -/
structure L3Mgr where
  vrfId : Nat
  hostIdMap : List HostEntry
  routeMap : List RouteEntry
  groups : GroupRef → Option NhGroup
  nextRef : GroupRef
  nhGroupMap : List GroupRef
  hw : NextHopTable

/-- What the routing code takes from outside: the string hash of OVS, the
limit `OFPROTO_MAX_NH_PER_ROUTE`, the prefix parser, and the packet command
that the XDK numbers `0`. -/
structure Env where
  hashString : String → Nat → Nat
  maxNhPerRoute : Nat
  stringToPrefix : Family → String → Option (List UInt8 × Nat)
  zeroCmd : PktCmd

/-- What the XDK and the hash tables do during one request.  Every call of the
XDK succeeds or fails on its own: a next-hop block is created at some base or
not at all, each slot is set or cleared or not, and the route is written or
not.  The outcome of a destroy or remove call is only logged by the source. -/
structure Outcome where
  createRouteNextHop : Nat → Option Nat
  setRouteNextHop : Nat → Bool
  clearRouteNextHop : Nat → Bool
  addIpRouteEntry : Bool
  updateIpRouteEntry : Bool
  nhOrder : Traversal NhEntry
  groupOrder : Traversal GroupRef

/-- One call of `ops_xp_routing_route_entry_action`. -/
structure Request where
  action : RouteAction
  route : OfprotoRoute
  xdk : Outcome

/-- `ops_xp_l3_mgr_create`, with the host entries the manager holds. -/
def l3MgrCreate (vrfId : Nat) (hosts : List HostEntry) : L3Mgr where
  vrfId := vrfId
  hostIdMap := hosts
  routeMap := []
  groups := fun _ => none
  nextRef := 0
  nhGroupMap := []
  hw := { slots := fun _ => none, blocks := [], destroyed := [] }

/-! ## Groups -/

/-- Follow a pointer to a published group. -/
def deref (mgr : L3Mgr) (ref : GroupRef) : NhGroup :=
  (mgr.groups ref).getD NhGroup.freed

/-- Write a published group. -/
def store (mgr : L3Mgr) (ref : GroupRef) (group : Option NhGroup) : L3Mgr :=
  { mgr with groups := Function.update mgr.groups ref group }

/-- `nh_group_alloc`. -/
def nhGroupAlloc (env : Env) (xdk : Outcome) (mgr : L3Mgr) (size : Nat) :
    Option NhGroup × L3Mgr :=
  if size > env.maxNhPerRoute then (none, mgr)
  else
    match xdk.createRouteNextHop size with
    | none => (none, mgr)
    | some nhId =>
        (some { nhMap := [], refCnt := 1, nhId := nhId, size := size, hash := 0 },
          { mgr with hw := { mgr.hw with blocks := (size, nhId) :: mgr.hw.blocks } })

/-- `nh_group_free`: the destroy call, and the memory when the group had been
published at `published`. -/
def nhGroupFree (mgr : L3Mgr) (group : NhGroup) (published : Option GroupRef) :
    L3Mgr :=
  let block := (group.size, group.nhId)
  let mgr := { mgr with hw := { mgr.hw with
    blocks := mgr.hw.blocks.erase block
    destroyed :=
      { block := block
        outstanding := mgr.hw.blocks
        routes := mgr.routeMap.map (·.xpRoute) } :: mgr.hw.destroyed } }
  match published with
  | none => mgr
  | some ref => store mgr ref none

/-- Clear the hardware slots of a list of next hops. -/
def clearNextHops (xdk : Outcome) (hw : NextHopTable) (entries : List NhEntry) :
    NextHopTable :=
  entries.foldl (fun hw entry =>
    if xdk.clearRouteNextHop entry.xpNhId then
      { hw with slots := Function.update hw.slots entry.xpNhId none }
    else hw) hw

/-- `nh_group_delete`. -/
def nhGroupDelete (xdk : Outcome) (mgr : L3Mgr) (group : NhGroup)
    (published : Option GroupRef) : L3Mgr :=
  let mgr := match published with
    | none => mgr
    | some ref => { mgr with nhGroupMap := mgr.nhGroupMap.erase ref }
  let hw := clearNextHops xdk mgr.hw (xdk.nhOrder.visit group.nhMap)
  nhGroupFree { mgr with hw := hw } group published

/-- `nh_group_unref`. -/
def nhGroupUnref (xdk : Outcome) (mgr : L3Mgr) : Option GroupRef → L3Mgr
  | none => mgr
  | some ref =>
      let group := deref mgr ref
      if group.refCnt = 1 then
        nhGroupDelete xdk mgr { group with refCnt := 0 } (some ref)
      else
        store mgr ref (some { group with refCnt := group.refCnt - 1 })

/-- Take one more reference to a published group. -/
def nhGroupRef (mgr : L3Mgr) (ref : GroupRef) : L3Mgr :=
  let group := deref mgr ref
  store mgr ref (some { group with refCnt := group.refCnt + 1 })

/-- Program the slots of a list of next hops, stopping at the first
failure. -/
def setNextHops (xdk : Outcome) : NextHopTable → List NhEntry →
    NextHopTable × Bool
  | hw, [] => (hw, true)
  | hw, entry :: entries =>
      if xdk.setRouteNextHop entry.xpNhId then
        setNextHops xdk
          { hw with slots :=
            Function.update hw.slots entry.xpNhId (some (entry.id, entry.xpNh)) }
          entries
      else (hw, false)

/-- Insertion of a group into `nh_group_map`. -/
def publish (mgr : L3Mgr) (group : NhGroup) : L3Mgr :=
  { mgr with
    groups := Function.update mgr.groups mgr.nextRef (some group)
    nextRef := mgr.nextRef + 1
    nhGroupMap := mgr.nextRef :: mgr.nhGroupMap }

/-- `nh_group_add`: the reference under which the group is published, or
`none` for `EHOSTUNREACH`. -/
def nhGroupAdd (xdk : Outcome) (mgr : L3Mgr) (group : NhGroup) :
    Option GroupRef × L3Mgr :=
  match setNextHops xdk mgr.hw (xdk.nhOrder.visit group.nhMap) with
  | (hw, false) => (none, { mgr with hw := hw })
  | (hw, true) => (some mgr.nextRef, publish { mgr with hw := hw } group)

/-- `nh_insert`. -/
def nhInsert (env : Env) (group : NhGroup) (nh : NhEntry) : NhGroup :=
  let count := group.nhMap.length + 1
  { group with
    nhMap := group.nhMap ++ [{ nh with xpNhId := group.nhId + group.nhMap.length }]
    hash := env.hashString nh.id group.hash
    size := if count > group.size then count else group.size }

/-- Copy next hops into a group in the given order, as the loops around
`nh_dup` do. -/
def nhInsertAll (env : Env) (group : NhGroup) (entries : List NhEntry) :
    NhGroup :=
  entries.foldl (nhInsert env) group

/-- `hmap_first_with_hash` on `host_id_map`. -/
def hostById (hosts : List HostEntry) (l3EgressId : Int) : Option HostEntry :=
  hosts.find? (·.id == sizeT l3EgressId)

/-- `nh_update`, on the host entries in `host_id_map`. -/
def nhUpdate (hosts : List HostEntry) (nh : NhEntry) (request : RouteNexthop) :
    Except Errno NhEntry :=
  match request.state with
  | .resolved =>
      match hostById hosts request.l3EgressId with
      | none => .error .EHOSTUNREACH
      | some host =>
          .ok { nh with xpNh := { nh.xpNh with
            macDa := host.nhEntry.macDa
            egressIntfId := host.nhEntry.egressIntfId
            l3InterfaceId := host.nhEntry.l3InterfaceId
            serviceInstId := host.nhEntry.serviceInstId
            pktCmd := .fwd
            propTTL := false } }
  | .unresolved =>
      .ok { nh with xpNh := { nh.xpNh with
        pktCmd := if nh.xpNh.pktCmd ≠ .fwd then .trap else nh.xpNh.pktCmd
        propTTL := false } }

/-- A next hop as `xzalloc` leaves it. -/
def nhZero (env : Env) : NhEntry where
  xpNh :=
    { macDa := Vector.replicate 6 0, egressIntfId := 0, l3InterfaceId := 0,
      serviceInstId := 0, pktCmd := env.zeroCmd, propTTL := false,
      reasonCode := 0 }
  xpNhId := 0
  id := ""
  nhPort := false

/-- `nh_create`. -/
def nhCreate (env : Env) (hosts : List HostEntry) (request : RouteNexthop) :
    Option NhEntry :=
  match nhUpdate hosts (nhZero env) request with
  | .error _ => none
  | .ok nh =>
      some { nh with id := request.id, nhPort := request.type = .port }

/-- `nh_lookup` in a group. -/
def nhLookup (xdk : Outcome) (group : NhGroup) (id : String) : Option NhEntry :=
  (xdk.nhOrder.visit group.nhMap).find? (·.id == id)

/-- Rewrite the node of `nh_map` that sits in the same hardware slot. -/
def NhGroup.replace (group : NhGroup) (nh : NhEntry) : NhGroup :=
  { group with nhMap :=
      KeyedList.rewrite (·.xpNhId) nh.xpNhId (fun _ => nh) group.nhMap }

/-- `nh_group_lookup_by_route`: the matching group, with a reference taken. -/
def nhGroupLookupByRoute (env : Env) (xdk : Outcome) (mgr : L3Mgr)
    (route : OfprotoRoute) : Option GroupRef :=
  let hash := route.nexthops.foldl (fun hash nh => env.hashString nh.id hash) 0
  (xdk.groupOrder.visit mgr.nhGroupMap).find? fun ref =>
    (deref mgr ref).hash == hash &&
    (deref mgr ref).size == route.nexthops.length &&
    route.nexthops.all fun nh => (nhLookup xdk (deref mgr ref) nh.id).isSome

/-- `nh_group_lookup_by_group`: the matching group, before a reference is
taken. -/
def nhGroupLookupByGroup (xdk : Outcome) (mgr : L3Mgr) (group : NhGroup) :
    Option GroupRef :=
  (xdk.groupOrder.visit mgr.nhGroupMap).find? fun ref =>
    (deref mgr ref).hash == group.hash &&
    (deref mgr ref).size == group.size &&
    (xdk.nhOrder.visit group.nhMap).all fun nh =>
      (nhLookup xdk (deref mgr ref) nh.id).isSome

/-! ## Routes -/

/-- The route of a prefix in `route_map`. -/
def findRoute (mgr : L3Mgr) (ipPrefix : String) : Option RouteEntry :=
  mgr.routeMap.find? (·.ipPrefix == ipPrefix)

/-- Write the fields of the route of a prefix. -/
def modifyRoute (mgr : L3Mgr) (ipPrefix : String)
    (change : RouteEntry → RouteEntry) : L3Mgr :=
  { mgr with routeMap :=
      KeyedList.rewrite (·.ipPrefix) ipPrefix change mgr.routeMap }

/-- `route_lookup`: takes a reference to the route it finds. -/
def routeLookup (mgr : L3Mgr) (ipPrefix : String) :
    Option RouteEntry × L3Mgr :=
  match findRoute mgr ipPrefix with
  | none => (none, mgr)
  | some route =>
      (some route, modifyRoute mgr ipPrefix fun route =>
        { route with refCnt := route.refCnt + 1 })

/-- `route_delete`. -/
def routeDelete (xdk : Outcome) (mgr : L3Mgr) (route : RouteEntry) : L3Mgr :=
  nhGroupUnref xdk
    { mgr with routeMap :=
        KeyedList.remove (·.ipPrefix) route.ipPrefix mgr.routeMap }
    route.nhGroup

/-- `route_unref`. -/
def routeUnref (xdk : Outcome) (mgr : L3Mgr) (ipPrefix : String) : L3Mgr :=
  match findRoute mgr ipPrefix with
  | none => mgr
  | some route =>
      if route.refCnt = 1 then routeDelete xdk mgr route
      else modifyRoute mgr ipPrefix fun route =>
        { route with refCnt := route.refCnt - 1 }

/-- The group a route is to use from now on: an existing group with the same
next hops, in whose favour the new one is freed, or the new group once it has
been added.  `none` stands for `EHOSTUNREACH` from `nh_group_add`. -/
def selectGroup (xdk : Outcome) (mgr : L3Mgr) (group : NhGroup) :
    Option GroupRef × L3Mgr :=
  match nhGroupLookupByGroup xdk mgr group with
  | some ref => (some ref, nhGroupFree (nhGroupRef mgr ref) group none)
  | none =>
      match nhGroupAdd xdk mgr group with
      | (some ref, mgr) => (some ref, mgr)
      | (none, mgr) => (none, nhGroupDelete xdk mgr group none)

/-- Point the route of a prefix to a group: write the route entry, update the
hardware route, and release the old group.  When the hardware refuses, the
group is deleted and `failure` returned. -/
def commitGroup (xdk : Outcome) (mgr : L3Mgr) (ipPrefix : String)
    (old new : Option GroupRef) (failure : Errno) : Option Errno × L3Mgr :=
  let group := new.map (deref mgr)
  let mgr := modifyRoute mgr ipPrefix fun route =>
    { route with xpRoute := { route.xpRoute with
        nhEcmpSize := (group.map (·.size)).getD 0
        nhId := (group.map (·.nhId)).getD 0 } }
  if xdk.updateIpRouteEntry then
    (none, modifyRoute (nhGroupUnref xdk mgr old) ipPrefix fun route =>
      { route with nhGroup := new })
  else
    match new with
    | none => (some failure, mgr)
    | some ref =>
        (some failure, nhGroupDelete xdk mgr (deref mgr ref) (some ref))

/-- The loop of `route_update` over the requested next hops: an unknown next
hop is created and inserted, a known one rewritten in place. -/
def nhGroupUpdate (env : Env) (xdk : Outcome) (hosts : List HostEntry) :
    NhGroup → List RouteNexthop → NhGroup × Option Errno
  | group, [] => (group, none)
  | group, request :: requests =>
      match nhLookup xdk group request.id with
      | none =>
          match nhCreate env hosts request with
          | none => (group, some .EHOSTUNREACH)
          | some nh =>
              nhGroupUpdate env xdk hosts (nhInsert env group nh) requests
      | some nh =>
          match nhUpdate hosts nh request with
          | .error errno => (group, some errno)
          | .ok nh => nhGroupUpdate env xdk hosts (group.replace nh) requests

/-- Whether `route_update` has to build a new group: some requested next hop
is not in the group of the route. -/
def needsNewGroup (xdk : Outcome) (group : Option NhGroup)
    (nexthops : List RouteNexthop) : Bool :=
  nexthops.any fun nh =>
    ((group.bind fun group => nhLookup xdk group nh.id)).isNone

/-- The group `route_update` builds for a request, with the error that stopped
it: a copy of the next hops of the old group, then the requested ones. -/
def mergedGroup (env : Env) (xdk : Outcome) (hosts : List HostEntry)
    (empty : NhGroup) (old : Option NhGroup) (nexthops : List RouteNexthop) :
    NhGroup × Option Errno :=
  nhGroupUpdate env xdk hosts
    (nhInsertAll env empty
      ((old.map fun group => xdk.nhOrder.visit group.nhMap).getD []))
    nexthops

/-- `route_update`. -/
def routeUpdate (env : Env) (xdk : Outcome) (mgr : L3Mgr)
    (request : OfprotoRoute) (route : RouteEntry) : Option Errno × L3Mgr :=
  let old := route.nhGroup.map (deref mgr)
  if needsNewGroup xdk old request.nexthops then
    match nhGroupAlloc env xdk mgr
        (request.nexthops.length + (old.map (·.size)).getD 0) with
    | (none, mgr) => (some .ENOMEM, mgr)
    | (some empty, mgr) =>
        match mergedGroup env xdk mgr.hostIdMap empty old request.nexthops with
        | (group, some errno) => (some errno, nhGroupFree mgr group none)
        | (group, none) =>
            match selectGroup xdk mgr group with
            | (none, mgr) => (some .EHOSTUNREACH, mgr)
            | (some ref, mgr) =>
                commitGroup xdk mgr route.ipPrefix route.nhGroup (some ref)
                  .EACCES
  else
    match route.nhGroup with
    | none => (none, mgr)
    | some ref =>
        match nhGroupUpdate env xdk mgr.hostIdMap (deref mgr ref)
            request.nexthops with
        | (group, some errno) => (some errno, store mgr ref (some group))
        | (group, none) =>
            let mgr := store mgr ref (some group)
            match setNextHops xdk mgr.hw (xdk.nhOrder.visit group.nhMap) with
            | (hw, true) => (none, { mgr with hw := hw })
            | (hw, false) => (some .EACCES, { mgr with hw := hw })

/-- The loop of `route_add` that fills a fresh group. -/
def nhGroupFill (env : Env) (hosts : List HostEntry) :
    NhGroup → List RouteNexthop → NhGroup × Option Errno
  | group, [] => (group, none)
  | group, request :: requests =>
      match nhCreate env hosts request with
      | none => (group, some .EHOSTUNREACH)
      | some nh => nhGroupFill env hosts (nhInsert env group nh) requests

/-- The first half of `route_add`: an existing group with the requested next
hops, or a new one. -/
def routeAddGroup (env : Env) (xdk : Outcome) (mgr : L3Mgr)
    (request : OfprotoRoute) : Except Errno GroupRef × L3Mgr :=
  match nhGroupLookupByRoute env xdk mgr request with
  | some ref => (.ok ref, nhGroupRef mgr ref)
  | none =>
      match nhGroupAlloc env xdk mgr request.nexthops.length with
      | (none, mgr) => (.error .ENOMEM, mgr)
      | (some empty, mgr) =>
          match nhGroupFill env mgr.hostIdMap empty request.nexthops with
          | (group, some errno) => (.error errno, nhGroupFree mgr group none)
          | (group, none) =>
              match nhGroupAdd xdk mgr group with
              | (some ref, mgr) => (.ok ref, mgr)
              | (none, mgr) =>
                  (.error .EHOSTUNREACH, nhGroupDelete xdk mgr group none)

/-- `route_add`. -/
def routeAdd (env : Env) (xdk : Outcome) (mgr : L3Mgr)
    (request : OfprotoRoute) : Option Errno × L3Mgr :=
  match routeAddGroup env xdk mgr request with
  | (.error errno, mgr) => (some errno, mgr)
  | (.ok ref, mgr) =>
      match env.stringToPrefix request.family request.ipPrefix with
      | none => (some .EPFNOSUPPORT, nhGroupUnref xdk mgr (some ref))
      | some (addr, len) =>
          if xdk.addIpRouteEntry then
            (none, { mgr with routeMap :=
              { ipPrefix := request.ipPrefix
                refCnt := 1
                xpRoute :=
                  { family := request.family, addr := addr, ipMaskLen := len,
                    vrfId := mgr.vrfId, nhEcmpSize := (deref mgr ref).size,
                    nhId := (deref mgr ref).nhId }
                nhGroup := some ref } :: mgr.routeMap })
          else (some .EAGAIN, nhGroupUnref xdk mgr (some ref))

/-- `add_route_entry`. -/
def addRouteEntry (env : Env) (xdk : Outcome) (mgr : L3Mgr)
    (request : OfprotoRoute) : Option Errno × L3Mgr :=
  match routeLookup mgr request.ipPrefix with
  | (some route, mgr) =>
      let (rc, mgr) := routeUpdate env xdk mgr request route
      (rc, routeUnref xdk mgr request.ipPrefix)
  | (none, mgr) => routeAdd env xdk mgr request

/-- `delete_route_entry`. -/
def deleteRouteEntry (xdk : Outcome) (mgr : L3Mgr) (request : OfprotoRoute) :
    Option Errno × L3Mgr :=
  match routeLookup mgr request.ipPrefix with
  | (some _, mgr) =>
      (none, routeUnref xdk (routeUnref xdk mgr request.ipPrefix)
        request.ipPrefix)
  | (none, mgr) => (some .EFAULT, mgr)

/-- Whether `DELETE_NH` lists a next hop. -/
def isListed (request : OfprotoRoute) (nh : NhEntry) : Bool :=
  request.nexthops.any (·.id == nh.id)

/-- The body of `delete_nh_entry` for a route that has a group. -/
def deleteNhFrom (env : Env) (xdk : Outcome) (mgr : L3Mgr)
    (request : OfprotoRoute) (ref : GroupRef) : Option Errno × L3Mgr :=
  let old := deref mgr ref
  let removed := (xdk.nhOrder.visit old.nhMap).countP (isListed request)
  if old.size > removed then
    match nhGroupAlloc env xdk mgr (old.size - removed) with
    | (none, mgr) => (some .ENOMEM, mgr)
    | (some empty, mgr) =>
        let group := nhInsertAll env empty
          ((xdk.nhOrder.visit old.nhMap).filter (!isListed request ·))
        match selectGroup xdk mgr group with
        | (none, mgr) => (some .EHOSTUNREACH, mgr)
        | (some new, mgr) =>
            commitGroup xdk mgr request.ipPrefix (some ref) (some new) .EPERM
  else commitGroup xdk mgr request.ipPrefix (some ref) none .EPERM

/-- `delete_nh_entry`. -/
def deleteNhEntry (env : Env) (xdk : Outcome) (mgr : L3Mgr)
    (request : OfprotoRoute) : Option Errno × L3Mgr :=
  match routeLookup mgr request.ipPrefix with
  | (none, mgr) => (none, mgr)
  | (some route, mgr) =>
      match route.nhGroup with
      | none => (none, routeUnref xdk mgr request.ipPrefix)
      | some ref =>
          let (rc, mgr) := deleteNhFrom env xdk mgr request ref
          (rc, routeUnref xdk mgr request.ipPrefix)

/-- `update_nexthop_error`. -/
def updateNexthopError (errno : Errno) (route : OfprotoRoute) : OfprotoRoute :=
  { route with nexthops :=
      route.nexthops.map fun nh => { nh with rc := some errno } }

/-- What a request returns: the code, the route as written back for the
caller, and the new state. -/
structure Result where
  rc : Option Errno
  route : OfprotoRoute
  mgr : L3Mgr

/-- The dispatch of `ops_xp_routing_route_entry_action`, under the lock. -/
def dispatch (env : Env) (mgr : L3Mgr) (request : Request) :
    Option Errno × L3Mgr :=
  match request.action with
  | .add => addRouteEntry env request.xdk mgr request.route
  | .delete => deleteRouteEntry request.xdk mgr request.route
  | .deleteNh => deleteNhEntry env request.xdk mgr request.route
  | .unknown => (some .EINVAL, mgr)

/-- `ops_xp_routing_route_entry_action`. -/
def routeEntryAction (env : Env) (mgr : L3Mgr) (request : Request) : Result :=
  if request.route.nexthops = [] then
    { rc := some .EINVAL, route := request.route, mgr := mgr }
  else
    let (rc, mgr) := dispatch env mgr request
    { rc := rc
      route := match request.action, rc with
        | .add, some errno => updateNexthopError errno request.route
        | _, _ => request.route
      mgr := mgr }

/-- The state after a request. -/
def step (env : Env) (mgr : L3Mgr) (request : Request) : L3Mgr :=
  (routeEntryAction env mgr request).mgr

/-! ## Concrete requests -/

/-- An environment for concrete runs. -/
def sampleEnv : Env where
  hashString id basis := 31 * basis + id.length
  maxNhPerRoute := 32
  stringToPrefix _ _ := some ([0, 0, 0, 10], 24)
  zeroCmd := .fwd

/-- XDK calls that all succeed, with the next free block at `base`. -/
def accepting (base : Nat) : Outcome where
  createRouteNextHop _ := some base
  setRouteNextHop _ := true
  clearRouteNextHop _ := true
  addIpRouteEntry := true
  updateIpRouteEntry := true
  nhOrder := .id
  groupOrder := .id

/-- The same calls, except that the hardware refuses to update a route. -/
def refusingUpdate (base : Nat) : Outcome :=
  { accepting base with updateIpRouteEntry := false }

/-- A request for unresolved next hops. -/
def sampleRequest (action : RouteAction) (ipPrefix : String) (ids : List String)
    (xdk : Outcome) : Request where
  action := action
  route :=
    { family := .ipv4
      ipPrefix := ipPrefix
      nexthops := ids.map fun id =>
        { id := id, state := .unresolved, type := .ipaddr, l3EgressId := 0 } }
  xdk := xdk

end Routing
end XpliantSwitchd
