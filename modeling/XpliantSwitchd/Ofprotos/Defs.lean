import XpliantSwitchd.Lib.Traversal
import Mathlib.Logic.Function.Basic
import Mathlib.Algebra.Order.Ring.Nat

/-!
# The ports of the datapath

This module embeds the port functions of `ops-xp-ofproto-provider.c`.  An ofproto keeps
the names of its ports in two sets, the ports of the hardware in `dp_ports`, and the
ports that the switch daemon has made in `up.ports`; all ofprotos of a device share the
map from datapath port numbers to ports.  No class of netdevs of the plugin has a tunnel
configuration, so `is_tunnel` is always false here.

An ofproto is known by a number, and one that is not constructed has no ports.  The
address of a port is a number that is never used again.  Bundles are left out.
-/

namespace XpliantSwitchd
namespace Ofprotos

/-- The `errno` values of these functions; a return code is an option of them. -/
inductive PortError
  | ENOENT | EBUSY | ENODEV | EINVAL
  deriving DecidableEq

/-- The types of netdevs: `OVSREC_INTERFACE_TYPE_SYSTEM`, `_INTERNAL`, `_VLANSUBINT`,
`_LOOPBACK`, and another one. -/
inductive NetdevType
  | system | internal | vlansubint | loopback | other (code : Nat)
  deriving DecidableEq

/-- What is read of a netdev. -/
structure Netdev where
  name : String
  type : NetdevType
  deriving DecidableEq

/-- `struct xp_odp_port`.  Its count of references is always one. -/
structure XpOdpPort where
  portNo : Nat
  netdev : Netdev
  deriving DecidableEq

/-- `struct ofport_xpliant`; `odpPort` is `none` for `ODPP_NONE`. -/
structure OfportXpliant where
  address : Nat
  ofpPort : Nat
  netdev : Netdev
  odpPort : Option Nat
  deriving DecidableEq

/-- A node of `odp_to_ofport_map`, with what is read of the port that it is part of. -/
structure OdpPortNode where
  address : Nat
  ofproto : Nat
  ofpPort : Nat
  odpPort : Nat
  deriving DecidableEq

/-- `struct ofproto_xpliant`; `ofports` are the ports of `up.ports` and
`up.port_by_name`. -/
structure OfprotoXpliant where
  ports : List String
  ghostPorts : List String
  dpPorts : List XpOdpPort
  ofports : List OfportXpliant

/-- The ofprotos of a device and the map that they share. -/
structure Datapath where
  ofproto : Nat → OfprotoXpliant
  odpToOfportMap : List OdpPortNode
  nextAddress : Nat

/-- `CPU_PORT` and `ODPP_LOCAL`, and the orders in which the hash tables are walked. -/
structure Env where
  cpuPort : Nat
  odppLocal : Nat
  dpPortOrder : Traversal XpOdpPort
  nodeOrder : Traversal OdpPortNode
  nameOrder : Traversal String

/-- Write an ofproto. -/
def Datapath.modify (datapath : Datapath) (ofproto : Nat)
    (change : OfprotoXpliant → OfprotoXpliant) : Datapath :=
  { datapath with
    ofproto := Function.update datapath.ofproto ofproto (change (datapath.ofproto ofproto)) }

/-- `sset_add`. -/
def ssetAdd (set : List String) (name : String) : List String :=
  if name ∈ set then set else name :: set

/-- `sset_find_and_delete`. -/
def ssetDelete (set : List String) (name : String) : List String :=
  set.filter (· != name)

/-! ## Lookups -/

/-- `dp_port_query_by_name`. -/
def dpPortQueryByName (env : Env) (ofproto : OfprotoXpliant) (devname : String) :
    Option XpOdpPort :=
  (env.dpPortOrder.visit ofproto.dpPorts).find? (·.netdev.name == devname)

/-- `dp_lookup_port`. -/
def dpLookupPort (env : Env) (ofproto : OfprotoXpliant) (portNo : Nat) : Option XpOdpPort :=
  (env.dpPortOrder.visit ofproto.dpPorts).find? (·.portNo == portNo)

/-- `dp_port_to_ofport`. -/
def dpPortToOfport (env : Env) (datapath : Datapath) (odpPort : Nat) : Option OdpPortNode :=
  (env.nodeOrder.visit datapath.odpToOfportMap).find? (·.odpPort == odpPort)

/-- `odp_port_to_ofp_port`, with `none` for `OFPP_NONE`. -/
def odpPortToOfpPort (env : Env) (datapath : Datapath) (ofproto odpPort : Nat) :
    Option Nat :=
  match dpPortToOfport env datapath odpPort with
  | none => none
  | some node => if node.ofproto = ofproto then some node.ofpPort else none

/-- `get_ofp_port`. -/
def getOfpPort (ofproto : OfprotoXpliant) (ofpPort : Nat) : Option OfportXpliant :=
  ofproto.ofports.find? (·.ofpPort == ofpPort)

/-- `dp_port_get`, from the number of the port of the netdev with the name, if there is
one. -/
def dpPortGet (env : Env) (portNum : Option Nat) : Option Nat :=
  portNum.map fun portNum =>
    if portNum = env.cpuPort then env.odppLocal else (portNum + 1) % 2 ^ 32

/-! ## The calls -/

/-- `ofproto_xpliant_port_add`. -/
def portAdd (env : Env) (datapath : Datapath) (ofproto : Nat) (netdev : Netdev)
    (portNum : Option Nat) : Option PortError × Datapath :=
  if netdev.type ≠ .system then
    (none, datapath.modify ofproto fun target =>
      { target with ghostPorts := ssetAdd target.ghostPorts netdev.name })
  else
    match dpPortQueryByName env (datapath.ofproto ofproto) netdev.name with
    | some _ =>
        (none, datapath.modify ofproto fun target =>
          { target with ports := ssetAdd target.ports netdev.name })
    | none =>
        match dpPortGet env portNum with
        | none => (some .EINVAL, datapath)
        | some portNo =>
            (none, datapath.modify ofproto fun target =>
              { target with
                dpPorts := ⟨portNo, netdev⟩ :: target.dpPorts
                ports := ssetAdd target.ports netdev.name })

/-- The port that `ofproto_xpliant_port_construct` is called with, once it is made. -/
def newOfport (datapath : Datapath) (ofpPort : Nat) (netdev : Netdev)
    (odpPort : Option Nat) : OfportXpliant :=
  ⟨datapath.nextAddress, ofpPort, netdev, odpPort⟩

/-- A port is in the tables of its ofproto and, when it has a datapath port, in the map. -/
def installOfport (datapath : Datapath) (ofproto : Nat) (ofport : OfportXpliant) :
    Datapath :=
  { datapath.modify ofproto fun target => { target with ofports := ofport :: target.ofports }
    with
    odpToOfportMap :=
      (ofport.odpPort.map fun odpPort =>
        ⟨ofport.address, ofproto, ofport.ofpPort, odpPort⟩).toList ++
      datapath.odpToOfportMap
    nextAddress := datapath.nextAddress + 1 }

/-- `ofproto_xpliant_port_construct`.  The switch daemon throws a port away for which it
fails. -/
def portConstruct (env : Env) (datapath : Datapath) (ofproto ofpPort : Nat)
    (netdev : Netdev) : Option PortError × Datapath :=
  if netdev.type ≠ .system then
    (none, installOfport datapath ofproto (newOfport datapath ofpPort netdev none))
  else
    match dpPortQueryByName env (datapath.ofproto ofproto) netdev.name with
    | none => (some .ENOENT, datapath)
    | some odpPort =>
        match odpPortToOfpPort env datapath ofproto odpPort.portNo with
        | some _ => (some .EBUSY, datapath)
        | none =>
            (none, installOfport datapath ofproto
              (newOfport datapath ofpPort netdev (some odpPort.portNo)))

/-- `ofproto_xpliant_port_destruct`, after which the port is gone. -/
def portDestruct (datapath : Datapath) (ofproto : Nat) (ofport : OfportXpliant) :
    Datapath :=
  { datapath.modify ofproto fun target =>
      { target with
        ports := ssetDelete target.ports ofport.netdev.name
        ghostPorts := ssetDelete target.ghostPorts ofport.netdev.name
        ofports := target.ofports.filter (·.address != ofport.address) } with
    odpToOfportMap :=
      if ofport.odpPort.isSome then
        datapath.odpToOfportMap.filter (·.address != ofport.address)
      else datapath.odpToOfportMap }

/-- `do_del_port`. -/
def doDelPort (env : Env) (target : OfprotoXpliant) (portNo : Nat) :
    Option PortError × OfprotoXpliant :=
  match dpLookupPort env target portNo with
  | none => (some .EINVAL, target)
  | some port => (none, { target with dpPorts := target.dpPorts.erase port })

/-- `ofproto_xpliant_port_del`.  No datapath port has the number `ODPP_NONE`. -/
def portDel (env : Env) (datapath : Datapath) (ofproto ofpPort : Nat) :
    Option PortError × Datapath :=
  match getOfpPort (datapath.ofproto ofproto) ofpPort with
  | none => (none, datapath)
  | some ofport =>
      let datapath := datapath.modify ofproto fun target =>
        { target with ghostPorts := ssetDelete target.ghostPorts ofport.netdev.name }
      if ofport.netdev.type = .system then
        match ofport.odpPort with
        | none => (some .EINVAL, datapath)
        | some odpPort =>
            let (error, target) := doDelPort env (datapath.ofproto ofproto) odpPort
            (error, datapath.modify ofproto fun _ => target)
      else (none, datapath)

/-! ## What is asked -/

/-- `struct ofproto_port`, with `none` for `OFPP_NONE`. -/
structure OfprotoPort where
  name : String
  type : NetdevType
  ofpPort : Option Nat
  deriving DecidableEq

/-- `ofproto_port_from_dp_port`. -/
def ofprotoPortFromDpPort (env : Env) (datapath : Datapath) (ofproto : Nat)
    (dpPort : XpOdpPort) : OfprotoPort where
  name := dpPort.netdev.name
  type := dpPort.netdev.type
  ofpPort := odpPortToOfpPort env datapath ofproto dpPort.portNo

/-- `ofproto_xpliant_port_query_by_name`, with the types of the netdevs that there are. -/
def portQueryByName (env : Env) (typeOf : String → Option NetdevType)
    (datapath : Datapath) (ofproto : Nat) (devname : String) :
    Except PortError OfprotoPort :=
  let target := datapath.ofproto ofproto
  if devname ∈ target.ghostPorts then
    match typeOf devname with
    | none => .error .ENODEV
    | some type =>
        .ok ⟨devname, type,
          (target.ofports.find? (·.netdev.name == devname)).map (·.ofpPort)⟩
  else if devname ∉ target.ports then .error .ENODEV
  else
    match dpPortQueryByName env target devname with
    | none => .error .ENOENT
    | some dpPort => .ok (ofprotoPortFromDpPort env datapath ofproto dpPort)

/-- The part of a dump that goes through some names: what it lists, and the error that
ends it. -/
def dumpNames (query : String → Except PortError OfprotoPort) :
    List String → List OfprotoPort × Option PortError
  | [] => ([], none)
  | name :: names =>
      match query name with
      | .ok port => (port :: (dumpNames query names).1, (dumpNames query names).2)
      | .error .ENODEV => dumpNames query names
      | .error error => ([], some error)

/-- The calls of `ofproto_xpliant_port_dump_next` of one dump: first the ports, then the
ghost ports. -/
def portDump (env : Env) (typeOf : String → Option NetdevType) (datapath : Datapath)
    (ofproto : Nat) : List OfprotoPort × Option PortError :=
  let query := portQueryByName env typeOf datapath ofproto
  match dumpNames query (env.nameOrder.visit (datapath.ofproto ofproto).ports) with
  | (ports, some error) => (ports, some error)
  | (ports, none) =>
      let (ghosts, error) :=
        dumpNames query (env.nameOrder.visit (datapath.ofproto ofproto).ghostPorts)
      (ports ++ ghosts, error)

/-! ## The steps -/

/-- The calls of the switch daemon. -/
inductive Call
  | add (ofproto : Nat) (netdev : Netdev) (portNum : Option Nat)
  | construct (ofproto ofpPort : Nat) (netdev : Netdev)
  | destruct (ofproto : Nat) (ofport : OfportXpliant)
  | del (ofproto ofpPort : Nat)

/-- The state after a call. -/
def step (env : Env) (datapath : Datapath) : Call → Datapath
  | .add ofproto netdev portNum => (portAdd env datapath ofproto netdev portNum).2
  | .construct ofproto ofpPort netdev =>
      (portConstruct env datapath ofproto ofpPort netdev).2
  | .destruct ofproto ofport => portDestruct datapath ofproto ofport
  | .del ofproto ofpPort => (portDel env datapath ofproto ofpPort).2

/-- A device whose ofprotos have no ports. -/
def Datapath.empty : Datapath where
  ofproto := fun _ => ⟨[], [], [], []⟩
  odpToOfportMap := []
  nextAddress := 0

end Ofprotos
end XpliantSwitchd
