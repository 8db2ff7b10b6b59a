import XpliantSwitchd.PortMacMode
import XpliantSwitchd.Lib.KeyedList

/-!
# Netdevs and the thread that polls their links

This module embeds the part of `ops-xp-netdev.c` that configures a netdev, with
`ops_xp_port_set_config` and the thread of `ops_xp_port_event_handler`.  There is one
device.  The calls of the switch daemon come from one thread, and each is one step: it
runs under the mutex of the netdev.  The poll thread takes that mutex twice while it
visits a port, and between the two it works with what it has copied, so each section of
its loop is a step.  A thread that waits for a lock takes no step.

The address of a netdev is a number that is never used again.
-/

namespace XpliantSwitchd
namespace Netdev

open PortMacMode

/-! ## The configuration of a port -/

/-- `struct port_cfg`. -/
structure PortCfg where
  enable : Bool
  autoneg : Bool
  speed : Int
  duplex : Bool
  pauseRx : Bool
  pauseTx : Bool
  mtu : Int
  deriving DecidableEq

/-- A `struct port_cfg` filled with zeros. -/
def PortCfg.zero : PortCfg where
  enable := false
  autoneg := false
  speed := 0
  duplex := false
  pauseRx := false
  pauseTx := false
  mtu := 0

/-- The values of `INTERFACE_HW_INTF_CONFIG_MAP_PAUSE`. -/
inductive Pause
  | none | rx | tx | rxtx
  deriving DecidableEq

/-- The arguments of `netdev_xpliant_set_hw_intf_config`.  `autoneg` is whether its
text is `on`, `duplex` whether it is `full`, and `speeds` the number that its text
starts with. -/
structure HwIntfConfig where
  hwEnable : Bool
  autoneg : Bool
  speeds : Option Int
  duplex : Bool
  pause : Pause
  mtu : Int

/-- `get_interface_speed_config`. -/
def getInterfaceSpeedConfig (speeds : Option Int) : Int := speeds.getD 40000

/-- `get_interface_pause_config`: the pauses of the receiver and of the sender. -/
def getInterfacePauseConfig : Pause → Bool × Bool
  | .none => (false, false)
  | .rx => (true, false)
  | .tx => (false, true)
  | .rxtx => (true, true)

/-- The configuration that the arguments ask for.  A port that is not enabled keeps
zeros. -/
def HwIntfConfig.portCfg (config : HwIntfConfig) : PortCfg :=
  if config.hwEnable then
    { enable := true
      autoneg := config.autoneg
      speed := getInterfaceSpeedConfig config.speeds
      duplex := config.duplex
      pauseRx := (getInterfacePauseConfig config.pause).1
      pauseTx := (getInterfacePauseConfig config.pause).2
      mtu := config.mtu }
  else PortCfg.zero

@[simp] theorem HwIntfConfig.portCfg_enable (config : HwIntfConfig) :
    config.portCfg.enable = config.hwEnable := by
  unfold portCfg
  cases config.hwEnable <;> rfl

/-- `is_port_config_changed`. -/
def isPortConfigChanged (curPcfg pcfg : PortCfg) : Bool :=
  curPcfg.enable != pcfg.enable || curPcfg.autoneg != pcfg.autoneg ||
    curPcfg.speed != pcfg.speed || curPcfg.duplex != pcfg.duplex ||
    curPcfg.pauseRx != pcfg.pauseRx || curPcfg.pauseTx != pcfg.pauseTx ||
    curPcfg.mtu != pcfg.mtu

/-- `get_parent_mac_mode`. -/
def getParentMacMode (speed : Int) : MacMode :=
  if speed = 10000 then .mode1X10GB
  else if speed = 40000 then .mode1X40GB
  else if speed = 50000 then .mode1X50GB
  else if speed = 100000 then .mode1X100GB
  else .mode1X40GB

/-! ## The state -/

/-- `struct netdev_xpliant`.  `attached` is whether `xpdev` is set. -/
structure NetdevXpliant (count : Nat) where
  address : Nat
  name : String
  attached : Bool
  portNum : Nat
  ifId : Nat
  pcfg : PortCfg
  linkStatus : Bool
  intfInitialized : Bool
  linkResets : Nat
  xpnetIfId : Int
  xpnetPortFilterId : Int
  portInfo : Option (Fin count)
  isSplitParent : Bool
  isSplitSubport : Bool
  parentPortInfo : Option (Fin count)

/-- What the poll thread has copied out of a netdev. -/
structure Sample (count : Nat) where
  address : Nat
  linkStatus : Bool
  portInfo : Option (Fin count)

/-- Where the poll thread is in its loop, with the port that it visits. -/
inductive Poll (count : Nat)
  | next (port : Nat)
  | found (port address : Nat)
  | sampled (port : Nat) (sample : Sample count)
  | read (port : Nat) (sample : Sample count)
  | reported (port : Nat) (sample : Sample count)

/-- The thread of the switch daemon: between two calls, waiting for the lock of the XDK
with the mutex of a netdev taken, or gone with the whole process. -/
inductive Main
  | running
  | waiting (address : Nat)
  | crashed
  deriving DecidableEq

/-- The netdevs, the ports, the two threads and the outside: `link` is the variable of
the poll thread, `policed` the interfaces that are policed, `downs` the interfaces that
MAC learning was told about, latest first, and `hwLink` the links of the hardware. -/
structure Switch (count : Nat) where
  netdevs : List (NetdevXpliant count)
  nextAddress : Nat
  ports : Ports count
  serdesTuned : Fin count → Bool
  hwLink : Fin count → Bool
  policed : Nat → Bool
  downs : List Nat
  main : Main
  poll : Poll count
  link : Bool

/-- The number of the device, `XP_MAX_DEVICES`, `XPS_INTF_INVALID_ID` and the data of
the ports. -/
structure Env (count : Nat) where
  devId : Nat
  maxDevices : Nat
  invalidIntfId : Nat
  portEnv : PortMacMode.Env count

variable {count : Nat}

/-- The netdev at an address. -/
def Switch.netdev (switch : Switch count) (address : Nat) : Option (NetdevXpliant count) :=
  switch.netdevs.find? (·.address == address)

/-- Write the netdev at an address. -/
def Switch.modify (switch : Switch count) (address : Nat)
    (change : NetdevXpliant count → NetdevXpliant count) : Switch count :=
  { switch with
    netdevs := KeyedList.rewrite NetdevXpliant.address address change switch.netdevs }

/-! ## The life of a netdev -/

/-- The netdev that `netdev_xpliant_construct` makes. -/
def NetdevXpliant.new (env : Env count) (address : Nat) (name : String) :
    NetdevXpliant count where
  address := address
  name := name
  attached := false
  portNum := count
  ifId := env.invalidIntfId
  pcfg := PortCfg.zero
  linkStatus := false
  intfInitialized := false
  linkResets := 0
  xpnetIfId := 0
  xpnetPortFilterId := 0
  portInfo := none
  isSplitParent := false
  isSplitSubport := false
  parentPortInfo := none

/-- `netdev_xpliant_construct`. -/
def construct (env : Env count) (switch : Switch count) (name : String) : Switch count :=
  { switch with
    netdevs := switch.netdevs ++ [NetdevXpliant.new env switch.nextAddress name]
    nextAddress := switch.nextAddress + 1 }

/-- `netdev_xpliant_destruct` and `netdev_xpliant_dealloc`. -/
def destruct (switch : Switch count) (address : Nat) : Switch count :=
  { switch with netdevs := KeyedList.remove NetdevXpliant.address address switch.netdevs }

/-- The arguments of `netdev_xpliant_set_hw_intf_info`.  `hwUnit` and `portNum` are
the numbers that are made of the texts, which are too large when there is no text. -/
structure HwIntfInfo where
  hwUnit : Nat
  portNum : Nat
  split4 : Bool
  splitParent : Option String

/-- The answers of `xpsPortGetPortIntfId`, `xpsPortGetConfig` and
`ops_xp_host_if_create`. -/
structure InfoOutcome where
  portIntfId : Option Nat
  portConfig : Bool
  hostIfId : Option Int

/-- The host interface of a netdev that is otherwise set up. -/
def hostIfCreate (outcome : InfoOutcome) (netdev : NetdevXpliant count) :
    NetdevXpliant count :=
  match outcome.hostIfId with
  | none => netdev
  | some hostIfId => { netdev with xpnetIfId := hostIfId, intfInitialized := true }

/-- The netdev when it becomes one of a port that can be split, one of a part of such a
port, or one of another port. -/
def splitInfo (switch : Switch count) (info : HwIntfInfo) (outcome : InfoOutcome)
    (netdev : NetdevXpliant count) : NetdevXpliant count :=
  if info.split4 then hostIfCreate outcome { netdev with isSplitParent := true }
  else
    match info.splitParent with
    | none => hostIfCreate outcome netdev
    | some parent =>
        let netdev := { netdev with isSplitSubport := true }
        match switch.netdevs.find? (·.name == parent) with
        | none => netdev
        | some parentNetdev =>
            hostIfCreate outcome { netdev with parentPortInfo := parentNetdev.portInfo }

/-- The netdev when it gets a port of its device. -/
def bindPort (switch : Switch count) (info : HwIntfInfo) (outcome : InfoOutcome)
    (netdev : NetdevXpliant count) : NetdevXpliant count :=
  let netdev := { netdev with portNum := info.portNum }
  if inside : info.portNum < count then
    match outcome.portIntfId with
    | none => netdev
    | some ifId =>
        let netdev := { netdev with ifId := ifId }
        if !outcome.portConfig then netdev
        else splitInfo switch info outcome
          { netdev with portInfo := some ⟨info.portNum, inside⟩ }
  else netdev

/-- What `netdev_xpliant_set_hw_intf_info` writes into the netdev.  A call that fails
keeps what it has written. -/
def hwIntfInfo (env : Env count) (switch : Switch count) (info : HwIntfInfo)
    (outcome : InfoOutcome) (netdev : NetdevXpliant count) : NetdevXpliant count :=
  if netdev.intfInitialized then netdev
  else if env.maxDevices ≤ info.hwUnit then netdev
  else if info.hwUnit ≠ env.devId then { netdev with attached := false }
  else bindPort switch info outcome { netdev with attached := true }

/-- Whether `netdev_xpliant_set_hw_intf_info` comes to the port that can be split. -/
def splits (env : Env count) (info : HwIntfInfo) (outcome : InfoOutcome)
    (netdev : NetdevXpliant count) : Bool :=
  !netdev.intfInitialized && decide (info.hwUnit < env.maxDevices) &&
    decide (info.hwUnit = env.devId) && outcome.portIntfId.isSome && outcome.portConfig &&
    info.split4

/-- `XP_MAX_CHAN_PER_MAC`, written into the record of a port that can be split. -/
def setSplitPortCount (ports : Ports count) (portNum : Nat) : Ports count :=
  if inside : portNum < count then
    ports.modify ⟨portNum, inside⟩ ({ · with splitPortCount := 4 })
  else ports

/-- `netdev_xpliant_set_hw_intf_info`. -/
def setHwIntfInfo (env : Env count) (switch : Switch count) (address : Nat)
    (info : HwIntfInfo) (outcome : InfoOutcome) : Switch count :=
  match switch.netdev address with
  | none => switch
  | some netdev =>
      let ports :=
        if splits env info outcome netdev then setSplitPortCount switch.ports info.portNum
        else switch.ports
      { switch.modify address (hwIntfInfo env switch info outcome) with ports := ports }

/-! ## The configuration of a netdev -/

/-- The answers of the XDK to the configuration of a netdev: those to the change of the
MAC mode, the id of the host filter when one is made, and `xpsMacPortEnable`. -/
structure ConfigOutcome where
  macMode : PortMacMode.Outcome
  filterId : Option Int
  portEnable : Bool

/-- The port whose MAC mode a configuration sets, and the mode. -/
def NetdevXpliant.macMode (netdev : NetdevXpliant count) (pcfg : PortCfg) :
    Option (Fin count) × MacMode :=
  if netdev.isSplitParent then (netdev.portInfo, getParentMacMode pcfg.speed)
  else if netdev.isSplitSubport then (netdev.parentPortInfo, .mode4X10GB)
  else (netdev.portInfo, .mode4X10GB)

/-- `handle_xp_host_port_filters`. -/
def handleXpHostPortFilters (outcome : ConfigOutcome) (enable : Bool)
    (netdev : NetdevXpliant count) : NetdevXpliant count :=
  if enable && netdev.xpnetPortFilterId == 0 then
    match outcome.filterId with
    | none => netdev
    | some filterId => { netdev with xpnetPortFilterId := filterId }
  else if !enable && netdev.xpnetPortFilterId != 0 then
    { netdev with xpnetPortFilterId := 0 }
  else netdev

/-- `ops_xp_port_set_enable`, by a call that has the mutex of a netdev taken and then
does the rest of its work. -/
def portSetEnable (succeeds : Bool) (switch : Switch count) (address portNum : Nat)
    (enable : Bool) (rest : Switch count → Switch count) : Switch count :=
  if inside : portNum < count then
    let port : Fin count := ⟨portNum, inside⟩
    if (switch.ports.portInfo port).hwEnable = enable then rest switch
    else if switch.ports.locked then { switch with main := .waiting address }
    else
      let ports := switch.ports.modify port ({ · with hwEnable := enable })
      rest { switch with
        ports := { ports with
          enabled :=
            if succeeds then Function.update ports.enabled port enable else ports.enabled }
        serdesTuned :=
          if enable then Function.update switch.serdesTuned port false
          else switch.serdesTuned }
  else rest switch

/-- The change of the enable state in `ops_xp_port_set_config`.  The policing of a port
is turned on by its interface and off by its number. -/
def changeEnable (switch : Switch count) (netdev : NetdevXpliant count) (enable : Bool) :
    Switch count :=
  if enable then
    { switch with policed := Function.update switch.policed netdev.ifId true }
  else
    { switch.modify netdev.address ({ · with linkStatus := false }) with
      policed := Function.update switch.policed netdev.portNum false
      downs := netdev.ifId :: switch.downs }

/-- The end of `ops_xp_port_set_config`: the enable state of the hardware, and
`port_update_config`. -/
def portUpdateConfig (outcome : ConfigOutcome) (netdev : NetdevXpliant count)
    (newCfg : PortCfg) (switch : Switch count) : Switch count :=
  portSetEnable outcome.portEnable switch netdev.address netdev.portNum newCfg.enable
    fun switch => switch.modify netdev.address ({ · with pcfg := newCfg })

/-- `ops_xp_port_set_config`. -/
def portSetConfig (outcome : ConfigOutcome) (switch : Switch count)
    (netdev : NetdevXpliant count) (newCfg : PortCfg) : Switch count :=
  if netdev.pcfg.enable = newCfg.enable then portUpdateConfig outcome netdev newCfg switch
  else if switch.ports.locked then { switch with main := .waiting netdev.address }
  else portUpdateConfig outcome netdev newCfg (changeEnable switch netdev newCfg.enable)

/-- The part of `netdev_xpliant_set_hw_intf_config` after the MAC mode. -/
def applyConfig (outcome : ConfigOutcome) (switch : Switch count)
    (netdev : NetdevXpliant count) (pcfg : PortCfg) : Switch count :=
  portSetConfig outcome
    (switch.modify netdev.address (handleXpHostPortFilters outcome pcfg.enable)) netdev pcfg

/-- `netdev_xpliant_set_hw_intf_config`.  The MAC mode of a port is set with a pointer
that may be null. -/
def setHwIntfConfig (env : Env count) (outcome : ConfigOutcome) (switch : Switch count)
    (address : Nat) (config : HwIntfConfig) : Switch count :=
  match switch.netdev address with
  | none => switch
  | some netdev =>
      let pcfg := config.portCfg
      if !netdev.intfInitialized then switch
      else if !isPortConfigChanged netdev.pcfg pcfg then switch
      else if pcfg.enable then
        match netdev.macMode pcfg with
        | (none, _) => { switch with main := .crashed }
        | (some port, mode) =>
            match portMacModeSet env.portEnv outcome.macMode switch.ports port mode with
            | none => { switch with main := .waiting address }
            | some (_, ports) =>
                applyConfig outcome { switch with ports := ports } netdev pcfg
      else applyConfig outcome switch netdev pcfg

/-- The arguments of `netdev_xpliant_update_flags`: whether `NETDEV_UP` is to be
cleared or set, and whether another flag is named. -/
structure FlagsUpdate where
  off : Bool
  on : Bool
  other : Bool

/-- `netdev_xpliant_update_flags`.  The answer to the call is whether the XDK accepts
the new state. -/
def updateFlags (succeeds : Bool) (switch : Switch count) (address : Nat)
    (update : FlagsUpdate) : Switch count :=
  match switch.netdev address with
  | none => switch
  | some netdev =>
      if update.other || !netdev.pcfg.enable then switch
      else if update.on then portSetEnable succeeds switch address netdev.portNum true id
      else if update.off then portSetEnable succeeds switch address netdev.portNum false id
      else switch

/-! ## The poll thread -/

/-- A netdev that stands for a port: the port of a netdev that is split is skipped. -/
def standsFor (switch : Switch count) (port : Nat) (netdev : NetdevXpliant count) : Bool :=
  netdev.attached && netdev.portNum == port &&
    !(netdev.isSplitParent &&
      (netdev.portInfo.map fun info => (switch.ports.portInfo info).portMacMode) ==
        some .mode4X10GB)

/-- `ops_xp_netdev_from_port_num`. -/
def fromPortNum (switch : Switch count) (port : Nat) : Option (NetdevXpliant count) :=
  switch.netdevs.find? (standsFor switch port)

/-- `ops_xp_netdev_link_state_callback`. -/
def linkStateCallback (switch : Switch count) (netdev : NetdevXpliant count) (link : Bool) :
    Switch count :=
  if link then
    switch.modify netdev.address fun netdev =>
      { netdev with linkStatus := true, linkResets := netdev.linkResets + 1 }
  else
    { switch.modify netdev.address ({ · with linkStatus := false }) with
      downs := netdev.ifId :: switch.downs }

/-- The answers of the XDK to the poll thread: whether `xpsMacGetLinkStatus` succeeds,
and whether a port may be tuned. -/
structure PollOutcome where
  linkStatus : Bool
  tuneCondition : Bool

/-- The poll thread goes on to the port after the one it has visited. -/
def Switch.advance (switch : Switch count) (port : Nat) : Switch count :=
  { switch with poll := .next (if port + 1 < count then port + 1 else 0) }

/-- The look into a netdev that was found. -/
def pollSample (switch : Switch count) (port address : Nat) : Switch count :=
  match switch.netdev address with
  | none => { switch with main := .crashed }
  | some netdev =>
      if switch.main = .waiting address then switch
      else if !netdev.intfInitialized || !netdev.pcfg.enable then switch.advance port
      else
        { switch with
          poll := .sampled port ⟨address, netdev.linkStatus, netdev.portInfo⟩ }

/-- `xpsMacGetLinkStatus`.  When it fails the variable keeps what an earlier port left
in it. -/
def pollRead (outcome : PollOutcome) (switch : Switch count) (port : Nat)
    (sample : Sample count) : Switch count :=
  match sample.portInfo with
  | none => { switch with main := .crashed }
  | some info =>
      if switch.ports.locked then switch
      else
        { switch with
          link := if outcome.linkStatus then switch.hwLink info else switch.link
          poll := .read port sample }

/-- The comparison of the link with the copy. -/
def pollReport (switch : Switch count) (port : Nat) (sample : Sample count) :
    Switch count :=
  if sample.linkStatus = switch.link then { switch with poll := .reported port sample }
  else
    match switch.netdev sample.address with
    | none => { switch with main := .crashed }
    | some netdev =>
        if switch.main = .waiting sample.address then switch
        else
          { linkStateCallback switch netdev switch.link with poll := .reported port sample }

/-- The tuning of a port, at the end of the visit. -/
def pollTune (outcome : PollOutcome) (switch : Switch count) (port : Nat)
    (sample : Sample count) : Switch count :=
  match sample.portInfo with
  | none => { switch with main := .crashed }
  | some info =>
      if switch.serdesTuned info then switch.advance port
      else if switch.ports.locked then switch
      else
        { switch.advance port with
          serdesTuned :=
            if outcome.tuneCondition then Function.update switch.serdesTuned info true
            else switch.serdesTuned }

/-- A step of `ops_xp_port_event_handler`. -/
def pollStep (outcome : PollOutcome) (switch : Switch count) : Switch count :=
  match switch.poll with
  | .next port =>
      match fromPortNum switch port with
      | none => switch.advance port
      | some netdev => { switch with poll := .found port netdev.address }
  | .found port address => pollSample switch port address
  | .sampled port sample => pollRead outcome switch port sample
  | .read port sample => pollReport switch port sample
  | .reported port sample => pollTune outcome switch port sample

/-! ## The steps -/

/-- What happens: a call of the switch daemon, a step of the poll thread, or a change of
a link. -/
inductive Event (count : Nat)
  | construct (name : String)
  | setHwIntfInfo (address : Nat) (info : HwIntfInfo) (outcome : InfoOutcome)
  | setHwIntfConfig (address : Nat) (config : HwIntfConfig) (outcome : ConfigOutcome)
  | updateFlags (address : Nat) (update : FlagsUpdate) (succeeds : Bool)
  | destruct (address : Nat)
  | poll (outcome : PollOutcome)
  | link (port : Fin count) (up : Bool)

/-- A call of the switch daemon, which happens when its thread does not wait. -/
def Switch.call (switch : Switch count) (body : Switch count → Switch count) : Switch count :=
  if switch.main = .running then body switch else switch

/-- One step. -/
def step (env : Env count) (switch : Switch count) : Event count → Switch count
  | .construct name => switch.call (construct env · name)
  | .setHwIntfInfo address info outcome =>
      switch.call (setHwIntfInfo env · address info outcome)
  | .setHwIntfConfig address config outcome =>
      switch.call (setHwIntfConfig env outcome · address config)
  | .updateFlags address update succeeds =>
      switch.call (updateFlags succeeds · address update)
  | .destruct address => switch.call (destruct · address)
  | .poll outcome => if switch.main = .crashed then switch else pollStep outcome switch
  | .link port up => { switch with hwLink := Function.update switch.hwLink port up }

end Netdev
end XpliantSwitchd
