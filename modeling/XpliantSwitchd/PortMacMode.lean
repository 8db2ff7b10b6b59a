import XpliantSwitchd.Basic
import XpliantSwitchd.Lib.Transition
import Mathlib.Logic.Function.Basic

/-!
# The MAC mode of a port

This module embeds `ops_xp_port_mac_mode_set`.  It takes the lock of the XDK around
each call, and it keeps its own record of the mode of a port group and of the enable
state of each port.  A call of the XDK takes effect or fails without an effect.
-/

namespace XpliantSwitchd
namespace PortMacMode

/-- `xpMacConfigMode`. -/
inductive MacMode
  | mode4X10GB | mode1X10GB | mode1X40GB | mode1X50GB | mode1X100GB | other (code : Nat)
  deriving DecidableEq

/-- `struct xp_port_info`; the number of a port is its index. -/
structure PortInfo where
  hwEnable : Bool
  initialized : Bool
  splitPortCount : BitVec 32
  portMacMode : MacMode
  deriving DecidableEq

/-- The ports of a device, with the lock, the mode of each port group of the
hardware and the enable state of each port of the hardware. -/
structure Ports (count : Nat) where
  locked : Bool
  portInfo : Fin count → PortInfo
  mode : Nat → MacMode
  enabled : Fin count → Bool

/-- The port group of a port, and the width of an `xpsPort_t`. -/
structure Env (count : Nat) where
  macNum : Fin count → Nat
  portBits : Nat

/-- The answers of the XDK during one call.  `initGetMacNum` and `getMacNum` are the
two calls of `xpsMacGetMacNumForPortNum`; `portEnable` goes by the lane. -/
structure Outcome where
  isPortNotInited : Bool
  initGetMacNum : Bool
  portGroupInit : Bool
  getMacNum : Bool
  switchMacConfigMode : Bool
  portEnable : Nat → Bool

variable {count : Nat}

/-- `XP_LOCK`.  It does not return while the lock is taken. -/
def Ports.lock (ports : Ports count) : Option (Ports count) :=
  if ports.locked then none else some { ports with locked := true }

/-- `XP_UNLOCK`. -/
def Ports.unlock (ports : Ports count) : Ports count :=
  { ports with locked := false }

/-- Write the record of a port. -/
def Ports.modify (ports : Ports count) (port : Fin count) (change : PortInfo → PortInfo) :
    Ports count :=
  { ports with
    portInfo := Function.update ports.portInfo port (change (ports.portInfo port)) }

/-- A port group of the hardware gets a mode, when the call takes effect. -/
def Ports.setMode (ports : Ports count) (succeeds : Bool) (group : Nat) (mode : MacMode) :
    Ports count :=
  if succeeds then { ports with mode := Function.update ports.mode group mode } else ports

/-- The initialisation of a port that was not initialised. -/
def initPort (env : Env count) (outcome : Outcome) (ports : Ports count) (port : Fin count)
    (mode : MacMode) : Option (Option Errno × Ports count) :=
  if (ports.portInfo port).initialized then some (none, ports)
  else do
    let ports ← ports.lock
    let ports := ports.unlock.modify port
      ({ · with initialized := !outcome.isPortNotInited })
    if !outcome.isPortNotInited then some (none, ports)
    else
      let ports ← ports.lock
      if !outcome.initGetMacNum then some (some .EFAULT, ports.unlock)
      else
        let ports := (ports.setMode outcome.portGroupInit (env.macNum port) mode).unlock
        if !outcome.portGroupInit then some (some .EFAULT, ports)
        else some (none, ports.modify port ({ · with initialized := true }))

/-- `ops_xp_dev_get_port_info`. -/
def getPortInfo (env : Env count) (port : Fin count) (lane : Nat) : Option (Fin count) :=
  if inside : (port + lane) % 2 ^ env.portBits < count then some ⟨_, inside⟩ else none

/-- The loop that disables the lanes. -/
def disableLanes (env : Env count) (outcome : Outcome) (port : Fin count) :
    List Nat → Ports count → Option (Option Errno × Ports count)
  | [], ports => some (none, ports)
  | lane :: lanes, ports =>
      match getPortInfo env port lane with
      | none => disableLanes env outcome port lanes ports
      | some peer => do
          let ports ← (ports.modify peer ({ · with hwEnable := false })).lock
          if outcome.portEnable lane then
            disableLanes env outcome port lanes
              { ports with enabled := Function.update ports.enabled peer false }.unlock
          else some (some .EFAULT, ports)

/-- The number of lanes, an `int`. -/
def portCnt (info : PortInfo) (mode : MacMode) : Int :=
  if mode = .mode4X10GB then info.splitPortCount.toInt else 1

/-- The lanes that the loop goes through. -/
def lanesOf (info : PortInfo) (mode : MacMode) : List Nat :=
  List.range (portCnt info mode).toNat

/-- The part of `ops_xp_port_mac_mode_set` that switches the mode. -/
def switchMode (env : Env count) (outcome : Outcome) (ports : Ports count) (port : Fin count)
    (mode : MacMode) : Option (Option Errno × Ports count) := do
  let ports ← ports.lock
  if !outcome.getMacNum then some (some .EFAULT, ports.unlock)
  else
    let ports := (ports.setMode outcome.switchMacConfigMode (env.macNum port) mode).unlock
    if !outcome.switchMacConfigMode then some (some .EFAULT, ports)
    else
      match ← disableLanes env outcome port (lanesOf (ports.portInfo port) mode) ports with
      | (some errno, ports) => some (some errno, ports)
      | (none, ports) => some (none, ports.modify port ({ · with portMacMode := mode }))

/-- `ops_xp_port_mac_mode_set`.  There is no result when it waits for the lock. -/
def portMacModeSet (env : Env count) (outcome : Outcome) (ports : Ports count)
    (port : Fin count) (mode : MacMode) : Option (Option Errno × Ports count) := do
  match ← initPort env outcome ports port mode with
  | (some errno, ports) => some (some errno, ports)
  | (none, ports) =>
      if mode = (ports.portInfo port).portMacMode then some (none, ports)
      else switchMode env outcome ports port mode

/-- A call with the answers of the XDK. -/
structure Call (count : Nat) where
  port : Fin count
  mode : MacMode
  outcome : Outcome

/-- What a call leads to. -/
def Call.apply (env : Env count) (ports : Ports count) (call : Call count) :
    Option (Option Errno × Ports count) :=
  portMacModeSet env call.outcome ports call.port call.mode

/-- The state after a call. -/
def step (env : Env count) (ports : Ports count) (call : Call count) : Ports count :=
  ((call.apply env ports).map Prod.snd).getD ports

/-! ## What is asked of a call -/

/-- The flag of each port is the enable state of the hardware. -/
def Ports.Flagged (ports : Ports count) : Prop :=
  ∀ port, (ports.portInfo port).hwEnable = ports.enabled port

/-- The lock is free and the flags are right. -/
structure Ports.Idle (ports : Ports count) : Prop where
  unlocked : ports.locked = false
  flagged : ports.Flagged

/-- The call returns with the lock free, with the mode of the hardware recorded, and
with the flags of the ports of the group right. -/
def Met (env : Env count) (ports : Ports count) (call : Call count) : Prop :=
  ∃ result after, call.apply env ports = some (result, after) ∧
    after.locked = false ∧
    (after.portInfo call.port).portMacMode = after.mode (env.macNum call.port) ∧
    ∀ peer, env.macNum peer = env.macNum call.port →
      (after.portInfo peer).hwEnable = after.enabled peer

/-- The port is found to be without initialisation. -/
def Uninitialized (ports : Ports count) (call : Call count) : Prop :=
  (ports.portInfo call.port).initialized = false ∧ call.outcome.isPortNotInited = true

/-- The two calls that initialise a port group succeed. -/
def Outcome.inits (outcome : Outcome) : Prop :=
  outcome.initGetMacNum = true ∧ outcome.portGroupInit = true

/-- The mode of the hardware is switched: another one was asked for, the port is
initialised or gets so, and the calls succeed. -/
def Switches (ports : Ports count) (call : Call count) : Prop :=
  (Uninitialized ports call → call.outcome.inits) ∧
    call.mode ≠ (ports.portInfo call.port).portMacMode ∧
    call.outcome.getMacNum = true ∧ call.outcome.switchMacConfigMode = true

/-- When the mode is switched, each lane is disabled without a failure.  Otherwise, a
call that initialises the port group does so in the recorded mode, and a call that
does not finds the mode of the hardware recorded. -/
def Orderly (env : Env count) (ports : Ports count) (call : Call count) : Prop :=
  (Switches ports call →
    ∀ lane ∈ lanesOf (ports.portInfo call.port) call.mode,
      (getPortInfo env call.port lane).isSome → call.outcome.portEnable lane = true) ∧
  (¬Switches ports call →
    (Uninitialized ports call ∧ call.outcome.inits →
      call.mode = (ports.portInfo call.port).portMacMode) ∧
    (¬(Uninitialized ports call ∧ call.outcome.inits) →
      (ports.portInfo call.port).portMacMode = ports.mode (env.macNum call.port)))

instance (ports : Ports count) (call : Call count) : Decidable (Uninitialized ports call) :=
  inferInstanceAs (Decidable (_ ∧ _))

instance (outcome : Outcome) : Decidable outcome.inits :=
  inferInstanceAs (Decidable (_ ∧ _))

instance (ports : Ports count) (call : Call count) : Decidable (Switches ports call) :=
  inferInstanceAs (Decidable (_ ∧ _))

instance (env : Env count) (ports : Ports count) (call : Call count) :
    Decidable (Orderly env ports call) :=
  inferInstanceAs (Decidable (_ ∧ _))

/-! ## The parts of a call -/

/-- Only the initialisation of ports, and the mode of the hardware, may differ. -/
structure Kept (before after : Ports count) : Prop where
  locked : after.locked = before.locked
  hwEnable : ∀ port, (after.portInfo port).hwEnable = (before.portInfo port).hwEnable
  portMacMode : ∀ port,
    (after.portInfo port).portMacMode = (before.portInfo port).portMacMode
  splitPortCount : ∀ port,
    (after.portInfo port).splitPortCount = (before.portInfo port).splitPortCount
  enabled : after.enabled = before.enabled

namespace Kept

variable {before after : Ports count}

theorem idle (kept : Kept before after) (idle : before.Idle) : after.Idle where
  unlocked := kept.locked.trans idle.unlocked
  flagged := by
    intro port
    rw [kept.hwEnable, kept.enabled]
    exact idle.flagged port

theorem refl (ports : Ports count) : Kept ports ports :=
  ⟨rfl, fun _ => rfl, fun _ => rfl, fun _ => rfl, rfl⟩

end Kept

section Parts

variable {env : Env count} {outcome : Outcome} {ports : Ports count} {port : Fin count}
  {mode : MacMode}

theorem modify_self (change : PortInfo → PortInfo) :
    (ports.modify port change).portInfo port = change (ports.portInfo port) :=
  Function.update_self ..

/-- A field that the change of a record leaves alone is the same for every port. -/
theorem modify_field
    {Field : Type}
    (field : PortInfo → Field)
    {change : PortInfo → PortInfo}
    (leaves : ∀ info, field (change info) = field info)
    (peer : Fin count) :
    field ((ports.modify port change).portInfo peer) = field (ports.portInfo peer) := by
  unfold Ports.modify
  by_cases same : peer = port
  · subst same
    simp only [Function.update_self, leaves]
  · simp only [Function.update_of_ne same]

/-- The answer to whether a port is initialised changes nothing else. -/
theorem kept_modify_initialized (initialized : Bool) :
    Kept ports (ports.modify port ({ · with initialized := initialized })) where
  locked := rfl
  hwEnable := modify_field PortInfo.hwEnable fun _ => rfl
  portMacMode := modify_field PortInfo.portMacMode fun _ => rfl
  splitPortCount := modify_field PortInfo.splitPortCount fun _ => rfl
  enabled := rfl

theorem lock_eq (unlocked : ports.locked = false) :
    ports.lock = some { ports with locked := true } := by
  simp [Ports.lock, unlocked]

/-- What the initialisation does while the lock is free. -/
theorem initPort_spec (unlocked : ports.locked = false) :
    ∃ result after, initPort env outcome ports port mode = some (result, after) ∧
      Kept ports after ∧
      (result = none ↔
        (Uninitialized ports ⟨port, mode, outcome⟩ → outcome.inits)) ∧
      ((Uninitialized ports ⟨port, mode, outcome⟩ ∧ outcome.inits ∧
          after.mode = Function.update ports.mode (env.macNum port) mode) ∨
        (¬(Uninitialized ports ⟨port, mode, outcome⟩ ∧ outcome.inits) ∧
          after.mode = ports.mode)) := by
  unfold initPort Uninitialized Outcome.inits
  simp only
  cases initialized : (ports.portInfo port).initialized with
  | true => exact ⟨none, ports, by simp, .refl ports, by simp, .inr ⟨by simp, rfl⟩⟩
  | false =>
      rw [lock_eq unlocked]
      cases notInited : outcome.isPortNotInited with
      | false =>
          refine ⟨none, ports.modify port ({ · with initialized := true }), ?_,
            kept_modify_initialized true, by simp, .inr ⟨by simp, rfl⟩⟩
          simp [Ports.unlock, Ports.modify, unlocked]
      | true =>
          have queried := @kept_modify_initialized count ports port false
          cases getMacNum : outcome.initGetMacNum with
          | false =>
              refine ⟨some .EFAULT, ports.modify port ({ · with initialized := false }), ?_,
                queried, by simp, .inr ⟨by simp, rfl⟩⟩
              simp [Ports.unlock, Ports.modify, Ports.lock, unlocked]
          | true =>
              cases groupInit : outcome.portGroupInit with
              | false =>
                  refine ⟨some .EFAULT, ports.modify port ({ · with initialized := false }),
                    ?_, queried, by simp, .inr ⟨by simp, rfl⟩⟩
                  simp [Ports.unlock, Ports.modify, Ports.lock, Ports.setMode, unlocked]
              | true =>
                  refine ⟨none, { ports.modify port ({ · with initialized := true }) with
                    mode := Function.update ports.mode (env.macNum port) mode }, ?_, ?_,
                    by simp, .inl ⟨by simp, by simp, rfl⟩⟩
                  · simp [Ports.unlock, Ports.modify, Ports.lock, Ports.setMode, unlocked]
                  · have initialized := @kept_modify_initialized count ports port true
                    exact ⟨initialized.locked, initialized.hwEnable,
                      initialized.portMacMode, initialized.splitPortCount,
                      initialized.enabled⟩

/-- The lane is a port of the device and cannot be disabled. -/
def Sticks (env : Env count) (outcome : Outcome) (port : Fin count) (lane : Nat) : Prop :=
  (getPortInfo env port lane).isSome ∧ outcome.portEnable lane = false

/-- The state after a lane was disabled. -/
def Ports.disable (ports : Ports count) (peer : Fin count) : Ports count :=
  { ports.modify peer ({ · with hwEnable := false }) with
    enabled := Function.update ports.enabled peer false }

theorem Ports.Idle.disable (idle : ports.Idle) (peer : Fin count) :
    (ports.disable peer).Idle where
  unlocked := idle.unlocked
  flagged := by
    intro port
    unfold Ports.disable Ports.modify
    by_cases same : port = peer
    · subst same
      simp only [Function.update_self]
    · simp only [Function.update_of_ne same]
      exact idle.flagged port

/-- The loop by what the next lane does. -/
theorem disableLanes_cons (idle : ports.Idle) (lane : Nat) (lanes : List Nat) :
    disableLanes env outcome port (lane :: lanes) ports =
      match getPortInfo env port lane with
      | none => disableLanes env outcome port lanes ports
      | some peer =>
          if outcome.portEnable lane then
            disableLanes env outcome port lanes (ports.disable peer)
          else some (some .EFAULT,
            { ports.modify peer ({ · with hwEnable := false }) with locked := true }) := by
  rw [disableLanes]
  cases getPortInfo env port lane with
  | none => rfl
  | some peer =>
      have free : (ports.modify peer ({ · with hwEnable := false })).locked = false :=
        idle.unlocked
      simp only [lock_eq free, Option.bind_eq_bind, Option.bind_some]
      have disabled : Ports.unlock { ports.modify peer ({ · with hwEnable := false }) with
          locked := true, enabled := Function.update ports.enabled peer false } =
          ports.disable peer := by
        simp [Ports.unlock, Ports.disable, Ports.modify, idle.unlocked]
      rw [← disabled]
      rfl

/-- When every lane can be disabled, the loop leaves the flags right and the lock
free. -/
theorem disableLanes_disables
    {lanes : List Nat}
    (idle : ports.Idle)
    (none_sticks : ∀ lane ∈ lanes, ¬Sticks env outcome port lane) :
    ∃ after, disableLanes env outcome port lanes ports = some (none, after) ∧
      after.Idle ∧ after.mode = ports.mode := by
  induction lanes generalizing ports with
  | nil => exact ⟨ports, rfl, idle, rfl⟩
  | cons lane lanes inductionHypothesis =>
      obtain ⟨own, others⟩ := List.forall_mem_cons.mp none_sticks
      rw [disableLanes_cons idle]
      unfold Sticks at own
      cases found : getPortInfo env port lane with
      | none => exact inductionHypothesis idle others
      | some peer =>
          rw [found] at own
          have enabled : outcome.portEnable lane = true := by simpa using own
          simp only [enabled, if_true]
          obtain ⟨after, equation, afterIdle, sameMode⟩ :=
            inductionHypothesis (idle.disable peer) others
          exact ⟨after, equation, afterIdle, sameMode⟩

/-- A lane that cannot be disabled ends the loop with the lock taken. -/
theorem disableLanes_sticks
    {lanes : List Nat}
    {lane : Nat}
    (idle : ports.Idle)
    (member : lane ∈ lanes)
    (sticks : Sticks env outcome port lane) :
    ∃ errno after, disableLanes env outcome port lanes ports = some (some errno, after) ∧
      after.locked = true := by
  induction lanes generalizing ports with
  | nil => exact absurd member List.not_mem_nil
  | cons first lanes inductionHypothesis =>
      rw [disableLanes_cons idle]
      rcases List.mem_cons.mp member with rfl | later
      · obtain ⟨isPort, fails⟩ := sticks
        obtain ⟨peer, found⟩ := Option.isSome_iff_exists.mp isPort
        simp only [found, fails]
        exact ⟨_, _, rfl, rfl⟩
      · cases getPortInfo env port first with
        | none => exact inductionHypothesis idle later
        | some peer =>
            simp only
            split
            · exact inductionHypothesis (idle.disable peer) later
            · exact ⟨_, _, rfl, rfl⟩

end Parts

/-! ## Calls and runs -/

section Calls

variable {env : Env count} {outcome : Outcome} {ports : Ports count} {port : Fin count}
  {mode : MacMode} {call : Call count}

/-- Without the calls before the lanes, the switch returns and changes nothing. -/
theorem switchMode_refused
    (idle : ports.Idle)
    (refused : ¬(outcome.getMacNum = true ∧ outcome.switchMacConfigMode = true)) :
    switchMode env outcome ports port mode = some (some .EFAULT, ports) := by
  have same : ({ ports with locked := false } : Ports count) = ports := by
    rw [← idle.unlocked]
  unfold switchMode
  rw [lock_eq idle.unlocked]
  cases getMacNum : outcome.getMacNum with
  | false => simpa [Ports.unlock] using same
  | true =>
      have fails : outcome.switchMacConfigMode = false := by
        simpa [getMacNum] using refused
      simpa [Ports.unlock, Ports.setMode, fails] using same

/-- With them, the lanes are disabled in the new mode. -/
theorem switchMode_switched
    (idle : ports.Idle)
    (getMacNum : outcome.getMacNum = true)
    (switched : outcome.switchMacConfigMode = true) :
    switchMode env outcome ports port mode =
      (disableLanes env outcome port (lanesOf (ports.portInfo port) mode)
        { ports with mode := Function.update ports.mode (env.macNum port) mode }).bind
        fun
          | (some errno, ports) => some (some errno, ports)
          | (none, ports) => some (none, ports.modify port ({ · with portMacMode := mode })) := by
  have same : Ports.unlock (Ports.setMode { ports with locked := true } true
      (env.macNum port) mode) =
      { ports with mode := Function.update ports.mode (env.macNum port) mode } := by
    simp [Ports.unlock, Ports.setMode, idle.unlocked]
  unfold switchMode
  rw [lock_eq idle.unlocked]
  simp only [Option.bind_eq_bind, Option.bind_some, getMacNum, switched, same]
  rfl

/-- A call that does not switch the mode leaves the lock free, the flags right and
the recorded mode as it was. -/
theorem apply_of_not_switches (idle : ports.Idle) (keeps : ¬Switches ports call) :
    ∃ result after, call.apply env ports = some (result, after) ∧ after.Idle ∧
      (after.portInfo call.port).portMacMode = (ports.portInfo call.port).portMacMode ∧
      ((Uninitialized ports call ∧ call.outcome.inits ∧
          after.mode = Function.update ports.mode (env.macNum call.port) call.mode) ∨
        (¬(Uninitialized ports call ∧ call.outcome.inits) ∧ after.mode = ports.mode)) := by
  obtain ⟨port, mode, outcome⟩ := call
  obtain ⟨result, between, equation, kept, returns, modes⟩ :=
    @initPort_spec count env outcome ports port mode idle.unlocked
  unfold Call.apply portMacModeSet
  simp only [equation, Option.bind_eq_bind, Option.bind_some]
  cases result with
  | some errno =>
      exact ⟨_, between, rfl, kept.idle idle, kept.portMacMode port, modes⟩
  | none =>
      by_cases already : mode = (between.portInfo port).portMacMode
      · simp only [if_pos already]
        exact ⟨_, between, rfl, kept.idle idle, kept.portMacMode port, modes⟩
      · have another := already
        rw [kept.portMacMode] at another
        have refused : ¬(outcome.getMacNum = true ∧ outcome.switchMacConfigMode = true) :=
          fun calls => keeps ⟨returns.mp rfl, another, calls⟩
        simp only [if_neg already]
        rw [switchMode_refused (kept.idle idle) refused]
        exact ⟨_, between, rfl, kept.idle idle, kept.portMacMode port, modes⟩

/-- A call that switches the mode goes on to the lanes. -/
theorem apply_of_switches (idle : ports.Idle) (switches : Switches ports call) :
    ∃ between : Ports count, between.Idle ∧
      between.mode (env.macNum call.port) = call.mode ∧
      call.apply env ports =
        (disableLanes env call.outcome call.port
          (lanesOf (ports.portInfo call.port) call.mode) between).bind fun
            | (some errno, ports) => some (some errno, ports)
            | (none, ports) =>
                some (none, ports.modify call.port ({ · with portMacMode := call.mode })) := by
  obtain ⟨port, mode, outcome⟩ := call
  obtain ⟨inits, another, getMacNum, switched⟩ := switches
  obtain ⟨result, between, equation, kept, returns, _⟩ :=
    @initPort_spec count env outcome ports port mode idle.unlocked
  cases returns.mpr inits
  have stillAnother : ¬mode = (between.portInfo port).portMacMode := by
    rw [kept.portMacMode]
    exact another
  have sameLanes : lanesOf (between.portInfo port) mode =
      lanesOf (ports.portInfo port) mode := by
    unfold lanesOf portCnt
    rw [kept.splitPortCount]
  have betweenIdle := kept.idle idle
  refine ⟨{ between with mode := Function.update between.mode (env.macNum port) mode },
    ⟨betweenIdle.unlocked, betweenIdle.flagged⟩, Function.update_self .., ?_⟩
  unfold Call.apply portMacModeSet
  simp only [equation, Option.bind_eq_bind, Option.bind_some, if_neg stillAnother]
  rw [switchMode_switched betweenIdle getMacNum switched, sameLanes]

/-- The recorded mode does not concern the flags. -/
theorem Ports.Idle.modify_portMacMode (idle : ports.Idle) :
    (ports.modify port ({ · with portMacMode := mode })).Idle where
  unlocked := idle.unlocked
  flagged := by
    intro peer
    refine Eq.trans ?_ (idle.flagged peer)
    apply modify_field PortInfo.hwEnable
    intro info
    rfl

/-- A switch without a lane that sticks ends with the mode recorded. -/
theorem apply_disables
    (idle : ports.Idle)
    (switches : Switches ports call)
    (none_sticks : ∀ lane ∈ lanesOf (ports.portInfo call.port) call.mode,
      ¬Sticks env call.outcome call.port lane) :
    ∃ after, call.apply env ports = some (none, after) ∧ after.Idle ∧
      (after.portInfo call.port).portMacMode = after.mode (env.macNum call.port) := by
  obtain ⟨between, betweenIdle, switched, equation⟩ :=
    @apply_of_switches count env ports call idle switches
  obtain ⟨after, disabled, afterIdle, sameMode⟩ :=
    disableLanes_disables betweenIdle none_sticks
  rw [disabled] at equation
  refine ⟨_, equation, afterIdle.modify_portMacMode, ?_⟩
  rw [modify_self]
  change call.mode = after.mode _
  rw [sameMode, switched]

/-- A lane that sticks keeps the lock. -/
theorem apply_sticks
    {lane : Nat}
    (idle : ports.Idle)
    (switches : Switches ports call)
    (member : lane ∈ lanesOf (ports.portInfo call.port) call.mode)
    (sticks : Sticks env call.outcome call.port lane) :
    ∃ errno after, call.apply env ports = some (some errno, after) ∧
      after.locked = true := by
  obtain ⟨between, betweenIdle, _, equation⟩ :=
    @apply_of_switches count env ports call idle switches
  obtain ⟨errno, after, stuck, locked⟩ := disableLanes_sticks betweenIdle member sticks
  rw [stuck] at equation
  exact ⟨errno, after, equation, locked⟩

theorem met_of_idle
    {result : Option Errno}
    {after : Ports count}
    (equation : call.apply env ports = some (result, after))
    (idle : after.Idle) :
    Met env ports call ↔
      (after.portInfo call.port).portMacMode = after.mode (env.macNum call.port) := by
  constructor
  · rintro ⟨_, _, same, _, recorded, _⟩
    rw [equation] at same
    cases same
    exact recorded
  · intro recorded
    exact ⟨result, after, equation, idle.unlocked, recorded,
      fun peer _ => idle.flagged peer⟩

/-- A call does what is asked of it if and only if it is orderly. -/
theorem met_iff_orderly (idle : ports.Idle) (call : Call count) :
    Met env ports call ↔ Orderly env ports call := by
  unfold Orderly
  by_cases switches : Switches ports call
  · have vacuous : ∀ {statement : Prop}, (¬Switches ports call → statement) := absurd switches
    rw [forall_prop_of_true switches, and_iff_left vacuous]
    by_cases sticks : ∃ lane ∈ lanesOf (ports.portInfo call.port) call.mode,
        Sticks env call.outcome call.port lane
    · obtain ⟨lane, member, isPort, fails⟩ := sticks
      obtain ⟨errno, after, equation, locked⟩ :=
        apply_sticks idle switches member ⟨isPort, fails⟩
      apply iff_of_false
      · rintro ⟨_, _, same, unlocked, _⟩
        rw [equation] at same
        cases same
        rw [locked] at unlocked
        contradiction
      · intro succeeds
        rw [succeeds lane member isPort] at fails
        contradiction
    · have none_sticks : ∀ lane ∈ lanesOf (ports.portInfo call.port) call.mode,
          ¬Sticks env call.outcome call.port lane :=
        fun lane member stuck => sticks ⟨lane, member, stuck⟩
      obtain ⟨after, equation, afterIdle, recorded⟩ :=
        apply_disables idle switches none_sticks
      apply iff_of_true
      · exact (met_of_idle equation afterIdle).mpr recorded
      · intro lane member isPort
        by_contra fails
        exact none_sticks lane member ⟨isPort, Bool.not_eq_true _ ▸ fails⟩
  · obtain ⟨result, after, equation, afterIdle, recorded, modes⟩ :=
      @apply_of_not_switches count env ports call idle switches
    rw [met_of_idle equation afterIdle, recorded]
    rcases modes with ⟨uninitialized, inits, mode⟩ | ⟨notInit, mode⟩
    · rw [mode, Function.update_self]
      constructor
      · intro same
        exact ⟨fun switched => absurd switched switches, fun _ =>
          ⟨fun _ => same.symm, fun notInit => absurd ⟨uninitialized, inits⟩ notInit⟩⟩
      · intro orderly
        exact ((orderly.2 switches).1 ⟨uninitialized, inits⟩).symm
    · rw [mode]
      constructor
      · intro same
        exact ⟨fun switched => absurd switched switches, fun _ =>
          ⟨fun init => absurd init notInit, fun _ => same⟩⟩
      · intro orderly
        exact (orderly.2 switches).2 notInit

/-- After an orderly call the lock is free and all flags are right. -/
theorem Ports.Idle.step (idle : ports.Idle) (orderly : Orderly env ports call) :
    (step env ports call).Idle := by
  unfold PortMacMode.step
  by_cases switches : Switches ports call
  · have none_sticks : ∀ lane ∈ lanesOf (ports.portInfo call.port) call.mode,
        ¬Sticks env call.outcome call.port lane := by
      rintro lane member ⟨isPort, fails⟩
      rw [orderly.1 switches lane member isPort] at fails
      contradiction
    obtain ⟨after, equation, afterIdle, _⟩ := apply_disables idle switches none_sticks
    rw [equation]
    exact afterIdle
  · obtain ⟨result, after, equation, afterIdle, _⟩ :=
      @apply_of_not_switches count env ports call idle switches
    rw [equation]
    exact afterIdle

end Calls

/-- From a state with the lock free and the flags right, every call of a run does what
is asked of it if and only if every call is orderly. -/
theorem met_run_iff
    {env : Env count}
    {ports : Ports count}
    (idle : ports.Idle)
    (calls : List (Call count)) :
    Transition.Guarded (Met env) (step env) ports calls ↔
      Transition.Guarded (Orderly env) (step env) ports calls :=
  Transition.guarded_iff_of_invariant Ports.Idle (fun _ call idle => met_iff_orderly idle call)
    (fun _ _ idle orderly => idle.step orderly) idle calls

/-- Two port groups with four ports each. -/
def sampleEnv : Env 8 where
  macNum := fun port => port / 4
  portBits := 32

/-- Disabled ports in the mode that the device starts with. -/
def samplePorts (initialized : Bool) : Ports 8 where
  locked := false
  portInfo := fun _ => ⟨false, initialized, 4, .mode4X10GB⟩
  mode := fun _ => .mode4X10GB
  enabled := fun _ => false

/-- Every call of the XDK succeeds, on a port that was not initialised. -/
def accepting : Outcome where
  isPortNotInited := true
  initGetMacNum := true
  portGroupInit := true
  getMacNum := true
  switchMacConfigMode := true
  portEnable := fun _ => true

theorem samplePorts_idle (initialized : Bool) : (samplePorts initialized).Idle :=
  ⟨rfl, fun _ => rfl⟩

/-- A port that gets initialised and switched, a failed switch, and the way back with
four lanes. -/
theorem met_sampleRun :
    (samplePorts false).Idle ∧
      Transition.Guarded (Met sampleEnv) (step sampleEnv) (samplePorts false)
        [⟨0, .mode1X100GB, accepting⟩,
          ⟨0, .mode1X40GB, { accepting with switchMacConfigMode := false }⟩,
          ⟨0, .mode4X10GB, accepting⟩] :=
  ⟨samplePorts_idle false, (met_run_iff (samplePorts_idle false) _).mpr
    ⟨by decide, by decide, by decide, trivial⟩⟩

/-- A port that cannot be disabled keeps the lock.  A failed switch after the port
group was initialised leaves the hardware in a mode that is not recorded. -/
theorem not_met_sticking :
    ¬Transition.Guarded (Met sampleEnv) (step sampleEnv) (samplePorts true)
        [⟨0, .mode1X100GB, { accepting with portEnable := fun _ => false }⟩] ∧
      ¬Transition.Guarded (Met sampleEnv) (step sampleEnv) (samplePorts false)
        [⟨0, .mode1X100GB, { accepting with switchMacConfigMode := false }⟩] := by
  constructor
  · rintro ⟨met, _⟩
    rw [met_iff_orderly (samplePorts_idle true)] at met
    revert met
    decide
  · rintro ⟨met, _⟩
    rw [met_iff_orderly (samplePorts_idle false)] at met
    revert met
    decide

end PortMacMode
end XpliantSwitchd
