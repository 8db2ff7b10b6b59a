import XpliantSwitchd.Netdev.Defs

/-!
# The calls seen from the netdevs

What the calls of the switch daemon can write into the netdevs.  A call that configures a
netdev may stop half-way, when it comes to a lock that is never let go.
-/

namespace XpliantSwitchd
namespace Netdev

open PortMacMode

variable {count : Nat}

/-! ## The configuration of a netdev -/

/-- The configuration of a netdev after a call that goes through, with the carrier when
the call turns the netdev off. -/
def reconfigure (outcome : ConfigOutcome) (netdev : NetdevXpliant count) (pcfg : PortCfg)
    (target : NetdevXpliant count) : NetdevXpliant count :=
  { handleXpHostPortFilters outcome pcfg.enable target with
    linkStatus :=
      if netdev.pcfg.enable && !pcfg.enable then false else target.linkStatus
    pcfg := pcfg }

/-- How a call that configures a netdev leaves the netdevs and the reports: as they were,
with the host filter alone changed by a call that then waits, or with everything
changed. -/
inductive Configured (outcome : ConfigOutcome) (address : Nat) (pcfg : PortCfg)
    (before after : Switch count) : Prop
  | kept
      (netdevs : after.netdevs = before.netdevs)
      (downs : after.downs = before.downs)
  | waits (netdev : NetdevXpliant count)
      (found : before.netdev address = some netdev)
      (netdevs : after.netdevs =
        (before.modify address (handleXpHostPortFilters outcome pcfg.enable)).netdevs)
      (downs : after.downs = before.downs)
      (main : after.main = .waiting address)
  | done (netdev : NetdevXpliant count)
      (found : before.netdev address = some netdev)
      (initialized : netdev.intfInitialized = true)
      (netdevs : after.netdevs =
        (before.modify address (reconfigure outcome netdev pcfg)).netdevs)
      (downs : after.downs =
        if netdev.pcfg.enable && !pcfg.enable then netdev.ifId :: before.downs
        else before.downs)

theorem portSetEnable_cases (succeeds : Bool) (switch : Switch count)
    (address portNum : Nat) (enable : Bool) (rest : Switch count → Switch count) :
    (switch.ports.locked = true ∧
      portSetEnable succeeds switch address portNum enable rest =
        { switch with main := .waiting address }) ∨
    ∃ ports serdesTuned, portSetEnable succeeds switch address portNum enable rest =
      rest { switch with ports := ports, serdesTuned := serdesTuned } := by
  unfold portSetEnable
  by_cases inside : portNum < count
  · by_cases settled :
      (switch.ports.portInfo ⟨portNum, inside⟩).hwEnable = enable
    · exact .inr ⟨switch.ports, switch.serdesTuned, by simp [inside, settled]⟩
    · by_cases locked : switch.ports.locked = true
      · exact .inl ⟨locked, by simp [inside, settled, locked]⟩
      · exact .inr ⟨_, _, by simp only [inside, settled, locked, ↓reduceDIte,
          ↓reduceIte, Bool.false_eq_true]; rfl⟩
  · exact .inr ⟨switch.ports, switch.serdesTuned, by simp [inside]⟩

@[simp] theorem handleXpHostPortFilters_address (outcome : ConfigOutcome) (enable : Bool)
    (netdev : NetdevXpliant count) :
    (handleXpHostPortFilters outcome enable netdev).address = netdev.address := by
  unfold handleXpHostPortFilters
  cases outcome.filterId <;> split_ifs <;> rfl

@[simp] theorem handleXpHostPortFilters_linkStatus (outcome : ConfigOutcome)
    (enable : Bool) (netdev : NetdevXpliant count) :
    (handleXpHostPortFilters outcome enable netdev).linkStatus = netdev.linkStatus := by
  unfold handleXpHostPortFilters
  cases outcome.filterId <;> split_ifs <;> rfl

/-- The part of the call after the MAC mode. -/
theorem applyConfig_configured (outcome : ConfigOutcome) (switch : Switch count)
    {netdev : NetdevXpliant count} {pcfg : PortCfg}
    (found : switch.netdev netdev.address = some netdev)
    (initialized : netdev.intfInitialized = true) :
    Configured outcome netdev.address pcfg switch
      (applyConfig outcome switch netdev pcfg) := by
  have filterKeeps : ∀ target : NetdevXpliant count, target.address = netdev.address →
      (handleXpHostPortFilters outcome pcfg.enable target).address = netdev.address := by
    intro target same
    rw [handleXpHostPortFilters_address, same]
  unfold applyConfig portSetConfig portUpdateConfig
  by_cases same : netdev.pcfg.enable = pcfg.enable
  · rw [if_pos same]
    obtain ⟨_, equation⟩ | ⟨ports, tuned, equation⟩ := portSetEnable_cases outcome.portEnable
      (switch.modify netdev.address (handleXpHostPortFilters outcome pcfg.enable))
      netdev.address netdev.portNum pcfg.enable
      (fun switch => switch.modify netdev.address ({ · with pcfg := pcfg }))
    · rw [equation]
      exact .waits netdev found rfl rfl rfl
    · rw [equation]
      refine .done netdev found initialized ?_ ?_
      · simp only [Switch.modify]
        rw [KeyedList.rewrite_rewrite filterKeeps]
        congr 1
        funext target
        simp [reconfigure, same]
      · simp [Switch.modify, same]
  · rw [if_neg same]
    by_cases locked : switch.ports.locked = true
    · rw [if_pos (by exact locked)]
      exact .waits netdev found rfl rfl rfl
    · rw [if_neg (by exact locked)]
      have unlocked : ∀ enable, (changeEnable (switch.modify netdev.address
          (handleXpHostPortFilters outcome pcfg.enable)) netdev enable).ports.locked ≠
            true := by
        intro enable
        cases enable <;> exact locked
      obtain ⟨stuck, _⟩ | ⟨ports, tuned, equation⟩ := portSetEnable_cases outcome.portEnable
        (changeEnable (switch.modify netdev.address
          (handleXpHostPortFilters outcome pcfg.enable)) netdev pcfg.enable)
        netdev.address netdev.portNum pcfg.enable
        (fun switch => switch.modify netdev.address ({ · with pcfg := pcfg }))
      · exact absurd stuck (unlocked pcfg.enable)
      rw [equation]
      cases enable : pcfg.enable with
      | true =>
          rw [enable] at filterKeeps
          refine .done netdev found initialized ?_ (by simp [changeEnable, Switch.modify, enable])
          simp only [changeEnable, Switch.modify, ↓reduceIte]
          rw [KeyedList.rewrite_rewrite filterKeeps]
          congr 1
          funext target
          simp [reconfigure, enable]
      | false =>
          rw [enable] at filterKeeps
          have on : netdev.pcfg.enable = true := by simpa [enable] using same
          refine .done netdev found initialized ?_
            (by simp [changeEnable, Switch.modify, enable, on])
          simp only [changeEnable, Switch.modify, Bool.false_eq_true, ↓reduceIte]
          rw [KeyedList.rewrite_rewrite filterKeeps, KeyedList.rewrite_rewrite]
          · congr 1
            funext target
            simp [reconfigure, enable, on]
          · exact filterKeeps

/-- What is left alone by a call that configures a netdev. -/
theorem applyConfig_frame (outcome : ConfigOutcome) (switch : Switch count)
    (netdev : NetdevXpliant count) (pcfg : PortCfg) :
    (applyConfig outcome switch netdev pcfg).poll = switch.poll ∧
      (applyConfig outcome switch netdev pcfg).nextAddress = switch.nextAddress := by
  unfold applyConfig portSetConfig portUpdateConfig portSetEnable changeEnable
  constructor <;> (dsimp only; split_ifs <;> rfl)

theorem setHwIntfConfig_configured (env : Env count) (outcome : ConfigOutcome)
    (switch : Switch count) (address : Nat) (config : HwIntfConfig) :
    Configured outcome address config.portCfg switch
      (setHwIntfConfig env outcome switch address config) := by
  unfold setHwIntfConfig
  cases found : switch.netdev address with
  | none => exact .kept rfl rfl
  | some netdev =>
      have here : netdev.address = address := by simpa using List.find?_some found
      subst here
      dsimp only
      by_cases initialized : netdev.intfInitialized = true
      · by_cases changed : isPortConfigChanged netdev.pcfg config.portCfg = true
        · rw [if_neg (by simp [initialized]), if_neg (by simp [changed])]
          by_cases on : config.portCfg.enable = true
          · rw [if_pos on]
            rcases target : netdev.macMode config.portCfg with ⟨_ | port, mode⟩
            · exact .kept rfl rfl
            · rcases set : portMacModeSet env.portEnv outcome.macMode switch.ports port mode
                with _ | ⟨result, ports⟩
              · simp only [set]
                exact .kept rfl rfl
              · simp only [set]
                cases @applyConfig_configured _ outcome { switch with ports := ports } netdev
                  config.portCfg found initialized with
                | kept netdevs downs => exact .kept netdevs downs
                | waits netdev found netdevs downs main =>
                    exact .waits netdev found netdevs downs main
                | done netdev found initialized netdevs downs =>
                    exact .done netdev found initialized netdevs downs
          · rw [if_neg on]
            exact applyConfig_configured outcome switch found initialized
        · rw [if_neg (by simp [initialized]), if_pos (by simp [changed])]
          exact .kept rfl rfl
      · rw [if_pos (by simp [initialized])]
        exact .kept rfl rfl

theorem setHwIntfConfig_frame (env : Env count) (outcome : ConfigOutcome)
    (switch : Switch count) (address : Nat) (config : HwIntfConfig) :
    (setHwIntfConfig env outcome switch address config).poll = switch.poll ∧
      (setHwIntfConfig env outcome switch address config).nextAddress =
        switch.nextAddress := by
  unfold setHwIntfConfig
  cases switch.netdev address with
  | none => exact ⟨rfl, rfl⟩
  | some netdev =>
      dsimp only
      split_ifs
      · exact ⟨rfl, rfl⟩
      · exact ⟨rfl, rfl⟩
      · rcases netdev.macMode config.portCfg with ⟨_ | port, mode⟩
        · exact ⟨rfl, rfl⟩
        · cases set : portMacModeSet env.portEnv outcome.macMode switch.ports port mode with
          | none => simp [set]
          | some result =>
              simp only [set]
              exact applyConfig_frame outcome _ netdev config.portCfg
      · exact applyConfig_frame outcome switch netdev config.portCfg

theorem updateFlags_frame (succeeds : Bool) (switch : Switch count) (address : Nat)
    (update : FlagsUpdate) :
    (updateFlags succeeds switch address update).netdevs = switch.netdevs ∧
      (updateFlags succeeds switch address update).downs = switch.downs ∧
      (updateFlags succeeds switch address update).poll = switch.poll ∧
      (updateFlags succeeds switch address update).nextAddress = switch.nextAddress := by
  unfold updateFlags
  cases switch.netdev address with
  | none => exact ⟨rfl, rfl, rfl, rfl⟩
  | some netdev =>
      dsimp only
      split_ifs
      · exact ⟨rfl, rfl, rfl, rfl⟩
      · obtain ⟨_, equation⟩ | ⟨ports, tuned, equation⟩ :=
          portSetEnable_cases succeeds switch address netdev.portNum true id
        · rw [equation]
          exact ⟨rfl, rfl, rfl, rfl⟩
        · rw [equation]
          exact ⟨rfl, rfl, rfl, rfl⟩
      · obtain ⟨_, equation⟩ | ⟨ports, tuned, equation⟩ :=
          portSetEnable_cases succeeds switch address netdev.portNum false id
        · rw [equation]
          exact ⟨rfl, rfl, rfl, rfl⟩
        · rw [equation]
          exact ⟨rfl, rfl, rfl, rfl⟩
      · exact ⟨rfl, rfl, rfl, rfl⟩

/-! ## What holds of each netdev -/

/-- A netdev with a carrier is turned on, and one that is turned on is set up. -/
structure NetdevXpliant.WellSet (netdev : NetdevXpliant count) : Prop where
  carrier : netdev.linkStatus = true → netdev.pcfg.enable = true
  enabled : netdev.pcfg.enable = true → netdev.intfInitialized = true

theorem wellSet_new (env : Env count) (address : Nat) (name : String) :
    (NetdevXpliant.new env address name).WellSet where
  carrier := nofun
  enabled := nofun

theorem handleXpHostPortFilters_eq (outcome : ConfigOutcome) (enable : Bool)
    (netdev : NetdevXpliant count) :
    ∃ filterId, handleXpHostPortFilters outcome enable netdev =
      { netdev with xpnetPortFilterId := filterId } := by
  unfold handleXpHostPortFilters
  cases outcome.filterId <;> split_ifs <;> exact ⟨_, rfl⟩

theorem handleXpHostPortFilters_off (outcome : ConfigOutcome)
    (netdev : NetdevXpliant count) :
    (handleXpHostPortFilters outcome false netdev).xpnetPortFilterId = 0 := by
  unfold handleXpHostPortFilters
  by_cases none : netdev.xpnetPortFilterId = 0
  · simp [none]
  · simp [none]

/-- The fields of a netdev that a configuration goes through with. -/
theorem reconfigure_fields (outcome : ConfigOutcome) (netdev : NetdevXpliant count)
    (pcfg : PortCfg) (target : NetdevXpliant count) :
    (reconfigure outcome netdev pcfg target).address = target.address ∧
      (reconfigure outcome netdev pcfg target).linkResets = target.linkResets := by
  obtain ⟨filterId, equation⟩ := handleXpHostPortFilters_eq outcome pcfg.enable target
  unfold reconfigure
  rw [equation]
  exact ⟨rfl, rfl⟩

/-- What setting up a netdev does not write. -/
structure Alike (old new : NetdevXpliant count) : Prop where
  address : new.address = old.address
  pcfg : new.pcfg = old.pcfg
  linkStatus : new.linkStatus = old.linkStatus
  linkResets : new.linkResets = old.linkResets
  filter : new.xpnetPortFilterId = old.xpnetPortFilterId

theorem splitInfo_alike (switch : Switch count) (info : HwIntfInfo)
    (outcome : InfoOutcome) (netdev : NetdevXpliant count) :
    Alike netdev (splitInfo switch info outcome netdev) ∧
      (splitInfo switch info outcome netdev).portInfo = netdev.portInfo ∧
      (splitInfo switch info outcome netdev).portNum = netdev.portNum := by
  have created : ∀ target : NetdevXpliant count, Alike netdev target →
      target.portInfo = netdev.portInfo → target.portNum = netdev.portNum →
      Alike netdev (hostIfCreate outcome target) ∧
        (hostIfCreate outcome target).portInfo = netdev.portInfo ∧
        (hostIfCreate outcome target).portNum = netdev.portNum := by
    intro target alike portInfo portNum
    unfold hostIfCreate
    cases outcome.hostIfId with
    | none => exact ⟨alike, portInfo, portNum⟩
    | some hostIfId => exact ⟨{ alike with }, portInfo, portNum⟩
  unfold splitInfo
  by_cases split : info.split4 = true
  · rw [if_pos split]
    exact created _ ⟨rfl, rfl, rfl, rfl, rfl⟩ rfl rfl
  · rw [if_neg split]
    cases info.splitParent with
    | none => exact created _ ⟨rfl, rfl, rfl, rfl, rfl⟩ rfl rfl
    | some parent =>
        dsimp only
        cases switch.netdevs.find? (·.name == parent) with
        | none => exact ⟨⟨rfl, rfl, rfl, rfl, rfl⟩, rfl, rfl⟩
        | some _ => exact created _ ⟨rfl, rfl, rfl, rfl, rfl⟩ rfl rfl

/-- A netdev that is set up on the way has its port written. -/
theorem bindPort_alike (switch : Switch count) (info : HwIntfInfo)
    (outcome : InfoOutcome) (netdev : NetdevXpliant count) :
    Alike netdev (bindPort switch info outcome netdev) ∧
      (netdev.intfInitialized = false →
        (bindPort switch info outcome netdev).intfInitialized = true →
        ∃ port : Fin count,
          (bindPort switch info outcome netdev).portInfo = some port ∧
            (port : Nat) = (bindPort switch info outcome netdev).portNum) := by
  unfold bindPort
  by_cases inside : info.portNum < count
  · simp only [inside, ↓reduceDIte]
    cases outcome.portIntfId with
    | none =>
        exact ⟨⟨rfl, rfl, rfl, rfl, rfl⟩, fun off set => absurd set (by simp [off])⟩
    | some ifId =>
        by_cases configured : outcome.portConfig = true
        · simp only [configured, Bool.not_true, Bool.false_eq_true, ↓reduceIte]
          obtain ⟨alike, portInfo, portNum⟩ := splitInfo_alike switch info outcome
            { netdev with
              portNum := info.portNum, ifId := ifId, portInfo := some ⟨_, inside⟩ }
          refine ⟨{ alike with }, fun _ _ => ?_⟩
          rw [portInfo, portNum]
          exact ⟨_, rfl, rfl⟩
        · simp only [configured, Bool.not_false, ↓reduceIte]
          exact ⟨⟨rfl, rfl, rfl, rfl, rfl⟩, fun off set => absurd set (by simp [off])⟩
  · simp only [inside, ↓reduceDIte]
    exact ⟨⟨rfl, rfl, rfl, rfl, rfl⟩, fun off set => absurd set (by simp [off])⟩

theorem hwIntfInfo_alike (env : Env count) (switch : Switch count) (info : HwIntfInfo)
    (outcome : InfoOutcome) (netdev : NetdevXpliant count) :
    Alike netdev (hwIntfInfo env switch info outcome netdev) ∧
      (netdev.intfInitialized = true → hwIntfInfo env switch info outcome netdev = netdev) ∧
      (netdev.intfInitialized = false →
        (hwIntfInfo env switch info outcome netdev).intfInitialized = true →
        ∃ port : Fin count,
          (hwIntfInfo env switch info outcome netdev).portInfo = some port ∧
            (port : Nat) = (hwIntfInfo env switch info outcome netdev).portNum) := by
  unfold hwIntfInfo
  by_cases initialized : netdev.intfInitialized = true
  · rw [if_pos initialized]
    exact ⟨⟨rfl, rfl, rfl, rfl, rfl⟩, fun _ => rfl,
      fun off => absurd initialized (by simp [off])⟩
  · rw [if_neg initialized]
    have never : netdev.intfInitialized = true → False := initialized
    by_cases beyond : env.maxDevices ≤ info.hwUnit
    · rw [if_pos beyond]
      exact ⟨⟨rfl, rfl, rfl, rfl, rfl⟩, fun _ => rfl, fun _ set => (never set).elim⟩
    · rw [if_neg beyond]
      by_cases other : info.hwUnit ≠ env.devId
      · rw [if_pos other]
        exact ⟨⟨rfl, rfl, rfl, rfl, rfl⟩, fun set => (never set).elim,
          fun _ set => (never set).elim⟩
      · rw [if_neg other]
        obtain ⟨alike, written⟩ :=
          bindPort_alike switch info outcome { netdev with attached := true }
        exact ⟨{ alike with }, fun set => (never set).elim, written⟩

theorem wellSet_hwIntfInfo (env : Env count) (switch : Switch count) (info : HwIntfInfo)
    (outcome : InfoOutcome) {netdev : NetdevXpliant count} (wellSet : netdev.WellSet) :
    (hwIntfInfo env switch info outcome netdev).WellSet := by
  obtain ⟨alike, kept, _⟩ := hwIntfInfo_alike env switch info outcome netdev
  cases initialized : netdev.intfInitialized with
  | true =>
      rw [kept initialized]
      exact wellSet
  | false =>
      have off : netdev.pcfg.enable = false := by
        cases enabled : netdev.pcfg.enable with
        | false => rfl
        | true => exact absurd (wellSet.enabled enabled) (by simp [initialized])
      refine ⟨?_, ?_⟩
      · rw [alike.linkStatus, alike.pcfg]
        exact wellSet.carrier
      · rw [alike.pcfg, off]
        exact nofun

theorem wellSet_handleXpHostPortFilters (outcome : ConfigOutcome) (enable : Bool)
    {netdev : NetdevXpliant count} (wellSet : netdev.WellSet) :
    (handleXpHostPortFilters outcome enable netdev).WellSet := by
  obtain ⟨filterId, equation⟩ := handleXpHostPortFilters_eq outcome enable netdev
  rw [equation]
  exact { wellSet with }

theorem wellSet_reconfigure (outcome : ConfigOutcome) (pcfg : PortCfg)
    {netdev : NetdevXpliant count} (wellSet : netdev.WellSet)
    (initialized : netdev.intfInitialized = true) :
    (reconfigure outcome netdev pcfg netdev).WellSet := by
  obtain ⟨filterId, equation⟩ := handleXpHostPortFilters_eq outcome pcfg.enable netdev
  unfold reconfigure
  rw [equation]
  refine ⟨?_, fun _ => initialized⟩
  cases enable : pcfg.enable with
  | true => exact fun _ => rfl
  | false =>
      -- a netdev that keeps its carrier was turned off before, so it has none
      intro carrier
      cases on : netdev.pcfg.enable with
      | true => simp [on] at carrier
      | false =>
          have old : netdev.linkStatus = true := by simpa [on] using carrier
          exact absurd (wellSet.carrier old) (by simp [on])

/-! ## The netdevs of every run -/

/-- A netdev that is set up has the record of its port. -/
def NetdevXpliant.Located (netdev : NetdevXpliant count) : Prop :=
  netdev.intfInitialized = true →
    ∃ port : Fin count, netdev.portInfo = some port ∧ (port : Nat) = netdev.portNum

/-- The netdevs have addresses of their own, and those that are set up have the records of
their ports. -/
structure Switch.Rooted (switch : Switch count) : Prop where
  nodup : (switch.netdevs.map (·.address)).Nodup
  fresh : ∀ netdev ∈ switch.netdevs, netdev.address < switch.nextAddress
  located : ∀ netdev ∈ switch.netdevs, netdev.Located

/-- How a step leaves the netdevs. -/
inductive Touches (before after : Switch count) : Prop
  | writes (address : Nat) (change : NetdevXpliant count → NetdevXpliant count)
      (netdevs : after.netdevs = (before.modify address change).netdevs)
      (nextAddress : after.nextAddress = before.nextAddress)
      (keeps : ∀ netdev, (change netdev).address = netdev.address)
      (located : ∀ netdev, netdev.Located → (change netdev).Located)
  | makes (netdev : NetdevXpliant count)
      (fresh : netdev.address = before.nextAddress)
      (located : netdev.Located)
      (netdevs : after.netdevs = before.netdevs ++ [netdev])
      (nextAddress : after.nextAddress = before.nextAddress + 1)
  | removes (address : Nat)
      (netdevs : after.netdevs =
        KeyedList.remove NetdevXpliant.address address before.netdevs)
      (nextAddress : after.nextAddress = before.nextAddress)

theorem touches_of_eq {before after : Switch count}
    (netdevs : after.netdevs = before.netdevs)
    (nextAddress : after.nextAddress = before.nextAddress) : Touches before after := by
  refine .writes 0 id ?_ nextAddress (fun _ => rfl) (fun _ located => located)
  rw [netdevs]
  simp [Switch.modify, KeyedList.rewrite]

theorem touches_construct (env : Env count) (switch : Switch count) (name : String) :
    Touches switch (construct env switch name) :=
  .makes (NetdevXpliant.new env switch.nextAddress name) rfl nofun rfl rfl

theorem touches_destruct (switch : Switch count) (address : Nat) :
    Touches switch (destruct switch address) :=
  .removes address rfl rfl

theorem touches_setHwIntfInfo (env : Env count) (switch : Switch count) (address : Nat)
    (info : HwIntfInfo) (outcome : InfoOutcome) :
    Touches switch (setHwIntfInfo env switch address info outcome) := by
  unfold setHwIntfInfo
  cases switch.netdev address with
  | none => exact touches_of_eq rfl rfl
  | some netdev =>
      refine .writes address (hwIntfInfo env switch info outcome) rfl rfl
        (fun target => (hwIntfInfo_alike env switch info outcome target).1.address) ?_
      intro target located
      obtain ⟨_, kept, written⟩ := hwIntfInfo_alike env switch info outcome target
      cases initialized : target.intfInitialized with
      | true =>
          rw [kept initialized]
          exact located
      | false => exact written initialized

theorem touches_setHwIntfConfig (env : Env count) (outcome : ConfigOutcome)
    (switch : Switch count) (address : Nat) (config : HwIntfConfig) :
    Touches switch (setHwIntfConfig env outcome switch address config) := by
  have nextAddress := (setHwIntfConfig_frame env outcome switch address config).2
  have filters : ∀ target : NetdevXpliant count, ∃ filterId,
      handleXpHostPortFilters outcome config.portCfg.enable target =
        { target with xpnetPortFilterId := filterId } :=
    handleXpHostPortFilters_eq outcome config.portCfg.enable
  cases setHwIntfConfig_configured env outcome switch address config with
  | kept netdevs _ => exact touches_of_eq netdevs nextAddress
  | waits _ _ netdevs _ _ =>
      refine .writes address _ netdevs nextAddress
        (handleXpHostPortFilters_address outcome _) ?_
      intro target located
      obtain ⟨filterId, equation⟩ := filters target
      rw [equation]
      exact located
  | done netdev _ _ netdevs _ =>
      refine .writes address _ netdevs nextAddress
        (fun target => (reconfigure_fields outcome netdev config.portCfg target).1) ?_
      intro target located
      obtain ⟨filterId, equation⟩ := filters target
      unfold reconfigure
      rw [equation]
      exact located

theorem touches_linkStateCallback (switch : Switch count)
    (netdev : NetdevXpliant count) (link : Bool) (poll : Poll count) :
    Touches switch { linkStateCallback switch netdev link with poll := poll } := by
  cases link with
  | true => exact .writes netdev.address _ rfl rfl (fun _ => rfl) (fun _ located => located)
  | false => exact .writes netdev.address _ rfl rfl (fun _ => rfl) (fun _ located => located)

theorem touches_pollReport (switch : Switch count) (port : Nat)
    (sample : Sample count) : Touches switch (pollReport switch port sample) := by
  unfold pollReport
  by_cases same : sample.linkStatus = switch.link
  · rw [if_pos same]
    exact touches_of_eq rfl rfl
  · rw [if_neg same]
    cases found : switch.netdev sample.address with
    | none => exact touches_of_eq rfl rfl
    | some netdev =>
        by_cases waiting : switch.main = .waiting sample.address
        · simp only [waiting, ↓reduceIte]
          exact touches_of_eq rfl rfl
        · simp only [waiting, ↓reduceIte]
          exact touches_linkStateCallback switch netdev switch.link _

/-- The other sections of the loop leave the netdevs alone. -/
theorem touches_pollStep (outcome : PollOutcome) (switch : Switch count) :
    Touches switch (pollStep outcome switch) := by
  unfold pollStep
  cases switch.poll with
  | next port =>
      dsimp only
      cases fromPortNum switch port with
      | none => exact touches_of_eq rfl rfl
      | some netdev => exact touches_of_eq rfl rfl
  | found port address =>
      dsimp only [pollSample]
      cases found : switch.netdev address with
      | none => exact touches_of_eq rfl rfl
      | some netdev =>
          dsimp only
          by_cases waiting : switch.main = .waiting address
          · rw [if_pos waiting]
            exact touches_of_eq rfl rfl
          · rw [if_neg waiting]
            split_ifs <;> exact touches_of_eq rfl rfl
  | sampled port sample =>
      dsimp only [pollRead]
      cases known : sample.portInfo with
      | none => exact touches_of_eq rfl rfl
      | some info =>
          dsimp only
          by_cases locked : switch.ports.locked = true
          · rw [if_pos locked]
            exact touches_of_eq rfl rfl
          · rw [if_neg locked]
            exact touches_of_eq rfl rfl
  | read port sample => exact touches_pollReport switch port sample
  | reported port sample =>
      dsimp only [pollTune]
      cases known : sample.portInfo with
      | none => exact touches_of_eq rfl rfl
      | some info =>
          dsimp only
          by_cases tuned : switch.serdesTuned info = true
          · rw [if_pos tuned]
            exact touches_of_eq rfl rfl
          · rw [if_neg tuned]
            split_ifs <;> exact touches_of_eq rfl rfl

theorem touches_step (env : Env count) (switch : Switch count) (event : Event count) :
    Touches switch (step env switch event) := by
  have call : ∀ body : Switch count → Switch count,
      Touches switch (body switch) → Touches switch (switch.call body) := by
    intro body touches
    unfold Switch.call
    by_cases running : switch.main = .running
    · rw [if_pos running]
      exact touches
    · rw [if_neg running]
      exact touches_of_eq rfl rfl
  cases event with
  | construct name => exact call (construct env · name) (touches_construct env switch name)
  | setHwIntfInfo address info outcome =>
      exact call (setHwIntfInfo env · address info outcome)
        (touches_setHwIntfInfo env switch address info outcome)
  | setHwIntfConfig address config outcome =>
      exact call (setHwIntfConfig env outcome · address config)
        (touches_setHwIntfConfig env outcome switch address config)
  | updateFlags address update succeeds =>
      obtain ⟨netdevs, _, _, nextAddress⟩ := updateFlags_frame succeeds switch address update
      exact call (updateFlags succeeds · address update) (touches_of_eq netdevs nextAddress)
  | destruct address => exact call (destruct · address) (touches_destruct switch address)
  | poll outcome =>
      by_cases crashed : switch.main = .crashed
      · simp only [step, if_pos crashed]
        exact touches_of_eq rfl rfl
      · simp only [step, if_neg crashed]
        exact touches_pollStep outcome switch
  | link port up => exact touches_of_eq rfl rfl

theorem rooted_touched {before after : Switch count}
    (touches : Touches before after) (rooted : before.Rooted) : after.Rooted := by
  cases touches with
  | writes address change netdevs nextAddress keeps located =>
      have members : ∀ netdev ∈ after.netdevs, ∃ old ∈ before.netdevs,
          netdev.address = old.address ∧ netdev.Located := by
        intro netdev member
        rw [netdevs] at member
        obtain ⟨old, oldMember, _, rfl⟩ | ⟨member, _⟩ := KeyedList.mem_rewrite.1 member
        · exact ⟨old, oldMember, keeps old, located old (rooted.located old oldMember)⟩
        · exact ⟨netdev, member, rfl, rooted.located netdev member⟩
      refine ⟨?_, ?_, ?_⟩
      · rw [netdevs]
        simp only [Switch.modify]
        rw [KeyedList.map_rewrite fun netdev _ _ => keeps netdev]
        exact rooted.nodup
      · intro netdev member
        obtain ⟨old, oldMember, same, _⟩ := members netdev member
        rw [nextAddress, same]
        exact rooted.fresh old oldMember
      · intro netdev member
        obtain ⟨_, _, _, located⟩ := members netdev member
        exact located
  | makes new fresh located netdevs nextAddress =>
      refine ⟨?_, ?_, ?_⟩
      · rw [netdevs, List.map_append, List.nodup_append]
        refine ⟨rooted.nodup, List.nodup_singleton _, ?_⟩
        intro left leftMember right rightMember equal
        obtain ⟨netdev, member, rfl⟩ := List.mem_map.1 leftMember
        have bound := rooted.fresh netdev member
        have here : right = new.address := by simpa using rightMember
        rw [equal, here, fresh] at bound
        exact absurd bound (Nat.lt_irrefl _)
      · intro netdev member
        rw [netdevs, List.mem_append, List.mem_singleton] at member
        rw [nextAddress]
        obtain old | rfl := member
        · exact Nat.lt_succ_of_lt (rooted.fresh netdev old)
        · rw [fresh]
          exact Nat.lt_succ_self _
      · intro netdev member
        rw [netdevs, List.mem_append, List.mem_singleton] at member
        obtain old | rfl := member
        · exact rooted.located netdev old
        · exact located
  | removes address netdevs nextAddress =>
      refine ⟨?_, ?_, ?_⟩
      · rw [netdevs]
        exact KeyedList.nodup_remove rooted.nodup
      · intro netdev member
        rw [netdevs] at member
        rw [nextAddress]
        exact rooted.fresh netdev (KeyedList.mem_remove.1 member).1
      · intro netdev member
        rw [netdevs] at member
        exact rooted.located netdev (KeyedList.mem_remove.1 member).1

/-! ## A device for the runs below -/

/-- A device of two ports. -/
def sampleEnv : Env 2 where
  devId := 0
  maxDevices := 1
  invalidIntfId := 255
  portEnv := { macNum := fun _ => 0, portBits := 8 }

/-- The ports before they are used, with the lock free. -/
def samplePorts : Ports 2 where
  locked := false
  portInfo := fun _ => ⟨false, true, 0, .mode4X10GB⟩
  mode := fun _ => .mode4X10GB
  enabled := fun _ => false

/-- The first of the two ports. -/
def firstPort : Fin 2 := 0

/-- Answers that let everything through. -/
def sampleOutcome : ConfigOutcome where
  macMode := ⟨false, true, true, true, true, fun _ => true⟩
  filterId := some 3
  portEnable := true

/-- A configuration that turns a netdev on or off. -/
def sampleConfig (enable : Bool) : HwIntfConfig where
  hwEnable := enable
  autoneg := false
  speeds := none
  duplex := true
  pause := .none
  mtu := 1500

end Netdev
end XpliantSwitchd
