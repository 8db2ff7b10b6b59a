import XpliantSwitchd.L3Intf.Failures

/-!
# Enabling and disabling an L3 interface

`ops_xp_routing_disable_l3_interface` asks the XDK for the type of the port, LAG
or invalid id below the L3 interface, never for that of the L3 interface itself.
So none of the branches that undo an interface is taken: every interface that was
enabled stays in the hardware.  The branch for the interface's own type would
undo it.
-/

namespace XpliantSwitchd
namespace L3Intf

open Vlans

variable {env : Env} {xdk : L3Xdk env} {state after : State} {l3Intf : L3Interface}
  {request : Request} {ifName : String} {mac : MacAddr}

/-- The interfaces of the hardware, what they are bound to, the commands for ARP
broadcasts and the names of interfaces are as before. -/
structure Restored (before after : State) : Prop where
  ids : ∀ id, id ∈ after.hw.ids ↔ id ∈ before.hw.ids
  portIntf : after.hw.portIntf = before.hw.portIntf
  subIntf : after.hw.subIntf = before.hw.subIntf
  arpBcCmd : after.hw.arpBcCmd = before.hw.arpBcCmd
  names : after.dev.ifIdToName.Perm before.dev.ifIdToName

/-! ## What enabling leaves -/

/-- The hardware after calls that succeed. -/
def runEffects (effects : List (L3Hw → L3Hw)) (hw : L3Hw) : L3Hw :=
  effects.foldl (fun hw effect => effect hw) hw

theorem runEffects_ids
    {effects : List (L3Hw → L3Hw)}
    (keeps : ∀ effect ∈ effects, KeepsIds effect)
    (hw : L3Hw) :
    (runEffects effects hw).ids = hw.ids := by
  induction effects generalizing hw with
  | nil => rfl
  | cons effect effects inductionHypothesis =>
      have later := inductionHypothesis
        (fun other listed => keeps other (List.mem_cons_of_mem _ listed)) (effect hw)
      exact later.trans (keeps effect List.mem_cons_self hw)

/-- Calls in a row that all succeed. -/
theorem callAll_of_done
    {effects : List (L3Hw → L3Hw)}
    (done : (state.callAll xdk effects).1 = true) :
    state.callAll xdk effects =
      (true, { state with
        hw := runEffects effects state.hw
        calls := state.calls + effects.length }) := by
  induction effects generalizing state with
  | nil => rfl
  | cons effect effects inductionHypothesis =>
      cases first : xdk.succeeds state.calls with
      | false =>
          rw [callAll_cons_of_fails first] at done
          cases done
      | true =>
          rw [callAll_cons_of_succeeds first] at done ⊢
          rw [inductionHypothesis done, List.length_cons]
          simp only [runEffects, List.foldl_cons, Prod.mk.injEq, State.mk.injEq, true_and]
          omega

/-- What the hardware has besides the settings of interfaces. -/
structure SameBindings (before after : State) : Prop where
  ids : after.hw.ids = before.hw.ids
  portIntf : after.hw.portIntf = before.hw.portIntf
  subIntf : after.hw.subIntf = before.hw.subIntf
  arpBcCmd : after.hw.arpBcCmd = before.hw.arpBcCmd
  dev : after.dev = before.dev

theorem routerMacInit_sameBindings
    (returned : routerMacInit xdk state mac = some (none, after)) :
    SameBindings state after := by
  unfold routerMacInit at returned
  cases once : state.once with
  | done =>
      rw [once] at returned
      cases returned
      exact ⟨rfl, rfl, rfl, rfl, rfl⟩
  | started =>
      rw [once] at returned
      cases returned
  | idle =>
      rw [once] at returned
      cases first : xdk.succeeds state.calls with
      | false =>
          simp only at returned
          rw [State.call_of_fails (by exact first)] at returned
          cases returned
      | true =>
          simp only at returned
          rw [State.call_of_succeeds (by exact first)] at returned
          cases returned
          exact ⟨rfl, rfl, rfl, rfl, rfl⟩

theorem l3IfaceMacSet_sameBindings
    {l3IntfId vid : Nat}
    (returned : l3IfaceMacSet xdk state l3IntfId mac vid = some (none, after)) :
    SameBindings state after := by
  unfold l3IfaceMacSet at returned
  rcases isInit : routerMacInit xdk state mac with _ | ⟨errno, between⟩
  · rw [isInit] at returned
    cases returned
  · cases errno with
    | some errno =>
        rw [isInit] at returned
        cases returned
    | none =>
        have same := routerMacInit_sameBindings isInit
        rw [isInit] at returned
        simp only at returned
        have done : (between.callAll xdk
            [setIntfEgressRouterMacLsb l3IntfId (MacAddr.firstByte (macCopyAndReverse mac)),
              addIngressRouterMac (if vid ≠ 0 then some vid else none)
                (macCopyAndReverse mac)]).1 = true := by
          by_contra notDone
          rw [if_neg notDone] at returned
          cases returned
        rw [callAll_of_done done] at returned
        cases returned
        have ids := runEffects_ids (keepsIds_macSet l3IntfId (MacAddr.firstByte (macCopyAndReverse mac))
          (if vid ≠ 0 then some vid else none) (macCopyAndReverse mac)) between.hw
        exact ⟨ids.trans same.ids, same.portIntf, same.subIntf, same.arpBcCmd, same.dev⟩

/-- The hardware when an interface was created and set up. -/
def Request.setUp (request : Request) (before : State) (id : Nat) : L3Hw :=
  runEffects (createIntf id request.type :: (request.setup id ++
    [setIntfVrf id before.vrfId, setIntfIpv4UcRoutingEn id, setIntfIpv6UcRoutingEn id]))
    before.hw

/-- The interface that a constructor returns, and the hardware then. -/
structure Made (xdk : L3Xdk env) (request : Request) (before after : State)
    (l3Intf : L3Interface) : Prop where
  record : l3Intf = ⟨xdk.allocate before.hw.ids request.type, request.intfId env,
    before.vrfId, request.vid⟩
  hw : ∃ between : State,
    SameBindings { before with hw := request.setUp before l3Intf.l3IntfId } between ∧
      after.hw = runEffects request.last between.hw ∧ after.dev = between.dev

theorem made_of_create
    (returned : request.create xdk state mac = some (some l3Intf, after)) :
    Made xdk request state after l3Intf := by
  rw [create_eq] at returned
  unfold ifaceCreate at returned
  simp only at returned
  split at returned
  · cases returned
  rename_i notFailed
  simp only [Bool.not_eq_true', Bool.not_eq_false] at notFailed
  rw [callAll_of_done notFailed] at returned
  rcases isSet : l3IfaceMacSet xdk _ (xdk.allocate state.hw.ids request.type) mac request.vid
    with _ | ⟨errno, between⟩
  · rw [isSet] at returned
    cases returned
  · cases errno with
    | some errno =>
        rw [isSet] at returned
        cases returned
    | none =>
        have same := l3IfaceMacSet_sameBindings isSet
        rw [isSet] at returned
        simp only at returned
        split at returned
        · cases returned
        rename_i notLastFailed
        simp only [Bool.not_eq_true', Bool.not_eq_false] at notLastFailed
        rw [callAll_of_done notLastFailed] at returned
        cases returned
        exact ⟨rfl, between, ⟨same.ids, same.portIntf, same.subIntf, same.arpBcCmd, same.dev⟩,
          rfl, rfl⟩

/-- The new interface is in the hardware. -/
theorem Made.ids (made : Made xdk request state after l3Intf) :
    after.hw.ids = xdk.allocate state.hw.ids request.type :: state.hw.ids := by
  obtain ⟨between, same, hw, _⟩ := made.hw
  have record := made.record
  rw [hw, runEffects_ids (keepsIds_last request), same.ids, record]
  refine runEffects_ids ?_ (createIntf (xdk.allocate state.hw.ids request.type) request.type
    state.hw)
  intro effect listed
  rcases List.mem_append.mp listed with inSetup | common
  · exact keepsIds_setup request _ effect inSetup
  · exact keepsIds_routing _ state.vrfId effect common

/-- What the new interface was bound to, and the command for ARP broadcasts. -/
theorem Made.bindings (made : Made xdk request state after l3Intf) :
    after.hw.portIntf = (match request with
      | .port ifId => Function.update state.hw.portIntf ifId (some l3Intf.l3IntfId)
      | _ => state.hw.portIntf) ∧
    after.hw.subIntf = (match request with
      | .sub ifId vid => Function.update state.hw.subIntf (ifId, vid) (some l3Intf.l3IntfId)
      | _ => state.hw.subIntf) ∧
    after.hw.arpBcCmd = (match request with
      | .vlan vid => Function.update state.hw.arpBcCmd vid .fwdMirror
      | _ => state.hw.arpBcCmd) ∧
    after.dev = state.dev := by
  obtain ⟨between, same, hw, dev⟩ := made.hw
  rw [hw]
  refine ⟨?_, ?_, ?_, dev.trans same.dev⟩
  · cases request <;> exact same.portIntf
  · cases request <;> exact same.subIntf
  · cases request with
    | vlan vid => exact congrArg (Function.update · vid PktCmd.fwdMirror) same.arpBcCmd
    | port ifId => exact same.arpBcCmd
    | sub ifId vid => exact same.arpBcCmd

/-- An interface that was named was returned by its constructor. -/
theorem nameIntf_returns
    {result : Option (Option L3Interface × State)}
    (isNamed : nameIntf ifName result = some (some l3Intf, after)) :
    ∃ created, result = some (some l3Intf, created) ∧
      after = { created with
        dev := Bundles.devAddIntfEntry created.dev l3Intf.l3IntfId ifName } := by
  rcases result with _ | ⟨made, created⟩
  · cases isNamed
  · cases made with
    | none => cases isNamed
    | some made =>
        cases isNamed
        exact ⟨created, rfl, rfl⟩

/-- An enabling function names the interface that was made, and asks for the type
of a port or a LAG below it. -/
theorem enable_names
    (enabled : request.enable xdk state ifName mac = some (some l3Intf, after)) :
    nameIntf ifName (request.create xdk state mac) = some (some l3Intf, after) ∧
      ∀ type, xdk.interfaceType (request.intfId env) = some type →
        type = .port ∨ type = .lag := by
  cases request with
  | vlan vid =>
      simp only [Request.enable, enableL3VlanInterface] at enabled
      split at enabled
      · refine ⟨enabled, ?_⟩
        intro type isType
        rw [Request.intfId, xdk.interfaceType_invalid] at isType
        cases isType
      · cases enabled
  | port ifId =>
      simp only [Request.enable, enableL3Interface] at enabled
      split at enabled
      · rename_i isPort
        refine ⟨enabled, ?_⟩
        intro type isType
        rw [Request.intfId, isPort] at isType
        cases isType
        exact .inl rfl
      · rename_i isLag
        refine ⟨enabled, ?_⟩
        intro type isType
        rw [Request.intfId, isLag] at isType
        cases isType
        exact .inr rfl
      · cases enabled
  | sub ifId vid =>
      simp only [Request.enable, enableL3Subinterface] at enabled
      split at enabled
      · rename_i isPort
        refine ⟨enabled, ?_⟩
        intro type isType
        rw [Request.intfId, isPort] at isType
        cases isType
        exact .inl rfl
      · cases enabled

/-- An interface that was enabled was made and named, and below it there is a
port, a LAG or nothing that the XDK knows. -/
theorem enable_returns
    (enabled : request.enable xdk state ifName mac = some (some l3Intf, after)) :
    ∃ created, Made xdk request state created l3Intf ∧
      after = { created with
        dev := Bundles.devAddIntfEntry created.dev l3Intf.l3IntfId ifName } ∧
      ∀ type, xdk.interfaceType l3Intf.intfId = some type → type = .port ∨ type = .lag := by
  obtain ⟨named, below⟩ := enable_names enabled
  obtain ⟨created, returned, isAfter⟩ := nameIntf_returns named
  have made := made_of_create returned
  refine ⟨created, made, isAfter, ?_⟩
  rw [made.record]
  exact below

/-! ## Disabling -/

/-- An interface that was enabled is not destroyed when it is disabled. -/
theorem not_restored_of_enabled
    (enabled : request.enable xdk state ifName mac = some (some l3Intf, after)) :
    ¬Restored state (disableL3Interface xdk after l3Intf) := by
  obtain ⟨created, made, isAfter, below⟩ := enable_returns enabled
  have nothing : (disableL3Interface xdk after l3Intf).hw = created.hw := by
    unfold disableL3Interface
    cases isType : xdk.interfaceType l3Intf.intfId with
    | none =>
        rw [isAfter]
        rfl
    | some type =>
        rw [isAfter]
        rcases below type isType with rfl | rfl <;> rfl
  intro restored
  have listed : xdk.allocate state.hw.ids request.type ∈
      (disableL3Interface xdk after l3Intf).hw.ids := by
    rw [nothing, made.ids]
    exact List.mem_cons_self
  exact xdk.allocate_notMem state.hw.ids request.type ((restored.ids _).mp listed)

/-- Nothing that the request changes was in use. -/
def Request.Unused (request : Request) (state : State) : Prop :=
  match request with
  | .vlan vid => state.hw.arpBcCmd vid = .fwd
  | .port ifId => state.hw.portIntf ifId = none
  | .sub ifId vid => state.hw.subIntf (ifId, vid) = none

theorem keepsIds_deInitIntf (id : Nat) : KeepsIds (deInitIntf id) :=
  keepsIds_onIntf id fun _ => rfl

theorem callEach_of_accepts
    (accepts : xdk.Accepts)
    (effects : List (L3Hw → L3Hw))
    (state : State) :
    (state.callEach xdk effects).hw = runEffects effects state.hw ∧
      (state.callEach xdk effects).dev = state.dev := by
  induction effects generalizing state with
  | nil => exact ⟨rfl, rfl⟩
  | cons effect effects inductionHypothesis =>
      have called := State.call_of_succeeds (accepts state.calls) effect
      have later := inductionHypothesis (state.call xdk effect).2
      rw [called] at later
      unfold State.callEach at later ⊢
      rw [List.foldl_cons, called]
      exact later

/-- Destroying the new interface leaves those there were. -/
theorem Made.destroyIntf_ids
    (made : Made xdk request state after l3Intf)
    {hw : L3Hw}
    (sameIds : hw.ids = after.hw.ids) :
    (destroyIntf l3Intf.l3IntfId hw).ids = state.hw.ids := by
  have record := made.record
  have isId : l3Intf.l3IntfId = xdk.allocate state.hw.ids request.type := by rw [record]
  rw [L3Intf.destroyIntf_ids, sameIds, made.ids, isId, List.filter_cons, if_neg (by simp),
    List.filter_eq_self]
  intro id listed
  simp only [bne_iff_ne, ne_eq]
  rintro rfl
  exact xdk.allocate_notMem state.hw.ids request.type listed

/-- A name that is given to an id without one and taken back. -/
theorem devRemoveIntfEntry_devAddIntfEntry
    {dev : Dev}
    {id : Nat}
    (unnamed : ∀ entry ∈ dev.ifIdToName, entry.1 ≠ id)
    (name : String) :
    (Bundles.devRemoveIntfEntry (Bundles.devAddIntfEntry dev id name) id).ifIdToName =
      dev.ifIdToName := by
  have notNamed : dev.ifIdToName.any (·.1 == id) = false := by
    rw [List.any_eq_false]
    intro entry listed
    simpa using unnamed entry listed
  simp [Bundles.devRemoveIntfEntry, Bundles.devAddIntfEntry, notNamed]

/-- A binding that is made and undone. -/
theorem update_update_none
    {Key : Type*} [DecidableEq Key]
    {bindings : Key → Option Nat}
    {key : Key}
    (unused : bindings key = none)
    (id : Option Nat) :
    Function.update (Function.update bindings key id) key none = bindings := by
  rw [Function.update_idem, ← unused, Function.update_eq_self]

/-- Calls that succeed restore what their effects restore. -/
theorem restored_callEach
    (accepts : xdk.Accepts)
    {start : State}
    {hw : L3Hw}
    {effects : List (L3Hw → L3Hw)}
    (startHw : start.hw = hw)
    (startNames : start.dev.ifIdToName = state.dev.ifIdToName)
    (ids : (runEffects effects hw).ids = state.hw.ids)
    (portIntf : (runEffects effects hw).portIntf = state.hw.portIntf)
    (subIntf : (runEffects effects hw).subIntf = state.hw.subIntf)
    (arpBcCmd : (runEffects effects hw).arpBcCmd = state.hw.arpBcCmd) :
    Restored state (start.callEach xdk effects) := by
  obtain ⟨undone, stillNamed⟩ := callEach_of_accepts accepts effects start
  rw [startHw] at undone
  refine ⟨?_, ?_, ?_, ?_, ?_⟩
  · intro id
    rw [undone, ids]
  · rw [undone, portIntf]
  · rw [undone, subIntf]
  · rw [undone, arpBcCmd]
  · rw [stillNamed, startNames]

/-- The branch for the type of the interface itself undoes what was made. -/
theorem restored_teardown
    (accepts : xdk.Accepts)
    (enabled : request.enable xdk state ifName mac = some (some l3Intf, after))
    (unused : request.Unused state)
    (unnamed : ∀ entry ∈ state.dev.ifIdToName, entry.1 ≠ l3Intf.l3IntfId) :
    Restored state (teardown xdk
      { after with dev := Bundles.devRemoveIntfEntry after.dev l3Intf.l3IntfId } l3Intf
      ((xdk.interfaceType l3Intf.l3IntfId).getD .port)) := by
  obtain ⟨created, made, isAfter, _⟩ := enable_returns enabled
  obtain ⟨portIntf, subIntf, arpBcCmd, sameDev⟩ := made.bindings
  have record := made.record
  have isType : (xdk.interfaceType l3Intf.l3IntfId).getD .port = .router request.type := by
    rw [record, xdk.interfaceType_allocate]
    rfl
  rw [isType]
  generalize isStart : ({ after with
    dev := Bundles.devRemoveIntfEntry after.dev l3Intf.l3IntfId } : State) = start
  have startHw : start.hw = created.hw := by rw [← isStart, isAfter]
  have startNames : start.dev.ifIdToName = state.dev.ifIdToName := by
    rw [← isStart, isAfter, sameDev]
    exact devRemoveIntfEntry_devAddIntfEntry unnamed ifName
  cases request with
  | vlan vid =>
      have isVlan : l3Intf.vlanId = vid := by
        rw [record]
        rfl
      have wasFwd : state.hw.arpBcCmd vid = .fwd := unused
      refine restored_callEach accepts startHw startNames (made.destroyIntf_ids rfl)
        portIntf subIntf ?_
      change Function.update created.hw.arpBcCmd l3Intf.vlanId .fwd = state.hw.arpBcCmd
      rw [arpBcCmd, isVlan, Function.update_idem, ← wasFwd, Function.update_eq_self]
  | port ifId =>
      have isPort : l3Intf.intfId = ifId := by
        rw [record]
        rfl
      refine restored_callEach accepts startHw startNames
        (made.destroyIntf_ids (keepsIds_deInitIntf l3Intf.l3IntfId
          (bindPort l3Intf.intfId none created.hw))) ?_ subIntf arpBcCmd
      change Function.update created.hw.portIntf l3Intf.intfId none = state.hw.portIntf
      rw [portIntf, isPort]
      exact update_update_none unused _
  | sub ifId vid =>
      have isPort : l3Intf.intfId = ifId := by
        rw [record]
        rfl
      have isVlan : l3Intf.vlanId = vid := by
        rw [record]
        rfl
      refine restored_callEach accepts startHw startNames
        (made.destroyIntf_ids (keepsIds_deInitIntf l3Intf.l3IntfId
          (bindSub l3Intf.intfId l3Intf.vlanId none created.hw))) portIntf ?_ arpBcCmd
      change Function.update created.hw.subIntf (l3Intf.intfId, l3Intf.vlanId) none =
        state.hw.subIntf
      rw [subIntf, isPort, isVlan]
      exact update_update_none unused _

/-! ## An interface of a port -/

/-- The L3 interface of port 7. -/
def enabledPort : Option (Option L3Interface × State) :=
  enableL3Interface (routerXdk fun _ => true) plainState 7 "7" (.replicate 6 2)

/-- The record of the interface. -/
def portRecord : L3Interface := ⟨4, 7, 1, 0⟩

/-- The router with the interface. -/
def portState : State := (enabledPort.map Prod.snd).getD plainState

theorem enabledPort_eq : enabledPort = some (some portRecord, portState) := rfl

theorem not_restored_portState :
    ¬Restored plainState
      (disableL3Interface (routerXdk fun _ => true) portState portRecord) :=
  @not_restored_of_enabled sampleEnv (routerXdk fun _ => true) plainState portState portRecord
    (.port 7) "7" (.replicate 6 2) enabledPort_eq

/-- The interface stays in the hardware, and bound to the port. -/
theorem not_restored_disabledPort :
    (routerXdk fun _ => true).Accepts ∧ enabledPort = some (some portRecord, portState) ∧
      ¬Restored plainState
        (disableL3Interface (routerXdk fun _ => true) portState portRecord) := by
  refine ⟨fun _ => rfl, rfl, ?_⟩
  intro restored
  have same := congrFun restored.portIntf 7
  exact absurd same (by decide)

end L3Intf
end XpliantSwitchd
