import XpliantSwitchd.L3Intf.Defs
import XpliantSwitchd.Vlan.Interrupted
import Mathlib.Algebra.Order.BigOperators.Group.List
import Mathlib.Algebra.Order.Group.Nat
import Mathlib.Algebra.GroupWithZero.Nat

/-!
# L3 interfaces that could not be made

The constructors of L3 interfaces free their record at the first call that fails
and leave the hardware as it is then.  So a failure is clean only when it is the
creation of the interface that fails; and one that leaves the block of
`l3_iface_mac_set` early leaves it taken for ever.
-/

namespace XpliantSwitchd
namespace L3Intf

open Vlans

variable {env : Env} {xdk : L3Xdk env} {state : State}

/-! ## Calls in a row -/

theorem callAll_cons_of_succeeds
    (succeeds : xdk.succeeds state.calls = true)
    (effect : L3Hw → L3Hw)
    (effects : List (L3Hw → L3Hw)) :
    state.callAll xdk (effect :: effects) =
      State.callAll xdk { state with hw := effect state.hw, calls := state.calls + 1 }
        effects := by
  rw [State.callAll, State.call_of_succeeds succeeds]

theorem callAll_cons_of_fails
    (fails : xdk.succeeds state.calls = false)
    (effect : L3Hw → L3Hw)
    (effects : List (L3Hw → L3Hw)) :
    state.callAll xdk (effect :: effects) =
      (false, { state with calls := state.calls + 1 }) := by
  rw [State.callAll, State.call_of_fails fails]

/-- What calls in a row do to everything but the settings of interfaces. -/
structure CalledAll (xdk : L3Xdk env) (before : State) (effects : List (L3Hw → L3Hw))
    (result : Bool × State) : Prop where
  done : result.1 = true ↔ xdk.SucceedsFor before.calls effects.length
  calls : result.1 = true → result.2.calls = before.calls + effects.length
  once : result.2.once = before.once
  ids : (∀ effect ∈ effects, KeepsIds effect) → result.2.hw.ids = before.hw.ids

theorem calledAll (xdk : L3Xdk env) (state : State) (effects : List (L3Hw → L3Hw)) :
    CalledAll xdk state effects (state.callAll xdk effects) := by
  induction effects generalizing state with
  | nil =>
      exact ⟨⟨fun _ => Xdk.succeedsFor_zero, fun _ => rfl⟩, fun _ => rfl, rfl, fun _ => rfl⟩
  | cons effect effects inductionHypothesis =>
      have split := @Xdk.succeedsFor_add xdk.toXdk state.calls 1 effects.length
      rw [Xdk.succeedsFor_one] at split
      rw [Nat.add_comm 1] at split
      cases first : xdk.succeeds state.calls with
      | false =>
          rw [callAll_cons_of_fails first]
          refine ⟨⟨fun done => absurd done Bool.false_ne_true, fun enough => ?_⟩,
            fun done => absurd done Bool.false_ne_true, rfl, fun _ => rfl⟩
          have succeeds := (split.mp enough).1
          rw [first] at succeeds
          exact succeeds
      | true =>
          rw [callAll_cons_of_succeeds first]
          have later := inductionHypothesis
            { state with hw := effect state.hw, calls := state.calls + 1 }
          refine ⟨?_, ?_, later.once, ?_⟩
          · rw [later.done, List.length_cons, split]
            exact ⟨fun rest => ⟨first, rest⟩, fun both => both.2⟩
          · intro done
            rw [later.calls done, List.length_cons]
            change state.calls + 1 + effects.length = _
            omega
          · intro keeps
            rw [later.ids fun other listed => keeps other (List.mem_cons_of_mem _ listed)]
            exact keeps effect List.mem_cons_self state.hw

/-! ## The MAC address of an interface -/

/-- The calls of `l3_iface_mac_set` when nobody is in its block. -/
def Once.macCalls : Once → Nat
  | .idle => 3
  | .started | .done => 2

/-- What `l3_iface_mac_set` does unless it waits for ever. -/
structure MacSet (xdk : L3Xdk env) (before : State) (result : Option Errno × State) :
    Prop where
  done : result.1 = none ↔ xdk.SucceedsFor before.calls before.once.macCalls
  calls : result.1 = none → result.2.calls = before.calls + before.once.macCalls
  ids : result.2.hw.ids = before.hw.ids

theorem routerMacInit_done
    (mac : MacAddr)
    (isDone : state.once = .done) :
    routerMacInit xdk state mac = some (none, state) := by
  rw [routerMacInit, isDone]

/-- The two calls after the block. -/
theorem macSet_calls (l3IntfId vid : Nat) (mac : MacAddr) (state : State) :
    ∃ done after, state.callAll xdk
        [setIntfEgressRouterMacLsb l3IntfId (MacAddr.firstByte (macCopyAndReverse mac)),
          addIngressRouterMac (if vid ≠ 0 then some vid else none) (macCopyAndReverse mac)] =
        (done, after) ∧
      (done = true ↔ xdk.SucceedsFor state.calls 2) ∧
      (done = true → after.calls = state.calls + 2) ∧ after.hw.ids = state.hw.ids := by
  have called := calledAll xdk state
    [setIntfEgressRouterMacLsb l3IntfId (MacAddr.firstByte (macCopyAndReverse mac)),
      addIngressRouterMac (if vid ≠ 0 then some vid else none) (macCopyAndReverse mac)]
  exact ⟨_, _, rfl, called.done, called.calls,
    called.ids (keepsIds_macSet l3IntfId _ _ _)⟩

theorem l3IfaceMacSet_spec
    (l3IntfId vid : Nat)
    (mac : MacAddr)
    (notStarted : state.once ≠ .started) :
    ∃ result, l3IfaceMacSet xdk state l3IntfId mac vid = some result ∧
      MacSet xdk state result := by
  unfold l3IfaceMacSet
  cases once : state.once with
  | started => exact absurd once notStarted
  | done =>
      obtain ⟨done, after, equation, isDone, calls, ids⟩ :=
        @macSet_calls env xdk l3IntfId vid mac state
      rw [routerMacInit_done mac once]
      simp only [equation]
      refine ⟨_, rfl, ?_, ?_, ids⟩
      · rw [once, Once.macCalls, ← isDone]
        cases done <;> simp
      · intro isNone
        rw [once]
        refine calls ?_
        by_contra notDone
        simp [notDone] at isNone
  | idle =>
      rw [routerMacInit, once]
      simp only
      have split := @Xdk.succeedsFor_add xdk.toXdk state.calls 1 2
      rw [Xdk.succeedsFor_one] at split
      cases first : xdk.succeeds state.calls with
      | false =>
          rw [State.call_of_fails (by exact first)]
          refine ⟨_, rfl, ?_, fun isNone => absurd isNone (Option.some_ne_none _), rfl⟩
          rw [once, Once.macCalls]
          refine ⟨fun isNone => absurd isNone (Option.some_ne_none _), fun enough => ?_⟩
          have succeeds := (split.mp enough).1
          rw [first] at succeeds
          cases succeeds
      | true =>
          rw [State.call_of_succeeds (by exact first)]
          simp only [Bool.not_true, Bool.false_eq_true, if_false]
          generalize between : ({ state with
            hw := setEgressRouterMacMsbs (macCopyAndReverse mac).toList.tail state.hw
            routerMac := MacAddr.setLastByte mac 0
            once := .done
            calls := state.calls + 1 } : State) = written
          have calls : written.calls = state.calls + 1 := by rw [← between]
          have ids : written.hw.ids = state.hw.ids := by
            rw [← between]
            rfl
          obtain ⟨done, after, equation, isDone, laterCalls, laterIds⟩ :=
            @macSet_calls env xdk l3IntfId vid mac written
          rw [equation]
          refine ⟨_, rfl, ?_, ?_, laterIds.trans ids⟩
          · rw [once, Once.macCalls, show (3 : Nat) = 1 + 2 from rfl, split, ← calls, ← isDone]
            cases done <;> simp [first]
          · intro isNone
            have allDone : done = true := by
              by_contra notDone
              simp [notDone] at isNone
            rw [once, laterCalls allDone, calls]
            rfl

/-! ## The constructors -/

/-- The hardware has the interfaces and bindings it had, and the block of
`l3_iface_mac_set` is done or can be started. -/
structure Unaffected (before after : State) : Prop where
  ids : ∀ id, id ∈ after.hw.ids ↔ id ∈ before.hw.ids
  portIntf : after.hw.portIntf = before.hw.portIntf
  subIntf : after.hw.subIntf = before.hw.subIntf
  once : after.once ≠ .started

/-- A constructor that returns no interface has no effect. -/
def FailsCleanly (before : State) (result : Option (Option L3Interface × State)) : Prop :=
  ∀ after, result = some (none, after) → Unaffected before after

/-- The calls of a constructor before and after `l3_iface_mac_set`. -/
def Request.setupCalls : Request → Nat
  | .vlan _ => 4
  | .port _ | .sub _ _ => 6

def Request.lastCalls : Request → Nat
  | .vlan _ => 1
  | .port _ | .sub _ _ => 0

/-- Either the creation of the interface is the call that fails, and nobody has
left the block of `l3_iface_mac_set` early before; or no call fails, up to the
block if the constructor has to wait there. -/
def CreateOrNothing (xdk : L3Xdk env) (state : State) (setupCalls lastCalls : Nat) : Prop :=
  if xdk.succeeds state.calls then
    xdk.SucceedsFor state.calls setupCalls ∧
      (state.once = .started ∨
        xdk.SucceedsFor (state.calls + setupCalls) (state.once.macCalls + lastCalls))
  else state.once ≠ .started

section Course

variable {type : RouterType} {setup : Nat → List (L3Hw → L3Hw)} {mac : MacAddr}
  {vid intfId : Nat} {last : List (L3Hw → L3Hw)}

/-- An interface that was created stays when a later call fails. -/
theorem not_unaffected_of_ids
    {after : State}
    (ids : after.hw.ids = xdk.allocate state.hw.ids type :: state.hw.ids) :
    ¬Unaffected state after := by
  intro unaffected
  have listed := (unaffected.ids (xdk.allocate state.hw.ids type)).mp
    (ids ▸ List.mem_cons_self)
  exact xdk.allocate_notMem state.hw.ids type listed

/-- Where every call up to the block succeeds. -/
theorem ifaceCreate_of_setup
    (keepsSetup : ∀ id, ∀ effect ∈ setup id, KeepsIds effect)
    (first : xdk.succeeds state.calls = true) :
    ∃ done after,
      state.callAll xdk (createIntf (xdk.allocate state.hw.ids type) type ::
        (setup (xdk.allocate state.hw.ids type) ++
          [setIntfVrf (xdk.allocate state.hw.ids type) state.vrfId,
            setIntfIpv4UcRoutingEn (xdk.allocate state.hw.ids type),
            setIntfIpv6UcRoutingEn (xdk.allocate state.hw.ids type)])) = (done, after) ∧
      (done = true ↔ xdk.SucceedsFor state.calls
        ((setup (xdk.allocate state.hw.ids type)).length + 4)) ∧
      (done = true → after.calls =
        state.calls + ((setup (xdk.allocate state.hw.ids type)).length + 4)) ∧
      after.once = state.once ∧
      after.hw.ids = xdk.allocate state.hw.ids type :: state.hw.ids := by
  generalize newId : xdk.allocate state.hw.ids type = id
  have all := calledAll xdk state (createIntf id type ::
    (setup id ++ [setIntfVrf id state.vrfId, setIntfIpv4UcRoutingEn id,
      setIntfIpv6UcRoutingEn id]))
  have length : (createIntf id type :: (setup id ++ [setIntfVrf id state.vrfId,
      setIntfIpv4UcRoutingEn id, setIntfIpv6UcRoutingEn id])).length =
      (setup id).length + 4 := by simp
  rw [callAll_cons_of_succeeds first] at all ⊢
  have later := calledAll xdk
    { state with hw := createIntf id type state.hw, calls := state.calls + 1 }
    (setup id ++ [setIntfVrf id state.vrfId, setIntfIpv4UcRoutingEn id,
      setIntfIpv6UcRoutingEn id])
  generalize State.callAll xdk _ (setup id ++ _) = result at all later ⊢
  refine ⟨result.1, result.2, rfl, ?_, ?_, all.once, ?_⟩
  · rw [all.done, length]
  · rw [← length]
    exact all.calls
  · refine later.ids ?_
    intro effect listed
    rcases List.mem_append.mp listed with inSetup | common
    · exact keepsSetup id effect inSetup
    · exact keepsIds_routing id state.vrfId effect common

/-- The end of a constructor, with the interface in the hardware. -/
def ifaceFinish (xdk : L3Xdk env) (state : State) (id : Nat) (mac : MacAddr) (vid : Nat)
    (last : List (L3Hw → L3Hw)) (record : L3Interface) :
    Option (Option L3Interface × State) :=
  match l3IfaceMacSet xdk state id mac vid with
  | none => none
  | some (some _, state) => some (none, state)
  | some (none, state) =>
      let (done, state) := state.callAll xdk last
      if !done then some (none, state) else some (some record, state)

theorem ifaceCreate_of_equation
    {done : Bool}
    {after : State}
    (equation : state.callAll xdk (createIntf (xdk.allocate state.hw.ids type) type ::
      (setup (xdk.allocate state.hw.ids type) ++
        [setIntfVrf (xdk.allocate state.hw.ids type) state.vrfId,
          setIntfIpv4UcRoutingEn (xdk.allocate state.hw.ids type),
          setIntfIpv6UcRoutingEn (xdk.allocate state.hw.ids type)])) = (done, after)) :
    ifaceCreate xdk state type setup mac vid last intfId =
      if done then ifaceFinish xdk after (xdk.allocate state.hw.ids type) mac vid last
        ⟨xdk.allocate state.hw.ids type, intfId, state.vrfId, vid⟩
      else some (none, after) := by
  cases done with
  | false => simp [ifaceCreate, equation]
  | true =>
      simp only [ifaceCreate, equation]
      rfl

/-- With the interface in the hardware, no call may fail unless the constructor
waits for ever. -/
theorem failsCleanly_ifaceFinish
    {between : State}
    {id : Nat}
    {record : L3Interface}
    (ids : between.hw.ids = xdk.allocate state.hw.ids type :: state.hw.ids)
    (keepsLast : ∀ effect ∈ last, KeepsIds effect) :
    FailsCleanly state (ifaceFinish xdk between id mac vid last record) ↔
      between.once = .started ∨
        xdk.SucceedsFor between.calls (between.once.macCalls + last.length) := by
  unfold ifaceFinish
  by_cases started : between.once = .started
  · have waits : l3IfaceMacSet xdk between id mac vid = none := by
      rw [l3IfaceMacSet, routerMacInit, started]
    rw [waits]
    exact ⟨fun _ => .inl started, fun _ _ isSome => nomatch isSome⟩
  · obtain ⟨⟨errno, set⟩, isSet, macSet⟩ :=
      @l3IfaceMacSet_spec env xdk between id vid mac started
    have setIds := macSet.ids.trans ids
    rw [isSet, @Xdk.succeedsFor_add xdk.toXdk between.calls between.once.macCalls,
      ← macSet.done, or_iff_right started]
    cases errno with
    | some errno =>
        constructor
        · intro clean
          exact absurd (clean _ rfl) (not_unaffected_of_ids setIds)
        · rintro ⟨isNone, _⟩
          cases isNone
    | none =>
        have called := calledAll xdk set last
        have setCalls : set.calls = between.calls + between.once.macCalls :=
          macSet.calls rfl
        simp only
        generalize State.callAll xdk set last = answer at called ⊢
        have finalIds := (called.ids keepsLast).trans setIds
        rw [← setCalls, ← called.done]
        obtain ⟨finished, final⟩ := answer
        cases finished with
        | false =>
            constructor
            · intro clean
              exact absurd (clean _ rfl) (not_unaffected_of_ids finalIds)
            · rintro ⟨_, isTrue⟩
              cases isTrue
        | true =>
            refine ⟨fun _ => ⟨trivial, rfl⟩, ?_⟩
            rintro _ after ⟨⟩

/-- A constructor fails cleanly under its condition only. -/
theorem failsCleanly_ifaceCreate
    (keepsSetup : ∀ id, ∀ effect ∈ setup id, KeepsIds effect)
    (keepsLast : ∀ effect ∈ last, KeepsIds effect) :
    FailsCleanly state (ifaceCreate xdk state type setup mac vid last intfId) ↔
      CreateOrNothing xdk state ((setup (xdk.allocate state.hw.ids type)).length + 4)
        last.length := by
  unfold CreateOrNothing
  cases first : xdk.succeeds state.calls with
  | false =>
      rw [if_neg Bool.false_ne_true, ifaceCreate_of_equation (callAll_cons_of_fails first _ _),
        if_neg Bool.false_ne_true]
      constructor
      · intro clean
        exact (clean _ rfl).once
      · rintro notStarted after ⟨⟩
        exact ⟨fun _ => Iff.rfl, rfl, rfl, notStarted⟩
  | true =>
      obtain ⟨done, between, equation, isDone, calls, once, ids⟩ :=
        @ifaceCreate_of_setup env xdk state type setup keepsSetup first
      rw [if_pos rfl, ifaceCreate_of_equation equation]
      cases done with
      | false =>
          rw [if_neg Bool.false_ne_true]
          constructor
          · intro clean
            exact absurd (clean _ rfl) (not_unaffected_of_ids ids)
          · intro enough
            exact absurd (isDone.mpr enough.1) Bool.false_ne_true
      | true =>
          rw [if_pos rfl, failsCleanly_ifaceFinish ids keepsLast, ← calls rfl, ← once]
          exact ⟨fun finishes => ⟨isDone.mp rfl, finishes⟩, fun both => both.2⟩

end Course

/-- A constructor that returns no interface leaves nothing behind exactly when the
creation of the interface is the call that failed. -/
theorem failsCleanly_iff (xdk : L3Xdk env) (state : State) (mac : MacAddr)
    (request : Request) :
    FailsCleanly state (request.create xdk state mac) ↔
      CreateOrNothing xdk state request.setupCalls request.lastCalls := by
  have course := @failsCleanly_ifaceCreate env xdk state request.type
    (fun id => request.setup id) mac request.vid (request.intfId env) request.last
    (keepsIds_setup request) (keepsIds_last request)
  rw [← create_eq] at course
  cases request with
  | vlan vid => exact course
  | port ifId => exact course
  | sub ifId vid => exact course

/-! ## Calls that are refused -/

/-- Interfaces whose type is in the last two bits of the id. -/
def intfTypeOf (id : Nat) : Option IntfType :=
  if id = 0 then none
  else
    match id % 4 with
    | 0 => some (.router .port)
    | 1 => some (.router .subinterface)
    | 2 => some (.router .vlan)
    | _ => some .port

/-- The last two bits of an id. -/
def RouterType.code : RouterType → Nat
  | .port => 0
  | .subinterface => 1
  | .vlan => 2

/-- An XDK that refuses some of its calls. -/
def routerXdk (succeeds : Nat → Bool) : L3Xdk sampleEnv where
  succeeds := succeeds
  lagCreate := fun _ => 100
  interfaceType := intfTypeOf
  allocate ids type := 4 * (ids.sum + 1) + type.code
  allocate_notMem ids type listed := by
    have small := List.le_sum_of_mem listed
    omega
  interfaceType_allocate ids type := by
    unfold intfTypeOf
    rw [if_neg (by omega), Nat.mul_add_mod]
    cases type <;> rfl
  interfaceType_invalid := rfl

/-- A router without interfaces. -/
def plainState : State where
  dev := emptyDev
  vrfId := 1
  hw :=
    { intfs := []
      portIntf := fun _ => none
      subIntf := fun _ => none
      arpBcCmd := fun _ => .fwd
      egressRouterMacMsbs := []
      ingressRouterMacs := [] }
  routerMac := .replicate 6 0
  once := .idle
  calls := 0

/-- The second call is refused: the interface that was created stays.  The call
in the block is refused: the block stays taken besides. -/
theorem not_failsCleanly_plainState :
    ¬FailsCleanly plainState
        (l3PortIfaceCreate (routerXdk (· ≠ 1)) plainState 7 (.replicate 6 2)) ∧
      ¬FailsCleanly plainState
        (l3PortIfaceCreate (routerXdk (· ≠ 6)) plainState 7 (.replicate 6 2)) := by
  constructor
  · intro clean
    have same := (clean _ rfl).ids 4
    exact absurd same (by decide)
  · intro clean
    exact (clean _ rfl).once (by decide)

end L3Intf
end XpliantSwitchd
