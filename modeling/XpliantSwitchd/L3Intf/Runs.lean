import XpliantSwitchd.L3Intf.Settings
import XpliantSwitchd.Lib.Transition

/-!
# The L3 interfaces of a router

A router starts without bundles.  Whatever calls come and whatever the XDK answers, the L3
interface of every bundle serves it, and settings that are carried out bring it in line.
No call takes an interface out of the hardware.
-/

namespace XpliantSwitchd
namespace L3Intf

open Vlans

variable {env : Env} {xdk : L3Xdk env} {state : State}

/-! ## Runs -/

section Runs

/-- What the plugin relies on: a bundle keeps its name, the ids below it are no L3
interfaces, no other bundle has the interface that the settings ask for, and the names of L3
interfaces are left alone. -/
def Proper (xdk : L3Xdk env) : Option Router → Event → Prop
  | none, _ => True
  | some router, .set aux s _ =>
      (∀ bundle ∈ router.bundles, bundle.aux = aux → bundle.name = s.name) ∧
        Plain xdk s.intfId ∧ Plain xdk s.portIntfId ∧
          ∀ request, s.request = some request →
            request.Unheld env (KeyedList.remove (·.aux) aux router.bundles)
  | some _, .destroy _ _ => True
  | some router, .others dev => SameNames xdk router.state.dev dev

/-- A router without bundles, where no L3 interface has a name. -/
def Initial (xdk : L3Xdk env) (router? : Option Router) : Prop :=
  ∃ state, router? = some ⟨state, []⟩ ∧ state.hw.ids.Nodup ∧
    (state.dev.ifIdToName.map (·.1)).Nodup ∧ ∀ entry ∈ state.dev.ifIdToName, Plain xdk entry.1

/-- What holds of the router, as long as there is one. -/
def SoundRouter (xdk : L3Xdk env) (router? : Option Router) : Prop :=
  ∀ router, router? = some router → Sound xdk router.state router.bundles

theorem soundRouter_step {router? : Option Router} {event : Event}
    (sound : SoundRouter xdk router?) (proper : Proper xdk router? event) :
    SoundRouter xdk (step xdk router? event) := by
  intro changed returned
  cases router? with
  | none => exact nomatch returned
  | some router =>
      have before := sound router rfl
      cases event with
      | set aux s course =>
          obtain ⟨named, below, plain, unheld⟩ := proper
          exact sound_bundleSet named below plain unheld returned before
      | destroy aux vlanXdk =>
          obtain rfl := Option.some.inj returned
          exact sound_bundleDestroy before
      | others dev =>
          obtain rfl := Option.some.inj returned
          exact sound_dev before proper

theorem soundRouter_of_initial {router? : Option Router} (start : Initial xdk router?) :
    SoundRouter xdk router? := by
  obtain ⟨state, rfl, hwIds, nameIds, plain⟩ := start
  intro router isStart
  obtain rfl := Option.some.inj isStart
  exact ⟨List.nodup_nil, hwIds, nameIds, fun _ member => (nomatch member),
    fun _ member => (nomatch member),
    fun entry member special => absurd (plain entry member) special,
    fun _ member => (nomatch member)⟩

/-- There is a router, and nobody is left in the block of `l3_iface_mac_set`. -/
def Unblocked (router? : Option Router) : Prop :=
  ∃ router, router? = some router ∧ router.state.once ≠ .started

theorem unblocked_step (accepts : xdk.Accepts) {router? : Option Router} {event : Event}
    (sound : SoundRouter xdk router?) (proper : Proper xdk router? event)
    (unblocked : Unblocked router?) : Unblocked (step xdk router? event) := by
  obtain ⟨router, rfl, notStarted⟩ := unblocked
  have before := sound router rfl
  cases event with
  | set aux s course =>
      obtain ⟨named, below, _⟩ := proper
      obtain ⟨changed, equation, isLeft, _⟩ :=
        bundleSet_accepting accepts notStarted named below before course
      exact ⟨changed, equation, isLeft⟩
  | destroy aux vlanXdk =>
      refine ⟨_, rfl, ?_⟩
      rw [(bundleDestroy_rest before).2]
      exact notStarted
  | others dev => exact ⟨_, rfl, notStarted⟩

/-- Where every call of the XDK succeeds no call waits for ever, and a bundle that is set up
has an interface where its settings enable one that is possible, and none where they do not. -/
theorem routed_of_reached (accepts : xdk.Accepts) {router? : Option Router}
    (reached : Transition.Reach (fun start => Initial xdk start ∧ Unblocked start)
      (Proper xdk) (step xdk) router?) :
    ∃ router, router? = some router ∧
      ∀ aux s, Proper xdk (some router) (.set aux s .configured) → s.type ≠ .loopback →
        ∃ changed, step xdk (some router) (.set aux s .configured) = some changed ∧
          ∃ bundle ∈ changed.bundles, bundle.aux = aux ∧
            (s.enable = false → bundle.l3Intf = none) ∧
            (s.enable = true → ∀ request, s.request = some request →
              request.Possible xdk router.state.dev →
                ∃ l3Intf, bundle.l3Intf = some l3Intf ∧ l3Intf.vlanId = s.vlanId) := by
  have both : SoundRouter xdk router? ∧ Unblocked router? := by
    refine reached.invariant (fun router? => SoundRouter xdk router? ∧ Unblocked router?) ?_ ?_
    · exact fun _ start => ⟨soundRouter_of_initial start.1, start.2⟩
    · exact fun _ _ holds proper =>
        ⟨soundRouter_step holds.1 proper, unblocked_step accepts holds.1 proper holds.2⟩
  obtain ⟨sound, router, rfl, notStarted⟩ := both
  have before := sound router rfl
  refine ⟨router, rfl, fun aux s proper other => ?_⟩
  obtain ⟨named, below, _⟩ := proper
  obtain ⟨changed, equation, _, made⟩ :=
    bundleSet_accepting accepts notStarted named below before .configured
  obtain ⟨bundle, member, same, isMade⟩ := made rfl
  have fits := (bundleSet_fits named below equation before).2 rfl other bundle member same
  refine ⟨changed, equation, bundle, member, same, fun disabled => ?_, ?_⟩
  · rw [Option.eq_none_iff_forall_ne_some]
    intro l3Intf has
    have enabled := (fits l3Intf has).1
    rw [disabled] at enabled
    cases enabled
  · intro enabled request asked possible
    obtain ⟨l3Intf, has⟩ := Option.ne_none_iff_exists'.1 (isMade enabled request asked possible)
    exact ⟨l3Intf, has, (fits l3Intf has).2⟩

end Runs

/-! ## A run -/

/-- Settings of the bundle of a port. -/
def portSettings (name : String) (portIntfId : Nat) (enable : Bool) : RoutedSettings where
  name := name
  isLag := false
  intfId := 0
  portsUpdated := false
  type := .system
  vlan := 0
  subintfVlan := 0
  portIntfId := portIntfId
  mac := .replicate 6 2
  enable := enable

/-- Two ports are routed, and the first is disabled again. -/
def disabledRun : List Event :=
  [.set 1 (portSettings "7" 7 true) .configured, .set 2 (portSettings "11" 11 true) .configured,
    .set 1 (portSettings "7" 7 false) .configured]

theorem guarded_disabledRun :
    Transition.Guarded (Proper (routerXdk fun _ => true)) (step (routerXdk fun _ => true))
      (some ⟨plainState, []⟩) disabledRun := by
  have plain : ∀ id ∈ [0, 7, 11], Plain (routerXdk fun _ => true) id := by
    intro id member type
    revert id
    cases type <;> decide
  refine ⟨⟨by decide, plain 0 (by decide), plain 7 (by decide), ?_⟩,
    ⟨by decide, plain 0 (by decide), plain 11 (by decide), ?_⟩,
    ⟨by decide, plain 0 (by decide), plain 7 (by decide), ?_⟩, trivial⟩
  · rintro request _ bundle member
    cases member
  · intro request asked bundle member l3Intf has
    obtain rfl := Option.some.inj asked
    obtain rfl := List.mem_singleton.1 member
    obtain rfl := Option.some.inj has
    decide
  · intro request asked bundle member l3Intf has
    obtain rfl := Option.some.inj asked
    obtain rfl := List.mem_singleton.1 member
    obtain rfl := Option.some.inj has
    decide

theorem initial_plainState : Initial (routerXdk fun _ => true) (some ⟨plainState, []⟩) :=
  ⟨plainState, rfl, List.nodup_nil, List.nodup_nil, fun _ member => (nomatch member)⟩

/-- What comes after the run finds the router as it should be. -/
theorem routed_disabledRun :
    (routerXdk fun _ => true).Accepts ∧
    ∃ router, Transition.run (step (routerXdk fun _ => true)) (some ⟨plainState, []⟩)
        disabledRun = some router ∧
      ∀ aux s, Proper (routerXdk fun _ => true) (some router) (.set aux s .configured) →
        s.type ≠ .loopback →
          ∃ changed, step (routerXdk fun _ => true) (some router) (.set aux s .configured) =
              some changed ∧
            ∃ bundle ∈ changed.bundles, bundle.aux = aux ∧
              (s.enable = false → bundle.l3Intf = none) ∧
              (s.enable = true → ∀ request, s.request = some request →
                request.Possible (routerXdk fun _ => true) router.state.dev →
                  ∃ l3Intf, bundle.l3Intf = some l3Intf ∧ l3Intf.vlanId = s.vlanId) := by
  have start : Transition.Reach
      (fun start => Initial (routerXdk fun _ => true) start ∧ Unblocked start)
      (Proper (routerXdk fun _ => true)) (step (routerXdk fun _ => true))
      (some ⟨plainState, []⟩) :=
    .start ⟨initial_plainState, ⟨plainState, []⟩, rfl, by decide⟩
  exact ⟨fun _ => rfl, routed_of_reached (fun _ => rfl) (start.of_run guarded_disabledRun)⟩

end L3Intf
end XpliantSwitchd
