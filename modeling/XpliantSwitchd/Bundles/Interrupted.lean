import XpliantSwitchd.Bundles.Retagging
import XpliantSwitchd.Vlan.Interrupted
import Mathlib.Algebra.GroupWithZero.Nat

/-!
# A VLAN configuration that is interrupted

`bundle_update_vlan_config` writes the new configuration into the bundle before
the hardware has it, and returns at the first call that fails.  The next call
works on the difference to what the bundle says.  This module says for every
place where the first call can stop what is left for the next one to do.
-/

namespace XpliantSwitchd
namespace Bundles

open Vlans

section Stops

variable {count : Nat} {env : Env} {xdk : Xdk} {dev : Dev} {intfId vid : Nat}

theorem dropVlan_completes
    (trunks : BitVec count)
    (enough : xdk.SucceedsFor dev.calls (leaveCalls env dev vid intfId)) :
    ∃ after, dropVlan env xdk dev intfId vid trunks =
        (none, bitmapSet0 trunks vid, after) ∧
      dropVlan env xdk.accepting dev intfId vid trunks =
        (none, bitmapSet0 trunks vid, after) ∧
      after.calls = dev.calls + leaveCalls env dev vid intfId := by
  unfold dropVlan
  cases existing : vlanIsExisting env dev vid with
  | false =>
      refine ⟨dev, rfl, rfl, ?_⟩
      simp [leaveCalls, vlanPortIsMember, vlanMemberLookup, existing]
  | true =>
      obtain ⟨after, own, accepted, calls⟩ := vlanMemberRemove_completes existing enough
      simp only [if_true, own, accepted]
      exact ⟨after, rfl, rfl, calls⟩

theorem dropVlan_stops
    (trunks : BitVec count)
    (refused : ¬ xdk.SucceedsFor dev.calls (leaveCalls env dev vid intfId)) :
    vlanPortIsMember env dev vid intfId = true ∧
      ∃ errno calls, dropVlan env xdk dev intfId vid trunks =
        (some errno, bitmapSet0 trunks vid, { dev with calls := calls }) := by
  obtain ⟨member, errno, calls, stopped⟩ := vlanMemberRemove_stops refused
  have existing : vlanIsExisting env dev vid = true := by
    by_contra missing
    simp [vlanPortIsMember, vlanMemberLookup, missing] at member
  refine ⟨member, errno, calls, ?_⟩
  unfold dropVlan
  simp only [existing, if_true, stopped]

/-- The calls of `ops_xp_port_default_vlan_set`. -/
def portVlanCalls (config : PortConfig) (vlan : Nat) : Nat :=
  if config = ⟨vlan, true⟩ then 1 else 2

/-- The calls that set the PVID of ports one after the other. -/
def pvidCalls (vlan : Nat) : List OfPort → (Nat → PortConfig) → Nat
  | [], _ => 0
  | port :: ports, configs =>
      portVlanCalls (configs port.portNum) vlan +
        pvidCalls vlan ports (Function.update configs port.portNum ⟨vlan, true⟩)

theorem portDefaultVlanSet_completes
    {portNum vlan : Nat}
    (enough : xdk.SucceedsFor dev.calls (portVlanCalls (dev.hw.ports portNum) vlan)) :
    ∃ after, portDefaultVlanSet xdk dev portNum vlan = (none, after) ∧
      portDefaultVlanSet xdk.accepting dev portNum vlan = (none, after) ∧
      after.calls = dev.calls + portVlanCalls (dev.hw.ports portNum) vlan ∧
      after.hw.ports = Function.update dev.hw.ports portNum ⟨vlan, true⟩ := by
  unfold portVlanCalls at enough ⊢
  unfold portDefaultVlanSet
  by_cases same : dev.hw.ports portNum = ⟨vlan, true⟩
  · rw [if_pos same, Xdk.succeedsFor_one] at enough
    refine ⟨{ dev with calls := dev.calls + 1 }, ?_, ?_, ?_, ?_⟩
    · simp [call_of_succeeds enough, same]
    · simp [xdk.accepting_accepts.call, same]
    · simp [same]
    · exact (Function.update_eq_self_iff.mpr same.symm).symm
  · rw [if_neg same] at enough
    have first : xdk.succeeds dev.calls = true := enough 0 (by omega)
    have second : xdk.succeeds (dev.calls + 1) = true := enough 1 (by omega)
    refine ⟨{ dev with
      hw := { dev.hw with ports := Function.update dev.hw.ports portNum ⟨vlan, true⟩ }
      calls := dev.calls + 2 }, ?_, ?_, ?_, rfl⟩
    · simp [Dev.call, first, second, same]
    · simp [xdk.accepting_accepts.call, same]
    · simp [same]

theorem portDefaultVlanSet_stops
    {portNum vlan : Nat}
    (refused : ¬ xdk.SucceedsFor dev.calls
      (portVlanCalls (dev.hw.ports portNum) vlan)) :
    ∃ errno after, portDefaultVlanSet xdk dev portNum vlan = (some errno, after) ∧
      after.table = dev.table := by
  unfold portVlanCalls at refused
  unfold portDefaultVlanSet
  cases first : xdk.succeeds dev.calls with
  | false =>
      refine ⟨.EPERM, { dev with calls := dev.calls + 1 }, ?_, rfl⟩
      simp [Dev.call, first]
  | true =>
      have changed : dev.hw.ports portNum ≠ ⟨vlan, true⟩ := by
        intro same
        rw [if_pos same, Xdk.succeedsFor_one] at refused
        exact refused first
      have second : xdk.succeeds (dev.calls + 1) = false := by
        rw [← Bool.not_eq_true]
        intro succeeds
        apply refused
        rw [if_neg changed, show 2 = 1 + 1 from rfl, Xdk.succeedsFor_add,
          Xdk.succeedsFor_one, Xdk.succeedsFor_one]
        exact ⟨first, succeeds⟩
      refine ⟨.EPERM, { dev with calls := dev.calls + 2 }, ?_, rfl⟩
      simp [Dev.call, first, second, changed]

theorem setPvids_completes
    {vlan : Nat}
    {ports : List OfPort}
    (enough : xdk.SucceedsFor dev.calls (pvidCalls vlan ports dev.hw.ports)) :
    setPvids xdk vlan ports dev = setPvids xdk.accepting vlan ports dev ∧
      (setPvids xdk vlan ports dev).2.calls =
        dev.calls + pvidCalls vlan ports dev.hw.ports := by
  induction ports generalizing dev with
  | nil => exact ⟨rfl, rfl⟩
  | cons port ports inductionHypothesis =>
      rw [pvidCalls, Xdk.succeedsFor_add] at enough
      obtain ⟨after, own, accepted, calls, configs⟩ :=
        portDefaultVlanSet_completes enough.1
      unfold setPvids
      rw [own, accepted]
      simp only
      rw [← configs, ← calls] at enough
      obtain ⟨same, later⟩ := inductionHypothesis enough.2
      refine ⟨same, ?_⟩
      rw [later, calls, pvidCalls, ← configs]
      omega

theorem setPvids_stops
    {vlan : Nat}
    {ports : List OfPort}
    (refused : ¬ xdk.SucceedsFor dev.calls (pvidCalls vlan ports dev.hw.ports)) :
    ∃ errno after, setPvids xdk vlan ports dev = (some errno, after) ∧
      after.table = dev.table := by
  induction ports generalizing dev with
  | nil => exact absurd Xdk.succeedsFor_zero refused
  | cons port ports inductionHypothesis =>
      unfold setPvids
      by_cases own : xdk.SucceedsFor dev.calls
          (portVlanCalls (dev.hw.ports port.portNum) vlan)
      · obtain ⟨between, equation, accepted, calls, configs⟩ :=
          portDefaultVlanSet_completes own
        have later : ¬ xdk.SucceedsFor between.calls
            (pvidCalls vlan ports between.hw.ports) := by
          rw [calls, configs]
          intro enough
          exact refused (Xdk.succeedsFor_add.mpr ⟨own, enough⟩)
        obtain ⟨errno, after, stopped, table⟩ := inductionHypothesis later
        have kept := (portDefaultVlanSet_spec xdk.accepting_accepts dev port.portNum vlan).2
        rw [accepted] at kept
        rw [equation]
        exact ⟨errno, after, stopped, table.trans kept⟩
      · obtain ⟨errno, after, stopped, table⟩ := portDefaultVlanSet_stops own
        rw [stopped]
        exact ⟨errno, after, rfl, table⟩

/-- The calls for one existing VLAN. -/
def participateCalls (env : Env) (dev : Dev) (bundle : Bundle count) (vid : Nat) : Nat :=
  if bundle.isTrunked vid then joinCalls env dev vid bundle.intfId
  else leaveCalls env dev vid bundle.intfId

/-- The calls that update the participation of a bundle in VLANs. -/
def participationCalls (env : Env) (dev : Dev) (bundle : Bundle count) :
    List Nat → Nat
  | [] => 0
  | vid :: vids =>
      (if vlanIsExisting env dev vid then participateCalls env dev bundle vid else 0) +
        participationCalls env dev bundle vids

/-- The calls for VLANs depend on the entries of these VLANs only. -/
theorem participationCalls_congr
    {other : Dev}
    {bundle : Bundle count}
    {vids : List Nat}
    (same : ∀ vid ∈ vids, other.table vid = dev.table vid) :
    participationCalls env other bundle vids = participationCalls env dev bundle vids := by
  induction vids with
  | nil => rfl
  | cons vid vids inductionHypothesis =>
      rw [participationCalls, participationCalls,
        inductionHypothesis fun vid member => same vid (List.mem_cons_of_mem _ member)]
      have entry := same vid List.mem_cons_self
      simp only [participateCalls, joinCalls, leaveCalls, vlanIsExisting_congr entry,
        vlanPortIsMember_congr entry]

theorem vlanMemberAdd_table_of_ne
    {other : Nat}
    {encapType : EncapType}
    (different : other ≠ vid) :
    (vlanMemberAdd env xdk dev vid intfId encapType).2.table other = dev.table other := by
  unfold vlanMemberAdd
  split
  · rfl
  split
  · rfl
  · simp only
    split
    · simp
    · simp [different]

theorem vlanMemberRemove_table_of_ne
    {other : Nat}
    (different : other ≠ vid) :
    (vlanMemberRemove env xdk dev vid intfId).2.table other = dev.table other := by
  unfold vlanMemberRemove
  split
  · rfl
  split
  · rfl
  · have kept : (if env.isTunnelIntf intfId then (true, dev)
        else dev.call xdk id).2.table = dev.table := by
      split <;> simp
    generalize (if env.isTunnelIntf intfId then (true, dev) else dev.call xdk id) =
      answer at kept ⊢
    simp only
    split
    · rw [kept]
    split
    · rw [call_table, kept]
    · rw [setVlan_table, Function.update_of_ne different, call_table, kept]

/-- Update the participation of a bundle in one existing VLAN. -/
def participate (env : Env) (xdk : Xdk) (bundle : Bundle count) (vid : Nat) (dev : Dev) :
    Option Errno × Dev :=
  if bundle.isTrunked vid then
    vlanMemberAdd env xdk dev vid bundle.intfId (bundle.encapType vid)
  else vlanMemberRemove env xdk dev vid bundle.intfId

theorem updateParticipation_cons
    (bundle : Bundle count)
    (vids : List Nat) :
    updateParticipation env xdk bundle (vid :: vids) dev =
      if vlanIsExisting env dev vid then
        match participate env xdk bundle vid dev with
        | (none, dev) => updateParticipation env xdk bundle vids dev
        | (some errno, dev) => (some errno, dev)
      else updateParticipation env xdk bundle vids dev := rfl

variable (env xdk dev) in
theorem participate_table_of_ne
    {other : Nat}
    (bundle : Bundle count)
    (different : other ≠ vid) :
    (participate env xdk bundle vid dev).2.table other = dev.table other := by
  unfold participate
  split
  · exact vlanMemberAdd_table_of_ne different
  · exact vlanMemberRemove_table_of_ne different

theorem participate_completes
    {bundle : Bundle count}
    (existing : vlanIsExisting env dev vid = true)
    (enough : xdk.SucceedsFor dev.calls (participateCalls env dev bundle vid)) :
    ∃ after, participate env xdk bundle vid dev = (none, after) ∧
      participate env xdk.accepting bundle vid dev = (none, after) ∧
      after.calls = dev.calls + participateCalls env dev bundle vid := by
  unfold participateCalls at enough ⊢
  unfold participate
  cases trunked : bundle.isTrunked vid with
  | true =>
      rw [trunked, if_pos rfl] at enough
      exact vlanMemberAdd_completes (bundle.encapType vid) existing enough
  | false =>
      rw [trunked, if_neg Bool.false_ne_true] at enough
      exact vlanMemberRemove_completes existing enough

theorem participate_stops
    {bundle : Bundle count}
    (existing : vlanIsExisting env dev vid = true)
    (refused : ¬ xdk.SucceedsFor dev.calls (participateCalls env dev bundle vid)) :
    vlanPortIsMember env dev vid bundle.intfId ≠ bundle.isTrunked vid ∧
      ∃ errno calls, participate env xdk bundle vid dev =
        (some errno, { dev with calls := calls }) := by
  unfold participateCalls at refused
  unfold participate
  cases trunked : bundle.isTrunked vid with
  | true =>
      rw [trunked, if_pos rfl] at refused
      obtain ⟨member, stopped⟩ := vlanMemberAdd_stops (bundle.encapType vid) existing refused
      exact ⟨by rw [member]; decide, stopped⟩
  | false =>
      rw [trunked, if_neg Bool.false_ne_true] at refused
      obtain ⟨member, stopped⟩ := vlanMemberRemove_stops refused
      exact ⟨by rw [member]; decide, stopped⟩

theorem updateParticipation_completes
    {bundle : Bundle count}
    {vids : List Nat}
    (once : vids.Nodup)
    (enough : xdk.SucceedsFor dev.calls (participationCalls env dev bundle vids)) :
    updateParticipation env xdk bundle vids dev =
      updateParticipation env xdk.accepting bundle vids dev := by
  induction vids generalizing dev with
  | nil => rfl
  | cons vid vids inductionHypothesis =>
      obtain ⟨fresh, once⟩ := List.nodup_cons.mp once
      rw [participationCalls, Xdk.succeedsFor_add] at enough
      rw [updateParticipation_cons, updateParticipation_cons]
      cases existing : vlanIsExisting env dev vid with
      | false =>
          rw [existing] at enough
          exact inductionHypothesis once (by simpa using enough.2)
      | true =>
          rw [existing, if_pos rfl] at enough
          obtain ⟨after, own, accepted, calls⟩ := participate_completes existing enough.1
          have elsewhere : ∀ other ∈ vids, after.table other = dev.table other := by
            intro other member
            have kept := participate_table_of_ne env xdk dev bundle
              (ne_of_mem_of_not_mem member fresh)
            rwa [own] at kept
          simp only [if_true, own, accepted]
          apply inductionHypothesis once
          rw [calls, participationCalls_congr elsewhere]
          exact enough.2

theorem participate_represents
    {bundle : Bundle count}
    {members : VlanRoster}
    (represents : Represents env dev members)
    (accepts : xdk.Accepts) :
    ∃ after, Represents env (participate env xdk bundle vid dev).2 after ∧
      after.exist = members.exist := by
  unfold participate
  split
  · exact ⟨_, (represents.memberAdd accepts vid bundle.intfId _).1, rfl⟩
  · exact ⟨_, (represents.memberRemove accepts vid bundle.intfId).1, rfl⟩

/-- The loop stops at a VLAN in which the interface is not what the trunks of the
bundle say. -/
theorem updateParticipation_stops
    {bundle : Bundle count}
    {vids : List Nat}
    {members : VlanRoster}
    (once : vids.Nodup)
    (represents : Represents env dev members)
    (refused : ¬ xdk.SucceedsFor dev.calls (participationCalls env dev bundle vids)) :
    ∃ errno after roster,
      updateParticipation env xdk bundle vids dev = (some errno, after) ∧
      Represents env after roster ∧ roster.exist = members.exist ∧
      ∃ vid ∈ vids, members.exist vid = true ∧
        (roster.label vid bundle.intfId).isSome ≠ bundle.isTrunked vid ∧
        (members.label vid bundle.intfId).isSome ≠ bundle.isTrunked vid := by
  induction vids generalizing dev members with
  | nil => exact absurd Xdk.succeedsFor_zero refused
  | cons vid vids inductionHypothesis =>
      obtain ⟨fresh, once⟩ := List.nodup_cons.mp once
      rw [participationCalls] at refused
      rw [updateParticipation_cons]
      cases existing : vlanIsExisting env dev vid with
      | false =>
          rw [existing] at refused
          obtain ⟨errno, after, roster, stopped, holds, exist, other, member, stuck⟩ :=
            inductionHypothesis once represents (by simpa using refused)
          exact ⟨errno, after, roster, stopped, holds, exist, other,
            List.mem_cons_of_mem _ member, stuck⟩
      | true =>
          rw [existing, if_pos rfl] at refused
          by_cases own : xdk.SucceedsFor dev.calls (participateCalls env dev bundle vid)
          · obtain ⟨between, equation, accepted, calls⟩ := participate_completes existing own
            have elsewhere : ∀ other ∈ vids, between.table other = dev.table other := by
              intro other member
              have kept := participate_table_of_ne env xdk dev bundle
                (ne_of_mem_of_not_mem member fresh)
              rwa [equation] at kept
            have later : ¬ xdk.SucceedsFor between.calls
                (participationCalls env between bundle vids) := by
              rw [calls, participationCalls_congr elsewhere]
              intro enough
              exact refused (Xdk.succeedsFor_add.mpr ⟨own, enough⟩)
            obtain ⟨middle, midway, sameExist⟩ := @participate_represents count env
              xdk.accepting dev vid bundle members represents xdk.accepting_accepts
            rw [accepted] at midway
            obtain ⟨errno, after, roster, stopped, holds, exist, other, member, present,
              stuck, differs⟩ := inductionHypothesis once midway later
            rw [← midway.isMember_eq, vlanPortIsMember_congr (elsewhere other member),
              represents.isMember_eq] at differs
            rw [sameExist] at exist present
            simp only [if_true, equation]
            exact ⟨errno, after, roster, stopped, holds, exist, other,
              List.mem_cons_of_mem _ member, present, stuck, differs⟩
          · obtain ⟨differs, errno, calls, stopped⟩ := participate_stops existing own
            rw [stopped]
            rw [represents.isMember_eq] at differs
            rw [represents.exist_eq] at existing
            exact ⟨errno, _, members, rfl, represents.onHw dev.hw calls, rfl, vid,
              List.mem_cons_self, existing, differs, differs⟩

/-- The calls after the bitmaps were found to differ: the frame type, the PVIDs
and the VLANs. -/
def applyCalls (env : Env) (dev : Dev) (bundle : Bundle count) (ports : List OfPort)
    (trunksDiff : BitVec count) : Nat :=
  1 + (pvidCalls (xpsVlan bundle.vlan) ports dev.hw.ports +
    participationCalls env dev bundle (bitmapOnes trunksDiff))

theorem setPvids_ports_of_accepts
    (accepts : xdk.Accepts)
    (vlan : Nat)
    (ports : List OfPort) :
    ∃ after, setPvids xdk vlan ports dev = (none, after) ∧ after.table = dev.table := by
  obtain ⟨code, table⟩ := setPvids_spec accepts vlan ports dev
  exact ⟨_, Prod.ext code rfl, table⟩

theorem applyTrunks_completes
    {bundle : Bundle count}
    {ports : List OfPort}
    {trunksDiff : BitVec count}
    (frameType : FrameType)
    (enough : xdk.SucceedsFor dev.calls (applyCalls env dev bundle ports trunksDiff)) :
    applyTrunks env xdk dev bundle ports frameType trunksDiff =
      applyTrunks env xdk.accepting dev bundle ports frameType trunksDiff := by
  rw [applyCalls, Xdk.succeedsFor_add, Xdk.succeedsFor_add, Xdk.succeedsFor_one] at enough
  obtain ⟨framed, tagged, updated⟩ := enough
  unfold applyTrunks
  rw [call_of_succeeds framed, xdk.accepting_accepts.call]
  simp only [Bool.not_true, Bool.false_eq_true, if_false]
  generalize start : ({ dev with
    hw := { dev.hw with
      frameTypes := Function.update dev.hw.frameTypes bundle.intfId frameType }
    calls := dev.calls + 1 } : Dev) = framedDev
  have calls : framedDev.calls = dev.calls + 1 := by rw [← start]
  have configs : framedDev.hw.ports = dev.hw.ports := by rw [← start]
  have table : framedDev.table = dev.table := by rw [← start]
  rw [← calls, ← configs] at tagged updated
  obtain ⟨same, later⟩ := setPvids_completes tagged
  obtain ⟨between, equation, kept⟩ := @setPvids_ports_of_accepts xdk.accepting framedDev
    xdk.accepting_accepts (xpsVlan bundle.vlan) ports
  rw [same, equation] at later ⊢
  simp only
  apply updateParticipation_completes (nodup_bitmapOnes trunksDiff)
  rw [later, participationCalls_congr fun vid _ => congrFun (kept.trans table) vid]
  exact updated

/-- The calls stop before the first VLAN, or at a VLAN in which the interface is
not what the trunks of the bundle say. -/
theorem applyTrunks_stops
    {bundle : Bundle count}
    {ports : List OfPort}
    {trunksDiff : BitVec count}
    {members : VlanRoster}
    (frameType : FrameType)
    (represents : Represents env dev members)
    (refused : ¬ xdk.SucceedsFor dev.calls (applyCalls env dev bundle ports trunksDiff)) :
    ∃ errno after roster,
      applyTrunks env xdk dev bundle ports frameType trunksDiff = (some errno, after) ∧
      Represents env after roster ∧ roster.exist = members.exist ∧
      (roster = members ∨ ∃ vid, members.exist vid = true ∧
        (roster.label vid bundle.intfId).isSome ≠ bundle.isTrunked vid ∧
        (members.label vid bundle.intfId).isSome ≠ bundle.isTrunked vid) := by
  unfold applyTrunks
  cases framed : xdk.succeeds dev.calls with
  | false =>
      rw [call_of_fails framed]
      exact ⟨.EPERM, _, members, rfl, represents.onHw _ _, rfl, .inl rfl⟩
  | true =>
      rw [applyCalls, Xdk.succeedsFor_add, Xdk.succeedsFor_one] at refused
      rw [call_of_succeeds framed]
      simp only [Bool.not_true, Bool.false_eq_true, if_false]
      generalize start : ({ dev with
        hw := { dev.hw with
          frameTypes := Function.update dev.hw.frameTypes bundle.intfId frameType }
        calls := dev.calls + 1 } : Dev) = framedDev
      have calls : framedDev.calls = dev.calls + 1 := by rw [← start]
      have configs : framedDev.hw.ports = dev.hw.ports := by rw [← start]
      have table : framedDev.table = dev.table := by rw [← start]
      rw [← calls, ← configs] at refused
      by_cases tagged : xdk.SucceedsFor framedDev.calls
          (pvidCalls (xpsVlan bundle.vlan) ports framedDev.hw.ports)
      · obtain ⟨same, later⟩ := setPvids_completes tagged
        obtain ⟨between, equation, kept⟩ := @setPvids_ports_of_accepts xdk.accepting
          framedDev xdk.accepting_accepts (xpsVlan bundle.vlan) ports
        rw [same, equation] at later ⊢
        simp only
        have updated : ¬ xdk.SucceedsFor between.calls
            (participationCalls env between bundle (bitmapOnes trunksDiff)) := by
          rw [later, participationCalls_congr fun vid _ => congrFun (kept.trans table) vid]
          intro enough
          exact refused ⟨framed, Xdk.succeedsFor_add.mpr ⟨tagged, enough⟩⟩
        obtain ⟨errno, after, roster, stopped, holds, exist, vid, _, present, stuck, differs⟩ :=
          updateParticipation_stops (nodup_bitmapOnes trunksDiff)
            (represents.of_table (kept.trans table)) updated
        exact ⟨errno, after, roster, stopped, holds, exist,
          .inr ⟨vid, present, stuck, differs⟩⟩
      · obtain ⟨errno, after, stopped, kept⟩ := setPvids_stops tagged
        rw [stopped]
        exact ⟨errno, after, members, rfl, represents.of_table (kept.trans table), rfl,
          .inl rfl⟩

/-! ## The VLANs that are dropped first -/

/-- The calls that take the interface out of the new VLAN of the bundle. -/
def dropNewCalls (env : Env) (dev : Dev) (intfId vlan : Nat) (old : BitVec count) : Nat :=
  if old.getLsbD vlan then leaveCalls env dev vlan intfId else 0

/-- The calls that take the interface out of the old VLAN of the bundle, which it
has left already if the two are the same. -/
def dropOldCalls (env : Env) (dev : Dev) (intfId vlan oldVlan : Nat)
    (old new : BitVec count) : Nat :=
  if new.getLsbD oldVlan && !(oldVlan == vlan && old.getLsbD vlan) then
    leaveCalls env dev oldVlan intfId
  else 0

section Dropping

variable {members : VlanRoster} {vlan oldVlan : Nat} {old new : BitVec count}

/-- The first of the two drops, with its calls accepted. -/
theorem dropNew_completes
    (represents : Represents env dev members)
    (enough : xdk.SucceedsFor dev.calls (dropNewCalls env dev intfId vlan old)) :
    ∃ kept after,
      (if old.getLsbD vlan then dropVlan env xdk dev intfId vlan old
        else (none, old, dev)) = (none, kept, after) ∧
      (if old.getLsbD vlan then dropVlan env xdk.accepting dev intfId vlan old
        else (none, old, dev)) = (none, kept, after) ∧
      after.calls = dev.calls + dropNewCalls env dev intfId vlan old ∧
      Represents env after
        (if old.getLsbD vlan then members.leave vlan intfId else members) ∧
      ∀ vid, kept.getLsbD vid = (old.getLsbD vid && decide (vid ≠ vlan)) := by
  unfold dropNewCalls at enough ⊢
  cases trunked : old.getLsbD vlan with
  | false =>
      refine ⟨old, dev, rfl, rfl, rfl, represents, ?_⟩
      intro vid
      by_cases same : vid = vlan
      · subst same
        simp [trunked]
      · simp [same]
  | true =>
      rw [trunked, if_pos rfl] at enough
      obtain ⟨after, own, accepted, calls⟩ := dropVlan_completes old enough
      obtain ⟨result, spec, left⟩ :=
        dropVlan_spec represents xdk.accepting_accepts intfId vlan old
      rw [accepted] at spec
      cases spec
      exact ⟨_, after, own, accepted, calls, left, getLsbD_bitmapSet0 old vlan⟩

/-- The calls of the second drop are those counted at the start. -/
theorem leaveCalls_after_drop
    {after : Dev}
    (represents : Represents env dev members)
    (dropped : Represents env after
      (if old.getLsbD vlan then members.leave vlan intfId else members))
    (trunked : new.getLsbD oldVlan = true) :
    leaveCalls env after oldVlan intfId =
      dropOldCalls env dev intfId vlan oldVlan old new := by
  unfold dropOldCalls leaveCalls
  rw [dropped.isMember_eq, represents.isMember_eq, trunked]
  by_cases same : oldVlan = vlan
  · subst same
    cases old.getLsbD oldVlan <;> simp
  · have different : (oldVlan == vlan) = false := by simpa using same
    rw [different]
    cases old.getLsbD vlan with
    | false => simp
    | true => simp [Roster.leave_label_of_ne (.inl same)]

theorem dropRetagged_completes
    (represents : Represents env dev members)
    (enoughNew : xdk.SucceedsFor dev.calls (dropNewCalls env dev intfId vlan old))
    (enoughOld : xdk.SucceedsFor (dev.calls + dropNewCalls env dev intfId vlan old)
      (dropOldCalls env dev intfId vlan oldVlan old new)) :
    dropRetagged env xdk dev intfId vlan oldVlan old new =
        dropRetagged env xdk.accepting dev intfId vlan oldVlan old new ∧
      (dropRetagged env xdk dev intfId vlan oldVlan old new).2.2.calls =
        dev.calls + dropNewCalls env dev intfId vlan old +
          dropOldCalls env dev intfId vlan oldVlan old new := by
  obtain ⟨kept, between, own, accepted, calls, dropped, _⟩ :=
    dropNew_completes represents enoughNew
  unfold dropRetagged
  rw [own, accepted]
  simp only
  cases trunked : new.getLsbD oldVlan with
  | false => exact ⟨rfl, by simp [dropOldCalls, trunked, calls]⟩
  | true =>
      have counted := leaveCalls_after_drop represents dropped trunked
      rw [← calls, ← counted] at enoughOld
      obtain ⟨after, later, laterAccepted, laterCalls⟩ := dropVlan_completes kept enoughOld
      rw [if_pos rfl, later, if_pos rfl, laterAccepted]
      exact ⟨rfl, by rw [laterCalls, calls, counted]⟩

theorem dropRetagged_stops_new
    (refused : ¬ xdk.SucceedsFor dev.calls (dropNewCalls env dev intfId vlan old)) :
    old.getLsbD vlan = true ∧ vlanPortIsMember env dev vlan intfId = true ∧
      ∃ errno calls, dropRetagged env xdk dev intfId vlan oldVlan old new =
        (some errno, bitmapSet0 old vlan, { dev with calls := calls }) := by
  unfold dropNewCalls at refused
  cases trunked : old.getLsbD vlan with
  | false => simp [trunked] at refused
  | true =>
      rw [trunked, if_pos rfl] at refused
      obtain ⟨member, errno, calls, stopped⟩ := dropVlan_stops old refused
      refine ⟨rfl, member, errno, calls, ?_⟩
      unfold dropRetagged
      rw [trunked, if_pos rfl, stopped]

theorem dropRetagged_stops_old
    (represents : Represents env dev members)
    (enoughNew : xdk.SucceedsFor dev.calls (dropNewCalls env dev intfId vlan old))
    (refused : ¬ xdk.SucceedsFor (dev.calls + dropNewCalls env dev intfId vlan old)
      (dropOldCalls env dev intfId vlan oldVlan old new)) :
    new.getLsbD oldVlan = true ∧ (oldVlan = vlan → old.getLsbD vlan = false) ∧
      vlanPortIsMember env dev oldVlan intfId = true ∧
      ∃ errno kept after, dropRetagged env xdk dev intfId vlan oldVlan old new =
          (some errno, kept, after) ∧
        Represents env after
          (if old.getLsbD vlan then members.leave vlan intfId else members) ∧
        ∀ vid, kept.getLsbD vid =
          (old.getLsbD vid && decide (vid ≠ vlan) && decide (vid ≠ oldVlan)) := by
  have wanted : new.getLsbD oldVlan = true ∧ (oldVlan = vlan → old.getLsbD vlan = false) ∧
      vlanPortIsMember env dev oldVlan intfId = true := by
    unfold dropOldCalls leaveCalls at refused
    by_contra unwanted
    apply refused
    split
    · rename_i both
      split
      · rename_i member
        simp only [Bool.and_eq_true, Bool.not_eq_true', Bool.and_eq_false_iff,
          beq_eq_false_iff_ne] at both
        refine absurd ⟨both.1, ?_, member⟩ unwanted
        intro same
        exact both.2.resolve_left (not_not_intro same)
      · exact Xdk.succeedsFor_zero
    · exact Xdk.succeedsFor_zero
  obtain ⟨trunked, distinct, member⟩ := wanted
  obtain ⟨kept, between, own, _, calls, dropped, bits⟩ :=
    dropNew_completes represents enoughNew
  rw [← leaveCalls_after_drop represents dropped trunked, ← calls] at refused
  obtain ⟨_, errno, later, stopped⟩ := dropVlan_stops kept refused
  refine ⟨trunked, distinct, member, errno, bitmapSet0 kept oldVlan, _, ?_,
    dropped.onHw between.hw later, ?_⟩
  · unfold dropRetagged
    rw [own]
    simp only [trunked, if_true, stopped]
  · intro vid
    rw [getLsbD_bitmapSet0, bits]

end Dropping

theorem dropVlan_samePorts
    (trunks : BitVec count) :
    SamePorts dev (dropVlan env xdk dev intfId vid trunks).2.2 := by
  unfold dropVlan
  split
  · exact SamePorts.memberRemove env xdk dev vid intfId
  · exact SamePorts.refl dev

/-- The drops leave the settings of ports and interfaces alone. -/
theorem trunksToCompare_samePorts
    (bundle : Bundle count)
    (s : Settings count) :
    SamePorts dev (trunksToCompare env xdk dev bundle s).2.2 := by
  unfold trunksToCompare
  cases bundle.trunks with
  | none => exact SamePorts.refl dev
  | some old =>
      simp only
      split
      · have first : SamePorts dev (if old.getLsbD (settingsVlan env s) then
            dropVlan env xdk dev bundle.intfId (settingsVlan env s) old
            else (none, old, dev)).2.2 := by
          split
          · exact dropVlan_samePorts old
          · exact SamePorts.refl dev
        unfold dropRetagged
        generalize (if old.getLsbD (settingsVlan env s) then
          dropVlan env xdk dev bundle.intfId (settingsVlan env s) old
          else (none, old, dev)) = result at first ⊢
        obtain ⟨errno, kept, between⟩ := result
        cases errno with
        | some errno => exact first
        | none =>
            simp only
            split
            · exact first.trans (dropVlan_samePorts kept)
            · exact first
      · exact SamePorts.refl dev

end Stops

/-! ## The hardware -/

section Hardware

variable {count : Nat} {env : Env} {xdk : Xdk} {dev : Dev}

theorem dropVlan_mirrored
    (mirrored : Mirrored env dev)
    (intfId vid : Nat)
    (trunks : BitVec count) :
    Mirrored env (dropVlan env xdk dev intfId vid trunks).2.2 := by
  unfold dropVlan
  split
  · exact mirrored.memberRemove
  · exact mirrored

theorem dropRetagged_mirrored
    (mirrored : Mirrored env dev)
    (intfId vlan oldVlan : Nat)
    (old new : BitVec count) :
    Mirrored env (dropRetagged env xdk dev intfId vlan oldVlan old new).2.2 := by
  have first : Mirrored env (if old.getLsbD vlan then
      dropVlan env xdk dev intfId vlan old else (none, old, dev)).2.2 := by
    split
    · exact dropVlan_mirrored mirrored intfId vlan old
    · exact mirrored
  unfold dropRetagged
  generalize (if old.getLsbD vlan then dropVlan env xdk dev intfId vlan old
    else (none, old, dev)) = result at first ⊢
  obtain ⟨errno, kept, between⟩ := result
  cases errno with
  | some errno => exact first
  | none =>
      simp only
      split
      · exact dropVlan_mirrored first intfId oldVlan kept
      · exact first

theorem trunksToCompare_mirrored
    (mirrored : Mirrored env dev)
    (bundle : Bundle count)
    (s : Settings count) :
    Mirrored env (trunksToCompare env xdk dev bundle s).2.2 := by
  unfold trunksToCompare
  cases bundle.trunks with
  | none => exact mirrored
  | some old =>
      simp only
      split
      · exact dropRetagged_mirrored mirrored _ _ _ _ _
      · exact mirrored

theorem portDefaultVlanSet_vlans (portNum vlan : Nat) :
    (portDefaultVlanSet xdk dev portNum vlan).2.table = dev.table ∧
      (portDefaultVlanSet xdk dev portNum vlan).2.hw.vlans = dev.hw.vlans := by
  unfold portDefaultVlanSet Dev.call
  cases xdk.succeeds dev.calls with
  | false => exact ⟨rfl, rfl⟩
  | true =>
      simp only [if_true, Bool.not_true, Bool.false_eq_true, if_false, id]
      split
      · exact ⟨rfl, rfl⟩
      · cases xdk.succeeds (dev.calls + 1) <;> exact ⟨rfl, rfl⟩

theorem setPvids_mirrored
    (mirrored : Mirrored env dev)
    (vlan : Nat)
    (ports : List OfPort) :
    Mirrored env (setPvids xdk vlan ports dev).2 := by
  induction ports generalizing dev with
  | nil => exact mirrored
  | cons port ports inductionHypothesis =>
      obtain ⟨table, vlans⟩ := @portDefaultVlanSet_vlans xdk dev port.portNum vlan
      have own := mirrored.of_same table vlans
      unfold setPvids
      generalize portDefaultVlanSet xdk dev port.portNum vlan = result at own ⊢
      obtain ⟨errno, between⟩ := result
      cases errno with
      | some errno => exact own
      | none => exact inductionHypothesis own

theorem updateParticipation_mirrored
    (mirrored : Mirrored env dev)
    (bundle : Bundle count)
    (vids : List Nat) :
    Mirrored env (updateParticipation env xdk bundle vids dev).2 := by
  induction vids generalizing dev with
  | nil => exact mirrored
  | cons vid vids inductionHypothesis =>
      have own : Mirrored env (participate env xdk bundle vid dev).2 := by
        unfold participate
        split
        · exact mirrored.memberAdd _
        · exact mirrored.memberRemove
      rw [updateParticipation_cons]
      split
      · generalize participate env xdk bundle vid dev = result at own ⊢
        obtain ⟨errno, between⟩ := result
        cases errno with
        | some errno => exact own
        | none => exact inductionHypothesis own
      · exact inductionHypothesis mirrored

theorem applyTrunks_mirrored
    (mirrored : Mirrored env dev)
    (bundle : Bundle count)
    (ports : List OfPort)
    (frameType : FrameType)
    (trunksDiff : BitVec count) :
    Mirrored env (applyTrunks env xdk dev bundle ports frameType trunksDiff).2 := by
  have framed : Mirrored env (dev.call xdk fun hw =>
      { hw with
        frameTypes := Function.update hw.frameTypes bundle.intfId frameType }).2 := by
    apply mirrored.of_same (call_table dev xdk _)
    unfold Dev.call
    split <;> rfl
  unfold applyTrunks
  generalize (dev.call xdk fun hw => { hw with
    frameTypes := Function.update hw.frameTypes bundle.intfId frameType }) =
      result at framed ⊢
  obtain ⟨setField, between⟩ := result
  cases setField with
  | false => exact framed
  | true =>
      have tagged := @setPvids_mirrored env xdk between framed (xpsVlan bundle.vlan) ports
      simp only [Bool.not_true, Bool.false_eq_true, if_false]
      generalize setPvids xdk (xpsVlan bundle.vlan) ports between = result at tagged ⊢
      obtain ⟨errno, later⟩ := result
      cases errno with
      | some errno => exact tagged
      | none => exact updateParticipation_mirrored tagged bundle _

variable (xdk) in
/-- Whatever fails, the table and the hardware agree after the update. -/
theorem bundleUpdateVlanConfig_mirrored
    {bridge : Bridge}
    (mirrored : Mirrored bridge.toEnv dev)
    (bundle : Bundle count)
    (s : Settings count) :
    Mirrored bridge.toEnv (bundleUpdateVlanConfig bridge xdk dev bundle s).2.2 := by
  have compared := @trunksToCompare_mirrored count bridge.toEnv xdk dev mirrored bundle s
  unfold bundleUpdateVlanConfig
  generalize trunksToCompare bridge.toEnv xdk dev bundle s = result at compared ⊢
  obtain ⟨errno, oldTrunks, between⟩ := result
  cases errno with
  | some errno => exact compared
  | none =>
      simp only
      split
      · exact applyTrunks_mirrored compared _ _ _ _
      · exact compared

end Hardware

/-! ## The next call -/

/-- The interface of a bundle is a member of exactly the existing VLANs of its
trunks, with the right encapsulation.  The VLAN of a new bundle is not set. -/
structure Participates {count : Nat} (env : Env) (dev : Dev) (bundle : Bundle count) :
    Prop where
  encapType : ∀ vid, vlanIsExisting env dev vid = true →
    (vlanMemberLookup env dev vid bundle.intfId).map (·.encapType) =
      if bundle.isTrunked vid then some (bundle.encapType vid) else none
  vlan : (∃ vid, isVlanIdValid env vid = true ∧ bundle.vlan = (vid : Int)) ∨
    (bundle.vlan = -1 ∧ bundle.trunks = none)

/-- A bundle with a new configuration, whose trunks say what is left to do. -/
def Bundle.midway {count : Nat} (env : Env) (bundle : Bundle count) (s : Settings count)
    (trunks : BitVec count) : Bundle count :=
  { bundle with
    vlanMode := s.vlanMode
    vlan := settingsVlan env s
    trunks := some trunks }

/-- After an interrupted call of `bundle_update_vlan_config` the same call, with
every call of the XDK accepted, leads to the configuration of the settings, in the
table and in the hardware. -/
def Repaired (bridge : Bridge) (xdk accepting : Xdk) (dev : Dev)
    (bundle : Bundle bridge.vlanMaxCount) (s : Settings bridge.vlanMaxCount) : Prop :=
  let first := bundleUpdateVlanConfig bridge xdk dev bundle s
  ∃ changed after,
    bundleUpdateVlanConfig bridge accepting first.2.2 first.2.1 s = (none, changed, after) ∧
    ConfiguredBy bridge.toEnv s changed ∧
    changed.intfId = bundle.intfId ∧
    Participates bridge.toEnv after changed ∧
    Mirrored bridge.toEnv after

section Retry

variable {bridge : Bridge} {xdk accepting : Xdk} {dev between : Dev}
  {bundle : Bundle bridge.vlanMaxCount} {s : Settings bridge.vlanMaxCount}
  {members roster : VlanRoster} {trunks : BitVec bridge.vlanMaxCount}

theorem retags_midway (vid : Nat) :
    (bundle.midway bridge.toEnv s trunks).retags bridge.toEnv s vid = false := by
  have sameVlan : (bundle.midway bridge.toEnv s trunks).oldVlan =
      settingsVlan bridge.toEnv s := oldVlan_configured bridge.toEnv bundle s
  have sameMode : (bundle.midway bridge.toEnv s trunks).vlanMode = s.vlanMode := rfl
  have sameTrunks : (bundle.midway bridge.toEnv s trunks).trunks = some trunks := rfl
  simp [Bundle.retags, sameTrunks, sameVlan, sameMode]

/-- What the next call has to find at a VLAN: a VLAN for which the trunks are
right already keeps its label, and in the others only a missing member gets one. -/
theorem repaired_iff
    {errno : Option Errno}
    (accepts : accepting.Accepts)
    (mirrored : Mirrored bridge.toEnv dev)
    (stopped : bundleUpdateVlanConfig bridge xdk dev bundle s =
      (errno, bundle.midway bridge.toEnv s trunks, between))
    (represents : Represents bridge.toEnv between roster) :
    Repaired bridge xdk accepting dev bundle s ↔
      ∀ vid, roster.exist vid = true →
        (if trunks.getLsbD vid = (settingsTrunks bridge.toEnv s).getLsbD vid then
            roster.label vid bundle.intfId
          else participation (bundle.configured bridge.toEnv s) vid
            (roster.label vid bundle.intfId)) =
        if (settingsTrunks bridge.toEnv s).getLsbD vid then
          some ((bundle.configured bridge.toEnv s).encapType vid)
        else none := by
  obtain ⟨after, final, equation, holds, only, labels⟩ :=
    bundleUpdateVlanConfig_spec represents accepts
      (bundle.midway bridge.toEnv s trunks) s
  have midMirrored : Mirrored bridge.toEnv between := by
    have kept := bundleUpdateVlanConfig_mirrored xdk mirrored bundle s
    rwa [stopped] at kept
  have mirroredAfter : Mirrored bridge.toEnv after := by
    have kept := bundleUpdateVlanConfig_mirrored accepting midMirrored
      (bundle.midway bridge.toEnv s trunks) s
    rwa [equation] at kept
  have sameBundle : (bundle.midway bridge.toEnv s trunks).configured bridge.toEnv s =
      bundle.configured bridge.toEnv s := rfl
  have labelAfter : ∀ vid, roster.exist vid = true →
      final.label vid bundle.intfId =
        if trunks.getLsbD vid = (settingsTrunks bridge.toEnv s).getLsbD vid then
          roster.label vid bundle.intfId
        else participation (bundle.configured bridge.toEnv s) vid
          (roster.label vid bundle.intfId) := by
    intro vid present
    have label := labels vid present
    rw [sameBundle] at label
    simp only [retags_midway, Bool.false_eq_true, if_false, Bool.not_false,
      Bool.and_true] at label
    exact label
  unfold Repaired
  simp only [stopped]
  rw [equation, sameBundle]
  constructor
  · rintro ⟨changed, other, same, _, _, participates, _⟩ vid present
    cases same
    have existing : vlanIsExisting bridge.toEnv after vid = true := by
      rw [holds.exist_eq, only.exist, present]
    have label := participates.encapType vid existing
    rw [holds.label_eq] at label
    rw [← labelAfter vid present]
    exact label
  · intro mended
    refine ⟨_, after, rfl, configuredBy_configured bundle s, rfl, ⟨?_, ?_⟩, mirroredAfter⟩
    · intro vid existing
      have present : roster.exist vid = true := by
        rw [← existing, holds.exist_eq, only.exist]
      rw [holds.label_eq]
      exact (labelAfter vid present).trans (mended vid present)
    · exact .inl ⟨settingsVlan bridge.toEnv s, isVlanIdValid_settingsVlan _ s, rfl⟩

/-- In a VLAN of the new trunks the label has to be right, or missing where the
next call adds it. -/
theorem mended_asked_iff
    {vid : Nat}
    {bit : Bool}
    {label : Option EncapType}
    (asked : (settingsTrunks bridge.toEnv s).getLsbD vid = true) :
    (if bit = (settingsTrunks bridge.toEnv s).getLsbD vid then label
        else participation (bundle.configured bridge.toEnv s) vid label) =
      (if (settingsTrunks bridge.toEnv s).getLsbD vid then
        some ((bundle.configured bridge.toEnv s).encapType vid) else none) ↔
      label = some ((bundle.configured bridge.toEnv s).encapType vid) ∨
        bit = false ∧ label = none := by
  rw [asked, if_pos rfl]
  cases bit with
  | true => simp
  | false =>
      cases label with
      | none => simp [participation, asked]
      | some encapType => simp [participation, asked]

/-- In the other VLANs no member may be left where the next call sees nothing to
do. -/
theorem mended_unasked_iff
    {vid : Nat}
    {bit : Bool}
    {label : Option EncapType}
    (unasked : (settingsTrunks bridge.toEnv s).getLsbD vid = false) :
    (if bit = (settingsTrunks bridge.toEnv s).getLsbD vid then label
        else participation (bundle.configured bridge.toEnv s) vid label) =
      (if (settingsTrunks bridge.toEnv s).getLsbD vid then
        some ((bundle.configured bridge.toEnv s).encapType vid) else none) ↔
      (bit = false → label = none) := by
  rw [unasked, if_neg Bool.false_ne_true]
  cases bit with
  | true => simp [participation, unasked]
  | false => simp

/-! ## Where the first call stops -/

/-- The configuration changes in a way that may change the tagging of VLANs. -/
def Bundle.reconfigures {count : Nat} (env : Env) (bundle : Bundle count)
    (s : Settings count) : Bool :=
  decide (bundle.oldVlan ≠ settingsVlan env s ∨ bundle.vlanMode ≠ s.vlanMode)

/-- The calls that take the interface out of the VLAN that the settings name. -/
def Bundle.newVlanCalls {count : Nat} (env : Env) (dev : Dev) (bundle : Bundle count)
    (s : Settings count) : Nat :=
  match bundle.trunks with
  | none => 0
  | some old =>
      if bundle.reconfigures env s then
        dropNewCalls env dev bundle.intfId (settingsVlan env s) old
      else 0

/-- The calls that take the interface out of the VLAN that the bundle names. -/
def Bundle.oldVlanCalls {count : Nat} (env : Env) (dev : Dev) (bundle : Bundle count)
    (s : Settings count) : Nat :=
  match bundle.trunks with
  | none => 0
  | some old =>
      if bundle.reconfigures env s then
        dropOldCalls env dev bundle.intfId (settingsVlan env s) bundle.oldVlan old
          (settingsTrunks env s)
      else 0

/-- A VLAN of the trunks that is not dropped because of its tagging. -/
def Bundle.keeps {count : Nat} (env : Env) (bundle : Bundle count) (s : Settings count)
    (vid : Nat) : Bool :=
  bundle.isTrunked vid && !bundle.retags env s vid

/-- The existing VLANs that the interface joins or leaves after the drops. -/
def changedVlans {count : Nat} (env : Env) (dev : Dev) (bundle : Bundle count)
    (s : Settings count) : List Nat :=
  (List.range count).filter fun vid =>
    vlanIsExisting env dev vid && ((settingsTrunks env s).getLsbD vid ^^ bundle.keeps env s vid)

/-- The calls after the drops: the frame type, the PVIDs and the VLANs. -/
def restCalls (bridge : Bridge) (dev : Dev) (bundle : Bundle bridge.vlanMaxCount)
    (s : Settings bridge.vlanMaxCount) : Nat :=
  1 + (pvidCalls (settingsVlan bridge.toEnv s) (bundle.ports.filterMap bridge.port?)
      dev.hw.ports +
    ((changedVlans bridge.toEnv dev bundle s).map fun vid =>
      if (settingsTrunks bridge.toEnv s).getLsbD vid then 1
      else removeCalls bridge.toEnv bundle.intfId).sum)

/-- The first call of the XDK that fails is one that the next update makes up
for. -/
structure Repairable (bridge : Bridge) (xdk : Xdk) (dev : Dev)
    (bundle : Bundle bridge.vlanMaxCount) (s : Settings bridge.vlanMaxCount) : Prop where
  newVlan : ¬ xdk.SucceedsFor dev.calls (bundle.newVlanCalls bridge.toEnv dev s) →
    (settingsTrunks bridge.toEnv s).getLsbD (settingsVlan bridge.toEnv s) = true ∧
      ∀ vid, vlanIsExisting bridge.toEnv dev vid = true → bundle.isTrunked vid = true →
        (settingsTrunks bridge.toEnv s).getLsbD vid = true →
          bundle.encapType vid = (bundle.configured bridge.toEnv s).encapType vid
  oldVlan : xdk.SucceedsFor dev.calls (bundle.newVlanCalls bridge.toEnv dev s) →
    ¬ xdk.SucceedsFor (dev.calls + bundle.newVlanCalls bridge.toEnv dev s)
        (bundle.oldVlanCalls bridge.toEnv dev s) →
      bundle.encapType bundle.oldVlan =
        (bundle.configured bridge.toEnv s).encapType bundle.oldVlan
  rest : xdk.SucceedsFor dev.calls (bundle.newVlanCalls bridge.toEnv dev s) →
    xdk.SucceedsFor (dev.calls + bundle.newVlanCalls bridge.toEnv dev s)
        (bundle.oldVlanCalls bridge.toEnv dev s) →
      ¬ xdk.SucceedsFor (dev.calls + bundle.newVlanCalls bridge.toEnv dev s +
          bundle.oldVlanCalls bridge.toEnv dev s) (restCalls bridge dev bundle s) →
        changedVlans bridge.toEnv dev bundle s = []

theorem trunksToCompare_completes
    (represents : Represents bridge.toEnv dev members)
    (enoughNew : xdk.SucceedsFor dev.calls (bundle.newVlanCalls bridge.toEnv dev s))
    (enoughOld : xdk.SucceedsFor (dev.calls + bundle.newVlanCalls bridge.toEnv dev s)
      (bundle.oldVlanCalls bridge.toEnv dev s)) :
    trunksToCompare bridge.toEnv xdk dev bundle s =
        trunksToCompare bridge.toEnv xdk.accepting dev bundle s ∧
      (trunksToCompare bridge.toEnv xdk dev bundle s).2.2.calls =
        dev.calls + bundle.newVlanCalls bridge.toEnv dev s +
          bundle.oldVlanCalls bridge.toEnv dev s := by
  unfold trunksToCompare
  cases trunks : bundle.trunks with
  | none =>
      refine ⟨rfl, ?_⟩
      simp [Bundle.newVlanCalls, Bundle.oldVlanCalls, trunks]
  | some old =>
      simp only [Bundle.newVlanCalls, Bundle.oldVlanCalls, trunks, Bundle.reconfigures,
        decide_eq_true_eq] at enoughNew enoughOld ⊢
      split
      · rename_i changes
        rw [if_pos changes] at enoughNew
        rw [if_pos changes, if_pos changes] at enoughOld
        obtain ⟨same, calls⟩ := dropRetagged_completes represents enoughNew enoughOld
        rw [← same]
        exact ⟨rfl, calls⟩
      · exact ⟨rfl, rfl⟩

/-- The update of a bundle that stops in the drops. -/
theorem bundleUpdateVlanConfig_of_stopped
    {errno : Errno}
    (stopped : trunksToCompare bridge.toEnv xdk dev bundle s =
      (some errno, some trunks, between)) :
    bundleUpdateVlanConfig bridge xdk dev bundle s =
      (some errno, bundle.midway bridge.toEnv s trunks, between) := by
  unfold bundleUpdateVlanConfig
  rw [stopped]
  rfl

theorem stops_newVlan
    (refused : ¬ xdk.SucceedsFor dev.calls (bundle.newVlanCalls bridge.toEnv dev s)) :
    ∃ old errno calls, bundle.trunks = some old ∧
      old.getLsbD (settingsVlan bridge.toEnv s) = true ∧
      vlanPortIsMember bridge.toEnv dev (settingsVlan bridge.toEnv s) bundle.intfId = true ∧
      bundleUpdateVlanConfig bridge xdk dev bundle s =
        (some errno, bundle.midway bridge.toEnv s
          (bitmapSet0 old (settingsVlan bridge.toEnv s)), { dev with calls := calls }) := by
  unfold Bundle.newVlanCalls at refused
  cases trunks : bundle.trunks with
  | none => exact absurd (by simp [trunks]) refused
  | some old =>
      simp only [trunks, Bundle.reconfigures, decide_eq_true_eq] at refused
      split at refused
      · rename_i changes
        obtain ⟨trunked, member, errno, calls, stopped⟩ := dropRetagged_stops_new refused
        refine ⟨old, errno, calls, rfl, trunked, member, ?_⟩
        apply bundleUpdateVlanConfig_of_stopped
        unfold trunksToCompare
        simp only [trunks]
        rw [if_pos changes, stopped]
      · exact absurd Xdk.succeedsFor_zero refused

theorem stops_oldVlan
    (represents : Represents bridge.toEnv dev members)
    (enoughNew : xdk.SucceedsFor dev.calls (bundle.newVlanCalls bridge.toEnv dev s))
    (refused : ¬ xdk.SucceedsFor (dev.calls + bundle.newVlanCalls bridge.toEnv dev s)
      (bundle.oldVlanCalls bridge.toEnv dev s)) :
    ∃ old errno kept after, bundle.trunks = some old ∧
      (settingsTrunks bridge.toEnv s).getLsbD bundle.oldVlan = true ∧
      (bundle.oldVlan = settingsVlan bridge.toEnv s →
        old.getLsbD (settingsVlan bridge.toEnv s) = false) ∧
      vlanPortIsMember bridge.toEnv dev bundle.oldVlan bundle.intfId = true ∧
      bundleUpdateVlanConfig bridge xdk dev bundle s =
        (some errno, bundle.midway bridge.toEnv s kept, after) ∧
      Represents bridge.toEnv after
        (if old.getLsbD (settingsVlan bridge.toEnv s) then
          members.leave (settingsVlan bridge.toEnv s) bundle.intfId else members) ∧
      ∀ vid, kept.getLsbD vid = (old.getLsbD vid &&
        decide (vid ≠ settingsVlan bridge.toEnv s) && decide (vid ≠ bundle.oldVlan)) := by
  cases trunks : bundle.trunks with
  | none => exact absurd (by simp [Bundle.oldVlanCalls, trunks]) refused
  | some old =>
      simp only [Bundle.newVlanCalls, Bundle.oldVlanCalls, trunks, Bundle.reconfigures,
        decide_eq_true_eq] at enoughNew refused
      split at enoughNew
      · rename_i changes
        rw [if_pos changes, if_pos changes] at refused
        obtain ⟨trunked, distinct, member, errno, kept, after, stopped, holds, bits⟩ :=
          dropRetagged_stops_old represents enoughNew refused
        refine ⟨old, errno, kept, after, rfl, trunked, distinct, member, ?_, holds, bits⟩
        apply bundleUpdateVlanConfig_of_stopped
        unfold trunksToCompare
        simp only [trunks]
        rw [if_pos changes, stopped]
      · rename_i unchanged
        rw [if_neg unchanged, if_neg unchanged] at refused
        exact absurd Xdk.succeedsFor_zero refused

theorem isTrunked_of_trunks
    {old : BitVec bridge.vlanMaxCount}
    (trunks : bundle.trunks = some old)
    (vid : Nat) :
    bundle.isTrunked vid = old.getLsbD vid := by
  rw [Bundle.isTrunked, trunks]
  rfl

/-- A VLAN that is kept and asked for has the tagging that is asked for. -/
theorem encapType_of_keeps
    {vid : Nat}
    (vlanKnown : bundle.trunks ≠ none → bundle.vlan = (bundle.oldVlan : Int))
    (kept : bundle.keeps bridge.toEnv s vid = true)
    (asked : (settingsTrunks bridge.toEnv s).getLsbD vid = true) :
    bundle.isTrunked vid = true ∧ bundle.retags bridge.toEnv s vid = false ∧
      (bundle.configured bridge.toEnv s).encapType vid = bundle.encapType vid := by
  obtain ⟨trunked, notRetagged⟩ := Bool.and_eq_true_iff.mp kept
  have notRetagged : bundle.retags bridge.toEnv s vid = false := by
    simpa using notRetagged
  have trunks : bundle.trunks ≠ none := by
    intro untrunked
    simp [Bundle.isTrunked, untrunked] at trunked
  exact ⟨trunked, notRetagged,
    encapType_configured (vlanKnown trunks) trunked asked notRetagged⟩

/-- Which memberships the next call mends after a stop at the new VLAN. -/
theorem repaired_newVlan_iff
    (accepts : accepting.Accepts)
    (mirrored : Mirrored bridge.toEnv dev)
    (represents : Represents bridge.toEnv dev members)
    (labels : ∀ vid, members.exist vid = true → members.label vid bundle.intfId =
      if bundle.isTrunked vid then some (bundle.encapType vid) else none)
    (refused : ¬ xdk.SucceedsFor dev.calls (bundle.newVlanCalls bridge.toEnv dev s)) :
    Repaired bridge xdk accepting dev bundle s ↔
      (settingsTrunks bridge.toEnv s).getLsbD (settingsVlan bridge.toEnv s) = true ∧
        ∀ vid, members.exist vid = true → bundle.isTrunked vid = true →
          (settingsTrunks bridge.toEnv s).getLsbD vid = true →
            bundle.encapType vid = (bundle.configured bridge.toEnv s).encapType vid := by
  obtain ⟨old, errno, calls, trunks, trunked, member, stopped⟩ := stops_newVlan refused
  rw [represents.isMember_eq] at member
  have present := Roster.exist_of_label member
  have isTrunked := isTrunked_of_trunks trunks
  rw [repaired_iff accepts mirrored stopped (represents.onHw dev.hw calls)]
  constructor
  · intro mended
    constructor
    · by_contra unasked
      rw [Bool.not_eq_true] at unasked
      have label := (mended_unasked_iff unasked).mp (mended _ present)
        (by rw [getLsbD_bitmapSet0]; simp)
      rw [labels _ present, isTrunked, trunked] at label
      cases label
    · intro vid exist wasTrunked asked
      have label := (mended_asked_iff asked).mp (mended vid exist)
      rw [labels vid exist, wasTrunked, if_pos rfl] at label
      rcases label with same | ⟨_, missing⟩
      · exact Option.some.inj same
      · cases missing
  · rintro ⟨newAsked, sameTagging⟩ vid exist
    rw [labels vid exist]
    rcases Bool.eq_false_or_eq_true ((settingsTrunks bridge.toEnv s).getLsbD vid)
      with asked | unasked
    · apply (mended_asked_iff asked).mpr
      cases wasTrunked : bundle.isTrunked vid with
      | true => exact .inl (congrArg some (sameTagging vid exist wasTrunked asked))
      | false =>
          rw [isTrunked] at wasTrunked
          exact .inr ⟨by rw [getLsbD_bitmapSet0, wasTrunked]; rfl, rfl⟩
    · apply (mended_unasked_iff unasked).mpr
      intro unset
      have other : vid ≠ settingsVlan bridge.toEnv s := by
        rintro rfl
        rw [newAsked] at unasked
        cases unasked
      have wasUntrunked : old.getLsbD vid = false := by
        simpa [getLsbD_bitmapSet0, other] using unset
      rw [isTrunked, wasUntrunked]
      rfl

/-- Which memberships the next call mends after a stop at the old VLAN. -/
theorem repaired_oldVlan_iff
    (accepts : accepting.Accepts)
    (mirrored : Mirrored bridge.toEnv dev)
    (represents : Represents bridge.toEnv dev members)
    (labels : ∀ vid, members.exist vid = true → members.label vid bundle.intfId =
      if bundle.isTrunked vid then some (bundle.encapType vid) else none)
    (vlanKnown : bundle.trunks ≠ none → bundle.vlan = (bundle.oldVlan : Int))
    (enoughNew : xdk.SucceedsFor dev.calls (bundle.newVlanCalls bridge.toEnv dev s))
    (refused : ¬ xdk.SucceedsFor (dev.calls + bundle.newVlanCalls bridge.toEnv dev s)
      (bundle.oldVlanCalls bridge.toEnv dev s)) :
    Repaired bridge xdk accepting dev bundle s ↔
      bundle.encapType bundle.oldVlan =
        (bundle.configured bridge.toEnv s).encapType bundle.oldVlan := by
  obtain ⟨old, errno, kept, after, trunks, oldAsked, distinct, member, stopped, holds, bits⟩ :=
    stops_oldVlan represents enoughNew refused
  have isTrunked := isTrunked_of_trunks trunks
  rw [represents.isMember_eq] at member
  have present := Roster.exist_of_label member
  have wasTrunked : bundle.isTrunked bundle.oldVlan = true := by
    by_contra untrunked
    rw [labels _ present, if_neg untrunked] at member
    cases member
  have different : bundle.oldVlan ≠ settingsVlan bridge.toEnv s := by
    intro same
    have untrunked := distinct same
    rw [← same, ← isTrunked, wasTrunked] at untrunked
    cases untrunked
  have sameExist : (if old.getLsbD (settingsVlan bridge.toEnv s) then
      members.leave (settingsVlan bridge.toEnv s) bundle.intfId else members).exist =
        members.exist := by
    split <;> rfl
  have labelOther : ∀ vid, vid ≠ settingsVlan bridge.toEnv s →
      (if old.getLsbD (settingsVlan bridge.toEnv s) then
        members.leave (settingsVlan bridge.toEnv s) bundle.intfId else members).label vid
          bundle.intfId = members.label vid bundle.intfId := by
    intro vid other
    split
    · exact Roster.leave_label_of_ne (.inl other)
    · rfl
  rw [repaired_iff accepts mirrored stopped holds, sameExist]
  constructor
  · intro mended
    have label := (mended_asked_iff oldAsked).mp (mended _ present)
    rw [labelOther _ different, labels _ present, wasTrunked, if_pos rfl] at label
    rcases label with same | ⟨_, missing⟩
    · exact Option.some.inj same
    · cases missing
  · intro sameTagging vid exist
    by_cases isNew : vid = settingsVlan bridge.toEnv s
    · subst isNew
      have bit : kept.getLsbD (settingsVlan bridge.toEnv s) = false := by simp [bits]
      have missing : (if old.getLsbD (settingsVlan bridge.toEnv s) then
          members.leave (settingsVlan bridge.toEnv s) bundle.intfId else members).label
            (settingsVlan bridge.toEnv s) bundle.intfId = none := by
        split
        · exact Roster.leave_label_self
        · rename_i untrunked
          rw [labels _ exist, isTrunked, if_neg untrunked]
      rw [missing]
      rcases Bool.eq_false_or_eq_true ((settingsTrunks bridge.toEnv s).getLsbD
          (settingsVlan bridge.toEnv s)) with asked | unasked
      · exact (mended_asked_iff asked).mpr (.inr ⟨bit, rfl⟩)
      · exact (mended_unasked_iff unasked).mpr fun _ => rfl
    · rw [labelOther vid isNew, labels vid exist]
      by_cases isOld : vid = bundle.oldVlan
      · subst isOld
        rw [wasTrunked, if_pos rfl]
        exact (mended_asked_iff oldAsked).mpr (.inl (congrArg some sameTagging))
      · have bit : kept.getLsbD vid = bundle.isTrunked vid := by
          simp [bits, isTrunked, isNew, isOld]
        have oldTagged : bundle.encapType vid = .tagged := by
          have known := vlanKnown (by simp [trunks])
          exact if_pos (.inl (by rw [known]; omega))
        have newTagged : (bundle.configured bridge.toEnv s).encapType vid = .tagged := by
          have vlan : (bundle.configured bridge.toEnv s).vlan =
            (settingsVlan bridge.toEnv s : Int) := rfl
          exact if_pos (.inl (by rw [vlan]; omega))
        rw [bit]
        rcases Bool.eq_false_or_eq_true ((settingsTrunks bridge.toEnv s).getLsbD vid)
          with asked | unasked
        · apply (mended_asked_iff asked).mpr
          cases bundle.isTrunked vid with
          | true => exact .inl (by rw [if_pos rfl, oldTagged, newTagged])
          | false => exact .inr ⟨rfl, rfl⟩
        · apply (mended_unasked_iff unasked).mpr
          intro untrunked
          rw [untrunked]
          rfl

/-- A call that is not interrupted has nothing left to repair. -/
theorem repaired_of_completed
    (accepts : accepting.Accepts)
    (mirrored : Mirrored bridge.toEnv dev)
    (represents : Represents bridge.toEnv dev members)
    (labels : ∀ vid, members.exist vid = true → members.label vid bundle.intfId =
      if bundle.isTrunked vid then some (bundle.encapType vid) else none)
    (vlanKnown : bundle.trunks ≠ none → bundle.vlan = (bundle.oldVlan : Int))
    (completed : bundleUpdateVlanConfig bridge xdk dev bundle s =
      bundleUpdateVlanConfig bridge xdk.accepting dev bundle s) :
    Repaired bridge xdk accepting dev bundle s := by
  obtain ⟨after, roster, equation, holds, only, effect⟩ :=
    bundleUpdateVlanConfig_spec represents xdk.accepting_accepts bundle s
  apply (repaired_iff accepts mirrored (completed.trans equation) holds).mpr
  intro vid exist
  rw [only.exist] at exist
  have member : (members.label vid bundle.intfId).isSome = bundle.isTrunked vid := by
    rw [labels vid exist]
    split
    · rename_i trunked
      rw [trunked]
      rfl
    · rename_i untrunked
      rw [Bool.not_eq_true] at untrunked
      rw [untrunked]
      rfl
  rw [if_pos rfl, label_after_update member (effect vid exist)]
  cases asked : (settingsTrunks bridge.toEnv s).getLsbD vid with
  | false => rfl
  | true =>
      simp only [if_true]
      split
      · rename_i kept
        obtain ⟨trunked, _, sameTagging⟩ := encapType_of_keeps vlanKnown kept asked
        rw [labels vid exist, trunked, if_pos rfl, sameTagging]
      · rfl

/-- The calls for the VLANs that change are those counted at the start. -/
theorem participationCalls_changedVlans
    {trunksDiff : BitVec bridge.vlanMaxCount}
    (represents : Represents bridge.toEnv between roster)
    (existing : ∀ vid, roster.exist vid = vlanIsExisting bridge.toEnv dev vid)
    (member : ∀ vid, roster.exist vid = true →
      (roster.label vid bundle.intfId).isSome = bundle.keeps bridge.toEnv s vid)
    (bits : ∀ vid, trunksDiff.getLsbD vid =
      ((settingsTrunks bridge.toEnv s).getLsbD vid ^^ bundle.keeps bridge.toEnv s vid)) :
    participationCalls bridge.toEnv between (bundle.configured bridge.toEnv s)
        (bitmapOnes trunksDiff) =
      ((changedVlans bridge.toEnv dev bundle s).map fun vid =>
        if (settingsTrunks bridge.toEnv s).getLsbD vid then 1
        else removeCalls bridge.toEnv bundle.intfId).sum := by
  unfold bitmapOnes changedVlans
  induction List.range bridge.vlanMaxCount with
  | nil => rfl
  | cons vid vids inductionHypothesis =>
      rw [List.filter_cons, List.filter_cons, bits, ← existing]
      cases changes : ((settingsTrunks bridge.toEnv s).getLsbD vid ^^
          bundle.keeps bridge.toEnv s vid) with
      | false => simpa using inductionHypothesis
      | true =>
          rw [if_pos rfl, participationCalls, represents.exist_eq, inductionHypothesis]
          cases present : roster.exist vid with
          | false => simp
          | true =>
              have isMember : vlanPortIsMember bridge.toEnv between vid
                  (bundle.configured bridge.toEnv s).intfId = bundle.keeps bridge.toEnv s vid :=
                (represents.isMember_eq vid bundle.intfId).trans (member vid present)
              simp only [if_true, Bool.true_and, List.map_cons, List.sum_cons,
                participateCalls, isTrunked_configured, joinCalls, leaveCalls, isMember]
              cases asked : (settingsTrunks bridge.toEnv s).getLsbD vid with
              | true =>
                  have dropped : bundle.keeps bridge.toEnv s vid = false := by
                    simpa [asked] using changes
                  simp [dropped]
              | false =>
                  have kept : bundle.keeps bridge.toEnv s vid = true := by
                    simpa [asked] using changes
                  simp [kept, Bundle.configured]

/-- The state after the drops. -/
structure Dropped (bridge : Bridge) (dev : Dev) (bundle : Bundle bridge.vlanMaxCount)
    (s : Settings bridge.vlanMaxCount) (members : VlanRoster)
    (oldTrunks : Option (BitVec bridge.vlanMaxCount)) (between : Dev)
    (roster : VlanRoster) : Prop where
  represents : Represents bridge.toEnv between roster
  exist : roster.exist = members.exist
  bits : ∀ vid, oldTrunks.any (·.getLsbD vid) = bundle.keeps bridge.toEnv s vid
  label : ∀ vid, roster.label vid bundle.intfId =
    if bundle.retags bridge.toEnv s vid then none else members.label vid bundle.intfId
  ports : between.hw.ports = dev.hw.ports
  calls : between.calls = dev.calls + bundle.newVlanCalls bridge.toEnv dev s +
    bundle.oldVlanCalls bridge.toEnv dev s

theorem dropped_of_succeeds
    (represents : Represents bridge.toEnv dev members)
    (enoughNew : xdk.SucceedsFor dev.calls (bundle.newVlanCalls bridge.toEnv dev s))
    (enoughOld : xdk.SucceedsFor (dev.calls + bundle.newVlanCalls bridge.toEnv dev s)
      (bundle.oldVlanCalls bridge.toEnv dev s)) :
    ∃ oldTrunks between roster,
      trunksToCompare bridge.toEnv xdk dev bundle s = (none, oldTrunks, between) ∧
      trunksToCompare bridge.toEnv xdk.accepting dev bundle s =
        (none, oldTrunks, between) ∧
      Dropped bridge dev bundle s members oldTrunks between roster := by
  obtain ⟨same, calls⟩ := trunksToCompare_completes represents enoughNew enoughOld
  obtain ⟨oldTrunks, between, roster, equation, holds, only, effect⟩ :=
    trunksToCompare_spec represents xdk.accepting_accepts bundle s
  have ports := (@trunksToCompare_samePorts _ bridge.toEnv xdk dev bundle s).ports
  rw [same, equation] at calls ports
  exact ⟨oldTrunks, between, roster, same.trans equation, equation, holds, only.exist,
    fun vid => (effect vid).1, fun vid => (effect vid).2, ports, calls⟩

theorem isSome_asked {vid : Nat} :
    (if (settingsTrunks bridge.toEnv s).getLsbD vid then
      some ((bundle.configured bridge.toEnv s).encapType vid) else none).isSome =
        (settingsTrunks bridge.toEnv s).getLsbD vid := by
  cases (settingsTrunks bridge.toEnv s).getLsbD vid <;> rfl

namespace Dropped

variable {oldTrunks : Option (BitVec bridge.vlanMaxCount)}

/-- After the drops the interface is in the VLANs that are kept. -/
theorem member
    (dropped : Dropped bridge dev bundle s members oldTrunks between roster)
    (labels : ∀ vid, members.exist vid = true → members.label vid bundle.intfId =
      if bundle.isTrunked vid then some (bundle.encapType vid) else none)
    {vid : Nat}
    (present : roster.exist vid = true) :
    (roster.label vid bundle.intfId).isSome = bundle.keeps bridge.toEnv s vid := by
  rw [dropped.exist] at present
  rw [dropped.label, labels vid present, Bundle.keeps]
  cases bundle.retags bridge.toEnv s vid <;> cases bundle.isTrunked vid <;> rfl

theorem bits_xor
    (dropped : Dropped bridge dev bundle s members oldTrunks between roster)
    (vid : Nat) :
    (vlanBitmapXor (settingsTrunks bridge.toEnv s) oldTrunks).getLsbD vid =
      ((settingsTrunks bridge.toEnv s).getLsbD vid ^^ bundle.keeps bridge.toEnv s vid) := by
  rw [← dropped.bits]
  cases oldTrunks with
  | none => simp [vlanBitmapXor]
  | some old => simp [vlanBitmapXor]

/-- The calls that follow are those counted at the start. -/
theorem applyCalls_eq
    (dropped : Dropped bridge dev bundle s members oldTrunks between roster)
    (represents : Represents bridge.toEnv dev members)
    (labels : ∀ vid, members.exist vid = true → members.label vid bundle.intfId =
      if bundle.isTrunked vid then some (bundle.encapType vid) else none) :
    applyCalls bridge.toEnv between (bundle.configured bridge.toEnv s)
        (bundle.ports.filterMap bridge.port?)
        (vlanBitmapXor (settingsTrunks bridge.toEnv s) oldTrunks) =
      restCalls bridge dev bundle s := by
  have existing : ∀ vid, roster.exist vid = vlanIsExisting bridge.toEnv dev vid := by
    intro vid
    rw [dropped.exist, represents.exist_eq]
  have vlan : xpsVlan (bundle.configured bridge.toEnv s).vlan =
      settingsVlan bridge.toEnv s := xpsVlan_natCast (settingsVlan_lt bridge.toEnv s)
  rw [applyCalls, vlan, dropped.ports, participationCalls_changedVlans dropped.represents
    existing (fun vid present => dropped.member labels present) dropped.bits_xor]
  rfl

/-- The memberships after the drops are those asked for when nothing is left to
change. -/
theorem settled_iff
    (dropped : Dropped bridge dev bundle s members oldTrunks between roster)
    (labels : ∀ vid, members.exist vid = true → members.label vid bundle.intfId =
      if bundle.isTrunked vid then some (bundle.encapType vid) else none)
    (vlanKnown : bundle.trunks ≠ none → bundle.vlan = (bundle.oldVlan : Int)) :
    (∀ vid, roster.exist vid = true → roster.label vid bundle.intfId =
        if (settingsTrunks bridge.toEnv s).getLsbD vid then
          some ((bundle.configured bridge.toEnv s).encapType vid) else none) ↔
      ∀ vid, members.exist vid = true →
        (settingsTrunks bridge.toEnv s).getLsbD vid = bundle.keeps bridge.toEnv s vid := by
  constructor
  · intro mended vid present
    rw [← dropped.exist] at present
    rw [← isSome_asked, ← mended vid present, dropped.member labels present]
  · intro same vid present
    have member := dropped.member labels present
    rw [dropped.exist] at present
    rw [← same vid present] at member
    cases asked : (settingsTrunks bridge.toEnv s).getLsbD vid with
    | false =>
        rw [asked, Option.isSome_eq_false_iff, Option.isNone_iff_eq_none] at member
        exact member
    | true =>
        have kept : bundle.keeps bridge.toEnv s vid = true := by
          rw [← same vid present, asked]
        obtain ⟨trunked, notRetagged, sameTagging⟩ :=
          encapType_of_keeps vlanKnown kept asked
        rw [dropped.label, notRetagged, labels vid present, trunked, sameTagging]
        rfl

end Dropped

theorem changedVlans_eq_nil_iff
    (represents : Represents bridge.toEnv dev members) :
    changedVlans bridge.toEnv dev bundle s = [] ↔
      ∀ vid, members.exist vid = true →
        (settingsTrunks bridge.toEnv s).getLsbD vid = bundle.keeps bridge.toEnv s vid := by
  unfold changedVlans
  rw [List.filter_eq_nil_iff]
  constructor
  · intro unchanged vid present
    by_cases inside : vid < bridge.vlanMaxCount
    · have same := unchanged vid (List.mem_range.mpr inside)
      rw [represents.exist_eq, present] at same
      simpa using same
    · have beyond : bridge.vlanMaxCount ≤ vid := not_lt.mp inside
      rw [BitVec.getLsbD_of_ge _ _ beyond]
      cases trunks : bundle.trunks with
      | none => simp [Bundle.keeps, Bundle.isTrunked, trunks]
      | some old =>
          simp [Bundle.keeps, Bundle.isTrunked, trunks, BitVec.getLsbD_of_ge _ _ beyond]
  · intro same vid _
    rw [represents.exist_eq]
    cases present : members.exist vid with
    | false => simp
    | true => simp [same vid present]

/-- The update after the drops, when the rest of its calls succeed or when the
bitmaps are equal. -/
theorem completed_of_dropped
    {oldTrunks : Option (BitVec bridge.vlanMaxCount)}
    (own : trunksToCompare bridge.toEnv xdk dev bundle s = (none, oldTrunks, between))
    (accepted : trunksToCompare bridge.toEnv xdk.accepting dev bundle s =
      (none, oldTrunks, between))
    (enough : (some (settingsTrunks bridge.toEnv s) ≠ oldTrunks ∨
        (bundle.isLag && bundle.portsUpdated) = true) →
      xdk.SucceedsFor between.calls (applyCalls bridge.toEnv between
        (bundle.configured bridge.toEnv s) (bundle.ports.filterMap bridge.port?)
        (vlanBitmapXor (settingsTrunks bridge.toEnv s) oldTrunks))) :
    bundleUpdateVlanConfig bridge xdk dev bundle s =
      bundleUpdateVlanConfig bridge xdk.accepting dev bundle s := by
  unfold bundleUpdateVlanConfig
  rw [own, accepted]
  simp only
  split
  · rename_i differs
    have same := applyTrunks_completes (settingsFrameType s) (enough differs)
    simp only [Bundle.configured] at same
    rw [same]
  · rfl

/-- Which memberships the next call mends after a stop behind the drops: none,
so there must have been none to change. -/
theorem repaired_rest_iff
    (accepts : accepting.Accepts)
    (mirrored : Mirrored bridge.toEnv dev)
    (represents : Represents bridge.toEnv dev members)
    (labels : ∀ vid, members.exist vid = true → members.label vid bundle.intfId =
      if bundle.isTrunked vid then some (bundle.encapType vid) else none)
    (vlanKnown : bundle.trunks ≠ none → bundle.vlan = (bundle.oldVlan : Int))
    (enoughNew : xdk.SucceedsFor dev.calls (bundle.newVlanCalls bridge.toEnv dev s))
    (enoughOld : xdk.SucceedsFor (dev.calls + bundle.newVlanCalls bridge.toEnv dev s)
      (bundle.oldVlanCalls bridge.toEnv dev s))
    (refused : ¬ xdk.SucceedsFor (dev.calls + bundle.newVlanCalls bridge.toEnv dev s +
      bundle.oldVlanCalls bridge.toEnv dev s) (restCalls bridge dev bundle s)) :
    Repaired bridge xdk accepting dev bundle s ↔
      changedVlans bridge.toEnv dev bundle s = [] := by
  obtain ⟨oldTrunks, between, roster, own, accepted, dropped⟩ :=
    dropped_of_succeeds represents enoughNew enoughOld
  rw [changedVlans_eq_nil_iff represents]
  rw [← dropped.applyCalls_eq represents labels, ← dropped.calls] at refused
  by_cases differs : some (settingsTrunks bridge.toEnv s) ≠ oldTrunks ∨
      (bundle.isLag && bundle.portsUpdated) = true
  · obtain ⟨errno, after, final, stopped, holds, exist, outcome⟩ :=
      applyTrunks_stops (settingsFrameType s) dropped.represents refused
    have update : bundleUpdateVlanConfig bridge xdk dev bundle s =
        (some errno, bundle.midway bridge.toEnv s (settingsTrunks bridge.toEnv s), after) := by
      unfold bundleUpdateVlanConfig
      rw [own]
      simp only [Bundle.configured] at stopped
      simp only [if_pos differs, stopped]
      rfl
    rw [repaired_iff accepts mirrored update holds]
    simp only [if_true]
    rcases outcome with rfl | ⟨vid, present, stuck, differs⟩
    · exact dropped.settled_iff labels vlanKnown
    · refine iff_of_false ?_ ?_
      · intro mended
        apply stuck
        rw [← exist] at present
        have label := congrArg Option.isSome (mended vid present)
        exact label.trans isSome_asked
      · intro same
        apply differs
        have member := dropped.member labels present
        rw [dropped.exist] at present
        exact member.trans (same vid present).symm
  · rw [not_or, not_not] at differs
    have completed := completed_of_dropped own accepted fun other => by
      rcases other with different | updated
      · exact absurd differs.1 different
      · exact absurd updated differs.2
    refine iff_of_true
      (repaired_of_completed accepts mirrored represents labels vlanKnown completed) ?_
    intro vid _
    rw [← dropped.bits, ← differs.1]
    rfl

/-- After an interrupted update of a coherent bundle, the next one leads to the
configuration of the settings if and only if the first call that failed is one
that it makes up for. -/
theorem repaired_iff_repairable
    (accepts : accepting.Accepts)
    (wellFormed : TableWellFormed bridge.toEnv dev)
    (mirrored : Mirrored bridge.toEnv dev)
    (participates : Participates bridge.toEnv dev bundle) :
    Repaired bridge xdk accepting dev bundle s ↔ Repairable bridge xdk dev bundle s := by
  have represents := wellFormed.represents
  have labels : ∀ vid, (roster bridge.toEnv dev).exist vid = true →
      (roster bridge.toEnv dev).label vid bundle.intfId =
        if bundle.isTrunked vid then some (bundle.encapType vid) else none :=
    participates.encapType
  have vlanKnown : bundle.trunks ≠ none → bundle.vlan = (bundle.oldVlan : Int) :=
    vlanKnown_of_valid participates.vlan
  by_cases enoughNew : xdk.SucceedsFor dev.calls (bundle.newVlanCalls bridge.toEnv dev s)
  · by_cases enoughOld : xdk.SucceedsFor
        (dev.calls + bundle.newVlanCalls bridge.toEnv dev s)
        (bundle.oldVlanCalls bridge.toEnv dev s)
    · by_cases enoughRest : xdk.SucceedsFor
          (dev.calls + bundle.newVlanCalls bridge.toEnv dev s +
            bundle.oldVlanCalls bridge.toEnv dev s) (restCalls bridge dev bundle s)
      · obtain ⟨oldTrunks, between, after, own, accepted, dropped⟩ :=
          dropped_of_succeeds represents enoughNew enoughOld
        have completed := completed_of_dropped own accepted fun _ => by
          rw [dropped.applyCalls_eq represents labels, dropped.calls]
          exact enoughRest
        refine iff_of_true
          (repaired_of_completed accepts mirrored represents labels vlanKnown completed) ?_
        exact ⟨fun refused => absurd enoughNew refused,
          fun _ refused => absurd enoughOld refused,
          fun _ _ refused => absurd enoughRest refused⟩
      · rw [repaired_rest_iff accepts mirrored represents labels vlanKnown enoughNew
          enoughOld enoughRest]
        constructor
        · intro unchanged
          exact ⟨fun refused => absurd enoughNew refused,
            fun _ refused => absurd enoughOld refused, fun _ _ _ => unchanged⟩
        · intro repairable
          exact repairable.rest enoughNew enoughOld enoughRest
    · rw [repaired_oldVlan_iff accepts mirrored represents labels vlanKnown enoughNew
        enoughOld]
      constructor
      · intro sameTagging
        exact ⟨fun refused => absurd enoughNew refused, fun _ _ => sameTagging,
          fun _ enough => absurd enough enoughOld⟩
      · intro repairable
        exact repairable.oldVlan enoughNew enoughOld
  · rw [repaired_newVlan_iff accepts mirrored represents labels enoughNew]
    constructor
    · intro mended
      exact ⟨fun _ => mended, fun enough => absurd enough enoughNew,
        fun enough => absurd enough enoughNew⟩
    · intro repairable
      exact repairable.newVlan enoughNew

end Retry

/-! ## A frame type that is refused -/

/-- The device of a bridge where only the default VLAN exists. -/
def plainDev : Dev := (sampleOfproto (sampleBridge 7 8)).dev

/-- A new bundle of the first port. -/
def plainBundle : Bundle 4096 :=
  { Bundle.new (sampleBridge 7 8) 0 1 "1" with intfId := 7, ports := [1] }

/-- The port becomes an access port of the default VLAN. -/
def accessSettings : Settings 4096 :=
  { trunkSettings "1" [1] false 1 with vlanMode := .access, vlan := 1 }

/-- The XDK refuses its first call. -/
def refusingXdk : Xdk := ⟨(· ≠ 0), fun _ => 100⟩

theorem tableWellFormed_plainDev : TableWellFormed sampleEnv plainDev where
  nodup _ := List.nodup_nil
  dormant _ _ := rfl

theorem mirrored_plainDev : Mirrored sampleEnv plainDev := by
  intro vid _
  by_cases same : vid = defaultVlanId
  · subst same
    exact ⟨rfl, List.Perm.refl _, List.nodup_nil⟩
  · refine ⟨?_, ?_, List.nodup_nil⟩
    · simp [plainDev, sampleOfproto, same]
    · simp [plainDev, sampleOfproto, same]

theorem participates_plainBundle : Participates sampleEnv plainDev plainBundle where
  encapType vid existing := by
    rw [vlanMemberLookup, if_pos existing]
    rfl
  vlan := .inr ⟨rfl, rfl⟩

/-- The device with VLAN 5, of which the port is a tagged member. -/
def trunkDev : Dev :=
  { plainDev with
    table := fun vid => if vid = 5 then ⟨true, [⟨7, .tagged⟩]⟩ else plainDev.table vid
    hw := { plainDev.hw with
      vlans := fun vid => if vid = 5 then some [⟨7, .tagged⟩] else plainDev.hw.vlans vid } }

/-- The bundle of the port, a trunk with VLAN 5. -/
def trunkBundle : Bundle 4096 :=
  { plainBundle with vlan := 1, vlanMode := .trunk, trunks := some (BitVec.twoPow 4096 5) }

/-- VLAN 5 becomes the native VLAN of the port and stays tagged. -/
def taggedSettings : Settings 4096 :=
  { trunkSettings "1" [1] false 5 with vlanMode := .nativeTagged, vlan := 5 }

theorem tableWellFormed_trunkDev : TableWellFormed sampleEnv trunkDev where
  nodup vid := by
    by_cases same : vid = 5
    · subst same
      decide
    · simp only [trunkDev, if_neg same]
      exact tableWellFormed_plainDev.nodup vid
  dormant vid := by
    by_cases same : vid = 5
    · subst same
      decide
    · simp only [trunkDev, vlanIsExisting, if_neg same]
      exact tableWellFormed_plainDev.dormant vid

theorem mirrored_trunkDev : Mirrored sampleEnv trunkDev := by
  intro vid valid
  by_cases same : vid = 5
  · subst same
    exact ⟨rfl, List.Perm.refl _, by decide⟩
  · simp only [trunkDev, if_neg same]
    exact mirrored_plainDev vid valid

theorem isTrunked_trunkBundle (vid : Nat) : trunkBundle.isTrunked vid = decide (vid = 5) := by
  by_cases same : vid = 5 <;>
    simp [Bundle.isTrunked, trunkBundle, BitVec.getLsbD_twoPow, same, eq_comm]

theorem participates_trunkBundle : Participates sampleEnv trunkDev trunkBundle where
  encapType vid existing := by
    rw [vlanMemberLookup, if_pos existing, isTrunked_trunkBundle]
    by_cases same : vid = 5
    · subst same
      decide
    · simp [trunkDev, plainDev, sampleOfproto, same]
  vlan := .inl ⟨1, rfl, rfl⟩

/-- The XDK refuses to take the port out of VLAN 5, and the retry finishes the
update. -/
theorem repaired_taggedSettings :
    (bundleUpdateVlanConfig (sampleBridge 7 8) refusingXdk trunkDev trunkBundle
      taggedSettings).1 = some .EPERM ∧
    Repaired (sampleBridge 7 8) refusingXdk (sampleXdk 100) trunkDev trunkBundle
      taggedSettings := by
  have refused : ¬ refusingXdk.SucceedsFor trunkDev.calls
      (trunkBundle.newVlanCalls (sampleBridge 7 8).toEnv trunkDev taggedSettings) := by
    decide +kernel
  refine ⟨by decide +kernel, (@repaired_iff_repairable (sampleBridge 7 8) refusingXdk
    (sampleXdk 100) trunkDev trunkBundle taggedSettings (fun _ => rfl)
    tableWellFormed_trunkDev mirrored_trunkDev participates_trunkBundle).mpr
    ⟨fun _ => ⟨by decide +kernel, ?_⟩, fun enough => absurd enough refused,
      fun enough => absurd enough refused⟩⟩
  intro vid _ trunked _
  rw [isTrunked_trunkBundle, decide_eq_true_iff] at trunked
  subst trunked
  decide +kernel

/-- The update stops at the frame type. -/
def refusedUpdate : Option Errno × Bundle 4096 × Dev :=
  bundleUpdateVlanConfig (sampleBridge 7 8) refusingXdk plainDev plainBundle accessSettings

/-- The next update with the same settings. -/
def nextUpdate : Option Errno × Bundle 4096 × Dev :=
  bundleUpdateVlanConfig (sampleBridge 7 8) (sampleXdk 100) refusedUpdate.2.2
    refusedUpdate.2.1 accessSettings

/-- The frame type is refused.  The next call finds nothing to do, and the port
stays out of its VLAN. -/
theorem not_repaired_accessSettings :
    TableWellFormed sampleEnv plainDev ∧ Mirrored sampleEnv plainDev ∧
      Participates sampleEnv plainDev plainBundle ∧
      ¬ Repaired (sampleBridge 7 8) refusingXdk (sampleXdk 100) plainDev plainBundle
        accessSettings := by
  refine ⟨tableWellFormed_plainDev, mirrored_plainDev, participates_plainBundle, ?_⟩
  rintro ⟨changed, after, equation, _, _, participates, _⟩
  change nextUpdate = (none, changed, after) at equation
  have existing : vlanIsExisting sampleEnv nextUpdate.2.2 1 = true := by decide +kernel
  have missing : vlanMemberLookup sampleEnv nextUpdate.2.2 1 nextUpdate.2.1.intfId = none := by
    decide +kernel
  have trunked : nextUpdate.2.1.isTrunked 1 = true := by decide +kernel
  rw [equation] at existing missing trunked
  have label := participates.encapType 1 existing
  rw [missing, trunked] at label
  cases label

end Bundles
end XpliantSwitchd
