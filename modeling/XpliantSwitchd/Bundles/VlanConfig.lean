import XpliantSwitchd.Bundles.Defs

/-!
# The VLAN configuration of a bundle

`bundle_update_vlan_config` works on the difference of two bitmaps, after it has
taken the VLANs whose tagging changes out of the old one.  While the XDK accepts
every call, its effect is described here for each VLAN on its own.
-/

namespace XpliantSwitchd
namespace Bundles

open Vlans

variable {count : Nat} {env : Env} {xdk : Xdk} {dev : Dev} {members : VlanRoster}

theorem getLsbD_bitmapSet0 (bitmap : BitVec count) (offset position : Nat) :
    (bitmapSet0 bitmap offset).getLsbD position =
      (bitmap.getLsbD position && decide (position ≠ offset)) := by
  by_cases inside : position < count
  · by_cases same : offset = position
    · simp [bitmapSet0, inside, same]
    · simp [bitmapSet0, inside, Ne.symm same]
  · have beyond : count ≤ position := not_lt.mp inside
    simp [bitmapSet0, BitVec.getLsbD_of_ge _ _ beyond]

theorem getLsbD_bitmapSet1 (bitmap : BitVec count) {offset : Nat} (position : Nat)
    (inside : offset < count) :
    (bitmapSet1 bitmap offset).getLsbD position =
      (bitmap.getLsbD position || decide (position = offset)) := by
  simp [bitmapSet1, inside, eq_comm]

theorem mem_bitmapOnes {bitmap : BitVec count} {position : Nat} :
    position ∈ bitmapOnes bitmap ↔ bitmap.getLsbD position = true := by
  simp only [bitmapOnes, List.mem_filter, List.mem_range, and_iff_right_iff_imp]
  intro isSet
  by_contra beyond
  rw [BitVec.getLsbD_of_ge _ _ (not_lt.mp beyond)] at isSet
  contradiction

theorem nodup_bitmapOnes (bitmap : BitVec count) : (bitmapOnes bitmap).Nodup :=
  List.nodup_range.filter _

/-- A change of the memberships of one interface. -/
structure OnlyIntf (intfId : Nat) (before after : VlanRoster) : Prop where
  exist : after.exist = before.exist
  others : ∀ vid peer, peer ≠ intfId → after.label vid peer = before.label vid peer

namespace OnlyIntf

variable {intfId : Nat} {first second third : VlanRoster}

theorem refl (roster : VlanRoster) : OnlyIntf intfId roster roster :=
  ⟨rfl, fun _ _ _ => rfl⟩

theorem trans
    (left : OnlyIntf intfId first second)
    (right : OnlyIntf intfId second third) :
    OnlyIntf intfId first third where
  exist := right.exist.trans left.exist
  others vid peer different :=
    (right.others vid peer different).trans (left.others vid peer different)

theorem leave (vid : Nat) : OnlyIntf intfId members (members.leave vid intfId) where
  exist := rfl
  others _ _ different := Roster.leave_label_of_ne (.inr different)

theorem join (vid : Nat) (encapType : EncapType) :
    OnlyIntf intfId members (members.join vid intfId encapType) where
  exist := rfl
  others _ _ different := Roster.join_label_of_ne (.inr different)

end OnlyIntf

/-! ## The steps -/

theorem dropVlan_spec
    (represents : Represents env dev members)
    (accepts : xdk.Accepts)
    (intfId vid : Nat)
    (trunks : BitVec count) :
    ∃ after, dropVlan env xdk dev intfId vid trunks =
        (none, bitmapSet0 trunks vid, after) ∧
      Represents env after (members.leave vid intfId) := by
  unfold dropVlan
  simp only
  rw [represents.exist_eq]
  cases present : members.exist vid with
  | false =>
      rw [Roster.leave_of_absent (members.closed vid present intfId)]
      exact ⟨dev, rfl, represents⟩
  | true =>
      obtain ⟨left, code⟩ := represents.memberRemove accepts vid intfId
      rw [present, if_pos rfl] at code
      exact ⟨_, by rw [if_pos rfl, code], left⟩

/-- The VLANs that are dropped because their tagging may change. -/
def isRetagged (vlan oldVlan : Nat) (old new : BitVec count) (vid : Nat) : Bool :=
  (vid = vlan && old.getLsbD vid) || (vid = oldVlan && new.getLsbD vid)

theorem dropRetagged_spec
    (represents : Represents env dev members)
    (accepts : xdk.Accepts)
    (intfId vlan oldVlan : Nat)
    (old new : BitVec count) :
    ∃ kept dev' after,
      dropRetagged env xdk dev intfId vlan oldVlan old new = (none, kept, dev') ∧
      Represents env dev' after ∧ OnlyIntf intfId members after ∧
      ∀ vid,
        kept.getLsbD vid =
          (old.getLsbD vid && !isRetagged vlan oldVlan old new vid) ∧
        after.label vid intfId =
          if isRetagged vlan oldVlan old new vid then none
          else members.label vid intfId := by
  have first : ∃ kept dev' after,
      (if old.getLsbD vlan then dropVlan env xdk dev intfId vlan old
        else (none, old, dev)) = (none, kept, dev') ∧
      Represents env dev' after ∧ OnlyIntf intfId members after ∧
      ∀ vid,
        kept.getLsbD vid =
          (old.getLsbD vid && !(vid = vlan && old.getLsbD vid)) ∧
        after.label vid intfId =
          if vid = vlan && old.getLsbD vid then none
          else members.label vid intfId := by
    cases trunked : old.getLsbD vlan with
    | false =>
        refine ⟨old, dev, members, rfl, represents, .refl members, ?_⟩
        intro vid
        by_cases same : vid = vlan
        · subst same
          simp [trunked]
        · simp [same]
    | true =>
        obtain ⟨dev', equation, left⟩ :=
          dropVlan_spec represents accepts intfId vlan old
        refine ⟨_, dev', _, equation, left, .leave vlan, ?_⟩
        intro vid
        rw [getLsbD_bitmapSet0]
        by_cases same : vid = vlan
        · subst same
          simp [trunked]
        · simp [same, Roster.leave_label_of_ne (.inl same)]
  obtain ⟨kept, dev', between, equation, holds, only, effect⟩ := first
  unfold dropRetagged
  rw [equation]
  simp only
  cases trunked : new.getLsbD oldVlan with
  | false =>
      refine ⟨kept, dev', between, rfl, holds, only, ?_⟩
      intro vid
      obtain ⟨bit, label⟩ := effect vid
      rw [bit, label]
      by_cases same : vid = oldVlan
      · subst same
        simp [isRetagged, trunked]
      · simp [isRetagged, same]
  | true =>
      obtain ⟨final, equation, left⟩ :=
        dropVlan_spec holds accepts intfId oldVlan kept
      refine ⟨_, final, _, equation, left, only.trans (.leave oldVlan), ?_⟩
      intro vid
      obtain ⟨bit, label⟩ := effect vid
      rw [getLsbD_bitmapSet0, bit]
      by_cases same : vid = oldVlan
      · subst same
        simp [isRetagged, trunked]
      · rw [Roster.leave_label_of_ne (.inl same), label]
        simp [isRetagged, same]

theorem portDefaultVlanSet_spec
    (accepts : xdk.Accepts)
    (dev : Dev)
    (portNum vlanId : Nat) :
    (portDefaultVlanSet xdk dev portNum vlanId).1 = none ∧
      (portDefaultVlanSet xdk dev portNum vlanId).2.table = dev.table := by
  unfold portDefaultVlanSet
  simp only [accepts.call, Bool.not_true, Bool.false_eq_true, if_false, if_true]
  split <;> exact ⟨rfl, rfl⟩

theorem setPvids_spec
    (accepts : xdk.Accepts)
    (vlan : Nat)
    (ports : List OfPort)
    (dev : Dev) :
    (setPvids xdk vlan ports dev).1 = none ∧
      (setPvids xdk vlan ports dev).2.table = dev.table := by
  induction ports generalizing dev with
  | nil => exact ⟨rfl, rfl⟩
  | cons port ports inductionHypothesis =>
      obtain ⟨code, table⟩ := portDefaultVlanSet_spec accepts dev port.portNum vlan
      unfold setPvids
      generalize portDefaultVlanSet xdk dev port.portNum vlan = result at code table ⊢
      obtain ⟨errno, dev'⟩ := result
      simp only at code table
      subst code
      obtain ⟨laterCode, laterTable⟩ := inductionHypothesis dev'
      exact ⟨laterCode, laterTable.trans table⟩

/-- The label of an interface after its participation in a VLAN was updated. -/
def participation (bundle : Bundle count) (vid : Nat) (label : Option EncapType) :
    Option EncapType :=
  if bundle.isTrunked vid then some (label.getD (bundle.encapType vid)) else none

theorem participation_participation
    (bundle : Bundle count)
    (vid : Nat)
    (label : Option EncapType) :
    participation bundle vid (participation bundle vid label) =
      participation bundle vid label := by
  unfold participation
  split <;> simp

theorem updateParticipation_spec
    (represents : Represents env dev members)
    (accepts : xdk.Accepts)
    (bundle : Bundle count)
    (vids : List Nat) :
    ∃ dev' after,
      updateParticipation env xdk bundle vids dev = (none, dev') ∧
      Represents env dev' after ∧ OnlyIntf bundle.intfId members after ∧
      ∀ vid, after.label vid bundle.intfId =
        if vid ∈ vids ∧ members.exist vid = true then
          participation bundle vid (members.label vid bundle.intfId)
        else members.label vid bundle.intfId := by
  induction vids generalizing dev members with
  | nil => exact ⟨dev, members, rfl, represents, .refl members, by simp⟩
  | cons vid vids inductionHypothesis =>
      unfold updateParticipation
      rw [represents.exist_eq]
      cases present : members.exist vid with
      | false =>
          obtain ⟨dev', after, equation, holds, only, labels⟩ :=
            inductionHypothesis represents
          refine ⟨dev', after, equation, holds, only, ?_⟩
          intro other
          rw [labels]
          by_cases same : other = vid
          · subst same
            simp [present]
          · simp [same]
      | true =>
          have changed : ∃ dev' between,
              (if bundle.isTrunked vid then
                vlanMemberAdd env xdk dev vid bundle.intfId (bundle.encapType vid)
              else vlanMemberRemove env xdk dev vid bundle.intfId) = (none, dev') ∧
              Represents env dev' between ∧
              OnlyIntf bundle.intfId members between ∧
              ∀ other, between.label other bundle.intfId =
                if other = vid then
                  participation bundle vid (members.label vid bundle.intfId)
                else members.label other bundle.intfId := by
            cases trunked : bundle.isTrunked vid with
            | true =>
                obtain ⟨joined, code⟩ := represents.memberAdd accepts vid
                  bundle.intfId (bundle.encapType vid)
                rw [present, if_pos rfl] at code
                refine ⟨_, _, Prod.ext code rfl, joined, .join vid _, ?_⟩
                intro other
                by_cases same : other = vid
                · subst same
                  rw [Roster.join_label_self present]
                  simp [participation, trunked]
                · rw [Roster.join_label_of_ne (.inl same), if_neg same]
            | false =>
                obtain ⟨left, code⟩ := represents.memberRemove accepts vid
                  bundle.intfId
                rw [present, if_pos rfl] at code
                refine ⟨_, _, Prod.ext code rfl, left, .leave vid, ?_⟩
                intro other
                by_cases same : other = vid
                · subst same
                  simp [participation, trunked]
                · rw [Roster.leave_label_of_ne (.inl same), if_neg same]
          obtain ⟨between, roster, equation, holds, only, labels⟩ := changed
          simp only [if_true, equation]
          obtain ⟨dev', after, later, laterHolds, laterOnly, laterLabels⟩ :=
            inductionHypothesis holds
          refine ⟨dev', after, later, laterHolds, only.trans laterOnly, ?_⟩
          intro other
          rw [laterLabels, labels, only.exist]
          by_cases same : other = vid
          · subst same
            simp [present, participation_participation]
          · simp [same]

theorem applyTrunks_spec
    (represents : Represents env dev members)
    (accepts : xdk.Accepts)
    (bundle : Bundle count)
    (ports : List OfPort)
    (frameType : FrameType)
    (trunksDiff : BitVec count) :
    ∃ dev' after,
      applyTrunks env xdk dev bundle ports frameType trunksDiff = (none, dev') ∧
      Represents env dev' after ∧ OnlyIntf bundle.intfId members after ∧
      ∀ vid, after.label vid bundle.intfId =
        if trunksDiff.getLsbD vid = true ∧ members.exist vid = true then
          participation bundle vid (members.label vid bundle.intfId)
        else members.label vid bundle.intfId := by
  unfold applyTrunks
  simp only [accepts.call, Bool.not_true, Bool.false_eq_true, if_false]
  obtain ⟨code, table⟩ := setPvids_spec accepts (xpsVlan bundle.vlan) ports
    { dev with
      hw := { dev.hw with
        frameTypes := Function.update dev.hw.frameTypes bundle.intfId frameType }
      calls := dev.calls + 1 }
  generalize setPvids xdk (xpsVlan bundle.vlan) ports _ = result at code table ⊢
  obtain ⟨errno, between⟩ := result
  simp only at code table
  subst code
  obtain ⟨dev', after, equation, holds, only, labels⟩ :=
    updateParticipation_spec (represents.of_table table) accepts bundle
      (bitmapOnes trunksDiff)
  refine ⟨dev', after, equation, holds, only, ?_⟩
  intro vid
  rw [labels]
  simp only [mem_bitmapOnes]

/-! ## The whole update -/

/-- The configuration of a bundle after the update. -/
def Bundle.configured (env : Env) (bundle : Bundle count) (s : Settings count) :
    Bundle count :=
  { bundle with
    vlanMode := s.vlanMode
    vlan := settingsVlan env s
    trunks := some (settingsTrunks env s) }

/-- The update drops a VLAN first because its tagging may change. -/
def Bundle.retags (env : Env) (bundle : Bundle count) (s : Settings count)
    (vid : Nat) : Bool :=
  match bundle.trunks with
  | none => false
  | some old =>
      decide (bundle.oldVlan ≠ settingsVlan env s ∨ bundle.vlanMode ≠ s.vlanMode) &&
        isRetagged (settingsVlan env s) bundle.oldVlan old (settingsTrunks env s) vid

theorem trunksToCompare_spec
    (represents : Represents env dev members)
    (accepts : xdk.Accepts)
    (bundle : Bundle count)
    (s : Settings count) :
    ∃ oldTrunks dev' after,
      trunksToCompare env xdk dev bundle s = (none, oldTrunks, dev') ∧
      Represents env dev' after ∧ OnlyIntf bundle.intfId members after ∧
      ∀ vid,
        oldTrunks.any (·.getLsbD vid) =
          (bundle.isTrunked vid && !bundle.retags env s vid) ∧
        after.label vid bundle.intfId =
          if bundle.retags env s vid then none
          else members.label vid bundle.intfId := by
  unfold trunksToCompare
  cases trunks : bundle.trunks with
  | none =>
      refine ⟨none, dev, members, rfl, represents, .refl members, ?_⟩
      intro vid
      simp [Bundle.isTrunked, Bundle.retags, trunks]
  | some old =>
      simp only
      split
      · rename_i changes
        obtain ⟨kept, dev', after, equation, holds, only, effect⟩ :=
          dropRetagged_spec represents accepts bundle.intfId (settingsVlan env s)
            bundle.oldVlan old (settingsTrunks env s)
        rw [equation]
        refine ⟨some kept, dev', after, rfl, holds, only, ?_⟩
        intro vid
        have retags : bundle.retags env s vid = isRetagged (settingsVlan env s)
            bundle.oldVlan old (settingsTrunks env s) vid := by
          simp only [Bundle.retags, trunks, decide_eq_true changes, Bool.true_and]
        rw [retags]
        simpa [Bundle.isTrunked, trunks] using effect vid
      · rename_i unchanged
        refine ⟨some old, dev, members, rfl, represents, .refl members, ?_⟩
        intro vid
        have retags : bundle.retags env s vid = false := by
          simp only [Bundle.retags, trunks, decide_eq_false unchanged,
            Bool.false_and]
        simp [retags, Bundle.isTrunked, trunks]

/-- The effect of `bundle_update_vlan_config` on an existing VLAN: a VLAN that is
in both bitmaps and not retagged keeps its label, one that is in neither keeps
it too, and the others get what the new configuration says. -/
theorem bundleUpdateVlanConfig_spec
    {bridge : Bridge}
    (represents : Represents bridge.toEnv dev members)
    (accepts : xdk.Accepts)
    (bundle : Bundle count)
    (s : Settings count) :
    ∃ dev' after,
      bundleUpdateVlanConfig bridge xdk dev bundle s =
        (none, bundle.configured bridge.toEnv s, dev') ∧
      Represents bridge.toEnv dev' after ∧ OnlyIntf bundle.intfId members after ∧
      ∀ vid, members.exist vid = true →
        after.label vid bundle.intfId =
          let label :=
            if bundle.retags bridge.toEnv s vid then none
            else members.label vid bundle.intfId
          if (bundle.isTrunked vid && !bundle.retags bridge.toEnv s vid) =
              (settingsTrunks bridge.toEnv s).getLsbD vid then label
          else participation (bundle.configured bridge.toEnv s) vid label := by
  obtain ⟨oldTrunks, between, roster, equation, holds, only, effect⟩ :=
    trunksToCompare_spec represents accepts bundle s
  unfold bundleUpdateVlanConfig
  simp only [equation]
  split
  · obtain ⟨dev', after, applied, laterHolds, laterOnly, labels⟩ :=
      applyTrunks_spec holds accepts (bundle.configured bridge.toEnv s)
        (bundle.ports.filterMap bridge.port?) (settingsFrameType s)
        (vlanBitmapXor (settingsTrunks bridge.toEnv s) oldTrunks)
    refine ⟨dev', after, ?_, laterHolds, only.trans laterOnly, ?_⟩
    · simp only [Bundle.configured] at applied
      rw [applied]
      rfl
    · intro vid present
      have differs : (vlanBitmapXor (settingsTrunks bridge.toEnv s)
          oldTrunks).getLsbD vid =
          ((settingsTrunks bridge.toEnv s).getLsbD vid ^^
            oldTrunks.any (·.getLsbD vid)) := by
        cases oldTrunks with
        | none => simp [vlanBitmapXor]
        | some old => simp [vlanBitmapXor]
      have sameIntf : (bundle.configured bridge.toEnv s).intfId = bundle.intfId := rfl
      rw [sameIntf] at labels
      rw [labels, differs, only.exist, (effect vid).1, (effect vid).2]
      simp only [present, and_true]
      cases (settingsTrunks bridge.toEnv s).getLsbD vid <;>
        cases bundle.isTrunked vid && !bundle.retags bridge.toEnv s vid <;> rfl
  · rename_i same
    have equal : some (settingsTrunks bridge.toEnv s) = oldTrunks := by
      by_contra different
      exact same (.inl different)
    refine ⟨between, roster, ?_, holds, only, ?_⟩
    · simp only [Bundle.configured, equal]
    · intro vid _
      obtain ⟨bit, label⟩ := effect vid
      rw [← equal] at bit
      rw [label, ← bit]
      simp

end Bundles
end XpliantSwitchd
