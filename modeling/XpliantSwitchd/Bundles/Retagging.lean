import XpliantSwitchd.Bundles.Links

/-!
# A new VLAN configuration for one bundle

`bundle_update_vlan_config` takes a bundle whose interface is a member of the
right VLANs with the right tagging to a new configuration.  For every pair of
configurations the memberships are right again, and no other interface notices.
-/

namespace XpliantSwitchd
namespace Bundles

open Vlans

/-- No interface is twice in a members table, and a VLAN that does not exist has
an empty one. -/
structure TableWellFormed (env : Env) (dev : Dev) : Prop where
  nodup : ∀ vid, ((dev.table vid).members.map (·.intfId)).Nodup
  dormant : ∀ vid, vlanIsExisting env dev vid = false → (dev.table vid).members = []

/-- The memberships of the interface of a bundle are those of its trunks, with
the tagging of its mode.  The VLAN of a new bundle is not set. -/
structure ConfigCoherent {count : Nat} (env : Env) (dev : Dev) (bundle : Bundle count) :
    Prop where
  member : ∀ vid, vlanIsExisting env dev vid = true →
    vlanPortIsMember env dev vid bundle.intfId = bundle.isTrunked vid
  untagged : ∀ vid, vlanIsExisting env dev vid = true →
    vlanPortIsMember env dev vid bundle.intfId = true →
      (vlanPortIsUntaggedMember env dev vid bundle.intfId = true ↔
        bundle.vlan = vid ∧ bundle.vlanMode ≠ .nativeTagged)
  vlan : (∃ vid, isVlanIdValid env vid = true ∧ bundle.vlan = (vid : Int)) ∨
    (bundle.vlan = -1 ∧ bundle.trunks = none)

/-- The configuration that settings ask for.  Invalid VLAN ids, and the mode
`PORT_VLAN_TRUNK`, stand for the default VLAN. -/
structure ConfiguredBy {count : Nat} (env : Env) (s : Settings count)
    (bundle : Bundle count) : Prop where
  vlanMode : bundle.vlanMode = s.vlanMode
  vlan : bundle.vlan =
    if s.vlanMode = .trunk ∨ isVlanIdValid env (xpsVlan s.vlan) = false then
      (defaultVlanId : Int)
    else (xpsVlan s.vlan : Int)
  trunks : ∀ vid, bundle.isTrunked vid =
    match s.vlanMode with
    | .access => decide (bundle.vlan = vid)
    | .trunk => s.trunks.any (·.getLsbD vid)
    | .nativeUntagged | .nativeTagged =>
        s.trunks.any (·.getLsbD vid) || decide (bundle.vlan = vid)

section Tables

variable {count : Nat} {env : Env} {dev : Dev} {bundle : Bundle count}

theorem TableWellFormed.represents (wellFormed : TableWellFormed env dev) :
    Represents env dev (roster env dev) :=
  ⟨wellFormed.nodup, wellFormed.dormant, rfl⟩

theorem vlanPortIsUntaggedMember_iff (vid intfId : Nat) :
    vlanPortIsUntaggedMember env dev vid intfId = true ↔
      (roster env dev).label vid intfId = some .untagged := by
  simp only [vlanPortIsUntaggedMember, roster]
  cases vlanMemberLookup env dev vid intfId with
  | none => simp
  | some member => simp

/-- The label of an interface is the member, because the member knows its
interface. -/
theorem vlanMemberLookup_eq_of_label {other : Dev} {vid intfId : Nat}
    (same : (roster env other).label vid intfId = (roster env dev).label vid intfId) :
    vlanMemberLookup env other vid intfId = vlanMemberLookup env dev vid intfId := by
  have known : ∀ dev' member, vlanMemberLookup env dev' vid intfId = some member →
      member.intfId = intfId := by
    intro dev' member found
    unfold vlanMemberLookup at found
    split at found
    · simpa using List.find?_some found
    · cases found
  simp only [roster] at same
  cases new : vlanMemberLookup env other vid intfId with
  | none =>
      rw [new] at same
      exact (Option.map_eq_none_iff.mp same.symm).symm
  | some member =>
      rw [new] at same
      obtain ⟨old, found, sameEncap⟩ := Option.map_eq_some_iff.mp same.symm
      rw [found]
      have sameIntf := (known other member new).trans (known dev old found).symm
      obtain ⟨memberIntf, memberEncap⟩ := member
      obtain ⟨oldIntf, oldEncap⟩ := old
      simp only at sameIntf sameEncap
      rw [sameIntf, sameEncap]

/-- The tagging of a member is that of its bundle. -/
theorem encapType_eq_untagged_iff (bundle : Bundle count) (vid : Nat) :
    bundle.encapType vid = .untagged ↔
      bundle.vlan = vid ∧ bundle.vlanMode ≠ .nativeTagged := by
  unfold Bundle.encapType
  split
  · rename_i tagged
    constructor
    · intro equal
      cases equal
    · rintro ⟨sameVlan, notTagged⟩
      exact absurd tagged (by simp [sameVlan, notTagged])
  · rename_i untagged
    rw [not_or, not_not] at untagged
    exact iff_of_true rfl untagged

/-- The VLAN of a bundle with trunks is what the update takes for its old VLAN. -/
theorem vlanKnown_of_valid
    (known : (∃ vid, isVlanIdValid env vid = true ∧ bundle.vlan = (vid : Int)) ∨
      (bundle.vlan = -1 ∧ bundle.trunks = none))
    (trunked : bundle.trunks ≠ none) :
    bundle.vlan = (bundle.oldVlan : Int) := by
  rcases known with ⟨vid, valid, vlan⟩ | ⟨_, untrunked⟩
  · have small : vid < 2 ^ 16 := by
      have upper : vid ≤ env.vlanMaxId := by
        simp only [isVlanIdValid, Bool.and_eq_true, decide_eq_true_eq] at valid
        exact valid.2
      exact lt_of_le_of_lt upper (lt_of_lt_of_le env.max_lt_count env.count_le)
    have notUnset : (vid : Int) ≠ -1 := by omega
    unfold Bundle.oldVlan
    rw [vlan, if_pos notUnset, xpsVlan_natCast small]
  · exact absurd untrunked trunked

theorem ConfigCoherent.vlanKnown
    (coherent : ConfigCoherent env dev bundle)
    (trunked : bundle.trunks ≠ none) :
    bundle.vlan = (bundle.oldVlan : Int) :=
  vlanKnown_of_valid coherent.vlan trunked

end Tables

section Update

variable {bridge : Bridge} {dev : Dev} {bundle : Bundle bridge.vlanMaxCount}
  {s : Settings bridge.vlanMaxCount}

theorem settingsVlan_eq (env : Env) {count : Nat} (s : Settings count) :
    settingsVlan env s =
      if s.vlanMode = .trunk ∨ isVlanIdValid env (xpsVlan s.vlan) = false then
        defaultVlanId
      else xpsVlan s.vlan := by
  unfold settingsVlan
  cases mode : s.vlanMode with
  | trunk => simp
  | access => cases isVlanIdValid env (xpsVlan s.vlan) <;> simp
  | nativeUntagged => cases isVlanIdValid env (xpsVlan s.vlan) <;> simp
  | nativeTagged => cases isVlanIdValid env (xpsVlan s.vlan) <;> simp

theorem isVlanIdValid_defaultVlanId (env : Env) :
    isVlanIdValid env defaultVlanId = true := by
  simp [isVlanIdValid, env.min_le_default, env.default_le_max]

theorem isVlanIdValid_settingsVlan (env : Env) {count : Nat} (s : Settings count) :
    isVlanIdValid env (settingsVlan env s) = true := by
  rw [settingsVlan_eq]
  split
  · exact isVlanIdValid_defaultVlanId env
  · rename_i valid
    rw [not_or, Bool.not_eq_false] at valid
    exact valid.2

theorem settingsVlan_lt_count (bridge : Bridge) (s : Settings bridge.vlanMaxCount) :
    settingsVlan bridge.toEnv s < bridge.vlanMaxCount := by
  have valid := isVlanIdValid_settingsVlan bridge.toEnv s
  simp only [isVlanIdValid, Bool.and_eq_true, decide_eq_true_eq] at valid
  exact lt_of_le_of_lt valid.2 bridge.max_lt_count

theorem configuredBy_configured (bundle : Bundle bridge.vlanMaxCount)
    (s : Settings bridge.vlanMaxCount) :
    ConfiguredBy bridge.toEnv s (bundle.configured bridge.toEnv s) where
  vlanMode := rfl
  vlan := by
    change ((settingsVlan bridge.toEnv s : Nat) : Int) = _
    rw [settingsVlan_eq]
    split <;> rfl
  trunks := by
    intro vid
    have inside := settingsVlan_lt_count bridge s
    have asked : s.trunks.any (·.getLsbD vid) = (s.trunks.getD 0).getLsbD vid := by
      cases s.trunks with
      | none => simp
      | some trunks => rfl
    have sameVlan : ∀ vlan : Nat, decide (((vlan : Nat) : Int) = vid) =
        decide (vid = vlan) := by
      intro vlan
      rw [decide_eq_decide]
      omega
    rw [isTrunked_configured, asked]
    change _ = match s.vlanMode with
      | .access => decide (((settingsVlan bridge.toEnv s : Nat) : Int) = vid)
      | .trunk => _
      | .nativeUntagged | .nativeTagged =>
          _ || decide (((settingsVlan bridge.toEnv s : Nat) : Int) = vid)
    rw [sameVlan]
    unfold settingsTrunks
    cases s.vlanMode with
    | access => simp [getLsbD_bitmapSet1 _ _ inside]
    | trunk => rfl
    | nativeUntagged => exact getLsbD_bitmapSet1 _ _ inside
    | nativeTagged => exact getLsbD_bitmapSet1 _ _ inside

/-- The label of the interface in an existing VLAN after the update: what the
new configuration says, but a member that is not retagged keeps its label. -/
theorem label_after_update {vid : Nat}
    {before after : VlanRoster}
    (member : (before.label vid bundle.intfId).isSome = bundle.isTrunked vid)
    (label : after.label vid bundle.intfId =
      let label := if bundle.retags bridge.toEnv s vid then none
        else before.label vid bundle.intfId
      if (bundle.isTrunked vid && !bundle.retags bridge.toEnv s vid) =
          (settingsTrunks bridge.toEnv s).getLsbD vid then label
      else participation (bundle.configured bridge.toEnv s) vid label) :
    after.label vid bundle.intfId =
      if (settingsTrunks bridge.toEnv s).getLsbD vid then
        if bundle.isTrunked vid && !bundle.retags bridge.toEnv s vid then
          before.label vid bundle.intfId
        else some ((bundle.configured bridge.toEnv s).encapType vid)
      else none := by
  have unkept : (bundle.isTrunked vid && !bundle.retags bridge.toEnv s vid) = false →
      (if bundle.retags bridge.toEnv s vid then none
        else before.label vid bundle.intfId) = none := by
    intro dropped
    split
    · rfl
    · rename_i notRetagged
      rw [Bool.not_eq_true] at notRetagged
      rw [notRetagged, Bool.not_false, Bool.and_true] at dropped
      rw [dropped, Option.isSome_eq_false_iff, Option.isNone_iff_eq_none] at member
      exact member
  simp only at label
  rw [label]
  cases kept : bundle.isTrunked vid && !bundle.retags bridge.toEnv s vid with
  | false =>
      rw [unkept kept]
      cases asked : (settingsTrunks bridge.toEnv s).getLsbD vid with
      | false => rfl
      | true => simp [participation, asked]
  | true =>
      have notRetagged : bundle.retags bridge.toEnv s vid = false := by
        simpa using (Bool.and_eq_true_iff.mp kept).2
      cases asked : (settingsTrunks bridge.toEnv s).getLsbD vid with
      | false => simp [participation, asked]
      | true => simp [notRetagged]

/-- From coherent memberships, `bundle_update_vlan_config` leads to the
configuration of the settings with coherent memberships again, and the members
of other interfaces stay as they are. -/
theorem configCoherent_bundleUpdateVlanConfig {xdk : Xdk}
    (accepts : xdk.Accepts)
    (wellFormed : TableWellFormed bridge.toEnv dev)
    (coherent : ConfigCoherent bridge.toEnv dev bundle) :
    ∃ changed after,
      bundleUpdateVlanConfig bridge xdk dev bundle s = (none, changed, after) ∧
      ConfiguredBy bridge.toEnv s changed ∧
      changed.intfId = bundle.intfId ∧
      TableWellFormed bridge.toEnv after ∧
      ConfigCoherent bridge.toEnv after changed ∧
      (∀ vid, vlanIsExisting bridge.toEnv after vid =
        vlanIsExisting bridge.toEnv dev vid) ∧
      ∀ vid peer, peer ≠ bundle.intfId →
        vlanMemberLookup bridge.toEnv after vid peer =
          vlanMemberLookup bridge.toEnv dev vid peer := by
  have represents := wellFormed.represents
  obtain ⟨after, members, equation, holds, only, labels⟩ :=
    bundleUpdateVlanConfig_spec represents accepts bundle s
  have sameRoster : roster bridge.toEnv after = members := holds.same
  subst sameRoster
  have existing : ∀ vid, vlanIsExisting bridge.toEnv after vid =
      vlanIsExisting bridge.toEnv dev vid := congrFun only.exist
  have labelAfter := fun vid (present : vlanIsExisting bridge.toEnv dev vid = true) =>
    label_after_update
      ((represents.isMember_eq vid bundle.intfId).symm.trans (coherent.member vid present))
      (labels vid present)
  refine ⟨bundle.configured bridge.toEnv s, after, equation,
    configuredBy_configured bundle s, rfl, ⟨holds.nodup, holds.dormant⟩, ⟨?_, ?_, ?_⟩,
    existing, ?_⟩
  · intro vid present
    rw [existing vid] at present
    change vlanPortIsMember bridge.toEnv after vid bundle.intfId = _
    rw [holds.isMember_eq, labelAfter vid present, isTrunked_configured]
    have member := coherent.member vid present
    rw [represents.isMember_eq] at member
    split
    · rename_i asked
      rw [asked]
      split
      · rename_i kept
        rw [member]
        exact (Bool.and_eq_true_iff.mp kept).1
      · rfl
    · rename_i unasked
      rw [Bool.not_eq_true] at unasked
      rw [unasked]
      rfl
  · intro vid present isMember
    rw [existing vid] at present
    change vlanPortIsMember bridge.toEnv after vid bundle.intfId = true at isMember
    change vlanPortIsUntaggedMember bridge.toEnv after vid bundle.intfId = true ↔ _
    rw [holds.isMember_eq, labelAfter vid present] at isMember
    rw [vlanPortIsUntaggedMember_iff, labelAfter vid present]
    split at isMember
    · rename_i asked
      rw [if_pos asked, ← encapType_eq_untagged_iff]
      split
      · rename_i kept
        obtain ⟨trunked, notRetagged⟩ := Bool.and_eq_true_iff.mp kept
        have trunks : bundle.trunks ≠ none := by
          intro untrunked
          simp [Bundle.isTrunked, untrunked] at trunked
        rw [encapType_configured (coherent.vlanKnown trunks) trunked asked
          (by simpa using notRetagged), encapType_eq_untagged_iff,
          ← vlanPortIsUntaggedMember_iff]
        exact coherent.untagged vid present
          ((coherent.member vid present).trans trunked)
      · simp
    · cases isMember
  · exact .inl ⟨settingsVlan bridge.toEnv s, isVlanIdValid_settingsVlan _ s, rfl⟩
  · intro vid peer different
    exact vlanMemberLookup_eq_of_label (only.others vid peer different)

end Update

/-! ## A native VLAN that changes -/

/-- Interface 7 is an untagged member of VLAN 10 and a tagged one of VLAN 20,
where interface 8 is a member too. -/
def retaggingDev : Dev :=
  { emptyDev with table := fun vid =>
      if vid = 10 then ⟨true, [⟨7, .untagged⟩]⟩
      else if vid = 20 then ⟨true, [⟨8, .tagged⟩, ⟨7, .tagged⟩]⟩
      else ⟨false, []⟩ }

/-- The bundle of interface 7. -/
def retaggingBundle : Bundle 4096 where
  id := 0
  aux := 1
  name := "1"
  intfId := 7
  isLag := false
  ports := [1]
  portsUpdated := false
  vlanMode := .nativeUntagged
  vlan := 10
  trunks := some (bitmapSet1 (BitVec.twoPow 4096 20) 10)

/-- VLAN 20 becomes the native VLAN, tagged, and VLAN 10 stays. -/
def retaggingSettings : Settings 4096 :=
  { trunkSettings "1" [1] false 10 with vlanMode := .nativeTagged, vlan := 20 }

theorem vlanIsExisting_retaggingDev {vid : Nat}
    (present : vlanIsExisting sampleEnv retaggingDev vid = true) :
    vid = 10 ∨ vid = 20 := by
  by_contra neither
  rw [not_or] at neither
  simp [vlanIsExisting, retaggingDev, neither.1, neither.2] at present

theorem tableWellFormed_retaggingDev : TableWellFormed sampleEnv retaggingDev where
  nodup := by
    intro vid
    simp only [retaggingDev]
    split
    · decide
    · split <;> decide
  dormant := by
    intro vid missing
    simp only [retaggingDev]
    split
    · rename_i same
      subst same
      exact absurd missing (by decide)
    · split
      · rename_i same
        subst same
        exact absurd missing (by decide)
      · rfl

theorem configCoherent_retaggingDev :
    ConfigCoherent sampleEnv retaggingDev retaggingBundle where
  member := by
    intro vid present
    rcases vlanIsExisting_retaggingDev present with rfl | rfl <;> decide +kernel
  untagged := by
    intro vid present _
    rcases vlanIsExisting_retaggingDev present with rfl | rfl <;> decide +kernel
  vlan := .inl ⟨10, by decide, rfl⟩

theorem configCoherent_retagging :
    ∃ changed after,
      bundleUpdateVlanConfig (sampleBridge 1 2) (sampleXdk 100) retaggingDev
        retaggingBundle retaggingSettings = (none, changed, after) ∧
      ConfiguredBy sampleEnv retaggingSettings changed ∧
      changed.intfId = 7 ∧
      TableWellFormed sampleEnv after ∧
      ConfigCoherent sampleEnv after changed ∧
      (∀ vid, vlanIsExisting sampleEnv after vid =
        vlanIsExisting sampleEnv retaggingDev vid) ∧
      ∀ vid peer, peer ≠ 7 → vlanMemberLookup sampleEnv after vid peer =
        vlanMemberLookup sampleEnv retaggingDev vid peer :=
  @configCoherent_bundleUpdateVlanConfig (sampleBridge 1 2) retaggingDev
    retaggingBundle retaggingSettings (sampleXdk 100) (fun _ => rfl)
    tableWellFormed_retaggingDev configCoherent_retaggingDev

end Bundles
end XpliantSwitchd
