import XpliantSwitchd.Bundles.Interrupted
import XpliantSwitchd.Bundles.Twice

/-!
# The frame type and the PVID of a bundle

`bundle_update_vlan_config` writes the accepted frame type of the interface and
the PVID of the ports only where the trunks were found to differ.  Both follow
the configuration of the bundle nevertheless, save in one case: an access port of
the default VLAN that becomes a trunk port without VLANs keeps its frame type.
-/

namespace XpliantSwitchd
namespace Vlans
namespace SamePorts

open Bundles

variable (env : Env) (xdk : Xdk) (dev : Dev) (lagId ifId : Nat)

/-- A call that only asks. -/
theorem asks : SamePorts dev (dev.call xdk id).2 :=
  call id (fun _ => rfl) (fun _ => rfl) xdk dev

theorem onLag (change : List Nat → List Nat) :
    SamePorts dev (dev.call xdk (Bundles.onLag lagId change)).2 :=
  call (Bundles.onLag lagId change) (fun _ => rfl) (fun _ => rfl) xdk dev

/-- A loop leaves the settings of ports alone when its body does. -/
theorem foldl
    {Item : Type*}
    {body : Dev → Item → Dev}
    (keeps : ∀ dev item, SamePorts dev (body dev item))
    (items : List Item) :
    SamePorts dev (items.foldl body dev) := by
  induction items generalizing dev with
  | nil => exact refl dev
  | cons item items inductionHypothesis =>
      exact (keeps dev item).trans (inductionHypothesis (body dev item))

theorem lagIsPortAttached : SamePorts dev (Bundles.lagIsPortAttached xdk dev lagId ifId).2 :=
  asks xdk dev

theorem lagDetachPortOnHw : SamePorts dev (Bundles.lagDetachPortOnHw env xdk dev lagId ifId) := by
  have attached := lagIsPortAttached xdk dev lagId ifId
  unfold Bundles.lagDetachPortOnHw
  generalize Bundles.lagIsPortAttached xdk dev lagId ifId = answer at attached ⊢
  have removed := attached.trans (onLag xdk answer.2 lagId (List.erase · ifId))
  simp only
  split
  · exact attached
  split
  · exact removed
  have deployed := removed.trans (asks xdk _)
  split
  · exact deployed
  have unbound := deployed.trans (asks xdk _)
  split
  · exact unbound
  split
  · exact unbound.trans (asks xdk _)
  · exact unbound

theorem lagSearch (lagIds : List Nat) :
    SamePorts dev (Bundles.lagSearch env xdk lagId ifId lagIds dev).2 := by
  induction lagIds generalizing dev with
  | nil => exact asks xdk dev
  | cons foundLagId lagIds inductionHypothesis =>
      have answered := asks xdk dev
      unfold Bundles.lagSearch
      simp only
      split
      · exact answered
      have attached := answered.trans (lagIsPortAttached xdk _ foundLagId ifId)
      split
      · split
        · exact attached
        · exact attached.trans (lagDetachPortOnHw env xdk _ foundLagId ifId)
      · exact attached.trans (inductionHypothesis _)

theorem lagAttachPortOnHw : SamePorts dev (Bundles.lagAttachPortOnHw env xdk dev lagId ifId) := by
  have searched := lagSearch env xdk dev lagId ifId (dev.hw.lags.map Prod.fst)
  unfold Bundles.lagAttachPortOnHw
  generalize Bundles.lagSearch env xdk lagId ifId (dev.hw.lags.map Prod.fst) dev = answer
    at searched ⊢
  simp only
  split
  · exact searched
  split
  · exact searched
  have controlled := searched.trans (asks xdk _)
  split
  · exact controlled
  have added := controlled.trans (onLag xdk _ lagId (· ++ [ifId]))
  split
  · exact added.trans (asks xdk _)
  have deployed := added.trans (asks xdk _)
  split
  · exact deployed.trans (asks xdk _)
  · exact deployed

theorem lagEnsureAttached : SamePorts dev (Bundles.lagEnsureAttached env xdk lagId dev ifId) := by
  have attached := lagIsPortAttached xdk dev lagId ifId
  unfold Bundles.lagEnsureAttached
  simp only
  split
  · exact attached
  · exact attached.trans (lagAttachPortOnHw env xdk _ lagId ifId)

/-- The ports of a LAG are attached and detached without a word about their
settings. -/
theorem lagAttachPorts (ifList : List Nat) :
    SamePorts dev (Bundles.lagAttachPorts env xdk dev lagId ifList).2 := by
  have answered := asks xdk dev
  unfold Bundles.lagAttachPorts
  simp only
  split
  · exact answered
  have detached := answered.trans (foldl _
    (fun dev ifId => lagDetachPortOnHw env xdk dev lagId ifId)
    ((lagPortIntfList dev lagId).filter (· ∉ ifList)))
  exact detached.trans (foldl _ (fun dev ifId => lagEnsureAttached env xdk dev lagId ifId) _)

end SamePorts
end Vlans

namespace Bundles

open Vlans

/-! ## What the update writes -/

section Update

variable {count : Nat} {env : Env} {xdk : Xdk} {dev : Dev}

theorem updateParticipation_samePorts
    (bundle : Bundle count)
    (vids : List Nat)
    (dev : Dev) :
    SamePorts dev (updateParticipation env xdk bundle vids dev).2 := by
  induction vids generalizing dev with
  | nil => exact SamePorts.refl dev
  | cons vid vids inductionHypothesis =>
      unfold updateParticipation
      split
      · have updated : SamePorts dev (if bundle.isTrunked vid then
            vlanMemberAdd env xdk dev vid bundle.intfId (bundle.encapType vid)
            else vlanMemberRemove env xdk dev vid bundle.intfId).2 := by
          split
          · exact SamePorts.memberAdd env xdk dev vid bundle.intfId _
          · exact SamePorts.memberRemove env xdk dev vid bundle.intfId
        generalize (if bundle.isTrunked vid then _ else _ : Option Errno × Dev) = result
          at updated ⊢
        obtain ⟨errno, between⟩ := result
        cases errno with
        | none => exact updated.trans (inductionHypothesis between)
        | some errno => exact updated
      · exact inductionHypothesis dev

theorem portDefaultVlanSet_ports
    (accepts : xdk.Accepts)
    (portNum vlan : Nat) :
    (portDefaultVlanSet xdk dev portNum vlan).2.hw.ports =
        Function.update dev.hw.ports portNum ⟨vlan, true⟩ ∧
      (portDefaultVlanSet xdk dev portNum vlan).2.hw.frameTypes = dev.hw.frameTypes := by
  unfold portDefaultVlanSet
  simp only [accepts.call, Bool.not_true, Bool.false_eq_true, if_false, if_true]
  split
  · rename_i already
    refine ⟨?_, rfl⟩
    simp only [id] at already ⊢
    rw [← already, Function.update_eq_self]
  · exact ⟨rfl, rfl⟩

/-- The ports of the list have the PVID and the others the one they had. -/
theorem setPvids_ports
    (accepts : xdk.Accepts)
    (vlan : Nat)
    (ports : List OfPort)
    (dev : Dev) :
    (∀ portNum, (setPvids xdk vlan ports dev).2.hw.ports portNum =
        if portNum ∈ ports.map (·.portNum) then ⟨vlan, true⟩ else dev.hw.ports portNum) ∧
      (setPvids xdk vlan ports dev).2.hw.frameTypes = dev.hw.frameTypes := by
  induction ports generalizing dev with
  | nil => exact ⟨fun _ => rfl, rfl⟩
  | cons port ports inductionHypothesis =>
      obtain ⟨code, _⟩ := portDefaultVlanSet_spec accepts dev port.portNum vlan
      obtain ⟨written, framed⟩ := @portDefaultVlanSet_ports xdk dev accepts port.portNum vlan
      unfold setPvids
      generalize portDefaultVlanSet xdk dev port.portNum vlan = result at code written framed ⊢
      obtain ⟨errno, between⟩ := result
      simp only at code written framed
      subst code
      obtain ⟨laterWritten, laterFramed⟩ := inductionHypothesis between
      refine ⟨?_, laterFramed.trans framed⟩
      intro portNum
      rw [laterWritten, written, List.map_cons]
      by_cases same : portNum = port.portNum
      · subst same
        simp
      · simp [same]

/-- What is written once the trunks were found to differ. -/
theorem applyTrunks_ports
    (accepts : xdk.Accepts)
    (bundle : Bundle count)
    (ports : List OfPort)
    (frameType : FrameType)
    (trunksDiff : BitVec count) :
    (applyTrunks env xdk dev bundle ports frameType trunksDiff).2.hw.frameTypes
        bundle.intfId = frameType ∧
      ∀ port ∈ ports,
        (applyTrunks env xdk dev bundle ports frameType trunksDiff).2.hw.ports port.portNum =
          ⟨xpsVlan bundle.vlan, true⟩ := by
  unfold applyTrunks
  simp only [accepts.call, Bool.not_true, Bool.false_eq_true, if_false]
  generalize isFramed : ({ dev with
    hw := { dev.hw with
      frameTypes := Function.update dev.hw.frameTypes bundle.intfId frameType }
    calls := dev.calls + 1 } : Dev) = framedDev
  have frame : framedDev.hw.frameTypes bundle.intfId = frameType := by
    rw [← isFramed]
    exact Function.update_self _ _ _
  obtain ⟨between, equation, _⟩ := @setPvids_ports_of_accepts xdk framedDev accepts
    (xpsVlan bundle.vlan) ports
  obtain ⟨written, framed⟩ := setPvids_ports accepts (xpsVlan bundle.vlan) ports framedDev
  rw [equation] at written framed ⊢
  have same := @updateParticipation_samePorts _ env xdk bundle (bitmapOnes trunksDiff) between
  simp only
  rw [same.frameTypes, same.ports]
  refine ⟨(congrFun framed bundle.intfId).trans frame, ?_⟩
  intro port listed
  exact (written port.portNum).trans (if_pos (List.mem_map_of_mem listed))

/-! ## Where the update writes nothing -/

theorem dropVlan_accepted
    (accepts : xdk.Accepts)
    (dev : Dev)
    (intfId vid : Nat)
    (trunks : BitVec count) :
    ∃ after, dropVlan env xdk dev intfId vid trunks =
      (none, bitmapSet0 trunks vid, after) := by
  obtain ⟨after, equation, _⟩ := @dropVlan_completes count env xdk dev intfId vid trunks
    accepts.succeedsFor
  exact ⟨after, equation⟩

/-- The trunks that remain when the new VLAN and, where it stays trunked, the old
one are dropped. -/
theorem dropRetagged_accepted
    (accepts : xdk.Accepts)
    (dev : Dev)
    (intfId vlan oldVlan : Nat)
    (old new : BitVec count) :
    ∃ kept after, dropRetagged env xdk dev intfId vlan oldVlan old new = (none, kept, after) ∧
      ∀ vid, kept.getLsbD vid =
        (old.getLsbD vid && decide (vid ≠ vlan) &&
          !(decide (vid = oldVlan) && new.getLsbD oldVlan)) := by
  have first : ∃ kept after, (if old.getLsbD vlan then dropVlan env xdk dev intfId vlan old
      else (none, old, dev)) = (none, kept, after) ∧
      ∀ vid, kept.getLsbD vid = (old.getLsbD vid && decide (vid ≠ vlan)) := by
    cases trunked : old.getLsbD vlan with
    | true =>
        obtain ⟨after, equation⟩ := @dropVlan_accepted count env xdk accepts dev intfId vlan old
        exact ⟨_, after, equation, getLsbD_bitmapSet0 old vlan⟩
    | false =>
        refine ⟨old, dev, rfl, ?_⟩
        intro vid
        by_cases same : vid = vlan
        · rw [same, trunked]
          rfl
        · simp [same]
  obtain ⟨kept, between, equation, bits⟩ := first
  unfold dropRetagged
  rw [equation]
  simp only
  cases trunked : new.getLsbD oldVlan with
  | true =>
      obtain ⟨after, dropped⟩ :=
        @dropVlan_accepted count env xdk accepts between intfId oldVlan kept
      refine ⟨_, after, dropped, ?_⟩
      intro vid
      rw [getLsbD_bitmapSet0, bits]
      simp
  | false =>
      refine ⟨kept, between, rfl, ?_⟩
      intro vid
      rw [bits]
      simp

end Update

/-- What the hardware has for a bundle: the interface of an access port accepts
untagged frames only, and the ports have the VLAN of the bundle as their PVID. -/
structure HwFramed {count : Nat} (bridge : Bridge) (dev : Dev) (bundle : Bundle count) :
    Prop where
  frameType : dev.hw.frameTypes bundle.intfId =
    if bundle.vlanMode = .access then .unPri else .all
  pvid : ∀ port ∈ bundle.ports.filterMap bridge.port?,
    ((dev.hw.ports port.portNum).pvid : Int) = bundle.vlan

/-- An access port of the default VLAN becomes a trunk port without VLANs.  The
trunks of the bundle, with the default VLAN taken out, are those of the settings
then, and no frame type is written. -/
def Overlooked {count : Nat} (bundle : Bundle count) (s : Settings count) : Prop :=
  bundle.vlanMode = .access ∧ bundle.vlan = defaultVlanId ∧
    s.vlanMode = .trunk ∧ s.trunks.getD 0 = 0

section Settings

variable {bridge : Bridge} {s before : Settings bridge.vlanMaxCount}

theorem settingsFrameType_eq :
    settingsFrameType s = if s.vlanMode = .access then .unPri else .all := by
  unfold settingsFrameType
  cases s.vlanMode <;> rfl

/-- Only a trunk port need not have its own VLAN in its trunks. -/
theorem settingsTrunks_vlan (notTrunk : s.vlanMode ≠ .trunk) :
    (settingsTrunks bridge.toEnv s).getLsbD (settingsVlan bridge.toEnv s) = true := by
  have inside := settingsVlan_lt_count bridge s
  unfold settingsTrunks
  cases mode : s.vlanMode with
  | access => simp [getLsbD_bitmapSet1 _ _ inside]
  | trunk => exact absurd mode notTrunk
  | nativeUntagged => simp [getLsbD_bitmapSet1 _ _ inside]
  | nativeTagged => simp [getLsbD_bitmapSet1 _ _ inside]

theorem settingsVlan_of_trunk (trunk : s.vlanMode = .trunk) :
    settingsVlan bridge.toEnv s = defaultVlanId := by
  simp [settingsVlan, trunk]

theorem settingsTrunks_of_trunk (trunk : s.vlanMode = .trunk) :
    settingsTrunks bridge.toEnv s = s.trunks.getD 0 := by
  simp [settingsTrunks, trunk]

/-- Where the trunks are found to be equal after the drops, frame type and PVID
stay right, unless the change is one that is overlooked. -/
theorem sameFrame_of_kept
    (changes : settingsVlan bridge.toEnv before ≠ settingsVlan bridge.toEnv s ∨
      before.vlanMode ≠ s.vlanMode)
    (kept : ∀ vid, (settingsTrunks bridge.toEnv s).getLsbD vid =
      ((settingsTrunks bridge.toEnv before).getLsbD vid &&
        decide (vid ≠ settingsVlan bridge.toEnv s) &&
        !(decide (vid = settingsVlan bridge.toEnv before) &&
          (settingsTrunks bridge.toEnv s).getLsbD (settingsVlan bridge.toEnv before))))
    (noticed : ¬(before.vlanMode = .access ∧
      settingsVlan bridge.toEnv before = defaultVlanId ∧ s.vlanMode = .trunk ∧
      s.trunks.getD 0 = 0)) :
    settingsVlan bridge.toEnv s = settingsVlan bridge.toEnv before ∧
      settingsFrameType s = settingsFrameType before := by
  have withoutVlan := kept (settingsVlan bridge.toEnv s)
  simp only [ne_eq, not_true_eq_false, decide_false, Bool.and_false, Bool.false_and]
    at withoutVlan
  have isTrunk : s.vlanMode = .trunk := by
    by_contra notTrunk
    exact Bool.false_ne_true (withoutVlan.symm.trans (settingsTrunks_vlan notTrunk))
  have vlan : settingsVlan bridge.toEnv s = defaultVlanId := settingsVlan_of_trunk isTrunk
  have wasNative : before.vlanMode ≠ .trunk := by
    intro wasTrunk
    rcases changes with different | different
    · exact different ((settingsVlan_of_trunk wasTrunk).trans vlan.symm)
    · exact different (wasTrunk.trans isTrunk.symm)
  have withoutOld := kept (settingsVlan bridge.toEnv before)
  rw [settingsTrunks_vlan wasNative] at withoutOld
  have sameVlan : settingsVlan bridge.toEnv before = settingsVlan bridge.toEnv s := by
    by_contra different
    cases trunked : (settingsTrunks bridge.toEnv s).getLsbD
        (settingsVlan bridge.toEnv before) <;>
      simp [trunked, different] at withoutOld
  refine ⟨sameVlan.symm, ?_⟩
  rw [settingsFrameType_eq, settingsFrameType_eq, isTrunk]
  split
  · rename_i isAccess
    cases isAccess
  · refine (if_neg ?_).symm
    intro wasAccess
    refine noticed ⟨wasAccess, sameVlan.trans vlan, isTrunk, ?_⟩
    rw [← @settingsTrunks_of_trunk bridge s isTrunk]
    apply BitVec.eq_of_getLsbD_eq
    intro vid _
    have inside := settingsVlan_lt_count bridge before
    have only : (settingsTrunks bridge.toEnv before).getLsbD vid =
        decide (vid = settingsVlan bridge.toEnv before) := by
      rw [settingsTrunks, wasAccess]
      simp [getLsbD_bitmapSet1 _ _ inside]
    rw [kept vid, only, sameVlan]
    by_cases same : vid = settingsVlan bridge.toEnv s <;> simp [same]

end Settings

section Step

variable {bridge : Bridge} {xdk : Xdk} {dev : Dev} {bundle : Bundle bridge.vlanMaxCount}
  {s before : Settings bridge.vlanMaxCount}

/-- The update that finds different trunks. -/
theorem hwFramed_applyTrunks
    (accepts : xdk.Accepts)
    (trunksDiff : BitVec bridge.vlanMaxCount) :
    HwFramed bridge
      (applyTrunks bridge.toEnv xdk dev (bundle.configured bridge.toEnv s)
        (bundle.ports.filterMap bridge.port?) (settingsFrameType s) trunksDiff).2
      (bundle.configured bridge.toEnv s) := by
  obtain ⟨framed, written⟩ := @applyTrunks_ports _ bridge.toEnv xdk dev accepts
    (bundle.configured bridge.toEnv s) (bundle.ports.filterMap bridge.port?)
    (settingsFrameType s) trunksDiff
  refine ⟨framed.trans settingsFrameType_eq, ?_⟩
  intro port listed
  rw [written port listed]
  change ((xpsVlan ((settingsVlan bridge.toEnv s : Nat) : Int) : Nat) : Int) =
    ((settingsVlan bridge.toEnv s : Nat) : Int)
  rw [xpsVlan_natCast (settingsVlan_lt bridge.toEnv s)]

/-- The first update of a bundle. -/
theorem hwFramed_of_unset
    (accepts : xdk.Accepts)
    (unset : bundle.trunks = none) :
    ∃ errno after, bundleUpdateVlanConfig bridge xdk dev bundle s =
        (errno, bundle.configured bridge.toEnv s, after) ∧
      HwFramed bridge after (bundle.configured bridge.toEnv s) := by
  have compared : trunksToCompare bridge.toEnv xdk dev bundle s = (none, none, dev) := by
    rw [trunksToCompare, unset]
  unfold bundleUpdateVlanConfig
  rw [compared]
  refine ⟨_, _, if_pos (.inl (by simp)), ?_⟩
  exact hwFramed_applyTrunks accepts _

/-- A later update of a bundle. -/
theorem hwFramed_of_set
    (accepts : xdk.Accepts)
    (configured : bundle.configured bridge.toEnv before = bundle)
    (framed : HwFramed bridge dev bundle)
    (noticed : ¬Overlooked bundle s) :
    ∃ errno after, bundleUpdateVlanConfig bridge xdk dev bundle s =
        (errno, bundle.configured bridge.toEnv s, after) ∧
      HwFramed bridge after (bundle.configured bridge.toEnv s) := by
  have vlanMode : bundle.vlanMode = before.vlanMode := (congrArg Bundle.vlanMode configured).symm
  have vlan : bundle.vlan = settingsVlan bridge.toEnv before :=
    (congrArg Bundle.vlan configured).symm
  have trunks : bundle.trunks = some (settingsTrunks bridge.toEnv before) :=
    (congrArg Bundle.trunks configured).symm
  have oldVlan : bundle.oldVlan = settingsVlan bridge.toEnv before :=
    (congrArg Bundle.oldVlan configured).symm.trans
      (oldVlan_configured bridge.toEnv bundle before)
  have compared : ∃ kept between,
      trunksToCompare bridge.toEnv xdk dev bundle s = (none, some kept, between) ∧
      (settingsTrunks bridge.toEnv s = kept →
        settingsVlan bridge.toEnv s = settingsVlan bridge.toEnv before ∧
          settingsFrameType s = settingsFrameType before) := by
    unfold trunksToCompare
    rw [trunks, oldVlan, vlanMode]
    simp only
    split
    · rename_i changes
      obtain ⟨kept, between, equation, bits⟩ := @dropRetagged_accepted _ bridge.toEnv xdk accepts
        dev bundle.intfId (settingsVlan bridge.toEnv s) (settingsVlan bridge.toEnv before)
        (settingsTrunks bridge.toEnv before) (settingsTrunks bridge.toEnv s)
      rw [equation]
      refine ⟨kept, between, rfl, ?_⟩
      intro same
      refine sameFrame_of_kept changes ?_ ?_
      · intro vid
        nth_rewrite 1 [same]
        exact bits vid
      · rintro ⟨access, default, trunk, empty⟩
        exact noticed ⟨vlanMode.trans access, vlan.trans (congrArg _ default), trunk, empty⟩
    · rename_i unchanged
      simp only [not_or, not_not] at unchanged
      refine ⟨_, dev, rfl, fun _ => ⟨unchanged.1.symm, ?_⟩⟩
      rw [settingsFrameType_eq, settingsFrameType_eq, unchanged.2]
  obtain ⟨kept, between, equation, sameFrame⟩ := compared
  have samePorts := @trunksToCompare_samePorts _ bridge.toEnv xdk dev bundle s
  rw [equation] at samePorts
  unfold bundleUpdateVlanConfig
  rw [equation]
  by_cases differs : some (settingsTrunks bridge.toEnv s) ≠ some kept ∨
      (bundle.isLag && bundle.portsUpdated) = true
  · refine ⟨_, _, if_pos differs, ?_⟩
    exact hwFramed_applyTrunks accepts _
  · have equal : settingsTrunks bridge.toEnv s = kept := by
      by_contra different
      exact differs (.inl fun same => different (Option.some.inj same))
    obtain ⟨sameVlan, sameType⟩ := sameFrame equal
    refine ⟨none, between, (if_neg differs).trans ?_, ?_⟩
    · rw [← equal]
      rfl
    · refine ⟨?_, ?_⟩
      · rw [samePorts.frameTypes]
        change dev.hw.frameTypes bundle.intfId = if s.vlanMode = .access then .unPri else .all
        rw [framed.frameType, ← settingsFrameType_eq, sameType, settingsFrameType_eq, vlanMode]
      · intro port listed
        rw [samePorts.ports]
        change _ = ((settingsVlan bridge.toEnv s : Nat) : Int)
        rw [framed.pvid port listed, vlan, sameVlan]

end Step

/-! ## The bundle of an `aux` -/

/-- No call has configured the VLANs of the bundle.  Without a LAG it has no
interface then. -/
structure Unset {count : Nat} (bridge : Bridge) (bundle : Bundle count) : Prop where
  trunks : bundle.trunks = none
  unbound : bundle.isLag = false → bundle.intfId = bridge.intfInvalidId

/-- The VLANs of the bundle were configured, and the hardware has its frame type
and its PVID. -/
structure Framed (bridge : Bridge) (dev : Dev) (bundle : Bundle bridge.vlanMaxCount) :
    Prop where
  configured : ∃ s, bundle.configured bridge.toEnv s = bundle
  valid : bundle.intfId ≠ bridge.intfInvalidId
  hasPorts : bundle.ports ≠ []
  ownPort : bundle.isLag = false → ∃ port,
    bundle.ports.head?.bind bridge.port? = some port ∧
      port.isXpliantClass = true ∧ port.ifId = bundle.intfId
  hw : HwFramed bridge dev bundle

/-- At most one bundle has the `aux`, and it has a property. -/
structure OneBundle {count : Nat} (bridge : Bridge) (aux : Nat)
    (property : Bundle count → Prop) (ofproto : Ofproto count) : Prop where
  tied : Tied bridge ofproto
  single : ∀ bundle ∈ ofproto.bundles, ∀ other ∈ ofproto.bundles,
    bundle.aux = aux → other.aux = aux → bundle.id = other.id
  holds : ∀ bundle ∈ ofproto.bundles, bundle.aux = aux → property bundle

namespace OneBundle

variable {count : Nat} {bridge : Bridge} {aux : Nat} {property later : Bundle count → Prop}
  {ofproto after : Ofproto count} {bundle : Bundle count}

/-- Every bundle with the `aux` is the one that was found. -/
theorem unique
    (one : OneBundle bridge aux property ofproto)
    (member : bundle ∈ ofproto.bundles)
    (isAux : bundle.aux = aux)
    {other : Bundle count}
    (otherMember : other ∈ ofproto.bundles)
    (otherAux : other.aux = aux) :
    other = bundle := by
  have sameId := one.single other otherMember bundle member otherAux isAux
  have found := one.tied.bundle?_eq_some.mpr ⟨otherMember, sameId⟩
  rw [one.tied.bundle?_eq_some.mpr ⟨member, rfl⟩] at found
  exact (Option.some.inj found).symm

theorem imp
    (one : OneBundle bridge aux property ofproto)
    (implies : ∀ bundle ∈ ofproto.bundles, property bundle → later bundle) :
    OneBundle bridge aux later ofproto where
  tied := one.tied
  single := one.single
  holds bundle member isAux := implies bundle member (one.holds bundle member isAux)

/-- A change of the device. -/
theorem of_bundles
    (one : OneBundle bridge aux property ofproto)
    (tied : Tied bridge after)
    (bundles : after.bundles = ofproto.bundles) :
    OneBundle bridge aux property after where
  tied := tied
  single := bundles ▸ one.single
  holds := bundles ▸ one.holds

/-- The bundle is replaced. -/
theorem replace
    {new : Bundle count}
    (one : OneBundle bridge aux property ofproto)
    (member : bundle ∈ ofproto.bundles)
    (isAux : bundle.aux = aux)
    (tied : Tied bridge after)
    (bundles : after.bundles =
      KeyedList.rewrite (·.id) bundle.id (fun _ => new) ofproto.bundles)
    (isNew : later new) :
    OneBundle bridge aux later after := by
  have cases : ∀ other ∈ after.bundles, other.aux = aux → other = new := by
    intro other otherMember otherAux
    rw [bundles] at otherMember
    rcases KeyedList.mem_rewrite.mp otherMember with ⟨_, _, _, isNew⟩ | ⟨old, different⟩
    · exact isNew
    · exact absurd (congrArg Bundle.id (one.unique member isAux old otherAux)) different
  refine ⟨tied, ?_, ?_⟩
  · intro first firstMember second secondMember firstAux secondAux
    rw [cases first firstMember firstAux, cases second secondMember secondAux]
  · intro other otherMember otherAux
    rw [cases other otherMember otherAux]
    exact isNew

/-- A bundle that was not configured may lose and get ports. -/
theorem shrinks
    (one : OneBundle bridge aux (Unset bridge) ofproto)
    (tied : Tied bridge after)
    (shrinks : Shrinks ofproto after) :
    OneBundle bridge aux (Unset bridge) after := by
  refine ⟨tied, ?_, ?_⟩
  · intro first firstMember second secondMember firstAux secondAux
    obtain ⟨oldFirst, oldFirstMember, sameFirst⟩ := shrinks.old firstMember
    obtain ⟨oldSecond, oldSecondMember, sameSecond⟩ := shrinks.old secondMember
    have isFirst : oldFirst.aux = first.aux := (congrArg Bundle.aux sameFirst :)
    have isSecond : oldSecond.aux = second.aux := (congrArg Bundle.aux sameSecond :)
    calc first.id
        = oldFirst.id := (congrArg Bundle.id sameFirst.symm :)
      _ = oldSecond.id := one.single oldFirst oldFirstMember oldSecond oldSecondMember
          (isFirst.trans firstAux) (isSecond.trans secondAux)
      _ = second.id := (congrArg Bundle.id sameSecond :)
  · intro bundle member isAux
    obtain ⟨old, oldMember, same⟩ := shrinks.old member
    have sameAux : old.aux = bundle.aux := (congrArg Bundle.aux same :)
    have sameTrunks : old.trunks = bundle.trunks := (congrArg Bundle.trunks same :)
    have sameLag : old.isLag = bundle.isLag := (congrArg Bundle.isLag same :)
    have sameIntf : old.intfId = bundle.intfId := (congrArg Bundle.intfId same :)
    have unset := one.holds old oldMember (sameAux.trans isAux)
    refine ⟨sameTrunks.symm.trans unset.trunks, fun notLag => ?_⟩
    exact sameIntf.symm.trans (unset.unbound (sameLag.trans notLag))

end OneBundle

/-! ## The end of the call -/

section Configuring

variable {bridge : Bridge} {xdk : Xdk} {aux : Nat} {dev : Dev}
  {ofproto : Ofproto bridge.vlanMaxCount} {bundle : Bundle bridge.vlanMaxCount}
  {s : Settings bridge.vlanMaxCount}

/-- Where the bundle of the `aux` stands between two calls. -/
def FramedOrUnset (bridge : Bridge) (dev : Dev) (bundle : Bundle bridge.vlanMaxCount) :
    Prop :=
  Unset bridge bundle ∨ Framed bridge dev bundle

/-- The interface that a bundle has from its slave, or had. -/
theorem boundToSlave_intfId
    {bound : Bundle bridge.vlanMaxCount}
    (isBound : bundle.boundToSlave bridge s = some bound) :
    bound.intfId = bundle.intfId ∨
      ∃ port, bundle.ports.head?.bind bridge.port? = some port ∧
        port.isXpliantClass = true ∧ port.ifId = bound.intfId := by
  unfold Bundle.boundToSlave at isBound
  split at isBound
  · cases isPort : bundle.ports.head?.bind bridge.port? with
    | none =>
        rw [isPort] at isBound
        cases isBound
        exact .inl rfl
    | some port =>
        rw [isPort] at isBound
        simp only at isBound
        split at isBound
        · cases isBound
          exact .inl rfl
        · split at isBound
          · contradiction
          · rename_i isXpliant
            cases isBound
            exact .inr ⟨port, rfl, by simpa using isXpliant, rfl⟩
  · cases isBound
    exact .inl rfl

/-- A bundle that has its interface keeps it. -/
theorem Framed.boundToSlave
    (framed : Framed bridge dev bundle)
    (s : Settings bridge.vlanMaxCount) :
    bundle.boundToSlave bridge s = some bundle := by
  unfold Bundle.boundToSlave
  split
  · rename_i single
    have notLag : bundle.isLag = false := by
      simpa using (Bool.and_eq_true_iff.mp single).1
    obtain ⟨port, isPort, isXpliant, ifId⟩ := framed.ownPort notLag
    rw [isPort]
    simp only [isXpliant, Bool.not_true, Bool.false_eq_true, if_false, ifId, ite_self]
  · rfl

theorem devAddIntfEntry_samePorts (dev : Dev) (intfId : Nat) (name : String) :
    SamePorts dev (devAddIntfEntry dev intfId name) := by
  unfold devAddIntfEntry
  split <;> exact ⟨rfl, rfl⟩

theorem HwFramed.of_samePorts
    {count : Nat} {bridge : Bridge} {before after : Dev} {bundle : Bundle count}
    (framed : HwFramed bridge before bundle)
    (same : SamePorts before after) :
    HwFramed bridge after bundle where
  frameType := by
    rw [same.frameTypes]
    exact framed.frameType
  pvid := by
    rw [same.ports]
    exact framed.pvid

/-- The bundle after the VLAN configuration. -/
theorem framed_configured
    {after : Dev} {bound : Bundle bridge.vlanMaxCount}
    (valid : bound.intfId ≠ bridge.intfInvalidId)
    (hasPorts : bound.ports ≠ [])
    (ownPort : bound.isLag = false → ∃ port,
      bound.ports.head?.bind bridge.port? = some port ∧
        port.isXpliantClass = true ∧ port.ifId = bound.intfId)
    (hw : HwFramed bridge after (bound.configured bridge.toEnv s)) :
    Framed bridge (devAddIntfEntry after bound.intfId bound.name)
      (bound.configured bridge.toEnv s) where
  configured := ⟨s, rfl⟩
  valid := valid
  hasPorts := hasPorts
  ownPort := ownPort
  hw := hw.of_samePorts (devAddIntfEntry_samePorts _ _ _)

/-- The L2 part of the call. -/
theorem OneBundle.bundleConfigureL2
    {property : Bundle bridge.vlanMaxCount → Prop}
    (one : OneBundle bridge aux property ofproto)
    (accepts : xdk.Accepts)
    (member : bundle ∈ ofproto.bundles)
    (isAux : bundle.aux = aux)
    (hasPorts : bundle.ports ≠ [])
    (stands : Unset bridge bundle ∨
      Framed bridge ofproto.dev bundle ∧ ¬Overlooked bundle s) :
    OneBundle bridge aux
      (FramedOrUnset bridge (Bundles.bundleConfigureL2 bridge xdk ofproto bundle s).2.dev)
      (Bundles.bundleConfigureL2 bridge xdk ofproto bundle s).2 := by
  have tied : Tied bridge (Bundles.bundleConfigureL2 bridge xdk ofproto bundle s).2 :=
    one.tied.bundleConfigureL2 bundle s
  rw [one.tied.bundleConfigureL2_eq member s] at tied ⊢
  rcases stands with unset | ⟨framed, noticed⟩
  · have allUnset : OneBundle bridge aux (Unset bridge) ofproto := by
      refine ⟨one.tied, one.single, ?_⟩
      intro other otherMember otherAux
      rw [one.unique member isAux otherMember otherAux]
      exact unset
    cases isBound : bundle.boundToSlave bridge s with
    | none =>
        rw [isBound] at tied
        exact (allUnset.shrinks tied (.bundleDestroy bridge xdk ofproto bundle.id)).imp
          fun _ _ => .inl
    | some bound =>
        rw [isBound] at tied
        obtain ⟨intfId, same, _⟩ := boundToSlave_same isBound
        have samePorts : bound.ports = bundle.ports := by rw [same]
        have sameLag : bound.isLag = bundle.isLag := by rw [same]
        have stillUnset : bound.trunks = none := by
          rw [same]
          exact unset.trunks
        dsimp only at tied ⊢
        split at tied
        · rename_i valid
          obtain ⟨errno, after, equation, hw⟩ :=
            @hwFramed_of_unset bridge xdk ofproto.dev bound s accepts stillUnset
          rw [if_pos valid]
          rw [equation] at tied ⊢
          refine one.replace member isAux tied rfl (.inr ?_)
          have ownPort : bound.isLag = false → ∃ port,
              bound.ports.head?.bind bridge.port? = some port ∧
                port.isXpliantClass = true ∧ port.ifId = bound.intfId := by
            intro notLag
            rw [samePorts]
            refine (boundToSlave_intfId isBound).resolve_left fun sameIntf => ?_
            exact valid (sameIntf.trans (unset.unbound (sameLag ▸ notLag)))
          exact framed_configured valid (samePorts ▸ hasPorts) ownPort hw
        · rename_i invalid
          rw [if_neg invalid]
          refine one.replace member isAux tied rfl (.inl ⟨stillUnset, fun _ => ?_⟩)
          exact not_not.mp invalid
  · rw [framed.boundToSlave s] at tied ⊢
    simp only [if_pos framed.valid] at tied ⊢
    obtain ⟨before, configured⟩ := framed.configured
    obtain ⟨errno, after, equation, hw⟩ := @hwFramed_of_set bridge xdk ofproto.dev bundle s
      before accepts configured framed.hw noticed
    rw [equation] at tied ⊢
    refine one.replace member isAux tied rfl (.inr ?_)
    exact framed_configured framed.valid framed.hasPorts framed.ownPort hw

theorem bundleUpdateHwLagConfig_samePorts
    (bridge : Bridge)
    (xdk : Xdk)
    (dev : Dev)
    {count : Nat}
    (bundle : Bundle count)
    (s : Settings count) :
    SamePorts dev (bundleUpdateHwLagConfig bridge xdk dev bundle s).2 := by
  unfold bundleUpdateHwLagConfig
  cases lagIfList bridge (s.slaves.take 256) with
  | none => exact SamePorts.refl dev
  | some ifList =>
      dsimp only
      split
      · exact SamePorts.lagAttachPorts bridge.toEnv xdk dev bundle.intfId ifList
      · exact SamePorts.refl dev

theorem Framed.of_samePorts
    {after : Dev}
    (framed : Framed bridge dev bundle)
    (same : SamePorts dev after) :
    Framed bridge after bundle where
  configured := framed.configured
  valid := framed.valid
  hasPorts := framed.hasPorts
  ownPort := framed.ownPort
  hw := framed.hw.of_samePorts same

/-- The call from the change of ports on, for a bundle that was not configured. -/
theorem OneBundle.bundleSetPorts_unset
    (one : OneBundle bridge aux (Unset bridge) ofproto)
    (accepts : xdk.Accepts)
    (member : bundle ∈ ofproto.bundles)
    (isAux : bundle.aux = aux) :
    OneBundle bridge aux
      (FramedOrUnset bridge (bundleSetPorts bridge xdk ofproto bundle s).2.dev)
      (bundleSetPorts bridge xdk ofproto bundle s).2 := by
  have dropped : Loading bridge s.slaves bundle.id
      (bundleDropPorts bridge xdk ofproto bundle s) := one.tied.bundleDropPorts member s
  have loading := dropped.foldl_bundleAddPort (fun _ isSlave => isSlave)
    (movesAccepted_of_accepts accepts bundle.id s.slaves _)
  have shrinks : Shrinks ofproto (s.slaves.foldl (bundleAddPort bridge xdk bundle.id)
      (bundleDropPorts bridge xdk ofproto bundle s)) :=
    (Shrinks.foldl_bundleDelPort bridge xdk ofproto _).trans
      (.foldl_bundleAddPort bridge xdk bundle.id _ s.slaves)
  have loaded := one.shrinks loading.tied shrinks
  unfold bundleDropPorts at loaded shrinks
  unfold Bundles.bundleSetPorts
  simp only
  generalize s.slaves.foldl (bundleAddPort bridge xdk bundle.id) _ = between at loaded shrinks ⊢
  cases found : between.bundle? bundle.id with
  | none => exact loaded.imp fun _ _ => .inl
  | some current =>
      obtain ⟨currentMember, currentId⟩ := loaded.tied.bundle?_eq_some.mp found
      obtain ⟨old, oldMember, same⟩ := shrinks.old currentMember
      have oldId : old.id = bundle.id := (congrArg Bundle.id same :).trans currentId
      have isOld : old = bundle := by
        have oldFound := one.tied.bundle?_eq_some.mpr ⟨oldMember, oldId⟩
        rw [one.tied.bundle?_eq_some.mpr ⟨member, rfl⟩] at oldFound
        exact (Option.some.inj oldFound).symm
      have currentAux : current.aux = aux := by
        rw [← isAux, ← isOld]
        exact (congrArg Bundle.aux same.symm :)
      simp only
      split
      · exact (loaded.shrinks (loaded.tied.bundleDestroy current.id)
          (.bundleDestroy bridge xdk between current.id)).imp fun _ _ => .inl
      rename_i occupied
      have hasPorts : current.ports ≠ [] := by simpa using occupied
      generalize (if current.isLag then _ else _ : Ending × Dev) = result
      obtain ⟨ending, dev⟩ := result
      have attached : OneBundle bridge aux (Unset bridge) { between with dev := dev } :=
        loaded.of_bundles (loaded.tied.of_links rfl rfl) rfl
      dsimp only
      split
      · exact attached.bundleConfigureL2 accepts currentMember currentAux hasPorts
          (.inl (loaded.holds current currentMember currentAux))
      · exact attached.imp fun _ _ => .inl

/-- The settings name the ports that the bundle has. -/
def NamesPorts (bridge : Bridge) {count : Nat} (s : Settings count) (bundle : Bundle count) :
    Prop :=
  ∀ ofpPort, ofpPort ∈ bundle.ports ↔
    ofpPort ∈ s.slaves ∧ (bridge.port? ofpPort).isSome = true

/-- The call from the change of ports on, for a bundle that was configured. -/
theorem OneBundle.bundleSetPorts_framed
    (one : OneBundle bridge aux (FramedOrUnset bridge ofproto.dev) ofproto)
    (accepts : xdk.Accepts)
    (member : bundle ∈ ofproto.bundles)
    (isAux : bundle.aux = aux)
    (framed : Framed bridge ofproto.dev bundle)
    (names : NamesPorts bridge s bundle)
    (noticed : ¬Overlooked bundle s) :
    OneBundle bridge aux
      (FramedOrUnset bridge (bundleSetPorts bridge xdk ofproto bundle s).2.dev)
      (bundleSetPorts bridge xdk ofproto bundle s).2 := by
  rw [one.tied.bundleSetPorts_of_same member (fun ofpPort inside => ((names ofpPort).mp inside).1)
    (fun slave isSlave known => (names slave).mpr ⟨isSlave, known⟩) framed.hasPorts]
  have samePorts : SamePorts ofproto.dev (if bundle.isLag then
      bundleUpdateHwLagConfig bridge xdk ofproto.dev bundle s
      else (.returned none, ofproto.dev)).2 := by
    split
    · exact bundleUpdateHwLagConfig_samePorts bridge xdk ofproto.dev bundle s
    · exact SamePorts.refl ofproto.dev
  generalize (if bundle.isLag then _ else _ : Ending × Dev) = result at samePorts ⊢
  obtain ⟨ending, dev⟩ := result
  have attached : OneBundle bridge aux (FramedOrUnset bridge dev) { ofproto with dev := dev } := by
    have moved : OneBundle bridge aux (FramedOrUnset bridge ofproto.dev)
        { ofproto with dev := dev } := one.of_bundles (one.tied.of_links rfl rfl) rfl
    exact moved.imp fun _ _ => Or.imp_right fun framed => framed.of_samePorts samePorts
  dsimp only
  split
  · exact attached.bundleConfigureL2 accepts member isAux framed.hasPorts
      (.inr ⟨framed.of_samePorts samePorts, noticed⟩)
  · exact attached

/-! ## The whole call -/

/-- The interface of the bundle was made or released. -/
theorem OneBundle.createRemoveHwLag
    (one : OneBundle bridge aux (Unset bridge) ofproto)
    (accepts : xdk.Accepts)
    (member : bundle ∈ ofproto.bundles)
    (isAux : bundle.aux = aux) :
    (bundleCreateRemoveHwLag bridge xdk ofproto bundle s).1 = none ∧
      OneBundle bridge aux (Unset bridge)
        (bundleCreateRemoveHwLag bridge xdk ofproto bundle s).2 := by
  obtain ⟨links, next⟩ := bundleCreateRemoveHwLag_links bridge xdk ofproto bundle s
  have tied := one.tied.of_links links next
  have unset := one.holds bundle member isAux
  have rewritten : ∀ change : Bundle bridge.vlanMaxCount → Bundle bridge.vlanMaxCount,
      KeyedList.rewrite (·.id) bundle.id change ofproto.bundles =
        KeyedList.rewrite (·.id) bundle.id (fun _ => change bundle) ofproto.bundles :=
    fun change => congrArg Ofproto.bundles (one.tied.modify_eq_replace member change)
  unfold bundleCreateRemoveHwLag at tied ⊢
  split
  · rename_i made
    rw [if_pos made] at tied
    unfold lagCreate at tied ⊢
    simp only [accepts.call, if_true] at tied ⊢
    refine ⟨trivial, one.replace member isAux tied (rewritten _) ⟨unset.trunks, ?_⟩⟩
    exact fun notLag => absurd notLag.symm Bool.false_ne_true
  split
  · rename_i notMade destroyed
    rw [if_neg notMade, if_pos destroyed] at tied
    exact ⟨rfl, one.replace member isAux tied (rewritten _) ⟨unset.trunks, fun _ => rfl⟩⟩
  · exact ⟨rfl, one⟩

/-- The settings leave a bundle its interface and its ports.  A call that only
allocates does not look at the ports. -/
structure FixedBy (bridge : Bridge) {count : Nat} (s : Settings count)
    (bundle : Bundle count) : Prop where
  ports : s.bondHandleAllocOnly = false → NamesPorts bridge s bundle
  bonded : bundle.isLag = true → s.hwBondShouldExist = true

/-- A call for a bundle that was configured. -/
theorem OneBundle.bundleSet_framed
    (one : OneBundle bridge aux (FramedOrUnset bridge ofproto.dev) ofproto)
    (accepts : xdk.Accepts)
    (found : bundleLookup ofproto aux = some bundle)
    (framed : Framed bridge ofproto.dev bundle)
    (fixed : FixedBy bridge s bundle)
    (noticed : s.bondHandleAllocOnly = false → ¬Overlooked bundle s) :
    OneBundle bridge aux
      (FramedOrUnset bridge (bundleSet bridge xdk ofproto aux (some s)).2.dev)
      (bundleSet bridge xdk ofproto aux (some s)).2 := by
  have member := List.mem_of_find?_eq_some found
  have isAux : bundle.aux = aux := by simpa using List.find?_some found
  have isObtained : obtainedBundle bridge ofproto aux s.name =
      { bundle with portsUpdated := false, name := s.name } := by
    rw [obtainedBundle, found]
  have renamed : Framed bridge ofproto.dev (obtainedBundle bridge ofproto aux s.name) := by
    obtain ⟨before, configured⟩ := framed.configured
    rw [isObtained]
    refine ⟨⟨before, ?_⟩, framed.valid, framed.hasPorts, framed.ownPort,
      ⟨framed.hw.frameType, framed.hw.pvid⟩⟩
    exact congrArg (fun bundle : Bundle bridge.vlanMaxCount =>
      { bundle with portsUpdated := false, name := s.name }) configured
  have obtainedTied : Tied bridge (bundleObtain bridge ofproto aux s.name).2 :=
    one.tied.bundleObtain aux s.name
  have sameDev := bundleObtain_dev bridge ofproto aux s.name
  have obtained : OneBundle bridge aux (FramedOrUnset bridge ofproto.dev)
      (bundleObtain bridge ofproto aux s.name).2 := by
    refine one.replace member isAux obtainedTied ?_ (.inr renamed)
    have rewritten := congrArg Ofproto.bundles (one.tied.modify_eq_replace member
      fun bundle => { bundle with portsUpdated := false, name := s.name })
    rw [isObtained, bundleObtain, found]
    exact rewritten
  have isFound := (@Tied.bundleObtain_bundle? _ bridge _ one.tied aux s.name).2
  have nothing : bundleCreateRemoveHwLag bridge xdk (bundleObtain bridge ofproto aux s.name).2
      (obtainedBundle bridge ofproto aux s.name) s =
        (none, (bundleObtain bridge ofproto aux s.name).2) := by
    refine bundleCreateRemoveHwLag_of_kept (fun invalid => absurd invalid renamed.valid) ?_
    rw [isObtained]
    exact fixed.bonded
  rw [one.tied.bundleSet_eq aux s (by rw [nothing])]
  simp only [nothing, isFound]
  cases allocOnly : s.bondHandleAllocOnly with
  | true =>
      simp only [if_true]
      rw [sameDev]
      exact obtained
  | false =>
      rw [if_neg Bool.false_ne_true]
      rw [← sameDev] at renamed obtained
      refine obtained.bundleSetPorts_framed accepts
        (obtainedTied.bundle?_eq_some.mp isFound).1 ?_ renamed ?_ ?_
      · rw [isObtained]
        exact isAux
      · rw [isObtained]
        exact fixed.ports allocOnly
      · rw [isObtained]
        exact noticed allocOnly

/-- A call for a bundle that was not configured, or for a new one. -/
theorem OneBundle.bundleSet_unset
    (one : OneBundle bridge aux (Unset bridge) ofproto)
    (accepts : xdk.Accepts) :
    OneBundle bridge aux
      (FramedOrUnset bridge (bundleSet bridge xdk ofproto aux (some s)).2.dev)
      (bundleSet bridge xdk ofproto aux (some s)).2 := by
  have obtainedTied : Tied bridge (bundleObtain bridge ofproto aux s.name).2 :=
    one.tied.bundleObtain aux s.name
  have isFound := (@Tied.bundleObtain_bundle? _ bridge _ one.tied aux s.name).2
  have isAux : (obtainedBundle bridge ofproto aux s.name).aux = aux := obtainedBundle_aux.1
  have obtainedMember := (obtainedTied.bundle?_eq_some.mp isFound).1
  have obtained : OneBundle bridge aux (Unset bridge)
      (bundleObtain bridge ofproto aux s.name).2 := by
    cases found : bundleLookup ofproto aux with
    | some bundle =>
        have member := List.mem_of_find?_eq_some found
        have bundleAux : bundle.aux = aux := by simpa using List.find?_some found
        have unset := one.holds bundle member bundleAux
        have renamed : Unset bridge { bundle with portsUpdated := false, name := s.name } :=
          ⟨unset.trunks, unset.unbound⟩
        have rewritten := congrArg Ofproto.bundles (one.tied.modify_eq_replace member
          fun bundle => { bundle with portsUpdated := false, name := s.name })
        refine one.replace member bundleAux obtainedTied ?_ renamed
        rw [bundleObtain, found]
        exact rewritten
    | none =>
        have absent : ∀ other ∈ ofproto.bundles, other.aux ≠ aux := by
          intro other otherMember otherAux
          have missing := List.find?_eq_none.mp found other otherMember
          simp [otherAux] at missing
        have bundles : (bundleObtain bridge ofproto aux s.name).2.bundles =
            .new bridge ofproto.nextBundle aux s.name :: ofproto.bundles := by
          rw [bundleObtain, found]
        have onlyNew : ∀ other ∈ (bundleObtain bridge ofproto aux s.name).2.bundles,
            other.aux = aux → other = .new bridge ofproto.nextBundle aux s.name := by
          intro other otherMember otherAux
          rw [bundles] at otherMember
          rcases List.mem_cons.mp otherMember with isNew | old
          · exact isNew
          · exact absurd otherAux (absent other old)
        refine ⟨obtainedTied, ?_, ?_⟩
        · intro first firstMember second secondMember firstAux secondAux
          rw [onlyNew first firstMember firstAux, onlyNew second secondMember secondAux]
        · intro other otherMember otherAux
          rw [onlyNew other otherMember otherAux]
          exact ⟨rfl, fun _ => rfl⟩
  obtain ⟨made, started⟩ := @OneBundle.createRemoveHwLag bridge xdk aux _ _ s obtained accepts
    obtainedMember isAux
  obtain ⟨present, _⟩ := @bundleCreateRemoveHwLag_withLag _ bridge xdk _ _ s accepts isFound
  rw [one.tied.bundleSet_eq aux s made]
  simp only [present]
  split
  · exact started.imp fun _ _ => .inl
  · refine started.bundleSetPorts_unset accepts (started.tied.bundle?_eq_some.mp present).1 ?_
    obtain ⟨_, _, same⟩ := @withLag_same _ bridge (obtainedBundle bridge ofproto aux s.name) s
      (xdk.lagCreate (bundleObtain bridge ofproto aux s.name).2.dev.calls)
    rw [same]
    exact isAux

end Configuring

/-! ## Runs -/

/-- A call of `ofproto_xpliant_bundle_set` for the bundle of an `aux`, with every
call of the XDK accepted.  Once its VLANs were configured the bundle keeps its
interface and its ports. -/
def SetsFixed (bridge : Bridge) (aux : Nat) (ofproto : Ofproto bridge.vlanMaxCount)
    (operation : Operation bridge.vlanMaxCount) : Prop :=
  operation.xdk.Accepts ∧ ∃ s, operation.event = .bundleSet aux (some s) ∧
    ∀ bundle, bundleLookup ofproto aux = some bundle → bundle.trunks ≠ none →
      FixedBy bridge s bundle

/-- The call that configures VLANs does not make an access port of the default
VLAN a trunk port without VLANs. -/
def NoneOverlooked (bridge : Bridge) (aux : Nat) (ofproto : Ofproto bridge.vlanMaxCount)
    (operation : Operation bridge.vlanMaxCount) : Prop :=
  ∀ s bundle, operation.event = .bundleSet aux (some s) → s.bondHandleAllocOnly = false →
    bundleLookup ofproto aux = some bundle → ¬Overlooked bundle s

/-- The bundle of the `aux` does not exist yet. -/
def AuxFree (bridge : Bridge) (aux : Nat) (ofproto : Ofproto bridge.vlanMaxCount) : Prop :=
  Tied bridge ofproto ∧ bundleLookup ofproto aux = none

/-- The hardware has what the bundle of the `aux` was configured to, if it was. -/
def FollowsConfig (bridge : Bridge) (aux : Nat) (ofproto : Ofproto bridge.vlanMaxCount) :
    Prop :=
  ∀ bundle, bundleLookup ofproto aux = some bundle → bundle.trunks ≠ none →
    HwFramed bridge ofproto.dev bundle

section Runs

variable {bridge : Bridge} {aux : Nat} {ofproto : Ofproto bridge.vlanMaxCount}
  {operation : Operation bridge.vlanMaxCount}

theorem AuxFree.oneBundle (free : AuxFree bridge aux ofproto) :
    OneBundle bridge aux (FramedOrUnset bridge ofproto.dev) ofproto := by
  have absent : ∀ bundle ∈ ofproto.bundles, bundle.aux ≠ aux := by
    intro bundle member isAux
    have missing := List.find?_eq_none.mp free.2 bundle member
    simp [isAux] at missing
  exact ⟨free.1, fun bundle member _ _ isAux _ => absurd isAux (absent bundle member),
    fun bundle member isAux => absurd isAux (absent bundle member)⟩

theorem OneBundle.followsConfig
    (one : OneBundle bridge aux (FramedOrUnset bridge ofproto.dev) ofproto) :
    FollowsConfig bridge aux ofproto := by
  intro bundle found configured
  have isAux : bundle.aux = aux := by simpa using List.find?_some found
  rcases one.holds bundle (List.mem_of_find?_eq_some found) isAux with unset | framed
  · exact absurd unset.trunks configured
  · exact framed.hw

/-- One call of the run. -/
theorem OneBundle.step
    (one : OneBundle bridge aux (FramedOrUnset bridge ofproto.dev) ofproto)
    (sets : SetsFixed bridge aux ofproto operation)
    (noticed : NoneOverlooked bridge aux ofproto operation) :
    OneBundle bridge aux (FramedOrUnset bridge (Bundles.step bridge ofproto operation).dev)
      (Bundles.step bridge ofproto operation) := by
  obtain ⟨accepts, s, event, fixed⟩ := sets
  unfold Bundles.step
  rw [event]
  simp only
  have unsetUnless : (∀ bundle, bundleLookup ofproto aux = some bundle →
      ¬Framed bridge ofproto.dev bundle) → OneBundle bridge aux (Unset bridge) ofproto := by
    intro noneFramed
    refine ⟨one.tied, one.single, ?_⟩
    intro other otherMember otherAux
    have isSome : (bundleLookup ofproto aux).isSome = true :=
      List.find?_isSome.mpr ⟨other, otherMember, by simpa using otherAux⟩
    obtain ⟨bundle, found⟩ := Option.isSome_iff_exists.mp isSome
    have isAux : bundle.aux = aux := by simpa using List.find?_some found
    have same := one.unique (List.mem_of_find?_eq_some found) isAux otherMember otherAux
    have notFramed := noneFramed bundle found
    rw [← same] at notFramed
    exact (one.holds other otherMember otherAux).resolve_right notFramed
  cases found : bundleLookup ofproto aux with
  | none =>
      refine (unsetUnless ?_).bundleSet_unset accepts
      intro bundle isFound
      rw [found] at isFound
      cases isFound
  | some bundle =>
      by_cases framed : Framed bridge ofproto.dev bundle
      · obtain ⟨before, configured⟩ := framed.configured
        have trunks : bundle.trunks ≠ none := by
          rw [← configured]
          exact Option.some_ne_none _
        exact one.bundleSet_framed accepts found framed (fixed bundle found trunks)
          fun allocOnly => noticed s bundle event allocOnly found
      · refine (unsetUnless ?_).bundleSet_unset accepts
        intro other isFound
        rw [found] at isFound
        cases isFound
        exact framed

/-- The hardware follows the configuration of the bundle in every run of calls
without the overlooked change. -/
theorem followsConfig_of_reached
    (reached : Transition.Reach (AuxFree bridge aux)
      (fun ofproto operation => SetsFixed bridge aux ofproto operation ∧
        NoneOverlooked bridge aux ofproto operation) (step bridge) ofproto) :
    FollowsConfig bridge aux ofproto := by
  have one : OneBundle bridge aux (FramedOrUnset bridge ofproto.dev) ofproto :=
    reached.invariant
      (fun ofproto => OneBundle bridge aux (FramedOrUnset bridge ofproto.dev) ofproto)
      (fun _ free => free.oneBundle) fun _ _ one guarded => one.step guarded.1 guarded.2
  exact one.followsConfig

end Runs

/-! ## A port that changes its mode -/

/-- The port is an access port of the default VLAN. -/
def accessOfproto : Ofproto (sampleBridge 7 8).vlanMaxCount :=
  step (sampleBridge 7 8) (sampleOfproto _) (operate (.bundleSet 1 (some accessSettings)) 100)

theorem auxFree_sampleOfproto : AuxFree (sampleBridge 7 8) 1 (sampleOfproto _) :=
  ⟨Unbundled.tied ⟨rfl, fun _ => rfl⟩, rfl⟩

theorem setsFixed_sampleOfproto :
    SetsFixed (sampleBridge 7 8) 1 (sampleOfproto _)
      (operate (.bundleSet 1 (some accessSettings)) 100) :=
  ⟨fun _ => rfl, accessSettings, rfl, fun _ found => nomatch found⟩

/-- Settings with the one port leave the bundle its interface and its port. -/
theorem setsFixed_accessOfproto
    {s : Settings 4096}
    (slaves : s.slaves = [1]) :
    SetsFixed (sampleBridge 7 8) 1 accessOfproto (operate (.bundleSet 1 (some s)) 100) := by
  refine ⟨fun _ => rfl, s, rfl, ?_⟩
  intro bundle found _
  have known : (bundleLookup accessOfproto 1).all
      (fun bundle => decide (bundle.ports = [1]) && !bundle.isLag) = true := by decide +kernel
  simp only [found, Option.all_some, Bool.and_eq_true, decide_eq_true_eq,
    Bool.not_eq_true'] at known
  refine ⟨fun _ ofpPort => ?_, fun isLag => absurd (known.2.symm.trans isLag)
    Bool.false_ne_true⟩
  rw [known.1, slaves, List.mem_singleton]
  refine ⟨?_, fun named => named.1⟩
  rintro rfl
  exact ⟨rfl, rfl⟩

/-- The port becomes a trunk port. -/
def trunkOfproto : Ofproto (sampleBridge 7 8).vlanMaxCount :=
  step (sampleBridge 7 8) accessOfproto
    (operate (.bundleSet 1 (some (trunkSettings "1" [1] false 10))) 100)

theorem followsConfig_trunkOfproto :
    (bundleLookup trunkOfproto 1).any (·.trunks.isSome) = true ∧
      FollowsConfig (sampleBridge 7 8) 1 trunkOfproto := by
  refine ⟨by decide +kernel, followsConfig_of_reached ?_⟩
  refine .next (.next (.start auxFree_sampleOfproto) ⟨setsFixed_sampleOfproto, ?_⟩)
    ⟨setsFixed_accessOfproto rfl, ?_⟩
  · rintro _ _ ⟨⟩ _ found
    cases found
  · rintro _ _ ⟨⟩ _ _ ⟨_, _, _, empty⟩
    revert empty
    decide +kernel

/-- The port becomes a trunk port without VLANs. -/
def overlookedOfproto : Ofproto (sampleBridge 7 8).vlanMaxCount :=
  step (sampleBridge 7 8) accessOfproto
    (operate (.bundleSet 1 (some { trunkSettings "1" [1] false 10 with trunks := none })) 100)

/-- The trunk port still accepts untagged frames only. -/
theorem not_followsConfig_overlookedOfproto :
    Transition.Reach (AuxFree (sampleBridge 7 8) 1) (SetsFixed (sampleBridge 7 8) 1)
        (step (sampleBridge 7 8)) overlookedOfproto ∧
      ¬FollowsConfig (sampleBridge 7 8) 1 overlookedOfproto := by
  refine ⟨.next (.next (.start auxFree_sampleOfproto) setsFixed_sampleOfproto)
    (setsFixed_accessOfproto rfl), ?_⟩
  intro follows
  have wrong : (bundleLookup overlookedOfproto 1).any (fun bundle =>
      bundle.trunks.isSome && decide (bundle.vlanMode = .trunk) &&
        decide (overlookedOfproto.dev.hw.frameTypes bundle.intfId = .unPri)) = true := by
    decide +kernel
  obtain ⟨bundle, found, facts⟩ := (Option.any_eq_true _ _).mp wrong
  obtain ⟨trunked, frame⟩ := Bool.and_eq_true_iff.mp facts
  obtain ⟨configured, mode⟩ := Bool.and_eq_true_iff.mp trunked
  have framed := follows bundle found (Option.isSome_iff_ne_none.mp configured)
  refine absurd ((of_decide_eq_true frame).symm.trans framed.frameType) ?_
  rw [of_decide_eq_true mode]
  decide

end Bundles
end XpliantSwitchd
