import XpliantSwitchd.Bundles.LagPorts
import XpliantSwitchd.Bundles.Links

/-!
# What every operation keeps

Whatever the switch daemon asks for, the table of the VLAN manager stays
well-formed, a port stays in one LAG at most and every `aux` has one bundle, as
long as the XDK accepts every call and gives LAGs ids of their own.
-/

namespace XpliantSwitchd
namespace Bundles

open Vlans

variable {count : Nat}

/-! ## The LAGs of the hardware -/

section Lags

variable (env : Env) (xdk : Xdk) (dev : Dev) (vlanId intfId : Nat)

theorem call_lags
    {effect : Hw → Hw}
    (keeps : (effect dev.hw).lags = dev.hw.lags) :
    (dev.call xdk effect).2.hw.lags = dev.hw.lags := by
  unfold Dev.call
  split
  · exact keeps
  · rfl

@[simp] theorem call_id_lags : (dev.call xdk id).2.hw.lags = dev.hw.lags :=
  call_lags xdk dev rfl

@[simp] theorem call_onVlan_lags (change : List Member → List Member) :
    (dev.call xdk (Hw.onVlan vlanId change)).2.hw.lags = dev.hw.lags :=
  call_lags xdk dev rfl

@[simp] theorem setVlan_hw (vlan : Vlan) : (dev.setVlan vlanId vlan).hw = dev.hw := rfl

@[simp] theorem vlanMemberAdd_lags (encapType : EncapType) :
    (vlanMemberAdd env xdk dev vlanId intfId encapType).2.hw.lags = dev.hw.lags := by
  unfold vlanMemberAdd
  simp only
  split
  · rfl
  split
  · rfl
  split <;> simp

@[simp] theorem vlanMemberRemove_lags :
    (vlanMemberRemove env xdk dev vlanId intfId).2.hw.lags = dev.hw.lags := by
  unfold vlanMemberRemove
  split
  · rfl
  cases vlanMemberLookup env dev vlanId intfId with
  | none => rfl
  | some member =>
      have disabled : (if env.isTunnelIntf intfId then (true, dev)
          else dev.call xdk id).2.hw.lags = dev.hw.lags := by
        split
        · rfl
        · exact call_id_lags xdk dev
      simp only
      generalize (if env.isTunnelIntf intfId then _ else _ : Bool × Dev) = result
        at disabled ⊢
      split
      · exact disabled
      split <;> simp [disabled]

@[simp] theorem vlanMemberSetTagging_lags (tagging : Bool) :
    (vlanMemberSetTagging env xdk dev vlanId intfId tagging).2.hw.lags = dev.hw.lags := by
  unfold vlanMemberSetTagging
  simp only
  split
  · rfl
  split
  · rfl
  split
  · rfl
  split
  · rfl
  have removed := vlanMemberRemove_lags env xdk dev vlanId intfId
  generalize vlanMemberRemove env xdk dev vlanId intfId = result at removed ⊢
  obtain ⟨errno, between⟩ := result
  cases errno with
  | some errno => exact removed
  | none => exact (vlanMemberAdd_lags _ _ _ _ _ _).trans removed

theorem clearMembership_lags (vlanIds : List Nat) :
    (clearMembership env xdk intfId vlanIds dev).2.hw.lags = dev.hw.lags := by
  induction vlanIds generalizing dev with
  | nil => rfl
  | cons vlanId vlanIds inductionHypothesis =>
      unfold clearMembership
      split
      · exact inductionHypothesis dev
      have removed := vlanMemberRemove_lags env xdk dev vlanId intfId
      generalize vlanMemberRemove env xdk dev vlanId intfId = result at removed ⊢
      obtain ⟨errno, between⟩ := result
      cases errno with
      | some errno => exact removed
      | none => exact (inductionHypothesis between).trans removed

@[simp] theorem vlanPortClearAllMembership_lags :
    (vlanPortClearAllMembership env xdk dev intfId).2.hw.lags = dev.hw.lags :=
  clearMembership_lags env xdk dev intfId (vlanIds env)

@[simp] theorem vlanCreate_lags :
    (vlanCreate env xdk dev vlanId).2.hw.lags = dev.hw.lags := by
  have created : (dev.call xdk fun hw =>
      { hw with vlans := Function.update hw.vlans vlanId (some []) }).2.hw.lags =
        dev.hw.lags := call_lags xdk dev rfl
  unfold vlanCreate
  simp only
  split
  · rfl
  split
  · rfl
  split
  · exact created
  split
  · simp [created]
  split <;> simp [created]

@[simp] theorem vlanRemove_lags :
    (vlanRemove env xdk dev vlanId).2.hw.lags = dev.hw.lags := by
  unfold vlanRemove
  simp only
  split
  · rfl
  split <;> exact call_lags xdk _ rfl

@[simp] theorem portDefaultVlanSet_lags (portNum : Nat) :
    (portDefaultVlanSet xdk dev portNum vlanId).2.hw.lags = dev.hw.lags := by
  unfold portDefaultVlanSet
  simp only
  split
  · simp
  split
  · simp
  split <;> exact (call_lags xdk _ rfl).trans (call_id_lags xdk dev)

@[simp] theorem setPvids_lags (ports : List OfPort) :
    (setPvids xdk vlanId ports dev).2.hw.lags = dev.hw.lags := by
  induction ports generalizing dev with
  | nil => rfl
  | cons port ports inductionHypothesis =>
      have set := portDefaultVlanSet_lags xdk dev vlanId port.portNum
      unfold setPvids
      generalize portDefaultVlanSet xdk dev port.portNum vlanId = result at set ⊢
      obtain ⟨errno, between⟩ := result
      cases errno with
      | some errno => exact set
      | none => exact (inductionHypothesis between).trans set

@[simp] theorem dropVlan_lags (trunks : BitVec count) :
    (dropVlan env xdk dev intfId vlanId trunks).2.2.hw.lags = dev.hw.lags := by
  unfold dropVlan
  simp only
  split <;> simp

@[simp] theorem dropRetagged_lags (vlan oldVlan : Nat) (old new : BitVec count) :
    (dropRetagged env xdk dev intfId vlan oldVlan old new).2.2.hw.lags = dev.hw.lags := by
  have first : (if old.getLsbD vlan then dropVlan env xdk dev intfId vlan old
      else (none, old, dev)).2.2.hw.lags = dev.hw.lags := by
    split <;> simp
  unfold dropRetagged
  generalize (if old.getLsbD vlan then _ else _ : Option Errno × BitVec count × Dev) =
    result at first ⊢
  obtain ⟨errno, kept, between⟩ := result
  cases errno with
  | some errno => exact first
  | none =>
      simp only
      split
      · exact (dropVlan_lags _ _ _ _ _ _).trans first
      · exact first

@[simp] theorem trunksToCompare_lags (bundle : Bundle count) (s : Settings count) :
    (trunksToCompare env xdk dev bundle s).2.2.hw.lags = dev.hw.lags := by
  unfold trunksToCompare
  cases bundle.trunks with
  | none => rfl
  | some old =>
      simp only
      split <;> simp

@[simp] theorem updateParticipation_lags (bundle : Bundle count) (vids : List Nat) :
    (updateParticipation env xdk bundle vids dev).2.hw.lags = dev.hw.lags := by
  induction vids generalizing dev with
  | nil => rfl
  | cons vid vids inductionHypothesis =>
      unfold updateParticipation
      split
      · have changed : (if bundle.isTrunked vid then
            vlanMemberAdd env xdk dev vid bundle.intfId (bundle.encapType vid)
            else vlanMemberRemove env xdk dev vid bundle.intfId).2.hw.lags =
              dev.hw.lags := by
          split <;> simp
        simp only
        generalize (if bundle.isTrunked vid then _ else _ : Option Errno × Dev) = result
          at changed ⊢
        obtain ⟨errno, between⟩ := result
        cases errno with
        | some errno => exact changed
        | none => exact (inductionHypothesis between).trans changed
      · exact inductionHypothesis dev

@[simp] theorem applyTrunks_lags (bundle : Bundle count) (ports : List OfPort)
    (frameType : FrameType) (trunksDiff : BitVec count) :
    (applyTrunks env xdk dev bundle ports frameType trunksDiff).2.hw.lags =
      dev.hw.lags := by
  have framed : (dev.call xdk fun hw =>
      { hw with frameTypes :=
          Function.update hw.frameTypes bundle.intfId frameType }).2.hw.lags =
        dev.hw.lags := call_lags xdk dev rfl
  unfold applyTrunks
  simp only
  generalize dev.call xdk _ = called at framed ⊢
  split
  · exact framed
  have set := setPvids_lags xdk called.2 (xpsVlan bundle.vlan) ports
  generalize setPvids xdk (xpsVlan bundle.vlan) ports called.2 = result at set ⊢
  obtain ⟨errno, between⟩ := result
  cases errno with
  | some errno => exact set.trans framed
  | none => exact (updateParticipation_lags _ _ _ _ _).trans (set.trans framed)

@[simp] theorem bundleUpdateVlanConfig_lags (bridge : Bridge) (bundle : Bundle count)
    (s : Settings count) :
    (bundleUpdateVlanConfig bridge xdk dev bundle s).2.2.hw.lags = dev.hw.lags := by
  have compared := trunksToCompare_lags bridge.toEnv xdk dev bundle s
  unfold bundleUpdateVlanConfig
  generalize trunksToCompare bridge.toEnv xdk dev bundle s = result at compared ⊢
  obtain ⟨errno, oldTrunks, between⟩ := result
  cases errno with
  | some errno => exact compared
  | none =>
      simp only
      split
      · exact (applyTrunks_lags _ _ _ _ _ _ _).trans compared
      · exact compared

@[simp] theorem joinDefaultVlan_lags (port : OfPort) :
    (joinDefaultVlan env xdk dev port).hw.lags = dev.hw.lags := by
  unfold joinDefaultVlan
  split
  · split <;> simp
  · rfl

end Lags

/-! ## The device -/

/-- A well-formed device, on which some interfaces are in no VLAN. -/
structure DevSound (env : Env) (absent : Nat → Prop) (dev : Dev) : Prop where
  lags : ∃ links, LagLinks dev links
  vlans : ∃ members, Represents env dev members ∧
    ∀ vid intfId, absent intfId → members.label vid intfId = none

namespace DevSound

variable {env : Env} {xdk : Xdk} {dev after : Dev} {absent : Nat → Prop}

/-- Only the table and the LAGs matter. -/
theorem of_same
    (sound : DevSound env absent dev)
    (sameTable : after.table = dev.table)
    (sameLags : after.hw.lags = dev.hw.lags) :
    DevSound env absent after := by
  obtain ⟨⟨links, holds⟩, members, represents, unlisted⟩ := sound
  exact ⟨⟨links, holds.of_lags sameLags⟩, members, represents.of_table sameTable,
    unlisted⟩

/-- A change of the LAGs. -/
theorem of_table
    (sound : DevSound env absent dev)
    (sameTable : after.table = dev.table)
    (lags : ∃ links, LagLinks after links) :
    DevSound env absent after := by
  obtain ⟨_, members, represents, unlisted⟩ := sound
  exact ⟨lags, members, represents.of_table sameTable, unlisted⟩

/-- A change of the table. -/
theorem of_represents
    (sound : DevSound env absent dev)
    {members : VlanRoster}
    (represents : Represents env after members)
    (unlisted : ∀ vid intfId, absent intfId → members.label vid intfId = none)
    (sameLags : after.hw.lags = dev.hw.lags) :
    DevSound env absent after := by
  obtain ⟨⟨links, holds⟩, _⟩ := sound
  exact ⟨⟨links, holds.of_lags sameLags⟩, members, represents, unlisted⟩

theorem isMember
    (sound : DevSound env absent dev)
    {intfId : Nat}
    (isAbsent : absent intfId)
    (vid : Nat) :
    vlanPortIsMember env dev vid intfId = false := by
  obtain ⟨_, members, represents, unlisted⟩ := sound
  rw [represents.isMember_eq, unlisted vid intfId isAbsent]
  rfl

/-- Interfaces that are in no VLAN may be counted as absent. -/
theorem of_isMember
    (sound : DevSound env absent dev)
    {unlisted : Nat → Prop}
    (none : ∀ intfId, unlisted intfId → ∀ vid,
      vlanPortIsMember env dev vid intfId = false) :
    DevSound env unlisted dev := by
  obtain ⟨lags, members, represents, _⟩ := sound
  refine ⟨lags, members, represents, ?_⟩
  intro vid intfId isAbsent
  have isMember := none intfId isAbsent vid
  rw [represents.isMember_eq] at isMember
  simpa using isMember

theorem memberAdd
    (sound : DevSound env absent dev)
    (accepts : xdk.Accepts)
    (vlanId : Nat)
    {intfId : Nat}
    (allowed : ¬absent intfId)
    (encapType : EncapType) :
    DevSound env absent (vlanMemberAdd env xdk dev vlanId intfId encapType).2 := by
  obtain ⟨members, represents, unlisted⟩ := sound.vlans
  refine sound.of_represents (represents.memberAdd accepts vlanId intfId encapType).1 ?_
    (vlanMemberAdd_lags env xdk dev vlanId intfId encapType)
  intro vid other isAbsent
  have different : other ≠ intfId := by
    rintro rfl
    exact allowed isAbsent
  rw [Roster.join_label_of_ne (.inr different)]
  exact unlisted vid other isAbsent

theorem memberRemove
    (sound : DevSound env absent dev)
    (accepts : xdk.Accepts)
    (vlanId intfId : Nat) :
    DevSound env absent (vlanMemberRemove env xdk dev vlanId intfId).2 := by
  obtain ⟨members, represents, unlisted⟩ := sound.vlans
  refine sound.of_represents (represents.memberRemove accepts vlanId intfId).1 ?_
    (vlanMemberRemove_lags env xdk dev vlanId intfId)
  intro vid other isAbsent
  by_cases same : vid = vlanId ∧ other = intfId
  · rw [same.1, same.2]
    exact Roster.leave_label_self
  · rw [Roster.leave_label_of_ne (by tauto)]
    exact unlisted vid other isAbsent

/-- `ops_xp_vlan_port_clear_all_membership` makes an interface absent. -/
theorem clearAllMembership
    (sound : DevSound env absent dev)
    (accepts : xdk.Accepts)
    (intfId : Nat) :
    DevSound env (fun other => absent other ∨ other = intfId)
      (vlanPortClearAllMembership env xdk dev intfId).2 := by
  obtain ⟨⟨links, holds⟩, members, represents, unlisted⟩ := sound
  refine ⟨⟨links, holds.of_lags (vlanPortClearAllMembership_lags env xdk dev intfId)⟩,
    _, represents.portClearAllMembership accepts intfId, ?_⟩
  intro vid other isAbsent
  simp only [Roster.leaveAll]
  split
  · rfl
  · rename_i different
    exact unlisted vid other (isAbsent.resolve_right different)

theorem mono
    {fewer : Nat → Prop}
    (sound : DevSound env absent dev)
    (weaker : ∀ intfId, fewer intfId → absent intfId) :
    DevSound env fewer dev := by
  obtain ⟨lags, members, represents, unlisted⟩ := sound
  exact ⟨lags, members, represents, fun vid intfId isAbsent =>
    unlisted vid intfId (weaker intfId isAbsent)⟩

theorem joinDefaultVlan
    (sound : DevSound env absent dev)
    (accepts : xdk.Accepts)
    {port : OfPort}
    (allowed : port.type = .system → ¬absent port.ifId) :
    DevSound env absent (Bundles.joinDefaultVlan env xdk dev port) := by
  by_cases isSystem : port.type = .system
  · obtain ⟨members, represents, unlisted⟩ := sound.vlans
    obtain ⟨joined, holds, _, others, _⟩ := joinDefaultVlan_spec represents accepts port
    refine sound.of_represents holds ?_ (joinDefaultVlan_lags env xdk dev port)
    intro vid intfId isAbsent
    have different : intfId ≠ port.ifId := by
      rintro rfl
      exact allowed isSystem isAbsent
    rw [others vid intfId (.inr different)]
    exact unlisted vid intfId isAbsent
  · unfold Bundles.joinDefaultVlan
    rw [if_neg isSystem]
    exact sound

theorem updateVlanConfig
    {bridge : Bridge}
    (sound : DevSound bridge.toEnv absent dev)
    (accepts : xdk.Accepts)
    {bundle : Bundle count}
    (allowed : ¬absent bundle.intfId)
    (s : Settings count) :
    DevSound bridge.toEnv absent (bundleUpdateVlanConfig bridge xdk dev bundle s).2.2 := by
  obtain ⟨members, represents, unlisted⟩ := sound.vlans
  obtain ⟨dev', roster, equation, holds, only, _⟩ :=
    bundleUpdateVlanConfig_spec represents accepts bundle s
  have sameLags := bundleUpdateVlanConfig_lags xdk dev bridge bundle s
  rw [equation] at sameLags ⊢
  refine sound.of_represents holds ?_ sameLags
  intro vid intfId isAbsent
  have different : intfId ≠ bundle.intfId := by
    rintro rfl
    exact allowed isAbsent
  rw [only.others vid intfId different]
  exact unlisted vid intfId isAbsent

theorem lagDestroy
    (sound : DevSound env absent dev)
    (accepts : xdk.Accepts)
    (lagId : Nat) :
    DevSound env absent (Bundles.lagDestroy env xdk dev lagId) := by
  obtain ⟨links, holds⟩ := sound.lags
  exact sound.of_table (lagDestroy_table env xdk dev lagId)
    (holds.lagDestroy accepts lagId)

theorem lagAttachPorts
    (sound : DevSound env absent dev)
    (accepts : xdk.Accepts)
    (lagId : Nat)
    (ifList : List Nat) :
    DevSound env absent (Bundles.lagAttachPorts env xdk dev lagId ifList).2 := by
  obtain ⟨links, holds⟩ := sound.lags
  obtain ⟨_, attached, attachedHolds, _⟩ :=
    @LagLinks.lagAttachPorts env _ _ _ holds accepts lagId ifList
  exact sound.of_table (lagAttachPorts_table env xdk dev lagId ifList)
    ⟨attached, attachedHolds⟩

theorem addTrunked
    (sound : DevSound env absent dev)
    (accepts : xdk.Accepts)
    (vid : Nat)
    {bundles : List (Bundle count)}
    (allowed : ∀ bundle ∈ bundles, ¬absent bundle.intfId) :
    DevSound env absent (Bundles.addTrunked env xdk vid bundles dev).2 := by
  induction bundles generalizing dev with
  | nil => exact sound
  | cons bundle bundles inductionHypothesis =>
      have later : ∀ other ∈ bundles, ¬absent other.intfId :=
        fun other member => allowed other (List.mem_cons_of_mem _ member)
      unfold Bundles.addTrunked
      split
      · have added := sound.memberAdd accepts vid (allowed bundle List.mem_cons_self)
          (bundle.encapType vid)
        generalize vlanMemberAdd env xdk dev vid bundle.intfId _ = result at added ⊢
        obtain ⟨errno, between⟩ := result
        cases errno with
        | some errno => exact added
        | none => exact inductionHypothesis added later
      · exact inductionHypothesis sound later

theorem removeTrunked
    (sound : DevSound env absent dev)
    (accepts : xdk.Accepts)
    (vid : Nat)
    (bundles : List (Bundle count)) :
    DevSound env absent (Bundles.removeTrunked env xdk vid bundles dev).2 := by
  induction bundles generalizing dev with
  | nil => exact sound
  | cons bundle bundles inductionHypothesis =>
      unfold Bundles.removeTrunked
      split
      · have removed := sound.memberRemove accepts vid bundle.intfId
        generalize vlanMemberRemove env xdk dev vid bundle.intfId = result at removed ⊢
        obtain ⟨errno, between⟩ := result
        cases errno with
        | some errno => exact removed
        | none => exact inductionHypothesis removed
      · exact inductionHypothesis sound

theorem vlanCreate
    (sound : DevSound env absent dev)
    (accepts : xdk.Accepts)
    (vlanId : Nat) :
    DevSound env absent (Vlans.vlanCreate env xdk dev vlanId).2 := by
  obtain ⟨members, represents, unlisted⟩ := sound.vlans
  rcases represents.create accepts vlanId with ⟨errno, fails⟩ | ⟨_, _, _, founded⟩
  · rw [fails]
    exact sound
  · exact sound.of_represents founded unlisted (vlanCreate_lags env xdk dev vlanId)

theorem vlanRemove
    (sound : DevSound env absent dev)
    (accepts : xdk.Accepts)
    (vlanId : Nat) :
    DevSound env absent (Vlans.vlanRemove env xdk dev vlanId).2 := by
  obtain ⟨members, represents, unlisted⟩ := sound.vlans
  refine sound.of_represents (represents.remove accepts vlanId).2 ?_
    (vlanRemove_lags env xdk dev vlanId)
  intro vid intfId isAbsent
  simp only [Roster.dissolve]
  split
  · rfl
  · exact unlisted vid intfId isAbsent

end DevSound

/-! ## Bundles -/

/-- A bundle without its port list. -/
def Bundle.bare (bundle : Bundle count) : Bundle count :=
  { bundle with ports := [], portsUpdated := false }

/-- Bundles may lose and get ports and may go; for the rest they are as before. -/
def Shrinks (before after : Ofproto count) : Prop :=
  (after.bundles.map Bundle.bare).Sublist (before.bundles.map Bundle.bare)

theorem releaseIntf_bundles
    (bridge : Bridge)
    (xdk : Xdk)
    (ofproto : Ofproto count)
    (bundle : Bundle count) :
    (releaseIntf bridge xdk ofproto bundle).bundles = ofproto.bundles := by
  unfold releaseIntf
  simp only
  split
  · split <;> rfl
  · rfl

namespace Shrinks

variable {first second third : Ofproto count}

theorem refl (ofproto : Ofproto count) : Shrinks ofproto ofproto := List.Sublist.refl _

theorem trans (left : Shrinks first second) (right : Shrinks second third) :
    Shrinks first third :=
  List.Sublist.trans right left

theorem of_bundles (same : second.bundles = first.bundles) : Shrinks first second := by
  unfold Shrinks
  rw [same]

/-- The bundle that a bundle was. -/
theorem old
    (shrinks : Shrinks first second)
    {bundle : Bundle count}
    (member : bundle ∈ second.bundles) :
    ∃ old ∈ first.bundles, old.bare = bundle.bare :=
  List.mem_map.mp (shrinks.subset (List.mem_map_of_mem member))

theorem modify_ports (ofproto : Ofproto count) (id : Nat)
    (change : List Nat → List Nat) :
    Shrinks ofproto (ofproto.modify id fun bundle =>
      { bundle with ports := change bundle.ports, portsUpdated := true }) := by
  have same : (ofproto.modify id fun bundle => { bundle with
      ports := change bundle.ports, portsUpdated := true }).bundles.map Bundle.bare =
        ofproto.bundles.map Bundle.bare := KeyedList.map_rewrite fun _ _ _ => rfl
  unfold Shrinks
  rw [same]

theorem remove
    {id : Nat}
    (shrinks : Shrinks first second)
    (removed : third.bundles = KeyedList.remove (·.id) id second.bundles) :
    Shrinks first third := by
  refine shrinks.trans ?_
  unfold Shrinks
  rw [removed]
  exact List.Sublist.map _ List.filter_sublist

theorem bundleDelPort (bridge : Bridge) (xdk : Xdk) (ofproto : Ofproto count)
    (port : OfPort) : Shrinks ofproto (Bundles.bundleDelPort bridge xdk ofproto port) := by
  unfold Bundles.bundleDelPort
  cases ofproto.portBundle port.ofpPort with
  | none => exact refl ofproto
  | some id =>
      exact (modify_ports ofproto id (·.erase port.ofpPort)).trans (of_bundles rfl)

theorem foldl_bundleDelPort (bridge : Bridge) (xdk : Xdk) (ofproto : Ofproto count)
    (ports : List OfPort) :
    Shrinks ofproto (ports.foldl (Bundles.bundleDelPort bridge xdk) ofproto) := by
  induction ports generalizing ofproto with
  | nil => exact refl ofproto
  | cons port ports inductionHypothesis =>
      exact (bundleDelPort bridge xdk ofproto port).trans
        (inductionHypothesis (Bundles.bundleDelPort bridge xdk ofproto port))

theorem bundleDestroy (bridge : Bridge) (xdk : Xdk) (ofproto : Ofproto count) (id : Nat) :
    Shrinks ofproto (Bundles.bundleDestroy bridge xdk ofproto id) := by
  unfold Bundles.bundleDestroy
  cases ofproto.bundle? id with
  | none => exact refl ofproto
  | some bundle =>
      have released : Shrinks ofproto (releaseIntf bridge xdk ofproto bundle) :=
        of_bundles (releaseIntf_bundles bridge xdk ofproto bundle)
      exact (released.trans (foldl_bundleDelPort bridge xdk _ _)).remove rfl

theorem bundleRemove (bridge : Bridge) (xdk : Xdk) (ofproto : Ofproto count)
    (port : OfPort) : Shrinks ofproto (Bundles.bundleRemove bridge xdk ofproto port) := by
  unfold Bundles.bundleRemove
  cases (ofproto.portBundle port.ofpPort).bind ofproto.bundle? with
  | none => exact refl ofproto
  | some bundle =>
      simp only
      generalize (if bundle.intfId ≠ bridge.intfInvalidId then _ else _ : Bool × Dev) =
        result
      have called : Shrinks ofproto { ofproto with dev := result.2 } := of_bundles rfl
      split
      · exact called
      have deleted := called.trans (bundleDelPort bridge xdk { ofproto with dev := result.2 }
        port)
      split
      · exact deleted.trans (bundleDestroy bridge xdk _ bundle.id)
      · exact deleted

theorem bundleAddPort (bridge : Bridge) (xdk : Xdk) (id : Nat) (ofproto : Ofproto count)
    (ofpPort : Nat) :
    Shrinks ofproto (Bundles.bundleAddPort bridge xdk id ofproto ofpPort) := by
  unfold Bundles.bundleAddPort
  cases bridge.port? ofpPort with
  | none => exact refl ofproto
  | some port =>
      simp only
      split
      · exact refl ofproto
      have added := modify_ports (Bundles.bundleRemove bridge xdk ofproto port) id
        (· ++ [ofpPort])
      exact (bundleRemove bridge xdk ofproto port).trans (added.trans (of_bundles rfl))

theorem foldl_bundleAddPort (bridge : Bridge) (xdk : Xdk) (id : Nat)
    (ofproto : Ofproto count) (slaves : List Nat) :
    Shrinks ofproto (slaves.foldl (Bundles.bundleAddPort bridge xdk id) ofproto) := by
  induction slaves generalizing ofproto with
  | nil => exact refl ofproto
  | cons ofpPort slaves inductionHypothesis =>
      exact (bundleAddPort bridge xdk id ofproto ofpPort).trans
        (inductionHypothesis (Bundles.bundleAddPort bridge xdk id ofproto ofpPort))

end Shrinks

/-- The ports of the switch do not have the interfaces that are to be in no
VLAN. -/
def Bridge.Spares (bridge : Bridge) (absent : Nat → Prop) : Prop :=
  ∀ port ∈ bridge.ports, port.type = .system → ¬absent port.ifId

/-- A well-formed device, an `aux` for each bundle and valid ids of LAGs. -/
structure Sound (bridge : Bridge) (absent : Nat → Prop) (ofproto : Ofproto count) :
    Prop where
  dev : DevSound bridge.toEnv absent ofproto.dev
  auxNodup : (ofproto.bundles.map (·.aux)).Nodup
  bound : ∀ bundle ∈ ofproto.bundles, bundle.isLag = true →
    bundle.intfId ≠ bridge.intfInvalidId

namespace Sound

variable {bridge : Bridge} {xdk : Xdk} {absent : Nat → Prop}
  {ofproto after : Ofproto count}

theorem of_shrinks
    {unlisted : Nat → Prop}
    (sound : Sound bridge absent ofproto)
    (shrinks : Shrinks ofproto after)
    (dev : DevSound bridge.toEnv unlisted after.dev) :
    Sound bridge unlisted after where
  dev := dev
  auxNodup := by
    have auxs : ∀ bundles : List (Bundle count),
        (bundles.map Bundle.bare).map (·.aux) = bundles.map (·.aux) := by
      intro bundles
      rw [List.map_map]
      rfl
    have fewer := List.Sublist.map (·.aux) shrinks
    rw [auxs, auxs] at fewer
    exact sound.auxNodup.sublist fewer
  bound bundle member isLag := by
    obtain ⟨old, oldMember, same⟩ := shrinks.old member
    have sameIntf : old.bare.intfId = bundle.bare.intfId := congrArg Bundle.intfId same
    have sameLag : old.bare.isLag = bundle.bare.isLag := congrArg Bundle.isLag same
    change bundle.bare.intfId ≠ bridge.intfInvalidId
    rw [← sameIntf]
    exact sound.bound old oldMember (sameLag.trans isLag)

/-- A call that touches neither the table nor the LAGs. -/
theorem of_dev
    (sound : Sound bridge absent ofproto)
    (bundles : after.bundles = ofproto.bundles)
    (sameTable : after.dev.table = ofproto.dev.table)
    (sameLags : after.dev.hw.lags = ofproto.dev.hw.lags) :
    Sound bridge absent after :=
  sound.of_shrinks (.of_bundles bundles) (sound.dev.of_same sameTable sameLags)

/-- A write to a bundle. -/
theorem modify
    {id : Nat}
    {change : Bundle count → Bundle count}
    (sound : Sound bridge absent ofproto)
    (keepsAux : ∀ bundle ∈ ofproto.bundles, bundle.id = id →
      (change bundle).aux = bundle.aux)
    (bound : ∀ bundle ∈ ofproto.bundles, bundle.id = id → (change bundle).isLag = true →
      (change bundle).intfId ≠ bridge.intfInvalidId) :
    Sound bridge absent (ofproto.modify id change) where
  dev := sound.dev
  auxNodup := by
    have auxs : (ofproto.modify id change).bundles.map (·.aux) =
        ofproto.bundles.map (·.aux) := KeyedList.map_rewrite keepsAux
    rw [auxs]
    exact sound.auxNodup
  bound bundle member isLag := by
    rcases KeyedList.mem_rewrite.mp member with ⟨old, oldMember, selected, rfl⟩ | ⟨same, _⟩
    · exact bound old oldMember selected isLag
    · exact sound.bound bundle same isLag

theorem bundleLookup_eq_some
    (sound : Sound bridge absent ofproto)
    {aux : Nat}
    {bundle : Bundle count} :
    bundleLookup ofproto aux = some bundle ↔
      bundle ∈ ofproto.bundles ∧ bundle.aux = aux :=
  KeyedList.find?_key_eq_some sound.auxNodup

/-! ## Ports -/

theorem bundleDelPort
    (sound : Sound bridge absent ofproto)
    (accepts : xdk.Accepts)
    {port : OfPort}
    (allowed : port.type = .system → ¬absent port.ifId) :
    Sound bridge absent (Bundles.bundleDelPort bridge xdk ofproto port) := by
  refine sound.of_shrinks (.bundleDelPort bridge xdk ofproto port) ?_
  unfold Bundles.bundleDelPort
  cases ofproto.portBundle port.ofpPort with
  | none => exact sound.dev
  | some id => exact sound.dev.joinDefaultVlan accepts allowed

theorem foldl_bundleDelPort
    (sound : Sound bridge absent ofproto)
    (accepts : xdk.Accepts)
    {ports : List OfPort}
    (allowed : ∀ port ∈ ports, port.type = .system → ¬absent port.ifId) :
    Sound bridge absent (ports.foldl (Bundles.bundleDelPort bridge xdk) ofproto) := by
  induction ports generalizing ofproto with
  | nil => exact sound
  | cons port ports inductionHypothesis =>
      exact inductionHypothesis (sound.bundleDelPort accepts (allowed port List.mem_cons_self))
        fun other member => allowed other (List.mem_cons_of_mem _ member)

theorem releaseIntf
    (sound : Sound bridge absent ofproto)
    (accepts : xdk.Accepts)
    (bundle : Bundle count) :
    Sound bridge (fun intfId => absent intfId ∨ intfId = bundle.intfId)
      (Bundles.releaseIntf bridge xdk ofproto bundle) := by
  have cleared := sound.dev.clearAllMembership accepts bundle.intfId
  have forgotten : DevSound bridge.toEnv
      (fun intfId => absent intfId ∨ intfId = bundle.intfId)
      (devRemoveIntfEntry (vlanPortClearAllMembership bridge.toEnv xdk ofproto.dev
        bundle.intfId).2 bundle.intfId) := cleared.of_same rfl rfl
  unfold Bundles.releaseIntf
  simp only
  split
  · split
    · exact sound.of_shrinks (.of_bundles rfl)
        (forgotten.lagDestroy accepts bundle.intfId)
    · exact sound.of_shrinks (.of_bundles rfl) forgotten
  · exact sound.of_shrinks (.of_bundles rfl) cleared

/-- The interface of a bundle that is destroyed is in no VLAN, unless a port has
it. -/
theorem bundleDestroy_found
    {unlisted : Nat → Prop} {id : Nat} {bundle : Bundle count}
    (sound : Sound bridge absent ofproto)
    (accepts : xdk.Accepts)
    (found : ofproto.bundle? id = some bundle)
    (spares : bridge.Spares unlisted)
    (weaker : ∀ intfId, unlisted intfId → absent intfId ∨ intfId = bundle.intfId) :
    Sound bridge unlisted (Bundles.bundleDestroy bridge xdk ofproto id) := by
  have released := @Sound.releaseIntf _ _ xdk _ _ sound accepts bundle
  have weakened : Sound bridge unlisted (Bundles.releaseIntf bridge xdk ofproto bundle) :=
    released.of_shrinks (.refl _) (released.dev.mono weaker)
  have allowed : ∀ port ∈ bundle.ports.filterMap bridge.port?, port.type = .system →
      ¬unlisted port.ifId := fun port member =>
    spares port (mem_of_mem_filterMap_port? member).1
  have deleted := @foldl_bundleDelPort _ _ xdk _ _ weakened accepts _ allowed
  unfold Bundles.bundleDestroy
  rw [found]
  exact deleted.of_shrinks ((Shrinks.refl _).remove rfl) deleted.dev

theorem bundleDestroy
    (sound : Sound bridge absent ofproto)
    (accepts : xdk.Accepts)
    (spares : bridge.Spares absent)
    (id : Nat) :
    Sound bridge absent (Bundles.bundleDestroy bridge xdk ofproto id) := by
  cases found : ofproto.bundle? id with
  | none =>
      unfold Bundles.bundleDestroy
      rw [found]
      exact sound
  | some bundle => exact sound.bundleDestroy_found accepts found spares fun _ => .inl

theorem bundleRemove
    (sound : Sound bridge absent ofproto)
    (accepts : xdk.Accepts)
    (spares : bridge.Spares absent)
    {port : OfPort}
    (isPort : port ∈ bridge.ports) :
    Sound bridge absent (Bundles.bundleRemove bridge xdk ofproto port) := by
  unfold Bundles.bundleRemove
  cases (ofproto.portBundle port.ofpPort).bind ofproto.bundle? with
  | none => exact sound
  | some bundle =>
      have kept : (if bundle.intfId ≠ bridge.intfInvalidId then
          ofproto.dev.call xdk fun hw =>
            { hw with frameTypes := Function.update hw.frameTypes bundle.intfId .all }
          else (true, ofproto.dev)).2.table = ofproto.dev.table ∧
          (if bundle.intfId ≠ bridge.intfInvalidId then
            ofproto.dev.call xdk fun hw =>
              { hw with frameTypes := Function.update hw.frameTypes bundle.intfId .all }
            else (true, ofproto.dev)).2.hw.lags = ofproto.dev.hw.lags := by
        split
        · exact ⟨call_table _ _ _, call_lags xdk ofproto.dev rfl⟩
        · exact ⟨rfl, rfl⟩
      simp only
      generalize (if bundle.intfId ≠ bridge.intfInvalidId then _ else _ : Bool × Dev) =
        result at kept ⊢
      have called : Sound bridge absent { ofproto with dev := result.2 } :=
        sound.of_dev rfl kept.1 kept.2
      split
      · exact called
      have deleted := called.bundleDelPort accepts (spares port isPort)
      split
      · exact deleted.bundleDestroy accepts spares bundle.id
      · exact deleted

theorem bundleAddPort
    (sound : Sound bridge absent ofproto)
    (accepts : xdk.Accepts)
    (spares : bridge.Spares absent)
    (id ofpPort : Nat) :
    Sound bridge absent (Bundles.bundleAddPort bridge xdk id ofproto ofpPort) := by
  unfold Bundles.bundleAddPort
  cases found : bridge.port? ofpPort with
  | none => exact sound
  | some port =>
      simp only
      split
      · exact sound
      have removed := @Sound.bundleRemove _ _ xdk _ _ sound accepts spares _
        (mem_of_port? found).1
      have added := Shrinks.modify_ports (Bundles.bundleRemove bridge xdk ofproto port) id
        (· ++ [ofpPort])
      refine removed.of_shrinks (added.trans (.of_bundles rfl)) ?_
      change DevSound bridge.toEnv absent (if port.type = .system then _ else _)
      split
      · exact removed.dev.memberRemove accepts defaultVlanId port.ifId
      · exact removed.dev

theorem foldl_bundleAddPort
    (sound : Sound bridge absent ofproto)
    (accepts : xdk.Accepts)
    (spares : bridge.Spares absent)
    (id : Nat)
    (slaves : List Nat) :
    Sound bridge absent (slaves.foldl (Bundles.bundleAddPort bridge xdk id) ofproto) := by
  induction slaves generalizing ofproto with
  | nil => exact sound
  | cons ofpPort slaves inductionHypothesis =>
      exact inductionHypothesis (sound.bundleAddPort accepts spares id ofpPort)

end Sound

/-! ## The L2 configuration -/

section Configure

variable {bridge : Bridge} {xdk : Xdk} {ofproto : Ofproto count} {bundle : Bundle count}

/-- A write to a bundle is a replacement of that bundle. -/
theorem Tied.modify_eq_replace
    (tied : Tied bridge ofproto)
    (member : bundle ∈ ofproto.bundles)
    (change : Bundle count → Bundle count) :
    ofproto.modify bundle.id change = ofproto.modify bundle.id fun _ => change bundle := by
  have nodup := tied.linked.groupsNodup
  rw [map_fst_links] at nodup
  unfold Ofproto.modify KeyedList.rewrite
  congr 1
  apply List.map_congr_left
  intro other otherMember
  split
  · rename_i same
    rw [List.inj_on_of_nodup_map nodup otherMember member same]
  · rfl

theorem Tied.replace_self
    (tied : Tied bridge ofproto)
    (member : bundle ∈ ofproto.bundles) :
    (ofproto.modify bundle.id fun _ => bundle) = ofproto := by
  rw [← tied.modify_eq_replace member fun other => other]
  unfold Ofproto.modify KeyedList.rewrite
  simp

theorem replace_replace
    (ofproto : Ofproto count)
    (id : Nat)
    {first : Bundle count}
    (sameId : first.id = id)
    (second : Bundle count) :
    (ofproto.modify id fun _ => first).modify id (fun _ => second) =
      ofproto.modify id fun _ => second := by
  unfold Ofproto.modify KeyedList.rewrite
  simp only [List.map_map]
  congr 1
  apply List.map_congr_left
  intro other _
  by_cases same : other.id = id
  · simp [same, sameId]
  · simp [same]

theorem bundle?_replace
    {id : Nat}
    {new : Bundle count}
    (found : ofproto.bundle? id = some bundle)
    (sameId : new.id = id) :
    (ofproto.modify id fun _ => new).bundle? id = some new := by
  have isId : bundle.id = id := by simpa using List.find?_some found
  have sameTest : ((fun other : Bundle count => other.id == id) ∘ fun other =>
      if other.id = id then new else other) = fun other => other.id == id := by
    funext other
    simp only [Function.comp_apply]
    split
    · rename_i selected
      rw [sameId, selected]
    · rfl
  unfold Ofproto.bundle? at found ⊢
  unfold Ofproto.modify KeyedList.rewrite
  rw [List.find?_map, sameTest, found, Option.map_some, if_pos isId]

/-- The bundle after `bundle_update_single_slave_config`, unless its slave is
refused. -/
def Bundle.boundToSlave (bridge : Bridge) (bundle : Bundle count) (s : Settings count) :
    Option (Bundle count) :=
  if !bundle.isLag && s.slaves.length == 1 then
    match bundle.ports.head?.bind bridge.port? with
    | none => some bundle
    | some port =>
        if bundle.name ≠ port.name then some bundle
        else if !port.isXpliantClass then none
        else some { bundle with intfId := port.ifId }
  else some bundle

theorem boundToSlave_same
    {s : Settings count}
    {bound : Bundle count}
    (isBound : bundle.boundToSlave bridge s = some bound) :
    ∃ intfId, bound = { bundle with intfId := intfId } ∧
      (intfId = bundle.intfId ∨ bundle.isLag = false) := by
  unfold Bundle.boundToSlave at isBound
  split at isBound
  · rename_i single
    have notLag : bundle.isLag = false := by
      simpa using (Bool.and_eq_true_iff.mp single).1
    split at isBound
    · cases isBound
      exact ⟨_, rfl, .inl rfl⟩
    · split at isBound
      · cases isBound
        exact ⟨_, rfl, .inl rfl⟩
      · split at isBound
        · contradiction
        · cases isBound
          exact ⟨_, rfl, .inr notLag⟩
  · cases isBound
    exact ⟨_, rfl, .inl rfl⟩

/-- The L2 part of `ofproto_xpliant_bundle_set`, for a bundle that is there. -/
theorem Tied.bundleConfigureL2_eq
    (tied : Tied bridge ofproto)
    (member : bundle ∈ ofproto.bundles)
    (s : Settings count) :
    Bundles.bundleConfigureL2 bridge xdk ofproto bundle s =
      match bundle.boundToSlave bridge s with
      | none => (some .EINVAL, Bundles.bundleDestroy bridge xdk ofproto bundle.id)
      | some bound =>
          if bound.intfId ≠ bridge.intfInvalidId then
            (none, { ofproto with
              dev := devAddIntfEntry
                (bundleUpdateVlanConfig bridge xdk ofproto.dev bound s).2.2
                (bundleUpdateVlanConfig bridge xdk ofproto.dev bound s).2.1.intfId
                (bundleUpdateVlanConfig bridge xdk ofproto.dev bound s).2.1.name }.modify
              bundle.id fun _ =>
                (bundleUpdateVlanConfig bridge xdk ofproto.dev bound s).2.1)
          else (none, ofproto.modify bundle.id fun _ => bound) := by
  have single : (if !bundle.isLag && s.slaves.length == 1 then
      Bundles.bundleUpdateSingleSlaveConfig bridge xdk ofproto bundle
      else (none, ofproto)) =
      match bundle.boundToSlave bridge s with
      | none => (some .EINVAL, Bundles.bundleDestroy bridge xdk ofproto bundle.id)
      | some bound => (none, ofproto.modify bundle.id fun _ => bound) := by
    unfold Bundles.bundleUpdateSingleSlaveConfig Bundle.boundToSlave
    split
    · cases bundle.ports.head?.bind bridge.port? with
      | none => exact congrArg (none, ·) (tied.replace_self member).symm
      | some port =>
          simp only
          split
          · exact congrArg (none, ·) (tied.replace_self member).symm
          · split
            · rfl
            · exact congrArg (none, ·) (tied.modify_eq_replace member _)
    · exact congrArg (none, ·) (tied.replace_self member).symm
  unfold Bundles.bundleConfigureL2
  rw [single]
  cases isBound : bundle.boundToSlave bridge s with
  | none => rfl
  | some bound =>
      obtain ⟨intfId, same, _⟩ := boundToSlave_same isBound
      have sameId : bound.id = bundle.id := by rw [same]
      have present := tied.bundle?_eq_some.mpr ⟨member, rfl⟩
      have updatedId := (bundleUpdateVlanConfig_ports bridge xdk ofproto.dev bound s).1
      dsimp only
      rw [bundle?_replace present sameId]
      dsimp only
      change (if bound.intfId ≠ bridge.intfInvalidId then
        ((none : Option Errno), Ofproto.modify _
          (bundleUpdateVlanConfig bridge xdk ofproto.dev bound s).2.1.id _) else _) = _
      rw [updatedId, sameId]
      split
      · exact congrArg (none, ·) (replace_replace { ofproto with
          dev := devAddIntfEntry
            (bundleUpdateVlanConfig bridge xdk ofproto.dev bound s).2.2
            (bundleUpdateVlanConfig bridge xdk ofproto.dev bound s).2.1.intfId
            (bundleUpdateVlanConfig bridge xdk ofproto.dev bound s).2.1.name }
          bundle.id sameId (bundleUpdateVlanConfig bridge xdk ofproto.dev bound s).2.1)
      · rfl

end Configure

/-! ## The operations -/

/-- The XDK gives a LAG an interface id that is valid and not the one of another
LAG. -/
def LagIdFresh (bridge : Bridge) (xdk : Xdk) (dev : Dev) : Prop :=
  xdk.lagCreate dev.calls ≠ bridge.intfInvalidId ∧
    xdk.lagCreate dev.calls ∉ dev.hw.lags.map Prod.fst

namespace Sound

variable {bridge : Bridge} {xdk : Xdk} {absent : Nat → Prop} {ofproto : Ofproto count}
  {bundle : Bundle count}

theorem bundleObtain
    (sound : Sound bridge absent ofproto)
    (aux : Nat)
    (name : String) :
    Sound bridge absent (Bundles.bundleObtain bridge ofproto aux name).2 := by
  unfold Bundles.bundleObtain
  cases found : bundleLookup ofproto aux with
  | some bundle =>
      exact sound.modify (fun _ _ _ => rfl) fun other member _ => sound.bound other member
  | none =>
      refine ⟨sound.dev, List.nodup_cons.mpr ⟨?_, sound.auxNodup⟩, ?_⟩
      · intro listed
        obtain ⟨bundle, member, isAux⟩ := List.mem_map.mp listed
        have isFound : bundleLookup ofproto aux = some bundle :=
          sound.bundleLookup_eq_some.mpr ⟨member, isAux⟩
        rw [found] at isFound
        contradiction
      · intro bundle member isLag
        rcases List.mem_cons.mp member with rfl | old
        · exact absurd isLag Bool.false_ne_true
        · exact sound.bound bundle old isLag

theorem createRemoveHwLag
    (sound : Sound bridge absent ofproto)
    (accepts : xdk.Accepts)
    (fresh : LagIdFresh bridge xdk ofproto.dev)
    (bundle : Bundle count)
    (s : Settings count) :
    (bundleCreateRemoveHwLag bridge xdk ofproto bundle s).1 = none ∧
      Sound bridge absent (bundleCreateRemoveHwLag bridge xdk ofproto bundle s).2 := by
  unfold bundleCreateRemoveHwLag
  split
  · obtain ⟨links, holds⟩ := sound.dev.lags
    obtain ⟨created, found⟩ := holds.lagCreate accepts fresh.2
    have table := lagCreate_table xdk ofproto.dev
    generalize lagCreate xdk ofproto.dev = result at created found table ⊢
    obtain ⟨lagId, dev⟩ := result
    simp only at created found table
    subst created
    have made : Sound bridge absent { ofproto with dev := dev } :=
      sound.of_shrinks (.of_bundles rfl) (sound.dev.of_table table ⟨_, found⟩)
    exact ⟨rfl, made.modify (fun _ _ _ => rfl) fun _ _ _ _ => fresh.1⟩
  · split
    · have gone : Sound bridge absent (ofproto.lagDestroy bridge xdk bundle.intfId) :=
        sound.of_shrinks (.of_bundles rfl) (sound.dev.lagDestroy accepts bundle.intfId)
      exact ⟨rfl, gone.modify (fun _ _ _ => rfl) fun _ _ _ isLag =>
        absurd isLag Bool.false_ne_true⟩
    · exact ⟨rfl, sound⟩

/-- Every interface may be in a VLAN. -/
theorem spares_nothing (bridge : Bridge) : bridge.Spares fun _ => False :=
  fun _ _ _ => id

theorem bundleConfigureL2
    (sound : Sound bridge (fun _ => False) ofproto)
    (tied : Tied bridge ofproto)
    (accepts : xdk.Accepts)
    (member : bundle ∈ ofproto.bundles)
    (s : Settings count) :
    Sound bridge (fun _ => False)
      (Bundles.bundleConfigureL2 bridge xdk ofproto bundle s).2 := by
  rw [tied.bundleConfigureL2_eq member s]
  cases isBound : bundle.boundToSlave bridge s with
  | none => exact sound.bundleDestroy accepts (spares_nothing bridge) bundle.id
  | some bound =>
      have unique : ∀ other ∈ ofproto.bundles, other.id = bundle.id → other = bundle := by
        intro other otherMember sameId
        have found := tied.bundle?_eq_some.mpr ⟨otherMember, sameId⟩
        rw [tied.bundle?_eq_some.mpr ⟨member, rfl⟩] at found
        exact (Option.some.inj found).symm
      obtain ⟨intfId, same, fromSlave⟩ := boundToSlave_same isBound
      have sameAux : bound.aux = bundle.aux := by rw [same]
      have sameLag : bound.isLag = bundle.isLag := by rw [same]
      have sameIntf : bound.intfId = intfId := by rw [same]
      have lagBound : bound.isLag = true → bound.intfId ≠ bridge.intfInvalidId := by
        intro isLag
        rw [sameLag] at isLag
        rw [sameIntf, fromSlave.resolve_right (by simp [isLag])]
        exact sound.bound bundle member isLag
      simp only
      split
      · obtain ⟨members, represents, _⟩ := sound.dev.vlans
        obtain ⟨dev, _, equation, _⟩ := bundleUpdateVlanConfig_spec represents accepts bound s
        have updated : DevSound bridge.toEnv (fun _ => False)
            (bundleUpdateVlanConfig bridge xdk ofproto.dev bound s).2.2 :=
          sound.dev.updateVlanConfig accepts id s
        rw [equation] at updated ⊢
        have configured : Sound bridge (fun _ => False) { ofproto with
            dev := devAddIntfEntry dev bound.intfId bound.name } := by
          refine sound.of_shrinks (.of_bundles rfl) (updated.of_same ?_ ?_)
          · unfold devAddIntfEntry
            split <;> rfl
          · unfold devAddIntfEntry
            split <;> rfl
        refine configured.modify ?_ fun _ _ _ => lagBound
        intro other otherMember sameId
        rw [unique other otherMember sameId]
        exact sameAux
      · refine sound.modify ?_ fun _ _ _ => lagBound
        intro other otherMember sameId
        rw [unique other otherMember sameId]
        exact sameAux

theorem bundleSetPorts
    (sound : Sound bridge (fun _ => False) ofproto)
    (tied : Tied bridge ofproto)
    (accepts : xdk.Accepts)
    (member : bundle ∈ ofproto.bundles)
    (s : Settings count) :
    Sound bridge (fun _ => False)
      (Bundles.bundleSetPorts bridge xdk ofproto bundle s).2 := by
  have dropped : Sound bridge (fun _ => False)
      (bundleDropPorts bridge xdk ofproto bundle s) :=
    sound.foldl_bundleDelPort accepts fun _ _ _ => id
  have loaded := dropped.foldl_bundleAddPort accepts (spares_nothing bridge) bundle.id
    s.slaves
  have loadedTied := ((tied.bundleDropPorts member s).foldl_bundleAddPort
    (fun _ isSlave => isSlave) (movesAccepted_of_accepts accepts bundle.id s.slaves
      (bundleDropPorts bridge xdk ofproto bundle s))).tied
  unfold bundleDropPorts at loaded loadedTied
  unfold Bundles.bundleSetPorts
  simp only
  generalize s.slaves.foldl (Bundles.bundleAddPort bridge xdk bundle.id) _ = between
    at loaded loadedTied ⊢
  cases found : between.bundle? bundle.id with
  | none => exact loaded
  | some current =>
      simp only
      split
      · exact loaded.bundleDestroy accepts (spares_nothing bridge) current.id
      have attached : DevSound bridge.toEnv (fun _ => False) (if current.isLag then
          bundleUpdateHwLagConfig bridge xdk between.dev current s
          else (.returned none, between.dev)).2 := by
        split
        · unfold bundleUpdateHwLagConfig
          cases lagIfList bridge (s.slaves.take 256) with
          | none => exact loaded.dev
          | some ifList =>
              dsimp only
              split
              · exact loaded.dev.lagAttachPorts accepts current.intfId ifList
              · exact loaded.dev
        · exact loaded.dev
      generalize (if current.isLag then _ else _ : Ending × Dev) = result
        at attached ⊢
      obtain ⟨ending, dev⟩ := result
      have between' : Sound bridge (fun _ => False) { between with dev := dev } :=
        loaded.of_shrinks (.of_bundles rfl) attached
      dsimp only
      split
      · exact between'.bundleConfigureL2 (loadedTied.of_links rfl rfl) accepts
          (loadedTied.bundle?_eq_some.mp found).1 s
      · exact between'

end Sound

/-- The bundle that `ofproto_xpliant_bundle_set` works on. -/
def obtainedBundle (bridge : Bridge) (ofproto : Ofproto count) (aux : Nat)
    (name : String) : Bundle count :=
  match bundleLookup ofproto aux with
  | some bundle => { bundle with portsUpdated := false, name := name }
  | none => .new bridge ofproto.nextBundle aux name

theorem bundleObtain_dev (bridge : Bridge) (ofproto : Ofproto count) (aux : Nat)
    (name : String) :
    (Bundles.bundleObtain bridge ofproto aux name).2.dev = ofproto.dev := by
  unfold Bundles.bundleObtain
  cases bundleLookup ofproto aux <;> rfl

theorem Tied.bundleObtain_bundle?
    {bridge : Bridge}
    {ofproto : Ofproto count}
    (tied : Tied bridge ofproto)
    (aux : Nat)
    (name : String) :
    (Bundles.bundleObtain bridge ofproto aux name).1 =
        (obtainedBundle bridge ofproto aux name).id ∧
      (Bundles.bundleObtain bridge ofproto aux name).2.bundle?
        (obtainedBundle bridge ofproto aux name).id =
          some (obtainedBundle bridge ofproto aux name) := by
  unfold Bundles.bundleObtain obtainedBundle
  cases found : bundleLookup ofproto aux with
  | some bundle =>
      have member := List.mem_of_find?_eq_some found
      refine ⟨rfl, ?_⟩
      simp only
      rw [tied.modify_eq_replace member]
      exact bundle?_replace (tied.bundle?_eq_some.mpr ⟨member, rfl⟩) rfl
  | none =>
      refine ⟨rfl, ?_⟩
      unfold Ofproto.bundle?
      simp

/-- `ofproto_xpliant_bundle_set` with settings, for an XDK that lets LAGs be
made. -/
theorem Tied.bundleSet_eq
    {bridge : Bridge}
    {xdk : Xdk}
    {ofproto : Ofproto count}
    (tied : Tied bridge ofproto)
    (aux : Nat)
    (s : Settings count)
    (made : (bundleCreateRemoveHwLag bridge xdk
      (Bundles.bundleObtain bridge ofproto aux s.name).2
      (obtainedBundle bridge ofproto aux s.name) s).1 = none) :
    Bundles.bundleSet bridge xdk ofproto aux (some s) =
      let start := (bundleCreateRemoveHwLag bridge xdk
        (Bundles.bundleObtain bridge ofproto aux s.name).2
        (obtainedBundle bridge ofproto aux s.name) s).2
      if s.bondHandleAllocOnly then (.returned none, start)
      else
        match start.bundle? (obtainedBundle bridge ofproto aux s.name).id with
        | none => (.returned none, start)
        | some bundle => Bundles.bundleSetPorts bridge xdk start bundle s := by
  obtain ⟨isId, found⟩ := tied.bundleObtain_bundle? aux s.name
  unfold Bundles.bundleSet
  rcases obtained : Bundles.bundleObtain bridge ofproto aux s.name with ⟨id, between⟩
  rw [obtained] at isId found made
  simp only at isId found made
  subst isId
  simp only [obtained, found]
  generalize bundleCreateRemoveHwLag bridge xdk between _ s = result at made ⊢
  obtain ⟨errno, start⟩ := result
  simp only at made
  subst made
  cases start.bundle? (obtainedBundle bridge ofproto aux s.name).id <;>
    simp only [Option.isSome_none, Bool.or_false]

theorem Sound.bundleSet
    {bridge : Bridge}
    {xdk : Xdk}
    {ofproto : Ofproto count}
    (sound : Sound bridge (fun _ => False) ofproto)
    (tied : Tied bridge ofproto)
    (accepts : xdk.Accepts)
    (aux : Nat)
    (settings : Option (Settings count))
    (fresh : settings ≠ none → LagIdFresh bridge xdk ofproto.dev) :
    Sound bridge (fun _ => False)
      (Bundles.bundleSet bridge xdk ofproto aux settings).2 := by
  cases settings with
  | none =>
      unfold Bundles.bundleSet
      cases bundleLookup ofproto aux with
      | none => exact sound
      | some bundle => exact sound.bundleDestroy accepts (spares_nothing bridge) bundle.id
  | some s =>
      have obtained : Sound bridge (fun _ => False)
          (Bundles.bundleObtain bridge ofproto aux s.name).2 :=
        sound.bundleObtain aux s.name
      have freshNow : LagIdFresh bridge xdk
          (Bundles.bundleObtain bridge ofproto aux s.name).2.dev := by
        rw [bundleObtain_dev]
        exact fresh (Option.some_ne_none s)
      obtain ⟨made, start⟩ := obtained.createRemoveHwLag accepts freshNow
        (obtainedBundle bridge ofproto aux s.name) s
      have startTied : Tied bridge (bundleCreateRemoveHwLag bridge xdk
          (Bundles.bundleObtain bridge ofproto aux s.name).2
          (obtainedBundle bridge ofproto aux s.name) s).2 := by
        obtain ⟨links, next⟩ := bundleCreateRemoveHwLag_links bridge xdk
          (Bundles.bundleObtain bridge ofproto aux s.name).2
          (obtainedBundle bridge ofproto aux s.name) s
        exact (tied.bundleObtain aux s.name).of_links links next
      rw [tied.bundleSet_eq aux s made]
      simp only
      split
      · exact start
      cases found : (bundleCreateRemoveHwLag bridge xdk
          (Bundles.bundleObtain bridge ofproto aux s.name).2
          (obtainedBundle bridge ofproto aux s.name) s).2.bundle?
          (obtainedBundle bridge ofproto aux s.name).id with
      | none => exact start
      | some bundle =>
          exact start.bundleSetPorts startTied accepts
            (startTied.bundle?_eq_some.mp found).1 s

theorem Sound.setVlan
    {bridge : Bridge}
    {xdk : Xdk}
    {ofproto : Ofproto count}
    (sound : Sound bridge (fun _ => False) ofproto)
    (accepts : xdk.Accepts)
    (order : Traversal (Bundle count))
    (vid : Nat)
    (add : Bool) :
    Sound bridge (fun _ => False)
      (Bundles.setVlan bridge xdk order ofproto vid add).2 := by
  refine sound.of_shrinks (.of_bundles rfl) ?_
  unfold Bundles.setVlan
  cases add with
  | true =>
      have created : DevSound bridge.toEnv (fun _ => False)
          (if vid ≠ defaultVlanId then vlanCreate bridge.toEnv xdk ofproto.dev vid
            else (none, ofproto.dev)).2 := by
        split
        · exact sound.dev.vlanCreate accepts vid
        · exact sound.dev
      simp only [if_true]
      generalize (if vid ≠ defaultVlanId then _ else _ : Option Errno × Dev) = result
        at created ⊢
      obtain ⟨errno, dev⟩ := result
      cases errno with
      | some errno => exact created
      | none => exact created.addTrunked accepts vid fun _ _ => id
  | false =>
      have removed := sound.dev.removeTrunked accepts vid (order.visit ofproto.bundles)
      simp only [Bool.false_eq_true, if_false]
      generalize removeTrunked bridge.toEnv xdk vid _ ofproto.dev = result at removed ⊢
      obtain ⟨errno, dev⟩ := result
      cases errno with
      | some errno => exact removed
      | none =>
          simp only
          split
          · exact removed.vlanRemove accepts vid
          · exact removed

/-- The XDK accepts every call, and gives LAGs ids of their own. -/
def LagsApart (bridge : Bridge) (ofproto : Ofproto bridge.vlanMaxCount)
    (operation : Operation bridge.vlanMaxCount) : Prop :=
  operation.xdk.Accepts ∧ LagIdFresh bridge operation.xdk ofproto.dev

theorem Sound.step
    {bridge : Bridge}
    {ofproto : Ofproto bridge.vlanMaxCount}
    {operation : Operation bridge.vlanMaxCount}
    (sound : Sound bridge (fun _ => False) ofproto)
    (tied : Tied bridge ofproto)
    (apart : LagsApart bridge ofproto operation) :
    Sound bridge (fun _ => False) (Bundles.step bridge ofproto operation) := by
  obtain ⟨accepts, fresh⟩ := apart
  unfold Bundles.step
  cases operation.event with
  | bundleSet aux settings => exact sound.bundleSet tied accepts aux settings fun _ => fresh
  | bundleRemove ofpPort =>
      simp only
      cases found : bridge.port? ofpPort with
      | none => exact sound
      | some port =>
          exact sound.bundleRemove accepts (spares_nothing bridge) (mem_of_port? found).1
  | setVlan vid add => exact sound.setVlan accepts operation.order vid add

/-- An ofproto without bundles, on a well-formed device without LAGs. -/
structure Unconfigured (bridge : Bridge) (ofproto : Ofproto count) : Prop where
  unbundled : Unbundled ofproto
  noLags : ofproto.dev.hw.lags = []
  nodup : ∀ vid, ((ofproto.dev.table vid).members.map (·.intfId)).Nodup
  dormant : ∀ vid, vlanIsExisting bridge.toEnv ofproto.dev vid = false →
    (ofproto.dev.table vid).members = []

theorem Unconfigured.sound
    {bridge : Bridge}
    {ofproto : Ofproto count}
    (unconfigured : Unconfigured bridge ofproto) :
    Sound bridge (fun _ => False) ofproto where
  dev := by
    refine ⟨⟨⟨fun _ => none, []⟩, ⟨List.nodup_nil, ?_, ?_⟩, unconfigured.noLags.symm⟩,
      roster bridge.toEnv ofproto.dev, ⟨unconfigured.nodup, unconfigured.dormant, rfl⟩,
      fun _ _ => False.elim⟩
    · exact fun _ listed => absurd listed List.not_mem_nil
    · intro item group
      simp
  auxNodup := by
    rw [unconfigured.unbundled.1]
    exact List.nodup_nil
  bound := by
    rw [unconfigured.unbundled.1]
    exact fun _ member => absurd member List.not_mem_nil

/-- Bundles and device are sound in every state of a run. -/
theorem sound_of_reached
    {bridge : Bridge}
    {ofproto : Ofproto bridge.vlanMaxCount}
    (reached : Transition.Reach (Unconfigured bridge) (LagsApart bridge) (step bridge)
      ofproto) :
    Tied bridge ofproto ∧ Sound bridge (fun _ => False) ofproto := by
  refine reached.invariant
    (fun ofproto => Tied bridge ofproto ∧ Sound bridge (fun _ => False) ofproto) ?_ ?_
  · exact fun _ unconfigured => ⟨unconfigured.unbundled.tied, unconfigured.sound⟩
  · rintro _ _ ⟨tied, sound⟩ apart
    exact ⟨tied.step (movesAdmissible_of_accepts apart.1), sound.step tied apart⟩

end Bundles
end XpliantSwitchd
