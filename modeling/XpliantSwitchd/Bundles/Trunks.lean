import XpliantSwitchd.Bundles.Runs
import XpliantSwitchd.Bundles.Links

/-!
# Memberships follow trunks

In a run that keeps the names of bundles, the VLANs an interface is a member of
are those in the trunks of the bundle that owns it, whatever order VLANs and
bundles were configured in.  Once a LAG is given up while its bundle has trunks,
this ends: the trunks outlive the interface.
-/

namespace XpliantSwitchd
namespace Bundles

open Vlans

/-- An ofproto without bundles on a device that has ports in its default VLAN. -/
structure Fresh (bridge : Bridge) (ofproto : Ofproto bridge.vlanMaxCount) : Prop where
  bundles : ofproto.bundles = []
  portBundle : ∀ ofpPort, ofproto.portBundle ofpPort = none
  destroyedLags : ofproto.destroyedLags = []
  nodup : ∀ vid, ((ofproto.dev.table vid).members.map (·.intfId)).Nodup
  dormant : ∀ vid, vlanIsExisting bridge.toEnv ofproto.dev vid = false →
    (ofproto.dev.table vid).members = []
  ports : ∀ vid intfId, vlanPortIsMember bridge.toEnv ofproto.dev vid intfId = true →
    vid = defaultVlanId ∧ intfId ∈ bridge.portIntfs

/-- What an operation has to keep to. -/
def Admissible (bridge : Bridge) (tracked : Prop) (ofproto : Ofproto bridge.vlanMaxCount)
    (operation : Operation bridge.vlanMaxCount) : Prop :=
  operation.xdk.Accepts ∧
    match operation.event with
    | .bundleSet aux settings => ∀ s, settings = some s →
        s.Counted ∧ BundleSetOk bridge tracked ofproto operation.xdk aux s
    | .bundleRemove _ => True
    | .setVlan vid add => tracked → add = false → vid = defaultVlanId →
        ∀ bundle ∈ ofproto.bundles, bundle.isTrunked vid = false

variable {bridge : Bridge} {tracked : Prop} {ofproto : Ofproto bridge.vlanMaxCount}

theorem Fresh.holds (fresh : Fresh bridge ofproto) :
    Holds bridge tracked ofproto ofproto.cores := by
  have none : ofproto.cores = [] := by
    unfold Ofproto.cores
    rw [fresh.bundles, List.map_nil]
  have represents : Represents bridge.toEnv ofproto.dev
      (roster bridge.toEnv ofproto.dev) :=
    ⟨fresh.nodup, fresh.dormant, rfl⟩
  rw [none]
  refine ⟨by simp, roster bridge.toEnv ofproto.dev, represents, ?_⟩
  refine ⟨⟨List.nodup_nil, List.nodup_nil, by simp, by simp, by simp⟩, by simp, by simp,
    by simp, ?_, by simp, by simp [fresh.destroyedLags]⟩
  intro vid intfId labelled
  refine .inr (fresh.ports vid intfId ?_)
  rw [represents.isMember_eq]
  exact Option.isSome_iff_ne_none.mpr labelled

/-- A step of a run keeps coherence. -/
theorem Holds.step
    (holds : Holds bridge tracked ofproto ofproto.cores)
    (distinct : bridge.IntfsDistinct)
    {operation : Operation bridge.vlanMaxCount}
    (admissible : Admissible bridge tracked ofproto operation) :
    Holds bridge tracked (Bundles.step bridge ofproto operation)
      (Bundles.step bridge ofproto operation).cores := by
  obtain ⟨accepts, allowed⟩ := admissible
  unfold Bundles.step
  cases event : operation.event with
  | bundleSet aux settings =>
      rw [event] at allowed
      exact holds.bundleSet distinct accepts aux settings fun s sets => (allowed s sets).2
  | bundleRemove ofpPort =>
      cases found : bridge.port? ofpPort with
      | none =>
          simp only [found]
          exact holds
      | some port =>
          simp only [found]
          exact holds.bundleRemove distinct accepts (mem_of_port? found).1
  | setVlan vid add =>
      rw [event] at allowed
      cases add with
      | true => exact holds.setVlan_add distinct accepts operation.order vid
      | false =>
          exact holds.setVlan_remove accepts operation.order vid fun track isDefault =>
            allowed track rfl isDefault

/-- Coherence holds in every state of a run. -/
theorem holds_of_reached
    (distinct : bridge.IntfsDistinct)
    (reached : Transition.Reach (Fresh bridge) (Admissible bridge tracked)
      (step bridge) ofproto) :
    Holds bridge tracked ofproto ofproto.cores :=
  reached.invariant (fun ofproto => Holds bridge tracked ofproto ofproto.cores)
    (fun _ fresh => fresh.holds)
    fun _ _ holds admissible => holds.step distinct admissible

/-! ## The sample bridge -/

theorem intfsDistinct_sampleBridge : (sampleBridge 1 2).IntfsDistinct := by
  unfold Bridge.IntfsDistinct
  decide

theorem fresh_sampleOfproto (bridge : Bridge) : Fresh bridge (sampleOfproto bridge) where
  bundles := rfl
  portBundle _ := rfl
  destroyedLags := rfl
  nodup _ := List.nodup_nil
  dormant _ _ := rfl
  ports vid intfId isMember := by
    unfold vlanPortIsMember vlanMemberLookup at isMember
    split at isMember
    · exact absurd isMember Bool.false_ne_true
    · exact absurd isMember Bool.false_ne_true

/-- A condition for `BundleSetOk` that can be evaluated. -/
def SetChecks (bridge : Bridge) (ofproto : Ofproto bridge.vlanMaxCount) (aux : Nat)
    (s : Settings bridge.vlanMaxCount) (lagId : Nat) : Prop :=
  (∀ bundle ∈ bundleLookup ofproto aux, bundle.name = s.name ∧
    (bundle.isLag = true → s.hwBondShouldExist = true ∨ bundle.trunks = none)) ∧
  (∀ bundle ∈ ofproto.bundles, bundle.aux = aux ∨ bundle.name ≠ s.name) ∧
  (lagId ≠ bridge.intfInvalidId ∧ lagId ∉ bridge.portIntfs ∧
    (∀ bundle ∈ ofproto.bundles, bundle.intfId ≠ lagId) ∧
    lagId ∉ ofproto.destroyedLags) ∧
  (∀ bundle ∈ ofproto.bundles, bundle.isTrunked defaultVlanId = false) ∧ s.Counted

instance (bridge : Bridge) (ofproto : Ofproto bridge.vlanMaxCount) (aux : Nat)
    (s : Settings bridge.vlanMaxCount) (lagId : Nat) :
    Decidable (SetChecks bridge ofproto aux s lagId) :=
  inferInstanceAs (Decidable (_ ∧ _))

theorem SetChecks.bundleSetOk
    {aux lagId : Nat}
    {s : Settings bridge.vlanMaxCount}
    (checks : SetChecks bridge ofproto aux s lagId) :
    BundleSetOk bridge tracked ofproto (sampleXdk lagId) aux s where
  nameKept bundle found := (checks.1 bundle found).1
  nameFresh missing bundle member := by
    rcases checks.2.1 bundle member with sameAux | otherName
    · have absent := List.find?_eq_none.mp missing bundle member
      exact absurd sameAux (by simpa using absent)
    · exact otherName
  lagKept bundle found isLag := by
    rcases (checks.1 bundle found).2 isLag with wanted | untrunked
    · exact .inl wanted
    · right
      intro vid
      simp [Bundle.isTrunked, untrunked]
  lagFresh _ :=
    ⟨checks.2.2.1.1, checks.2.2.1.2.1, checks.2.2.1.2.2.1,
      fun _ => checks.2.2.1.2.2.2⟩
  defaultSafe _ _ _ _ _ _ _ bundle member _ trunked := by
    rw [checks.2.2.2.1 bundle member] at trunked
    contradiction

theorem SetChecks.admissible
    {aux lagId : Nat}
    {s : Settings bridge.vlanMaxCount}
    (checks : SetChecks bridge ofproto aux s lagId) :
    Admissible bridge tracked ofproto
      ⟨.bundleSet aux (some s), sampleXdk lagId, .id⟩ := by
  refine ⟨fun _ => rfl, ?_⟩
  rintro _ ⟨⟩
  exact ⟨checks.2.2.2.2, checks.bundleSetOk⟩

/-! ## Members of the VLANs -/

/-- Outside the default VLAN, an interface is a member of the VLANs in the trunks
of its bundle, untagged in the native VLAN of the bundle unless that is tagged. -/
def FollowsTrunks (bridge : Bridge) (ofproto : Ofproto bridge.vlanMaxCount) : Prop :=
  ∀ bundle ∈ ofproto.bundles, bundle.intfId ≠ bridge.intfInvalidId →
    ∀ vid, vid ≠ defaultVlanId → vlanIsExisting bridge.toEnv ofproto.dev vid = true →
      vlanPortIsMember bridge.toEnv ofproto.dev vid bundle.intfId =
          bundle.isTrunked vid ∧
        ∀ member, vlanMemberLookup bridge.toEnv ofproto.dev vid bundle.intfId =
            some member →
          (member.encapType = .untagged ↔
            bundle.vlan = vid ∧ bundle.vlanMode ≠ .nativeTagged)

theorem followsTrunks_of_reached
    (distinct : bridge.IntfsDistinct)
    (reached : Transition.Reach (Fresh bridge) (Admissible bridge False)
      (step bridge) ofproto) :
    FollowsTrunks bridge ofproto := by
  obtain ⟨_, members, represents, coherent⟩ := holds_of_reached distinct reached
  intro bundle listed valid vid notDefault exist
  have isCore := mem_cores listed
  rw [represents.exist_eq] at exist
  refine ⟨?_, ?_⟩
  · rw [represents.isMember_eq, Bool.eq_iff_iff, Option.isSome_iff_ne_none]
    constructor
    · intro labelled
      rcases coherent.isTrunked_of_label distinct isCore valid labelled with
        trunked | ⟨isDefault, _⟩
      · exact trunked
      · exact absurd isDefault notDefault
    · intro trunked
      exact coherent.present bundle.core isCore vid exist trunked
        fun isDefault => absurd isDefault notDefault
  · intro member found
    have label := represents.label_eq vid bundle.intfId
    rw [found, Option.map_some] at label
    have encap := coherent.encap bundle.core isCore vid notDefault member.encapType
      label.symm valid
    change member.encapType = bundle.encapType vid at encap
    rw [encap, Bundle.encapType]
    split
    · rename_i isTagged
      refine ⟨fun equal => EncapType.noConfusion equal, ?_⟩
      rintro ⟨sameVlan, untagged⟩
      exact absurd isTagged (by simp [sameVlan, untagged])
    · rename_i isUntagged
      rw [not_or, not_not] at isUntagged
      exact ⟨fun _ => isUntagged, fun _ => rfl⟩

/-- A VLAN is created before one bundle and after another, and removed again. -/
def followingRun : List (Operation 4096) :=
  [operate (.setVlan 10 true) 100,
   operate (.bundleSet 1 (some (trunkSettings "1" [1] false 10))) 100,
   operate (.bundleSet 2 (some (trunkSettings "lag" [2] true 20))) 100,
   operate (.setVlan 20 true) 101,
   operate (.setVlan 10 false) 101]

theorem followsTrunks_followingRun :
    FollowsTrunks (sampleBridge 1 2)
      (Transition.run (step (sampleBridge 1 2)) (sampleOfproto _) followingRun) := by
  refine followsTrunks_of_reached intfsDistinct_sampleBridge (Transition.Reach.of_run
    (.start (fresh_sampleOfproto _)) ⟨?_, ?_, ?_, ?_, ?_, trivial⟩)
  · exact ⟨fun _ => rfl, fun untracked => untracked.elim⟩
  · exact SetChecks.admissible (by decide +kernel)
  · exact SetChecks.admissible (by decide +kernel)
  · exact ⟨fun _ => rfl, fun untracked => untracked.elim⟩
  · exact ⟨fun _ => rfl, fun untracked => untracked.elim⟩

/-- What a call is promised to keep to: other bundles have other names, a bundle
keeps its LAG, and a LAG gets an interface id of its own. -/
structure PromisedSet (bridge : Bridge) (ofproto : Ofproto bridge.vlanMaxCount)
    (xdk : Xdk) (aux : Nat) (s : Settings bridge.vlanMaxCount) : Prop where
  namesDistinct : ∀ bundle ∈ ofproto.bundles, bundle.aux = aux ∨ bundle.name ≠ s.name
  lagKept : ∀ bundle ∈ bundleLookup ofproto aux, bundle.isLag = true →
    s.hwBondShouldExist = true
  lagFresh : ∀ call, xdk.lagCreate call ≠ bridge.intfInvalidId ∧
    xdk.lagCreate call ∉ bridge.portIntfs ∧
    ∀ bundle ∈ ofproto.bundles, bundle.intfId ≠ xdk.lagCreate call

/-- What an operation is promised to keep to. -/
def Promised (bridge : Bridge) (ofproto : Ofproto bridge.vlanMaxCount)
    (operation : Operation bridge.vlanMaxCount) : Prop :=
  operation.xdk.Accepts ∧
    match operation.event with
    | .bundleSet aux settings => ∀ s, settings = some s →
        PromisedSet bridge ofproto operation.xdk aux s
    | .bundleRemove _ => True
    | .setVlan vid _ => vid.val ≠ defaultVlanId

/-- A condition for `PromisedSet` that can be evaluated. -/
def PromiseChecks (bridge : Bridge) (ofproto : Ofproto bridge.vlanMaxCount) (aux : Nat)
    (s : Settings bridge.vlanMaxCount) (lagId : Nat) : Prop :=
  (∀ bundle ∈ ofproto.bundles, bundle.aux = aux ∨ bundle.name ≠ s.name) ∧
  (∀ bundle ∈ bundleLookup ofproto aux, bundle.isLag = true →
    s.hwBondShouldExist = true) ∧
  lagId ≠ bridge.intfInvalidId ∧ lagId ∉ bridge.portIntfs ∧
    ∀ bundle ∈ ofproto.bundles, bundle.intfId ≠ lagId

instance (bridge : Bridge) (ofproto : Ofproto bridge.vlanMaxCount) (aux : Nat)
    (s : Settings bridge.vlanMaxCount) (lagId : Nat) :
    Decidable (PromiseChecks bridge ofproto aux s lagId) :=
  inferInstanceAs (Decidable (_ ∧ _))

theorem PromiseChecks.promised
    {aux lagId : Nat}
    {s : Settings bridge.vlanMaxCount}
    (checks : PromiseChecks bridge ofproto aux s lagId) :
    Promised bridge ofproto ⟨.bundleSet aux (some s), sampleXdk lagId, .id⟩ := by
  refine ⟨fun _ => rfl, ?_⟩
  rintro _ ⟨⟩
  exact ⟨checks.1, checks.2.1, fun _ => checks.2.2⟩

/-- The members of a VLAN differ from what the trunks of a bundle say. -/
def Strays (bridge : Bridge) (ofproto : Ofproto bridge.vlanMaxCount) (vid : Nat) : Prop :=
  ∃ bundle ∈ ofproto.bundles, bundle.intfId ≠ bridge.intfInvalidId ∧
    vlanIsExisting bridge.toEnv ofproto.dev vid = true ∧
    vlanPortIsMember bridge.toEnv ofproto.dev vid bundle.intfId ≠ bundle.isTrunked vid

instance (bridge : Bridge) (ofproto : Ofproto bridge.vlanMaxCount) (vid : Nat) :
    Decidable (Strays bridge ofproto vid) :=
  inferInstanceAs (Decidable (∃ bundle ∈ ofproto.bundles, _))

theorem Strays.not_followsTrunks
    {vid : Nat}
    (strays : Strays bridge ofproto vid)
    (notDefault : vid ≠ defaultVlanId) :
    ¬ FollowsTrunks bridge ofproto := by
  intro follows
  obtain ⟨bundle, listed, valid, exist, differs⟩ := strays
  exact differs (follows bundle listed valid vid notDefault exist).1

/-- Two ports share an interface id, and each has a bundle of its own. -/
def sharedIntfRun : List (Operation 4096) :=
  [operate (.setVlan 10 true) 100,
   operate (.bundleSet 1 (some (trunkSettings "1" [1] false 10))) 100,
   operate (.bundleSet 2 (some (trunkSettings "2" [2] false 20))) 100]

/-- A bundle gets another name and a second port, and a new bundle takes the name
and the port it had. -/
def renamingRun : List (Operation 4096) :=
  [operate (.setVlan 10 true) 100,
   operate (.bundleSet 1 (some (trunkSettings "1" [1] false 10))) 100,
   operate (.bundleSet 1 (some (trunkSettings "3" [1, 2] false 10))) 100,
   operate (.bundleSet 2 (some (trunkSettings "1" [1] false 20))) 100]

theorem guarded_sharedIntfRun :
    Transition.Guarded (fun ofproto operation =>
        Promised (sampleBridge 1 1) ofproto operation ∧
          Admissible (sampleBridge 1 1) False ofproto operation)
      (step (sampleBridge 1 1)) (sampleOfproto _) sharedIntfRun := by
  refine ⟨⟨⟨fun _ => rfl, ?_⟩, fun _ => rfl, fun untracked => untracked.elim⟩,
    ⟨PromiseChecks.promised ?_, SetChecks.admissible ?_⟩,
    ⟨PromiseChecks.promised ?_, SetChecks.admissible ?_⟩, trivial⟩
  · show 10 ≠ 1
    decide
  all_goals decide +kernel

theorem guarded_renamingRun :
    Transition.Guarded (Promised (sampleBridge 1 2)) (step (sampleBridge 1 2))
      (sampleOfproto _) renamingRun := by
  refine ⟨⟨fun _ => rfl, ?_⟩, PromiseChecks.promised ?_, PromiseChecks.promised ?_,
    PromiseChecks.promised ?_, trivial⟩
  · show 10 ≠ 1
    decide
  all_goals decide +kernel

/-- Where ports share an interface id, or bundles change their names, memberships
need not follow trunks. -/
theorem not_followsTrunks_of_promised :
    (¬ ∀ bridge ofproto, Transition.Reach (Fresh bridge)
        (fun ofproto operation => Promised bridge ofproto operation ∧
          Admissible bridge False ofproto operation) (step bridge) ofproto →
      FollowsTrunks bridge ofproto) ∧
    ¬ ∀ bridge : Bridge, bridge.IntfsDistinct → ∀ ofproto,
      Transition.Reach (Fresh bridge) (Promised bridge) (step bridge) ofproto →
        FollowsTrunks bridge ofproto := by
  constructor
  · intro follows
    have strays : Strays (sampleBridge 1 1) (Transition.run (step (sampleBridge 1 1))
      (sampleOfproto _) sharedIntfRun) 10 := by decide +kernel
    exact strays.not_followsTrunks (by decide) (follows _ _
      (Transition.Reach.of_run (.start (fresh_sampleOfproto _)) guarded_sharedIntfRun))
  · intro follows
    have strays : Strays (sampleBridge 1 2) (Transition.run (step (sampleBridge 1 2))
      (sampleOfproto _) renamingRun) 10 := by decide +kernel
    exact strays.not_followsTrunks (by decide) (follows _ intfsDistinct_sampleBridge _
      (Transition.Reach.of_run (.start (fresh_sampleOfproto _)) guarded_renamingRun))

/-! ## Destroyed LAGs -/

/-- No VLAN lists a LAG that was destroyed, and an interface is a member of every
VLAN in the trunks of its bundle. -/
structure LagsTracked (bridge : Bridge) (ofproto : Ofproto bridge.vlanMaxCount) :
    Prop where
  gone : ∀ lagId ∈ ofproto.destroyedLags, ∀ vid,
    ∀ member ∈ (ofproto.dev.table vid).members, member.intfId ≠ lagId
  joined : ∀ bundle ∈ ofproto.bundles, bundle.intfId ≠ bridge.intfInvalidId →
    ∀ vid, vlanIsExisting bridge.toEnv ofproto.dev vid = true →
      bundle.isTrunked vid = true →
        vlanPortIsMember bridge.toEnv ofproto.dev vid bundle.intfId = true

theorem lagsTracked_of_reached
    (distinct : bridge.IntfsDistinct)
    (reached : Transition.Reach (Fresh bridge) (Admissible bridge True)
      (step bridge) ofproto) :
    LagsTracked bridge ofproto := by
  obtain ⟨_, members, represents, coherent⟩ := holds_of_reached distinct reached
  refine ⟨?_, ?_⟩
  · rintro lagId destroyed vid member listed rfl
    obtain ⟨_, notPort, unowned⟩ := coherent.destroyed trivial _ destroyed
    have existing : vlanIsExisting bridge.toEnv ofproto.dev vid = true := by
      by_contra missing
      rw [Bool.not_eq_true] at missing
      rw [represents.dormant vid missing] at listed
      exact List.not_mem_nil listed
    have labelled : members.label vid member.intfId ≠ none := by
      rw [ne_eq, ← represents.lookup_eq_none, vlanMemberLookup, if_pos existing,
        List.find?_eq_none]
      intro absent
      exact absent member listed (by simp)
    rcases coherent.justified vid member.intfId labelled with
      ⟨bundle, isCore, sameIntf, _⟩ | ⟨_, isPort⟩
    · exact unowned bundle isCore sameIntf
    · exact notPort isPort
  · intro bundle listed _ vid exist trunked
    rw [represents.exist_eq] at exist
    rw [represents.isMember_eq, Option.isSome_iff_ne_none]
    exact coherent.present bundle.core (mem_cores listed) vid exist trunked
      fun _ => trivial

/-- The settings of a LAG that is only announced. -/
def announcedSettings (name : String) (slaves : List Nat) (hwBond : Bool) :
    Settings 4096 :=
  { trunkSettings name slaves hwBond 10 with bondHandleAllocOnly := true }

/-- A LAG is announced, given up, and made anew with trunks. -/
def trackingRun : List (Operation 4096) :=
  [operate (.setVlan 10 true) 100,
   operate (.bundleSet 1 (some (announcedSettings "lag" [1, 2] true))) 100,
   operate (.bundleSet 1 (some (announcedSettings "lag" [1, 2] false))) 101,
   operate (.bundleSet 1 (some (trunkSettings "lag" [1, 2] true 10))) 101,
   operate (.setVlan 10 false) 102]

theorem lagsTracked_trackingRun :
    LagsTracked (sampleBridge 1 2)
      (Transition.run (step (sampleBridge 1 2)) (sampleOfproto _) trackingRun) := by
  refine lagsTracked_of_reached intfsDistinct_sampleBridge (Transition.Reach.of_run
    (.start (fresh_sampleOfproto _)) ⟨?_, ?_, ?_, ?_, ?_, trivial⟩)
  · exact ⟨fun _ => rfl, fun _ adds => absurd adds (by decide)⟩
  · exact SetChecks.admissible (by decide +kernel)
  · exact SetChecks.admissible (by decide +kernel)
  · exact SetChecks.admissible (by decide +kernel)
  · exact ⟨fun _ => rfl, fun _ _ isDefault => absurd isDefault (by decide)⟩

/-- Every call succeeds and a LAG gets an interface id that nothing else has or
had. -/
def FreshLags (bridge : Bridge) (ofproto : Ofproto bridge.vlanMaxCount)
    (operation : Operation bridge.vlanMaxCount) : Prop :=
  operation.xdk.Accepts ∧ ∀ call, operation.xdk.lagCreate call ≠ bridge.intfInvalidId ∧
    operation.xdk.lagCreate call ∉ bridge.portIntfs ∧
    (∀ bundle ∈ ofproto.bundles, bundle.intfId ≠ operation.xdk.lagCreate call) ∧
    operation.xdk.lagCreate call ∉ ofproto.destroyedLags

/-- A LAG with trunks is given up and made anew. -/
def givingUpRun : List (Operation 4096) :=
  [operate (.setVlan 10 true) 100,
   operate (.bundleSet 1 (some (trunkSettings "lag" [1, 2] true 10))) 100,
   operate (.bundleSet 1 (some (trunkSettings "lag" [1, 2] false 10))) 101,
   operate (.bundleSet 1 (some (trunkSettings "lag" [1, 2] true 10))) 101]

theorem guarded_givingUpRun :
    Transition.Guarded (FreshLags (sampleBridge 1 2)) (step (sampleBridge 1 2))
      (sampleOfproto _) givingUpRun := by
  have checked : ∀ (ofproto : Ofproto (sampleBridge 1 2).vlanMaxCount) event lagId,
      (lagId ≠ (sampleBridge 1 2).intfInvalidId ∧
        lagId ∉ (sampleBridge 1 2).portIntfs ∧
        (∀ bundle ∈ ofproto.bundles, bundle.intfId ≠ lagId) ∧
        lagId ∉ ofproto.destroyedLags) →
      FreshLags (sampleBridge 1 2) ofproto (operate event lagId) :=
    fun _ _ _ fresh => ⟨fun _ => rfl, fun _ => fresh⟩
  refine ⟨checked _ _ _ ?_, checked _ _ _ ?_, checked _ _ _ ?_, checked _ _ _ ?_, trivial⟩
  all_goals decide +kernel

/-- The VLAN keeps the LAG that was destroyed, and the new one does not join. -/
theorem not_lagsTracked_givingUpRun :
    let ofproto := Transition.run (step (sampleBridge 1 2)) (sampleOfproto _) givingUpRun
    Transition.Reach (Fresh (sampleBridge 1 2)) (FreshLags (sampleBridge 1 2))
        (step (sampleBridge 1 2)) ofproto ∧
      (∃ lagId ∈ ofproto.destroyedLags, ∃ member ∈ (ofproto.dev.table 10).members,
        member.intfId = lagId) ∧
      (∃ bundle ∈ ofproto.bundles, bundle.intfId ≠ (sampleBridge 1 2).intfInvalidId ∧
        vlanIsExisting (sampleBridge 1 2).toEnv ofproto.dev 10 = true ∧
        bundle.isTrunked 10 = true ∧
        vlanPortIsMember (sampleBridge 1 2).toEnv ofproto.dev 10 bundle.intfId = false) ∧
      ¬ LagsTracked (sampleBridge 1 2) ofproto := by
  intro ofproto
  have stays : ∃ lagId ∈ ofproto.destroyedLags,
      ∃ member ∈ (ofproto.dev.table 10).members, member.intfId = lagId := by
    decide +kernel
  refine ⟨Transition.Reach.of_run (.start (fresh_sampleOfproto _)) guarded_givingUpRun,
    stays, by decide +kernel, ?_⟩
  intro lagsTracked
  obtain ⟨lagId, destroyed, member, listed, sameIntf⟩ := stays
  exact lagsTracked.gone lagId destroyed 10 member listed sameIntf

end Bundles
end XpliantSwitchd
