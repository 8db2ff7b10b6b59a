import XpliantSwitchd.Vlan.Defs
import XpliantSwitchd.Lib.Transition
import Mathlib.Data.List.Nodup

/-!
# The VLAN manager and the hardware

Every call of the XDK may fail without effect.  The members of a VLAN are written
to the hardware first and to the table after that, so they agree whatever fails.
A VLAN itself is entered into the table after three further calls, and taken out
of it before the only call: a failure there parts the two.
-/

namespace XpliantSwitchd
namespace Vlans

/-- The operations of the VLAN manager. -/
inductive Event
  | create (vlanId : Nat)
  | remove (vlanId : Nat)
  | memberAdd (vlanId intfId : Nat) (encapType : EncapType)
  | memberRemove (vlanId intfId : Nat)
  | memberSetTagging (vlanId intfId : Nat) (tagging : Bool)
  | membersRemoveAll (vlanId : Nat) (visit : List Member → List Member)
  | portClearAllMembership (intfId : Nat)

/-- An operation with the answers of the XDK. -/
structure Operation where
  event : Event
  xdk : Xdk

/-- The device after an operation, with its return code. -/
def perform (env : Env) (xdk : Xdk) (dev : Dev) : Event → Option Errno × Dev
  | .create vlanId => vlanCreate env xdk dev vlanId
  | .remove vlanId => vlanRemove env xdk dev vlanId
  | .memberAdd vlanId intfId encapType =>
      vlanMemberAdd env xdk dev vlanId intfId encapType
  | .memberRemove vlanId intfId => vlanMemberRemove env xdk dev vlanId intfId
  | .memberSetTagging vlanId intfId tagging =>
      vlanMemberSetTagging env xdk dev vlanId intfId tagging
  | .membersRemoveAll vlanId visit => vlanMembersRemoveAll env xdk visit dev vlanId
  | .portClearAllMembership intfId => vlanPortClearAllMembership env xdk dev intfId

/-- The device after an operation. -/
def step (env : Env) (dev : Dev) (operation : Operation) : Dev :=
  (perform env operation.xdk dev operation.event).2

/-- An entry of the table says what the hardware has: the VLAN exists in both or
in none, with the same members, each of them once. -/
structure Agree (vlan : Vlan) (hwMembers : Option (List Member)) : Prop where
  exist : vlan.isExisting = hwMembers.isSome
  members : vlan.members.Perm (hwMembers.getD [])
  once : (vlan.members.map (·.intfId)).Nodup

/-- Table and hardware agree on every valid VLAN id. -/
def Mirrored (env : Env) (dev : Dev) : Prop :=
  ∀ vlanId, isVlanIdValid env vlanId = true →
    Agree (dev.table vlanId) (dev.hw.vlans vlanId)

/-! ## One entry -/

namespace Agree

variable {vlan : Vlan} {hwMembers : List Member} {intfId : Nat}

theorem join
    (agree : Agree vlan (some hwMembers))
    (absent : vlan.members.find? (·.intfId == intfId) = none)
    (encapType : EncapType) :
    Agree { vlan with members := ⟨intfId, encapType⟩ :: vlan.members }
      (some (⟨intfId, encapType⟩ :: hwMembers)) where
  exist := agree.exist
  members := agree.members.cons _
  once := by
    rw [List.map_cons, List.nodup_cons]
    refine ⟨?_, agree.once⟩
    intro listed
    obtain ⟨member, isMember, sameIntf⟩ := List.mem_map.mp listed
    exact List.find?_eq_none.mp absent member isMember (by simpa using sameIntf)

theorem leave (agree : Agree vlan (some hwMembers)) (intfId : Nat) :
    Agree { vlan with members := vlan.members.eraseP (·.intfId == intfId) }
      (some (hwMembers.eraseP (·.intfId == intfId))) where
  exist := agree.exist
  members := by
    refine agree.members.eraseP _ ?_
    refine (List.pairwise_map.mp agree.once).imp ?_
    intro left right different leftSame rightSame
    rw [beq_iff_eq] at leftSame rightSame
    exact different (leftSame.trans rightSame.symm)
  once := agree.once.sublist (List.eraseP_sublist.map _)

end Agree

/-! ## The operations on members -/

theorem call_of_succeeds
    {xdk : Xdk}
    {dev : Dev}
    {effect : Hw → Hw}
    (succeeds : xdk.succeeds dev.calls = true) :
    dev.call xdk effect =
      (true, { dev with hw := effect dev.hw, calls := dev.calls + 1 }) :=
  if_pos succeeds

theorem call_of_fails
    {xdk : Xdk}
    {dev : Dev}
    {effect : Hw → Hw}
    (fails : xdk.succeeds dev.calls = false) :
    dev.call xdk effect = (false, { dev with calls := dev.calls + 1 }) :=
  if_neg (by simp [fails])

@[simp] theorem call_id_snd (xdk : Xdk) (dev : Dev) :
    (dev.call xdk id).2 = { dev with calls := dev.calls + 1 } := by
  unfold Dev.call
  split
  · rfl
  · rfl

theorem onVlan_vlans
    {hw : Hw}
    {vlanId : Nat}
    {members : List Member}
    (known : hw.vlans vlanId = some members)
    (change : List Member → List Member) :
    (Hw.onVlan vlanId change hw).vlans =
      Function.update hw.vlans vlanId (some (change members)) := by
  simp [Hw.onVlan, known]

namespace Mirrored

variable {env : Env} {xdk : Xdk} {dev : Dev} {vlanId intfId : Nat}

theorem hw_eq_some
    (mirrored : Mirrored env dev)
    (existing : vlanIsExisting env dev vlanId = true) :
    ∃ hwMembers, dev.hw.vlans vlanId = some hwMembers ∧
      Agree (dev.table vlanId) (some hwMembers) := by
  rw [vlanIsExisting, Bool.and_eq_true] at existing
  have agree := mirrored vlanId existing.1
  have present := agree.exist
  rw [existing.2] at present
  obtain ⟨hwMembers, known⟩ := Option.isSome_iff_exists.mp present.symm
  rw [known] at agree
  exact ⟨hwMembers, known, agree⟩

/-- One entry is written on both sides. -/
theorem write
    (mirrored : Mirrored env dev)
    {vlan : Vlan}
    {hwMembers : Option (List Member)}
    (agree : Agree vlan hwMembers)
    {after : Dev}
    (table : after.table = Function.update dev.table vlanId vlan)
    (hw : after.hw.vlans = Function.update dev.hw.vlans vlanId hwMembers) :
    Mirrored env after := by
  intro other valid
  rw [table, hw]
  by_cases same : other = vlanId
  · subst same
    simpa using agree
  · simpa [same] using mirrored other valid

/-- Only the VLANs matter. -/
theorem of_same
    {other : Dev}
    (mirrored : Mirrored env dev)
    (table : other.table = dev.table)
    (vlans : other.hw.vlans = dev.hw.vlans) :
    Mirrored env other := by
  intro vid valid
  rw [table, vlans]
  exact mirrored vid valid

theorem memberAdd (mirrored : Mirrored env dev) (encapType : EncapType) :
    Mirrored env (vlanMemberAdd env xdk dev vlanId intfId encapType).2 := by
  unfold vlanMemberAdd
  cases existing : vlanIsExisting env dev vlanId with
  | false => exact mirrored
  | true =>
      cases isMember : vlanPortIsMember env dev vlanId intfId with
      | true => exact mirrored
      | false =>
          have absent : (dev.table vlanId).members.find? (·.intfId == intfId) = none := by
            rw [vlanPortIsMember, vlanMemberLookup, if_pos existing] at isMember
            exact Option.isSome_eq_false_iff.mp isMember |> Option.isNone_iff_eq_none.mp
          obtain ⟨hwMembers, known, agree⟩ := mirrored.hw_eq_some existing
          simp only [Bool.not_true, Bool.false_eq_true, if_false]
          cases added : xdk.succeeds dev.calls with
          | false =>
              rw [call_of_fails added]
              exact mirrored
          | true =>
              rw [call_of_succeeds added]
              exact mirrored.write (agree.join absent encapType) rfl
                (onVlan_vlans known _)

theorem memberRemove (mirrored : Mirrored env dev) :
    Mirrored env (vlanMemberRemove env xdk dev vlanId intfId).2 := by
  unfold vlanMemberRemove
  cases existing : vlanIsExisting env dev vlanId with
  | false => exact mirrored
  | true =>
      cases vlanMemberLookup env dev vlanId intfId with
      | none => exact mirrored
      | some member =>
          have disabled : Mirrored env
              (if env.isTunnelIntf intfId then (true, dev) else dev.call xdk id).2 ∧
              (if env.isTunnelIntf intfId then (true, dev)
                else dev.call xdk id).2.table = dev.table := by
            split
            · exact ⟨mirrored, rfl⟩
            · rw [call_id_snd]
              exact ⟨mirrored, rfl⟩
          simp only [Bool.not_true, Bool.false_eq_true, if_false]
          generalize (if env.isTunnelIntf intfId then (true, dev) else dev.call xdk id) =
            result at disabled ⊢
          obtain ⟨answer, between⟩ := result
          obtain ⟨mirrored, sameTable⟩ := disabled
          cases answer with
          | false => exact mirrored
          | true =>
              have existing : vlanIsExisting env between vlanId = true := by
                rw [vlanIsExisting, sameTable]
                exact existing
              obtain ⟨hwMembers, known, agree⟩ := mirrored.hw_eq_some existing
              simp only [Bool.not_true, Bool.false_eq_true, if_false]
              cases removed : xdk.succeeds between.calls with
              | false =>
                  rw [call_of_fails removed]
                  exact mirrored
              | true =>
                  rw [call_of_succeeds removed]
                  exact mirrored.write (agree.leave intfId) rfl (onVlan_vlans known _)

theorem memberSetTagging (mirrored : Mirrored env dev) (tagging : Bool) :
    Mirrored env (vlanMemberSetTagging env xdk dev vlanId intfId tagging).2 := by
  unfold vlanMemberSetTagging
  have removed := @memberRemove env xdk dev vlanId intfId mirrored
  simp only
  split
  · exact mirrored
  split
  · exact mirrored
  split
  · exact mirrored
  split
  · exact mirrored
  cases result : vlanMemberRemove env xdk dev vlanId intfId with
  | mk errno between =>
      rw [result] at removed
      cases errno with
      | some errno => exact removed
      | none => exact removed.memberAdd _

theorem removeMembers (mirrored : Mirrored env dev) (members : List Member) :
    Mirrored env (Vlans.removeMembers env xdk vlanId members dev).2 := by
  induction members generalizing dev with
  | nil => exact mirrored
  | cons member members inductionHypothesis =>
      have removed := @memberRemove env xdk dev vlanId member.intfId mirrored
      unfold Vlans.removeMembers
      cases result : vlanMemberRemove env xdk dev vlanId member.intfId with
      | mk errno between =>
          rw [result] at removed
          cases errno with
          | some errno => exact removed
          | none => exact inductionHypothesis removed

theorem clearMembership (mirrored : Mirrored env dev) (vlanIds : List Nat) :
    Mirrored env (Vlans.clearMembership env xdk intfId vlanIds dev).2 := by
  induction vlanIds generalizing dev with
  | nil => exact mirrored
  | cons vlanId vlanIds inductionHypothesis =>
      have removed := @memberRemove env xdk dev vlanId intfId mirrored
      unfold Vlans.clearMembership
      split
      · exact inductionHypothesis mirrored
      cases result : vlanMemberRemove env xdk dev vlanId intfId with
      | mk errno between =>
          rw [result] at removed
          cases errno with
          | some errno => exact removed
          | none => exact inductionHypothesis removed

/-! ## The operations on VLANs -/

/-- A VLAN that the hardware has created has to be configured as well. -/
theorem create
    (mirrored : Mirrored env dev)
    (configured : isVlanIdValid env vlanId = true →
      (dev.table vlanId).isExisting = false → xdk.succeeds dev.calls = true →
        xdk.succeeds (dev.calls + 1) = true ∧ xdk.succeeds (dev.calls + 3) = true) :
    Mirrored env (vlanCreate env xdk dev vlanId).2 := by
  unfold vlanCreate
  cases valid : isVlanIdValid env vlanId with
  | false => exact mirrored
  | true =>
      cases existing : (dev.table vlanId).isExisting with
      | true => exact mirrored
      | false =>
          simp only [Bool.not_true, Bool.false_eq_true, if_false]
          cases created : xdk.succeeds dev.calls with
          | false =>
              rw [call_of_fails created]
              exact mirrored
          | true =>
              obtain ⟨gotConfig, setConfig⟩ := configured valid existing created
              have agree := mirrored vlanId valid
              have absent : dev.hw.vlans vlanId = none := by
                rw [← Option.not_isSome_iff_eq_none, ← agree.exist, existing]
                exact Bool.false_ne_true
              have founded : Agree { dev.table vlanId with isExisting := true }
                  (some []) := by
                refine ⟨rfl, ?_, agree.once⟩
                have members := agree.members
                rw [absent] at members
                exact members
              rw [call_of_succeeds created]
              simp only [Bool.not_true, Bool.false_eq_true, if_false]
              rw [call_of_succeeds gotConfig]
              simp only [Bool.not_true, Bool.false_eq_true, if_false, call_id_snd]
              rw [call_of_succeeds setConfig]
              exact mirrored.write founded rfl rfl

/-- A VLAN that leaves the table has to be destroyed. -/
theorem remove
    (mirrored : Mirrored env dev)
    (destroyed : vlanIsExisting env dev vlanId = true →
      xdk.succeeds dev.calls = true) :
    Mirrored env (vlanRemove env xdk dev vlanId).2 := by
  unfold vlanRemove
  cases existing : vlanIsExisting env dev vlanId with
  | false => exact mirrored
  | true =>
      simp only [Bool.not_true, Bool.false_eq_true, if_false]
      have gone : Agree { isExisting := false, members := [] } none :=
        ⟨rfl, List.Perm.refl _, List.nodup_nil⟩
      have succeeds : xdk.succeeds (dev.setVlan vlanId
          { isExisting := false, members := [] }).calls = true :=
        destroyed existing
      rw [call_of_succeeds succeeds]
      exact mirrored.write gone rfl rfl

end Mirrored

/-! ## Runs -/

/-- After `xpsVlanCreate` the configuration of the VLAN may not fail, and
`xpsVlanDestroy` may not fail. -/
def Admissible (env : Env) (dev : Dev) (operation : Operation) : Prop :=
  match operation.event with
  | .create vlanId => isVlanIdValid env vlanId = true →
      (dev.table vlanId).isExisting = false →
        operation.xdk.succeeds dev.calls = true →
          operation.xdk.succeeds (dev.calls + 1) = true ∧
            operation.xdk.succeeds (dev.calls + 3) = true
  | .remove vlanId => vlanIsExisting env dev vlanId = true →
      operation.xdk.succeeds dev.calls = true
  | _ => True

theorem Mirrored.step
    {env : Env}
    {dev : Dev}
    {operation : Operation}
    (mirrored : Mirrored env dev)
    (admissible : Admissible env dev operation) :
    Mirrored env (Vlans.step env dev operation) := by
  obtain ⟨event, xdk⟩ := operation
  cases event with
  | create vlanId => exact mirrored.create admissible
  | remove vlanId => exact mirrored.remove admissible
  | memberAdd vlanId intfId encapType => exact mirrored.memberAdd encapType
  | memberRemove vlanId intfId => exact mirrored.memberRemove
  | memberSetTagging vlanId intfId tagging => exact mirrored.memberSetTagging tagging
  | membersRemoveAll vlanId visit =>
      show Mirrored env (vlanMembersRemoveAll env xdk visit dev vlanId).2
      unfold vlanMembersRemoveAll
      split
      · exact mirrored
      · exact mirrored.removeMembers _
  | portClearAllMembership intfId => exact mirrored.clearMembership _

theorem mirrored_of_reached
    {env : Env}
    {dev : Dev}
    (reached : Transition.Reach (Mirrored env) (Admissible env) (step env) dev) :
    Mirrored env dev :=
  reached.invariant (Mirrored env) (fun _ mirrored => mirrored)
    fun _ _ mirrored admissible => mirrored.step admissible

/-- The VLAN ids of 802.1Q. -/
abbrev sampleEnv : Env where
  vlanMinId := 1
  vlanMaxId := 4094
  vlanMaxCount := 4096
  isTunnelIntf := fun _ => false
  encapOfBool := fun tagging => if tagging then .tagged else .untagged
  intfInvalidId := 0
  netdevFromPortNum := fun _ => true
  min_le_default := by decide
  default_le_max := by decide
  max_lt_count := by decide
  count_le := by decide

/-- A device without VLANs. -/
def emptyDev : Dev where
  table := fun _ => ⟨false, []⟩
  ifIdToName := []
  hw :=
    { vlans := fun _ => none
      lags := []
      ports := fun _ => ⟨defaultVlanId, true⟩
      frameTypes := fun _ => .all }
  calls := 0

theorem mirrored_emptyDev (env : Env) : Mirrored env emptyDev :=
  fun _ _ => ⟨rfl, List.Perm.refl _, List.nodup_nil⟩

/-- The XDK fails in the calls with the given numbers. -/
def failingXdk (failing : List Nat) : Xdk := ⟨(· ∉ failing), fun _ => 0⟩

/-- Creating a VLAN fails and succeeds, so does adding a member; the member is
lost while its tagging changes, and comes back beside another. -/
def recoveringRun : List Operation :=
  [⟨.create 10, failingXdk [0]⟩, ⟨.create 10, failingXdk []⟩,
   ⟨.memberAdd 10 5 .untagged, failingXdk [5]⟩,
   ⟨.memberAdd 10 5 .untagged, failingXdk []⟩,
   ⟨.memberSetTagging 10 5 true, failingXdk [9]⟩, ⟨.remove 10, failingXdk []⟩,
   ⟨.create 10, failingXdk []⟩, ⟨.memberAdd 10 5 .tagged, failingXdk []⟩,
   ⟨.memberAdd 10 6 .untagged, failingXdk []⟩, ⟨.memberRemove 10 5, failingXdk [17]⟩]

theorem mirrored_recoveringRun :
    (Transition.run (step sampleEnv) emptyDev recoveringRun).table 10 =
        ⟨true, [⟨6, .untagged⟩, ⟨5, .tagged⟩]⟩ ∧
      Mirrored sampleEnv (Transition.run (step sampleEnv) emptyDev recoveringRun) := by
  refine ⟨by decide, mirrored_of_reached (Transition.Reach.of_run
    (.start (mirrored_emptyDev _)) ⟨?_, ?_, trivial, trivial, trivial, ?_, ?_, trivial,
      trivial, trivial, trivial⟩)⟩
  · intro _ _
    decide
  · intro _ _
    decide
  · intro _
    decide
  · intro _ _
    decide

/-- The hardware creates a VLAN and fails to tell its configuration. -/
def unconfiguredRun : List Operation := [⟨.create 10, failingXdk [1]⟩]

/-- The hardware keeps a VLAN that the table gave up. -/
def undestroyedRun : List Operation :=
  [⟨.create 10, failingXdk []⟩, ⟨.memberAdd 10 5 .untagged, failingXdk []⟩,
   ⟨.remove 10, failingXdk [5]⟩]

/-- A failure while a VLAN is created or removed parts table and hardware. -/
theorem not_mirrored_unconfiguredRun :
    Mirrored sampleEnv emptyDev ∧
      ¬ Mirrored sampleEnv (Transition.run (step sampleEnv) emptyDev unconfiguredRun) ∧
      ¬ Mirrored sampleEnv (Transition.run (step sampleEnv) emptyDev undestroyedRun) := by
  refine ⟨mirrored_emptyDev _, ?_, ?_⟩
  · intro mirrored
    exact absurd (mirrored 10 (by decide)).exist (by decide)
  · intro mirrored
    exact absurd (mirrored 10 (by decide)).exist (by decide)

end Vlans
end XpliantSwitchd
