import XpliantSwitchd.Vlan.Hardware
import XpliantSwitchd.Vlan.Membership

/-!
# Operations that stop at a failed call

An operation on the members of a VLAN makes a number of calls that the state
before it determines.  If they succeed, it does what it does under an XDK that
accepts everything; if one of them fails, the device is as it was.
-/

namespace XpliantSwitchd
namespace Vlans

/-- A number of calls in a row succeed. -/
def Xdk.SucceedsFor (xdk : Xdk) (first calls : Nat) : Prop :=
  ∀ i < calls, xdk.succeeds (first + i) = true

instance (xdk : Xdk) (first calls : Nat) : Decidable (xdk.SucceedsFor first calls) :=
  inferInstanceAs (Decidable (∀ i < calls, _))

/-- The XDK with every call accepted. -/
def Xdk.accepting (xdk : Xdk) : Xdk :=
  { xdk with succeeds := fun _ => true }

namespace Xdk

variable {xdk : Xdk} {first calls more : Nat}

theorem accepting_accepts (xdk : Xdk) : xdk.accepting.Accepts :=
  fun _ => rfl

@[simp] theorem succeedsFor_zero : xdk.SucceedsFor first 0 := by
  intro i inside
  omega

@[simp] theorem succeedsFor_one :
    xdk.SucceedsFor first 1 ↔ xdk.succeeds first = true := by
  simp [SucceedsFor]

theorem succeedsFor_add :
    xdk.SucceedsFor first (calls + more) ↔
      xdk.SucceedsFor first calls ∧ xdk.SucceedsFor (first + calls) more := by
  constructor
  · intro all
    refine ⟨fun i inside => all i (by omega), fun i inside => ?_⟩
    have later := all (calls + i) (by omega)
    rwa [← Nat.add_assoc] at later
  · rintro ⟨earlier, later⟩ i inside
    rcases Nat.lt_or_ge i calls with before | after
    · exact earlier i before
    · have found := later (i - calls) (by omega)
      rwa [show first + calls + (i - calls) = first + i by omega] at found

theorem Accepts.succeedsFor (accepts : xdk.Accepts) : xdk.SucceedsFor first calls :=
  fun _ _ => accepts _

end Xdk

variable {env : Env} {xdk : Xdk} {dev : Dev} {vlanId intfId : Nat}

/-- The calls that take a member out of a VLAN.  Learning is not disabled on a
tunnel. -/
def removeCalls (env : Env) (intfId : Nat) : Nat :=
  if env.isTunnelIntf intfId then 1 else 2

/-- The calls of `ops_xp_vlan_member_remove` in an existing VLAN. -/
def leaveCalls (env : Env) (dev : Dev) (vlanId intfId : Nat) : Nat :=
  if vlanPortIsMember env dev vlanId intfId then removeCalls env intfId else 0

/-- The calls of `ops_xp_vlan_member_add` in an existing VLAN. -/
def joinCalls (env : Env) (dev : Dev) (vlanId intfId : Nat) : Nat :=
  if vlanPortIsMember env dev vlanId intfId then 0 else 1

section Entries

variable {other : Dev}

/-- Whether a VLAN exists is said by its entry. -/
theorem vlanIsExisting_congr (same : other.table vlanId = dev.table vlanId) :
    vlanIsExisting env other vlanId = vlanIsExisting env dev vlanId := by
  rw [vlanIsExisting, same, vlanIsExisting]

/-- A member of a VLAN is found in its entry. -/
theorem vlanMemberLookup_congr (same : other.table vlanId = dev.table vlanId) :
    vlanMemberLookup env other vlanId intfId = vlanMemberLookup env dev vlanId intfId := by
  rw [vlanMemberLookup, vlanIsExisting_congr same, same, vlanMemberLookup]

theorem vlanPortIsMember_congr (same : other.table vlanId = dev.table vlanId) :
    vlanPortIsMember env other vlanId intfId = vlanPortIsMember env dev vlanId intfId := by
  rw [vlanPortIsMember, vlanMemberLookup_congr same, vlanPortIsMember]

end Entries

@[simp] theorem call_calls (effect : Hw → Hw) :
    (dev.call xdk effect).2.calls = dev.calls + 1 := by
  unfold Dev.call
  split <;> rfl

/-- An operation that leaves the settings of ports and interfaces alone. -/
structure SamePorts (before after : Dev) : Prop where
  ports : after.hw.ports = before.hw.ports
  frameTypes : after.hw.frameTypes = before.hw.frameTypes

namespace SamePorts

variable {first second third : Dev}

theorem refl (dev : Dev) : SamePorts dev dev := ⟨rfl, rfl⟩

theorem trans (left : SamePorts first second) (right : SamePorts second third) :
    SamePorts first third where
  ports := right.ports.trans left.ports
  frameTypes := right.frameTypes.trans left.frameTypes

theorem call
    (effect : Hw → Hw)
    (ports : ∀ hw, (effect hw).ports = hw.ports)
    (frameTypes : ∀ hw, (effect hw).frameTypes = hw.frameTypes)
    (xdk : Xdk)
    (dev : Dev) :
    SamePorts dev (dev.call xdk effect).2 := by
  unfold Dev.call
  split
  · exact ⟨ports dev.hw, frameTypes dev.hw⟩
  · exact ⟨rfl, rfl⟩

theorem onVlan (change : List Member → List Member) (xdk : Xdk) (dev : Dev) (vlanId : Nat) :
    SamePorts dev (dev.call xdk (Hw.onVlan vlanId change)).2 :=
  call (Hw.onVlan vlanId change) (fun _ => rfl) (fun _ => rfl) xdk dev

theorem memberAdd (env : Env) (xdk : Xdk) (dev : Dev) (vlanId intfId : Nat)
    (encapType : EncapType) :
    SamePorts dev (vlanMemberAdd env xdk dev vlanId intfId encapType).2 := by
  have added := onVlan (⟨intfId, encapType⟩ :: ·) xdk dev vlanId
  unfold vlanMemberAdd
  split
  · exact refl dev
  split
  · exact refl dev
  · simp only
    split
    · exact added
    · exact ⟨added.ports, added.frameTypes⟩

theorem memberRemove (env : Env) (xdk : Xdk) (dev : Dev) (vlanId intfId : Nat) :
    SamePorts dev (vlanMemberRemove env xdk dev vlanId intfId).2 := by
  unfold vlanMemberRemove
  split
  · exact refl dev
  split
  · exact refl dev
  · have disabled : SamePorts dev (if env.isTunnelIntf intfId then (true, dev)
        else dev.call xdk id).2 := by
      split
      · exact refl dev
      · exact call id (fun _ => rfl) (fun _ => rfl) xdk dev
    generalize (if env.isTunnelIntf intfId then (true, dev) else dev.call xdk id) =
      answer at disabled ⊢
    have removed := disabled.trans (onVlan (List.eraseP (·.intfId == intfId)) xdk answer.2
      vlanId)
    simp only
    split
    · exact disabled
    split
    · exact removed
    · exact ⟨removed.ports, removed.frameTypes⟩

end SamePorts

/-- `ops_xp_vlan_member_add` with its call accepted. -/
theorem vlanMemberAdd_completes
    (encapType : EncapType)
    (existing : vlanIsExisting env dev vlanId = true)
    (enough : xdk.SucceedsFor dev.calls (joinCalls env dev vlanId intfId)) :
    ∃ after, vlanMemberAdd env xdk dev vlanId intfId encapType = (none, after) ∧
      vlanMemberAdd env xdk.accepting dev vlanId intfId encapType = (none, after) ∧
      after.calls = dev.calls + joinCalls env dev vlanId intfId := by
  unfold joinCalls at enough ⊢
  unfold vlanMemberAdd
  rw [existing]
  cases member : vlanPortIsMember env dev vlanId intfId with
  | true => exact ⟨dev, rfl, rfl, rfl⟩
  | false =>
      rw [member] at enough
      have succeeds : xdk.succeeds dev.calls = true := by simpa using enough
      rw [call_of_succeeds succeeds, xdk.accepting_accepts.call]
      exact ⟨_, rfl, rfl, rfl⟩

/-- `ops_xp_vlan_member_add` with its call refused. -/
theorem vlanMemberAdd_stops
    (encapType : EncapType)
    (existing : vlanIsExisting env dev vlanId = true)
    (refused : ¬ xdk.SucceedsFor dev.calls (joinCalls env dev vlanId intfId)) :
    vlanPortIsMember env dev vlanId intfId = false ∧
      ∃ errno calls, vlanMemberAdd env xdk dev vlanId intfId encapType =
        (some errno, { dev with calls := calls }) := by
  unfold joinCalls at refused
  unfold vlanMemberAdd
  rw [existing]
  cases member : vlanPortIsMember env dev vlanId intfId with
  | true => simp [member] at refused
  | false =>
      have fails : xdk.succeeds dev.calls = false := by simpa [member] using refused
      refine ⟨rfl, .EPERM, dev.calls + 1, ?_⟩
      rw [call_of_fails fails]
      rfl

/-- `ops_xp_vlan_member_remove` with its calls accepted. -/
theorem vlanMemberRemove_completes
    (existing : vlanIsExisting env dev vlanId = true)
    (enough : xdk.SucceedsFor dev.calls (leaveCalls env dev vlanId intfId)) :
    ∃ after, vlanMemberRemove env xdk dev vlanId intfId = (none, after) ∧
      vlanMemberRemove env xdk.accepting dev vlanId intfId = (none, after) ∧
      after.calls = dev.calls + leaveCalls env dev vlanId intfId := by
  unfold leaveCalls vlanPortIsMember at enough ⊢
  unfold vlanMemberRemove
  rw [existing]
  cases lookup : vlanMemberLookup env dev vlanId intfId with
  | none => exact ⟨dev, rfl, rfl, rfl⟩
  | some entry =>
      rw [lookup, Option.isSome_some, if_pos rfl, removeCalls] at enough
      simp only [Bool.not_true, Bool.false_eq_true, if_false, Option.isSome_some,
        if_true, removeCalls]
      cases tunnel : env.isTunnelIntf intfId with
      | true =>
          rw [tunnel, if_pos rfl, Xdk.succeedsFor_one] at enough
          rw [if_pos rfl, if_pos rfl, call_of_succeeds enough, xdk.accepting_accepts.call]
          exact ⟨_, rfl, rfl, rfl⟩
      | false =>
          rw [tunnel, if_neg Bool.false_ne_true] at enough
          have first : xdk.succeeds dev.calls = true := enough 0 (by omega)
          have second : xdk.succeeds (dev.calls + 1) = true := enough 1 (by omega)
          rw [if_neg Bool.false_ne_true, if_neg Bool.false_ne_true,
            call_of_succeeds first, xdk.accepting_accepts.call]
          simp only [Bool.not_true, Bool.false_eq_true, if_false]
          rw [call_of_succeeds (by exact second), xdk.accepting_accepts.call]
          exact ⟨_, rfl, rfl, rfl⟩

/-- `ops_xp_vlan_member_remove` with a call refused. -/
theorem vlanMemberRemove_stops
    (refused : ¬ xdk.SucceedsFor dev.calls (leaveCalls env dev vlanId intfId)) :
    vlanPortIsMember env dev vlanId intfId = true ∧
      ∃ errno calls, vlanMemberRemove env xdk dev vlanId intfId =
        (some errno, { dev with calls := calls }) := by
  have member : vlanPortIsMember env dev vlanId intfId = true := by
    by_contra notMember
    rw [leaveCalls, if_neg notMember] at refused
    exact refused Xdk.succeedsFor_zero
  have existing : vlanIsExisting env dev vlanId = true := by
    by_contra missing
    simp [vlanPortIsMember, vlanMemberLookup, missing] at member
  rw [leaveCalls, if_pos member, removeCalls] at refused
  obtain ⟨entry, lookup⟩ := Option.isSome_iff_exists.mp member
  refine ⟨member, .EPERM, ?_⟩
  unfold vlanMemberRemove
  rw [existing, lookup]
  cases tunnel : env.isTunnelIntf intfId with
  | true =>
      rw [tunnel, if_pos rfl, Xdk.succeedsFor_one, Bool.not_eq_true] at refused
      refine ⟨dev.calls + 1, ?_⟩
      simp only [if_true, Bool.not_true, Bool.false_eq_true, if_false]
      rw [call_of_fails refused]
      rfl
  | false =>
      rw [tunnel, if_neg Bool.false_ne_true] at refused
      simp only [Bool.not_true, Bool.false_eq_true, if_false]
      cases first : xdk.succeeds dev.calls with
      | false =>
          refine ⟨dev.calls + 1, ?_⟩
          rw [call_of_fails first]
          rfl
      | true =>
          have second : xdk.succeeds (dev.calls + 1) = false := by
            rw [← Bool.not_eq_true]
            intro succeeds
            apply refused
            rw [show 2 = 1 + 1 from rfl, Xdk.succeedsFor_add, Xdk.succeedsFor_one,
              Xdk.succeedsFor_one]
            exact ⟨first, succeeds⟩
          refine ⟨dev.calls + 2, ?_⟩
          rw [call_of_succeeds first]
          simp only [Bool.not_true, Bool.false_eq_true, if_false]
          rw [call_of_fails (by exact second)]
          rfl

end Vlans
end XpliantSwitchd
