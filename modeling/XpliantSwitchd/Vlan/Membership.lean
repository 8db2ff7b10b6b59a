import XpliantSwitchd.Vlan.Defs
import XpliantSwitchd.Lib.Roster

/-!
# The VLAN manager as a roster

While the XDK accepts every call, the table of the VLAN manager is a roster of
interfaces, labelled by their encapsulation: each operation of the manager is
the operation of the roster that its name says.
-/

namespace XpliantSwitchd
namespace Vlans

variable {env : Env} {xdk : Xdk} {dev : Dev} {vlanId intfId : Nat}
  {encapType : EncapType}

/-- The roster of VLANs. -/
abbrev VlanRoster := Roster Nat Nat EncapType

/-- The roster that a table stands for. -/
def roster (env : Env) (dev : Dev) : VlanRoster where
  exist := vlanIsExisting env dev
  label vlanId intfId := (vlanMemberLookup env dev vlanId intfId).map (·.encapType)
  closed := by
    intro vlanId missing intfId
    simp [vlanMemberLookup, missing]

/-- A well-formed table that stands for a roster: no interface is twice a
member of a VLAN, and a VLAN that does not exist has no members. -/
structure Represents (env : Env) (dev : Dev) (members : VlanRoster) : Prop where
  nodup : ∀ vlanId, ((dev.table vlanId).members.map (·.intfId)).Nodup
  dormant : ∀ vlanId, vlanIsExisting env dev vlanId = false →
    (dev.table vlanId).members = []
  same : roster env dev = members

/-- Every call of the XDK succeeds. -/
def Xdk.Accepts (xdk : Xdk) : Prop := ∀ call, xdk.succeeds call = true

theorem Xdk.Accepts.call
    (accepts : xdk.Accepts)
    (effect : Hw → Hw)
    (dev : Dev) :
    dev.call xdk effect =
      (true, { dev with hw := effect dev.hw, calls := dev.calls + 1 }) := by
  simp [Dev.call, accepts dev.calls]

@[simp] theorem call_table (dev : Dev) (xdk : Xdk) (effect : Hw → Hw) :
    (dev.call xdk effect).2.table = dev.table := by
  unfold Dev.call
  split <;> rfl

@[simp] theorem setVlan_table (dev : Dev) (vlanId : Nat) (vlan : Vlan) :
    (dev.setVlan vlanId vlan).table = Function.update dev.table vlanId vlan := rfl

theorem vlanIsExisting_setVlan (vlan : Vlan) (other : Nat) :
    vlanIsExisting env (dev.setVlan vlanId vlan) other =
      if other = vlanId then isVlanIdValid env vlanId && vlan.isExisting
      else vlanIsExisting env dev other := by
  unfold vlanIsExisting
  by_cases same : other = vlanId
  · subst same
    simp
  · simp [same]

namespace Represents

variable {members : VlanRoster}

/-- Only the table matters. -/
theorem of_table
    {other : Dev}
    (represents : Represents env dev members)
    (sameTable : other.table = dev.table) :
    Represents env other members := by
  have existing : vlanIsExisting env other = vlanIsExisting env dev := by
    funext vlanId
    simp [vlanIsExisting, sameTable]
  refine ⟨?_, ?_, ?_⟩
  · rw [sameTable]
    exact represents.nodup
  · rw [sameTable, existing]
    exact represents.dormant
  · rw [← represents.same]
    ext vlanId intfId : 3
    · exact congrFun existing vlanId
    · simp [roster, vlanMemberLookup, existing, sameTable]

/-- A call that touches the hardware only. -/
theorem onHw (represents : Represents env dev members) (hw : Hw) (calls : Nat) :
    Represents env { dev with hw := hw, calls := calls } members :=
  represents.of_table rfl

theorem exist_eq (represents : Represents env dev members) (vlanId : Nat) :
    vlanIsExisting env dev vlanId = members.exist vlanId := by
  rw [← represents.same]
  rfl

theorem label_eq (represents : Represents env dev members) (vlanId intfId : Nat) :
    (vlanMemberLookup env dev vlanId intfId).map (·.encapType) =
      members.label vlanId intfId := by
  rw [← represents.same]
  rfl

theorem lookup_eq_none
    (represents : Represents env dev members)
    (vlanId intfId : Nat) :
    vlanMemberLookup env dev vlanId intfId = none ↔
      members.label vlanId intfId = none := by
  rw [← represents.label_eq, Option.map_eq_none_iff]

/-- A VLAN in which no interface has a label has no members. -/
theorem isMembershipEmpty
    (represents : Represents env dev members)
    {vlanId : Nat}
    (unlabelled : ∀ intfId, members.label vlanId intfId = none) :
    vlanIsMembershipEmpty env dev vlanId = true := by
  unfold vlanIsMembershipEmpty
  split
  · rename_i existing
    rw [List.isEmpty_iff, List.eq_nil_iff_forall_not_mem]
    intro member listed
    have absent := (represents.lookup_eq_none vlanId member.intfId).mpr
      (unlabelled member.intfId)
    rw [vlanMemberLookup, if_pos existing, List.find?_eq_none] at absent
    exact absent member listed (by simp)
  · rfl

theorem isMember_eq
    (represents : Represents env dev members)
    (vlanId intfId : Nat) :
    vlanPortIsMember env dev vlanId intfId = (members.label vlanId intfId).isSome := by
  rw [← represents.label_eq, Option.isSome_map]
  rfl

/-- Replacing the entry of one VLAN. -/
theorem setVlan
    {vlan : Vlan}
    {after : VlanRoster}
    (represents : Represents env dev members)
    (nodup : (vlan.members.map (·.intfId)).Nodup)
    (existing : (isVlanIdValid env vlanId && vlan.isExisting) = after.exist vlanId)
    (dormant : after.exist vlanId = false → vlan.members = [])
    (labels : after.exist vlanId = true → ∀ intfId,
      (vlan.members.find? (·.intfId == intfId)).map (·.encapType) =
        after.label vlanId intfId)
    (elsewhere : ∀ other ≠ vlanId, after.exist other = members.exist other ∧
      after.label other = members.label other) :
    Represents env (dev.setVlan vlanId vlan) after := by
  have exists' : ∀ other, vlanIsExisting env (dev.setVlan vlanId vlan) other =
      after.exist other := by
    intro other
    rw [vlanIsExisting_setVlan]
    by_cases same : other = vlanId
    · rw [if_pos same, existing, same]
    · rw [if_neg same, represents.exist_eq, (elsewhere other same).1]
  refine ⟨?_, ?_, ?_⟩
  · intro other
    by_cases same : other = vlanId
    · subst same
      simpa using nodup
    · simpa [same] using represents.nodup other
  · intro other missing
    rw [exists'] at missing
    by_cases same : other = vlanId
    · subst same
      simpa using dormant missing
    · rw [(elsewhere other same).1, ← represents.exist_eq] at missing
      simpa [same] using represents.dormant other missing
  · ext other peer : 3
    · exact exists' other
    · simp only [roster, vlanMemberLookup, exists']
      cases present : after.exist other with
      | false => simp [after.closed other present]
      | true =>
          by_cases same : other = vlanId
          · subst same
            simpa using labels present peer
          · have before := represents.label_eq other peer
            rw [vlanMemberLookup, represents.exist_eq, ← (elsewhere other same).1,
              present] at before
            rw [(elsewhere other same).2, ← before]
            simp [same]

/-! ## The operations -/

/-- `ops_xp_vlan_member_add` is a join. -/
theorem memberAdd
    (represents : Represents env dev members)
    (accepts : xdk.Accepts)
    (vlanId intfId : Nat)
    (encapType : EncapType) :
    Represents env (vlanMemberAdd env xdk dev vlanId intfId encapType).2
        (members.join vlanId intfId encapType) ∧
      (vlanMemberAdd env xdk dev vlanId intfId encapType).1 =
        if members.exist vlanId then none else some Errno.ENXIO := by
  unfold vlanMemberAdd
  rw [represents.exist_eq, represents.isMember_eq]
  cases present : members.exist vlanId with
  | false =>
      rw [Roster.join_of_settled (.inl present)]
      exact ⟨represents, rfl⟩
  | true =>
      cases known : members.label vlanId intfId with
      | some old =>
          have settled : members.label vlanId intfId ≠ none := by simp [known]
          rw [Roster.join_of_settled (.inr settled)]
          exact ⟨represents, rfl⟩
      | none =>
          have lookup := (represents.lookup_eq_none vlanId intfId).mpr known
          rw [vlanMemberLookup, represents.exist_eq, present, if_pos rfl] at lookup
          simp only [Bool.not_true, Bool.false_eq_true, if_false, Option.isSome_none,
            accepts.call, if_true, and_true]
          refine (represents.onHw _ _).setVlan ?_ ?_ ?_ ?_ ?_
          · refine List.nodup_cons.mpr ⟨?_, represents.nodup vlanId⟩
            intro member
            obtain ⟨entry, entryMember, same⟩ := List.mem_map.mp member
            have absent := List.find?_eq_none.mp lookup entry entryMember
            exact absent (by simpa using same)
          · simpa [vlanIsExisting] using represents.exist_eq vlanId
          · intro missing
            rw [Roster.join_exist, present] at missing
            contradiction
          · intro _ peer
            by_cases same : peer = intfId
            · subst same
              rw [Roster.join_label_self present, known]
              simp
            · have before := represents.label_eq vlanId peer
              rw [vlanMemberLookup, represents.exist_eq, present, if_pos rfl]
                at before
              rw [Roster.join_label_of_ne (.inr same), ← before, List.find?_cons]
              have different : (intfId == peer) = false := by
                simpa using fun equal => same equal.symm
              rw [different]
          · intro other different
            refine ⟨rfl, ?_⟩
            funext peer
            exact Roster.join_label_of_ne (.inl different)

/-- `ops_xp_vlan_member_remove` is a leave. -/
theorem memberRemove
    (represents : Represents env dev members)
    (accepts : xdk.Accepts)
    (vlanId intfId : Nat) :
    Represents env (vlanMemberRemove env xdk dev vlanId intfId).2
        (members.leave vlanId intfId) ∧
      (vlanMemberRemove env xdk dev vlanId intfId).1 =
        if members.exist vlanId then none else some Errno.ENXIO := by
  unfold vlanMemberRemove
  rw [represents.exist_eq]
  cases present : members.exist vlanId with
  | false =>
      rw [Roster.leave_of_absent (members.closed vlanId present intfId)]
      exact ⟨represents, rfl⟩
  | true =>
      cases lookup : vlanMemberLookup env dev vlanId intfId with
      | none =>
          have absent := (represents.lookup_eq_none vlanId intfId).mp lookup
          rw [Roster.leave_of_absent absent]
          exact ⟨represents, rfl⟩
      | some entry =>
          rw [vlanMemberLookup, represents.exist_eq, present, if_pos rfl] at lookup
          have split := KeyedList.perm_cons_eraseP lookup
          have selected : entry.intfId = intfId := by
            simpa using List.find?_some lookup
          have nodup := ((split.map (·.intfId)).nodup_iff.mp
            (represents.nodup vlanId))
          rw [List.map_cons, selected, List.nodup_cons] at nodup
          have removed : ∀ (hw : Hw) (calls : Nat), Represents env
              (({ dev with hw := hw, calls := calls } : Dev).setVlan vlanId
                { isExisting := (dev.table vlanId).isExisting
                  members :=
                    (dev.table vlanId).members.eraseP (·.intfId == intfId) })
              (members.leave vlanId intfId) := by
            intro hw calls
            refine (represents.onHw hw calls).setVlan nodup.2 ?_ ?_ ?_ ?_
            · simpa [vlanIsExisting] using represents.exist_eq vlanId
            · intro missing
              rw [Roster.leave_exist, present] at missing
              contradiction
            · intro _ peer
              by_cases same : peer = intfId
              · subst same
                rw [Roster.leave_label_self, Option.map_eq_none_iff,
                  List.find?_eq_none]
                intro other member passes
                have equal : other.intfId = peer := by simpa using passes
                exact nodup.1 (List.mem_map.mpr ⟨other, member, equal⟩)
              · have before := represents.label_eq vlanId peer
                rw [vlanMemberLookup, represents.exist_eq, present, if_pos rfl]
                  at before
                rw [Roster.leave_label_of_ne (.inr same), ← before,
                  KeyedList.find?_eraseP_of_ne]
                intro other passes
                have equal : other.intfId = peer := by simpa using passes
                simpa [equal] using same
            · intro other different
              refine ⟨rfl, ?_⟩
              funext peer
              exact Roster.leave_label_of_ne (.inl different)
          simp only [Bool.not_true, Bool.false_eq_true, if_false, accepts.call]
          cases env.isTunnelIntf intfId with
          | true => exact ⟨removed _ _, rfl⟩
          | false => exact ⟨removed _ _, rfl⟩

/-- Setting the tagging of a member keeps it a member and changes no other. -/
theorem memberSetTagging
    (represents : Represents env dev members)
    (accepts : xdk.Accepts)
    (vlanId intfId : Nat)
    (tagging : Bool) :
    ∃ after : VlanRoster,
      Represents env (vlanMemberSetTagging env xdk dev vlanId intfId tagging).2 after ∧
      after.exist = members.exist ∧
      (∀ other peer, other ≠ vlanId ∨ peer ≠ intfId →
        after.label other peer = members.label other peer) ∧
      (after.label vlanId intfId = none ↔ members.label vlanId intfId = none) := by
  have unchanged : ∃ after : VlanRoster, Represents env dev after ∧
      after.exist = members.exist ∧
      (∀ other peer, other ≠ vlanId ∨ peer ≠ intfId →
        after.label other peer = members.label other peer) ∧
      (after.label vlanId intfId = none ↔ members.label vlanId intfId = none) :=
    ⟨members, represents, rfl, fun _ _ _ => rfl, Iff.rfl⟩
  unfold vlanMemberSetTagging
  rw [represents.exist_eq]
  cases present : members.exist vlanId with
  | false => exact unchanged
  | true =>
      simp only [Bool.not_true, Bool.false_eq_true, if_false]
      split
      · exact unchanged
      split
      · exact unchanged
      split
      · exact unchanged
      rename_i untouched
      have known : members.label vlanId intfId ≠ none := by
        intro absent
        have lookup := (represents.lookup_eq_none vlanId intfId).mpr absent
        simp [vlanPortIsTaggedMember, vlanPortIsUntaggedMember, lookup] at untouched
      obtain ⟨left, code⟩ := represents.memberRemove accepts vlanId intfId
      generalize vlanMemberRemove env xdk dev vlanId intfId = result at left code ⊢
      obtain ⟨errno, between⟩ := result
      simp only [present, if_true] at code left
      subst code
      obtain ⟨joined, _⟩ := left.memberAdd accepts vlanId intfId
        (env.encapOfBool tagging)
      refine ⟨_, joined, rfl, ?_, ?_⟩
      · intro other peer different
        rw [Roster.join_label_of_ne different, Roster.leave_label_of_ne different]
      · rw [Roster.join_label_self (by simpa using present)]
        simp [known]

/-- The loop over VLAN ids leaves the groups it visits. -/
theorem clearMembership
    (represents : Represents env dev members)
    (accepts : xdk.Accepts)
    (intfId : Nat)
    (ids : List Nat) :
    ∃ after : VlanRoster,
      Represents env (Vlans.clearMembership env xdk intfId ids dev).2 after ∧
      after.exist = members.exist ∧
      ∀ other peer, after.label other peer =
        if peer = intfId ∧ other ∈ ids then none else members.label other peer := by
  induction ids generalizing dev members with
  | nil => exact ⟨members, represents, rfl, by simp⟩
  | cons vlanId ids inductionHypothesis =>
      unfold Vlans.clearMembership
      rw [represents.exist_eq]
      cases present : members.exist vlanId with
      | false =>
          obtain ⟨after, holds, existing, labels⟩ := inductionHypothesis represents
          refine ⟨after, holds, existing, ?_⟩
          intro other peer
          rw [labels]
          by_cases same : other = vlanId
          · subst same
            simp [members.closed other present]
          · simp [same]
      | true =>
          obtain ⟨left, code⟩ := represents.memberRemove accepts vlanId intfId
          simp only [Bool.not_true, Bool.false_eq_true, if_false]
          generalize vlanMemberRemove env xdk dev vlanId intfId = result
            at left code ⊢
          obtain ⟨errno, between⟩ := result
          simp only [present, if_true] at code left
          subst code
          obtain ⟨after, holds, existing, labels⟩ := inductionHypothesis left
          refine ⟨after, holds, existing, ?_⟩
          intro other peer
          rw [labels]
          by_cases visited : peer = intfId ∧ other ∈ ids
          · simp [visited]
          · rw [if_neg visited]
            by_cases first : peer = intfId ∧ other = vlanId
            · simp [first]
            · have different : other ≠ vlanId ∨ peer ≠ intfId := by
                by_contra both
                simp only [not_or, not_not] at both
                exact first ⟨both.2, both.1⟩
              rw [Roster.leave_label_of_ne different, if_neg]
              rintro ⟨samePeer, later⟩
              rcases List.mem_cons.mp later with sameId | inRest
              · exact first ⟨samePeer, sameId⟩
              · exact visited ⟨samePeer, inRest⟩

/-- `ops_xp_vlan_port_clear_all_membership` leaves every group. -/
theorem portClearAllMembership
    (represents : Represents env dev members)
    (accepts : xdk.Accepts)
    (intfId : Nat) :
    Represents env (vlanPortClearAllMembership env xdk dev intfId).2
      (members.leaveAll intfId) := by
  obtain ⟨after, holds, existing, labels⟩ :=
    represents.clearMembership accepts intfId (vlanIds env)
  have equal : after = members.leaveAll intfId := by
    ext other peer : 3
    · exact congrFun existing other
    · rw [labels]
      simp only [Roster.leaveAll]
      by_cases same : peer = intfId
      · rw [if_pos same]
        by_cases valid : other ∈ vlanIds env
        · simp [same, valid]
        · have missing : members.exist other = false := by
            rw [← represents.exist_eq]
            have invalid : isVlanIdValid env other = false := by
              by_contra isValid
              simp only [Bool.not_eq_false, isVlanIdValid, Bool.and_eq_true,
                decide_eq_true_eq] at isValid
              apply valid
              simp only [vlanIds, List.mem_range'_1]
              omega
            simp [vlanIsExisting, invalid]
          simp [valid, members.closed other missing]
      · simp [same]
  rw [← equal]
  exact holds

/-- `ops_xp_vlan_create` founds a group. -/
theorem create
    (represents : Represents env dev members)
    (accepts : xdk.Accepts)
    (vlanId : Nat) :
    (∃ errno, vlanCreate env xdk dev vlanId = (some errno, dev)) ∨
      (members.exist vlanId = false ∧ isVlanIdValid env vlanId = true ∧
        (vlanCreate env xdk dev vlanId).1 = none ∧
        Represents env (vlanCreate env xdk dev vlanId).2 (members.found vlanId)) := by
  unfold vlanCreate
  cases valid : isVlanIdValid env vlanId with
  | false => exact .inl ⟨_, rfl⟩
  | true =>
      cases existing : (dev.table vlanId).isExisting with
      | true => exact .inl ⟨_, rfl⟩
      | false =>
          have missing : vlanIsExisting env dev vlanId = false := by
            simp [vlanIsExisting, existing]
          right
          simp only [Bool.not_true, Bool.false_eq_true, if_false, accepts.call]
          refine ⟨by rw [← represents.exist_eq, missing], trivial, trivial, ?_⟩
          have empty := represents.dormant vlanId missing
          refine (represents.onHw _ _).setVlan ?_ ?_ ?_ ?_ ?_
          · exact represents.nodup vlanId
          · simp [valid, Roster.found]
          · intro _
            exact empty
          · intro _ peer
            rw [represents.exist_eq] at missing
            simp [empty, Roster.found, members.closed vlanId missing]
          · intro other different
            exact ⟨if_neg different, rfl⟩

/-- `ops_xp_vlan_remove` dissolves a group. -/
theorem remove
    (represents : Represents env dev members)
    (accepts : xdk.Accepts)
    (vlanId : Nat) :
    (vlanRemove env xdk dev vlanId).1 = none ∧
      Represents env (vlanRemove env xdk dev vlanId).2 (members.dissolve vlanId) := by
  unfold vlanRemove
  cases existing : vlanIsExisting env dev vlanId with
  | false =>
      have unchanged : members.dissolve vlanId = members := by
        have missing := existing
        rw [represents.exist_eq] at missing
        ext other peer : 3
        · simp only [Roster.dissolve]
          split
          · rename_i same
            rw [same, missing]
          · rfl
        · simp only [Roster.dissolve]
          split
          · rename_i same
            rw [same, members.closed vlanId missing]
          · rfl
      rw [unchanged]
      exact ⟨rfl, represents⟩
  | true =>
      simp only [Bool.not_true, Bool.false_eq_true, if_false, accepts.call, if_true,
        true_and]
      have dissolved : Represents env
          (dev.setVlan vlanId { isExisting := false, members := [] })
          (members.dissolve vlanId) := by
        refine represents.setVlan List.nodup_nil ?_ (fun _ => rfl) ?_ ?_
        · simp [Roster.dissolve]
        · intro present
          simp [Roster.dissolve] at present
        · intro other different
          refine ⟨if_neg different, ?_⟩
          funext peer
          exact if_neg different
      exact dissolved.onHw _ _

end Represents

end Vlans
end XpliantSwitchd
