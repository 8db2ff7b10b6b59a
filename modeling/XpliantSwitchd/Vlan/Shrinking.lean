import XpliantSwitchd.Lib.Draining
import XpliantSwitchd.Vlan.Interrupted
import Mathlib.Data.List.Perm.Subperm

/-!
# Members tables and their buckets

The members of a VLAN are the nodes of a hash table, the id of the interface being the
hash.  This module carries the buckets of the members tables along with the device.
`ops_xp_vlan_members_remove_all` iterates over a table that every removal may shrink.
-/

namespace XpliantSwitchd
namespace Vlans

/-- A device with the members tables of its VLANs.  The lists of members in `dev` say
what the tables contain, in any order. -/
structure Mgr where
  dev : Dev
  membersTable : Nat → Hmap Member

/-- Write a members table. -/
def Mgr.setTable (mgr : Mgr) (dev : Dev) (vlanId : Nat) (table : Hmap Member) : Mgr :=
  ⟨dev, Function.update mgr.membersTable vlanId table⟩

/-- `ops_xp_vlan_create`, which leaves the members tables alone. -/
def mgrVlanCreate (env : Env) (xdk : Xdk) (mgr : Mgr) (vlanId : Nat) :
    Option Errno × Mgr :=
  let (rc, dev) := vlanCreate env xdk mgr.dev vlanId
  (rc, { mgr with dev := dev })

/-- `ops_xp_vlan_remove`: the nodes are removed in turn, and the table is shrunk once
at the end. -/
def mgrVlanRemove (env : Env) (xdk : Xdk) (mgr : Mgr) (vlanId : Nat) :
    Option Errno × Mgr :=
  let (rc, dev) := vlanRemove env xdk mgr.dev vlanId
  if vlanIsExisting env mgr.dev vlanId then
    let table := mgr.membersTable vlanId
    (rc, mgr.setTable dev vlanId
      ((table.nodes.foldl (Hmap.remove (·.intfId)) table).shrink (·.intfId)))
  else (rc, { mgr with dev := dev })

/-- `ops_xp_vlan_member_add` with `hmap_insert`. -/
def mgrMemberAdd (env : Env) (xdk : Xdk) (mgr : Mgr) (vlanId intfId : Nat)
    (encapType : EncapType) : Option Errno × Mgr :=
  match vlanMemberAdd env xdk mgr.dev vlanId intfId encapType with
  | (some errno, dev) => (some errno, { mgr with dev := dev })
  | (none, dev) =>
      if vlanPortIsMember env mgr.dev vlanId intfId then (none, { mgr with dev := dev })
      else
        (none, mgr.setTable dev vlanId
          ((mgr.membersTable vlanId).insert (·.intfId) ⟨intfId, encapType⟩))

/-- `ops_xp_vlan_member_remove` with `hmap_remove` and `hmap_shrink`. -/
def mgrMemberRemove (env : Env) (xdk : Xdk) (mgr : Mgr) (vlanId intfId : Nat) :
    Option Errno × Mgr :=
  match vlanMemberRemove env xdk mgr.dev vlanId intfId with
  | (some errno, dev) => (some errno, { mgr with dev := dev })
  | (none, dev) =>
      match vlanMemberLookup env mgr.dev vlanId intfId with
      | none => (none, { mgr with dev := dev })
      | some e =>
          (none, mgr.setTable dev vlanId
            (((mgr.membersTable vlanId).remove (·.intfId) e).shrink (·.intfId)))

/-- The loop of `ops_xp_vlan_members_remove_all`, `HMAP_FOR_EACH_SAFE` from a node on.
There is no result when the fuel does not suffice. -/
def removeAllFrom (env : Env) (xdk : Xdk) (vlanId : Nat) :
    Nat → Option Member → Mgr → Option (Option Errno × Mgr)
  | _, none, mgr => some (none, mgr)
  | 0, some _, _ => none
  | fuel + 1, some e, mgr =>
      let next := (mgr.membersTable vlanId).next (·.intfId) e
      match mgrMemberRemove env xdk mgr vlanId e.intfId with
      | (some errno, mgr) => some (some errno, mgr)
      | (none, mgr) => removeAllFrom env xdk vlanId fuel next mgr

/-- `ops_xp_vlan_members_remove_all`. -/
def mgrMembersRemoveAll (env : Env) (xdk : Xdk) (mgr : Mgr) (vlanId : Nat) :
    Option (Option Errno × Mgr) :=
  if !vlanIsExisting env mgr.dev vlanId then some (some Errno.ENXIO, mgr)
  else
    let table := mgr.membersTable vlanId
    removeAllFrom env xdk vlanId table.nodes.length table.first mgr

/-! ## What the tables contain -/

/-- A members table and the members it stands for: each once, their ids being of 32
bits. -/
structure Holds (table : Hmap Member) (members : List Member) : Prop where
  sound : Hmap.Sound Member.intfId table
  listed : table.nodes.Perm members
  once : (members.map Member.intfId).Nodup
  narrow : ∀ member ∈ members, member.intfId < 2 ^ 32

/-- Every members table contains the members of its VLAN. -/
def Tabled (mgr : Mgr) : Prop :=
  ∀ vlanId, Holds (mgr.membersTable vlanId) (mgr.dev.table vlanId).members

namespace Holds

variable {table : Hmap Member} {members : List Member} {member : Member}

theorem init : Holds Hmap.init [] where
  sound := Hmap.sound_init Member.intfId
  listed := List.Perm.refl _
  once := List.nodup_nil
  narrow _ listed := absurd listed List.not_mem_nil

/-- Ids of 32 bits do not fill the memory. -/
theorem length_le (holds : Holds table members) : table.nodes.length ≤ 2 ^ 32 := by
  have within : (members.map Member.intfId) ⊆ List.range (2 ^ 32) := by
    intro intfId listed
    obtain ⟨member, isMember, rfl⟩ := List.mem_map.mp listed
    exact List.mem_range.mpr (holds.narrow member isMember)
  have fits := (List.Nodup.subperm holds.once within).length_le
  rw [List.length_map, List.length_range, ← holds.listed.length_eq] at fits
  exact fits

theorem insert
    (holds : Holds table members)
    (absent : ∀ other ∈ members, other.intfId ≠ member.intfId)
    (narrow : member.intfId < 2 ^ 32) :
    Holds (table.insert Member.intfId member) (member :: members) where
  sound := by
    have room := holds.length_le
    apply holds.sound.insert _ (by omega)
    intro listed
    exact absent member (holds.listed.mem_iff.mp listed) rfl
  listed := (Hmap.insert_perm Member.intfId table member).trans (holds.listed.cons member)
  once := by
    rw [List.map_cons, List.nodup_cons]
    refine ⟨?_, holds.once⟩
    intro listed
    obtain ⟨other, isMember, same⟩ := List.mem_map.mp listed
    exact absent other isMember same
  narrow other listed := by
    cases listed with
    | head => exact narrow
    | tail _ listed => exact holds.narrow other listed

/-- A member is known by its id. -/
theorem eq_of_intfId
    (holds : Holds table members)
    (isMember : member ∈ members)
    {other : Member}
    (otherMember : other ∈ members)
    (same : other.intfId = member.intfId) :
    other = member :=
  List.inj_on_of_nodup_map holds.once otherMember isMember same

theorem find_eq (holds : Holds table members) (isMember : member ∈ members) :
    members.find? (·.intfId == member.intfId) = some member := by
  cases found : members.find? (·.intfId == member.intfId) with
  | none =>
      have none := List.find?_eq_none.mp found member isMember
      exact absurd (beq_self_eq_true member.intfId) none
  | some other =>
      have same : other.intfId = member.intfId := by
        simpa using List.find?_some found
      rw [holds.eq_of_intfId isMember (List.mem_of_find?_eq_some found) same]

theorem remove
    (holds : Holds table members)
    (isMember : member ∈ members) :
    Holds ((table.remove Member.intfId member).shrink Member.intfId)
      (members.eraseP (·.intfId == member.intfId)) := by
  obtain ⟨passed, ahead, order⟩ := List.append_of_mem (holds.listed.mem_iff.mpr isMember)
  have others : ∀ other ∈ passed, ¬(other.intfId == member.intfId) = true := by
    intro other listed same
    have isOther : other ∈ table.nodes := by
      rw [order]
      exact List.mem_append_left _ listed
    have equal := holds.eq_of_intfId isMember (holds.listed.mem_iff.mp isOther)
      (beq_iff_eq.mp same)
    have nodup := holds.sound.nodup
    rw [order, List.nodup_middle] at nodup
    exact (List.nodup_cons.mp nodup).1 (List.mem_append_left _ (equal ▸ listed))
  have erased : table.nodes.eraseP (·.intfId == member.intfId) = passed ++ ahead := by
    rw [order, List.eraseP_append_right _ others, List.eraseP_cons_of_pos (by simp)]
  refine ⟨(holds.sound.round order).2.1, ?_, ?_, ?_⟩
  · refine (holds.sound.round_perm order).trans ?_
    rw [← erased]
    apply holds.listed.eraseP
    have once := (holds.listed.map Member.intfId).nodup_iff.mpr holds.once
    refine (List.pairwise_map.mp once).imp ?_
    intro left right different leftSame rightSame
    rw [beq_iff_eq] at leftSame rightSame
    exact different (leftSame.trans rightSame.symm)
  · exact holds.once.sublist (List.eraseP_sublist.map _)
  · intro other listed
    exact holds.narrow other (List.mem_of_mem_eraseP listed)

/-- Removing the nodes in turn empties a table. -/
theorem removeEach (holds : Holds table members) :
    Holds ((table.nodes.foldl (Hmap.remove Member.intfId) table).shrink Member.intfId)
      [] := by
  obtain ⟨placed, none⟩ := holds.sound.placed.foldl_remove holds.sound.nodup
  refine ⟨Hmap.sound_shrink placed ?_ ?_ ?_, ?_, List.nodup_nil, ?_⟩
  · rw [none]
    exact List.nodup_nil
  · rw [none, Hmap.calcMask_of_lt_two (by decide)]
    exact Nat.zero_le _
  · rw [none]
    decide
  · rw [← none]
    exact Hmap.nodes_shrink_perm _ _
  · intro member listed
    exact absurd listed List.not_mem_nil

end Holds

/-! ## What the operations do to the lists of members -/

section Lists

variable {env : Env} {xdk : Xdk} {dev : Dev} {vlanId intfId : Nat}

theorem mem_of_lookup {member : Member}
    (found : vlanMemberLookup env dev vlanId intfId = some member) :
    member ∈ (dev.table vlanId).members ∧ member.intfId = intfId := by
  unfold vlanMemberLookup at found
  split at found
  · exact ⟨List.mem_of_find?_eq_some found, by simpa using List.find?_some found⟩
  · cases found

theorem vlanMemberAdd_cases
    (env : Env)
    (xdk : Xdk)
    (dev : Dev)
    (vlanId intfId : Nat)
    (encapType : EncapType) :
    (∃ errno after, vlanMemberAdd env xdk dev vlanId intfId encapType = (some errno, after) ∧
      after.table = dev.table) ∨
    (vlanPortIsMember env dev vlanId intfId = true ∧
      vlanMemberAdd env xdk dev vlanId intfId encapType = (none, dev)) ∨
    (vlanPortIsMember env dev vlanId intfId = false ∧
      vlanIsExisting env dev vlanId = true ∧
      ∃ after, vlanMemberAdd env xdk dev vlanId intfId encapType = (none, after) ∧
        after.table = Function.update dev.table vlanId
          { dev.table vlanId with
            members := ⟨intfId, encapType⟩ :: (dev.table vlanId).members }) := by
  unfold vlanMemberAdd
  cases existing : vlanIsExisting env dev vlanId with
  | false => exact Or.inl ⟨_, dev, rfl, rfl⟩
  | true =>
      cases isMember : vlanPortIsMember env dev vlanId intfId with
      | true => exact Or.inr (Or.inl ⟨rfl, rfl⟩)
      | false =>
          simp only [Bool.not_true, Bool.false_eq_true, if_false]
          cases added : xdk.succeeds dev.calls with
          | false =>
              rw [call_of_fails added]
              exact Or.inl ⟨.EPERM, _, rfl, rfl⟩
          | true =>
              rw [call_of_succeeds added]
              exact Or.inr (Or.inr ⟨trivial, trivial, _, rfl, rfl⟩)

theorem vlanMemberRemove_cases
    (env : Env)
    (xdk : Xdk)
    (dev : Dev)
    (vlanId intfId : Nat) :
    (∃ errno after, vlanMemberRemove env xdk dev vlanId intfId = (some errno, after) ∧
      after.table = dev.table) ∨
    (vlanMemberLookup env dev vlanId intfId = none ∧
      vlanMemberRemove env xdk dev vlanId intfId = (none, dev)) ∨
    (∃ member after, vlanMemberLookup env dev vlanId intfId = some member ∧
      vlanMemberRemove env xdk dev vlanId intfId = (none, after) ∧
      after.table = Function.update dev.table vlanId
        { dev.table vlanId with
          members := (dev.table vlanId).members.eraseP (·.intfId == intfId) }) := by
  unfold vlanMemberRemove
  cases existing : vlanIsExisting env dev vlanId with
  | false => exact Or.inl ⟨_, dev, rfl, rfl⟩
  | true =>
      cases lookup : vlanMemberLookup env dev vlanId intfId with
      | none => exact Or.inr (Or.inl ⟨rfl, rfl⟩)
      | some member =>
          have sameTable : (if env.isTunnelIntf intfId then (true, dev)
              else dev.call xdk id).2.table = dev.table := by
            split
            · rfl
            · exact call_table dev xdk id
          simp only [Bool.not_true, Bool.false_eq_true, if_false]
          generalize (if env.isTunnelIntf intfId then (true, dev) else dev.call xdk id) =
            result at sameTable ⊢
          obtain ⟨answer, between⟩ := result
          cases answer with
          | false => exact Or.inl ⟨.EPERM, between, rfl, sameTable⟩
          | true =>
              simp only [Bool.not_true, Bool.false_eq_true, if_false]
              cases removed : xdk.succeeds between.calls with
              | false =>
                  rw [call_of_fails removed]
                  exact Or.inl ⟨.EPERM, _, rfl, sameTable⟩
              | true =>
                  rw [call_of_succeeds removed]
                  refine Or.inr (Or.inr ⟨member, _, rfl, rfl, ?_⟩)
                  simp only [setVlan_table] at sameTable ⊢
                  rw [sameTable]

theorem vlanMemberRemove_isExisting
    (env : Env)
    (xdk : Xdk)
    (dev : Dev)
    (vlanId intfId : Nat) :
    vlanIsExisting env (vlanMemberRemove env xdk dev vlanId intfId).2 vlanId =
      vlanIsExisting env dev vlanId := by
  cases vlanMemberRemove_cases env xdk dev vlanId intfId with
  | inl failed =>
      obtain ⟨errno, after, result, same⟩ := failed
      rw [result]
      exact vlanIsExisting_congr (congrFun same vlanId)
  | inr done =>
      cases done with
      | inl absent => rw [absent.2]
      | inr removed =>
          obtain ⟨member, after, found, result, written⟩ := removed
          rw [result, vlanIsExisting, vlanIsExisting, written, Function.update_self]

theorem vlanRemove_table
    (env : Env)
    (xdk : Xdk)
    (dev : Dev)
    (vlanId : Nat) :
    (vlanRemove env xdk dev vlanId).2.table =
      if vlanIsExisting env dev vlanId then
        Function.update dev.table vlanId { isExisting := false, members := [] }
      else dev.table := by
  unfold vlanRemove
  cases vlanIsExisting env dev vlanId with
  | false => rfl
  | true =>
      have table := call_table (dev.setVlan vlanId { isExisting := false, members := [] }) xdk
        fun hw => { hw with vlans := Function.update hw.vlans vlanId none }
      simp only [Bool.not_true, Bool.false_eq_true, if_false, if_true]
      split
      · exact table
      · exact table

theorem vlanCreate_members (other : Nat) :
    ((vlanCreate env xdk dev vlanId).2.table other).members = (dev.table other).members := by
  have flagged : (Function.update dev.table vlanId
      { dev.table vlanId with isExisting := true } other).members =
        (dev.table other).members := by
    by_cases same : other = vlanId
    · rw [same, Function.update_self]
    · rw [Function.update_of_ne same]
  unfold vlanCreate
  simp only
  split
  · rfl
  split
  · rfl
  split
  · rw [call_table]
  split
  · rw [call_table, call_table]
  split
  · simp only [call_table]
  · simp only [setVlan_table, call_table]
    exact flagged

end Lists

/-! ## The tables follow the lists -/

namespace Tabled

variable {env : Env} {xdk : Xdk} {mgr : Mgr} {vlanId intfId : Nat}

/-- One table is written with its list. -/
theorem setTable
    (tabled : Tabled mgr)
    {dev : Dev}
    {vlan : Vlan}
    {table : Hmap Member}
    (written : dev.table = Function.update mgr.dev.table vlanId vlan)
    (holds : Holds table vlan.members) :
    Tabled (mgr.setTable dev vlanId table) := by
  intro other
  show Holds (Function.update mgr.membersTable vlanId table other) (dev.table other).members
  rw [written]
  by_cases same : other = vlanId
  · subst same
    rw [Function.update_self, Function.update_self]
    exact holds
  · rw [Function.update_of_ne same, Function.update_of_ne same]
    exact tabled other

/-- No table is written, and no list. -/
theorem of_members
    (tabled : Tabled mgr)
    {dev : Dev}
    (same : ∀ vlanId, (dev.table vlanId).members = (mgr.dev.table vlanId).members) :
    Tabled { mgr with dev := dev } := by
  intro other
  rw [same other]
  exact tabled other

theorem vlanCreate (tabled : Tabled mgr) :
    Tabled (mgrVlanCreate env xdk mgr vlanId).2 :=
  tabled.of_members fun other => vlanCreate_members other

theorem vlanRemove (tabled : Tabled mgr) :
    Tabled (mgrVlanRemove env xdk mgr vlanId).2 := by
  have table := vlanRemove_table env xdk mgr.dev vlanId
  unfold mgrVlanRemove
  cases existing : vlanIsExisting env mgr.dev vlanId with
  | true =>
      rw [existing, if_pos rfl] at table
      exact tabled.setTable table (tabled vlanId).removeEach
  | false =>
      rw [existing, if_neg Bool.false_ne_true] at table
      exact tabled.of_members fun other => congrArg (fun table => (table other).members) table

theorem memberAdd
    (tabled : Tabled mgr)
    (narrow : intfId < 2 ^ 32)
    (encapType : EncapType) :
    Tabled (mgrMemberAdd env xdk mgr vlanId intfId encapType).2 := by
  unfold mgrMemberAdd
  cases vlanMemberAdd_cases env xdk mgr.dev vlanId intfId encapType with
  | inl failed =>
      obtain ⟨errno, after, result, same⟩ := failed
      rw [result]
      exact tabled.of_members fun other => congrArg (fun table => (table other).members) same
  | inr done =>
      cases done with
      | inl already =>
          rw [already.2]
          simp only [already.1, if_true]
          exact tabled.of_members fun _ => rfl
      | inr added =>
          obtain ⟨absent, existing, after, result, written⟩ := added
          rw [result]
          simp only [absent, Bool.false_eq_true, if_false]
          refine tabled.setTable written ((tabled vlanId).insert ?_ narrow)
          intro other listed same
          rw [vlanPortIsMember, vlanMemberLookup, if_pos existing] at absent
          have found := (tabled vlanId).find_eq listed
          rw [same] at found
          rw [found] at absent
          cases absent

theorem memberRemove (tabled : Tabled mgr) :
    Tabled (mgrMemberRemove env xdk mgr vlanId intfId).2 := by
  unfold mgrMemberRemove
  cases vlanMemberRemove_cases env xdk mgr.dev vlanId intfId with
  | inl failed =>
      obtain ⟨errno, after, result, same⟩ := failed
      rw [result]
      exact tabled.of_members fun other => congrArg (fun table => (table other).members) same
  | inr done =>
      cases done with
      | inl absent =>
          rw [absent.2]
          simp only [absent.1]
          exact tabled.of_members fun _ => rfl
      | inr removed =>
          obtain ⟨member, after, found, result, written⟩ := removed
          obtain ⟨isMember, sameIntf⟩ := mem_of_lookup found
          rw [result]
          simp only [found]
          subst sameIntf
          exact tabled.setTable written ((tabled vlanId).remove isMember)

end Tabled

/-! ## Runs -/

/-- The operations that write the members tables.  An interface id has 32 bits. -/
inductive MemberEvent
  | create (vlanId : Nat)
  | remove (vlanId : Nat)
  | memberAdd (vlanId : Nat) (intfId : BitVec 32) (encapType : EncapType)
  | memberRemove (vlanId intfId : Nat)

/-- The tables after an operation, with the answers of the XDK. -/
def mgrStep (env : Env) (mgr : Mgr) (operation : MemberEvent × Xdk) : Mgr :=
  match operation.1 with
  | .create vlanId => (mgrVlanCreate env operation.2 mgr vlanId).2
  | .remove vlanId => (mgrVlanRemove env operation.2 mgr vlanId).2
  | .memberAdd vlanId intfId encapType =>
      (mgrMemberAdd env operation.2 mgr vlanId intfId.toNat encapType).2
  | .memberRemove vlanId intfId => (mgrMemberRemove env operation.2 mgr vlanId intfId).2

/-- `ops_xp_vlan_mgr_create`. -/
def createdMgr : Mgr := ⟨emptyDev, fun _ => Hmap.init⟩

/-- In every run the tables contain the members of their VLANs. -/
theorem tabled_run (env : Env) (operations : List (MemberEvent × Xdk)) :
    Tabled (Transition.run (mgrStep env) createdMgr operations) := by
  apply Transition.run_invariant Tabled
  · intro mgr operation tabled
    obtain ⟨event, xdk⟩ := operation
    cases event with
    | create vlanId => exact tabled.vlanCreate
    | remove vlanId => exact tabled.vlanRemove
    | memberAdd vlanId intfId encapType => exact tabled.memberAdd intfId.isLt encapType
    | memberRemove vlanId intfId => exact tabled.memberRemove
  · intro vlanId
    exact Holds.init

section Mirroring

variable {env : Env} {xdk : Xdk} {mgr : Mgr} {vlanId intfId : Nat}

theorem mgrVlanRemove_dev :
    (mgrVlanRemove env xdk mgr vlanId).2.dev = (vlanRemove env xdk mgr.dev vlanId).2 := by
  unfold mgrVlanRemove
  simp only
  split
  · rfl
  · rfl

theorem mgrMemberAdd_dev (encapType : EncapType) :
    (mgrMemberAdd env xdk mgr vlanId intfId encapType).2.dev =
      (vlanMemberAdd env xdk mgr.dev vlanId intfId encapType).2 := by
  unfold mgrMemberAdd
  split
  · rename_i result
    rw [result]
  · rename_i result
    rw [result]
    split
    · rfl
    · rfl

theorem mgrMemberRemove_dev :
    (mgrMemberRemove env xdk mgr vlanId intfId).2.dev =
      (vlanMemberRemove env xdk mgr.dev vlanId intfId).2 := by
  unfold mgrMemberRemove
  split
  · rename_i result
    rw [result]
  · rename_i result
    rw [result]
    split
    · rfl
    · rfl

theorem Mirrored.mgrStep
    {operation : MemberEvent × Xdk}
    (mirrored : Mirrored env mgr.dev)
    (accepts : operation.2.Accepts) :
    Mirrored env (Vlans.mgrStep env mgr operation).dev := by
  obtain ⟨event, xdk⟩ := operation
  cases event with
  | create vlanId =>
      exact mirrored.create fun _ _ _ => ⟨accepts _, accepts _⟩
  | remove vlanId =>
      show Mirrored env (mgrVlanRemove env xdk mgr vlanId).2.dev
      rw [mgrVlanRemove_dev]
      exact mirrored.remove fun _ => accepts _
  | memberAdd vlanId intfId encapType =>
      show Mirrored env (mgrMemberAdd env xdk mgr vlanId intfId.toNat encapType).2.dev
      rw [mgrMemberAdd_dev]
      exact mirrored.memberAdd encapType
  | memberRemove vlanId intfId =>
      show Mirrored env (mgrMemberRemove env xdk mgr vlanId intfId).2.dev
      rw [mgrMemberRemove_dev]
      exact mirrored.memberRemove

/-- In every run whose calls succeed the hardware has the members of the tables. -/
theorem mirrored_run (env : Env)
    {operations : List (MemberEvent × Xdk)}
    (accepts : ∀ operation ∈ operations, operation.2.Accepts) :
    Mirrored env (Transition.run (Vlans.mgrStep env) createdMgr operations).dev := by
  have start : Mirrored env createdMgr.dev := mirrored_emptyDev env
  generalize createdMgr = mgr at start ⊢
  induction operations generalizing mgr with
  | nil => exact start
  | cons operation operations inductionHypothesis =>
      apply inductionHypothesis
      · intro other listed
        exact accepts other (List.mem_cons_of_mem _ listed)
      · exact start.mgrStep (accepts operation List.mem_cons_self)

end Mirroring

/-! ## Removing all members -/

/-- What is said of the call: it returns zero, and the VLAN has no members, neither in
its table nor in the hardware. -/
def Emptied (env : Env) (xdk : Xdk) (mgr : Mgr) (vlanId : Nat) : Prop :=
  ∃ after, mgrMembersRemoveAll env xdk mgr vlanId = some (none, after) ∧
    (after.membersTable vlanId).nodes = [] ∧ (after.dev.table vlanId).members = [] ∧
      after.dev.hw.vlans vlanId = some []

section Loop

variable {env : Env} {xdk : Xdk} {mgr : Mgr} {vlanId : Nat}

/-- A member that is removed leaves its table, which is shrunk. -/
theorem mgrMemberRemove_of_mem
    {member : Member}
    (accepts : xdk.Accepts)
    (tabled : Tabled mgr)
    (mirrored : Mirrored env mgr.dev)
    (existing : vlanIsExisting env mgr.dev vlanId = true)
    (isNode : member ∈ (mgr.membersTable vlanId).nodes) :
    ∃ after, mgrMemberRemove env xdk mgr vlanId member.intfId = (none, after) ∧
      Tabled after ∧ Mirrored env after.dev ∧ vlanIsExisting env after.dev vlanId = true ∧
      after.membersTable vlanId =
        ((mgr.membersTable vlanId).remove Member.intfId member).shrink Member.intfId := by
  have holds := tabled vlanId
  have isMember := holds.listed.mem_iff.mp isNode
  have found : vlanMemberLookup env mgr.dev vlanId member.intfId = some member := by
    rw [vlanMemberLookup, if_pos existing]
    exact holds.find_eq isMember
  have enough : xdk.SucceedsFor mgr.dev.calls
      (leaveCalls env mgr.dev vlanId member.intfId) := accepts.succeedsFor
  obtain ⟨dev, completes, -, -⟩ := vlanMemberRemove_completes existing enough
  have tabledAfter : Tabled (mgrMemberRemove env xdk mgr vlanId member.intfId).2 :=
    tabled.memberRemove
  have mirroredAfter : Mirrored env (vlanMemberRemove env xdk mgr.dev vlanId member.intfId).2 :=
    mirrored.memberRemove
  rw [completes] at mirroredAfter
  have result : mgrMemberRemove env xdk mgr vlanId member.intfId =
      (none, mgr.setTable dev vlanId
        (((mgr.membersTable vlanId).remove Member.intfId member).shrink Member.intfId)) := by
    unfold mgrMemberRemove
    rw [completes]
    simp only [found]
  rw [result] at tabledAfter
  refine ⟨_, result, tabledAfter, mirroredAfter, ?_, Function.update_self ..⟩
  have stays := vlanMemberRemove_isExisting env xdk mgr.dev vlanId member.intfId
  rw [completes] at stays
  exact stays.trans existing

/-- The loop removes what the iteration over the shrinking table reaches. -/
theorem removeAllFrom_eq
    {fuel : Nat}
    {cursor : Option Member}
    (accepts : xdk.Accepts)
    (tabled : Tabled mgr)
    (mirrored : Mirrored env mgr.dev)
    (existing : vlanIsExisting env mgr.dev vlanId = true)
    (isNode : ∀ e, cursor = some e → e ∈ (mgr.membersTable vlanId).nodes)
    (enough : (mgr.membersTable vlanId).nodes.length ≤ fuel) :
    ∃ after, removeAllFrom env xdk vlanId fuel cursor mgr = some (none, after) ∧
      Tabled after ∧ Mirrored env after.dev ∧ vlanIsExisting env after.dev vlanId = true ∧
      after.membersTable vlanId =
        Hmap.drainFrom Member.intfId fuel cursor (mgr.membersTable vlanId) := by
  induction fuel generalizing mgr cursor with
  | zero =>
      have nothing := List.eq_nil_of_length_eq_zero (Nat.le_zero.mp enough)
      cases cursor with
      | none => exact ⟨mgr, rfl, tabled, mirrored, existing, rfl⟩
      | some e =>
          have member := isNode e rfl
          rw [nothing] at member
          exact absurd member List.not_mem_nil
  | succ fuel inductionHypothesis =>
      cases cursor with
      | none => exact ⟨mgr, rfl, tabled, mirrored, existing, rfl⟩
      | some e =>
          obtain ⟨passed, ahead, order⟩ := List.append_of_mem (isNode e rfl)
          have sound := (tabled vlanId).sound
          have perm := sound.round_perm order
          obtain ⟨between, removed, tabledBetween, mirroredBetween, existingBetween, table⟩ :=
            mgrMemberRemove_of_mem accepts tabled mirrored existing (isNode e rfl)
          have reached : ∀ next, ahead.head? = some next →
              next ∈ (between.membersTable vlanId).nodes := by
            intro next head
            rw [table, perm.mem_iff]
            exact List.mem_append_right _ (List.mem_of_head? head)
          have fewer : (between.membersTable vlanId).nodes.length ≤ fuel := by
            rw [table, perm.length_eq, List.length_append]
            rw [order, List.length_append, List.length_cons] at enough
            omega
          rw [removeAllFrom, removed, (sound.round order).1, Hmap.drainFrom,
            (sound.round order).1, ← table]
          exact inductionHypothesis tabledBetween mirroredBetween existingBetween reached fewer

/-- The call returns zero whatever it leaves. -/
theorem mgrMembersRemoveAll_eq
    (accepts : xdk.Accepts)
    (tabled : Tabled mgr)
    (mirrored : Mirrored env mgr.dev)
    (existing : vlanIsExisting env mgr.dev vlanId = true) :
    ∃ after, mgrMembersRemoveAll env xdk mgr vlanId = some (none, after) ∧
      Tabled after ∧ Mirrored env after.dev ∧ vlanIsExisting env after.dev vlanId = true ∧
      after.membersTable vlanId =
        Hmap.drainFrom Member.intfId (mgr.membersTable vlanId).nodes.length
          (mgr.membersTable vlanId).first (mgr.membersTable vlanId) := by
  unfold mgrMembersRemoveAll
  rw [existing]
  apply removeAllFrom_eq accepts tabled mirrored existing
  · intro e isFirst
    rw [Hmap.first_eq] at isFirst
    exact List.mem_of_head? isFirst
  · exact Nat.le_refl _

/-- A VLAN whose table has no nodes has no members. -/
theorem emptied_of_nodes
    (tabled : Tabled mgr)
    (mirrored : Mirrored env mgr.dev)
    (existing : vlanIsExisting env mgr.dev vlanId = true)
    (empty : (mgr.membersTable vlanId).nodes = []) :
    (mgr.membersTable vlanId).nodes = [] ∧ (mgr.dev.table vlanId).members = [] ∧
      mgr.dev.hw.vlans vlanId = some [] := by
  have listed := (tabled vlanId).listed
  rw [empty] at listed
  have noMembers := listed.symm.eq_nil
  obtain ⟨hwMembers, known, agree⟩ := mirrored.hw_eq_some existing
  have hwListed : (mgr.dev.table vlanId).members.Perm hwMembers := agree.members
  rw [noMembers] at hwListed
  rw [known, hwListed.symm.eq_nil]
  exact ⟨empty, noMembers, rfl⟩

/-- The call empties the VLAN when the iteration empties the table. -/
theorem emptied_iff_drained
    (accepts : xdk.Accepts)
    (tabled : Tabled mgr)
    (mirrored : Mirrored env mgr.dev)
    (existing : vlanIsExisting env mgr.dev vlanId = true) :
    Emptied env xdk mgr vlanId ↔
      (Hmap.drainFrom Member.intfId (mgr.membersTable vlanId).nodes.length
        (mgr.membersTable vlanId).first (mgr.membersTable vlanId)).nodes = [] := by
  obtain ⟨after, result, tabledAfter, mirroredAfter, existingAfter, table⟩ :=
    mgrMembersRemoveAll_eq accepts tabled mirrored existing
  rw [← table]
  constructor
  · rintro ⟨other, same, empty, -, -⟩
    rw [result] at same
    have equal : after = other := congrArg Prod.snd (Option.some.inj same)
    rw [equal]
    exact empty
  · intro empty
    exact ⟨after, result, emptied_of_nodes tabledAfter mirroredAfter existingAfter empty⟩

/-- The call empties the VLAN exactly when no member stays behind the iteration over
its shrinking table. -/
theorem mgrMembersRemoveAll_emptied_iff
    (accepts : xdk.Accepts)
    (tabled : Tabled mgr)
    (mirrored : Mirrored env mgr.dev)
    (existing : vlanIsExisting env mgr.dev vlanId = true) :
    Emptied env xdk mgr vlanId ↔
      Hmap.NoneHidden Member.intfId (Hmap.level (mgr.membersTable vlanId).nodes.length) []
        (mgr.membersTable vlanId).nodes := by
  rw [emptied_iff_drained accepts tabled mirrored existing]
  exact (tabled vlanId).sound.drain_all_iff

end Loop

/-- Up to seven members are always removed. -/
theorem mgrMembersRemoveAll_emptied_of_few
    {env : Env} {xdk : Xdk} {mgr : Mgr} {vlanId : Nat}
    (accepts : xdk.Accepts)
    (tabled : Tabled mgr)
    (mirrored : Mirrored env mgr.dev)
    (existing : vlanIsExisting env mgr.dev vlanId = true)
    (few : (mgr.dev.table vlanId).members.length < 8) :
    Emptied env xdk mgr vlanId := by
  rw [emptied_iff_drained accepts tabled mirrored existing, Hmap.first_eq]
  apply (tabled vlanId).sound.drain_few (List.nil_append _).symm
  · rw [(tabled vlanId).listed.length_eq, List.length_nil, Nat.zero_add]
    exact few
  · exact Nat.le_refl _

/-- With 8 to 15 members the table is rebuilt once, with four buckets, and all members
are removed when the last six come after the one before them there. -/
theorem mgrMembersRemoveAll_emptied_iff_of_fifteen
    {env : Env} {xdk : Xdk} {mgr : Mgr} {vlanId : Nat} {front rest : List Member}
    {cursor : Member}
    (accepts : xdk.Accepts)
    (tabled : Tabled mgr)
    (mirrored : Mirrored env mgr.dev)
    (existing : vlanIsExisting env mgr.dev vlanId = true)
    (order : (mgr.membersTable vlanId).nodes = front ++ cursor :: rest)
    (six : rest.length = 6)
    (several : 0 < front.length)
    (few : front.length < 9) :
    Emptied env xdk mgr vlanId ↔
      ∀ member ∈ rest, cursor.intfId % 4 < member.intfId % 4 := by
  have count : (mgr.membersTable vlanId).nodes.length = front.length + 7 := by
    rw [order, List.length_append, List.length_cons, six]
  have once : Hmap.level (mgr.membersTable vlanId).nodes.length = 1 := by
    have log : Nat.log 2 (front.length + 7) = 3 :=
      Nat.log_eq_of_pow_le_of_lt_pow (by omega) (by omega)
    rw [Hmap.level, count, log]
  have nodup := (tabled vlanId).sound.nodup
  rw [order] at nodup
  rw [emptied_iff_drained accepts tabled mirrored existing,
    (tabled vlanId).sound.drain_all_iff, once, order,
    Hmap.noneHidden_one_iff (List.nodup_append.mp nodup).2.1 six]
  simp only [show (3 : Nat) = 2 ^ 2 - 1 from rfl, Nat.and_two_pow_sub_one_eq_mod]

/-- A VLAN is created and gets the interfaces with the given ids. -/
def filledRun (intfIds : List (BitVec 32)) : List (MemberEvent × Xdk) :=
  (.create 10, failingXdk []) ::
    intfIds.map fun intfId => (.memberAdd 10 intfId .untagged, failingXdk [])

/-- The VLAN with the interfaces of the given ids. -/
def filledMgr (intfIds : List (BitVec 32)) : Mgr :=
  Transition.run (mgrStep sampleEnv) createdMgr (filledRun intfIds)

theorem accepts_failingXdk : (failingXdk []).Accepts := by
  intro call
  rfl

theorem accepts_filledRun (intfIds : List (BitVec 32)) :
    ∀ operation ∈ filledRun intfIds, operation.2.Accepts := by
  intro operation listed
  cases List.mem_cons.mp listed with
  | inl created =>
      rw [created]
      exact accepts_failingXdk
  | inr added =>
      obtain ⟨intfId, -, rfl⟩ := List.mem_map.mp added
      exact accepts_failingXdk

/-- Eight ids of which the resize hides none. -/
theorem emptied_filledMgr :
    Emptied sampleEnv (failingXdk []) (filledMgr [0, 8, 1, 2, 3, 5, 6, 7]) 10 :=
  (mgrMembersRemoveAll_emptied_iff accepts_failingXdk (tabled_run sampleEnv _)
    (mirrored_run sampleEnv (accepts_filledRun _)) (by decide +kernel)).mpr
    (by decide +kernel)

/-- Of the ids from 0 to 7 the resize hides two. -/
theorem not_emptied_filledMgr :
    ¬Emptied sampleEnv (failingXdk []) (filledMgr [0, 1, 2, 3, 4, 5, 6, 7]) 10 := by
  rintro ⟨after, result, -, empty, -⟩
  have left : (mgrMembersRemoveAll sampleEnv (failingXdk [])
      (filledMgr [0, 1, 2, 3, 4, 5, 6, 7]) 10).map
        (fun outcome => (outcome.2.dev.table 10).members.map (·.intfId)) = some [5, 4] := by
    decide +kernel
  rw [result, Option.map_some, empty] at left
  cases left

end Vlans
end XpliantSwitchd
