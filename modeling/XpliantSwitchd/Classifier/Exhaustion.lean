import XpliantSwitchd.Classifier.Update

/-!
# Allocations that fail

`ops_xp_cls_acl_add` notes the failure of the ACL-ID allocator in a status of its
own, which `ops_xp_cls_apply` puts in place of the pointer to the status of its
caller, and the status of the TCAM manager is not looked at.  Whatever fails, the
request goes on as if nothing had happened, and its caller is told that it succeeded.
-/

namespace XpliantSwitchd
namespace Classifier

open Ternary Tcam

variable {Uuid Hw : Type}

/-! ## Where allocations fail -/

section Fails

variable [DecidableEq Uuid] (xdk : Xdk Hw) (outcome : Outcome)

/-- A call of `xpsTcamMgrAllocEntry` fails in the loop that creates rules. -/
def createFails (aclType : AclType) (aclId : Byte) (numEntries : Nat) :
    List AclRule × Hw → List (ListEntry × Nat) → Bool
  | _, [] => false
  | created, item :: items =>
      (xdk.tcamMgrAllocEntry created.2 aclType (numEntries - item.2)).1.isNone ||
        createFails aclType aclId numEntries
          (createRule xdk outcome aclType aclId numEntries created item) items

/-- An allocation fails in `ops_xp_cls_acl_add`. -/
def aclAddFails (cls : Cls Uuid Hw) (list : ClsList Uuid) (info : InterfaceInfo)
    (direction : Direction) : Bool :=
  (allocatedAclId cls list.listId).isNone && outcome.aclIdAllocEntry.isNone ||
    createFails xdk outcome (clsGetType info direction)
      (clsAclAdd xdk outcome cls list info direction).2.1.aclId
      (list.entries.getD []).length ([], cls.hw) (list.entries.getD []).zipIdx

/-- An allocation fails in `ops_xp_cls_apply`. -/
def applyFails (cls : Cls Uuid Hw) (list : ClsList Uuid) (bundle : Option BundleView)
    (info : InterfaceInfo) (direction : Direction) : Bool :=
  bundleReady bundle info && list.supported &&
    (clsHmapLookup cls list.listId info direction).isNone &&
    aclAddFails xdk outcome cls list info direction

/-- An allocation fails in the `ops_xp_cls_apply` of `ops_xp_cls_replace`. -/
def replaceFails (cls : Cls Uuid Hw) (listIdOrig : Uuid) (listNew : ClsList Uuid)
    (bundle : Option BundleView) (info : InterfaceInfo) (direction : Direction) : Bool :=
  match bundle, (clsGetType info direction).table with
  | some view, some table =>
      (clsHmapLookup cls listIdOrig info direction).isSome &&
        applyFails xdk outcome (lowered xdk cls view info table listIdOrig) listNew
          bundle info direction
  | _, _ => false

end Fails

/-! ## What a failure is to leave -/

/-- What is seen of the hardware: the entries of the TCAM manager with their
priorities, the rules in the tables, and the settings of ports and routers. -/
structure Observer (Hw Settings : Type) where
  allocation : Hw → AclType → Nat → Option Nat
  rules : Hw → AclTable → Nat → Option (Nat × IaclkeyFieldList × IaclData)
  settings : Hw → Settings

/-- The maps with their rules and counts, the allocators, the rules in force and the
settings are what they were. -/
structure Undone {Settings : Type} (observer : Observer Hw Settings)
    (before after : Cls Uuid Hw) : Prop where
  maps : after.classifierHmap = before.classifierHmap
  aclIds : after.aclIds = before.aclIds
  allocation : observer.allocation after.hw = observer.allocation before.hw
  rules : observer.rules after.hw = observer.rules before.hw
  settings : observer.settings after.hw = observer.settings before.hw

/-- The caller is told of the failure, and everything is what it was. -/
structure Handled {Settings : Type} (observer : Observer Hw Settings)
    (before after : Cls Uuid Hw) (status : PdStatus) : Prop
    extends Undone observer before after where
  reported : status.statusCode ≠ .success

section Unreported

variable [DecidableEq Uuid] {xdk : Xdk Hw} {outcome : Outcome} {cls : Cls Uuid Hw}
  {list : ClsList Uuid} {bundle : Option BundleView} {info : InterfaceInfo}
  {direction : Direction}

/-- The status of the caller says success whenever the list passes. -/
theorem clsApply_status
    (supported : list.supported = true) :
    (clsApply xdk outcome cls list bundle info direction .success).2.1 = .success := by
  have validated := clsValidateEntries_supported supported .success
  unfold clsApply
  cases bundle with
  | none => rfl
  | some view =>
      simp only [validated]
      split
      · rfl
      · split
        · rfl
        · cases (clsGetType info direction).table with
          | none => rfl
          | some table => rfl

/-- So does that of the caller of `ops_xp_cls_replace`. -/
theorem clsReplace_status
    (listIdOrig : Uuid)
    (supported : list.supported = true) :
    (clsReplace xdk outcome cls listIdOrig list bundle info direction .success).2.1 =
      .success := by
  unfold clsReplace
  cases bundle with
  | none => rfl
  | some view =>
      simp only [clsApply_status supported]
      split
      · rfl
      · split
        · split
          · split
            · split <;> rfl
            · rfl
          · rename_i notSuccess
            exact absurd rfl notSuccess
        · rfl

/-- A list that is accepted has an entry. -/
theorem clsApply_entry
    {table : AclTable}
    (typed : (clsGetType info direction).table = some table)
    (accepted : (bundleReady bundle info && list.supported) = true) :
    ∃ e ∈ (clsApply xdk outcome cls list bundle info direction
      .success).2.2.classifierHmap table, e.listUid = list.listId := by
  obtain ⟨view, status, e, found, _, result, _, finds⟩ :=
    clsApply_accepted xdk outcome cls typed accepted
  have present : ∃ x ∈ found.classifierHmap table, x.listUid = list.listId := by
    cases finds with
    | present member uid => exact ⟨e, member, uid⟩
    | added _ =>
        obtain ⟨new, aclIds, hw, added, uid, _⟩ :=
          clsAclAdd_spec xdk outcome cls list typed
        rw [added]
        exact ⟨new, mem_cons_hmap.mpr (.inl ⟨rfl, rfl⟩), uid⟩
  obtain ⟨x, member, uid⟩ := present
  rw [result]
  obtain ⟨y, yMember, _, yUid⟩ := @adjusted_of_mem _ _ _ _ table table list.listId
    (· + 1) x member
  exact ⟨y, yMember, yUid.trans uid⟩

omit [DecidableEq Uuid] in
/-- Maps in which a list has come to have an entry are not undone. -/
theorem not_undone_of_entry
    {Settings : Type} {observer : Observer Hw Settings} {after : Cls Uuid Hw}
    {table : AclTable} {listId : Uuid}
    (missing : ∀ e ∈ cls.classifierHmap table, e.listUid ≠ listId)
    (present : ∃ e ∈ after.classifierHmap table, e.listUid = listId) :
    ¬Undone observer cls after := by
  intro undone
  obtain ⟨e, member, uid⟩ := present
  rw [undone.maps] at member
  exact missing e member uid

/-- After `ops_xp_cls_replace` that lacked an entry for the new list, there is one. -/
theorem clsReplace_entry
    {table : AclTable} {view : BundleView} {listIdOrig : Uuid} {e : AclEntry Uuid}
    (typed : (clsGetType info direction).table = some table)
    (accepted : (bundleReady (some view) info && list.supported) = true)
    (found : clsHmapLookup cls listIdOrig info direction = some e)
    (missing : ∀ e ∈ cls.classifierHmap table, e.listUid ≠ list.listId) :
    ∃ e ∈ (clsReplace xdk outcome cls listIdOrig list (some view) info direction
      .success).2.2.classifierHmap table, e.listUid = list.listId := by
  obtain ⟨ready, _⟩ := Bool.and_eq_true_iff.mp accepted
  obtain ⟨eMember, eUid⟩ := clsHmapLookup_some typed found
  obtain ⟨_, status, _, _, _, result, success, _⟩ := clsApply_accepted xdk outcome
    (lowered xdk cls view info table listIdOrig) typed accepted
  obtain ⟨x, member, uid⟩ := @clsApply_entry _ _ _ xdk outcome
    (lowered xdk cls view info table listIdOrig) _ _ _ _ _ typed accepted
  rw [result] at member
  rw [clsReplace_accepted typed ready found result success]
  split
  · rename_i present search
    have presentUid : present.listUid = listIdOrig := by
      simpa using List.find?_some search
    split
    · refine ⟨x, ?_, uid⟩
      rw [clsAclDelete_hmap]
      refine mem_hmapWithout.mpr ⟨member, ?_⟩
      rintro ⟨_, same⟩
      exact missing e eMember
        (eUid.trans (presentUid.symm.trans (same.symm.trans uid)))
    · exact ⟨x, member, uid⟩
  · exact ⟨x, member, uid⟩

/-- The entry that is missing after the count was lowered was missing before. -/
theorem missing_of_lowered
    {table : AclTable} {view : BundleView} {listIdOrig : Uuid}
    (typed : (clsGetType info direction).table = some table)
    (absent : clsHmapLookup (lowered xdk cls view info table listIdOrig) list.listId info
      direction = none) :
    ∀ e ∈ cls.classifierHmap table, e.listUid ≠ list.listId := by
  intro e member uid
  obtain ⟨x, xMember, _, xUid⟩ := @adjusted_of_mem _ _ _
    { cls with hw := setInterfaceAcl xdk view info false 0#8 cls.hw } table table
    listIdOrig (· - 1) e member
  exact clsHmapLookup_none typed absent x xMember (xUid.trans uid)

/-- No failed allocation is reported, and where the list goes to a map nothing is
undone either, neither in `ops_xp_cls_apply` nor in `ops_xp_cls_replace`. -/
theorem not_handled_of_fails
    {Settings : Type}
    (observer : Observer Hw Settings)
    (listIdOrig : Uuid) :
    (applyFails xdk outcome cls list bundle info direction = true →
      ¬Handled observer cls
        (clsApply xdk outcome cls list bundle info direction .success).2.2
        (clsApply xdk outcome cls list bundle info direction .success).2.1 ∧
      ((clsGetType info direction).table.isSome →
        ¬Undone observer cls
          (clsApply xdk outcome cls list bundle info direction .success).2.2)) ∧
    (replaceFails xdk outcome cls listIdOrig list bundle info direction = true →
      ¬Handled observer cls
        (clsReplace xdk outcome cls listIdOrig list bundle info direction
          .success).2.2
        (clsReplace xdk outcome cls listIdOrig list bundle info direction
          .success).2.1 ∧
      ¬Undone observer cls (clsReplace xdk outcome cls listIdOrig list bundle info
        direction .success).2.2) := by
  constructor
  · intro fails
    simp only [applyFails, Bool.and_eq_true, Option.isNone_iff_eq_none] at fails
    obtain ⟨⟨⟨ready, supported⟩, absent⟩, _⟩ := fails
    refine ⟨?_, ?_⟩
    · intro handled
      refine handled.reported ?_
      rw [clsApply_status supported]
      rfl
    · intro isTyped
      obtain ⟨table, typed⟩ := Option.isSome_iff_exists.mp isTyped
      exact not_undone_of_entry (clsHmapLookup_none typed absent)
        (clsApply_entry typed (Bool.and_eq_true_iff.mpr ⟨ready, supported⟩))
  · intro fails
    unfold replaceFails at fails
    split at fails
    · rename_i view table typed
      simp only [applyFails, Bool.and_eq_true, Option.isNone_iff_eq_none] at fails
      obtain ⟨isFound, ⟨⟨ready, supported⟩, absent⟩, _⟩ := fails
      obtain ⟨e, found⟩ := Option.isSome_iff_exists.mp isFound
      have missing := missing_of_lowered typed absent
      refine ⟨?_, ?_⟩
      · intro handled
        refine handled.reported ?_
        rw [clsReplace_status listIdOrig supported]
        rfl
      · exact not_undone_of_entry missing (clsReplace_entry typed
          (Bool.and_eq_true_iff.mpr ⟨ready, supported⟩) found missing)
    · cases fails

end Unreported

/-! ## A concrete failure -/

/-- The ACL-ID allocator has nothing left. -/
def exhausted : Outcome where
  aclIdAllocEntry := none
  unsetAclId := 0#8
  unsetRuleIndex _ := 0
  unsetTcamId _ := 0

/-- What is seen of the concrete hardware, which has no settings. -/
def tcamObserver : Observer (TcamHw × List (Nat × Nat)) Unit where
  allocation hw aclType id :=
    match aclType.table with
    | some table => (hw.1.table table).priority id
    | none => if aclType = .eacl then (hw.2.find? (·.1 == id)).map (·.2) else none
  rules hw table := (hw.1.table table).view
  settings _ := ()

/-- Applied without an ACL id, a list stays in its map. -/
theorem not_undone_exhausted :
    ¬Undone tcamObserver (afterRun [])
      (clsApply indexedXdk.withEgress exhausted (afterRun []) firstList
        (some { ports := [0], l3Intf := none }) { interface := .port, l3Only := false }
        .ingress .success).2.2 ∧
    ¬Undone tcamObserver (afterRun portRun)
      (clsReplace indexedXdk.withEgress exhausted (afterRun portRun) 1
        { listId := 2, entries := portLists 2 } (some { ports := [0], l3Intf := none })
        { interface := .port, l3Only := false } .ingress .success).2.2 :=
  ⟨((not_handled_of_fails tcamObserver 1).1 (by decide)).2 rfl,
    ((not_handled_of_fails tcamObserver 1).2 (by decide +kernel)).2⟩

/-- A list is applied without an ACL id, or replaces another one without one. -/
theorem not_handled_exhausted :
    (ReachedByEvents indexedModel.withEgress (afterRun []) ∧
      applyFails indexedXdk.withEgress exhausted (afterRun []) firstList
        (some { ports := [0], l3Intf := none }) { interface := .port, l3Only := false }
        .ingress = true ∧
      ¬Handled tcamObserver (afterRun [])
        (clsApply indexedXdk.withEgress exhausted (afterRun []) firstList
          (some { ports := [0], l3Intf := none })
          { interface := .port, l3Only := false } .ingress .success).2.2
        (clsApply indexedXdk.withEgress exhausted (afterRun []) firstList
          (some { ports := [0], l3Intf := none })
          { interface := .port, l3Only := false } .ingress .success).2.1) ∧
    ReachedByEvents indexedModel.withEgress (afterRun portRun) ∧
      replaceFails indexedXdk.withEgress exhausted (afterRun portRun) 1
        { listId := 2, entries := portLists 2 } (some { ports := [0], l3Intf := none })
        { interface := .port, l3Only := false } .ingress = true ∧
      ¬Handled tcamObserver (afterRun portRun)
        (clsReplace indexedXdk.withEgress exhausted (afterRun portRun) 1
          { listId := 2, entries := portLists 2 }
          (some { ports := [0], l3Intf := none })
          { interface := .port, l3Only := false } .ingress .success).2.2
        (clsReplace indexedXdk.withEgress exhausted (afterRun portRun) 1
          { listId := 2, entries := portLists 2 }
          (some { ports := [0], l3Intf := none })
          { interface := .port, l3Only := false } .ingress .success).2.1 := by
  refine ⟨⟨.start ⟨_, clean_emptyTcam, rfl⟩, by decide, ?_⟩, reached_portRun,
    by decide +kernel, ?_⟩
  · intro handled
    have reported := handled.reported
    revert reported
    decide
  · intro handled
    have reported := handled.reported
    revert reported
    decide +kernel

end Classifier
end XpliantSwitchd
