import XpliantSwitchd.Classifier.Update

/-!
# Applying a list and removing it

A list that is applied and then removed again from the same interface is to leave no
trace in the maps, the ACL ids and the TCAM.  The entry that `ops_xp_cls_remove`
looks for is in the map of its table, so an egress list, for which there is no map,
is never found, and an entry whose count of interfaces has wrapped around to zero is
deleted while it is in use.
-/

namespace XpliantSwitchd
namespace Classifier

open Ternary Tcam

variable {Uuid Hw : Type}

/-- The ACL ids, the entries of the TCAM manager, the valid rules and the maps, with
their counts, are what they were. -/
structure Restored {xdk : Xdk Hw} {model : TcamModel xdk} (eacl : EaclModel model)
    (before after : Cls Uuid Hw) : Prop where
  aclIds : after.aclIds = before.aclIds
  allocation : ∀ table,
    (model.table after.hw table).priority = (model.table before.hw table).priority
  egressAllocation : eacl.priority after.hw = eacl.priority before.hw
  rules : ∀ table, (model.table after.hw table).view = (model.table before.hw table).view
  validRules : ∀ table rule, ValidRule rule →
    ((∃ index, (model.table after.hw table).rule index = rule) ↔
      ∃ index, (model.table before.hw table).rule index = rule)
  maps : after.classifierHmap = before.classifierHmap

section Trip

variable [DecidableEq Uuid] (xdk : Xdk Hw) (applying removing : Outcome)
  (cls : Cls Uuid Hw) (list : ClsList Uuid) (bundle : Option BundleView)
  (info : InterfaceInfo) (direction : Direction)

/-- `ops_xp_cls_apply` and then `ops_xp_cls_remove` of the same list on the same
interface. -/
def roundTrip : Cls Uuid Hw :=
  (clsRemove xdk removing (clsApply xdk applying cls list bundle info direction
    .success).2.2 list.listId bundle info direction).2

/-- When removing undoes applying: an ingress list has no entry whose count is zero,
and an egress list has an ACL id already and needs no TCAM entry. -/
def Reversible : Prop :=
  bundleReady bundle info = true →
    (∀ table, (clsGetType info direction).table = some table →
      ∀ e ∈ cls.classifierHmap table, e.listUid = list.listId → e.numIntfs ≠ 0) ∧
    (direction = .egress → list.entries.getD [] = [] ∧
      ∃ table, ∃ e ∈ cls.classifierHmap table, e.listUid = list.listId)

end Trip

/-! ## Equal contents -/

section Contents

variable {xdk : Xdk Hw} {model : TcamModel xdk} {cls after : Cls Uuid Hw}
  {contents : AclTable → Uuid → List ListEntry}

theorem Holds.view_unique
    {hw hw' : Hw} {table : AclTable}
    {items : List (Nat × Nat × IaclkeyFieldList × IaclData)}
    (holds : Holds model hw table items)
    (holds' : Holds model hw' table items) :
    (model.table hw table).view = (model.table hw' table).view := by
  funext id
  apply Option.ext
  intro item
  rw [holds.represents.exact id item, holds'.represents.exact id item]

/-- In a tidy table the priorities are those of the view. -/
theorem Holds.priority_eq
    {hw : Hw} {table : AclTable}
    {items : List (Nat × Nat × IaclkeyFieldList × IaclData)}
    (holds : Holds model hw table items)
    (id : Nat) :
    (model.table hw table).priority id =
      ((model.table hw table).view id).map (·.1) := by
  cases allocated : (model.table hw table).priority id with
  | none => rw [Table.view_of_free allocated, Option.map_none]
  | some priority =>
      obtain ⟨index, place⟩ := Option.isSome_iff_exists.mp
        (holds.tidy.placed id (by simp [allocated]))
      rw [Table.view_of_place allocated place, Option.map_some]

/-- In a tidy table the valid rules are those of the view. -/
theorem Holds.valid_iff
    {hw : Hw} {table : AclTable} {rule : IaclkeyFieldList × IaclData}
    {items : List (Nat × Nat × IaclkeyFieldList × IaclData)}
    (holds : Holds model hw table items)
    (valid : ValidRule rule) :
    (∃ index, (model.table hw table).rule index = rule) ↔
      ∃ id priority, (model.table hw table).view id = some (priority, rule) := by
  constructor
  · rintro ⟨index, rfl⟩
    obtain ⟨id, isAllocated, place⟩ := holds.tidy.owned index valid
    obtain ⟨priority, allocated⟩ := Option.isSome_iff_exists.mp isAllocated
    exact ⟨id, priority, Table.view_of_place allocated place⟩
  · rintro ⟨id, priority, view⟩
    obtain ⟨index, _, _, same⟩ := Table.view_eq_some.mp view
    exact ⟨index, same⟩

/-- Classifiers with the same maps and contents have the same rules. -/
theorem Installed.restored
    {contents' : AclTable → Uuid → List ListEntry} {eacl : EaclModel model}
    (before : Installed contents model cls)
    (installed : Installed contents' model after)
    (maps : after.classifierHmap = cls.classifierHmap)
    (sameContents : ∀ table, ∀ e ∈ cls.classifierHmap table,
      contents' table e.listUid = contents table e.listUid)
    (aclIds : after.aclIds = cls.aclIds)
    (egressAllocation : eacl.priority after.hw = eacl.priority cls.hw) :
    Restored eacl cls after := by
  have again : Installed contents model after := by
    refine installed.congr ?_
    rw [maps]
    intro table e member
    exact (sameContents table e member).symm
  have held : ∀ table, Holds model after.hw table ((cls.classifierHmap table).flatMap
      fun e => e.itemsOf xdk.zeroCmd (contents table e.listUid)) := by
    rw [← maps]
    exact again.holds
  have views : ∀ table, (model.table after.hw table).view =
      (model.table cls.hw table).view :=
    fun table => (held table).view_unique (before.holds table)
  refine ⟨aclIds, ?_, egressAllocation, views, ?_, maps⟩
  · intro table
    funext id
    rw [(held table).priority_eq, (before.holds table).priority_eq, views]
  · intro table rule valid
    rw [(held table).valid_iff valid, (before.holds table).valid_iff valid, views]

end Contents

/-! ## Ingress -/

section Ingress

variable [DecidableEq Uuid] {xdk : Xdk Hw} {model : TcamModel xdk}
  {eacl : EaclModel model} {applying removing : Outcome} {cls found : Cls Uuid Hw}
  {list : ClsList Uuid} {bundle : Option BundleView} {info : InterfaceInfo}
  {direction : Direction} {table : AclTable} {view : BundleView} {e : AclEntry Uuid}

/-- The classifier when `ops_xp_cls_apply` is done with the entry of a list. -/
def raised (xdk : Xdk Hw) (found : Cls Uuid Hw) (view : BundleView)
    (info : InterfaceInfo) (table : AclTable) (listId : Uuid) (aclId : Byte) :
    Cls Uuid Hw :=
  adjustIntfs { found with hw := setInterfaceAcl xdk view info true aclId found.hw }
    table listId (· + 1)

/-- The classifier when the count of an entry has gone up and down again. -/
def upAndDown (xdk : Xdk Hw) (found : Cls Uuid Hw) (view : BundleView)
    (info : InterfaceInfo) (table : AclTable) (listId : Uuid) (aclId : Byte) :
    Cls Uuid Hw :=
  lowered xdk (raised xdk found view info table listId aclId) view info table listId

/-- The count comes back to what it was. -/
theorem upAndDown_maps
    (listId : Uuid) (aclId : Byte) :
    (upAndDown xdk found view info table listId aclId).classifierHmap =
      found.classifierHmap := by
  funext other
  unfold upAndDown lowered raised
  rw [adjustIntfs_hmap, adjustIntfs_hmap]
  split
  · refine KeyedList.rewrite_undo (fun _ => rfl) ?_
    intro record
    simp
  · rfl

/-- `ops_xp_cls_remove` right after `ops_xp_cls_apply`. -/
theorem roundTrip_mapped
    (ids : SharedIds cls)
    (typed : (clsGetType info direction).table = some table)
    (accepted : (bundleReady bundle info && list.supported) = true)
    (allocates : AllocatesFresh cls applying list.listId) :
    ∃ view e found, Finds xdk applying cls list info direction table e found ∧
      SharedIds found ∧ e ∈ found.classifierHmap table ∧ e.listUid = list.listId ∧
      roundTrip xdk applying removing cls list bundle info direction =
        if e.numIntfs = 0 then
          clsAclDelete xdk removing
            (upAndDown xdk found view info table list.listId e.aclId)
            { e with numIntfs := e.numIntfs + 1 } table
        else upAndDown xdk found view info table list.listId e.aclId := by
  obtain ⟨view, status, e, found, isBundle, result, _, finds⟩ :=
    clsApply_accepted xdk applying cls typed accepted
  have present : SharedIds found ∧ e ∈ found.classifierHmap table ∧
      e.listUid = list.listId := by
    cases finds with
    | present member uid => exact ⟨ids, member, uid⟩
    | added missing =>
        obtain ⟨new, hw, added, uid, _, _⟩ := ids.aclAdd_new xdk typed allocates
        have shared := ids.aclAdd xdk typed allocates missing
        rw [added] at shared ⊢
        exact ⟨shared, mem_cons_hmap.mpr (.inl ⟨rfl, rfl⟩), uid⟩
  obtain ⟨foundIds, member, uid⟩ := present
  have raisedIds : SharedIds (raised xdk found view info table list.listId e.aclId) :=
    (foundIds.setHw _).adjust table list.listId (· + 1)
  have raisedMember : { e with numIntfs := e.numIntfs + 1 } ∈ (raised xdk found view
      info table list.listId e.aclId).classifierHmap table :=
    mem_adjustIntfs.mpr ⟨e, member, by simp [uid]⟩
  have lookup : clsHmapLookup (raised xdk found view info table list.listId e.aclId)
      list.listId info direction = some { e with numIntfs := e.numIntfs + 1 } := by
    rw [clsHmapLookup, typed]
    exact (KeyedList.find?_key_eq_some (raisedIds.uuidOnce table)).mpr
      ⟨raisedMember, uid⟩
  have ready := (Bool.and_eq_true_iff.mp accepted).1
  obtain ⟨_, sameBundle, removed⟩ := @clsRemove_present _ _ _ xdk removing _ _ _ _ _ _ _
    typed ready lookup
  rw [isBundle, Option.some.injEq] at sameBundle
  subst sameBundle
  refine ⟨view, e, found, finds, foundIds, member, uid, ?_⟩
  unfold roundTrip
  rw [result]
  have same : e.numIntfs + 1 - 1 = e.numIntfs := by simp
  simp only [same] at removed
  exact removed

/-- Removing an entry that was just added leaves the maps as they were. -/
theorem hmapWithout_cons
    {hw : Hw} {aclIds : Finset Byte}
    (missing : ∀ other ∈ cls.classifierHmap table, other.listUid ≠ e.listUid) :
    hmapWithout ⟨Function.update cls.classifierHmap table
      (e :: cls.classifierHmap table), aclIds, hw⟩ table e.listUid =
        cls.classifierHmap := by
  unfold hmapWithout
  simp only [Function.update_self, Function.update_idem]
  rw [Function.update_eq_self_iff]
  have kept := KeyedList.remove_of_absent missing
  unfold KeyedList.remove at kept ⊢
  rw [List.filter_cons_of_neg (by simp), kept]

/-- The hardware of the round trip leaves the egress table alone. -/
theorem upAndDown_egress
    (listId : Uuid) (aclId : Byte) :
    eacl.priority (upAndDown xdk found view info table listId aclId).hw =
      eacl.priority found.hw := by
  have low := eacl.setInterfaceAcl_priority view info false 0#8
    (raised xdk found view info table listId aclId).hw
  have high := eacl.setInterfaceAcl_priority view info true aclId found.hw
  exact low.trans high

theorem SharedIds.upAndDown
    (ids : SharedIds found)
    (listId : Uuid) (aclId : Byte) :
    SharedIds (upAndDown xdk found view info table listId aclId) :=
  (((ids.setHw _).adjust table listId (· + 1)).setHw _).adjust table listId (· - 1)

theorem Installed.upAndDown
    {contents : AclTable → Uuid → List ListEntry}
    (installed : Installed contents model found)
    (listId : Uuid) (aclId : Byte) :
    Installed contents model (upAndDown xdk found view info table listId aclId) :=
  (((installed.set view info true aclId).adjust table listId (· + 1)).set view info
    false 0#8).adjust table listId (· - 1)

/-- A list that has an entry is applied on one more interface, and then not. -/
theorem Installed.restored_present
    {contents : AclTable → Uuid → List ListEntry}
    (installed : Installed contents model cls)
    (listId : Uuid) (aclId : Byte) :
    Restored eacl cls (Classifier.upAndDown xdk cls view info table listId aclId) :=
  installed.restored (installed.upAndDown listId aclId) (upAndDown_maps listId aclId)
    (fun _ _ _ => rfl) rfl (upAndDown_egress listId aclId)

/-- Adding an entry for ingress leaves the egress table alone. -/
theorem clsAclAdd_egressAllocation
    (eacl : EaclModel model)
    (typed : (clsGetType info direction).table = some table) :
    eacl.priority (clsAclAdd xdk applying cls list info direction).2.2.hw =
      eacl.priority cls.hw := by
  obtain ⟨_, _, created⟩ := clsAclAdd_rules xdk applying cls list info direction
  rw [aclType_of_table typed] at created
  rw [(Prod.mk.inj created).2]
  exact eacl.createRules_mapped applying table _ _ _ _

/-- The ids after an entry was added and deleted. -/
theorem SharedIds.aclIds_restored
    {low : Cls Uuid Hw}
    (ids : SharedIds cls)
    (lowIds : SharedIds low)
    (allocates : AllocatesFresh cls applying list.listId)
    (ownId : ∀ shared, allocatedAclId cls list.listId = some shared →
      e.aclId = shared)
    (freshId : ∀ fresh, allocatedAclId cls list.listId = none →
      applying.aclIdAllocEntry = some fresh → e.aclId = fresh)
    (inserted : low.aclIds = insert e.aclId cls.aclIds)
    (member : e ∈ low.classifierHmap table)
    (maps : hmapWithout low table e.listUid = cls.classifierHmap) :
    (clsAclDelete xdk removing low { e with numIntfs := e.numIntfs + 1 } table).aclIds =
      cls.aclIds := by
  obtain ⟨aclIds, hw, result, left⟩ := lowIds.aclDelete_ids xdk removing member
    (e := { e with numIntfs := e.numIntfs + 1 }) rfl rfl
  rw [result]
  simp only [maps] at left
  rcases left with ⟨⟨other, x, xMember, xId⟩, rfl⟩ | ⟨none, rfl⟩
  · rw [inserted, ← xId]
    exact Finset.insert_eq_of_mem (ids.used other x xMember)
  · have notUsed : e.aclId ∉ cls.aclIds := by
      cases search : allocatedAclId cls list.listId with
      | none =>
          obtain ⟨fresh, answer, free⟩ := allocates search
          rw [freshId fresh search answer]
          exact free
      | some shared =>
          obtain ⟨other, x, xMember, _, xId⟩ := allocatedAclId_some search
          exact absurd (xId.trans (ownId shared search).symm) (none other x xMember)
    rw [inserted]
    exact Finset.erase_insert notUsed

/-- A list that has no entry gets one, and loses it again. -/
theorem Sound.restored_added
    (sound : Sound model cls)
    (typed : (clsGetType info direction).table = some table)
    (allocates : AllocatesFresh cls applying list.listId)
    (missing : ∀ e ∈ cls.classifierHmap table, e.listUid ≠ list.listId) :
    let (e, found) := (clsAclAdd xdk applying cls list info direction).2
    Restored eacl cls (clsAclDelete xdk removing
      (upAndDown xdk found view info table list.listId e.aclId)
      { e with numIntfs := e.numIntfs + 1 } table) := by
  obtain ⟨contents, installed⟩ := sound.installed
  have foundInstalled : Installed (retarget contents table list.listId
      (list.entries.getD [])) model
      (clsAclAdd xdk applying cls list info direction).2.2 := by
    refine Installed.aclAdd (installed.congr ?_) typed (retarget_self ..)
    intro other e member
    refine retarget_other ?_
    rintro ⟨rfl, same⟩
    exact missing e member same
  have foundIds := sound.ids.aclAdd xdk typed allocates missing
  have egress := @clsAclAdd_egressAllocation _ _ _ _ _ applying cls list _ _ _ eacl typed
  obtain ⟨e, aclIds, hw, result, uid, _, ifShared, ifFresh⟩ :=
    clsAclAdd_spec xdk applying cls list typed
  obtain ⟨e', hw', result', _, _, _⟩ := sound.ids.aclAdd_new xdk typed allocates
  rw [result] at result'
  obtain ⟨rfl, sameCls⟩ := Prod.mk.inj result'
  have inserted : aclIds = insert e.aclId cls.aclIds := congrArg Cls.aclIds sameCls
  rw [result] at foundInstalled foundIds egress ⊢
  simp only at foundInstalled foundIds egress ⊢
  rw [← uid] at missing
  have lowMaps := @upAndDown_maps _ _ _ xdk ⟨Function.update cls.classifierHmap
    table (e :: cls.classifierHmap table), aclIds, hw⟩ info table view list.listId e.aclId
  have lowIds := @SharedIds.upAndDown _ _ _ xdk _ info table view foundIds list.listId
    e.aclId
  have low := @Installed.upAndDown _ _ _ _ _ _ info table view _ foundInstalled
    list.listId e.aclId
  have member : e ∈ (upAndDown xdk ⟨Function.update cls.classifierHmap table
      (e :: cls.classifierHmap table), aclIds, hw⟩ view info table list.listId
      e.aclId).classifierHmap table := by
    rw [lowMaps]
    exact mem_cons_hmap.mpr (.inl ⟨rfl, rfl⟩)
  have maps : hmapWithout (upAndDown xdk ⟨Function.update cls.classifierHmap table
      (e :: cls.classifierHmap table), aclIds, hw⟩ view info table list.listId e.aclId)
      table e.listUid = cls.classifierHmap := by
    rw [hmapWithout, lowMaps]
    exact @hmapWithout_cons _ _ _ _ _ _ hw aclIds missing
  refine installed.restored (low.aclDelete (lowIds.uuidOnce table) member rfl) ?_ ?_ ?_ ?_
  · rw [clsAclDelete_hmap]
    exact maps
  · intro other x xMember
    refine retarget_other ?_
    rintro ⟨rfl, same⟩
    exact missing x xMember (same.trans uid.symm)
  · exact sound.ids.aclIds_restored lowIds allocates
      (fun shared search => (ifShared shared search).1)
      (fun fresh search answer => (ifFresh fresh search answer).1) inserted member maps
  · have typedEntry := low.typed table e member
    rw [clsAclDelete_hw, clsDestroyRuleEntryList, typedEntry]
    exact (eacl.destroyRules_mapped removing table e.ruleList _).trans
      ((upAndDown_egress list.listId e.aclId).trans egress)

/-- For ingress removing undoes applying when no entry of the list has a count of
zero. -/
theorem Sound.restored_mapped_iff
    (eacl : EaclModel model)
    (sound : Sound model cls)
    (typed : (clsGetType info direction).table = some table)
    (accepted : (bundleReady bundle info && list.supported) = true)
    (allocates : AllocatesFresh cls applying list.listId) :
    Restored eacl cls (roundTrip xdk applying removing cls list bundle info direction) ↔
      ∀ e ∈ cls.classifierHmap table, e.listUid = list.listId → e.numIntfs ≠ 0 := by
  obtain ⟨contents, installed⟩ := sound.installed
  obtain ⟨view, e, found, finds, _, member, uid, result⟩ :=
    @roundTrip_mapped _ _ _ xdk applying removing _ _ _ _ _ _ sound.ids typed accepted
      allocates
  cases finds with
  | present _ _ =>
      constructor
      · intro restored x xMember xUid zero
        have same := List.inj_on_of_nodup_map (sound.ids.uuidOnce table) xMember member
          (xUid.trans uid.symm)
        subst same
        have maps := restored.maps
        rw [result, if_pos zero, clsAclDelete_hmap] at maps
        have kept := member
        rw [← maps] at kept
        exact (mem_hmapWithout.mp kept).2 ⟨rfl, rfl⟩
      · intro counted
        rw [result, if_neg (counted e member uid)]
        exact installed.restored_present list.listId e.aclId
  | added missing =>
      have idle : (clsAclAdd xdk applying cls list info direction).2.1.numIntfs = 0 := by
        obtain ⟨_, _, _, added, _, idle, _, _⟩ :=
          clsAclAdd_spec xdk applying cls list typed
        rw [added]
        exact idle
      constructor
      · intro _ x xMember xUid
        exact absurd xUid (missing x xMember)
      · intro _
        rw [result, if_pos idle]
        exact sound.restored_added typed allocates missing

end Ingress

/-! ## Egress -/

section Egress

variable [DecidableEq Uuid] {xdk : Xdk Hw} {model : TcamModel xdk}
  {applying removing : Outcome} {cls : Cls Uuid Hw} {list : ClsList Uuid}
  {bundle : Option BundleView} {info : InterfaceInfo} {direction : Direction}

/-- For egress nothing is removed, so nothing may have been allocated. -/
theorem Sound.restored_egress_iff
    (eacl : EaclModel model)
    (sound : Sound model cls)
    (accepted : (bundleReady bundle info && list.supported) = true)
    (allocates : AllocatesFresh cls applying list.listId) :
    Restored eacl cls (roundTrip xdk applying removing cls list bundle info .egress) ↔
      list.entries.getD [] = [] ∧
        ∃ table, ∃ e ∈ cls.classifierHmap table, e.listUid = list.listId := by
  obtain ⟨view, status, aclId, _, applied, _⟩ :=
    @clsApply_egress _ _ _ xdk applying cls list bundle info accepted
  have result : roundTrip xdk applying removing cls list bundle info .egress =
      { (clsAclAdd xdk applying cls list info .egress).2.2 with
        hw := setInterfaceAcl xdk view info true aclId
          (clsAclAdd xdk applying cls list info .egress).2.2.hw } := by
    rw [roundTrip, clsRemove_egress, applied]
  obtain ⟨sameMaps, _, ifShared, ifFresh⟩ :=
    clsAclAdd_egress xdk applying cls list info
  obtain ⟨ruleId, hw⟩ := clsAclAdd_egress_hw xdk applying cls list info
  rw [result]
  constructor
  · intro restored
    refine ⟨?_, ?_⟩
    · have allocation := restored.egressAllocation
      simp only [eacl.setInterfaceAcl_priority, hw] at allocation
      cases entries : list.entries.getD [] with
      | nil => rfl
      | cons entry rest =>
          rw [entries, List.zipIdx_cons] at allocation
          exact absurd allocation (eacl.createRules_allocates applying ruleId _ _ _ _)
    · have ids := restored.aclIds
      cases search : allocatedAclId cls list.listId with
      | some shared =>
          obtain ⟨table, e, member, uid, _⟩ := allocatedAclId_some search
          exact ⟨table, e, member, uid⟩
      | none =>
          obtain ⟨fresh, answer, free⟩ := allocates search
          simp only [ifFresh fresh search answer] at ids
          exact absurd (Finset.insert_eq_self.mp ids) free
  · rintro ⟨noEntries, table, e, member, uid⟩
    obtain ⟨contents, installed⟩ := sound.installed
    have isShared : (allocatedAclId cls list.listId).isSome := by
      rw [Option.isSome_iff_ne_none, ne_eq, allocatedAclId_eq_none]
      intro missing
      exact missing table e member uid
    rw [noEntries] at hw
    have sameHw : (clsAclAdd xdk applying cls list info .egress).2.2.hw = cls.hw := hw
    have again : { (clsAclAdd xdk applying cls list info .egress).2.2 with
        hw := setInterfaceAcl xdk view info true aclId
          (clsAclAdd xdk applying cls list info .egress).2.2.hw } =
        { cls with hw := setInterfaceAcl xdk view info true aclId cls.hw } := by
      simp only [sameHw, sameMaps, ifShared isShared]
    rw [again]
    exact installed.restored (installed.set view info true aclId) rfl
      (fun _ _ _ => rfl) rfl (eacl.setInterfaceAcl_priority view info true aclId cls.hw)

/-- In every state that requests and updates reach, removing a list from the
interface it was just applied on undoes the application exactly when it is
reversible. -/
theorem restored_iff_reversible
    (eacl : EaclModel model)
    (reached : ReachedByEvents model cls)
    (supported : list.supported = true)
    (addressed : Addressed info direction)
    (allocates : AllocatesFresh cls applying list.listId) :
    Restored eacl cls (roundTrip xdk applying removing cls list bundle info direction) ↔
      Reversible cls list bundle info direction := by
  have sound := reached.sound eacl
  obtain ⟨contents, installed⟩ := sound.installed
  cases ready : bundleReady bundle info with
  | false =>
      have same : roundTrip xdk applying removing cls list bundle info direction =
          cls := by
        rw [roundTrip, clsApply_notReady ready, clsRemove_notReady ready]
      rw [same]
      constructor
      · intro _ isReady
        rw [ready] at isReady
        cases isReady
      · intro _
        exact installed.restored installed rfl (fun _ _ _ => rfl) rfl rfl
  | true =>
      have accepted := Bool.and_eq_true_iff.mpr ⟨ready, supported⟩
      rcases addressed.cases with ⟨table, typed⟩ | rfl
      · rw [sound.restored_mapped_iff eacl typed accepted allocates]
        constructor
        · intro counted _
          refine ⟨?_, ?_⟩
          · rintro other otherTyped
            rw [typed] at otherTyped
            cases otherTyped
            exact counted
          · rintro rfl
            cases typed
        · intro reversible
          exact (reversible ready).1 table typed
      · rw [sound.restored_egress_iff eacl accepted allocates]
        constructor
        · intro unallocated _
          exact ⟨nofun, fun _ => unallocated⟩
        · intro reversible
          exact (reversible ready).2 rfl

end Egress

/-! ## Concrete round trips -/

/-- A list comes to a second port and goes. -/
theorem restored_portRun :
    Restored (egressTable indexedModel) (afterRun portRun)
      (roundTrip indexedXdk.withEgress (allocating 8#8) (allocating 8#8)
        (afterRun portRun) firstList (some { ports := [1], l3Intf := none })
        { interface := .port, l3Only := false } .ingress) := by
  refine (restored_iff_reversible (egressTable indexedModel) reached_portRun (by decide)
    ⟨by decide, by decide⟩ (fun _ => ⟨8#8, rfl, by decide⟩)).mpr ?_
  intro _
  refine ⟨?_, nofun⟩
  rintro table ⟨⟩
  decide

/-- For egress the ACL id stays allocated. -/
theorem not_restored_egress :
    ReachedByEvents indexedModel.withEgress (afterRun []) ∧
      firstList.supported = true ∧
      Addressed { interface := .port, l3Only := false } .egress ∧
      AllocatesFresh (afterRun []) (allocating 7#8) firstList.listId ∧
      ¬Restored (egressTable indexedModel) (afterRun [])
        (roundTrip indexedXdk.withEgress (allocating 7#8) (allocating 7#8) (afterRun [])
          firstList (some { ports := [0], l3Intf := none })
          { interface := .port, l3Only := false } .egress) := by
  refine ⟨.start ⟨_, clean_emptyTcam, rfl⟩, by decide, ⟨by decide, by decide⟩,
    fun _ => ⟨7#8, rfl, by decide⟩, ?_⟩
  intro restored
  have same := restored.aclIds
  revert same
  decide

end Classifier
end XpliantSwitchd
