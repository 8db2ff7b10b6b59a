import XpliantSwitchd.Classifier.Ids
import XpliantSwitchd.Lib.Tcam

/-!
# The rules of lists in the TCAM

The rules of an entry go to the TCAM one after the other, with priorities that
decrease along the list, and the same table holds the rules of every list that is
applied in it.  The invariant of this module says what is in each table: the
encodings of the lists of its entries, each carrying the ACL id of its entry, and
nothing else.  It does not need the interface counts to be right.
-/

namespace XpliantSwitchd
namespace Classifier

open Ternary Tcam

/-- The hardware looks at the valid rules only. -/
def ValidRule (rule : IaclkeyFieldList × IaclData) : Prop := rule.1.isValid = true

/-- The key of a rule compares the ACL id with a given one. -/
def Carries (aclId : Byte) (rule : IaclkeyFieldList × IaclData) : Prop :=
  (rule.1.fldList .id).value = [aclId] ∧ (rule.1.fldList .id).mask = [0#8]

variable {Uuid Hw : Type}

/-- What is assumed of the TCAM manager and the TCAM: an allocated entry is a free
one, the map from entries to indices is kept for each table, writes go to their
index, and the port and router settings are something else. -/
structure TcamModel (xdk : Xdk Hw) where
  table : Hw → AclTable → Table (IaclkeyFieldList × IaclData)
  allocates : ∀ hw aclTable priority, ∃ id hw',
    xdk.tcamMgrAllocEntry hw aclTable.aclType priority = (some id, hw') ∧
    Allocates ValidRule (table hw aclTable) (table hw' aclTable) id priority ∧
    ∀ other, other ≠ aclTable → table hw' other = table hw other
  frees : ∀ hw aclTable id, ((table hw aclTable).priority id).isSome →
    Frees ValidRule (table hw aclTable)
      (table (xdk.tcamMgrFreeEntry hw aclTable.aclType id) aclTable) id ∧
    ∀ other, other ≠ aclTable →
      table (xdk.tcamMgrFreeEntry hw aclTable.aclType id) other = table hw other
  locates : ∀ hw aclTable id, ((table hw aclTable).priority id).isSome →
    xdk.tcamMgrTcamIdFromEntryGet hw aclTable.aclType id = (table hw aclTable).place id
  writesKey : ∀ hw aclTable index key,
    table (xdk.iaclWriteKey hw aclTable index key) = Function.update (table hw)
      aclTable ((table hw aclTable).write index
        (key, ((table hw aclTable).rule index).2))
  writesData : ∀ hw aclTable index data,
    table (xdk.iaclWriteData hw aclTable index data) = Function.update (table hw)
      aclTable ((table hw aclTable).write index
        (((table hw aclTable).rule index).1, data))
  setsRouterId : ∀ hw l3Intf aclId,
    table (xdk.l3SetRouterAclId hw l3Intf aclId) = table hw
  setsRouterEnable : ∀ hw l3Intf enable,
    table (xdk.l3SetRouterAclEnable hw l3Intf enable) = table hw
  setsPort : ∀ hw intf field value,
    table (xdk.portSetField hw intf field value) = table hw

/-! ## Encodings -/

theorem ruleOfEntry_valid (zeroCmd : PktCmd) (aclId : Byte) (entry : ListEntry) :
    ValidRule (ruleOfEntry zeroCmd aclId entry) := by
  simp [ValidRule, ruleOfEntry, allocResetFieldData, populateIaclEntires, populateKey]

theorem ruleOfEntry_carries (zeroCmd : PktCmd) (aclId other : Byte)
    (entry : ListEntry) :
    Carries other (ruleOfEntry zeroCmd aclId entry) ↔ other = aclId := by
  have oneByte : KeyField.id.size = 1 := by decide
  simp only [Carries, ruleOfEntry_fldList, IaclkeyField.reset, oneByte, memset]
  simp [eq_comm]

theorem allocResetFieldData_not_valid (zeroCmd : PktCmd) :
    ¬ValidRule (allocResetFieldData zeroCmd) := Bool.false_ne_true

@[simp] theorem table_aclType (aclTable : AclTable) :
    aclTable.aclType.table = some aclTable := by
  cases aclTable <;> rfl

/-! ## The loops over the rules -/

section Loops

variable {xdk : Xdk Hw} (model : TcamModel xdk) {outcome : Outcome}

/-- A rule is written to its table as a whole. -/
theorem TcamModel.writeRule_table
    (hw : Hw) (aclTable : AclTable) (index : Nat)
    (rule : IaclkeyFieldList × IaclData) :
    model.table (writeRule xdk aclTable.aclType index rule hw) =
      Function.update (model.table hw) aclTable
        ((model.table hw aclTable).write index rule) := by
  unfold writeRule
  rw [table_aclType]
  simp only [model.writesData, model.writesKey, Function.update_self,
    Function.update_idem]
  congr 1
  simp [Table.write]

/-- The entries of the TCAM manager for rules and list entries from a position
on, with their priorities and encodings. -/
def installedFrom (zeroCmd : PktCmd) (aclId : Byte) (numEntries first : Nat)
    (rules : List AclRule) (entries : List ListEntry) :
    List (Nat × Nat × IaclkeyFieldList × IaclData) :=
  ((rules.zip entries).zipIdx first).map fun item =>
    (item.1.1.ruleId, numEntries - item.2, ruleOfEntry zeroCmd aclId item.1.2)

/-- A table has the rules of a list of items, and keeps them apart. -/
structure Holds (hw : Hw) (aclTable : AclTable)
    (items : List (Nat × Nat × IaclkeyFieldList × IaclData)) : Prop where
  tidy : (model.table hw aclTable).Tidy ValidRule
  represents : Represents (model.table hw aclTable).view items

variable {model}

theorem Holds.allocated
    {hw : Hw} {aclTable : AclTable} {id : Nat}
    {item : Nat × IaclkeyFieldList × IaclData}
    {items : List (Nat × Nat × IaclkeyFieldList × IaclData)}
    (holds : Holds model hw aclTable items)
    (member : (id, item) ∈ items) :
    ∃ index, (model.table hw aclTable).priority id = some item.1 ∧
      (model.table hw aclTable).place id = some index := by
  obtain ⟨index, allocated, place, _⟩ :=
    Table.view_eq_some.mp ((holds.represents.exact id item).mpr member)
  exact ⟨index, allocated, place⟩

/-- One round of the loop that creates rules. -/
theorem Holds.createRule
    {hw : Hw} {aclTable : AclTable}
    {items : List (Nat × Nat × IaclkeyFieldList × IaclData)}
    (holds : Holds model hw aclTable items)
    (aclId : Byte) (numEntries : Nat) (rules : List AclRule) (entry : ListEntry)
    (i : Nat) :
    ∃ rule hw', createRule xdk outcome aclTable.aclType aclId numEntries (rules, hw)
        (entry, i) = (rules ++ [rule], hw') ∧
      Holds model hw' aclTable ((rule.ruleId, numEntries - i,
        ruleOfEntry xdk.zeroCmd aclId entry) :: items) ∧
      ∀ other, other ≠ aclTable → model.table hw' other = model.table hw other := by
  obtain ⟨id, hw₁, answer, allocates, sameOthers⟩ :=
    model.allocates hw aclTable (numEntries - i)
  have allocated : (model.table hw₁ aclTable).priority id = some (numEntries - i) := by
    rw [allocates.priorities, Function.update_self]
  have isAllocated : ((model.table hw₁ aclTable).priority id).isSome := by
    simp [allocated]
  obtain ⟨index, place⟩ :=
    Option.isSome_iff_exists.mp (allocates.moves.placed id isAllocated)
  have located : xdk.tcamMgrTcamIdFromEntryGet hw₁ aclTable.aclType id = some index := by
    rw [model.locates hw₁ aclTable id isAllocated, place]
  have written := model.writeRule_table hw₁ aclTable index
    (ruleOfEntry xdk.zeroCmd aclId entry)
  obtain ⟨tidy, view⟩ := allocates.install holds.tidy place
    (ruleOfEntry xdk.zeroCmd aclId entry)
  have free : (model.table hw aclTable).view id = none :=
    Table.view_of_free allocates.fresh
  refine ⟨{ ruleId := id, counterEn := entry.entryActions.count, count := 0 },
    writeRule xdk aclTable.aclType index (ruleOfEntry xdk.zeroCmd aclId entry) hw₁, ?_,
    ⟨?_, ?_⟩, ?_⟩
  · simp only [Classifier.createRule, answer, located, Option.getD_some]
  · rw [written, Function.update_self]
    exact tidy
  · rw [written, Function.update_self, view]
    exact holds.represents.cons free _
  · intro other different
    rw [written, Function.update_of_ne different]
    exact sameOthers other different

/-- The loop that creates rules installs the encodings of the entries. -/
theorem Holds.createRules
    {aclTable : AclTable} (aclId : Byte) (numEntries : Nat) (entries : List ListEntry)
    {hw : Hw} {items : List (Nat × Nat × IaclkeyFieldList × IaclData)}
    (holds : Holds model hw aclTable items)
    (first : Nat) (done : List AclRule) :
    ∃ rules hw', (entries.zipIdx first).foldl
        (Classifier.createRule xdk outcome aclTable.aclType aclId numEntries)
        (done, hw) = (done ++ rules, hw') ∧
      rules.length = entries.length ∧
      Holds model hw' aclTable (installedFrom xdk.zeroCmd aclId numEntries first rules
        entries ++ items) ∧
      ∀ other, other ≠ aclTable → model.table hw' other = model.table hw other := by
  induction entries generalizing hw items first done with
  | nil => exact ⟨[], hw, by simp, rfl, holds, fun _ _ => rfl⟩
  | cons entry entries inductionHypothesis =>
      obtain ⟨rule, hw₁, round, installed, sameOthers⟩ :=
        @Holds.createRule Hw xdk model outcome hw aclTable items holds aclId numEntries
          done entry first
      obtain ⟨rules, hw₂, rest, length, restInstalled, restOthers⟩ :=
        inductionHypothesis installed (first + 1) (done ++ [rule])
      refine ⟨rule :: rules, hw₂, ?_, by simp [length], ⟨restInstalled.tidy, ?_⟩, ?_⟩
      · rw [List.zipIdx_cons, List.foldl_cons, round, rest]
        simp
      · refine restInstalled.represents.perm ?_
        simp only [installedFrom, List.zip_cons_cons, List.zipIdx_cons, List.map_cons,
          List.cons_append]
        exact (List.perm_middle).symm
      · intro other different
        rw [restOthers other different, sameOthers other different]

/-- The loop that destroys rules uninstalls the rules of its entries. -/
theorem Holds.destroyRules
    {aclTable : AclTable}
    {own items : List (Nat × Nat × IaclkeyFieldList × IaclData)}
    {rules : List AclRule} {hw : Hw}
    (holds : Holds model hw aclTable (own ++ items))
    (ruleIds : own.map (·.1) = rules.map (·.ruleId)) :
    Holds model (rules.foldl (destroyRule xdk outcome aclTable.aclType) hw) aclTable
      items ∧
    ∀ other, other ≠ aclTable →
      model.table (rules.foldl (destroyRule xdk outcome aclTable.aclType) hw) other =
        model.table hw other := by
  induction rules generalizing own hw with
  | nil =>
      have noOwn : own = [] := by simpa using ruleIds
      subst noOwn
      exact ⟨holds, fun _ _ => rfl⟩
  | cons rule rules inductionHypothesis =>
      cases own with
      | nil => simp at ruleIds
      | cons head own =>
          obtain ⟨id, item⟩ := head
          simp only [List.map_cons, List.cons.injEq] at ruleIds
          obtain ⟨sameId, restIds⟩ := ruleIds
          obtain ⟨index, allocated, place⟩ :=
            holds.allocated (List.mem_cons_self ..)
          have isAllocated : ((model.table hw aclTable).priority id).isSome := by
            simp [allocated]
          have located : xdk.tcamMgrTcamIdFromEntryGet hw aclTable.aclType
              rule.ruleId = some index := by
            rw [← sameId, model.locates hw aclTable id isAllocated, place]
          have written := model.writeRule_table hw aclTable index
            (allocResetFieldData xdk.zeroCmd)
          have stillAllocated : ((model.table (writeRule xdk aclTable.aclType index
              (allocResetFieldData xdk.zeroCmd) hw) aclTable).priority id).isSome := by
            rw [written, Function.update_self]
            exact isAllocated
          obtain ⟨frees, sameOthers⟩ := model.frees _ aclTable id stillAllocated
          rw [written, Function.update_self] at frees
          obtain ⟨tidy, view⟩ := frees.uninstall holds.tidy isAllocated place
            (allocResetFieldData_not_valid xdk.zeroCmd)
          have round : destroyRule xdk outcome aclTable.aclType hw rule =
              xdk.tcamMgrFreeEntry (writeRule xdk aclTable.aclType index
                (allocResetFieldData xdk.zeroCmd) hw) aclTable.aclType id := by
            simp only [destroyRule, located, Option.getD_some, sameId]
          have represents := holds.represents.tail
          rw [← view] at represents
          have remaining : Holds model (destroyRule xdk outcome aclTable.aclType hw rule)
              aclTable (own ++ items) := by
            rw [round]
            exact ⟨tidy, represents⟩
          obtain ⟨rest, restOthers⟩ := inductionHypothesis remaining restIds
          refine ⟨rest, ?_⟩
          intro other different
          rw [List.foldl_cons, restOthers other different, round,
            sameOthers other different, written, Function.update_of_ne different]

/-- A table that did not change. -/
theorem Holds.congr
    {hw hw' : Hw} {aclTable : AclTable}
    {items : List (Nat × Nat × IaclkeyFieldList × IaclData)}
    (holds : Holds model hw aclTable items)
    (same : model.table hw' aclTable = model.table hw aclTable) :
    Holds model hw' aclTable items := by
  refine ⟨?_, ?_⟩
  · rw [same]
    exact holds.tidy
  · rw [same]
    exact holds.represents

/-- The allocated entries are those of the items. -/
theorem Holds.allocated_iff
    {hw : Hw} {aclTable : AclTable}
    {items : List (Nat × Nat × IaclkeyFieldList × IaclData)}
    (holds : Holds model hw aclTable items)
    (id : Nat) :
    ((model.table hw aclTable).priority id).isSome ↔ id ∈ items.map (·.1) := by
  constructor
  · intro isAllocated
    obtain ⟨priority, allocated⟩ := Option.isSome_iff_exists.mp isAllocated
    obtain ⟨index, place⟩ :=
      Option.isSome_iff_exists.mp (holds.tidy.placed id isAllocated)
    have member := (holds.represents.exact id _).mp
      (Table.view_of_place allocated place)
    exact List.mem_map.mpr ⟨_, member, rfl⟩
  · intro member
    obtain ⟨⟨_, item⟩, itemMember, rfl⟩ := List.mem_map.mp member
    obtain ⟨_, allocated, _⟩ := holds.allocated itemMember
    simp [allocated]

/-- Settings of ports and router interfaces leave the tables alone. -/
theorem TcamModel.setInterfaceAcl_table
    (bundle : BundleView) (info : InterfaceInfo) (enable : Bool) (aclId : Byte)
    (hw : Hw) :
    model.table (setInterfaceAcl xdk bundle info enable aclId hw) =
      model.table hw := by
  unfold setInterfaceAcl
  split
  · split
    · rw [model.setsRouterEnable, model.setsRouterId]
    · rfl
  · induction bundle.ports generalizing hw with
    | nil => rfl
    | cons intf ports inductionHypothesis =>
        rw [List.foldl_cons, inductionHypothesis, model.setsPort, model.setsPort]
  · rfl

end Loops

/-! ## The contents of the tables -/

/-- The items of rules and entries from a position on belong to the rules. -/
theorem installedFrom_ids
    {zeroCmd : PktCmd} {aclId : Byte} {numEntries first : Nat}
    {rules : List AclRule} {entries : List ListEntry}
    (complete : rules.length = entries.length) :
    (installedFrom zeroCmd aclId numEntries first rules entries).map (·.1) =
      rules.map (·.ruleId) := by
  have unnumbered := List.zipIdx_map_fst first (rules.zip entries)
  have paired := List.map_fst_zip (Nat.le_of_eq complete)
  rw [← unnumbered, List.map_map] at paired
  conv_rhs => rw [← paired]
  simp [installedFrom]

/-- The items encode the entries. -/
theorem installedFrom_rules
    {zeroCmd : PktCmd} {aclId : Byte} {numEntries first : Nat}
    {rules : List AclRule} {entries : List ListEntry}
    (complete : rules.length = entries.length) :
    (installedFrom zeroCmd aclId numEntries first rules entries).map (·.2.2) =
      entries.map (ruleOfEntry zeroCmd aclId) := by
  have unnumbered := List.zipIdx_map_fst first (rules.zip entries)
  have paired := List.map_snd_zip (Nat.le_of_eq complete.symm)
  rw [← unnumbered, List.map_map] at paired
  conv_rhs => rw [← paired]
  simp [installedFrom]

theorem mem_installedFrom
    {zeroCmd : PktCmd} {aclId : Byte} {numEntries first : Nat}
    {rules : List AclRule} {entries : List ListEntry}
    {item : Nat × Nat × IaclkeyFieldList × IaclData}
    (member : item ∈ installedFrom zeroCmd aclId numEntries first rules entries) :
    ∃ entry ∈ entries, item.2.2 = ruleOfEntry zeroCmd aclId entry := by
  obtain ⟨⟨⟨rule, entry⟩, i⟩, zipped, rfl⟩ := List.mem_map.mp member
  have paired : (rule, entry) ∈ rules.zip entries := List.fst_mem_of_mem_zipIdx zipped
  exact ⟨entry, (List.of_mem_zip paired).2, rfl⟩

/-- The entries of the TCAM manager for an entry of a map and its contents. -/
def AclEntry.itemsOf (zeroCmd : PktCmd) (e : AclEntry Uuid)
    (entries : List ListEntry) : List (Nat × Nat × IaclkeyFieldList × IaclData) :=
  installedFrom zeroCmd e.aclId entries.length 0 e.ruleList entries

/-- The tables hold the contents of the entries of the maps, and nothing else.  The
contents of one list may differ from table to table. -/
structure Installed (contents : AclTable → Uuid → List ListEntry) {xdk : Xdk Hw}
    (model : TcamModel xdk) (cls : Cls Uuid Hw) : Prop where
  typed : ∀ table, ∀ e ∈ cls.classifierHmap table,
    clsGetType e.intfInfo e.clsDirection = table.aclType
  complete : ∀ table, ∀ e ∈ cls.classifierHmap table,
    e.ruleList.length = (contents table e.listUid).length
  holds : ∀ table, Holds model cls.hw table ((cls.classifierHmap table).flatMap
    fun e => e.itemsOf xdk.zeroCmd (contents table e.listUid))

section Contents

variable (zeroCmd : PktCmd) (lists : Uuid → Option (List ListEntry))

/-- The entries of the list that an entry of a map stands for. -/
def AclEntry.listed (e : AclEntry Uuid) : List ListEntry :=
  (lists e.listUid).getD []

/-- The entries of the TCAM manager for an entry of a map. -/
def AclEntry.items (e : AclEntry Uuid) :
    List (Nat × Nat × IaclkeyFieldList × IaclData) :=
  installedFrom zeroCmd e.aclId (e.listed lists).length 0 e.ruleList (e.listed lists)

/-- The tables hold the lists of the entries of the maps, and nothing else. -/
structure TcamInv {xdk : Xdk Hw} (model : TcamModel xdk) (cls : Cls Uuid Hw) :
    Prop where
  typed : ∀ table, ∀ e ∈ cls.classifierHmap table,
    clsGetType e.intfInfo e.clsDirection = table.aclType
  complete : ∀ table, ∀ e ∈ cls.classifierHmap table,
    e.ruleList.length = (e.listed lists).length
  holds : ∀ table, Holds model cls.hw table
    ((cls.classifierHmap table).flatMap (·.items xdk.zeroCmd lists))

end Contents

theorem tcamInv_iff_installed {xdk : Xdk Hw}
    {lists : Uuid → Option (List ListEntry)} {model : TcamModel xdk}
    {cls : Cls Uuid Hw} :
    TcamInv lists model cls ↔
      Installed (fun _ listUid => (lists listUid).getD []) model cls := by
  constructor
  · intro inv
    exact ⟨inv.typed, inv.complete, inv.holds⟩
  · intro installed
    exact ⟨installed.typed, installed.complete, installed.holds⟩

section Changes

variable [DecidableEq Uuid] {xdk : Xdk Hw} {model : TcamModel xdk} {outcome : Outcome}
  {contents : AclTable → Uuid → List ListEntry} {cls : Cls Uuid Hw}

omit [DecidableEq Uuid] in
/-- Only the tables of the hardware matter. -/
theorem Installed.setHw
    {hw : Hw} {aclIds : Finset Byte}
    (installed : Installed contents model cls)
    (sameTables : model.table hw = model.table cls.hw) :
    Installed contents model { cls with aclIds := aclIds, hw := hw } := by
  refine ⟨installed.typed, installed.complete, ?_⟩
  intro table
  exact (installed.holds table).congr (by rw [sameTables])

omit [DecidableEq Uuid] in
/-- Settings of interfaces do not touch the tables. -/
theorem Installed.set
    (installed : Installed contents model cls)
    (bundle : BundleView) (info : InterfaceInfo) (enable : Bool) (aclId : Byte) :
    Installed contents model
      { cls with hw := setInterfaceAcl xdk bundle info enable aclId cls.hw } :=
  installed.setHw (model.setInterfaceAcl_table bundle info enable aclId cls.hw)

/-- The tables do not depend on the counts. -/
theorem Installed.adjust
    (installed : Installed contents model cls)
    (table : AclTable) (listId : Uuid) (change : UInt16 → UInt16) :
    Installed contents model (adjustIntfs cls table listId change) := by
  refine ⟨?_, ?_, ?_⟩
  · intro other e member
    obtain ⟨old, oldMember, rfl⟩ := mem_adjustIntfs.mp member
    have oldTyped := installed.typed other old oldMember
    split <;> exact oldTyped
  · intro other e member
    obtain ⟨old, oldMember, rfl⟩ := mem_adjustIntfs.mp member
    have oldComplete := installed.complete other old oldMember
    split <;> exact oldComplete
  · intro other
    have sameItems : ((adjustIntfs cls table listId change).classifierHmap
        other).flatMap (fun e => e.itemsOf xdk.zeroCmd (contents other e.listUid)) =
        (cls.classifierHmap other).flatMap
          (fun e => e.itemsOf xdk.zeroCmd (contents other e.listUid)) := by
      rw [adjustIntfs_hmap]
      split
      · rw [List.flatMap_def, List.flatMap_def,
          KeyedList.map_rewrite (by intro _ _ _; rfl)]
      · rfl
    rw [sameItems]
    exact installed.holds other

omit [DecidableEq Uuid] in
/-- Only the contents of present entries matter. -/
theorem Installed.congr
    {contents' : AclTable → Uuid → List ListEntry}
    (installed : Installed contents model cls)
    (same : ∀ table, ∀ e ∈ cls.classifierHmap table,
      contents' table e.listUid = contents table e.listUid) :
    Installed contents' model cls := by
  refine ⟨installed.typed, ?_, ?_⟩
  · intro table e member
    rw [same table e member]
    exact installed.complete table e member
  · intro table
    have sameItems : (cls.classifierHmap table).flatMap
          (fun e => e.itemsOf xdk.zeroCmd (contents' table e.listUid)) =
        (cls.classifierHmap table).flatMap
          (fun e => e.itemsOf xdk.zeroCmd (contents table e.listUid)) := by
      refine List.flatMap_congr ?_
      intro e member
      rw [same table e member]
    rw [sameItems]
    exact installed.holds table

theorem aclType_of_table
    {aclType : AclType} {table : AclTable}
    (typed : aclType.table = some table) : aclType = table.aclType := by
  cases aclType <;> cases typed <;> rfl

/-- The rules that `ops_xp_cls_acl_add` creates. -/
theorem clsAclAdd_rules
    (xdk : Xdk Hw) (outcome : Outcome) (cls : Cls Uuid Hw) (list : ClsList Uuid)
    (info : InterfaceInfo) (direction : Direction) :
    (clsAclAdd xdk outcome cls list info direction).2.1.intfInfo = info ∧
    (clsAclAdd xdk outcome cls list info direction).2.1.clsDirection = direction ∧
    ((clsAclAdd xdk outcome cls list info direction).2.1.ruleList,
      (clsAclAdd xdk outcome cls list info direction).2.2.hw) =
      (list.entries.getD []).zipIdx.foldl (createRule xdk outcome
        (clsGetType info direction)
        (clsAclAdd xdk outcome cls list info direction).2.1.aclId
        (list.entries.getD []).length) ([], cls.hw) := by
  unfold clsAclAdd
  cases list.entries with
  | none => exact ⟨rfl, rfl, rfl⟩
  | some entries => exact ⟨rfl, rfl, rfl⟩

/-- `ops_xp_cls_acl_add` installs the list in its table. -/
theorem Installed.aclAdd
    {list : ClsList Uuid} {info : InterfaceInfo} {direction : Direction}
    {table : AclTable}
    (installed : Installed contents model cls)
    (typed : (clsGetType info direction).table = some table)
    (known : contents table list.listId = list.entries.getD []) :
    Installed contents model (clsAclAdd xdk outcome cls list info direction).2.2 := by
  obtain ⟨e, aclIds, hw, result, uid, _, _, _⟩ :=
    clsAclAdd_spec xdk outcome cls list typed
  obtain ⟨sameInfo, sameDirection, created⟩ :=
    clsAclAdd_rules xdk outcome cls list info direction
  rw [result] at sameInfo sameDirection created ⊢
  simp only at sameInfo sameDirection created
  rw [← uid] at known
  rw [aclType_of_table typed, ← known] at created
  obtain ⟨rules, hw', loop, complete, created', sameOthers⟩ :=
    @Holds.createRules Hw xdk model outcome table e.aclId
      (contents table e.listUid).length (contents table e.listUid) cls.hw _
      (installed.holds table) 0 []
  rw [loop, List.nil_append] at created
  obtain ⟨sameRules, sameHw⟩ := Prod.mk.inj created
  subst sameHw
  rw [← sameRules] at complete created'
  refine ⟨?_, ?_, ?_⟩
  · intro other x member
    rcases mem_cons_hmap.mp member with ⟨rfl, rfl⟩ | older
    · rw [sameInfo, sameDirection, aclType_of_table typed]
    · exact installed.typed other x older
  · intro other x member
    rcases mem_cons_hmap.mp member with ⟨rfl, rfl⟩ | older
    · exact complete
    · exact installed.complete other x older
  · intro other
    by_cases same : other = table
    · subst same
      simp only [Function.update_self, List.flatMap_cons]
      exact created'
    · simp only [Function.update_of_ne same]
      exact (installed.holds other).congr (sameOthers other same)

theorem clsAclDelete_hw
    (xdk : Xdk Hw) (outcome : Outcome) (cls : Cls Uuid Hw) (e : AclEntry Uuid)
    (table : AclTable) :
    (clsAclDelete xdk outcome cls e table).hw =
      clsDestroyRuleEntryList xdk outcome e cls.hw := by
  unfold clsAclDelete
  simp only
  split <;> rfl

omit [DecidableEq Uuid] in
/-- The items of an entry of a map belong to its rules. -/
theorem Installed.itemsOf_ids
    {e : AclEntry Uuid} {table : AclTable}
    (installed : Installed contents model cls)
    (member : e ∈ cls.classifierHmap table) :
    (e.itemsOf xdk.zeroCmd (contents table e.listUid)).map (·.1) =
      e.ruleList.map (·.ruleId) :=
  installedFrom_ids (installed.complete table e member)

/-- The items of one entry come first. -/
theorem Installed.holds_first
    {e : AclEntry Uuid} {table : AclTable}
    (installed : Installed contents model cls)
    (uuidOnce : ((cls.classifierHmap table).map (·.listUid)).Nodup)
    (member : e ∈ cls.classifierHmap table) :
    Holds model cls.hw table (e.itemsOf xdk.zeroCmd (contents table e.listUid) ++
      (KeyedList.remove (·.listUid) e.listUid (cls.classifierHmap table)).flatMap
        fun e => e.itemsOf xdk.zeroCmd (contents table e.listUid)) := by
  have reordered := (KeyedList.perm_cons_remove uuidOnce member rfl).flatMap_right
    fun e => e.itemsOf xdk.zeroCmd (contents table e.listUid)
  rw [List.flatMap_cons] at reordered
  exact ⟨(installed.holds table).tidy,
    (installed.holds table).represents.perm reordered.symm⟩

/-- `ops_xp_cls_acl_delete` takes the list out of its table. -/
theorem Installed.aclDelete
    {e present : AclEntry Uuid} {table : AclTable}
    (installed : Installed contents model cls)
    (uuidOnce : ((cls.classifierHmap table).map (·.listUid)).Nodup)
    (member : present ∈ cls.classifierHmap table)
    (sameEntry : { e with numIntfs := present.numIntfs } = present) :
    Installed contents model (clsAclDelete xdk outcome cls e table) := by
  have hmap := clsAclDelete_hmap xdk outcome cls e table
  have hw : (clsAclDelete xdk outcome cls e table).hw =
      clsDestroyRuleEntryList xdk outcome present cls.hw := by
    rw [clsAclDelete_hw, ← sameEntry]
    rfl
  have sameUid : present.listUid = e.listUid := by rw [← sameEntry]
  have destroyed := @Holds.destroyRules Hw xdk model outcome table _ _
    present.ruleList cls.hw (installed.holds_first uuidOnce member)
    (installed.itemsOf_ids member)
  rw [← installed.typed table present member, sameUid] at destroyed
  refine ⟨?_, ?_, ?_⟩
  · intro other x xMember
    exact installed.typed other x (mem_clsAclDelete xMember).1
  · intro other x xMember
    exact installed.complete other x (mem_clsAclDelete xMember).1
  · intro other
    rw [hw, hmap]
    by_cases same : other = table
    · subst same
      simp only [hmapWithout, Function.update_self]
      exact destroyed.1
    · simp only [hmapWithout, Function.update_of_ne same]
      exact (installed.holds other).congr (destroyed.2 other same)

/-! With a fixed list for each uuid the contents are those of the lists. -/

variable {lists : Uuid → Option (List ListEntry)}

omit [DecidableEq Uuid] in
theorem TcamInv.set
    (inv : TcamInv lists model cls)
    (bundle : BundleView) (info : InterfaceInfo) (enable : Bool) (aclId : Byte) :
    TcamInv lists model
      { cls with hw := setInterfaceAcl xdk bundle info enable aclId cls.hw } :=
  tcamInv_iff_installed.mpr
    ((tcamInv_iff_installed.mp inv).set bundle info enable aclId)

theorem TcamInv.adjust
    (inv : TcamInv lists model cls)
    (table : AclTable) (listId : Uuid) (change : UInt16 → UInt16) :
    TcamInv lists model (adjustIntfs cls table listId change) :=
  tcamInv_iff_installed.mpr ((tcamInv_iff_installed.mp inv).adjust table listId change)

theorem TcamInv.aclAdd
    {list : ClsList Uuid} {info : InterfaceInfo} {direction : Direction}
    {table : AclTable}
    (inv : TcamInv lists model cls)
    (typed : (clsGetType info direction).table = some table)
    (known : lists list.listId = list.entries) :
    TcamInv lists model (clsAclAdd xdk outcome cls list info direction).2.2 :=
  tcamInv_iff_installed.mpr
    ((tcamInv_iff_installed.mp inv).aclAdd typed (by simp only [known]))

theorem TcamInv.aclDelete
    {e present : AclEntry Uuid} {table : AclTable}
    (inv : TcamInv lists model cls)
    (maps : MapsInv cls)
    (member : present ∈ cls.classifierHmap table)
    (sameEntry : { e with numIntfs := present.numIntfs } = present) :
    TcamInv lists model (clsAclDelete xdk outcome cls e table) :=
  tcamInv_iff_installed.mpr ((tcamInv_iff_installed.mp inv).aclDelete
    (maps.uuidOnce table) member sameEntry)

end Changes

/-! ## What a request is made of -/

section Requests

variable [DecidableEq Uuid] {xdk : Xdk Hw} {outcome : Outcome}
  {lists : Uuid → Option (List ListEntry)} {cls : Cls Uuid Hw}

/-- What a request does before it deletes an entry: it sets interfaces, adjusts
counts and adds entries. -/
inductive Grows (xdk : Xdk Hw) (outcome : Outcome)
    (lists : Uuid → Option (List ListEntry)) (cls : Cls Uuid Hw) :
    Cls Uuid Hw → Prop
  | start : Grows xdk outcome lists cls cls
  | set {grown : Cls Uuid Hw} (bundle : BundleView) (info : InterfaceInfo)
      (enable : Bool) (aclId : Byte) : Grows xdk outcome lists cls grown →
      Grows xdk outcome lists cls
        { grown with hw := setInterfaceAcl xdk bundle info enable aclId grown.hw }
  | adjust {grown : Cls Uuid Hw} (table : AclTable) (listId : Uuid)
      (change : UInt16 → UInt16) : Grows xdk outcome lists cls grown →
      Grows xdk outcome lists cls (adjustIntfs grown table listId change)
  | add {grown : Cls Uuid Hw} {list : ClsList Uuid} {info : InterfaceInfo}
      {direction : Direction} {table : AclTable} :
      Grows xdk outcome lists cls grown →
      (clsGetType info direction).table = some table →
      lists list.listId = list.entries →
      AllocatesFresh grown outcome list.listId →
      (∀ e ∈ grown.classifierHmap table, e.listUid ≠ list.listId) →
      Grows xdk outcome lists cls (clsAclAdd xdk outcome grown list info direction).2.2

/-- A request may delete an entry of a table at its end. -/
inductive Ends (xdk : Xdk Hw) (outcome : Outcome) (grown : Cls Uuid Hw) :
    Cls Uuid Hw → Prop
  | keep : Ends xdk outcome grown grown
  | delete {e present : AclEntry Uuid} {table : AclTable} :
      present ∈ grown.classifierHmap table →
      { e with numIntfs := present.numIntfs } = present →
      Ends xdk outcome grown (clsAclDelete xdk outcome grown e table)

theorem Grows.maps
    {grown : Cls Uuid Hw}
    (grows : Grows xdk outcome lists cls grown)
    (maps : MapsInv cls) : MapsInv grown := by
  induction grows with
  | start => exact maps
  | set _ _ _ _ _ inductionHypothesis => exact inductionHypothesis.setHw _
  | adjust table listId change _ inductionHypothesis =>
      exact inductionHypothesis.adjust table listId change
  | add _ typed _ allocates missing inductionHypothesis =>
      exact inductionHypothesis.aclAdd xdk typed allocates missing

theorem Grows.tcam
    {model : TcamModel xdk} {grown : Cls Uuid Hw}
    (grows : Grows xdk outcome lists cls grown)
    (inv : TcamInv lists model cls) : TcamInv lists model grown := by
  induction grows with
  | start => exact inv
  | set bundle info enable aclId _ inductionHypothesis =>
      exact inductionHypothesis.set bundle info enable aclId
  | adjust table listId change _ inductionHypothesis =>
      exact inductionHypothesis.adjust table listId change
  | add _ typed known _ _ inductionHypothesis =>
      exact inductionHypothesis.aclAdd typed known

/-- No entry is lost and none changes its ACL id. -/
theorem Grows.persists
    {grown : Cls Uuid Hw}
    (grows : Grows xdk outcome lists cls grown)
    {table : AclTable} {e : AclEntry Uuid}
    (member : e ∈ cls.classifierHmap table) :
    ∃ x ∈ grown.classifierHmap table, x.aclId = e.aclId ∧ x.listUid = e.listUid := by
  induction grows with
  | start => exact ⟨e, member, rfl, rfl⟩
  | set _ _ _ _ _ inductionHypothesis => exact inductionHypothesis
  | adjust _ _ _ _ inductionHypothesis =>
      obtain ⟨old, oldMember, sameId, sameUid⟩ := inductionHypothesis
      obtain ⟨x, xMember, xId, xUid⟩ := adjusted_of_mem oldMember
      exact ⟨x, xMember, xId.trans sameId, xUid.trans sameUid⟩
  | @add grown list info direction _ _ typed _ _ _ inductionHypothesis =>
      obtain ⟨old, oldMember, same⟩ := inductionHypothesis
      obtain ⟨new, aclIds, hw, result, _⟩ :=
        clsAclAdd_spec xdk outcome grown list typed
      rw [result]
      exact ⟨old, mem_cons_hmap.mpr (.inr oldMember), same⟩

/-- The entry for a list is found or made. -/
theorem Grows.finds
    {start found : Cls Uuid Hw} {e : AclEntry Uuid} {list : ClsList Uuid}
    {info : InterfaceInfo} {direction : Direction} {table : AclTable}
    (grows : Grows xdk outcome lists start cls)
    (typed : (clsGetType info direction).table = some table)
    (known : lists list.listId = list.entries)
    (allocates : AllocatesFresh cls outcome list.listId)
    (finds : Finds xdk outcome cls list info direction table e found) :
    Grows xdk outcome lists start found := by
  cases finds with
  | present _ _ => exact grows
  | added missing => exact .add grows typed known allocates missing

theorem Ends.inv
    {model : TcamModel xdk} {grown after : Cls Uuid Hw}
    (ends : Ends xdk outcome grown after)
    (maps : MapsInv grown)
    (inv : TcamInv lists model grown) :
    MapsInv after ∧ TcamInv lists model after := by
  cases ends with
  | keep => exact ⟨maps, inv⟩
  | delete member sameEntry =>
      refine ⟨maps.aclDelete member ?_ ?_, inv.aclDelete maps member sameEntry⟩
      · rw [← sameEntry]
      · rw [← sameEntry]

/-- Deleting adds no entry. -/
theorem Ends.mem
    {grown after : Cls Uuid Hw} {table : AclTable} {e : AclEntry Uuid}
    (ends : Ends xdk outcome grown after)
    (member : e ∈ after.classifierHmap table) : e ∈ grown.classifierHmap table := by
  cases ends with
  | keep => exact member
  | delete _ _ => exact (mem_clsAclDelete member).1

end Requests

/-! ## Owners of TCAM entries -/

section Owners

variable {xdk : Xdk Hw} {model : TcamModel xdk}
  {contents : AclTable → Uuid → List ListEntry} {cls : Cls Uuid Hw}
  {table : AclTable}

/-- The allocated TCAM entries are those of the entries of the map. -/
theorem Installed.allocated_iff
    (installed : Installed contents model cls)
    (table : AclTable) (id : Nat) :
    ((model.table cls.hw table).priority id).isSome ↔
      ∃ e ∈ cls.classifierHmap table, ∃ rule ∈ e.ruleList, rule.ruleId = id := by
  rw [(installed.holds table).allocated_iff id, List.map_flatMap, List.mem_flatMap]
  constructor
  · rintro ⟨e, member, owns⟩
    rw [installed.itemsOf_ids member] at owns
    exact ⟨e, member, List.mem_map.mp owns⟩
  · rintro ⟨e, member, owns⟩
    refine ⟨e, member, ?_⟩
    rw [installed.itemsOf_ids member]
    exact List.mem_map.mpr owns

/-- A TCAM entry has a rule with the ACL id of its owner. -/
theorem Installed.carried
    {e : AclEntry Uuid} {rule : AclRule}
    (installed : Installed contents model cls)
    (member : e ∈ cls.classifierHmap table)
    (owns : rule ∈ e.ruleList) :
    ∃ item, (model.table cls.hw table).view rule.ruleId = some item ∧
      ∀ aclId, Carries aclId item.2 ↔ aclId = e.aclId := by
  have owned : rule.ruleId ∈
      (e.itemsOf xdk.zeroCmd (contents table e.listUid)).map (·.1) := by
    rw [installed.itemsOf_ids member]
    exact List.mem_map.mpr ⟨rule, owns, rfl⟩
  obtain ⟨⟨id, item⟩, itemMember, sameId⟩ := List.mem_map.mp owned
  subst sameId
  obtain ⟨entry, _, encoded⟩ := mem_installedFrom itemMember
  refine ⟨item, ?_, ?_⟩
  · refine ((installed.holds table).represents.exact _ item).mpr ?_
    exact List.mem_flatMap.mpr ⟨e, member, itemMember⟩
  · intro aclId
    rw [encoded]
    exact ruleOfEntry_carries xdk.zeroCmd e.aclId aclId entry

/-- A valid rule belongs to a rule of an entry of the map, whose ACL id it
carries. -/
theorem Installed.owner_of_valid
    {index : Nat}
    (installed : Installed contents model cls)
    (valid : ValidRule ((model.table cls.hw table).rule index)) :
    ∃ e ∈ cls.classifierHmap table, (∃ rule ∈ e.ruleList,
        (model.table cls.hw table).place rule.ruleId = some index) ∧
      ∀ aclId, Carries aclId ((model.table cls.hw table).rule index) ↔
        aclId = e.aclId := by
  obtain ⟨id, isAllocated, place⟩ := (installed.holds table).tidy.owned index valid
  obtain ⟨priority, allocated⟩ := Option.isSome_iff_exists.mp isAllocated
  obtain ⟨e, member, rule, owns, rfl⟩ := (installed.allocated_iff table id).mp isAllocated
  obtain ⟨item, view, carries⟩ := installed.carried member owns
  rw [Table.view_of_place allocated place] at view
  cases view
  exact ⟨e, member, ⟨rule, owns, place⟩, carries⟩

variable {lists : Uuid → Option (List ListEntry)}

theorem TcamInv.allocated_iff
    (inv : TcamInv lists model cls)
    (table : AclTable) (id : Nat) :
    ((model.table cls.hw table).priority id).isSome ↔
      ∃ e ∈ cls.classifierHmap table, ∃ rule ∈ e.ruleList, rule.ruleId = id :=
  (tcamInv_iff_installed.mp inv).allocated_iff table id

/-- Owners of one TCAM entry have one ACL id. -/
theorem TcamInv.aclId_of_shared
    {e other : AclEntry Uuid} {rule otherRule : AclRule}
    (inv : TcamInv lists model cls)
    (member : e ∈ cls.classifierHmap table)
    (owns : rule ∈ e.ruleList)
    (otherMember : other ∈ cls.classifierHmap table)
    (otherOwns : otherRule ∈ other.ruleList)
    (shared : rule.ruleId = otherRule.ruleId) :
    e.aclId = other.aclId := by
  have installed := tcamInv_iff_installed.mp inv
  obtain ⟨item, view, carries⟩ := installed.carried member owns
  obtain ⟨otherItem, otherView, otherCarries⟩ :=
    installed.carried otherMember otherOwns
  rw [shared, otherView] at view
  cases view
  exact (otherCarries e.aclId).mp ((carries e.aclId).mpr rfl)

end Owners

section Origins

variable [DecidableEq Uuid] {xdk : Xdk Hw} {outcome : Outcome}
  {lists : Uuid → Option (List ListEntry)} {before : Cls Uuid Hw}

/-- The entries of a classifier in the middle of a request stem from those before
it, or are new with an ACL id and TCAM entries that were free. -/
structure Stems {xdk : Xdk Hw} (model : TcamModel xdk) (before grown : Cls Uuid Hw) :
    Prop where
  ids : before.aclIds ⊆ grown.aclIds
  allocated : ∀ table id, ((model.table before.hw table).priority id).isSome →
    ((model.table grown.hw table).priority id).isSome
  idOrigin : ∀ table, ∀ e ∈ grown.classifierHmap table, e.aclId ∈ before.aclIds →
    ∃ other, ∃ old ∈ before.classifierHmap other,
      old.listUid = e.listUid ∧ old.aclId = e.aclId
  ruleOrigin : ∀ table, ∀ e ∈ grown.classifierHmap table,
    (∃ old ∈ before.classifierHmap table,
      old.listUid = e.listUid ∧ old.ruleList = e.ruleList) ∨
    ∀ rule ∈ e.ruleList, (model.table before.hw table).priority rule.ruleId = none

theorem Stems.aclAdd
    {model : TcamModel xdk} {grown : Cls Uuid Hw} {list : ClsList Uuid}
    {info : InterfaceInfo} {direction : Direction} {table : AclTable}
    (stems : Stems model before grown)
    (maps : MapsInv grown)
    (inv : TcamInv lists model grown)
    (typed : (clsGetType info direction).table = some table)
    (known : lists list.listId = list.entries)
    (allocates : AllocatesFresh grown outcome list.listId)
    (missing : ∀ e ∈ grown.classifierHmap table, e.listUid ≠ list.listId) :
    Stems model before (clsAclAdd xdk outcome grown list info direction).2.2 := by
  have afterMaps := maps.aclAdd xdk typed allocates missing
  have afterInv := @TcamInv.aclAdd _ _ _ _ _ outcome _ _ _ info direction _ inv typed
    known
  obtain ⟨e, aclIds, hw, result, uid, _, ifShared, ifFresh⟩ :=
    clsAclAdd_spec xdk outcome grown list typed
  rw [result] at afterMaps afterInv ⊢
  have own : e ∈ Function.update grown.classifierHmap table
      (e :: grown.classifierHmap table) table := mem_cons_hmap.mpr (.inl ⟨rfl, rfl⟩)
  refine ⟨?_, ?_, ?_, ?_⟩
  · intro aclId used
    have stillUsed := stems.ids used
    obtain ⟨other, x, member, sameId⟩ := (maps.allocated aclId).mp stillUsed
    exact (afterMaps.allocated aclId).mpr
      ⟨other, x, mem_cons_hmap.mpr (.inr member), sameId⟩
  · intro other id allocated
    obtain ⟨x, member, owns⟩ :=
      (inv.allocated_iff other id).mp (stems.allocated other id allocated)
    exact (afterInv.allocated_iff other id).mpr
      ⟨x, mem_cons_hmap.mpr (.inr member), owns⟩
  · intro other x member used
    rcases mem_cons_hmap.mp member with ⟨rfl, rfl⟩ | older
    · cases found : allocatedAclId grown list.listId with
      | none =>
          obtain ⟨fresh, answer, free⟩ := allocates found
          rw [(ifFresh fresh found answer).1] at used
          exact absurd (stems.ids used) free
      | some shared =>
          obtain ⟨owner, y, yMember, yUid, yId⟩ := allocatedAclId_some found
          rw [(ifShared shared found).1] at used ⊢
          rw [uid, ← yUid, ← yId]
          exact stems.idOrigin owner y yMember (yId ▸ used)
    · exact stems.idOrigin other x older used
  · intro other x member
    rcases mem_cons_hmap.mp member with ⟨rfl, rfl⟩ | older
    · right
      intro rule owns
      by_contra notFree
      obtain ⟨y, yMember, yRule, yOwns, sameId⟩ := (inv.allocated_iff other _).mp
        (stems.allocated other rule.ruleId (Option.isSome_iff_ne_none.mpr notFree))
      have yNow : y ∈ Function.update grown.classifierHmap other
          (x :: grown.classifierHmap other) other := mem_cons_hmap.mpr (.inr yMember)
      have sameAclId := afterInv.aclId_of_shared yNow yOwns own owns sameId
      have sameUid := (afterMaps.idIff other y yNow other x own).mp sameAclId
      exact missing y yMember (sameUid.trans uid)
    · exact stems.ruleOrigin other x older

theorem Grows.stems
    {model : TcamModel xdk} {grown : Cls Uuid Hw}
    (grows : Grows xdk outcome lists before grown)
    (maps : MapsInv before)
    (inv : TcamInv lists model before) : Stems model before grown := by
  induction grows with
  | start =>
      refine ⟨fun _ used => used, fun _ _ allocated => allocated, ?_, ?_⟩
      · intro table e member _
        exact ⟨table, e, member, rfl, rfl⟩
      · intro table e member
        exact .inl ⟨e, member, rfl, rfl⟩
  | set bundle info enable aclId _ inductionHypothesis =>
      refine ⟨inductionHypothesis.ids, ?_, inductionHypothesis.idOrigin,
        inductionHypothesis.ruleOrigin⟩
      intro table id allocated
      rw [model.setInterfaceAcl_table]
      exact inductionHypothesis.allocated table id allocated
  | adjust table listId change _ inductionHypothesis =>
      refine ⟨inductionHypothesis.ids, inductionHypothesis.allocated, ?_, ?_⟩
      · intro other e member used
        obtain ⟨old, oldMember, sameId, sameUid⟩ := of_mem_adjusted member
        rw [sameId] at used ⊢
        rw [sameUid]
        exact inductionHypothesis.idOrigin other old oldMember used
      · intro other e member
        obtain ⟨old, oldMember, rfl⟩ := mem_adjustIntfs.mp member
        have origin := inductionHypothesis.ruleOrigin other old oldMember
        split <;> exact origin
  | add sub typed known allocates missing inductionHypothesis =>
      exact inductionHypothesis.aclAdd (sub.maps maps) (sub.tcam inv) typed known
        allocates missing

end Origins

end Classifier
end XpliantSwitchd
