import XpliantSwitchd.Classifier.Defs
import XpliantSwitchd.Lib.Transition

/-!
# ACL ids and interface counts

The entries of one list share an ACL id across the three tables without a
reference count, and each entry counts the interfaces it is applied on.  The
abstract state is the set of applications: which list is applied on which
interface in which table.
-/

namespace XpliantSwitchd
namespace Classifier

open Ternary

variable {Uuid Hw : Type} [DecidableEq Uuid]

/-- A list applied on an interface in a table. -/
structure Application (Uuid : Type) where
  table : AclTable
  listId : Uuid
  interface : Nat
  deriving DecidableEq

/-- The number of interfaces on which a list is applied in a table. -/
def interfaceCount (applied : List (Application Uuid)) (table : AclTable)
    (listId : Uuid) : Nat :=
  applied.countP fun a => a.table = table ∧ a.listId = listId

/-- The classifier with the applications in force. -/
structure System (Uuid Hw : Type) where
  cls : Cls Uuid Hw
  applied : List (Application Uuid)

/-- What the switch daemon asks for. -/
inductive Request (Uuid : Type)
  | apply (list : ClsList Uuid)
  | remove (listId : Uuid)
  | replace (listIdOrig : Uuid) (listNew : ClsList Uuid)

/-- A request for an interface, with the bundle behind the interface and the
answers of the XDK. -/
structure Operation (Uuid : Type) where
  request : Request Uuid
  interface : Nat
  bundle : Option BundleView
  info : InterfaceInfo
  direction : Direction
  outcome : Outcome

/-- Whether a list passes `ops_xp_cls_validate_entries`. -/
def ClsList.supported (list : ClsList Uuid) : Bool :=
  (list.entries.getD []).all fun entry => !entry.unsupported

/-- The applications after a request on a ready bundle. -/
def requestApplied (applied : List (Application Uuid)) (table : AclTable)
    (interface : Nat) : Request Uuid → List (Application Uuid)
  | .apply list =>
      if list.supported then ⟨table, list.listId, interface⟩ :: applied else applied
  | .remove listId => applied.erase ⟨table, listId, interface⟩
  | .replace listIdOrig listNew =>
      if listNew.supported then
        ⟨table, listNew.listId, interface⟩ ::
          applied.erase ⟨table, listIdOrig, interface⟩
      else applied

/-- The applications after a request, as the switch daemon understands it. -/
def nextApplied (applied : List (Application Uuid)) (operation : Operation Uuid) :
    List (Application Uuid) :=
  match (clsGetType operation.info operation.direction).table with
  | some table =>
      if bundleReady operation.bundle operation.info then
        requestApplied applied table operation.interface operation.request
      else applied
  | none => applied

/-- The classifier after a request.  The caller initialises the status. -/
def nextCls (xdk : Xdk Hw) (cls : Cls Uuid Hw) (operation : Operation Uuid) :
    Cls Uuid Hw :=
  match operation.request with
  | .apply list => (clsApply xdk operation.outcome cls list operation.bundle
      operation.info operation.direction .success).2.2
  | .remove listId => (clsRemove xdk operation.outcome cls listId operation.bundle
      operation.info operation.direction).2
  | .replace listIdOrig listNew => (clsReplace xdk operation.outcome cls listIdOrig
      listNew operation.bundle operation.info operation.direction .success).2.2

/-- The system after a request. -/
def step (xdk : Xdk Hw) (system : System Uuid Hw) (operation : Operation Uuid) :
    System Uuid Hw where
  cls := nextCls xdk system.cls operation
  applied := nextApplied system.applied operation

/-- What holds of ids and counts between requests. -/
structure IdsConsistent (system : System Uuid Hw) : Prop where
  /-- No application is listed twice. -/
  appliedOnce : system.applied.Nodup
  /-- Two entries share an ACL id exactly when they are of one list. -/
  idIff : ∀ table, ∀ e ∈ system.cls.classifierHmap table,
    ∀ otherTable, ∀ other ∈ system.cls.classifierHmap otherTable,
      e.aclId = other.aclId ↔ e.listUid = other.listUid
  /-- Each map has at most one entry per list. -/
  uuidOnce : ∀ table, ((system.cls.classifierHmap table).map (·.listUid)).Nodup
  /-- An entry counts its interfaces, and there is at least one. -/
  counted : ∀ table, ∀ e ∈ system.cls.classifierHmap table,
    e.numIntfs.toNat = interfaceCount system.applied table e.listUid ∧
      1 ≤ e.numIntfs.toNat
  /-- The allocated ids are those of the entries. -/
  allocated : ∀ aclId, aclId ∈ system.cls.aclIds ↔
    ∃ table, ∃ e ∈ system.cls.classifierHmap table, e.aclId = aclId

/-- What holds of the maps and the ids, whatever the counts are. -/
structure MapsInv (cls : Cls Uuid Hw) : Prop where
  idIff : ∀ table, ∀ e ∈ cls.classifierHmap table,
    ∀ otherTable, ∀ other ∈ cls.classifierHmap otherTable,
      e.aclId = other.aclId ↔ e.listUid = other.listUid
  uuidOnce : ∀ table, ((cls.classifierHmap table).map (·.listUid)).Nodup
  allocated : ∀ aclId, aclId ∈ cls.aclIds ↔
    ∃ table, ∃ e ∈ cls.classifierHmap table, e.aclId = aclId

/-- What holds of the maps when allocated ids may be left over. -/
structure SharedIds (cls : Cls Uuid Hw) : Prop where
  idIff : ∀ table, ∀ e ∈ cls.classifierHmap table,
    ∀ otherTable, ∀ other ∈ cls.classifierHmap otherTable,
      e.aclId = other.aclId ↔ e.listUid = other.listUid
  uuidOnce : ∀ table, ((cls.classifierHmap table).map (·.listUid)).Nodup
  used : ∀ table, ∀ e ∈ cls.classifierHmap table, e.aclId ∈ cls.aclIds

omit [DecidableEq Uuid] in
theorem MapsInv.shared
    {cls : Cls Uuid Hw}
    (inv : MapsInv cls) : SharedIds cls where
  idIff := inv.idIff
  uuidOnce := inv.uuidOnce
  used := fun table e member => (inv.allocated e.aclId).mpr ⟨table, e, member, rfl⟩

/-- The invariant, in which a count may be zero in the middle of a request. -/
structure IdsInv (cls : Cls Uuid Hw) (applied : List (Application Uuid)) : Prop
    extends MapsInv cls where
  counted : ∀ table, ∀ e ∈ cls.classifierHmap table,
    e.numIntfs.toNat = interfaceCount applied table e.listUid
  covered : ∀ a ∈ applied, ∃ e ∈ cls.classifierHmap a.table, e.listUid = a.listId

/-- Every entry is in use, except perhaps that of one list in one table. -/
def UsedBut (cls : Cls Uuid Hw) (exception : AclTable → Uuid → Prop) : Prop :=
  ∀ table, ∀ e ∈ cls.classifierHmap table, e.numIntfs = 0 →
    exception table e.listUid

theorem IdsInv.consistent
    {cls : Cls Uuid Hw} {applied : List (Application Uuid)}
    (inv : IdsInv cls applied)
    (used : UsedBut cls fun _ _ => False)
    (appliedOnce : applied.Nodup) :
    IdsConsistent ⟨cls, applied⟩ where
  appliedOnce := appliedOnce
  idIff := inv.idIff
  uuidOnce := inv.uuidOnce
  counted := by
    intro table e member
    refine ⟨inv.counted table e member, ?_⟩
    rw [Nat.one_le_iff_ne_zero]
    intro zero
    exact used table e member (UInt16.toNat_inj.mp zero)
  allocated := inv.allocated

omit [DecidableEq Uuid] in
theorem SharedIds.setHw
    {cls : Cls Uuid Hw}
    (inv : SharedIds cls)
    (hw : Hw) : SharedIds { cls with hw := hw } :=
  ⟨inv.idIff, inv.uuidOnce, inv.used⟩

omit [DecidableEq Uuid] in
/-- The invariant does not look at the hardware. -/
theorem MapsInv.setHw
    {cls : Cls Uuid Hw}
    (inv : MapsInv cls)
    (hw : Hw) : MapsInv { cls with hw := hw } :=
  ⟨inv.idIff, inv.uuidOnce, inv.allocated⟩

theorem IdsInv.setHw
    {cls : Cls Uuid Hw} {applied : List (Application Uuid)}
    (inv : IdsInv cls applied)
    (hw : Hw) : IdsInv { cls with hw := hw } applied :=
  ⟨inv.toMapsInv.setHw hw, inv.counted, inv.covered⟩

/-! ## Counts -/

theorem interfaceCount_cons
    (applied : List (Application Uuid)) (a : Application Uuid) (table : AclTable)
    (listId : Uuid) :
    interfaceCount (a :: applied) table listId = interfaceCount applied table listId +
      if a.table = table ∧ a.listId = listId then 1 else 0 := by
  simp [interfaceCount, List.countP_cons]

theorem interfaceCount_erase
    {applied : List (Application Uuid)} {a : Application Uuid}
    (member : a ∈ applied) (table : AclTable) (listId : Uuid) :
    interfaceCount (applied.erase a) table listId +
      (if a.table = table ∧ a.listId = listId then 1 else 0) =
        interfaceCount applied table listId := by
  rw [← interfaceCount_cons]
  exact ((List.perm_cons_erase member).countP_eq _).symm

theorem interfaceCount_pos
    {applied : List (Application Uuid)} {a : Application Uuid}
    (member : a ∈ applied) : 0 < interfaceCount applied a.table a.listId := by
  refine List.countP_pos_iff.mpr ⟨a, member, ?_⟩
  simp

theorem interfaceCount_eq_zero
    {applied : List (Application Uuid)} {table : AclTable} {listId : Uuid}
    (unused : ∀ a ∈ applied, a.table = table → a.listId ≠ listId) :
    interfaceCount applied table listId = 0 := by
  refine List.countP_eq_zero.mpr ?_
  intro a member
  simpa using unused a member

theorem adjustIntfs_hmap (cls : Cls Uuid Hw) (table other : AclTable)
    (listId : Uuid) (change : UInt16 → UInt16) :
    (adjustIntfs cls table listId change).classifierHmap other =
      if other = table then KeyedList.rewrite (·.listUid) listId
        (fun e => { e with numIntfs := change e.numIntfs }) (cls.classifierHmap other)
      else cls.classifierHmap other := by
  unfold adjustIntfs
  by_cases same : other = table
  · subst same
    simp
  · simp [same]

/-- An entry after an adjustment. -/
theorem mem_adjustIntfs
    {cls : Cls Uuid Hw} {table other : AclTable} {listId : Uuid}
    {change : UInt16 → UInt16} {e : AclEntry Uuid} :
    e ∈ (adjustIntfs cls table listId change).classifierHmap other ↔
      ∃ old ∈ cls.classifierHmap other, e = if other = table ∧ old.listUid = listId
        then { old with numIntfs := change old.numIntfs } else old := by
  rw [adjustIntfs_hmap]
  by_cases same : other = table
  · simp [same, KeyedList.rewrite, eq_comm]
  · simp [same]

/-- An entry after an adjustment has the id and the list of one before. -/
theorem of_mem_adjusted
    {cls : Cls Uuid Hw} {table other : AclTable} {listId : Uuid}
    {change : UInt16 → UInt16} {e : AclEntry Uuid}
    (member : e ∈ (adjustIntfs cls table listId change).classifierHmap other) :
    ∃ old ∈ cls.classifierHmap other, e.aclId = old.aclId ∧
      e.listUid = old.listUid := by
  obtain ⟨old, oldMember, rfl⟩ := mem_adjustIntfs.mp member
  refine ⟨old, oldMember, ?_⟩
  split <;> exact ⟨rfl, rfl⟩

theorem adjusted_of_mem
    {cls : Cls Uuid Hw} {table other : AclTable} {listId : Uuid}
    {change : UInt16 → UInt16} {old : AclEntry Uuid}
    (oldMember : old ∈ cls.classifierHmap other) :
    ∃ e ∈ (adjustIntfs cls table listId change).classifierHmap other,
      e.aclId = old.aclId ∧ e.listUid = old.listUid := by
  refine ⟨_, mem_adjustIntfs.mpr ⟨old, oldMember, rfl⟩, ?_⟩
  split <;> exact ⟨rfl, rfl⟩

/-- The maps and the ids do not depend on the counts. -/
theorem SharedIds.adjust
    {cls : Cls Uuid Hw}
    (inv : SharedIds cls)
    (table : AclTable) (listId : Uuid) (change : UInt16 → UInt16) :
    SharedIds (adjustIntfs cls table listId change) := by
  refine ⟨?_, ?_, ?_⟩
  · intro first e member second other otherMember
    obtain ⟨old, oldMember, sameId, sameUid⟩ := of_mem_adjusted member
    obtain ⟨otherOld, otherOldMember, otherId, otherUid⟩ :=
      of_mem_adjusted otherMember
    rw [sameId, sameUid, otherId, otherUid]
    exact inv.idIff first old oldMember second otherOld otherOldMember
  · intro other
    rw [adjustIntfs_hmap]
    split
    · rw [KeyedList.map_rewrite (by intro _ _ _; rfl)]
      exact inv.uuidOnce other
    · exact inv.uuidOnce other
  · intro other e member
    obtain ⟨old, oldMember, sameId, _⟩ := of_mem_adjusted member
    rw [sameId]
    exact inv.used other old oldMember

theorem MapsInv.adjust
    {cls : Cls Uuid Hw}
    (inv : MapsInv cls)
    (table : AclTable) (listId : Uuid) (change : UInt16 → UInt16) :
    MapsInv (adjustIntfs cls table listId change) := by
  have shared := inv.shared.adjust table listId change
  refine ⟨shared.idIff, shared.uuidOnce, ?_⟩
  · intro aclId
    refine (inv.allocated aclId).trans ⟨?_, ?_⟩
    · rintro ⟨other, old, oldMember, rfl⟩
      obtain ⟨e, eMember, sameId, _⟩ := adjusted_of_mem oldMember
      exact ⟨other, e, eMember, sameId⟩
    · rintro ⟨other, e, eMember, rfl⟩
      obtain ⟨old, oldMember, sameId, _⟩ := of_mem_adjusted eMember
      exact ⟨other, old, oldMember, sameId.symm⟩

/-- Changing the count of one entry along with the applications. -/
theorem IdsInv.adjust
    {cls : Cls Uuid Hw} {applied applied' : List (Application Uuid)}
    {table : AclTable} {listId : Uuid} {change : UInt16 → UInt16}
    (inv : IdsInv cls applied)
    (changed : ∀ e ∈ cls.classifierHmap table, e.listUid = listId →
      (change e.numIntfs).toNat = interfaceCount applied' table listId)
    (others : ∀ other uid, ¬ (other = table ∧ uid = listId) →
      interfaceCount applied' other uid = interfaceCount applied other uid)
    (covered : ∀ a ∈ applied', ∃ e ∈ cls.classifierHmap a.table,
      e.listUid = a.listId) :
    IdsInv (adjustIntfs cls table listId change) applied' := by
  refine ⟨inv.toMapsInv.adjust table listId change, ?_, ?_⟩
  · intro other e member
    obtain ⟨old, oldMember, rfl⟩ := mem_adjustIntfs.mp member
    split
    · rename_i selected
      obtain ⟨rfl, sameUid⟩ := selected
      rw [changed old oldMember sameUid, ← sameUid]
    · rename_i notSelected
      rw [others other old.listUid notSelected]
      exact inv.counted other old oldMember
  · intro a member
    obtain ⟨old, oldMember, sameUid⟩ := covered a member
    obtain ⟨e, eMember, _, uid⟩ := adjusted_of_mem oldMember
    exact ⟨e, eMember, uid.trans sameUid⟩

/-- `num_intfs--` with the end of an application. -/
theorem IdsInv.decrement
    {cls : Cls Uuid Hw} {applied : List (Application Uuid)} {a : Application Uuid}
    (inv : IdsInv cls applied)
    (member : a ∈ applied) :
    IdsInv (adjustIntfs cls a.table a.listId (· - 1)) (applied.erase a) := by
  refine inv.adjust ?_ ?_ ?_
  · intro e eMember sameUid
    have count := inv.counted a.table e eMember
    have erased := interfaceCount_erase member a.table a.listId
    rw [if_pos ⟨rfl, rfl⟩] at erased
    rw [sameUid] at count
    have bound := e.numIntfs.toNat_lt
    rw [UInt16.toNat_sub]
    simp only [UInt16.toNat_one]
    omega
  · intro other uid different
    have erased := interfaceCount_erase member other uid
    rw [if_neg (fun same => different ⟨same.1.symm, same.2.symm⟩)] at erased
    exact erased
  · intro other otherMember
    exact inv.covered other (List.mem_of_mem_erase otherMember)

/-- `num_intfs++` with a new application. -/
theorem IdsInv.increment
    {cls : Cls Uuid Hw} {applied : List (Application Uuid)} {a : Application Uuid}
    (inv : IdsInv cls applied)
    (present : ∃ e ∈ cls.classifierHmap a.table, e.listUid = a.listId)
    (bounded : interfaceCount applied a.table a.listId + 1 < 2 ^ 16) :
    IdsInv (adjustIntfs cls a.table a.listId (· + 1)) (a :: applied) := by
  refine inv.adjust ?_ ?_ ?_
  · intro e eMember sameUid
    have count := inv.counted a.table e eMember
    rw [sameUid] at count
    rw [interfaceCount_cons, if_pos ⟨rfl, rfl⟩, UInt16.toNat_add]
    simp only [UInt16.toNat_one]
    omega
  · intro other uid different
    rw [interfaceCount_cons, if_neg (fun same => different ⟨same.1.symm, same.2.symm⟩),
      Nat.add_zero]
  · intro other otherMember
    rcases List.mem_cons.mp otherMember with rfl | older
    · exact present
    · exact inv.covered other older

/-! ## New entries -/

omit [DecidableEq Uuid] in
theorem mem_allEntries {cls : Cls Uuid Hw} {e : AclEntry Uuid} :
    e ∈ cls.allEntries ↔ ∃ table, e ∈ cls.classifierHmap table := by
  unfold Cls.allEntries
  constructor
  · intro member
    rcases List.mem_append.mp member with first | inRacl
    · rcases List.mem_append.mp first with inPacl | inBacl
      · exact ⟨.pacl, inPacl⟩
      · exact ⟨.bacl, inBacl⟩
    · exact ⟨.racl, inRacl⟩
  · rintro ⟨table, member⟩
    cases table with
    | pacl => exact List.mem_append_left _ (List.mem_append_left _ member)
    | bacl => exact List.mem_append_left _ (List.mem_append_right _ member)
    | racl => exact List.mem_append_right _ member

theorem allocatedAclId_some {cls : Cls Uuid Hw} {listId : Uuid} {aclId : Byte}
    (found : allocatedAclId cls listId = some aclId) :
    ∃ table, ∃ e ∈ cls.classifierHmap table, e.listUid = listId ∧ e.aclId = aclId := by
  obtain ⟨e, last, rfl⟩ := Option.map_eq_some_iff.mp found
  obtain ⟨member, sameUid⟩ := List.mem_filter.mp (List.mem_of_getLast? last)
  obtain ⟨table, inTable⟩ := mem_allEntries.mp member
  exact ⟨table, e, inTable, beq_iff_eq.mp sameUid, rfl⟩

theorem allocatedAclId_eq_none {cls : Cls Uuid Hw} {listId : Uuid} :
    allocatedAclId cls listId = none ↔
      ∀ table, ∀ e ∈ cls.classifierHmap table, e.listUid ≠ listId := by
  unfold allocatedAclId
  rw [Option.map_eq_none_iff, List.getLast?_eq_none_iff, List.filter_eq_nil_iff]
  constructor
  · intro none table e member
    simpa using none e (mem_allEntries.mpr ⟨table, member⟩)
  · intro none e listed
    obtain ⟨table, member⟩ := mem_allEntries.mp listed
    simpa using none table e member

omit [DecidableEq Uuid] in
theorem mem_cons_hmap
    {cls : Cls Uuid Hw} {table other : AclTable} {e x : AclEntry Uuid} :
    x ∈ Function.update cls.classifierHmap table
      (e :: cls.classifierHmap table) other ↔
      (other = table ∧ x = e) ∨ x ∈ cls.classifierHmap other := by
  by_cases same : other = table
  · subst same
    simp
  · simp [same]

omit [DecidableEq Uuid] in
/-- A new entry that takes the id of its list, or a fresh one. -/
theorem SharedIds.cons
    {cls : Cls Uuid Hw} {table : AclTable} {e : AclEntry Uuid} {aclIds : Finset Byte}
    (inv : SharedIds cls)
    (missing : ∀ other ∈ cls.classifierHmap table, other.listUid ≠ e.listUid)
    (idIff : ∀ otherTable, ∀ other ∈ cls.classifierHmap otherTable,
      other.aclId = e.aclId ↔ other.listUid = e.listUid)
    (allocated : aclIds = insert e.aclId cls.aclIds)
    (hw : Hw) :
    SharedIds (⟨Function.update cls.classifierHmap table
      (e :: cls.classifierHmap table), aclIds, hw⟩ : Cls Uuid Hw) := by
  refine ⟨?_, ?_, ?_⟩
  · intro first x member second y otherMember
    rcases mem_cons_hmap.mp member with ⟨_, rfl⟩ | inFirst
    · rcases mem_cons_hmap.mp otherMember with ⟨_, rfl⟩ | inSecond
      · exact ⟨fun _ => rfl, fun _ => rfl⟩
      · rw [eq_comm, idIff second y inSecond, eq_comm]
    · rcases mem_cons_hmap.mp otherMember with ⟨_, rfl⟩ | inSecond
      · exact idIff first x inFirst
      · exact inv.idIff first x inFirst second y inSecond
  · intro other
    by_cases same : other = table
    · subst same
      simp only [Function.update_self, List.map_cons, List.nodup_cons]
      refine ⟨?_, inv.uuidOnce other⟩
      intro member
      obtain ⟨x, xMember, equal⟩ := List.mem_map.mp member
      exact missing x xMember equal
    · simp only [Function.update_of_ne same]
      exact inv.uuidOnce other
  · intro other x member
    rw [allocated]
    rcases mem_cons_hmap.mp member with ⟨_, rfl⟩ | older
    · exact Finset.mem_insert_self ..
    · exact Finset.mem_insert_of_mem (inv.used other x older)

omit [DecidableEq Uuid] in
theorem MapsInv.cons
    {cls : Cls Uuid Hw} {table : AclTable} {e : AclEntry Uuid} {aclIds : Finset Byte}
    (inv : MapsInv cls)
    (missing : ∀ other ∈ cls.classifierHmap table, other.listUid ≠ e.listUid)
    (idIff : ∀ otherTable, ∀ other ∈ cls.classifierHmap otherTable,
      other.aclId = e.aclId ↔ other.listUid = e.listUid)
    (allocated : aclIds = insert e.aclId cls.aclIds)
    (hw : Hw) :
    MapsInv (⟨Function.update cls.classifierHmap table
      (e :: cls.classifierHmap table), aclIds, hw⟩ : Cls Uuid Hw) := by
  have shared := inv.shared.cons missing idIff allocated hw
  refine ⟨shared.idIff, shared.uuidOnce, ?_⟩
  intro aclId
  rw [allocated, Finset.mem_insert, inv.allocated aclId]
  constructor
  · rintro (rfl | ⟨other, x, xMember, sameId⟩)
    · exact ⟨table, e, mem_cons_hmap.mpr (.inl ⟨rfl, rfl⟩), rfl⟩
    · exact ⟨other, x, mem_cons_hmap.mpr (.inr xMember), sameId⟩
  · rintro ⟨other, x, member, rfl⟩
    rcases mem_cons_hmap.mp member with ⟨_, rfl⟩ | older
    · exact .inl rfl
    · exact .inr ⟨other, x, older, rfl⟩

/-- What `ops_xp_cls_acl_add` leaves. -/
theorem clsAclAdd_spec
    (xdk : Xdk Hw) (outcome : Outcome) (cls : Cls Uuid Hw) (list : ClsList Uuid)
    {info : InterfaceInfo} {direction : Direction} {table : AclTable}
    (typed : (clsGetType info direction).table = some table) :
    ∃ e aclIds hw, (clsAclAdd xdk outcome cls list info direction).2 = (e,
      ⟨Function.update cls.classifierHmap table (e :: cls.classifierHmap table),
        aclIds, hw⟩) ∧ e.listUid = list.listId ∧ e.numIntfs = 0 ∧
      (∀ shared, allocatedAclId cls list.listId = some shared →
        e.aclId = shared ∧ aclIds = cls.aclIds) ∧
      (∀ fresh, allocatedAclId cls list.listId = none →
        outcome.aclIdAllocEntry = some fresh →
        e.aclId = fresh ∧ aclIds = insert fresh cls.aclIds) := by
  unfold clsAclAdd
  simp only [typed]
  cases allocatedAclId cls list.listId with
  | none =>
      cases outcome.aclIdAllocEntry with
      | none => cases list.entries <;> exact ⟨_, _, _, rfl, rfl, rfl, nofun, nofun⟩
      | some fresh =>
          cases list.entries <;> refine ⟨_, _, _, rfl, rfl, rfl, nofun, ?_⟩ <;>
            · rintro _ _ ⟨⟩
              exact ⟨rfl, rfl⟩
  | some shared =>
      cases list.entries <;> refine ⟨_, _, _, rfl, rfl, rfl, ?_, nofun⟩ <;>
        · rintro _ ⟨⟩
          exact ⟨rfl, rfl⟩

/-- `xpsAclIdAllocEntry` returns a free id when it is needed. -/
def AllocatesFresh (cls : Cls Uuid Hw) (outcome : Outcome) (listId : Uuid) : Prop :=
  allocatedAclId cls listId = none →
    ∃ fresh, outcome.aclIdAllocEntry = some fresh ∧ fresh ∉ cls.aclIds

/-- The id of the entry that `ops_xp_cls_acl_add` makes is that of its list. -/
theorem SharedIds.aclAdd_new
    (xdk : Xdk Hw)
    {outcome : Outcome} {cls : Cls Uuid Hw} {list : ClsList Uuid}
    {info : InterfaceInfo} {direction : Direction} {table : AclTable}
    (inv : SharedIds cls)
    (typed : (clsGetType info direction).table = some table)
    (allocates : AllocatesFresh cls outcome list.listId) :
    ∃ e hw, (clsAclAdd xdk outcome cls list info direction).2 = (e,
      ⟨Function.update cls.classifierHmap table (e :: cls.classifierHmap table),
        insert e.aclId cls.aclIds, hw⟩) ∧ e.listUid = list.listId ∧ e.numIntfs = 0 ∧
      ∀ otherTable, ∀ other ∈ cls.classifierHmap otherTable,
        other.aclId = e.aclId ↔ other.listUid = e.listUid := by
  obtain ⟨e, aclIds, hw, result, uid, idle, ifShared, ifFresh⟩ :=
    clsAclAdd_spec xdk outcome cls list typed
  cases found : allocatedAclId cls list.listId with
  | none =>
      obtain ⟨fresh, answer, free⟩ := allocates found
      obtain ⟨aclId, inserted⟩ := ifFresh fresh found answer
      refine ⟨e, hw, ?_, uid, idle, ?_⟩
      · rw [result, aclId, inserted]
      · intro otherTable other member
        constructor
        · intro sameId
          have used := inv.used otherTable other member
          rw [sameId, aclId] at used
          exact absurd used free
        · intro sameUid
          exact absurd (sameUid.trans uid)
            (allocatedAclId_eq_none.mp found _ other member)
  | some shared =>
      obtain ⟨aclId, sameIds⟩ := ifShared shared found
      obtain ⟨sharedTable, owner, ownerMember, ownerUid, ownerId⟩ :=
        allocatedAclId_some found
      have inUse : e.aclId ∈ cls.aclIds := by
        rw [aclId, ← ownerId]
        exact inv.used sharedTable owner ownerMember
      refine ⟨e, hw, ?_, uid, idle, ?_⟩
      · rw [result, sameIds, Finset.insert_eq_of_mem inUse]
      · intro otherTable other member
        have same := inv.idIff otherTable other member sharedTable owner ownerMember
        rw [aclId, uid, ← ownerUid]
        rw [ownerId] at same
        exact same

theorem SharedIds.aclAdd
    (xdk : Xdk Hw)
    {outcome : Outcome} {cls : Cls Uuid Hw} {list : ClsList Uuid}
    {info : InterfaceInfo} {direction : Direction} {table : AclTable}
    (inv : SharedIds cls)
    (typed : (clsGetType info direction).table = some table)
    (allocates : AllocatesFresh cls outcome list.listId)
    (missing : ∀ e ∈ cls.classifierHmap table, e.listUid ≠ list.listId) :
    SharedIds (clsAclAdd xdk outcome cls list info direction).2.2 := by
  obtain ⟨e, hw, result, uid, _, idIff⟩ := inv.aclAdd_new xdk typed allocates
  rw [result]
  rw [← uid] at missing
  exact inv.cons missing idIff rfl hw

theorem MapsInv.aclAdd
    (xdk : Xdk Hw)
    {outcome : Outcome} {cls : Cls Uuid Hw} {list : ClsList Uuid}
    {info : InterfaceInfo} {direction : Direction} {table : AclTable}
    (inv : MapsInv cls)
    (typed : (clsGetType info direction).table = some table)
    (allocates : AllocatesFresh cls outcome list.listId)
    (missing : ∀ e ∈ cls.classifierHmap table, e.listUid ≠ list.listId) :
    MapsInv (clsAclAdd xdk outcome cls list info direction).2.2 := by
  obtain ⟨e, hw, result, uid, _, idIff⟩ := inv.shared.aclAdd_new xdk typed allocates
  rw [result]
  rw [← uid] at missing
  exact inv.cons missing idIff rfl hw

theorem IdsInv.aclAdd
    (xdk : Xdk Hw)
    {outcome : Outcome} {cls : Cls Uuid Hw} {list : ClsList Uuid}
    {info : InterfaceInfo} {direction : Direction} {table : AclTable}
    {applied : List (Application Uuid)}
    (inv : IdsInv cls applied)
    (typed : (clsGetType info direction).table = some table)
    (allocates : AllocatesFresh cls outcome list.listId)
    (missing : ∀ e ∈ cls.classifierHmap table, e.listUid ≠ list.listId) :
    IdsInv (clsAclAdd xdk outcome cls list info direction).2.2 applied ∧
      ∃ e, (clsAclAdd xdk outcome cls list info direction).2.2.classifierHmap =
        Function.update cls.classifierHmap table (e :: cls.classifierHmap table) ∧
        e.listUid = list.listId := by
  have maps := inv.toMapsInv.aclAdd xdk typed allocates missing
  obtain ⟨e, aclIds, hw, result, uid, idle, _, _⟩ :=
    clsAclAdd_spec xdk outcome cls list typed
  rw [result] at maps ⊢
  rw [← uid] at missing
  refine ⟨⟨maps, ?_, ?_⟩, e, rfl, uid⟩
  · intro other x member
    rcases mem_cons_hmap.mp member with ⟨rfl, rfl⟩ | older
    · rw [idle, interfaceCount_eq_zero]
      · rfl
      · intro a aMember inTable sameUid
        obtain ⟨y, yMember, yUid⟩ := inv.covered a aMember
        rw [inTable] at yMember
        exact missing y yMember (yUid.trans sameUid)
    · exact inv.counted other x older
  · intro a member
    obtain ⟨x, xMember, sameUid⟩ := inv.covered a member
    exact ⟨x, mem_cons_hmap.mpr (.inr xMember), sameUid⟩

/-! ## Removal of an entry -/

/-- The maps without the entry of a list in a table. -/
def hmapWithout (cls : Cls Uuid Hw) (table : AclTable) (listUid : Uuid) :
    AclTable → List (AclEntry Uuid) :=
  Function.update cls.classifierHmap table
    (KeyedList.remove (·.listUid) listUid (cls.classifierHmap table))

theorem mem_hmapWithout
    {cls : Cls Uuid Hw} {table other : AclTable} {listUid : Uuid}
    {e : AclEntry Uuid} :
    e ∈ hmapWithout cls table listUid other ↔
      e ∈ cls.classifierHmap other ∧ ¬ (other = table ∧ e.listUid = listUid) := by
  unfold hmapWithout
  by_cases same : other = table
  · subst same
    simp [KeyedList.mem_remove]
  · simp [same]

theorem SharedIds.without
    {cls : Cls Uuid Hw} {table : AclTable} {listUid : Uuid} {aclIds : Finset Byte}
    (inv : SharedIds cls)
    (used : ∀ other, ∀ e ∈ hmapWithout cls table listUid other, e.aclId ∈ aclIds)
    (hw : Hw) :
    SharedIds (⟨hmapWithout cls table listUid, aclIds, hw⟩ : Cls Uuid Hw) := by
  refine ⟨?_, ?_, used⟩
  · intro first e member second other otherMember
    exact inv.idIff first e (mem_hmapWithout.mp member).1 second other
      (mem_hmapWithout.mp otherMember).1
  · intro other
    by_cases same : other = table
    · subst same
      simp only [hmapWithout, Function.update_self]
      exact KeyedList.nodup_remove (inv.uuidOnce other)
    · simp only [hmapWithout, Function.update_of_ne same]
      exact inv.uuidOnce other

/-- What `ops_xp_cls_acl_delete` does to the ids: that of the entry is kept when an
entry of its list is left, and else it is freed. -/
theorem SharedIds.aclDelete_ids
    {cls : Cls Uuid Hw} {table : AclTable} {e present : AclEntry Uuid}
    (xdk : Xdk Hw)
    (outcome : Outcome)
    (inv : SharedIds cls)
    (member : present ∈ cls.classifierHmap table)
    (sameUid : present.listUid = e.listUid)
    (sameId : present.aclId = e.aclId) :
    ∃ aclIds hw, clsAclDelete xdk outcome cls e table =
        ⟨hmapWithout cls table e.listUid, aclIds, hw⟩ ∧
      ((∃ other, ∃ x ∈ hmapWithout cls table e.listUid other, x.aclId = e.aclId) ∧
          aclIds = cls.aclIds ∨
        (∀ other, ∀ x ∈ hmapWithout cls table e.listUid other, x.aclId ≠ e.aclId) ∧
          aclIds = cls.aclIds.erase e.aclId) := by
  unfold clsAclDelete
  simp only
  split
  · rename_i stillUsed
    obtain ⟨x, listed, same⟩ := List.any_eq_true.mp stillUsed
    obtain ⟨_, xId⟩ := Bool.and_eq_true_iff.mp same
    obtain ⟨other, xMember⟩ := mem_allEntries.mp listed
    exact ⟨_, _, rfl, .inl ⟨⟨other, x, xMember, beq_iff_eq.mp xId⟩, rfl⟩⟩
  · rename_i released
    refine ⟨_, _, rfl, .inr ⟨?_, rfl⟩⟩
    intro other x xMember xId
    have xUid : x.listUid = e.listUid := by
      rw [← sameUid]
      exact (inv.idIff other x (mem_hmapWithout.mp xMember).1 table present member).mp
        (xId.trans sameId.symm)
    refine released (List.any_eq_true.mpr ⟨x, mem_allEntries.mpr ⟨other, xMember⟩, ?_⟩)
    simp [xId, xUid]

/-- `ops_xp_cls_acl_delete` of an entry. -/
theorem SharedIds.aclDelete
    {xdk : Xdk Hw} {outcome : Outcome} {cls : Cls Uuid Hw} {table : AclTable}
    {e present : AclEntry Uuid}
    (inv : SharedIds cls)
    (member : present ∈ cls.classifierHmap table)
    (sameUid : present.listUid = e.listUid)
    (sameId : present.aclId = e.aclId) :
    SharedIds (clsAclDelete xdk outcome cls e table) := by
  obtain ⟨aclIds, hw, result, kept | freed⟩ :=
    inv.aclDelete_ids xdk outcome member sameUid sameId
  · rw [result]
    refine inv.without ?_ hw
    intro other x xMember
    rw [kept.2]
    exact inv.used other x (mem_hmapWithout.mp xMember).1
  · rw [result]
    refine inv.without ?_ hw
    intro other x xMember
    rw [freed.2]
    exact Finset.mem_erase.mpr ⟨freed.1 other x xMember,
      inv.used other x (mem_hmapWithout.mp xMember).1⟩

theorem MapsInv.aclDelete
    {xdk : Xdk Hw} {outcome : Outcome} {cls : Cls Uuid Hw} {table : AclTable}
    {e present : AclEntry Uuid}
    (inv : MapsInv cls)
    (member : present ∈ cls.classifierHmap table)
    (sameUid : present.listUid = e.listUid)
    (sameId : present.aclId = e.aclId) :
    MapsInv (clsAclDelete xdk outcome cls e table) := by
  have shared : SharedIds (clsAclDelete xdk outcome cls e table) :=
    inv.shared.aclDelete member sameUid sameId
  have idIff : ∀ other, ∀ x ∈ cls.classifierHmap other,
      x.aclId = e.aclId ↔ x.listUid = e.listUid := by
    intro other x xMember
    rw [← sameUid, ← sameId]
    exact inv.idIff other x xMember table present member
  obtain ⟨aclIds, hw, result, ids⟩ :=
    inv.shared.aclDelete_ids xdk outcome member sameUid sameId
  rw [result] at shared ⊢
  refine ⟨shared.idIff, shared.uuidOnce, ?_⟩
  intro aclId
  constructor
  · intro allocated
    have before : aclId ∈ cls.aclIds := by
      rcases ids with ⟨_, rfl⟩ | ⟨_, rfl⟩
      · exact allocated
      · exact Finset.mem_of_mem_erase allocated
    obtain ⟨other, y, yMember, rfl⟩ := (inv.allocated aclId).mp before
    by_cases removed : other = table ∧ y.listUid = e.listUid
    · have yId := (idIff other y yMember).mpr removed.2
      rcases ids with ⟨⟨kept, x, xMember, xId⟩, _⟩ | ⟨_, rfl⟩
      · exact ⟨kept, x, xMember, xId.trans yId.symm⟩
      · exact absurd yId (Finset.ne_of_mem_erase allocated)
    · exact ⟨other, y, mem_hmapWithout.mpr ⟨yMember, removed⟩, rfl⟩
  · rintro ⟨other, y, yMember, rfl⟩
    exact shared.used other y yMember

/-- The maps after `ops_xp_cls_acl_delete`. -/
theorem clsAclDelete_hmap
    (xdk : Xdk Hw) (outcome : Outcome) (cls : Cls Uuid Hw) (e : AclEntry Uuid)
    (table : AclTable) :
    (clsAclDelete xdk outcome cls e table).classifierHmap =
      hmapWithout cls table e.listUid := by
  unfold clsAclDelete
  simp only
  split
  · rfl
  · rfl

/-- `ops_xp_cls_acl_delete` of an entry that is applied nowhere. -/
theorem IdsInv.aclDelete
    {xdk : Xdk Hw} {outcome : Outcome} {cls : Cls Uuid Hw} {table : AclTable}
    {e present : AclEntry Uuid} {applied : List (Application Uuid)}
    (inv : IdsInv cls applied)
    (member : present ∈ cls.classifierHmap table)
    (sameUid : present.listUid = e.listUid)
    (sameId : present.aclId = e.aclId)
    (unused : interfaceCount applied table e.listUid = 0) :
    IdsInv (clsAclDelete xdk outcome cls e table) applied := by
  have maps : MapsInv (clsAclDelete xdk outcome cls e table) :=
    inv.toMapsInv.aclDelete member sameUid sameId
  refine ⟨maps, ?_, ?_⟩
  · rw [clsAclDelete_hmap]
    intro other x xMember
    exact inv.counted other x (mem_hmapWithout.mp xMember).1
  · rw [clsAclDelete_hmap]
    intro a aMember
    obtain ⟨x, xMember, xUid⟩ := inv.covered a aMember
    refine ⟨x, mem_hmapWithout.mpr ⟨xMember, ?_⟩, xUid⟩
    rintro ⟨inTable, removedUid⟩
    have positive := interfaceCount_pos aMember
    rw [inTable, ← xUid, removedUid, unused] at positive
    exact Nat.lt_irrefl 0 positive

theorem mem_clsAclDelete
    {xdk : Xdk Hw} {outcome : Outcome} {cls : Cls Uuid Hw} {table other : AclTable}
    {e x : AclEntry Uuid}
    (member : x ∈ (clsAclDelete xdk outcome cls e table).classifierHmap other) :
    x ∈ cls.classifierHmap other ∧ ¬ (other = table ∧ x.listUid = e.listUid) := by
  rw [clsAclDelete_hmap] at member
  exact mem_hmapWithout.mp member

/-! ## Requests -/

theorem IdsInv.perm
    {cls : Cls Uuid Hw} {applied applied' : List (Application Uuid)}
    (inv : IdsInv cls applied)
    (perm : applied'.Perm applied) : IdsInv cls applied' where
  idIff := inv.idIff
  uuidOnce := inv.uuidOnce
  counted := by
    intro table e member
    rw [inv.counted table e member]
    exact (perm.countP_eq _).symm
  covered := fun a member => inv.covered a (perm.mem_iff.mp member)
  allocated := inv.allocated

omit [DecidableEq Uuid] in
/-- The status after `ops_xp_cls_validate_entries`. -/
theorem clsValidateEntries_statusCode (list : ClsList Uuid) (pdStatus : PdStatus) :
    (clsValidateEntries list pdStatus).statusCode =
      if list.supported then pdStatus.statusCode else .hwUnsupportedErr := by
  have general : ∀ (entries : List ListEntry) (first : Nat) (status : PdStatus),
      ((entries.zipIdx first).foldl (fun status item =>
        if item.1.unsupported then
          { statusCode := .hwUnsupportedErr, entryId := item.2 }
        else status) status).statusCode =
      if entries.all (!·.unsupported) then status.statusCode
      else .hwUnsupportedErr := by
    intro entries
    induction entries with
    | nil => simp
    | cons entry entries inductionHypothesis =>
        intro first status
        rw [List.zipIdx_cons, List.foldl_cons, inductionHypothesis, List.all_cons]
        cases entry.unsupported <;> simp
  exact general _ 0 pdStatus

/-- An application whose list is looked up. -/
theorem IdsInv.lookup
    {cls : Cls Uuid Hw} {applied : List (Application Uuid)} {a : Application Uuid}
    {info : InterfaceInfo} {direction : Direction}
    (inv : IdsInv cls applied)
    (member : a ∈ applied)
    (typed : (clsGetType info direction).table = some a.table) :
    ∃ e ∈ cls.classifierHmap a.table, e.listUid = a.listId ∧
      clsHmapLookup cls a.listId info direction = some e := by
  obtain ⟨e, eMember, sameUid⟩ := inv.covered a member
  refine ⟨e, eMember, sameUid, ?_⟩
  rw [clsHmapLookup, typed]
  exact (KeyedList.find?_key_eq_some (inv.uuidOnce a.table)).mpr ⟨eMember, sameUid⟩

section Apply

variable {xdk : Xdk Hw} {outcome : Outcome} {cls : Cls Uuid Hw}
  {list : ClsList Uuid} {bundle : Option BundleView} {info : InterfaceInfo}
  {direction : Direction} {table : AclTable} {applied : List (Application Uuid)}

theorem clsApply_notReady
    (notReady : bundleReady bundle info = false) :
    (clsApply xdk outcome cls list bundle info direction .success).2.2 = cls := by
  unfold clsApply
  cases bundle with
  | none => rfl
  | some view => simp [notReady]

variable (xdk outcome cls direction) in
/-- `ops_xp_cls_apply` of a list that is refused changes nothing. -/
theorem clsApply_refused
    (ready : bundleReady bundle info = true)
    (unsupported : list.supported = false) :
    ∃ status, clsApply xdk outcome cls list bundle info direction .success =
      (none, status, cls) ∧ status.statusCode = .hwUnsupportedErr := by
  have status := clsValidateEntries_statusCode list .success
  rw [unsupported, if_neg Bool.false_ne_true] at status
  unfold clsApply
  cases bundle with
  | none => cases ready
  | some view =>
      simp only [ready, Bool.not_true, Bool.false_eq_true, if_false]
      rw [if_pos status]
      exact ⟨_, rfl, status⟩

/-- `ops_xp_cls_apply` that is not accepted changes nothing. -/
theorem clsApply_rejected
    (rejected : (bundleReady bundle info && list.supported) = false) :
    (clsApply xdk outcome cls list bundle info direction .success).2.2 = cls := by
  cases ready : bundleReady bundle info with
  | false => exact clsApply_notReady ready
  | true =>
      obtain ⟨status, result, _⟩ := clsApply_refused xdk outcome cls direction ready
        (by simpa [ready] using rejected)
      rw [result]

theorem of_mem_adjustIntfs
    {listId : Uuid} {other : AclTable} {e : AclEntry Uuid} {change : UInt16 → UInt16}
    (member : e ∈ (adjustIntfs cls table listId change).classifierHmap other) :
    (other = table ∧ e.listUid = listId) ∨ e ∈ cls.classifierHmap other := by
  obtain ⟨old, oldMember, equal⟩ := mem_adjustIntfs.mp member
  split at equal
  · rename_i selected
    subst equal
    exact .inl selected
  · subst equal
    exact .inr oldMember

/-- The entry with which `ops_xp_cls_apply` goes on: that of the list, or a new
one. -/
inductive Finds (xdk : Xdk Hw) (outcome : Outcome) (cls : Cls Uuid Hw)
    (list : ClsList Uuid) (info : InterfaceInfo) (direction : Direction)
    (table : AclTable) : AclEntry Uuid → Cls Uuid Hw → Prop
  | present {e : AclEntry Uuid} : e ∈ cls.classifierHmap table →
      e.listUid = list.listId → Finds xdk outcome cls list info direction table e cls
  | added : (∀ e ∈ cls.classifierHmap table, e.listUid ≠ list.listId) →
      Finds xdk outcome cls list info direction table
        (clsAclAdd xdk outcome cls list info direction).2.1
        (clsAclAdd xdk outcome cls list info direction).2.2

variable (xdk outcome cls) in
/-- `ops_xp_cls_apply` that is not refused. -/
theorem clsApply_accepted
    (typed : (clsGetType info direction).table = some table)
    (accepted : (bundleReady bundle info && list.supported) = true) :
    ∃ view status e found, bundle = some view ∧
      clsApply xdk outcome cls list bundle info direction .success =
        (none, status, adjustIntfs { found with
          hw := setInterfaceAcl xdk view info true e.aclId found.hw } table
          list.listId (· + 1)) ∧
      status.statusCode = .success ∧
      Finds xdk outcome cls list info direction table e found := by
  obtain ⟨ready, supported⟩ := Bool.and_eq_true_iff.mp accepted
  have status := clsValidateEntries_statusCode list .success
  rw [if_pos supported] at status
  unfold clsApply
  cases bundle with
  | none => cases ready
  | some view =>
      simp only [ready, Bool.not_true, Bool.false_eq_true, if_false, typed]
      rw [if_neg (by rw [status]; decide)]
      cases search : clsHmapLookup cls list.listId info direction with
      | some e =>
          rw [clsHmapLookup, typed] at search
          have uid : e.listUid = list.listId := by
            simpa using List.find?_some search
          exact ⟨view, _, e, cls, rfl, rfl, status,
            .present (List.mem_of_find?_eq_some search) uid⟩
      | none =>
          rw [clsHmapLookup, typed] at search
          refine ⟨view, _, _, _, rfl, rfl, status, .added ?_⟩
          intro e member
          simpa using List.find?_eq_none.mp search e member

/-- What the search for the entry does to ids and counts. -/
theorem IdsInv.finds
    {e : AclEntry Uuid} {found : Cls Uuid Hw}
    (inv : IdsInv cls applied)
    (typed : (clsGetType info direction).table = some table)
    (allocates : AllocatesFresh cls outcome list.listId)
    (finds : Finds xdk outcome cls list info direction table e found) :
    IdsInv found applied ∧
      (∃ x ∈ found.classifierHmap table, x.listUid = list.listId) ∧
      ∀ other, ∀ x ∈ found.classifierHmap other,
        (other = table ∧ x.listUid = list.listId) ∨ x ∈ cls.classifierHmap other := by
  cases finds with
  | present member uid => exact ⟨inv, ⟨e, member, uid⟩, fun _ _ older => .inr older⟩
  | added missing =>
      obtain ⟨added, x, hmap, uid⟩ := inv.aclAdd xdk typed allocates missing
      rw [hmap]
      refine ⟨added, ⟨x, mem_cons_hmap.mpr (.inl ⟨rfl, rfl⟩), uid⟩, ?_⟩
      intro other y member
      rcases mem_cons_hmap.mp member with ⟨rfl, rfl⟩ | older
      · exact .inl ⟨rfl, uid⟩
      · exact .inr older

variable (xdk) in
/-- The invariant after `ops_xp_cls_apply` that is not refused. -/
theorem IdsInv.apply
    (inv : IdsInv cls applied)
    (typed : (clsGetType info direction).table = some table)
    (accepted : (bundleReady bundle info && list.supported) = true)
    (allocates : AllocatesFresh cls outcome list.listId)
    (bounded : interfaceCount applied table list.listId + 1 < 2 ^ 16)
    (interface : Nat) :
    ∃ status cls', clsApply xdk outcome cls list bundle info direction .success =
      (none, status, cls') ∧ status.statusCode = .success ∧
      IdsInv cls' (⟨table, list.listId, interface⟩ :: applied) ∧
      ∀ other, ∀ e ∈ cls'.classifierHmap other,
        (other = table ∧ e.listUid = list.listId) ∨ e ∈ cls.classifierHmap other := by
  obtain ⟨view, status, e, found, _, result, success, finds⟩ :=
    clsApply_accepted xdk outcome cls typed accepted
  obtain ⟨foundInv, present, older⟩ := inv.finds typed allocates finds
  have raised := (foundInv.setHw
      (setInterfaceAcl xdk view info true e.aclId found.hw)).increment
    (a := ⟨table, list.listId, interface⟩) present bounded
  refine ⟨status, _, result, success, raised, ?_⟩
  intro other x member
  rcases of_mem_adjustIntfs member with selected | inFound
  · exact .inl selected
  · exact older other x inFound

/-- After `ops_xp_cls_apply` the entry of the list is in use. -/
theorem UsedBut.apply
    {cls' : Cls Uuid Hw} {exception : AclTable → Uuid → Prop} {a : Application Uuid}
    (used : UsedBut cls exception)
    (inv : IdsInv cls' (a :: applied))
    (older : ∀ other, ∀ e ∈ cls'.classifierHmap other,
      (other = a.table ∧ e.listUid = a.listId) ∨ e ∈ cls.classifierHmap other) :
    UsedBut cls' fun table listId =>
      exception table listId ∧ ¬ (table = a.table ∧ listId = a.listId) := by
  intro other e member zero
  have notApplied : ¬ (other = a.table ∧ e.listUid = a.listId) := by
    rintro ⟨rfl, sameUid⟩
    have count := inv.counted a.table e member
    rw [zero, sameUid, interfaceCount_cons, if_pos ⟨rfl, rfl⟩] at count
    exact Nat.succ_ne_zero _ count.symm
  rcases older other e member with applied | inOld
  · exact absurd applied notApplied
  · exact ⟨used other e inOld zero, notApplied⟩

/-- After `num_intfs--` only the entry of the list may be out of use. -/
theorem UsedBut.decrement
    {a : Application Uuid}
    (used : UsedBut cls fun _ _ => False) :
    UsedBut (adjustIntfs cls a.table a.listId (· - 1)) fun other listId =>
      other = a.table ∧ listId = a.listId := by
  intro other e member zero
  rcases of_mem_adjustIntfs member with selected | older
  · exact selected
  · exact absurd (used other e older zero) id

/-- Delete an entry that went out of use. -/
theorem IdsInv.deleteUnused
    {e present : AclEntry Uuid} {a : Application Uuid}
    {exception : AclTable → Uuid → Prop}
    (inv : IdsInv cls applied)
    (used : UsedBut cls exception)
    (onlyHere : ∀ other uid, exception other uid →
      other = a.table ∧ uid = a.listId)
    (member : present ∈ cls.classifierHmap a.table)
    (presentUid : present.listUid = a.listId)
    (zero : present.numIntfs = 0)
    (sameUid : e.listUid = present.listUid)
    (sameId : e.aclId = present.aclId) :
    IdsInv (clsAclDelete xdk outcome cls e a.table) applied ∧
      UsedBut (clsAclDelete xdk outcome cls e a.table) fun _ _ => False := by
  have count := inv.counted a.table present member
  rw [zero] at count
  constructor
  · exact inv.aclDelete member sameUid.symm sameId.symm (sameUid ▸ count.symm)
  · intro other x xMember xZero
    obtain ⟨older, kept⟩ := mem_clsAclDelete xMember
    obtain ⟨inTable, uid⟩ := onlyHere other x.listUid (used other x older xZero)
    exact kept ⟨inTable, uid.trans (presentUid.symm.trans sameUid.symm)⟩

/-- The classifier when `ops_xp_cls_remove` and `ops_xp_cls_replace` have reset
the interface and lowered the count. -/
def lowered (xdk : Xdk Hw) (cls : Cls Uuid Hw) (view : BundleView)
    (info : InterfaceInfo) (table : AclTable) (listId : Uuid) : Cls Uuid Hw :=
  adjustIntfs { cls with hw := setInterfaceAcl xdk view info false 0#8 cls.hw } table
    listId (· - 1)

theorem mem_lowered
    {view : BundleView} {listId : Uuid} {e : AclEntry Uuid}
    (member : e ∈ cls.classifierHmap table)
    (uid : e.listUid = listId) :
    { e with numIntfs := e.numIntfs - 1 } ∈
      (lowered xdk cls view info table listId).classifierHmap table :=
  mem_adjustIntfs.mpr ⟨e, member, by simp [uid]⟩

theorem clsRemove_present
    {listId : Uuid} {e : AclEntry Uuid}
    (typed : (clsGetType info direction).table = some table)
    (ready : bundleReady bundle info = true)
    (found : clsHmapLookup cls listId info direction = some e) :
    ∃ view, bundle = some view ∧
      (clsRemove xdk outcome cls listId bundle info direction).2 =
        if e.numIntfs - 1 = 0 then
          clsAclDelete xdk outcome (lowered xdk cls view info table listId) e table
        else lowered xdk cls view info table listId := by
  unfold clsRemove
  cases bundle with
  | none => cases ready
  | some view =>
      refine ⟨view, rfl, ?_⟩
      simp only [ready, Bool.not_true, Bool.false_eq_true, if_false, typed, found]
      split <;> rfl

theorem clsRemove_notReady
    {listId : Uuid}
    (notReady : bundleReady bundle info = false) :
    (clsRemove xdk outcome cls listId bundle info direction).2 = cls := by
  unfold clsRemove
  cases bundle with
  | none => rfl
  | some view => simp [notReady]

/-- `ops_xp_cls_remove` of a list that is not found changes nothing. -/
theorem clsRemove_absent
    {listId : Uuid}
    (ready : bundleReady bundle info = true)
    (absent : clsHmapLookup cls listId info direction = none) :
    (clsRemove xdk outcome cls listId bundle info direction).2 = cls := by
  unfold clsRemove
  cases bundle with
  | none => rfl
  | some view => simp [ready, absent]

theorem IdsInv.lowered
    {a : Application Uuid}
    (inv : IdsInv cls applied)
    (member : a ∈ applied)
    (view : BundleView) :
    IdsInv (lowered xdk cls view info a.table a.listId) (applied.erase a) :=
  (inv.setHw (setInterfaceAcl xdk view info false 0#8 cls.hw)).decrement member

theorem UsedBut.lowered
    {a : Application Uuid}
    (used : UsedBut cls fun _ _ => False)
    (view : BundleView) :
    UsedBut (Classifier.lowered xdk cls view info a.table a.listId)
      fun other listId => other = a.table ∧ listId = a.listId := by
  have sameUsed : UsedBut { cls with
      hw := setInterfaceAcl xdk view info false 0#8 cls.hw } fun _ _ => False := used
  exact sameUsed.decrement

omit [DecidableEq Uuid] in
/-- The exception is not needed when its entry is in use. -/
theorem UsedBut.of_positive
    {present : AclEntry Uuid} {a : Application Uuid}
    {exception : AclTable → Uuid → Prop}
    (used : UsedBut cls exception)
    (uuidOnce : ((cls.classifierHmap a.table).map (·.listUid)).Nodup)
    (onlyHere : ∀ other uid, exception other uid →
      other = a.table ∧ uid = a.listId)
    (member : present ∈ cls.classifierHmap a.table)
    (presentUid : present.listUid = a.listId)
    (positive : present.numIntfs ≠ 0) :
    UsedBut cls fun _ _ => False := by
  intro other x xMember xZero
  obtain ⟨rfl, xUid⟩ := onlyHere other x.listUid (used other x xMember xZero)
  have same := List.inj_on_of_nodup_map uuidOnce xMember member
    (xUid.trans presentUid.symm)
  rw [same] at xZero
  exact positive xZero

/-- `ops_xp_cls_remove` of an application. -/
theorem IdsInv.remove
    {a : Application Uuid}
    (inv : IdsInv cls applied)
    (used : UsedBut cls fun _ _ => False)
    (typed : (clsGetType info direction).table = some a.table)
    (ready : bundleReady bundle info = true)
    (member : a ∈ applied) :
    IdsInv (clsRemove xdk outcome cls a.listId bundle info direction).2
      (applied.erase a) ∧
    UsedBut (clsRemove xdk outcome cls a.listId bundle info direction).2
      fun _ _ => False := by
  obtain ⟨e, eMember, uid, found⟩ := inv.lookup member typed
  obtain ⟨view, _, result⟩ := @clsRemove_present _ _ _ xdk outcome _ _ _ _ _ _ _ typed
    ready found
  have lowInv : IdsInv (Classifier.lowered xdk cls view info a.table a.listId)
      (applied.erase a) := inv.lowered member view
  have lessUsed : UsedBut (Classifier.lowered xdk cls view info a.table a.listId)
      fun other listId => other = a.table ∧ listId = a.listId := used.lowered view
  have present : { e with numIntfs := e.numIntfs - 1 } ∈ (Classifier.lowered xdk cls
      view info a.table a.listId).classifierHmap a.table := mem_lowered eMember uid
  rw [result]
  split
  · rename_i zero
    exact lowInv.deleteUnused lessUsed (fun _ _ same => same) present uid zero rfl rfl
  · rename_i positive
    exact ⟨lowInv, lessUsed.of_positive (lowInv.uuidOnce a.table) (fun _ _ same => same)
      present uid positive⟩

/-- Counts do not matter to the search for an id. -/
theorem AllocatesFresh.adjust
    {listId : Uuid} {hw : Hw}
    (allocates : AllocatesFresh cls outcome listId)
    (adjusted : AclTable) (adjustedUid : Uuid) (change : UInt16 → UInt16) :
    AllocatesFresh (adjustIntfs { cls with hw := hw } adjusted adjustedUid change)
      outcome listId := by
  intro missing
  apply allocates
  refine allocatedAclId_eq_none.mpr ?_
  intro other e member
  have kept := allocatedAclId_eq_none.mp missing other _
    (mem_adjustIntfs.mpr ⟨e, member, rfl⟩)
  split at kept <;> exact kept

section Replace

variable {listIdOrig : Uuid} {view : BundleView} {e : AclEntry Uuid}
  {status : PdStatus} {cls' : Cls Uuid Hw}

theorem clsReplace_notReady
    (notReady : bundleReady bundle info = false) :
    (clsReplace xdk outcome cls listIdOrig list bundle info direction .success).2.2 =
      cls := by
  unfold clsReplace
  cases bundle with
  | none => rfl
  | some view => simp [notReady]

/-- `ops_xp_cls_replace` deletes the entry of the old list when it is out of
use. -/
theorem clsReplace_accepted
    (typed : (clsGetType info direction).table = some table)
    (ready : bundleReady (some view) info = true)
    (found : clsHmapLookup cls listIdOrig info direction = some e)
    (result : clsApply xdk outcome (lowered xdk cls view info table listIdOrig) list
      (some view) info direction .success = (none, status, cls'))
    (success : status.statusCode = .success) :
    (clsReplace xdk outcome cls listIdOrig list (some view) info direction
      .success).2.2 =
      match clsLookupFromHmapType listIdOrig (cls'.classifierHmap table) with
      | some present =>
          if present.numIntfs = 0 then clsAclDelete xdk outcome cls' present table
          else cls'
      | none => cls' := by
  unfold lowered at result
  unfold clsReplace
  simp only [ready, Bool.not_true, Bool.false_eq_true, if_false, typed, found, result,
    success, if_true]
  cases clsLookupFromHmapType listIdOrig (cls'.classifierHmap table) with
  | some present =>
      simp only
      split <;> rfl
  | none => rfl

/-- `ops_xp_cls_replace` puts the old list back when the new one is refused. -/
theorem clsReplace_refused
    (typed : (clsGetType info direction).table = some table)
    (ready : bundleReady (some view) info = true)
    (found : clsHmapLookup cls listIdOrig info direction = some e)
    (unsupported : list.supported = false) :
    (clsReplace xdk outcome cls listIdOrig list (some view) info direction
      .success).2.2 =
      adjustIntfs { lowered xdk cls view info table listIdOrig with
        hw := setInterfaceAcl xdk view info true e.aclId
          (lowered xdk cls view info table listIdOrig).hw } table listIdOrig
        (· + 1) := by
  obtain ⟨status, result, code⟩ := clsApply_refused xdk outcome
    (lowered xdk cls view info table listIdOrig) direction ready unsupported
  unfold lowered at result ⊢
  unfold clsReplace
  simp only [ready, Bool.not_true, Bool.false_eq_true, if_false, typed, found, result]
  rw [if_neg (by rw [code]; decide)]

end Replace

/-- `ops_xp_cls_replace` of an application by a list that is accepted. -/
theorem IdsInv.replace
    {a : Application Uuid}
    (inv : IdsInv cls applied)
    (used : UsedBut cls fun _ _ => False)
    (typed : (clsGetType info direction).table = some a.table)
    (ready : bundleReady bundle info = true)
    (supported : list.supported = true)
    (member : a ∈ applied)
    (allocates : AllocatesFresh cls outcome list.listId)
    (bounded : interfaceCount (applied.erase a) a.table list.listId + 1 < 2 ^ 16) :
    IdsInv (clsReplace xdk outcome cls a.listId list bundle info direction
      .success).2.2 (⟨a.table, list.listId, a.interface⟩ :: applied.erase a) ∧
    UsedBut (clsReplace xdk outcome cls a.listId list bundle info direction
      .success).2.2 fun _ _ => False := by
  obtain ⟨e, eMember, uid, found⟩ := inv.lookup member typed
  cases bundle with
  | none => cases ready
  | some view =>
      have lowInv : IdsInv (Classifier.lowered xdk cls view info a.table a.listId)
          (applied.erase a) := inv.lowered member view
      obtain ⟨status, cls', result, success, applyInv, older⟩ :=
        lowInv.apply xdk typed (Bool.and_eq_true_iff.mpr ⟨ready, supported⟩)
          (allocates.adjust a.table a.listId (· - 1)) bounded a.interface
      have nowUsed := (used.lowered view).apply applyInv older
      rw [clsReplace_accepted typed ready found result success]
      split
      · rename_i present search
        have presentMember := List.mem_of_find?_eq_some search
        have presentUid : present.listUid = a.listId := by
          simpa using List.find?_some search
        split
        · rename_i zero
          exact applyInv.deleteUnused nowUsed (fun _ _ both => both.1) presentMember
            presentUid zero rfl rfl
        · rename_i positive
          exact ⟨applyInv, nowUsed.of_positive (applyInv.uuidOnce a.table)
            (fun _ _ both => both.1) presentMember presentUid positive⟩
      · rename_i absent
        refine ⟨applyInv, ?_⟩
        intro other x xMember xZero
        obtain ⟨⟨rfl, xUid⟩, _⟩ := nowUsed other x xMember xZero
        have missed := List.find?_eq_none.mp absent x xMember
        simp [xUid] at missed

/-- `ops_xp_cls_replace` by a list that is refused. -/
theorem IdsInv.replaceRefused
    {a : Application Uuid}
    (inv : IdsInv cls applied)
    (used : UsedBut cls fun _ _ => False)
    (typed : (clsGetType info direction).table = some a.table)
    (ready : bundleReady bundle info = true)
    (unsupported : list.supported = false)
    (member : a ∈ applied) :
    IdsInv (clsReplace xdk outcome cls a.listId list bundle info direction
      .success).2.2 applied ∧
    UsedBut (clsReplace xdk outcome cls a.listId list bundle info direction
      .success).2.2 fun _ _ => False := by
  obtain ⟨e, eMember, uid, found⟩ := inv.lookup member typed
  cases bundle with
  | none => cases ready
  | some view =>
      have lowInv : IdsInv (Classifier.lowered xdk cls view info a.table a.listId)
          (applied.erase a) := inv.lowered member view
      have present : { e with numIntfs := e.numIntfs - 1 } ∈ (Classifier.lowered xdk
          cls view info a.table a.listId).classifierHmap a.table :=
        mem_lowered eMember uid
      have bounded : interfaceCount (applied.erase a) a.table a.listId + 1 <
          2 ^ 16 := by
        have erased := interfaceCount_erase member a.table a.listId
        rw [if_pos ⟨rfl, rfl⟩] at erased
        rw [erased, ← uid, ← inv.counted a.table e eMember]
        exact e.numIntfs.toNat_lt
      have restored := ((lowInv.setHw (setInterfaceAcl xdk view info true e.aclId
        (Classifier.lowered xdk cls view info a.table a.listId).hw)).increment
          ⟨_, present, uid⟩ bounded).perm (List.perm_cons_erase member)
      rw [clsReplace_refused typed ready found unsupported]
      refine ⟨restored, ?_⟩
      intro other x xMember xZero
      have count := restored.counted other x xMember
      rw [xZero] at count
      have selected : ¬ (other = a.table ∧ x.listUid = a.listId) := by
        rintro ⟨rfl, xUid⟩
        have positive := interfaceCount_pos member
        rw [← xUid, ← count] at positive
        exact Nat.lt_irrefl 0 positive
      have lower : x ∈ (Classifier.lowered xdk cls view info a.table
          a.listId).classifierHmap other :=
        (of_mem_adjustIntfs xMember).resolve_left selected
      exact used other x ((of_mem_adjustIntfs lower).resolve_left selected) xZero

end Apply

/-! ## Runs -/

/-- What the switch daemon and the XDK keep to: requests are for ingress on ports
and VLANs, a list is removed or replaced where it is applied and applied where it
is not, the bundle of an application stays ready, and new ids are free. -/
structure Ruled (system : System Uuid Hw) (operation : Operation Uuid) : Prop where
  ingress : operation.direction = .ingress
  interface : operation.info.interface ≠ .other
  apply : ∀ list, operation.request = .apply list →
    AllocatesFresh system.cls operation.outcome list.listId ∧
    ∀ table, (clsGetType operation.info operation.direction).table = some table →
      ⟨table, list.listId, operation.interface⟩ ∉ system.applied
  remove : ∀ listId, operation.request = .remove listId →
    bundleReady operation.bundle operation.info = true ∧
    ∀ table, (clsGetType operation.info operation.direction).table = some table →
      ⟨table, listId, operation.interface⟩ ∈ system.applied
  replace : ∀ listIdOrig listNew, operation.request = .replace listIdOrig listNew →
    bundleReady operation.bundle operation.info = true ∧
    AllocatesFresh system.cls operation.outcome listNew.listId ∧
    ∀ table, (clsGetType operation.info operation.direction).table = some table →
      ⟨table, listIdOrig, operation.interface⟩ ∈ system.applied ∧
      (listNew.listId = listIdOrig ∨
        ⟨table, listNew.listId, operation.interface⟩ ∉ system.applied)

/-- No list comes to more than 65535 interfaces of a table: `num_intfs` has 16
bits. -/
def WithinCount (system : System Uuid Hw) (operation : Operation Uuid) : Prop :=
  ∀ table listId,
    interfaceCount (nextApplied system.applied operation) table listId < 2 ^ 16

theorem clsGetType_table {info : InterfaceInfo} {direction : Direction}
    (ingress : direction = .ingress)
    (interface : info.interface ≠ .other) :
    ∃ table, (clsGetType info direction).table = some table := by
  subst ingress
  unfold clsGetType
  cases kind : info.interface with
  | port => exact ⟨.pacl, rfl⟩
  | vlan =>
      cases info.l3Only with
      | true => exact ⟨.racl, rfl⟩
      | false => exact ⟨.bacl, rfl⟩
  | other => exact absurd kind interface

/-- What requests keep. -/
structure SystemInv (system : System Uuid Hw) : Prop where
  ids : IdsInv system.cls system.applied
  used : UsedBut system.cls fun _ _ => False
  appliedOnce : system.applied.Nodup

section Step

variable {system : System Uuid Hw} {operation : Operation Uuid} {table : AclTable}

theorem step_applied
    (xdk : Xdk Hw)
    (system : System Uuid Hw)
    (typed : (clsGetType operation.info operation.direction).table = some table) :
    (step xdk system operation).applied =
      if bundleReady operation.bundle operation.info then
        requestApplied system.applied table operation.interface operation.request
      else system.applied := by
  simp only [step, nextApplied, typed]

/-- A list that is not accepted leaves the system as it is. -/
theorem step_rejected {list : ClsList Uuid}
    (xdk : Xdk Hw)
    (system : System Uuid Hw)
    (typed : (clsGetType operation.info operation.direction).table = some table)
    (requested : operation.request = .apply list)
    (rejected : (bundleReady operation.bundle operation.info && list.supported) = false) :
    step xdk system operation = system := by
  have applied := step_applied xdk system typed
  have cls : (step xdk system operation).cls = system.cls := by
    simp only [step, nextCls, requested]
    exact clsApply_rejected rejected
  have sameApplied : (step xdk system operation).applied = system.applied := by
    rw [applied, requested, requestApplied]
    split
    · rename_i ready
      rw [if_neg (by simpa [ready] using rejected)]
    · rfl
  calc step xdk system operation
      = ⟨(step xdk system operation).cls, (step xdk system operation).applied⟩ := rfl
    _ = system := by rw [cls, sameApplied]

/-- A list that is accepted is applied. -/
theorem step_accepted {list : ClsList Uuid}
    (xdk : Xdk Hw)
    (system : System Uuid Hw)
    (typed : (clsGetType operation.info operation.direction).table = some table)
    (requested : operation.request = .apply list)
    (accepted : (bundleReady operation.bundle operation.info && list.supported) = true) :
    (step xdk system operation).cls = (clsApply xdk operation.outcome system.cls list
        operation.bundle operation.info operation.direction .success).2.2 ∧
      (step xdk system operation).applied =
        ⟨table, list.listId, operation.interface⟩ :: system.applied := by
  obtain ⟨ready, supported⟩ := Bool.and_eq_true_iff.mp accepted
  refine ⟨by simp only [step, nextCls, requested], ?_⟩
  rw [step_applied xdk system typed, requested, requestApplied, if_pos ready,
    if_pos supported]

theorem SystemInv.stepApply {list : ClsList Uuid}
    (xdk : Xdk Hw)
    (inv : SystemInv system)
    (typed : (clsGetType operation.info operation.direction).table = some table)
    (requested : operation.request = .apply list)
    (ruled : Ruled system operation)
    (within : WithinCount system operation) :
    SystemInv (step xdk system operation) := by
  obtain ⟨allocates, notApplied⟩ := ruled.apply list requested
  have bounded := within table list.listId
  change interfaceCount (step xdk system operation).applied table list.listId < 2 ^ 16
    at bounded
  cases accepted : bundleReady operation.bundle operation.info && list.supported with
  | false =>
      rw [step_rejected xdk system typed requested accepted]
      exact inv
  | true =>
      obtain ⟨cls, applied⟩ := step_accepted xdk system typed requested accepted
      rw [applied, interfaceCount_cons, if_pos ⟨rfl, rfl⟩] at bounded
      obtain ⟨status, cls', result, _, applyInv, older⟩ := inv.ids.apply xdk typed
        accepted allocates bounded operation.interface
      rw [result] at cls
      have nowUsed : UsedBut cls' fun _ _ => False := by
        intro other e member zero
        exact (inv.used.apply applyInv older other e member zero).1
      refine ⟨cls ▸ applied ▸ applyInv, cls ▸ nowUsed, ?_⟩
      rw [applied]
      exact List.nodup_cons.mpr ⟨notApplied table typed, inv.appliedOnce⟩

theorem SystemInv.stepRemove {listId : Uuid}
    (xdk : Xdk Hw)
    (inv : SystemInv system)
    (typed : (clsGetType operation.info operation.direction).table = some table)
    (requested : operation.request = .remove listId)
    (ruled : Ruled system operation) :
    SystemInv (step xdk system operation) := by
  obtain ⟨ready, present⟩ := ruled.remove listId requested
  have applied := step_applied xdk system typed
  have cls : (step xdk system operation).cls = (clsRemove xdk operation.outcome
      system.cls listId operation.bundle operation.info operation.direction).2 := by
    simp only [step, nextCls, requested]
  rw [requested, requestApplied, if_pos ready] at applied
  have removed : IdsInv (step xdk system operation).cls
      (step xdk system operation).applied ∧
      UsedBut (step xdk system operation).cls fun _ _ => False := by
    rw [applied, cls]
    exact inv.ids.remove inv.used typed ready (present table typed)
  refine ⟨removed.1, removed.2, ?_⟩
  rw [applied]
  exact inv.appliedOnce.erase _

theorem SystemInv.stepReplace {listIdOrig : Uuid} {listNew : ClsList Uuid}
    (xdk : Xdk Hw)
    (inv : SystemInv system)
    (typed : (clsGetType operation.info operation.direction).table = some table)
    (requested : operation.request = .replace listIdOrig listNew)
    (ruled : Ruled system operation)
    (within : WithinCount system operation) :
    SystemInv (step xdk system operation) := by
  obtain ⟨ready, allocates, condition⟩ := ruled.replace listIdOrig listNew requested
  obtain ⟨present, new⟩ := condition table typed
  have applied := step_applied xdk system typed
  have bounded := within table listNew.listId
  change interfaceCount (step xdk system operation).applied table listNew.listId <
    2 ^ 16 at bounded
  have cls : (step xdk system operation).cls = (clsReplace xdk operation.outcome
      system.cls listIdOrig listNew operation.bundle operation.info
      operation.direction .success).2.2 := by
    simp only [step, nextCls, requested]
  rw [requested, requestApplied, if_pos ready] at applied
  cases supported : listNew.supported with
  | false =>
      rw [supported, if_neg Bool.false_ne_true] at applied
      have replaced : IdsInv (step xdk system operation).cls
          (step xdk system operation).applied ∧
          UsedBut (step xdk system operation).cls fun _ _ => False := by
        rw [applied, cls]
        exact inv.ids.replaceRefused inv.used typed ready supported present
      exact ⟨replaced.1, replaced.2, applied ▸ inv.appliedOnce⟩
  | true =>
      rw [if_pos supported] at applied
      rw [applied, interfaceCount_cons, if_pos ⟨rfl, rfl⟩] at bounded
      have replaced : IdsInv (step xdk system operation).cls
          (step xdk system operation).applied ∧
          UsedBut (step xdk system operation).cls fun _ _ => False := by
        rw [applied, cls]
        exact inv.ids.replace inv.used typed ready supported present allocates bounded
      refine ⟨replaced.1, replaced.2, ?_⟩
      rw [applied]
      refine List.nodup_cons.mpr ⟨?_, inv.appliedOnce.erase _⟩
      rcases new with same | absent
      · rw [same]
        exact inv.appliedOnce.not_mem_erase
      · exact fun inErased => absent (List.mem_of_mem_erase inErased)

/-- Every request keeps the invariant. -/
theorem SystemInv.step
    (xdk : Xdk Hw)
    (inv : SystemInv system)
    (ruled : Ruled system operation)
    (within : WithinCount system operation) :
    SystemInv (step xdk system operation) := by
  obtain ⟨table, typed⟩ := clsGetType_table ruled.ingress ruled.interface
  cases requested : operation.request with
  | apply list => exact inv.stepApply xdk typed requested ruled within
  | remove listId => exact inv.stepRemove xdk typed requested ruled
  | replace listIdOrig listNew =>
      exact inv.stepReplace xdk typed requested ruled within

end Step

/-- The systems that requests reach from an initialised classifier. -/
def Reached (xdk : Xdk Hw) (guard : System Uuid Hw → Operation Uuid → Prop)
    (system : System Uuid Hw) : Prop :=
  Transition.Reach (fun initial => ∃ hw, initial = ⟨clsInit Uuid hw, []⟩) guard
    (step xdk) system

theorem clsInit_idsInv (hw : Hw) : IdsInv (clsInit Uuid hw) [] where
  idIff := nofun
  uuidOnce := fun _ => List.nodup_nil
  counted := nofun
  covered := nofun
  allocated := by
    intro aclId
    simp [clsInit]

theorem clsInit_systemInv (hw : Hw) :
    SystemInv (⟨clsInit Uuid hw, []⟩ : System Uuid Hw) :=
  ⟨clsInit_idsInv hw, nofun, List.nodup_nil⟩

/-- In every run in which no list comes to more than 65535 interfaces of a table,
ids are shared exactly within a list and counts are right. -/
theorem idsConsistent_of_reached {xdk : Xdk Hw} {system : System Uuid Hw}
    (reached : Reached xdk (fun system operation =>
      Ruled system operation ∧ WithinCount system operation) system) :
    IdsConsistent system := by
  have inv : SystemInv system := by
    refine Transition.Reach.invariant SystemInv ?_ ?_ reached
    · rintro _ ⟨hw, rfl⟩
      exact clsInit_systemInv hw
    · rintro current operation inv ⟨ruled, within⟩
      exact inv.step xdk ruled within
  exact inv.ids.consistent inv.used inv.appliedOnce

/-! ## Concrete runs -/

/-- A TCAM manager that counts up, with entries at their own index. -/
def countingXdk : Xdk Nat where
  zeroCmd := .fwd
  tcamMgrAllocEntry hw _ _ := (some hw, hw + 1)
  tcamMgrTcamIdFromEntryGet _ _ entryId := some entryId
  tcamMgrFreeEntry hw _ _ := hw
  iaclWriteKey hw _ _ _ := hw
  iaclWriteData hw _ _ _ := hw
  l3SetRouterAclId hw _ _ := hw
  l3SetRouterAclEnable hw _ _ := hw
  portSetField hw _ _ _ := hw

/-- The allocator returns a given id. -/
def allocating (aclId : Byte) : Outcome where
  aclIdAllocEntry := some aclId
  unsetAclId := 0#8
  unsetRuleIndex _ := 0
  unsetTcamId _ := 0

/-- A request for a port. -/
def onPort (request : Request Nat) (interface : Nat) (aclId : Byte) :
    Operation Nat where
  request := request
  interface := interface
  bundle := some { ports := [interface], l3Intf := none }
  info := { interface := .port, l3Only := false }
  direction := .ingress
  outcome := allocating aclId

/-- List 1, without entries, applied on a port. -/
def applyOn (interface : Nat) : Operation Nat :=
  onPort (.apply { listId := 1, entries := none }) interface 7#8

/-- List 1 on the ports below a number. -/
def sharedSystem (count : Nat) : System Nat Nat where
  cls :=
    { classifierHmap := Function.update (fun _ => []) .pacl
        [{ listUid := 1, aclId := 7#8, numRules := 0, ruleList := [],
           numIntfs := UInt16.ofNat count,
           intfInfo := { interface := .port, l3Only := false },
           clsDirection := .ingress }]
      aclIds := {7#8}
      hw := 0 }
  applied := ((List.range count).map fun interface => ⟨.pacl, 1, interface⟩).reverse

theorem step_sharedSystem (count : Nat) :
    step countingXdk (sharedSystem count) (applyOn count) =
      sharedSystem (count + 1) := by
  simp [step, nextCls, nextApplied, requestApplied, applyOn, onPort, sharedSystem,
    clsApply, clsGetType, AclType.table, bundleReady, clsValidateEntries,
    ClsList.supported, PdStatus.success, clsHmapLookup, clsLookupFromHmapType,
    setInterfaceAcl, countingXdk, adjustIntfs, KeyedList.rewrite, List.range_succ]

theorem ruled_applyOn {system : System Nat Nat} {interface : Nat}
    (allocates : AllocatesFresh system.cls (allocating 7#8) 1)
    (new : ⟨.pacl, 1, interface⟩ ∉ system.applied) :
    Ruled system (applyOn interface) where
  ingress := rfl
  interface := by simp [applyOn, onPort]
  apply := by
    rintro list ⟨⟩
    refine ⟨allocates, ?_⟩
    rintro table ⟨⟩
    exact new
  remove := nofun
  replace := nofun

/-- Any number of ports is reached. -/
theorem reached_sharedSystem (count : Nat) :
    Reached countingXdk Ruled (sharedSystem (count + 1)) := by
  induction count with
  | zero =>
      have first : step countingXdk ⟨clsInit Nat 0, []⟩ (applyOn 0) =
          sharedSystem 1 := by
        simp [step, nextCls, nextApplied, requestApplied, applyOn, onPort,
          sharedSystem, clsApply, clsGetType, AclType.table, bundleReady,
          clsValidateEntries, ClsList.supported, PdStatus.success, clsHmapLookup,
          clsLookupFromHmapType, setInterfaceAcl, countingXdk, adjustIntfs,
          KeyedList.rewrite, clsInit, clsAclAdd, allocatedAclId, Cls.allEntries,
          allocating]
      rw [← first]
      refine .next (.start ⟨0, rfl⟩) (ruled_applyOn ?_ (by simp))
      intro _
      exact ⟨7#8, rfl, by simp [clsInit]⟩
  | succ count inductionHypothesis =>
      rw [← step_sharedSystem]
      refine .next inductionHypothesis (ruled_applyOn ?_ (by simp [sharedSystem]))
      intro missing
      have entries := allocatedAclId_eq_none.mp missing .pacl
      simp [sharedSystem] at entries

/-- On 65536 ports the count is back at zero. -/
theorem not_idsConsistent_sharedSystem :
    Reached countingXdk Ruled (sharedSystem 65536) ∧
      ¬ IdsConsistent (sharedSystem 65536) := by
  refine ⟨reached_sharedSystem 65535, ?_⟩
  intro consistent
  have counted := (consistent.counted .pacl _ (List.mem_singleton_self _)).2
  revert counted
  decide

/-- List 2, without entries, applied on the routed VLAN of a bundle. -/
def applyOnRoutedVlan (interface l3Intf : Nat) : Operation Nat :=
  { onPort (.apply { listId := 2, entries := none }) interface 9#8 with
    bundle := some { ports := [], l3Intf := some l3Intf }
    info := { interface := .vlan, l3Only := true } }

/-- List 1 is applied on two ports, replaced by list 2 on one of them and removed from
the other; list 2 is applied on a routed VLAN too. -/
def replacementRun : List (Operation Nat) :=
  [applyOn 0,
   applyOn 1,
   onPort (.replace 1 { listId := 2, entries := none }) 0 8#8,
   onPort (.remove 1) 1 9#8,
   applyOnRoutedVlan 5 50]

/-- At the end of the run list 2 has one ACL id in two tables. -/
example :
    let cls := (Transition.run (step countingXdk) ⟨clsInit Nat 0, []⟩ replacementRun).cls
    (cls.classifierHmap .pacl).map (fun e => (e.listUid, e.aclId)) = [(2, 8#8)] ∧
      (cls.classifierHmap .racl).map (fun e => (e.listUid, e.aclId)) = [(2, 8#8)] := by
  decide

theorem withinCount_of_length {system : System Uuid Hw} {operation : Operation Uuid}
    (short : (nextApplied system.applied operation).length < 2 ^ 16) :
    WithinCount system operation :=
  fun _ _ => lt_of_le_of_lt List.countP_le_length short

theorem idsConsistent_replacementRun :
    IdsConsistent (Transition.run (step countingXdk) ⟨clsInit Nat 0, []⟩
      replacementRun) := by
  have initial : Reached countingXdk (fun system operation =>
      Ruled system operation ∧ WithinCount system operation)
      (⟨clsInit Nat 0, []⟩ : System Nat Nat) := .start ⟨0, rfl⟩
  refine idsConsistent_of_reached (initial.of_run
    ⟨⟨?_, withinCount_of_length (by decide)⟩, ⟨?_, withinCount_of_length (by decide)⟩,
      ⟨?_, withinCount_of_length (by decide)⟩, ⟨?_, withinCount_of_length (by decide)⟩,
      ⟨?_, withinCount_of_length (by decide)⟩, trivial⟩)
  · exact ruled_applyOn (fun _ => ⟨7#8, rfl, by decide⟩) (by decide)
  · refine ruled_applyOn (fun missing => ?_) (by decide)
    exact absurd missing (by decide)
  · refine ⟨rfl, by decide, nofun, nofun, ?_⟩
    rintro _ _ ⟨⟩
    refine ⟨rfl, fun _ => ⟨8#8, rfl, by decide⟩, ?_⟩
    rintro table ⟨⟩
    exact ⟨by decide, .inr (by decide)⟩
  · refine ⟨rfl, by decide, nofun, ?_, nofun⟩
    rintro _ ⟨⟩
    refine ⟨rfl, ?_⟩
    rintro table ⟨⟩
    decide
  · refine ⟨rfl, by decide, ?_, nofun, nofun⟩
    rintro _ ⟨⟩
    refine ⟨fun missing => absurd missing (by decide), ?_⟩
    rintro table ⟨⟩
    decide

end Classifier
end XpliantSwitchd
