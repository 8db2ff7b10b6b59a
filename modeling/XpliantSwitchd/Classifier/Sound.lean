import XpliantSwitchd.Classifier.InForce

/-!
# Requests in both directions

A list that is applied for egress gets an ACL id and TCAM entries of the egress
table, but no entry in a map.  This module says what holds of the classifier after
requests in both directions, made in any order and wherever they may be: entries of
different lists have different ids, and the three tables hold the contents of the
entries of the maps and nothing else.  The contents of one list may differ from
table to table.
-/

namespace XpliantSwitchd
namespace Classifier

open Ternary Tcam

variable {Uuid Hw : Type}

/-- What is assumed of the egress table of the TCAM manager: an allocated entry is
a free one, and it has nothing to do with the other tables and settings. -/
structure EaclModel {xdk : Xdk Hw} (model : TcamModel xdk) where
  priority : Hw → Nat → Option Nat
  allocates : ∀ hw level, ∃ id hw',
    xdk.tcamMgrAllocEntry hw .eacl level = (some id, hw') ∧ priority hw id = none ∧
    priority hw' = Function.update (priority hw) id (some level) ∧
    model.table hw' = model.table hw
  keepsAlloc : ∀ hw (aclTable : AclTable) level,
    priority (xdk.tcamMgrAllocEntry hw aclTable.aclType level).2 = priority hw
  keepsFree : ∀ hw (aclTable : AclTable) id,
    priority (xdk.tcamMgrFreeEntry hw aclTable.aclType id) = priority hw
  keepsKey : ∀ hw aclTable index key,
    priority (xdk.iaclWriteKey hw aclTable index key) = priority hw
  keepsData : ∀ hw aclTable index data,
    priority (xdk.iaclWriteData hw aclTable index data) = priority hw
  keepsRouterId : ∀ hw l3Intf aclId,
    priority (xdk.l3SetRouterAclId hw l3Intf aclId) = priority hw
  keepsRouterEnable : ∀ hw l3Intf enable,
    priority (xdk.l3SetRouterAclEnable hw l3Intf enable) = priority hw
  keepsPort : ∀ hw intf field value,
    priority (xdk.portSetField hw intf field value) = priority hw

/-! ## The egress table -/

section Egress

variable {xdk : Xdk Hw} {model : TcamModel xdk} (eacl : EaclModel model)
  (outcome : Outcome)

/-- Rules for egress are not written anywhere. -/
theorem createRule_eacl
    (aclId : Byte) (numEntries : Nat) (created : List AclRule × Hw)
    (item : ListEntry × Nat) :
    (createRule xdk outcome .eacl aclId numEntries created item).2 =
      (xdk.tcamMgrAllocEntry created.2 .eacl (numEntries - item.2)).2 := rfl

/-- The loop that creates rules leaves the three tables alone and frees no entry
of the egress table. -/
theorem EaclModel.createRules
    (aclId : Byte) (numEntries : Nat) (items : List (ListEntry × Nat))
    (created : List AclRule × Hw) :
    model.table (items.foldl (createRule xdk outcome .eacl aclId numEntries)
        created).2 = model.table created.2 ∧
      ∀ id, (eacl.priority created.2 id).isSome →
        (eacl.priority (items.foldl (createRule xdk outcome .eacl aclId numEntries)
          created).2 id).isSome := by
  induction items generalizing created with
  | nil => exact ⟨rfl, fun _ allocated => allocated⟩
  | cons item items inductionHypothesis =>
      obtain ⟨id, hw, answer, _, allocated, sameTables⟩ :=
        eacl.allocates created.2 (numEntries - item.2)
      have round : (createRule xdk outcome .eacl aclId numEntries created item).2 =
          hw := by
        rw [createRule_eacl, answer]
      obtain ⟨restTables, restKept⟩ := inductionHypothesis
        (createRule xdk outcome .eacl aclId numEntries created item)
      rw [List.foldl_cons]
      refine ⟨by rw [restTables, round, sameTables], ?_⟩
      intro other isAllocated
      refine restKept other ?_
      rw [round, allocated]
      by_cases same : other = id
      · subst same
        simp
      · rw [Function.update_of_ne same]
        exact isAllocated

/-- The loop allocates an entry of the egress table when it has a round. -/
theorem EaclModel.createRules_allocates
    (aclId : Byte) (numEntries : Nat) (item : ListEntry × Nat)
    (items : List (ListEntry × Nat)) (created : List AclRule × Hw) :
    eacl.priority ((item :: items).foldl
      (createRule xdk outcome .eacl aclId numEntries) created).2 ≠
        eacl.priority created.2 := by
  obtain ⟨id, hw, answer, free, allocated, _⟩ :=
    eacl.allocates created.2 (numEntries - item.2)
  have round : (createRule xdk outcome .eacl aclId numEntries created item).2 = hw := by
    rw [createRule_eacl, answer]
  intro same
  rw [List.foldl_cons] at same
  have kept := (eacl.createRules outcome aclId numEntries items
    (createRule xdk outcome .eacl aclId numEntries created item)).2 id
    (by rw [round, allocated]; simp)
  rw [same, free] at kept
  cases kept

/-- Settings of interfaces leave the egress table alone. -/
theorem EaclModel.setInterfaceAcl_priority
    (bundle : BundleView) (info : InterfaceInfo) (enable : Bool) (aclId : Byte)
    (hw : Hw) :
    eacl.priority (setInterfaceAcl xdk bundle info enable aclId hw) =
      eacl.priority hw := by
  unfold setInterfaceAcl
  split
  · split
    · rw [eacl.keepsRouterEnable, eacl.keepsRouterId]
    · rfl
  · induction bundle.ports generalizing hw with
    | nil => rfl
    | cons intf ports inductionHypothesis =>
        rw [List.foldl_cons, inductionHypothesis, eacl.keepsPort, eacl.keepsPort]
  · rfl

theorem EaclModel.writeRule_priority
    (aclTable : AclTable) (index : Nat) (rule : IaclkeyFieldList × IaclData)
    (hw : Hw) :
    eacl.priority (writeRule xdk aclTable.aclType index rule hw) =
      eacl.priority hw := by
  unfold writeRule
  rw [table_aclType]
  simp only
  rw [eacl.keepsData, eacl.keepsKey]

/-- The rules of the three tables leave the egress table alone. -/
theorem EaclModel.createRules_mapped
    (aclTable : AclTable) (aclId : Byte) (numEntries : Nat)
    (items : List (ListEntry × Nat)) (created : List AclRule × Hw) :
    eacl.priority (items.foldl (createRule xdk outcome aclTable.aclType aclId
      numEntries) created).2 = eacl.priority created.2 := by
  induction items generalizing created with
  | nil => rfl
  | cons item items inductionHypothesis =>
      rw [List.foldl_cons, inductionHypothesis]
      simp only [createRule]
      rw [eacl.writeRule_priority, eacl.keepsAlloc]

theorem EaclModel.destroyRules_mapped
    (aclTable : AclTable) (rules : List AclRule) (hw : Hw) :
    eacl.priority (rules.foldl (destroyRule xdk outcome aclTable.aclType) hw) =
      eacl.priority hw := by
  induction rules generalizing hw with
  | nil => rfl
  | cons rule rules inductionHypothesis =>
      rw [List.foldl_cons, inductionHypothesis]
      simp only [destroyRule]
      rw [eacl.keepsFree, eacl.writeRule_priority]

end Egress

/-! ## Requests for egress -/

section Unmapped

variable [DecidableEq Uuid] {xdk : Xdk Hw} {outcome : Outcome} {cls : Cls Uuid Hw}
  {list : ClsList Uuid} {bundle : Option BundleView} {info : InterfaceInfo}
  {direction : Direction}

/-- Requests are for ingress or egress, on ports and VLANs. -/
def Addressed (info : InterfaceInfo) (direction : Direction) : Prop :=
  direction ≠ .other ∧ info.interface ≠ .other

theorem Addressed.cases
    (addressed : Addressed info direction) :
    (∃ table, (clsGetType info direction).table = some table) ∨
      direction = .egress := by
  cases direction with
  | ingress => exact .inl (clsGetType_table rfl addressed.2)
  | egress => exact .inr rfl
  | other => exact absurd rfl addressed.1

variable (xdk outcome cls list info) in
/-- `ops_xp_cls_acl_add` for egress changes no map, and takes a new ACL id when no
entry of the list has one. -/
theorem clsAclAdd_egress :
    (clsAclAdd xdk outcome cls list info .egress).2.2.classifierHmap =
        cls.classifierHmap ∧
      cls.aclIds ⊆ (clsAclAdd xdk outcome cls list info .egress).2.2.aclIds ∧
      ((allocatedAclId cls list.listId).isSome →
        (clsAclAdd xdk outcome cls list info .egress).2.2.aclIds = cls.aclIds) ∧
      ∀ fresh, allocatedAclId cls list.listId = none →
        outcome.aclIdAllocEntry = some fresh →
        (clsAclAdd xdk outcome cls list info .egress).2.2.aclIds =
          insert fresh cls.aclIds := by
  unfold clsAclAdd
  cases allocatedAclId cls list.listId with
  | none =>
      cases outcome.aclIdAllocEntry with
      | none => exact ⟨rfl, fun _ used => used, nofun, nofun⟩
      | some fresh =>
          refine ⟨rfl, Finset.subset_insert .., nofun, ?_⟩
          rintro _ _ ⟨⟩
          rfl
  | some shared => exact ⟨rfl, fun _ used => used, fun _ => rfl, nofun⟩

/-- The egress table and the three tables after `ops_xp_cls_acl_add` for egress. -/
theorem clsAclAdd_egress_hw
    (xdk : Xdk Hw) (outcome : Outcome) (cls : Cls Uuid Hw) (list : ClsList Uuid)
    (info : InterfaceInfo) :
    ∃ aclId, (clsAclAdd xdk outcome cls list info .egress).2.2.hw =
      ((list.entries.getD []).zipIdx.foldl (createRule xdk outcome .eacl aclId
        (list.entries.getD []).length) ([], cls.hw)).2 := by
  obtain ⟨_, _, created⟩ := clsAclAdd_rules xdk outcome cls list info .egress
  exact ⟨_, (Prod.mk.inj created).2⟩

variable (xdk outcome cls) in
/-- `ops_xp_cls_apply` for egress that is not refused. -/
theorem clsApply_egress
    (accepted : (bundleReady bundle info && list.supported) = true) :
    ∃ view status aclId, bundle = some view ∧
      clsApply xdk outcome cls list bundle info .egress .success = (none, status,
        { (clsAclAdd xdk outcome cls list info .egress).2.2 with
          hw := setInterfaceAcl xdk view info true aclId
            (clsAclAdd xdk outcome cls list info .egress).2.2.hw }) ∧
      status.statusCode = .success := by
  obtain ⟨ready, supported⟩ := Bool.and_eq_true_iff.mp accepted
  have status := clsValidateEntries_statusCode list .success
  rw [if_pos supported] at status
  unfold clsApply
  cases bundle with
  | none => cases ready
  | some view =>
      simp only [ready, Bool.not_true, Bool.false_eq_true, if_false, clsHmapLookup,
        clsGetType, AclType.table]
      rw [if_neg (by rw [status]; decide)]
      exact ⟨view, _, _, rfl, rfl, status⟩

/-- `ops_xp_cls_remove` finds nothing for egress. -/
theorem clsRemove_egress
    (listId : Uuid) :
    (clsRemove xdk outcome cls listId bundle info .egress).2 = cls := by
  unfold clsRemove
  cases bundle with
  | none => rfl
  | some view =>
      simp only [clsGetType, AclType.table]
      split <;> rfl

end Unmapped

/-! ## What requests are made of -/

/-- A property that everything a request is made of keeps, as long as the lists it
brings are of a kind. -/
structure RequestClosed (xdk : Xdk Hw) (outcome : Outcome) [DecidableEq Uuid]
    (brought : ClsList Uuid → Prop) (property : Cls Uuid Hw → Prop) : Prop where
  set : ∀ {cls} (view : BundleView) (info : InterfaceInfo) (enable : Bool) (aclId : Byte),
    property cls →
    property { cls with hw := setInterfaceAcl xdk view info enable aclId cls.hw }
  adjust : ∀ {cls} (table : AclTable) (listId : Uuid) (change : UInt16 → UInt16),
    property cls → property (adjustIntfs cls table listId change)
  aclAdd : ∀ {cls} {list : ClsList Uuid} {info : InterfaceInfo} {direction : Direction}
      {table : AclTable}, property cls → brought list →
    (clsGetType info direction).table = some table →
    AllocatesFresh cls outcome list.listId →
    (∀ e ∈ cls.classifierHmap table, e.listUid ≠ list.listId) →
    property (clsAclAdd xdk outcome cls list info direction).2.2
  aclAdd_egress : ∀ {cls} (list : ClsList Uuid) (info : InterfaceInfo), property cls →
    property (clsAclAdd xdk outcome cls list info .egress).2.2
  aclDelete : ∀ {cls} {table : AclTable} {e present : AclEntry Uuid}, property cls →
    present ∈ cls.classifierHmap table →
    { e with numIntfs := present.numIntfs } = present →
    property (clsAclDelete xdk outcome cls e table)

/-- A request that the XDK can serve. -/
structure Served [DecidableEq Uuid] (cls : Cls Uuid Hw) (operation : Operation Uuid) :
    Prop where
  addressed : Addressed operation.info operation.direction
  allocates : ∀ list, operation.request.Brings list →
    AllocatesFresh cls operation.outcome list.listId

namespace RequestClosed

variable [DecidableEq Uuid] {xdk : Xdk Hw} {outcome : Outcome} {cls : Cls Uuid Hw}
  {list : ClsList Uuid} {bundle : Option BundleView} {info : InterfaceInfo}
  {direction : Direction} {brought : ClsList Uuid → Prop}
  {property : Cls Uuid Hw → Prop}

theorem apply
    (closed : RequestClosed xdk outcome brought property)
    (holds : property cls)
    (brings : brought list)
    (addressed : Addressed info direction)
    (allocates : AllocatesFresh cls outcome list.listId) :
    property (clsApply xdk outcome cls list bundle info direction .success).2.2 := by
  cases accepted : bundleReady bundle info && list.supported with
  | false =>
      rw [clsApply_rejected accepted]
      exact holds
  | true =>
      rcases addressed.cases with ⟨table, typed⟩ | rfl
      · obtain ⟨view, status, e, found, _, result, _, finds⟩ :=
          clsApply_accepted xdk outcome cls typed accepted
        have foundHolds : property found := by
          cases finds with
          | present _ _ => exact holds
          | added missing => exact closed.aclAdd holds brings typed allocates missing
        rw [result]
        exact closed.adjust table list.listId (· + 1)
          (closed.set view info true e.aclId foundHolds)
      · obtain ⟨view, status, aclId, _, result, _⟩ :=
          clsApply_egress xdk outcome cls accepted
        rw [result]
        exact closed.set _ _ _ _ (closed.aclAdd_egress list info holds)

theorem lowered
    (closed : RequestClosed xdk outcome brought property)
    (holds : property cls)
    (view : BundleView) (info : InterfaceInfo) (table : AclTable) (listId : Uuid) :
    property (lowered xdk cls view info table listId) :=
  closed.adjust table listId _ (closed.set view info false 0#8 holds)

theorem remove
    (closed : RequestClosed xdk outcome brought property)
    (holds : property cls)
    (addressed : Addressed info direction)
    (listId : Uuid) :
    property (clsRemove xdk outcome cls listId bundle info direction).2 := by
  rcases addressed.cases with ⟨table, typed⟩ | rfl
  · cases ready : bundleReady bundle info with
    | false =>
        rw [clsRemove_notReady ready]
        exact holds
    | true =>
        cases found : clsHmapLookup cls listId info direction with
        | none =>
            rw [clsRemove_absent ready found]
            exact holds
        | some e =>
            obtain ⟨eMember, uid⟩ := clsHmapLookup_some typed found
            obtain ⟨view, _, result⟩ := @clsRemove_present _ _ _ xdk outcome _ _ _ _ _
              _ _ typed ready found
            have low := closed.lowered holds view info table listId
            rw [result]
            split
            · exact closed.aclDelete low (mem_lowered eMember uid) rfl
            · exact low
  · rw [clsRemove_egress]
    exact holds

theorem replace
    {listIdOrig : Uuid}
    (closed : RequestClosed xdk outcome brought property)
    (holds : property cls)
    (brings : brought list)
    (addressed : Addressed info direction)
    (allocates : AllocatesFresh cls outcome list.listId) :
    property (clsReplace xdk outcome cls listIdOrig list bundle info direction
      .success).2.2 := by
  cases found : clsHmapLookup cls listIdOrig info direction with
  | none =>
      rw [clsReplace_absent found]
      exact holds
  | some e =>
      rcases addressed.cases with ⟨table, typed⟩ | rfl
      · cases ready : bundleReady bundle info with
        | false =>
            rw [clsReplace_notReady ready]
            exact holds
        | true =>
            cases bundle with
            | none => cases ready
            | some view =>
                have low := closed.lowered holds view info table listIdOrig
                cases supported : list.supported with
                | false =>
                    rw [clsReplace_refused typed ready found supported]
                    exact closed.adjust _ _ _ (closed.set _ _ _ _ low)
                | true =>
                    have applied : property (clsApply xdk outcome (Classifier.lowered
                        xdk cls view info table listIdOrig) list (some view) info
                        direction .success).2.2 :=
                      closed.apply low brings addressed
                        (allocates.adjust table listIdOrig _)
                    obtain ⟨_, status, _, _, _, result, success, _⟩ :=
                      clsApply_accepted xdk outcome (Classifier.lowered xdk cls view
                        info table listIdOrig) typed
                        (Bool.and_eq_true_iff.mpr ⟨ready, supported⟩)
                    rw [result] at applied
                    rw [clsReplace_accepted typed ready found result success]
                    split
                    · rename_i present search
                      split
                      · exact closed.aclDelete applied (List.mem_of_find?_eq_some search)
                          rfl
                      · exact applied
                    · exact applied
      · cases found

/-- Every request keeps the property. -/
theorem request
    {operation : Operation Uuid}
    (closed : RequestClosed xdk operation.outcome brought property)
    (holds : property cls)
    (brings : ∀ list, operation.request.Brings list → brought list)
    (served : Served cls operation) : property (nextCls xdk cls operation) := by
  unfold nextCls
  cases requested : operation.request with
  | apply list =>
      exact closed.apply holds (brings list (.inl requested)) served.addressed
        (served.allocates list (.inl requested))
  | remove listId => exact closed.remove holds served.addressed listId
  | replace listIdOrig listNew =>
      exact closed.replace holds (brings listNew (.inr ⟨listIdOrig, requested⟩))
        served.addressed (served.allocates listNew (.inr ⟨listIdOrig, requested⟩))

end RequestClosed

/-! ## What requests keep -/

/-- Entries of different lists have different ids, and the three tables hold the
contents of the entries and nothing else. -/
structure Sound {xdk : Xdk Hw} (model : TcamModel xdk) (cls : Cls Uuid Hw) : Prop where
  ids : SharedIds cls
  installed : ∃ contents, Installed contents model cls

section Keeps

variable [DecidableEq Uuid] {xdk : Xdk Hw} {model : TcamModel xdk} {outcome : Outcome}
  {cls : Cls Uuid Hw} {list : ClsList Uuid} {bundle : Option BundleView}
  {info : InterfaceInfo} {direction : Direction} {table : AclTable}

omit [DecidableEq Uuid] in
theorem Sound.set
    (sound : Sound model cls)
    (view : BundleView) (info : InterfaceInfo) (enable : Bool) (aclId : Byte) :
    Sound model
      { cls with hw := setInterfaceAcl xdk view info enable aclId cls.hw } := by
  obtain ⟨contents, installed⟩ := sound.installed
  exact ⟨sound.ids.setHw _, contents, installed.set view info enable aclId⟩

theorem Sound.adjust
    (sound : Sound model cls)
    (table : AclTable) (listId : Uuid) (change : UInt16 → UInt16) :
    Sound model (adjustIntfs cls table listId change) := by
  obtain ⟨contents, installed⟩ := sound.installed
  exact ⟨sound.ids.adjust table listId change, contents,
    installed.adjust table listId change⟩

/-- Other contents for a list in a table. -/
def retarget (contents : AclTable → Uuid → List ListEntry) (table : AclTable)
    (listId : Uuid) (entries : List ListEntry) : AclTable → Uuid → List ListEntry :=
  Function.update contents table (Function.update (contents table) listId entries)

theorem retarget_self
    (contents : AclTable → Uuid → List ListEntry) (table : AclTable) (listId : Uuid)
    (entries : List ListEntry) :
    retarget contents table listId entries table listId = entries := by
  simp [retarget]

theorem retarget_other
    {contents : AclTable → Uuid → List ListEntry} {table other : AclTable}
    {listId uid : Uuid} {entries : List ListEntry}
    (elsewhere : ¬(other = table ∧ uid = listId)) :
    retarget contents table listId entries other uid = contents other uid := by
  unfold retarget
  by_cases same : other = table
  · subst same
    rw [Function.update_self, Function.update_of_ne (fun equal => elsewhere ⟨rfl, equal⟩)]
  · rw [Function.update_of_ne same]

theorem Sound.aclAdd
    (sound : Sound model cls)
    (typed : (clsGetType info direction).table = some table)
    (allocates : AllocatesFresh cls outcome list.listId)
    (missing : ∀ e ∈ cls.classifierHmap table, e.listUid ≠ list.listId) :
    Sound model (clsAclAdd xdk outcome cls list info direction).2.2 := by
  obtain ⟨contents, installed⟩ := sound.installed
  refine ⟨sound.ids.aclAdd xdk typed allocates missing,
    retarget contents table list.listId (list.entries.getD []), ?_⟩
  refine Installed.aclAdd (installed.congr ?_) typed (retarget_self ..)
  intro other e member
  refine retarget_other ?_
  rintro ⟨rfl, same⟩
  exact missing e member same

theorem Sound.aclDelete
    {e present : AclEntry Uuid}
    (sound : Sound model cls)
    (member : present ∈ cls.classifierHmap table)
    (sameEntry : { e with numIntfs := present.numIntfs } = present) :
    Sound model (clsAclDelete xdk outcome cls e table) := by
  obtain ⟨contents, installed⟩ := sound.installed
  refine ⟨sound.ids.aclDelete member ?_ ?_, contents,
    installed.aclDelete (sound.ids.uuidOnce table) member sameEntry⟩
  · rw [← sameEntry]
  · rw [← sameEntry]

/-- `ops_xp_cls_acl_add` for egress. -/
theorem Sound.aclAdd_egress
    (eacl : EaclModel model)
    (sound : Sound model cls)
    (info : InterfaceInfo) :
    Sound model (clsAclAdd xdk outcome cls list info .egress).2.2 := by
  obtain ⟨contents, installed⟩ := sound.installed
  obtain ⟨sameMaps, grown, _⟩ := clsAclAdd_egress xdk outcome cls list info
  obtain ⟨aclId, hw⟩ := clsAclAdd_egress_hw xdk outcome cls list info
  have sameTables : model.table (clsAclAdd xdk outcome cls list info .egress).2.2.hw =
      model.table cls.hw := by
    rw [hw]
    exact (eacl.createRules outcome aclId _ _ _).1
  have same : (clsAclAdd xdk outcome cls list info .egress).2.2 = { cls with
      aclIds := (clsAclAdd xdk outcome cls list info .egress).2.2.aclIds
      hw := (clsAclAdd xdk outcome cls list info .egress).2.2.hw } := by
    rw [← sameMaps]
  rw [same]
  refine ⟨⟨sound.ids.idIff, sound.ids.uuidOnce, ?_⟩, contents,
    installed.setHw sameTables⟩
  intro other e member
  exact grown (sound.ids.used other e member)

variable (Uuid outcome) in
theorem Sound.requestClosed (eacl : EaclModel model) :
    RequestClosed xdk outcome (fun _ : ClsList Uuid => True) (Sound model) where
  set := fun view info enable aclId sound => sound.set view info enable aclId
  adjust := fun table listId change sound => sound.adjust table listId change
  aclAdd := fun sound _ typed allocates missing => sound.aclAdd typed allocates missing
  aclAdd_egress := fun _ info sound => sound.aclAdd_egress eacl info
  aclDelete := fun sound member same => sound.aclDelete member same

/-- Every request keeps the classifier sound. -/
theorem Sound.request
    {operation : Operation Uuid}
    (eacl : EaclModel model)
    (sound : Sound model cls)
    (served : Served cls operation) : Sound model (nextCls xdk cls operation) :=
  (Sound.requestClosed Uuid operation.outcome eacl).request sound (fun _ _ => trivial)
    served

theorem Sound.init
    {hw : Hw}
    (clean : model.Clean hw) : Sound model (clsInit Uuid hw) where
  ids := (clsInit_idsInv hw).toMapsInv.shared
  installed := by
    have inv : RunInv (fun _ : Uuid => none) model ⟨clsInit Uuid hw, []⟩ :=
      RunInv.init clean
    exact ⟨_, tcamInv_iff_installed.mp inv.tcam⟩

end Keeps

/-! ## A concrete egress table -/

/-- An XDK with the entries of an egress table beside its hardware. -/
def Xdk.withEgress (xdk : Xdk Hw) : Xdk (Hw × List (Nat × Nat)) where
  zeroCmd := xdk.zeroCmd
  tcamMgrAllocEntry hw aclType priority :=
    if aclType = .eacl then
      (some (unusedEntry hw.2), hw.1, (unusedEntry hw.2, priority) :: hw.2)
    else
      ((xdk.tcamMgrAllocEntry hw.1 aclType priority).1,
        (xdk.tcamMgrAllocEntry hw.1 aclType priority).2, hw.2)
  tcamMgrTcamIdFromEntryGet hw := xdk.tcamMgrTcamIdFromEntryGet hw.1
  tcamMgrFreeEntry hw aclType entryId :=
    if aclType = .eacl then (hw.1, hw.2.filter (·.1 != entryId))
    else (xdk.tcamMgrFreeEntry hw.1 aclType entryId, hw.2)
  iaclWriteKey hw table tcamId key := (xdk.iaclWriteKey hw.1 table tcamId key, hw.2)
  iaclWriteData hw table tcamId data := (xdk.iaclWriteData hw.1 table tcamId data, hw.2)
  l3SetRouterAclId hw l3Intf aclId := (xdk.l3SetRouterAclId hw.1 l3Intf aclId, hw.2)
  l3SetRouterAclEnable hw l3Intf enable :=
    (xdk.l3SetRouterAclEnable hw.1 l3Intf enable, hw.2)
  portSetField hw intf field value := (xdk.portSetField hw.1 intf field value, hw.2)

theorem aclType_ne_eacl (aclTable : AclTable) : aclTable.aclType ≠ .eacl := by
  cases aclTable <;> decide

/-- The egress table has nothing to do with the three tables. -/
def TcamModel.withEgress {xdk : Xdk Hw} (model : TcamModel xdk) :
    TcamModel xdk.withEgress where
  table hw := model.table hw.1
  allocates := by
    intro hw aclTable priority
    obtain ⟨id, hw', answer, allocates, sameOthers⟩ :=
      model.allocates hw.1 aclTable priority
    refine ⟨id, (hw', hw.2), ?_, allocates, sameOthers⟩
    simp only [Xdk.withEgress, if_neg (aclType_ne_eacl aclTable), answer]
  frees := by
    intro hw aclTable id allocated
    simp only [Xdk.withEgress, if_neg (aclType_ne_eacl aclTable)]
    exact model.frees hw.1 aclTable id allocated
  locates := fun hw => model.locates hw.1
  writesKey := fun hw => model.writesKey hw.1
  writesData := fun hw => model.writesData hw.1
  setsRouterId := fun hw => model.setsRouterId hw.1
  setsRouterEnable := fun hw => model.setsRouterEnable hw.1
  setsPort := fun hw => model.setsPort hw.1

/-- The egress table keeps its laws. -/
def egressTable {xdk : Xdk Hw} (model : TcamModel xdk) :
    EaclModel model.withEgress where
  priority hw id := (hw.2.find? (·.1 == id)).map (·.2)
  allocates := by
    intro hw level
    refine ⟨unusedEntry hw.2, (hw.1, (unusedEntry hw.2, level) :: hw.2), ?_, ?_, ?_,
      rfl⟩
    · simp only [Xdk.withEgress, if_true]
    · simp only [Option.map_eq_none_iff, List.find?_eq_none]
      intro entry member
      have below := lt_unusedEntry member
      simpa using Nat.ne_of_lt below
    · funext id
      by_cases same : id = unusedEntry hw.2
      · subst same
        simp
      · simp [Function.update_of_ne same, List.find?_cons_of_neg, Ne.symm same]
  keepsAlloc := by
    intro hw aclTable level
    simp only [Xdk.withEgress, if_neg (aclType_ne_eacl aclTable)]
  keepsFree := by
    intro hw aclTable id
    simp only [Xdk.withEgress, if_neg (aclType_ne_eacl aclTable)]
  keepsKey := fun _ _ _ _ => rfl
  keepsData := fun _ _ _ _ => rfl
  keepsRouterId := fun _ _ _ => rfl
  keepsRouterEnable := fun _ _ _ => rfl
  keepsPort := fun _ _ _ _ => rfl

theorem clean_emptyTcam : indexedModel.withEgress.Clean (emptyTcam, []) :=
  fun _ => ⟨fun _ => rfl, fun _ => allocResetFieldData_not_valid .fwd⟩

end Classifier
end XpliantSwitchd
