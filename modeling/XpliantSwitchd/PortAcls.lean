import XpliantSwitchd.Bundles.Kept
import XpliantSwitchd.Classifier.Rules

/-!
# ACL settings of the ports of bundles

A list is applied on a bundle, and the hardware filters on ports: applying a list
sets `XPS_PORT_ACL_EN` and `XPS_PORT_ACL_ID` of the ports that the bundle has at
that moment.  The functions that add ports to bundles and take them away do not
touch the two fields.  This module puts the classifier and the bundles of a
bridge together and says when the fields are right.
-/

namespace XpliantSwitchd
namespace PortAcls

open Ternary Bundles
open Classifier (Cls AclEntry AclTable AclRule ListEntry ClsList BundleView InterfaceInfo
  PortField Request Outcome Application Direction)

variable {Uuid Hw : Type}

/-! ## The fields of a port -/

/-- What is assumed of the ACL fields of ports: a write sets one field of one port,
and the other calls leave the fields alone. -/
structure PortModel (xdk : Classifier.Xdk Hw) where
  field : Hw → Nat → PortField → Byte
  setsPort : ∀ hw intf portField value,
    field (xdk.portSetField hw intf portField value) = Function.update (field hw) intf
      (Function.update (field hw intf) portField value)
  allocates : ∀ hw aclType priority,
    field (xdk.tcamMgrAllocEntry hw aclType priority).2 = field hw
  frees : ∀ hw aclType entryId,
    field (xdk.tcamMgrFreeEntry hw aclType entryId) = field hw
  writesKey : ∀ hw table tcamId key,
    field (xdk.iaclWriteKey hw table tcamId key) = field hw
  writesData : ∀ hw table tcamId data,
    field (xdk.iaclWriteData hw table tcamId data) = field hw

section Fields

variable {xdk : Classifier.Xdk Hw} (model : PortModel xdk) {outcome : Outcome}

/-- `XPS_PORT_ACL_EN` and `XPS_PORT_ACL_ID` of an interface. -/
def portAcl (hw : Hw) (intf : Nat) : Byte × Byte :=
  (model.field hw intf .aclEn, model.field hw intf .aclId)

theorem field_writeRule
    (aclType : Classifier.AclType) (tcamId : Nat)
    (rule : Classifier.IaclkeyFieldList × Classifier.IaclData) (hw : Hw) :
    model.field (Classifier.writeRule xdk aclType tcamId rule hw) = model.field hw := by
  unfold Classifier.writeRule
  split
  · rw [model.writesData, model.writesKey]
  · rfl

theorem field_createRules
    (aclType : Classifier.AclType) (aclId : Byte) (numEntries : Nat)
    (items : List (ListEntry × Nat)) (created : List AclRule × Hw) :
    model.field (items.foldl (Classifier.createRule xdk outcome aclType aclId numEntries)
      created).2 = model.field created.2 := by
  induction items generalizing created with
  | nil => rfl
  | cons item items inductionHypothesis =>
      rw [List.foldl_cons, inductionHypothesis]
      simp only [Classifier.createRule]
      rw [field_writeRule, model.allocates]

theorem field_destroyRules
    (aclType : Classifier.AclType) (rules : List AclRule) (hw : Hw) :
    model.field (rules.foldl (Classifier.destroyRule xdk outcome aclType) hw) =
      model.field hw := by
  induction rules generalizing hw with
  | nil => rfl
  | cons rule rules inductionHypothesis =>
      rw [List.foldl_cons, inductionHypothesis]
      simp only [Classifier.destroyRule]
      rw [model.frees, field_writeRule]

variable [DecidableEq Uuid]

theorem field_clsAclAdd
    (cls : Cls Uuid Hw) (list : ClsList Uuid) (info : InterfaceInfo)
    (direction : Direction) :
    model.field (Classifier.clsAclAdd xdk outcome cls list info direction).2.2.hw =
      model.field cls.hw := by
  obtain ⟨_, _, created⟩ :=
    Classifier.clsAclAdd_rules xdk outcome cls list info direction
  have sameHw := congrArg Prod.snd created
  simp only at sameHw
  rw [sameHw, field_createRules]

theorem field_clsAclDelete
    (cls : Cls Uuid Hw) (e : AclEntry Uuid) (table : AclTable) :
    model.field (Classifier.clsAclDelete xdk outcome cls e table).hw =
      model.field cls.hw := by
  rw [Classifier.clsAclDelete_hw, Classifier.clsDestroyRuleEntryList,
    field_destroyRules]

omit [DecidableEq Uuid] in
/-- The loop over the ports of a bundle sets both fields of each. -/
theorem portAcl_setInterfaceAcl
    {info : InterfaceInfo}
    (onPort : info.interface = .port)
    (view : BundleView) (enable : Bool) (aclId : Byte) (hw : Hw) (intf : Nat) :
    portAcl model (Classifier.setInterfaceAcl xdk view info enable aclId hw) intf =
      if intf ∈ view.ports then (if enable then 1#8 else 0#8, aclId)
      else portAcl model hw intf := by
  unfold Classifier.setInterfaceAcl
  simp only [onPort]
  induction view.ports generalizing hw with
  | nil => simp
  | cons port ports inductionHypothesis =>
      rw [List.foldl_cons, inductionHypothesis]
      by_cases later : intf ∈ ports
      · simp [later]
      · rw [if_neg later]
        by_cases same : intf = port
        · subst same
          simp [portAcl, model.setsPort]
        · simp [portAcl, model.setsPort, later, same]

end Fields

/-! ## What a request does -/

section Requests

variable [DecidableEq Uuid] {xdk : Classifier.Xdk Hw} {model : PortModel xdk}
  {outcome : Outcome} {cls : Cls Uuid Hw} {info : InterfaceInfo}
  {direction : Direction} {bundle : Option BundleView} {table : AclTable}
  {list : ClsList Uuid} {listId : Uuid}

/-- A request sets the fields of the ports of a bundle and keeps the ACL ids of
the lists. -/
structure Performs (model : PortModel xdk) (before after : Cls Uuid Hw)
    (view : BundleView) (setting : Byte × Byte) : Prop where
  settings : ∀ intf, portAcl model after.hw intf =
    if intf ∈ view.ports then setting else portAcl model before.hw intf
  sameIds : ∀ table, ∀ e ∈ before.classifierHmap table,
    ∀ x ∈ after.classifierHmap table, x.listUid = e.listUid → x.aclId = e.aclId

theorem sameIds_of_grows
    {lists : Uuid → Option (List ListEntry)} {grown after : Cls Uuid Hw}
    (maps : Classifier.MapsInv cls)
    (grows : Classifier.Grows xdk outcome lists cls grown)
    (ends : Classifier.Ends xdk outcome grown after) :
    ∀ table, ∀ e ∈ cls.classifierHmap table,
      ∀ x ∈ after.classifierHmap table, x.listUid = e.listUid → x.aclId = e.aclId := by
  intro table e member x xMember sameUid
  obtain ⟨kept, keptMember, keptId, keptUid⟩ := grows.persists member
  have same := ((grows.maps maps).idIff table x (ends.mem xMember) table kept
    keptMember).mpr (sameUid.trans keptUid.symm)
  exact same.trans keptId

/-- The hardware fields after the entry for a list was found or made. -/
theorem field_finds
    {e : AclEntry Uuid} {found : Cls Uuid Hw}
    (finds : Classifier.Finds xdk outcome cls list info direction table e found) :
    model.field found.hw = model.field cls.hw := by
  cases finds with
  | present _ _ => rfl
  | added _ => exact field_clsAclAdd model cls list info direction

/-- The entry that was found or made is that of the list. -/
theorem aclId_finds
    {lists : Uuid → Option (List ListEntry)}
    {start found : Cls Uuid Hw} {e x : AclEntry Uuid}
    (maps : Classifier.MapsInv start)
    (grows : Classifier.Grows xdk outcome lists start found)
    (typed : (Classifier.clsGetType info direction).table = some table)
    (finds : Classifier.Finds xdk outcome cls list info direction table e found)
    (member : x ∈ found.classifierHmap table)
    (isList : x.listUid = list.listId) : x.aclId = e.aclId := by
  have idIff := (grows.maps maps).idIff
  cases finds with
  | present eMember uid =>
      exact (idIff table x member table e eMember).mpr (isList.trans uid.symm)
  | added _ =>
      obtain ⟨new, aclIds, hw, result, uid, _⟩ :=
        Classifier.clsAclAdd_spec xdk outcome cls list typed
      rw [result] at member idIff ⊢
      have newMember : new ∈ Function.update cls.classifierHmap table
          (new :: cls.classifierHmap table) table :=
        Classifier.mem_cons_hmap.mpr (.inl ⟨rfl, rfl⟩)
      exact (idIff table x member table new newMember).mpr (isList.trans uid.symm)

/-- `ops_xp_cls_apply` that is not refused. -/
theorem clsApply_performs
    {start : Cls Uuid Hw}
    (maps : Classifier.MapsInv start)
    (grows : Classifier.Grows xdk outcome (fun _ => list.entries) start cls)
    (typed : (Classifier.clsGetType info direction).table = some table)
    (onPort : info.interface = .port)
    (accepted : (Classifier.bundleReady bundle info && list.supported) = true)
    (allocates : Classifier.AllocatesFresh cls outcome list.listId) :
    ∃ view status after aclId, bundle = some view ∧
      Classifier.clsApply xdk outcome cls list bundle info direction .success =
        (none, status, after) ∧ status.statusCode = .success ∧
      Classifier.Grows xdk outcome (fun _ => list.entries) start after ∧
      (∀ intf, portAcl model after.hw intf =
        if intf ∈ view.ports then (1#8, aclId) else portAcl model cls.hw intf) ∧
      ∀ x ∈ after.classifierHmap table, x.listUid = list.listId → x.aclId = aclId := by
  obtain ⟨view, status, e, found, isView, result, success, finds⟩ :=
    Classifier.clsApply_accepted xdk outcome cls typed accepted
  have foundGrows := grows.finds typed rfl allocates finds
  refine ⟨view, status, _, e.aclId, isView, result, success,
    .adjust _ _ _ (.set _ _ _ _ foundGrows), ?_, ?_⟩
  · intro intf
    have sameField : model.field found.hw = model.field cls.hw := field_finds finds
    have set := portAcl_setInterfaceAcl model onPort view true e.aclId found.hw intf
    rw [if_pos rfl] at set
    refine set.trans ?_
    simp only [portAcl, sameField]
  · intro x member isList
    obtain ⟨old, oldMember, sameId, sameUid⟩ := Classifier.of_mem_adjusted member
    rw [sameId]
    exact aclId_finds maps foundGrows typed finds oldMember (sameUid.symm.trans isList)

/-- `ops_xp_cls_remove` of a list that has an entry. -/
theorem clsRemove_performs
    {e : AclEntry Uuid}
    (maps : Classifier.MapsInv cls)
    (typed : (Classifier.clsGetType info direction).table = some table)
    (onPort : info.interface = .port)
    (ready : Classifier.bundleReady bundle info = true)
    (member : e ∈ cls.classifierHmap table)
    (isList : e.listUid = listId)
    (found : Classifier.clsHmapLookup cls listId info direction = some e) :
    ∃ view, bundle = some view ∧ Performs model cls
      (Classifier.clsRemove xdk outcome cls listId bundle info direction).2 view
      (0#8, 0#8) := by
  obtain ⟨view, isView, result⟩ := @Classifier.clsRemove_present _ _ _ xdk outcome _ _ _
    _ _ _ _ typed ready found
  have grows : Classifier.Grows xdk outcome (fun _ => none) cls
      (Classifier.lowered xdk cls view info table listId) :=
    .adjust _ _ _ (.set _ _ _ _ .start)
  have lowSettings : ∀ intf, portAcl model
      (Classifier.lowered xdk cls view info table listId).hw intf =
      if intf ∈ view.ports then (0#8, 0#8) else portAcl model cls.hw intf :=
    fun intf => portAcl_setInterfaceAcl model onPort view false 0#8 cls.hw intf
  refine ⟨view, isView, ?_⟩
  rw [result]
  split
  · refine ⟨?_, sameIds_of_grows maps grows
      (.delete (Classifier.mem_lowered member isList) rfl)⟩
    intro intf
    rw [← lowSettings intf]
    simp only [portAcl, field_clsAclDelete]
  · exact ⟨lowSettings, sameIds_of_grows maps grows .keep⟩

/-- `ops_xp_cls_replace` by a list that is accepted. -/
theorem clsReplace_performs
    {e : AclEntry Uuid}
    (maps : Classifier.MapsInv cls)
    (typed : (Classifier.clsGetType info direction).table = some table)
    (onPort : info.interface = .port)
    (ready : Classifier.bundleReady bundle info = true)
    (supported : list.supported = true)
    (found : Classifier.clsHmapLookup cls listId info direction = some e)
    (allocates : Classifier.AllocatesFresh cls outcome list.listId) :
    ∃ view aclId, bundle = some view ∧ Performs model cls
      (Classifier.clsReplace xdk outcome cls listId list bundle info direction
        .success).2.2 view (1#8, aclId) ∧
      ∀ x ∈ (Classifier.clsReplace xdk outcome cls listId list bundle info direction
        .success).2.2.classifierHmap table, x.listUid = list.listId →
          x.aclId = aclId := by
  cases bundle with
  | none => cases ready
  | some view =>
      have grows : Classifier.Grows xdk outcome (fun _ => list.entries) cls
          (Classifier.lowered xdk cls view info table listId) :=
        .adjust _ _ _ (.set _ _ _ _ .start)
      obtain ⟨view', status, after, aclId, isView, result, success, afterGrows, settings,
        ids⟩ := @clsApply_performs _ _ _ xdk model _ _ _ _ _ _ _ _ maps grows typed onPort
          (Bool.and_eq_true_iff.mpr ⟨ready, supported⟩)
          (allocates.adjust table listId (· - 1))
      cases isView
      have allSettings : ∀ intf, portAcl model after.hw intf =
          if intf ∈ view.ports then (1#8, aclId) else portAcl model cls.hw intf := by
        intro intf
        rw [settings]
        split
        · rfl
        · rename_i outside
          have low := portAcl_setInterfaceAcl model onPort view false 0#8 cls.hw intf
          rw [if_neg outside] at low
          exact low
      refine ⟨view, aclId, rfl, ?_⟩
      rw [Classifier.clsReplace_accepted typed ready found result success]
      split
      · rename_i present search
        split
        · refine ⟨⟨?_, sameIds_of_grows maps afterGrows
            (.delete (List.mem_of_find?_eq_some search) rfl)⟩, ?_⟩
          · intro intf
            rw [← allSettings intf]
            simp only [portAcl, field_clsAclDelete]
          · intro x member
            exact ids x (Classifier.mem_clsAclDelete member).1
        · exact ⟨⟨allSettings, sameIds_of_grows maps afterGrows .keep⟩, ids⟩
      · exact ⟨⟨allSettings, sameIds_of_grows maps afterGrows .keep⟩, ids⟩

/-- `ops_xp_cls_replace` by a list that is refused sets the old list again. -/
theorem clsReplace_refused_performs
    {e : AclEntry Uuid}
    (maps : Classifier.MapsInv cls)
    (typed : (Classifier.clsGetType info direction).table = some table)
    (onPort : info.interface = .port)
    (ready : Classifier.bundleReady bundle info = true)
    (unsupported : list.supported = false)
    (found : Classifier.clsHmapLookup cls listId info direction = some e) :
    ∃ view, bundle = some view ∧ Performs model cls
      (Classifier.clsReplace xdk outcome cls listId list bundle info direction
        .success).2.2 view (1#8, e.aclId) := by
  cases bundle with
  | none => cases ready
  | some view =>
      have grows : Classifier.Grows xdk outcome (fun _ => none) cls
          (Classifier.adjustIntfs { Classifier.lowered xdk cls view info table listId with
            hw := Classifier.setInterfaceAcl xdk view info true e.aclId
              (Classifier.lowered xdk cls view info table listId).hw } table listId
            (· + 1)) :=
        .adjust _ _ _ (.set _ _ _ _ (.adjust _ _ _ (.set _ _ _ _ .start)))
      refine ⟨view, rfl, ?_⟩
      rw [Classifier.clsReplace_refused typed ready found unsupported]
      refine ⟨?_, sameIds_of_grows maps grows .keep⟩
      intro intf
      have set := portAcl_setInterfaceAcl model onPort view true e.aclId
        (Classifier.lowered xdk cls view info table listId).hw intf
      have low := portAcl_setInterfaceAcl model onPort view false 0#8 cls.hw intf
      rw [if_pos rfl] at set
      refine set.trans ?_
      split
      · rfl
      · rename_i outside
        rw [if_neg outside] at low
        exact low

end Requests

/-! ## The switch -/

/-- The classifier and the bundles of a bridge.  The interface of an application is
the `aux` of a bundle. -/
structure Switch (Uuid Hw : Type) (bridge : Bridge) where
  acls : Classifier.System Uuid Hw
  ofproto : Ofproto bridge.vlanMaxCount

/-- What the switch daemon asks for: a request for ingress on a bundle, or an
operation on bundles. -/
inductive SwitchOperation (Uuid : Type) (bridge : Bridge)
  | acl (request : Request Uuid) (aux : Nat) (l3Only : Bool) (outcome : Outcome)
  | bundle (operation : Bundles.Operation bridge.vlanMaxCount)

section Runs

variable [DecidableEq Uuid] {xdk : Classifier.Xdk Hw} {bridge : Bridge}
  {model : PortModel xdk} {switch : Switch Uuid Hw bridge}

/-- What the classifier reads of the bundle of an `aux`.  Bundles of a bridge have
no L3 interface. -/
def bundleView (bridge : Bridge) (ofproto : Ofproto bridge.vlanMaxCount) (aux : Nat) :
    Option BundleView :=
  (bundleLookup ofproto aux).map fun bundle =>
    { ports := (bundle.ports.filterMap bridge.port?).map (·.ifId), l3Intf := none }

/-- A request for the ports of a bundle. -/
def aclOperation (switch : Switch Uuid Hw bridge) (request : Request Uuid) (aux : Nat)
    (l3Only : Bool) (outcome : Outcome) : Classifier.Operation Uuid where
  request := request
  interface := aux
  bundle := bundleView bridge switch.ofproto aux
  info := { interface := .port, l3Only := l3Only }
  direction := .ingress
  outcome := outcome

/-- The switch after an operation. -/
def step (xdk : Classifier.Xdk Hw) (switch : Switch Uuid Hw bridge) :
    SwitchOperation Uuid bridge → Switch Uuid Hw bridge
  | .acl request aux l3Only outcome =>
      { switch with
        acls := Classifier.step xdk switch.acls
          (aclOperation switch request aux l3Only outcome) }
  | .bundle operation =>
      { switch with ofproto := Bundles.step bridge switch.ofproto operation }

/-- A port belongs to the bundle of an `aux`. -/
def BelongsTo (ofproto : Ofproto bridge.vlanMaxCount) (port : OfPort) (aux : Nat) :
    Prop :=
  ∃ bundle, bundleLookup ofproto aux = some bundle ∧ port.ofpPort ∈ bundle.ports

/-- A port belongs to a bundle on which a list is applied. -/
def AppliedOn (switch : Switch Uuid Hw bridge) (port : OfPort) (listId : Uuid) : Prop :=
  ∃ aux, ⟨.pacl, listId, aux⟩ ∈ switch.acls.applied ∧
    BelongsTo switch.ofproto port aux

/-- The fields of the ports say what is applied on their bundles. -/
structure PortAclsConsistent (model : PortModel xdk) (switch : Switch Uuid Hw bridge) :
    Prop where
  enabled : ∀ port ∈ bridge.ports, port.ifId ≠ bridge.intfInvalidId →
    (model.field switch.acls.cls.hw port.ifId .aclEn = 1#8 ↔
      ∃ listId, AppliedOn switch port listId)
  aclId : ∀ port ∈ bridge.ports, port.ifId ≠ bridge.intfInvalidId → ∀ listId,
    AppliedOn switch port listId → ∃ e ∈ switch.acls.cls.classifierHmap .pacl,
      e.listUid = listId ∧ model.field switch.acls.cls.hw port.ifId .aclId = e.aclId
  cleared : ∀ port ∈ bridge.ports, port.ifId ≠ bridge.intfInvalidId →
    (∀ listId, ¬AppliedOn switch port listId) →
      portAcl model switch.acls.cls.hw port.ifId = (0#8, 0#8)

/-- What the switch daemon keeps to: requests follow the rules of the classifier, a
list is applied on a bundle that has none, and the XDK does not fail. -/
def Conventional (switch : Switch Uuid Hw bridge) : SwitchOperation Uuid bridge → Prop
  | .acl request aux l3Only outcome =>
      Classifier.Ruled switch.acls (aclOperation switch request aux l3Only outcome) ∧
      ∀ list, request = .apply list → ∀ a ∈ switch.acls.applied, a.interface ≠ aux
  | .bundle operation => ∀ call, operation.xdk.succeeds call = true

/-- No list comes to more than 65535 bundles, and no operation on bundles adds a port
to a bundle on which a list is applied, takes a port from it or destroys it. -/
def SparesFiltered (switch : Switch Uuid Hw bridge) :
    SwitchOperation Uuid bridge → Prop
  | .acl request aux l3Only outcome =>
      Classifier.WithinCount switch.acls
        (aclOperation switch request aux l3Only outcome)
  | .bundle operation => ∀ a ∈ switch.acls.applied, ∀ bundle,
      bundleLookup switch.ofproto a.interface = some bundle →
        LeavesPorts bridge a.interface bundle operation.event

/-- What operations keep. -/
structure Inv (model : PortModel xdk) (switch : Switch Uuid Hw bridge) : Prop where
  acls : Classifier.SystemInv switch.acls
  tied : Tied bridge switch.ofproto
  onPorts : ∀ a ∈ switch.acls.applied, a.table = .pacl
  onBundles : ∀ a ∈ switch.acls.applied, ∃ bundle,
    bundleLookup switch.ofproto a.interface = some bundle
  oncePerBundle : ∀ a ∈ switch.acls.applied, ∀ b ∈ switch.acls.applied,
    a.interface = b.interface → a = b
  set : ∀ port ∈ bridge.ports, port.ifId ≠ bridge.intfInvalidId →
    ∀ a ∈ switch.acls.applied, BelongsTo switch.ofproto port a.interface →
      ∀ e ∈ switch.acls.cls.classifierHmap .pacl, e.listUid = a.listId →
        portAcl model switch.acls.cls.hw port.ifId = (1#8, e.aclId)
  unset : ∀ port ∈ bridge.ports, port.ifId ≠ bridge.intfInvalidId →
    (∀ a ∈ switch.acls.applied, ¬BelongsTo switch.ofproto port a.interface) →
      portAcl model switch.acls.cls.hw port.ifId = (0#8, 0#8)

theorem Inv.consistent (inv : Inv model switch) : PortAclsConsistent model switch := by
  have applied : ∀ port ∈ bridge.ports, port.ifId ≠ bridge.intfInvalidId → ∀ listId,
      AppliedOn switch port listId → ∃ e ∈ switch.acls.cls.classifierHmap .pacl,
        e.listUid = listId ∧
          portAcl model switch.acls.cls.hw port.ifId = (1#8, e.aclId) := by
    rintro port isPort valid listId ⟨aux, member, belongs⟩
    obtain ⟨e, eMember, uid⟩ := inv.acls.ids.covered _ member
    exact ⟨e, eMember, uid, inv.set port isPort valid _ member belongs e eMember uid⟩
  have notApplied : ∀ port ∈ bridge.ports, port.ifId ≠ bridge.intfInvalidId →
      (∀ listId, ¬AppliedOn switch port listId) →
        portAcl model switch.acls.cls.hw port.ifId = (0#8, 0#8) := by
    intro port isPort valid none
    refine inv.unset port isPort valid ?_
    intro a member belongs
    have table := inv.onPorts a member
    exact none a.listId ⟨a.interface, by rw [← table]; exact member, belongs⟩
  refine ⟨?_, ?_, notApplied⟩
  · intro port isPort valid
    constructor
    · intro enabled
      by_contra none
      have cleared := notApplied port isPort valid fun listId on => none ⟨listId, on⟩
      have disabled := congrArg Prod.fst cleared
      simp only [portAcl] at disabled
      rw [enabled] at disabled
      exact absurd disabled (by decide)
    · rintro ⟨listId, on⟩
      obtain ⟨e, _, _, set⟩ := applied port isPort valid listId on
      exact congrArg Prod.fst set
  · intro port isPort valid listId on
    obtain ⟨e, member, uid, set⟩ := applied port isPort valid listId on
    exact ⟨e, member, uid, congrArg Prod.snd set⟩

/-! ## Requests -/

/-- The interface of a port is in the view of the bundle that lists the port. -/
theorem mem_bundleView
    {ofproto : Ofproto bridge.vlanMaxCount} {bundle : Bundle bridge.vlanMaxCount}
    {aux : Nat} {view : BundleView} {port : OfPort}
    (distinct : bridge.IntfsDistinct)
    (found : bundleLookup ofproto aux = some bundle)
    (isView : bundleView bridge ofproto aux = some view)
    (isPort : port ∈ bridge.ports)
    (valid : port.ifId ≠ bridge.intfInvalidId) :
    port.ifId ∈ view.ports ↔ port.ofpPort ∈ bundle.ports := by
  rw [bundleView, found] at isView
  cases isView
  simp only [List.mem_map, List.mem_filterMap]
  constructor
  · rintro ⟨other, ⟨ofpPort, inside, isFound⟩, sameId⟩
    obtain ⟨otherMember, number⟩ := mem_of_port? isFound
    have same := distinct port isPort other otherMember sameId.symm valid
    rw [same, number]
    exact inside
  · intro inside
    refine ⟨port, ⟨port.ofpPort, inside, ?_⟩, rfl⟩
    exact (KeyedList.find?_key_eq_some bridge.ofpPort_nodup).mpr ⟨isPort, rfl⟩

/-- A port belongs to one bundle only. -/
theorem aux_of_belongsTo
    {ofproto : Ofproto bridge.vlanMaxCount} {bundle : Bundle bridge.vlanMaxCount}
    {aux other : Nat} {port : OfPort}
    (tied : Tied bridge ofproto)
    (found : bundleLookup ofproto aux = some bundle)
    (inside : port.ofpPort ∈ bundle.ports)
    (belongs : BelongsTo ofproto port other) : other = aux := by
  obtain ⟨otherBundle, otherFound, otherInside⟩ := belongs
  have owner := (tied.points (List.mem_of_find?_eq_some found)).mpr inside
  rw [(tied.points (List.mem_of_find?_eq_some otherFound)).mpr otherInside] at owner
  by_contra different
  have kept : Kept aux bundle.id bundle.ports ofproto := ⟨bundle, found, rfl, rfl⟩
  have otherKept : Kept other otherBundle.id otherBundle.ports ofproto :=
    ⟨otherBundle, otherFound, rfl, rfl⟩
  exact kept.ne_of_aux otherKept tied different (Option.some.inj owner)

/-- The applications after a request differ on one bundle, whose ports get the
setting that goes with them. -/
theorem Inv.performs
    {acls' : Classifier.System Uuid Hw} {bundle : Bundle bridge.vlanMaxCount}
    {aux : Nat} {view : BundleView} {setting : Byte × Byte}
    (distinct : bridge.IntfsDistinct)
    (inv : Inv model switch)
    (found : bundleLookup switch.ofproto aux = some bundle)
    (isView : bundleView bridge switch.ofproto aux = some view)
    (performs : Performs model switch.acls.cls acls'.cls view setting)
    (aclsInv : Classifier.SystemInv acls')
    (elsewhere : ∀ a, a.interface ≠ aux →
      (a ∈ acls'.applied ↔ a ∈ switch.acls.applied))
    (here : ∀ a ∈ acls'.applied, a.interface = aux → a.table = .pacl ∧
      (∀ b ∈ acls'.applied, b.interface = aux → a = b) ∧
      ∀ e ∈ acls'.cls.classifierHmap .pacl, e.listUid = a.listId →
        setting = (1#8, e.aclId))
    (noneHere : (∀ a ∈ acls'.applied, a.interface ≠ aux) → setting = (0#8, 0#8)) :
    Inv model { switch with acls := acls' } := by
  have isBefore : ∀ a ∈ acls'.applied, a.interface ≠ aux → a ∈ switch.acls.applied :=
    fun a member different => (elsewhere a different).mp member
  have setting_of_inside : ∀ port ∈ bridge.ports, port.ifId ≠ bridge.intfInvalidId →
      port.ofpPort ∈ bundle.ports →
        portAcl model acls'.cls.hw port.ifId = setting := by
    intro port isPort valid inside
    rw [performs.settings,
      if_pos ((mem_bundleView distinct found isView isPort valid).mpr inside)]
  have unchanged : ∀ port ∈ bridge.ports, port.ifId ≠ bridge.intfInvalidId →
      port.ofpPort ∉ bundle.ports → portAcl model acls'.cls.hw port.ifId =
        portAcl model switch.acls.cls.hw port.ifId := by
    intro port isPort valid outside
    rw [performs.settings,
      if_neg fun inView => outside
        ((mem_bundleView distinct found isView isPort valid).mp inView)]
  refine ⟨aclsInv, inv.tied, ?_, ?_, ?_, ?_, ?_⟩
  · intro a member
    by_cases same : a.interface = aux
    · exact (here a member same).1
    · exact inv.onPorts a (isBefore a member same)
  · intro a member
    by_cases same : a.interface = aux
    · exact ⟨bundle, by rw [same]; exact found⟩
    · exact inv.onBundles a (isBefore a member same)
  · intro a member b otherMember sameInterface
    by_cases same : a.interface = aux
    · exact (here a member same).2.1 b otherMember (sameInterface.symm.trans same)
    · exact inv.oncePerBundle a (isBefore a member same) b
        (isBefore b otherMember (sameInterface ▸ same)) sameInterface
  · intro port isPort valid a member belongs e eMember uid
    by_cases same : a.interface = aux
    · rw [same] at belongs
      obtain ⟨current, currentFound, inside⟩ := belongs
      rw [found] at currentFound
      cases currentFound
      rw [setting_of_inside port isPort valid inside]
      exact (here a member same).2.2 e eMember uid
    · have before := isBefore a member same
      have outside : port.ofpPort ∉ bundle.ports := by
        intro inside
        exact same (aux_of_belongsTo inv.tied found inside belongs)
      have table := inv.onPorts a before
      obtain ⟨old, oldMember, oldUid⟩ := inv.acls.ids.covered a before
      rw [table] at oldMember
      rw [unchanged port isPort valid outside,
        performs.sameIds .pacl old oldMember e eMember (uid.trans oldUid.symm)]
      exact inv.set port isPort valid a before belongs old oldMember oldUid
  · intro port isPort valid none
    by_cases inside : port.ofpPort ∈ bundle.ports
    · rw [setting_of_inside port isPort valid inside]
      refine noneHere ?_
      intro a member same
      exact none a member ⟨bundle, by rw [same]; exact found, inside⟩
    · rw [unchanged port isPort valid inside]
      refine inv.unset port isPort valid ?_
      intro a member belongs
      have different : a.interface ≠ aux := by
        rintro rfl
        obtain ⟨current, currentFound, currentInside⟩ := belongs
        rw [found] at currentFound
        cases currentFound
        exact inside currentInside
      exact none a ((elsewhere a different).mpr member) belongs

omit [DecidableEq Uuid] in
theorem mem_cons_iff_of_ne
    {applied : List (Application Uuid)} {new : Application Uuid} {aux : Nat}
    (isAux : new.interface = aux)
    (a : Application Uuid)
    (different : a.interface ≠ aux) : a ∈ new :: applied ↔ a ∈ applied := by
  rw [List.mem_cons]
  constructor
  · rintro (rfl | member)
    · exact absurd isAux different
    · exact member
  · exact .inr

theorem mem_erase_iff_of_ne
    {applied : List (Application Uuid)} {old : Application Uuid} {aux : Nat}
    (isAux : old.interface = aux)
    (a : Application Uuid)
    (different : a.interface ≠ aux) : a ∈ applied.erase old ↔ a ∈ applied :=
  List.mem_erase_of_ne fun same => different (same ▸ isAux)

/-- The bundle behind a view. -/
theorem bundleLookup_of_view
    {ofproto : Ofproto bridge.vlanMaxCount} {aux : Nat} {view : BundleView}
    (isView : bundleView bridge ofproto aux = some view) :
    ∃ bundle, bundleLookup ofproto aux = some bundle := by
  obtain ⟨bundle, found, _⟩ := Option.map_eq_some_iff.mp isView
  exact ⟨bundle, found⟩

/-- Applications other than the one that is erased are on other bundles. -/
theorem Inv.erased
    {a b : Application Uuid}
    (inv : Inv model switch)
    (member : a ∈ switch.acls.applied)
    (stays : b ∈ switch.acls.applied.erase a) : b.interface ≠ a.interface := by
  intro same
  have equal := inv.oncePerBundle b (List.mem_of_mem_erase stays) a member same
  rw [equal] at stays
  exact inv.acls.appliedOnce.not_mem_erase stays

section StepAcl

variable {list : ClsList Uuid} {listId : Uuid} {aux : Nat} {l3Only : Bool}
  {outcome : Outcome}

omit [DecidableEq Uuid] in
theorem aclOperation_typed (switch : Switch Uuid Hw bridge) (request : Request Uuid)
    (aux : Nat) (l3Only : Bool) (outcome : Outcome) :
    (Classifier.clsGetType (aclOperation switch request aux l3Only outcome).info
      (aclOperation switch request aux l3Only outcome).direction).table =
      some .pacl := rfl

theorem Inv.stepApply
    (distinct : bridge.IntfsDistinct)
    (inv : Inv model switch)
    (conventional : Conventional switch (.acl (.apply list) aux l3Only outcome))
    (spares : SparesFiltered switch (.acl (.apply list) aux l3Only outcome)) :
    Inv model (step xdk switch (.acl (.apply list) aux l3Only outcome)) := by
  obtain ⟨ruled, onFree⟩ := conventional
  have aclsInv := inv.acls.step xdk ruled spares
  have maps := inv.acls.ids.toMapsInv
  have typed := aclOperation_typed switch (.apply list) aux l3Only outcome
  obtain ⟨allocates, _⟩ := ruled.apply list rfl
  have noneHere := onFree list rfl
  cases accepted : Classifier.bundleReady (bundleView bridge switch.ofproto aux)
      { interface := .port, l3Only := l3Only } && list.supported with
  | false =>
      have same : step xdk switch (.acl (.apply list) aux l3Only outcome) = switch := by
        rw [step, Classifier.step_rejected xdk switch.acls typed rfl accepted]
      rw [same]
      exact inv
  | true =>
      obtain ⟨called, applied⟩ :=
        Classifier.step_accepted xdk switch.acls typed rfl accepted
      obtain ⟨view, status, after, aclId, isView, result, _, grows, settings, ids⟩ :=
        @clsApply_performs _ _ _ xdk model _ _ _ _ _ _ _ _ maps .start typed rfl
          accepted allocates
      obtain ⟨bundle, found⟩ := bundleLookup_of_view isView
      have cls := called.trans (congrArg (·.2.2) result)
      have performs : Performs model switch.acls.cls (Classifier.step xdk switch.acls
          (aclOperation switch (.apply list) aux l3Only outcome)).cls view
          (1#8, aclId) := by
        rw [cls]
        exact ⟨settings, sameIds_of_grows maps grows .keep⟩
      refine inv.performs distinct found isView performs aclsInv ?_ ?_ ?_
      · rw [applied]
        exact mem_cons_iff_of_ne rfl
      · rw [applied, cls]
        intro a member isHere
        rcases List.mem_cons.mp member with rfl | older
        · refine ⟨rfl, ?_, fun e eMember uid => by rw [ids e eMember uid]⟩
          intro b otherMember otherHere
          rcases List.mem_cons.mp otherMember with rfl | otherOlder
          · rfl
          · exact absurd otherHere (noneHere b otherOlder)
        · exact absurd isHere (noneHere a older)
      · rw [applied]
        intro noneNow
        exact absurd rfl (noneNow _ List.mem_cons_self)

theorem Inv.stepRemove
    (distinct : bridge.IntfsDistinct)
    (inv : Inv model switch)
    (conventional : Conventional switch (.acl (.remove listId) aux l3Only outcome))
    (spares : SparesFiltered switch (.acl (.remove listId) aux l3Only outcome)) :
    Inv model (step xdk switch (.acl (.remove listId) aux l3Only outcome)) := by
  obtain ⟨ruled, _⟩ := conventional
  have aclsInv := inv.acls.step xdk ruled spares
  have typed := aclOperation_typed switch (.remove listId) aux l3Only outcome
  obtain ⟨ready, condition⟩ := ruled.remove listId rfl
  have present := condition .pacl typed
  have applied := Classifier.step_applied xdk switch.acls typed
  rw [if_pos ready] at applied
  obtain ⟨e, eMember, uid, search⟩ := inv.acls.ids.lookup present typed
  obtain ⟨view, isView, performs⟩ := @clsRemove_performs _ _ _ xdk model outcome _ _ _
    _ _ _ _ inv.acls.ids.toMapsInv typed rfl ready eMember uid search
  obtain ⟨bundle, found⟩ := bundleLookup_of_view isView
  refine inv.performs distinct found isView performs aclsInv ?_ ?_ ?_
  · rw [applied]
    exact mem_erase_iff_of_ne rfl
  · rw [applied]
    intro a member isHere
    exact absurd isHere (inv.erased present member)
  · exact fun _ => rfl

theorem Inv.stepReplace
    (distinct : bridge.IntfsDistinct)
    (inv : Inv model switch)
    (conventional : Conventional switch (.acl (.replace listId list) aux l3Only outcome))
    (spares : SparesFiltered switch (.acl (.replace listId list) aux l3Only outcome)) :
    Inv model (step xdk switch (.acl (.replace listId list) aux l3Only outcome)) := by
  obtain ⟨ruled, _⟩ := conventional
  have aclsInv := inv.acls.step xdk ruled spares
  have maps := inv.acls.ids.toMapsInv
  have typed := aclOperation_typed switch (.replace listId list) aux l3Only outcome
  obtain ⟨ready, allocates, condition⟩ := ruled.replace listId list rfl
  obtain ⟨present, _⟩ := condition .pacl typed
  have applied : (Classifier.step xdk switch.acls (aclOperation switch
      (.replace listId list) aux l3Only outcome)).applied =
      if list.supported then ⟨.pacl, list.listId, aux⟩ ::
        switch.acls.applied.erase ⟨.pacl, listId, aux⟩
      else switch.acls.applied := by
    rw [Classifier.step_applied xdk switch.acls typed, if_pos ready]
    rfl
  obtain ⟨e, eMember, uid, search⟩ := inv.acls.ids.lookup present typed
  cases supported : list.supported with
  | false =>
      rw [if_neg (by simp [supported])] at applied
      obtain ⟨view, isView, performs⟩ := @clsReplace_refused_performs _ _ _ xdk model
        outcome _ _ _ _ _ _ _ _ maps typed rfl ready supported search
      obtain ⟨bundle, found⟩ := bundleLookup_of_view isView
      refine inv.performs distinct found isView performs aclsInv ?_ ?_ ?_
      · intro a _
        exact Iff.of_eq (congrArg (a ∈ ·) applied)
      · have only : ∀ a ∈ (Classifier.step xdk switch.acls (aclOperation switch
            (.replace listId list) aux l3Only outcome)).applied, a.interface = aux →
            a = ⟨.pacl, listId, aux⟩ := by
          intro a member isHere
          exact inv.oncePerBundle a (applied ▸ member) _ present isHere
        intro a member isHere
        have isPresent := only a member isHere
        subst isPresent
        refine ⟨rfl, fun b otherMember otherHere => (only b otherMember otherHere).symm, ?_⟩
        intro x xMember xUid
        rw [performs.sameIds .pacl e eMember x xMember (xUid.trans uid.symm)]
      · intro noneNow
        have stays : (⟨.pacl, listId, aux⟩ : Application Uuid) ∈ (Classifier.step xdk
            switch.acls (aclOperation switch (.replace listId list) aux l3Only
              outcome)).applied := applied ▸ present
        exact absurd rfl (noneNow _ stays)
  | true =>
      rw [if_pos supported] at applied
      obtain ⟨view, aclId, isView, performs, ids⟩ := @clsReplace_performs _ _ _ xdk model
        outcome _ _ _ _ _ _ _ _ maps typed rfl ready supported search allocates
      obtain ⟨bundle, found⟩ := bundleLookup_of_view isView
      refine inv.performs distinct found isView performs aclsInv ?_ ?_ ?_
      · intro a different
        rw [applied, mem_cons_iff_of_ne rfl a different,
          mem_erase_iff_of_ne rfl a different]
      · rw [applied]
        intro a member isHere
        rcases List.mem_cons.mp member with rfl | older
        · refine ⟨rfl, ?_, fun x xMember xUid => by rw [ids x xMember xUid]⟩
          intro b otherMember otherHere
          rcases List.mem_cons.mp otherMember with rfl | otherOlder
          · rfl
          · exact absurd otherHere (inv.erased present otherOlder)
        · exact absurd isHere (inv.erased present older)
      · rw [applied]
        intro noneNow
        exact absurd rfl (noneNow _ List.mem_cons_self)

end StepAcl

/-! ## Operations on bundles -/

/-- A bundle with a list keeps its ports, and the others do not matter. -/
theorem Inv.stepBundle
    {operation : Bundles.Operation bridge.vlanMaxCount}
    (inv : Inv model switch)
    (conventional : Conventional switch (.bundle operation))
    (spares : SparesFiltered switch (.bundle operation)) :
    Inv model (step xdk switch (.bundle operation)) := by
  have admissible : MovesAdmissible bridge switch.ofproto operation :=
    movesAdmissible_of_accepts conventional
  have kept : ∀ a ∈ switch.acls.applied, ∃ bundle,
      bundleLookup switch.ofproto a.interface = some bundle ∧
      Kept a.interface bundle.id bundle.ports
        (Bundles.step bridge switch.ofproto operation) := by
    intro a member
    obtain ⟨bundle, found⟩ := inv.onBundles a member
    exact ⟨bundle, found, Kept.step inv.tied found (spares a member bundle found)
      admissible⟩
  have belongs : ∀ a ∈ switch.acls.applied, ∀ port,
      BelongsTo (Bundles.step bridge switch.ofproto operation) port a.interface ↔
        BelongsTo switch.ofproto port a.interface := by
    intro a member port
    obtain ⟨bundle, found, current, currentFound, _, samePorts⟩ := kept a member
    unfold BelongsTo
    rw [found, currentFound]
    simp [samePorts]
  refine ⟨inv.acls, inv.tied.step admissible, inv.onPorts, ?_, inv.oncePerBundle, ?_, ?_⟩
  · intro a member
    obtain ⟨_, _, current, currentFound, _⟩ := kept a member
    exact ⟨current, currentFound⟩
  · intro port isPort valid a member inside
    exact inv.set port isPort valid a member ((belongs a member port).mp inside)
  · intro port isPort valid none
    refine inv.unset port isPort valid ?_
    intro a member inside
    exact none a member ((belongs a member port).mpr inside)

/-- The switch before anything was configured. -/
def Initial (model : PortModel xdk) (switch : Switch Uuid Hw bridge) : Prop :=
  ∃ hw, (∀ intf, portAcl model hw intf = (0#8, 0#8)) ∧
    switch.acls = ⟨Classifier.clsInit Uuid hw, []⟩ ∧ Unbundled switch.ofproto

/-- In every run in which no list comes to more than 65535 bundles and no bundle with
a list gets or loses ports, the fields of the ports are right. -/
theorem portAclsConsistent_of_reached
    (distinct : bridge.IntfsDistinct)
    (reached : Transition.Reach (Initial model) (fun switch operation =>
      Conventional switch operation ∧ SparesFiltered switch operation) (step xdk)
      switch) :
    PortAclsConsistent model switch := by
  refine (Transition.Reach.invariant (Inv model) ?_ ?_ reached).consistent
  · rintro start ⟨hw, cleared, acls, unbundled⟩
    have noApplications : start.acls.applied = [] := by rw [acls]
    have sameHw : start.acls.cls.hw = hw := by rw [acls]; rfl
    refine ⟨?_, unbundled.tied, ?_, ?_, ?_, ?_, ?_⟩
    · rw [acls]
      exact ⟨Classifier.clsInit_idsInv hw, nofun, List.nodup_nil⟩
    · simp [noApplications]
    · simp [noApplications]
    · simp [noApplications]
    · simp [noApplications]
    · intro port _ _ _
      rw [sameHw]
      exact cleared port.ifId
  · rintro current operation inv ⟨conventional, spares⟩
    cases operation with
    | acl request aux l3Only outcome =>
        cases request with
        | apply list => exact inv.stepApply distinct conventional spares
        | remove listId => exact inv.stepRemove distinct conventional spares
        | replace listId list => exact inv.stepReplace distinct conventional spares
    | bundle operation => exact inv.stepBundle conventional spares

end Runs

/-! ## A bridge with two ports -/

/-- The fields of the ports and nothing else. -/
def fieldXdk : Classifier.Xdk (Nat → PortField → Byte) where
  zeroCmd := .fwd
  tcamMgrAllocEntry hw _ _ := (some 0, hw)
  tcamMgrTcamIdFromEntryGet _ _ entryId := some entryId
  tcamMgrFreeEntry hw _ _ := hw
  iaclWriteKey hw _ _ _ := hw
  iaclWriteData hw _ _ _ := hw
  l3SetRouterAclId hw _ _ := hw
  l3SetRouterAclEnable hw _ _ := hw
  portSetField hw intf portField value :=
    Function.update hw intf (Function.update (hw intf) portField value)

def fieldModel : PortModel fieldXdk where
  field hw := hw
  setsPort _ _ _ _ := rfl
  allocates _ _ _ := rfl
  frees _ _ _ := rfl
  writesKey _ _ _ _ := rfl
  writesData _ _ _ _ := rfl

/-- No port filters and there is no bundle. -/
def sampleSwitch : Switch Nat (Nat → PortField → Byte) (sampleBridge 1 2) where
  acls := ⟨Classifier.clsInit Nat fun _ _ => 0#8, []⟩
  ofproto := sampleOfproto _

theorem initial_sampleSwitch : Initial fieldModel sampleSwitch :=
  ⟨_, fun _ => rfl, rfl, rfl, fun _ => rfl⟩

/-- Set the slaves of a LAG. -/
def setSlaves (slaves : List Nat) : SwitchOperation Nat (sampleBridge 1 2) :=
  .bundle (operate (.bundleSet 1 (some (trunkSettings "lag" slaves true 10))) 100)

/-- A request for the LAG. -/
def onLag (request : Request Nat) : SwitchOperation Nat (sampleBridge 1 2) :=
  .acl request 1 false (Classifier.allocating 7#8)

/-- List 1 without entries. -/
def emptyList : ClsList Nat := { listId := 1, entries := none }

theorem conventional_apply
    {switch : Switch Nat (Nat → PortField → Byte) (sampleBridge 1 2)}
    (noIds : switch.acls.cls.aclIds = ∅)
    (noApplications : switch.acls.applied = []) :
    Conventional switch (onLag (.apply emptyList)) := by
  refine ⟨⟨rfl, nofun, ?_, nofun, nofun⟩, ?_⟩
  · rintro _ ⟨⟩
    refine ⟨fun _ => ⟨7#8, rfl, by simp [noIds]⟩, ?_⟩
    rintro table ⟨⟩
    simp [noApplications]
  · simp [noApplications]

/-- A list is applied on a LAG, which is then set as it is. -/
def resettingRun : List (SwitchOperation Nat (sampleBridge 1 2)) :=
  [setSlaves [1, 2], onLag (.apply emptyList), setSlaves [2, 1]]

theorem portAclsConsistent_resettingRun :
    PortAclsConsistent fieldModel
      (Transition.run (step fieldXdk) sampleSwitch resettingRun) := by
  have start : Transition.Reach (Initial fieldModel) (fun switch operation =>
      Conventional switch operation ∧ SparesFiltered switch operation) (step fieldXdk)
      sampleSwitch := .start initial_sampleSwitch
  refine portAclsConsistent_of_reached (by unfold Bridge.IntfsDistinct; decide)
    (start.of_run ⟨⟨fun _ => rfl, nofun⟩, ⟨conventional_apply rfl rfl,
      Classifier.withinCount_of_length (by decide +kernel)⟩, ⟨fun _ => rfl, ?_⟩, trivial⟩)
  have ports : ∀ a ∈ (step fieldXdk (step fieldXdk sampleSwitch (setSlaves [1, 2]))
      (onLag (.apply emptyList))).acls.applied, a.interface = 1 ∧
        (bundleLookup (step fieldXdk (step fieldXdk sampleSwitch (setSlaves [1, 2]))
          (onLag (.apply emptyList))).ofproto a.interface).map (·.ports) =
            some [1, 2] := by
    decide +kernel
  intro a member bundle found
  obtain ⟨isLag, samePorts⟩ := ports a member
  rw [found] at samePorts
  have isPorts : bundle.ports = [1, 2] := Option.some.inj samePorts
  refine .inr (.inr ⟨isLag.symm, ?_, ?_, ?_, ?_⟩)
  · simp [isPorts]
  · simp [isPorts, trunkSettings]
  · simp [isPorts, trunkSettings]
  · rintro ⟨_, oneSlave, _⟩
    cases oneSlave

/-- A list is applied on a LAG of two ports, one port leaves the LAG, and the list is
removed. -/
def leavingRun : List (SwitchOperation Nat (sampleBridge 1 2)) :=
  [setSlaves [1, 2], onLag (.apply emptyList), setSlaves [1], onLag (.remove 1)]

/-- The port that left keeps the id of the list that was removed. -/
theorem not_portAclsConsistent_leavingRun :
    Transition.Reach (Initial fieldModel) Conventional (step fieldXdk)
        (Transition.run (step fieldXdk) sampleSwitch leavingRun) ∧
      portAcl fieldModel (Transition.run (step fieldXdk) sampleSwitch
        leavingRun).acls.cls.hw 2 = (1#8, 7#8) ∧
      ¬PortAclsConsistent fieldModel
        (Transition.run (step fieldXdk) sampleSwitch leavingRun) := by
  have start : Transition.Reach (Initial fieldModel) Conventional (step fieldXdk)
      sampleSwitch := .start initial_sampleSwitch
  have fields : portAcl fieldModel (Transition.run (step fieldXdk) sampleSwitch
      leavingRun).acls.cls.hw 2 = (1#8, 7#8) := by
    decide +kernel
  have none : (Transition.run (step fieldXdk) sampleSwitch leavingRun).acls.applied =
      [] := by
    decide +kernel
  refine ⟨start.of_run ⟨fun _ => rfl, conventional_apply rfl rfl, fun _ => rfl, ?_,
    trivial⟩, fields, ?_⟩
  · refine ⟨⟨rfl, nofun, nofun, ?_, nofun⟩, nofun⟩
    rintro _ ⟨⟩
    refine ⟨by decide +kernel, ?_⟩
    rintro table ⟨⟩
    decide +kernel
  · generalize Transition.run (step fieldXdk) sampleSwitch leavingRun = switch
      at fields none
    intro consistent
    have isEnabled : fieldModel.field switch.acls.cls.hw 2 .aclEn = 1#8 :=
      congrArg Prod.fst fields
    obtain ⟨listId, aux, member, _⟩ :=
      (consistent.enabled (systemPort 2 "2" 2) (by simp) (by decide)).mp isEnabled
    rw [none] at member
    cases member

end PortAcls
end XpliantSwitchd
