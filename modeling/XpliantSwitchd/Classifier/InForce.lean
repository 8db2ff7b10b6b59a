import XpliantSwitchd.Classifier.Rules

/-!
# Lists in force

In every run the valid rules that carry the ACL id of an entry are the encodings
of its list, in the order of the list, and when a list is applied nowhere in a
table any more nothing of it is left there.  Counts have 16 bits and may wrap
around; an entry whose count did so goes too early and never too late, so that every
list that is applied has its entry as long as no count wraps.
-/

namespace XpliantSwitchd
namespace Classifier

open Ternary Tcam

variable {Uuid Hw : Type}

/-! ## Counts that wrap around -/

/-- The interfaces that `num_intfs` stands for at least; a count of zero between
requests stands for 65536. -/
def load (numIntfs : UInt16) : Nat :=
  if numIntfs.toNat = 0 then 2 ^ 16 else numIntfs.toNat

theorem load_pos (numIntfs : UInt16) : 0 < load numIntfs := by
  unfold load
  split <;> omega

theorem load_add_one_le (numIntfs : UInt16) : load (numIntfs + 1) ≤ load numIntfs + 1 := by
  have bound := numIntfs.toNat_lt
  unfold load
  rw [UInt16.toNat_add, UInt16.toNat_one]
  split <;> split <;> omega

theorem load_of_zero_add_one : load (0 + 1) = 1 := by decide

theorem load_sub_one {numIntfs : UInt16} (positive : numIntfs - 1 ≠ 0) :
    load (numIntfs - 1) + 1 = load numIntfs := by
  have bound := numIntfs.toNat_lt
  have notZero : (numIntfs - 1).toNat ≠ 0 := by
    intro zero
    exact positive (UInt16.toNat_inj.mp zero)
  unfold load
  rw [if_neg notZero]
  rw [UInt16.toNat_sub, UInt16.toNat_one] at notZero ⊢
  split <;> omega

section Counts

variable [DecidableEq Uuid]

/-- Every entry stands for no more interfaces than its list is applied on, except
perhaps an entry that is about to be deleted or has just been made. -/
def Backed (cls : Cls Uuid Hw) (applied : List (Application Uuid))
    (exception : AclTable → Uuid → Prop) : Prop :=
  ∀ table, ∀ e ∈ cls.classifierHmap table,
    (e.numIntfs = 0 → ¬exception table e.listUid) →
    load e.numIntfs ≤ interfaceCount applied table e.listUid

variable {xdk : Xdk Hw} {outcome : Outcome} {cls : Cls Uuid Hw}
  {applied : List (Application Uuid)} {exception : AclTable → Uuid → Prop}
  {a : Application Uuid}

/-- `num_intfs--` with the end of an application. -/
theorem Backed.lowered
    (backed : Backed cls applied fun _ _ => False)
    (member : a ∈ applied)
    (view : BundleView) (info : InterfaceInfo) :
    Backed (lowered xdk cls view info a.table a.listId) (applied.erase a)
      fun table listId => table = a.table ∧ listId = a.listId := by
  intro table e eMember exempt
  obtain ⟨old, oldMember, rfl⟩ := mem_adjustIntfs.mp eMember
  have oldBacked := backed table old oldMember (fun _ => id)
  have erased := interfaceCount_erase member table old.listUid
  split at exempt
  · rename_i selected
    rw [if_pos selected]
    rw [if_pos ⟨selected.1.symm, selected.2.symm⟩] at erased
    have positive : old.numIntfs - 1 ≠ 0 := fun zero => exempt zero selected
    have lower := load_sub_one positive
    simp only
    omega
  · rename_i notSelected
    rw [if_neg notSelected]
    rw [if_neg (fun same => notSelected ⟨same.1.symm, same.2.symm⟩)] at erased
    omega

/-- `num_intfs++` with a new application. -/
theorem Backed.raised
    (backed : Backed cls applied exception) :
    Backed (adjustIntfs cls a.table a.listId (· + 1)) (a :: applied)
      fun table listId => exception table listId ∧
        ¬(table = a.table ∧ listId = a.listId) := by
  intro table e eMember exempt
  obtain ⟨old, oldMember, rfl⟩ := mem_adjustIntfs.mp eMember
  have counted := interfaceCount_cons applied a table old.listUid
  split at exempt
  · rename_i selected
    rw [if_pos selected]
    rw [if_pos ⟨selected.1.symm, selected.2.symm⟩] at counted
    simp only
    by_cases zero : old.numIntfs = 0
    · rw [zero, load_of_zero_add_one]
      omega
    · have oldBacked := backed table old oldMember (fun isZero => absurd isZero zero)
      have upper := load_add_one_le old.numIntfs
      omega
  · rename_i notSelected
    rw [if_neg notSelected]
    have oldBacked := backed table old oldMember
      (fun isZero excepted => exempt isZero ⟨excepted, notSelected⟩)
    omega

/-- The exception is not needed when its entry is in use. -/
theorem Backed.of_positive
    (backed : Backed cls applied exception)
    (positive : ∀ table, ∀ e ∈ cls.classifierHmap table, exception table e.listUid →
      e.numIntfs ≠ 0) :
    Backed cls applied fun _ _ => False := by
  intro table e member _
  exact backed table e member
    (fun zero excepted => positive table e member excepted zero)

/-- The exception is not needed when its entry is deleted. -/
theorem Backed.aclDelete
    {e : AclEntry Uuid} {table : AclTable}
    (backed : Backed cls applied exception)
    (onlyHere : ∀ other uid, exception other uid → other = table ∧ uid = e.listUid) :
    Backed (clsAclDelete xdk outcome cls e table) applied fun _ _ => False := by
  intro other x member _
  obtain ⟨older, kept⟩ := mem_clsAclDelete member
  exact backed other x older (fun _ excepted => kept (onlyHere other _ excepted))

end Counts

/-! ## Requests -/

section Requests

variable [DecidableEq Uuid] {xdk : Xdk Hw} {outcome : Outcome}
  {lists : Uuid → Option (List ListEntry)} {cls : Cls Uuid Hw}
  {applied : List (Application Uuid)} {info : InterfaceInfo} {direction : Direction}
  {bundle : Option BundleView} {table : AclTable} {list : ClsList Uuid}

/-- What a request leaves, with the applications after it. -/
structure Requested (xdk : Xdk Hw) (outcome : Outcome)
    (lists : Uuid → Option (List ListEntry)) (cls after : Cls Uuid Hw)
    (applied : List (Application Uuid)) : Prop where
  made : ∃ grown, Grows xdk outcome lists cls grown ∧ Ends xdk outcome grown after
  backed : Backed after applied fun _ _ => False

theorem Backed.finds
    {found : Cls Uuid Hw} {e : AclEntry Uuid} {exception : AclTable → Uuid → Prop}
    (backed : Backed cls applied exception)
    (typed : (clsGetType info direction).table = some table)
    (finds : Finds xdk outcome cls list info direction table e found) :
    Backed found applied fun other listId =>
      exception other listId ∨ (other = table ∧ listId = list.listId) := by
  cases finds with
  | present _ _ =>
      intro other x member exempt
      exact backed other x member (fun zero excepted => exempt zero (.inl excepted))
  | added _ =>
      obtain ⟨e, aclIds, hw, result, uid, idle, _, _⟩ :=
        clsAclAdd_spec xdk outcome cls list typed
      rw [result]
      intro other x member exempt
      rcases mem_cons_hmap.mp member with ⟨rfl, rfl⟩ | older
      · exact absurd (.inr ⟨rfl, uid⟩) (exempt idle)
      · exact backed other x older (fun zero excepted => exempt zero (.inl excepted))

variable (xdk) in
/-- `ops_xp_cls_apply` that is not refused. -/
theorem Grows.apply
    {start : Cls Uuid Hw} {exception : AclTable → Uuid → Prop}
    (grows : Grows xdk outcome lists start cls)
    (backed : Backed cls applied exception)
    (typed : (clsGetType info direction).table = some table)
    (accepted : (bundleReady bundle info && list.supported) = true)
    (known : lists list.listId = list.entries)
    (allocates : AllocatesFresh cls outcome list.listId)
    (interface : Nat) :
    ∃ status cls', clsApply xdk outcome cls list bundle info direction .success =
      (none, status, cls') ∧ status.statusCode = .success ∧
      Grows xdk outcome lists start cls' ∧
      Backed cls' (⟨table, list.listId, interface⟩ :: applied) fun other listId =>
        exception other listId ∧ ¬(other = table ∧ listId = list.listId) := by
  obtain ⟨view, status, e, found, _, result, success, finds⟩ :=
    clsApply_accepted xdk outcome cls typed accepted
  refine ⟨status, _, result, success, ?_, ?_⟩
  · exact .adjust _ _ _ (.set _ _ _ _ (grows.finds typed known allocates finds))
  · have searched := backed.finds typed finds
    have foundBacked : Backed { found with
        hw := setInterfaceAcl xdk view info true e.aclId found.hw } applied
        fun other listId => exception other listId ∨
          (other = table ∧ listId = list.listId) := searched
    intro other x member exempt
    have raised : Backed _ (⟨table, list.listId, interface⟩ :: applied) _ :=
      foundBacked.raised
    refine raised other x member ?_
    rintro zero ⟨excepted | here, elsewhere⟩
    · exact exempt zero ⟨excepted, elsewhere⟩
    · exact elsewhere here

theorem clsHmapLookup_some
    {listId : Uuid} {e : AclEntry Uuid}
    (typed : (clsGetType info direction).table = some table)
    (found : clsHmapLookup cls listId info direction = some e) :
    e ∈ cls.classifierHmap table ∧ e.listUid = listId := by
  rw [clsHmapLookup, typed] at found
  exact ⟨List.mem_of_find?_eq_some found, by simpa using List.find?_some found⟩

theorem clsHmapLookup_none
    {listId : Uuid}
    (typed : (clsGetType info direction).table = some table)
    (absent : clsHmapLookup cls listId info direction = none) :
    ∀ e ∈ cls.classifierHmap table, e.listUid ≠ listId := by
  rw [clsHmapLookup, typed] at absent
  intro e member
  simpa using List.find?_eq_none.mp absent e member

/-- When an application ends whose entry went early, nothing changes. -/
theorem Backed.erase_absent
    {a : Application Uuid}
    (backed : Backed cls applied fun _ _ => False)
    (member : a ∈ applied)
    (absent : ∀ e ∈ cls.classifierHmap a.table, e.listUid ≠ a.listId) :
    Backed cls (applied.erase a) fun _ _ => False := by
  intro table e eMember exempt
  have oldBacked := backed table e eMember exempt
  have erased := interfaceCount_erase member table e.listUid
  have elsewhere : ¬(a.table = table ∧ a.listId = e.listUid) := by
    rintro ⟨rfl, sameUid⟩
    exact absent e eMember sameUid.symm
  rw [if_neg elsewhere] at erased
  omega

theorem Backed.cons
    (backed : Backed cls applied fun _ _ => False)
    (a : Application Uuid) : Backed cls (a :: applied) fun _ _ => False := by
  intro table e member exempt
  have oldBacked := backed table e member exempt
  rw [interfaceCount_cons]
  omega

/-- `ops_xp_cls_remove` of an application. -/
theorem Requested.remove
    {a : Application Uuid}
    (maps : MapsInv cls)
    (backed : Backed cls applied fun _ _ => False)
    (typed : (clsGetType info direction).table = some a.table)
    (ready : bundleReady bundle info = true)
    (member : a ∈ applied) :
    Requested xdk outcome lists cls
      (clsRemove xdk outcome cls a.listId bundle info direction).2
      (applied.erase a) := by
  cases found : clsHmapLookup cls a.listId info direction with
  | none =>
      rw [clsRemove_absent ready found]
      exact ⟨⟨cls, .start, .keep⟩,
        backed.erase_absent member (clsHmapLookup_none typed found)⟩
  | some e =>
      obtain ⟨eMember, uid⟩ := clsHmapLookup_some typed found
      obtain ⟨view, _, result⟩ := @clsRemove_present _ _ _ xdk outcome _ _ _ _ _ _ _
        typed ready found
      have grows : Grows xdk outcome lists cls
          (lowered xdk cls view info a.table a.listId) :=
        .adjust _ _ _ (.set _ _ _ _ .start)
      have lowBacked : Backed (lowered xdk cls view info a.table a.listId)
          (applied.erase a) fun table listId => table = a.table ∧ listId = a.listId :=
        backed.lowered member view info
      have present : { e with numIntfs := e.numIntfs - 1 } ∈ (lowered xdk cls view info
          a.table a.listId).classifierHmap a.table := mem_lowered eMember uid
      rw [result]
      split
      · refine ⟨⟨_, grows, .delete present rfl⟩, lowBacked.aclDelete ?_⟩
        rintro other listId ⟨here, sameUid⟩
        exact ⟨here, sameUid.trans uid.symm⟩
      · rename_i positive
        refine ⟨⟨_, grows, .keep⟩, lowBacked.of_positive ?_⟩
        rintro other x xMember ⟨rfl, xUid⟩
        have once := (maps.setHw (setInterfaceAcl xdk view info false 0#8 cls.hw)).adjust
          a.table a.listId (· - 1)
        have same := List.inj_on_of_nodup_map (once.uuidOnce a.table) xMember present
          (xUid.trans uid.symm)
        rw [same]
        exact positive

theorem clsReplace_absent
    {listIdOrig : Uuid}
    (absent : clsHmapLookup cls listIdOrig info direction = none) :
    (clsReplace xdk outcome cls listIdOrig list bundle info direction
      .success).2.2 = cls := by
  unfold clsReplace
  cases bundle with
  | none => rfl
  | some view =>
      simp only [absent]
      cases (clsGetType info direction).table <;> split <;> rfl

/-- `ops_xp_cls_replace` of an application by a list that is accepted. -/
theorem Requested.replace
    {a : Application Uuid}
    (maps : MapsInv cls)
    (backed : Backed cls applied fun _ _ => False)
    (typed : (clsGetType info direction).table = some a.table)
    (ready : bundleReady bundle info = true)
    (supported : list.supported = true)
    (member : a ∈ applied)
    (known : lists list.listId = list.entries)
    (allocates : AllocatesFresh cls outcome list.listId) :
    Requested xdk outcome lists cls
      (clsReplace xdk outcome cls a.listId list bundle info direction .success).2.2
      (⟨a.table, list.listId, a.interface⟩ :: applied.erase a) := by
  cases found : clsHmapLookup cls a.listId info direction with
  | none =>
      rw [clsReplace_absent found]
      exact ⟨⟨cls, .start, .keep⟩,
        (backed.erase_absent member (clsHmapLookup_none typed found)).cons _⟩
  | some e =>
      cases bundle with
      | none => cases ready
      | some view =>
          have grows : Grows xdk outcome lists cls
              (lowered xdk cls view info a.table a.listId) :=
            .adjust _ _ _ (.set _ _ _ _ .start)
          have lowBacked : Backed (lowered xdk cls view info a.table a.listId)
              (applied.erase a) fun table listId =>
                table = a.table ∧ listId = a.listId := backed.lowered member view info
          obtain ⟨status, cls', result, success, allGrows, nowBacked⟩ :=
            grows.apply xdk lowBacked typed
              (Bool.and_eq_true_iff.mpr ⟨ready, supported⟩) known
              (allocates.adjust a.table a.listId (· - 1)) a.interface
          rw [clsReplace_accepted typed ready found result success]
          split
          · rename_i present search
            have presentMember := List.mem_of_find?_eq_some search
            have presentUid : present.listUid = a.listId := by
              simpa using List.find?_some search
            split
            · refine ⟨⟨cls', allGrows, .delete presentMember rfl⟩,
                nowBacked.aclDelete ?_⟩
              rintro other listId ⟨⟨here, sameUid⟩, _⟩
              exact ⟨here, sameUid.trans presentUid.symm⟩
            · rename_i positive
              refine ⟨⟨cls', allGrows, .keep⟩, nowBacked.of_positive ?_⟩
              rintro other x xMember ⟨⟨rfl, xUid⟩, _⟩
              have same := List.inj_on_of_nodup_map
                ((allGrows.maps maps).uuidOnce a.table) xMember presentMember
                (xUid.trans presentUid.symm)
              rw [same]
              exact positive
          · rename_i absent
            refine ⟨⟨cls', allGrows, .keep⟩, nowBacked.of_positive ?_⟩
            rintro other x xMember ⟨⟨rfl, xUid⟩, _⟩
            have missed := List.find?_eq_none.mp absent x xMember
            simp [xUid] at missed

theorem Backed.perm
    {applied' : List (Application Uuid)} {exception : AclTable → Uuid → Prop}
    (backed : Backed cls applied exception)
    (reordered : applied'.Perm applied) : Backed cls applied' exception := by
  intro table e member exempt
  have sameCount : interfaceCount applied' table e.listUid =
      interfaceCount applied table e.listUid := reordered.countP_eq _
  rw [sameCount]
  exact backed table e member exempt

/-- `ops_xp_cls_replace` by a list that is refused. -/
theorem Requested.replaceRefused
    {a : Application Uuid}
    (backed : Backed cls applied fun _ _ => False)
    (typed : (clsGetType info direction).table = some a.table)
    (ready : bundleReady bundle info = true)
    (unsupported : list.supported = false)
    (member : a ∈ applied) :
    Requested xdk outcome lists cls
      (clsReplace xdk outcome cls a.listId list bundle info direction .success).2.2
      applied := by
  cases found : clsHmapLookup cls a.listId info direction with
  | none =>
      rw [clsReplace_absent found]
      exact ⟨⟨cls, .start, .keep⟩, backed⟩
  | some e =>
      cases bundle with
      | none => cases ready
      | some view =>
          have lowBacked : Backed (lowered xdk cls view info a.table a.listId)
              (applied.erase a) fun table listId =>
                table = a.table ∧ listId = a.listId := backed.lowered member view info
          have setBacked : Backed { lowered xdk cls view info a.table a.listId with
              hw := setInterfaceAcl xdk view info true e.aclId
                (lowered xdk cls view info a.table a.listId).hw } (applied.erase a)
              fun table listId => table = a.table ∧ listId = a.listId := lowBacked
          have restored := (setBacked.raised (a := a)).perm
            (List.perm_cons_erase member)
          rw [clsReplace_refused typed ready found unsupported]
          refine ⟨⟨_, .adjust _ _ _ (.set _ _ _ _ (.adjust _ _ _ (.set _ _ _ _
            .start))), .keep⟩, restored.of_positive ?_⟩
          rintro other x _ ⟨here, elsewhere⟩
          exact absurd here elsewhere

end Requests

/-! ## Runs -/

section Runs

variable [DecidableEq Uuid] {xdk : Xdk Hw} {model : TcamModel xdk}
  {lists : Uuid → Option (List ListEntry)} {system : System Uuid Hw}
  {operation : Operation Uuid}

/-- A list that comes with a request. -/
def Request.Brings (request : Request Uuid) (list : ClsList Uuid) : Prop :=
  request = .apply list ∨ ∃ listIdOrig, request = .replace listIdOrig list

/-- Requests keep to the rules, and a uuid stands for one list all along. -/
structure Fixed (lists : Uuid → Option (List ListEntry)) (system : System Uuid Hw)
    (operation : Operation Uuid) : Prop where
  ruled : Ruled system operation
  known : ∀ list, operation.request.Brings list → lists list.listId = list.entries

/-- Every request is made of the known parts. -/
theorem Requested.step
    (maps : MapsInv system.cls)
    (backed : Backed system.cls system.applied fun _ _ => False)
    (fixed : Fixed lists system operation) :
    Requested xdk operation.outcome lists system.cls (step xdk system operation).cls
      (step xdk system operation).applied := by
  have ruled := fixed.ruled
  obtain ⟨table, typed⟩ := clsGetType_table ruled.ingress ruled.interface
  have applied := step_applied xdk system typed
  cases requested : operation.request with
  | apply list =>
      have known := fixed.known list (.inl requested)
      obtain ⟨allocates, _⟩ := ruled.apply list requested
      cases accepted : bundleReady operation.bundle operation.info &&
          list.supported with
      | false =>
          rw [step_rejected xdk system typed requested accepted]
          exact ⟨⟨_, .start, .keep⟩, backed⟩
      | true =>
          obtain ⟨cls, applied⟩ := step_accepted xdk system typed requested accepted
          obtain ⟨status, cls', result, _, grows, nowBacked⟩ :=
            (Grows.start).apply xdk backed typed accepted known allocates
              operation.interface
          rw [cls, result, applied]
          exact ⟨⟨cls', grows, .keep⟩, nowBacked.of_positive (fun _ _ _ both =>
            absurd both.1 id)⟩
  | remove listId =>
      obtain ⟨ready, present⟩ := ruled.remove listId requested
      have cls : (Classifier.step xdk system operation).cls = (clsRemove xdk
          operation.outcome system.cls listId operation.bundle operation.info
          operation.direction).2 := by
        simp only [Classifier.step, nextCls, requested]
      rw [requested, requestApplied, if_pos ready] at applied
      rw [cls, applied]
      exact Requested.remove maps backed typed ready (present table typed)
  | replace listIdOrig listNew =>
      have known := fixed.known listNew (.inr ⟨listIdOrig, requested⟩)
      obtain ⟨ready, allocates, condition⟩ :=
        ruled.replace listIdOrig listNew requested
      obtain ⟨present, _⟩ := condition table typed
      have cls : (Classifier.step xdk system operation).cls = (clsReplace xdk
          operation.outcome system.cls listIdOrig listNew operation.bundle
          operation.info operation.direction .success).2.2 := by
        simp only [Classifier.step, nextCls, requested]
      rw [requested, requestApplied, if_pos ready] at applied
      cases supported : listNew.supported with
      | false =>
          rw [supported, if_neg Bool.false_ne_true] at applied
          rw [cls, applied]
          exact Requested.replaceRefused backed typed ready supported present
      | true =>
          rw [if_pos supported] at applied
          rw [cls, applied]
          exact Requested.replace maps backed typed ready supported present known
            allocates

/-- What requests keep. -/
structure RunInv (lists : Uuid → Option (List ListEntry)) (model : TcamModel xdk)
    (system : System Uuid Hw) : Prop where
  maps : MapsInv system.cls
  tcam : TcamInv lists model system.cls
  backed : Backed system.cls system.applied fun _ _ => False

theorem RunInv.step
    (inv : RunInv lists model system)
    (fixed : Fixed lists system operation) :
    RunInv lists model (step xdk system operation) := by
  obtain ⟨⟨grown, grows, ends⟩, backed⟩ :=
    Requested.step inv.maps inv.backed fixed
  obtain ⟨maps, tcam⟩ := ends.inv (grows.maps inv.maps) (grows.tcam inv.tcam)
  exact ⟨maps, tcam, backed⟩

/-- The tables of a switch on which no list has been applied. -/
def TcamModel.Clean (model : TcamModel xdk) (hw : Hw) : Prop :=
  ∀ table, (∀ id, (model.table hw table).priority id = none) ∧
    ∀ index, ¬ValidRule ((model.table hw table).rule index)

theorem RunInv.init
    {hw : Hw}
    (clean : model.Clean hw) :
    RunInv lists model (⟨clsInit Uuid hw, []⟩ : System Uuid Hw) where
  maps := (clsInit_idsInv hw).toMapsInv
  tcam := by
    refine ⟨nofun, nofun, ?_⟩
    intro table
    obtain ⟨free, invalid⟩ := clean table
    refine ⟨⟨?_, ?_, ?_⟩, ⟨List.nodup_nil, ?_⟩⟩
    · intro id allocated
      simp [clsInit, free id] at allocated
    · intro first _ _ allocated
      simp [clsInit, free first] at allocated
    · intro index valid
      exact absurd valid (invalid index)
    · intro id item
      simp [clsInit, Table.view_of_free (free id)]
  backed := nofun

/-! ## What is in force -/

/-- The rules of an entry of a map in its table: the valid rules with its ACL id
are the encodings of its list, one for each entry of the list, and for every packet
the encoding of the first entry that matches wins among them. -/
structure InForce (lists : Uuid → Option (List ListEntry)) (model : TcamModel xdk)
    (hw : Hw) (table : AclTable) (e : AclEntry Uuid) : Prop where
  exact : ∃ indices : List Nat, indices.Nodup ∧
    (∀ index, index ∈ indices ↔ ValidRule ((model.table hw table).rule index) ∧
      Carries e.aclId ((model.table hw table).rule index)) ∧
    indices.map (model.table hw table).rule =
      (e.listed lists).map (ruleOfEntry xdk.zeroCmd e.aclId)
  wins : ∀ (packet : Packet) (first : List ListEntry) (entry : ListEntry)
    (last : List ListEntry), e.listed lists = first ++ entry :: last →
    (∀ earlier ∈ first, ¬(ruleOfEntry xdk.zeroCmd e.aclId earlier).1.Matches packet) →
    (ruleOfEntry xdk.zeroCmd e.aclId entry).1.Matches packet →
    Wins (model.table hw table) (fun rule => ValidRule rule ∧ Carries e.aclId rule ∧
      rule.1.Matches packet) (ruleOfEntry xdk.zeroCmd e.aclId entry)

/-- What a request leaves of a list that is applied nowhere in a table after it:
no entry of the map, and of an entry that was there no valid rule with its ACL id
and no allocated TCAM entry. -/
def LeavesNothing (model : TcamModel xdk) (before after : System Uuid Hw) : Prop :=
  ∀ table listId, interfaceCount after.applied table listId = 0 →
    (∀ e ∈ after.cls.classifierHmap table, e.listUid ≠ listId) ∧
    ∀ e ∈ before.cls.classifierHmap table, e.listUid = listId →
      (∀ index, ValidRule ((model.table after.cls.hw table).rule index) →
        ¬Carries e.aclId ((model.table after.cls.hw table).rule index)) ∧
      ∀ rule ∈ e.ruleList,
        (model.table after.cls.hw table).priority rule.ruleId = none

/-- The tables agree with the lists, now and across every next request. -/
structure TcamConsistent (lists : Uuid → Option (List ListEntry))
    (model : TcamModel xdk) (system : System Uuid Hw) : Prop where
  /-- A list that is applied in a table has an entry there, with its rules. -/
  covered : ∀ a ∈ system.applied, ∃ e ∈ system.cls.classifierHmap a.table,
    e.listUid = a.listId
  inForce : ∀ table, ∀ e ∈ system.cls.classifierHmap table,
    InForce lists model system.cls.hw table e
  leavesNothing : ∀ operation, Fixed lists system operation →
    LeavesNothing model system (step xdk system operation)

theorem installedFrom_append
    {zeroCmd : PktCmd} {aclId : Byte} {numEntries first : Nat}
    {rules rules' : List AclRule} {entries entries' : List ListEntry}
    (complete : rules.length = entries.length) :
    installedFrom zeroCmd aclId numEntries first (rules ++ rules')
        (entries ++ entries') =
      installedFrom zeroCmd aclId numEntries first rules entries ++
        installedFrom zeroCmd aclId numEntries (first + entries.length) rules'
          entries' := by
  simp [installedFrom, List.zip_append complete, List.zipIdx_append, complete]

/-- The items of one entry of a map and those of the others in its table. -/
theorem RunInv.separated
    {table : AclTable} {e : AclEntry Uuid}
    (inv : RunInv lists model system)
    (member : e ∈ system.cls.classifierHmap table) :
    ∃ others, Represents (model.table system.cls.hw table).view
        (e.items xdk.zeroCmd lists ++ others) ∧
      ∀ item ∈ others, ¬Carries e.aclId item.2.2 := by
  have reordered := KeyedList.perm_cons_remove (inv.maps.uuidOnce table) member rfl
  refine ⟨_, (inv.tcam.holds table).represents.perm
    (reordered.flatMap_right _).symm, ?_⟩
  intro item itemMember carries
  obtain ⟨other, otherMember, owned⟩ := List.mem_flatMap.mp itemMember
  obtain ⟨inTable, different⟩ := KeyedList.mem_remove.mp otherMember
  obtain ⟨entry, _, encoded⟩ := mem_installedFrom owned
  rw [encoded, ruleOfEntry_carries] at carries
  exact different
    ((inv.maps.idIff table e member table other inTable).mp carries).symm

theorem RunInv.inForce
    {table : AclTable} {e : AclEntry Uuid}
    (inv : RunInv lists model system)
    (member : e ∈ system.cls.classifierHmap table) :
    InForce lists model system.cls.hw table e := by
  have complete := inv.tcam.complete table e member
  obtain ⟨others, represents, noOther⟩ := inv.separated member
  refine ⟨?_, ?_⟩
  · have ownRules : ∀ item ∈ e.items xdk.zeroCmd lists,
        ValidRule item.2.2 ∧ Carries e.aclId item.2.2 := by
      intro item itemMember
      obtain ⟨entry, _, encoded⟩ := mem_installedFrom itemMember
      rw [encoded]
      exact ⟨ruleOfEntry_valid .., (ruleOfEntry_carries ..).mpr rfl⟩
    obtain ⟨indices, once, exact, rules⟩ := candidates_of_list
      (inv.tcam.holds table).tidy represents ownRules noOther
    exact ⟨indices, once, exact, rules.trans (installedFrom_rules complete)⟩
  · intro packet first entry last split noneBefore matched
    have firstComplete : (e.ruleList.take first.length).length = first.length := by
      rw [List.length_take, complete, split]
      simp
    obtain ⟨rule, rules, rest⟩ : ∃ rule rules,
        e.ruleList.drop first.length = rule :: rules := by
      refine List.exists_cons_of_length_pos ?_
      rw [List.length_drop, complete, split]
      simp
    have decomposed : e.ruleList = e.ruleList.take first.length ++ rule :: rules := by
      rw [← rest, List.take_append_drop]
    have items : e.items xdk.zeroCmd lists =
        installedFrom xdk.zeroCmd e.aclId (e.listed lists).length 0
          (e.ruleList.take first.length) first ++
        (rule.ruleId, (e.listed lists).length - first.length,
          ruleOfEntry xdk.zeroCmd e.aclId entry) ::
        installedFrom xdk.zeroCmd e.aclId (e.listed lists).length
          (first.length + 1) rules last := by
      have appended := @installedFrom_append xdk.zeroCmd e.aclId
        (e.listed lists).length 0 _ (rule :: rules) _ (entry :: last) firstComplete
      rw [← decomposed, ← split] at appended
      rw [AclEntry.items, appended]
      simp [installedFrom]
    rw [items] at represents
    refine wins_of_first represents ?_ ⟨ruleOfEntry_valid ..,
      (ruleOfEntry_carries ..).mpr rfl, matched⟩ ?_ ?_
    · intro item itemMember
      obtain ⟨⟨_, position⟩, zipped, rfl⟩ := List.mem_map.mp itemMember
      have later := List.le_snd_of_mem_zipIdx zipped
      have longEnough : first.length < (e.listed lists).length := by
        rw [split]
        simp
      simp only at later ⊢
      omega
    · intro item itemMember candidate
      obtain ⟨earlier, earlierMember, encoded⟩ := mem_installedFrom itemMember
      rw [encoded] at candidate
      exact noneBefore earlier earlierMember candidate.2.2
    · intro item itemMember candidate
      exact noOther item itemMember candidate.2.1

theorem RunInv.leavesNothing
    (inv : RunInv lists model system)
    (fixed : Fixed lists system operation) :
    LeavesNothing model system (Classifier.step xdk system operation) := by
  have after := inv.step fixed
  obtain ⟨⟨grown, grows, ends⟩, _⟩ :=
    Requested.step inv.maps inv.backed fixed
  have stems := grows.stems inv.maps inv.tcam
  intro table listId unused
  have gone : ∀ e ∈ (Classifier.step xdk system operation).cls.classifierHmap table,
      e.listUid ≠ listId := by
    rintro e member rfl
    have least := after.backed table e member (fun _ => id)
    have positive := load_pos e.numIntfs
    omega
  refine ⟨gone, ?_⟩
  rintro e member rfl
  refine ⟨?_, ?_⟩
  · intro index valid carries
    obtain ⟨owner, ownerMember, _, carried⟩ :=
      (tcamInv_iff_installed.mp after.tcam).owner_of_valid valid
    have sameId := (carried e.aclId).mp carries
    have used : owner.aclId ∈ system.cls.aclIds :=
      (inv.maps.allocated owner.aclId).mpr ⟨table, e, member, sameId⟩
    obtain ⟨other, old, oldMember, oldUid, oldId⟩ :=
      stems.idOrigin table owner (ends.mem ownerMember) used
    have sameUid := (inv.maps.idIff other old oldMember table e member).mp
      (oldId.trans sameId.symm)
    exact gone owner ownerMember (oldUid.symm.trans sameUid)
  · intro rule owns
    by_contra notFree
    obtain ⟨owner, ownerMember, ownerRule, ownerOwns, sameId⟩ :=
      (after.tcam.allocated_iff table _).mp (Option.isSome_iff_ne_none.mpr notFree)
    rcases stems.ruleOrigin table owner (ends.mem ownerMember) with
      ⟨old, oldMember, oldUid, oldRules⟩ | wereFree
    · rw [← oldRules] at ownerOwns
      have sameAclId := inv.tcam.aclId_of_shared oldMember ownerOwns member owns sameId
      have sameUid := (inv.maps.idIff table old oldMember table e member).mp sameAclId
      exact gone owner ownerMember (oldUid.symm.trans sameUid)
    · have allocated := (inv.tcam.allocated_iff table rule.ruleId).mpr
        ⟨e, member, rule, owns, rfl⟩
      rw [← sameId, wereFree ownerRule ownerOwns] at allocated
      cases allocated

/-- In every run of requests that keep to the rules, with a fixed list for each
uuid and no list on more than 65535 interfaces of a table, the tables agree with the
lists. -/
theorem tcamConsistent_of_reached
    (reached : Transition.Reach
      (fun initial => ∃ hw, model.Clean hw ∧ initial = ⟨clsInit Uuid hw, []⟩)
      (fun system operation => Fixed lists system operation ∧
        WithinCount system operation) (step xdk) system) :
    TcamConsistent lists model system := by
  have inv : RunInv lists model system ∧ SystemInv system := by
    refine Transition.Reach.invariant
      (fun system => RunInv lists model system ∧ SystemInv system) ?_ ?_ reached
    · rintro _ ⟨hw, clean, rfl⟩
      exact ⟨RunInv.init clean, clsInit_systemInv hw⟩
    · rintro current operation ⟨rules, ids⟩ ⟨fixed, within⟩
      exact ⟨rules.step fixed, ids.step xdk fixed.ruled within⟩
  obtain ⟨rules, ids⟩ := inv
  exact ⟨ids.ids.covered, fun _ _ member => rules.inForce member,
    fun _ fixed => rules.leavesNothing fixed⟩

end Runs

/-! ## A concrete run -/

/-- A TCAM whose manager keeps the allocated entries with their priorities. -/
structure TcamHw where
  entries : AclTable → List (Nat × Nat)
  rules : AclTable → Nat → IaclkeyFieldList × IaclData

/-- An entry above all those in a list. -/
def unusedEntry (entries : List (Nat × Nat)) : Nat :=
  entries.foldr (fun entry most => max (entry.1 + 1) most) 0

theorem lt_unusedEntry
    {entries : List (Nat × Nat)} {entry : Nat × Nat}
    (member : entry ∈ entries) : entry.1 < unusedEntry entries := by
  induction entries with
  | nil => cases member
  | cons head entries inductionHypothesis =>
      simp only [unusedEntry, List.foldr_cons]
      rcases List.mem_cons.mp member with rfl | later
      · omega
      · have below := inductionHypothesis later
        rw [unusedEntry] at below
        omega

/-- Replace the entries of a table. -/
def TcamHw.setEntries (hw : TcamHw) (table : AclTable) (entries : List (Nat × Nat)) :
    TcamHw :=
  { hw with entries := Function.update hw.entries table entries }

/-- Write a rule of a table. -/
def TcamHw.setRule (hw : TcamHw) (table : AclTable) (index : Nat)
    (rule : IaclkeyFieldList × IaclData) : TcamHw :=
  { hw with
    rules := Function.update hw.rules table
      (Function.update (hw.rules table) index rule) }

/-- A TCAM manager that puts every entry at its own index. -/
def indexedXdk : Xdk TcamHw where
  zeroCmd := .fwd
  tcamMgrAllocEntry hw aclType priority :=
    match aclType.table with
    | some table =>
        let id := unusedEntry (hw.entries table)
        (some id, hw.setEntries table ((id, priority) :: hw.entries table))
    | none => (none, hw)
  tcamMgrTcamIdFromEntryGet _ _ entryId := some entryId
  tcamMgrFreeEntry hw aclType entryId :=
    match aclType.table with
    | some table =>
        hw.setEntries table ((hw.entries table).filter (·.1 != entryId))
    | none => hw
  iaclWriteKey hw table tcamId key :=
    hw.setRule table tcamId (key, (hw.rules table tcamId).2)
  iaclWriteData hw table tcamId data :=
    hw.setRule table tcamId ((hw.rules table tcamId).1, data)
  l3SetRouterAclId hw _ _ := hw
  l3SetRouterAclEnable hw _ _ := hw
  portSetField hw _ _ _ := hw

/-- A table of the TCAM. -/
def TcamHw.table (hw : TcamHw) (table : AclTable) :
    Table (IaclkeyFieldList × IaclData) where
  priority id := ((hw.entries table).find? (·.1 == id)).map (·.2)
  place id := some id
  rule := hw.rules table

theorem TcamHw.setEntries_other
    (hw : TcamHw) {table other : AclTable} (entries : List (Nat × Nat))
    (different : other ≠ table) :
    (hw.setEntries table entries).table other = hw.table other := by
  simp [TcamHw.table, TcamHw.setEntries, Function.update_of_ne different]

theorem TcamHw.setRule_table
    (hw : TcamHw) (table : AclTable) (index : Nat)
    (rule : IaclkeyFieldList × IaclData) :
    (hw.setRule table index rule).table =
      Function.update hw.table table ((hw.table table).write index rule) := by
  funext other
  by_cases same : other = table
  · subst same
    simp [TcamHw.table, TcamHw.setRule, Table.write]
  · simp [TcamHw.table, TcamHw.setRule, Function.update_of_ne same]

/-- Nothing moves when every entry stays at its own index. -/
theorem moves_of_fixed
    {before after : Table (IaclkeyFieldList × IaclData)} {survives : Nat → Prop}
    (placeBefore : before.place = some)
    (placeAfter : after.place = some)
    (sameRules : after.rule = before.rule)
    (survivors : ∀ id, survives id → (after.priority id).isSome) :
    Moves ValidRule survives before after where
  placed := by simp [placeAfter]
  apart := by
    intro first second index _ _ firstPlace secondPlace
    rw [placeAfter] at firstPlace secondPlace
    exact (Option.some.inj firstPlace).trans (Option.some.inj secondPlace).symm
  kept := by
    intro id _ index place
    rw [placeBefore] at place
    cases place
    exact ⟨id, by rw [placeAfter], by rw [sameRules]⟩
  noCopies := by
    intro index valid
    by_cases allocated : (after.priority index).isSome
    · exact .inl ⟨index, allocated, by rw [placeAfter]⟩
    · refine .inr ⟨sameRules ▸ valid, ?_⟩
      intro id survivor place
      rw [placeBefore] at place
      cases place
      exact allocated (survivors _ survivor)

theorem TcamHw.priority_unusedEntry (hw : TcamHw) (table : AclTable) :
    (hw.table table).priority (unusedEntry (hw.entries table)) = none := by
  simp only [TcamHw.table, Option.map_eq_none_iff, List.find?_eq_none]
  intro entry member
  have below := lt_unusedEntry member
  simpa using Nat.ne_of_lt below

theorem TcamHw.priority_alloc (hw : TcamHw) (table : AclTable) (priority : Nat) :
    ((hw.setEntries table ((unusedEntry (hw.entries table), priority) ::
      hw.entries table)).table table).priority =
      Function.update (hw.table table).priority (unusedEntry (hw.entries table))
        (some priority) := by
  funext id
  by_cases same : id = unusedEntry (hw.entries table)
  · subst same
    simp [TcamHw.table, TcamHw.setEntries]
  · simp [TcamHw.table, TcamHw.setEntries, Function.update_of_ne same,
      List.find?_cons_of_neg, Ne.symm same]

theorem TcamHw.priority_free (hw : TcamHw) (table : AclTable) (id : Nat) :
    ((hw.setEntries table ((hw.entries table).filter (·.1 != id))).table
      table).priority = Function.update (hw.table table).priority id none := by
  funext other
  by_cases same : other = id
  · subst same
    simp [TcamHw.table, TcamHw.setEntries, List.find?_filter]
  · simp only [TcamHw.table, TcamHw.setEntries, Function.update_self,
      List.find?_filter, Function.update_of_ne same]
    congr 2
    funext entry
    by_cases found : entry.1 = other
    · simp [found, same]
    · simp [found]

/-- The XDK that puts every entry at its own index keeps the laws. -/
def indexedModel : TcamModel indexedXdk where
  table := TcamHw.table
  allocates := by
    intro hw aclTable priority
    have allocated := hw.priority_alloc aclTable priority
    refine ⟨unusedEntry (hw.entries aclTable), hw.setEntries aclTable
      ((unusedEntry (hw.entries aclTable), priority) :: hw.entries aclTable), ?_,
      ⟨hw.priority_unusedEntry aclTable, allocated, moves_of_fixed rfl rfl rfl ?_⟩,
      fun _ different => hw.setEntries_other _ different⟩
    · simp only [indexedXdk, table_aclType]
    · intro id survives
      rw [allocated]
      by_cases same : id = unusedEntry (hw.entries aclTable)
      · subst same
        simp
      · rw [Function.update_of_ne same]
        exact survives
  frees := by
    intro hw aclTable id _
    have freed := hw.priority_free aclTable id
    simp only [indexedXdk, table_aclType]
    refine ⟨⟨freed, moves_of_fixed rfl rfl rfl ?_⟩,
      fun _ different => hw.setEntries_other _ different⟩
    rintro other ⟨allocated, different⟩
    rw [freed, Function.update_of_ne different]
    exact allocated
  locates := fun _ _ _ _ => rfl
  writesKey := fun hw aclTable index _ => hw.setRule_table aclTable index _
  writesData := fun hw aclTable index _ => hw.setRule_table aclTable index _
  setsRouterId := fun _ _ _ => rfl
  setsRouterEnable := fun _ _ _ => rfl
  setsPort := fun _ _ _ _ => rfl

/-- A switch without rules. -/
def emptyTcam : TcamHw where
  entries _ := []
  rules _ _ := allocResetFieldData .fwd

theorem indexedModel_clean : indexedModel.Clean emptyTcam :=
  fun _ => ⟨fun _ => rfl, fun _ => allocResetFieldData_not_valid .fwd⟩

/-- An entry that permits or denies what is sent to one L4 port. -/
def portEntry (permit : Bool) (port : BitVec 16) : ListEntry where
  entryFields :=
    { expeditedFields.toEntryFields with
      entryFlags := fun flag => flag == .l4DestPort
      l4DstPortMin := port
      l4DstPortOp := .eq }
  entryActions := { permit := permit, deny := !permit, count := false }

/-- List 1 has two entries, all others have one. -/
def portLists (listId : Nat) : Option (List ListEntry) :=
  if listId = 1 then some [portEntry true 80#16, portEntry false 22#16]
  else some [portEntry false 80#16]

/-- List 1 on two ports, replaced by list 2 on one of them and removed from the
other. -/
def listRun : List (Operation Nat) :=
  [onPort (.apply { listId := 1, entries := portLists 1 }) 0 7#8,
   onPort (.apply { listId := 1, entries := portLists 1 }) 1 8#8,
   onPort (.replace 1 { listId := 2, entries := portLists 2 }) 0 8#8,
   onPort (.remove 1) 1 9#8]

theorem tcamConsistent_listRun :
    TcamConsistent portLists indexedModel
      (Transition.run (step indexedXdk) ⟨clsInit Nat emptyTcam, []⟩ listRun) := by
  have initial : Transition.Reach
      (fun initial => ∃ hw, indexedModel.Clean hw ∧ initial = ⟨clsInit Nat hw, []⟩)
      (fun system operation => Fixed portLists system operation ∧
        WithinCount system operation) (step indexedXdk)
      (⟨clsInit Nat emptyTcam, []⟩ : System Nat TcamHw) := .start
        ⟨emptyTcam, indexedModel_clean, rfl⟩
  have known : ∀ operation ∈ listRun, ∀ list, operation.request.Brings list →
      portLists list.listId = list.entries := by
    intro operation member list brings
    simp only [listRun, List.mem_cons, List.not_mem_nil, or_false] at member
    rcases member with rfl | rfl | rfl | rfl <;>
      rcases brings with ⟨⟨⟩⟩ | ⟨_, ⟨⟩⟩ <;> rfl
  refine tcamConsistent_of_reached (initial.of_run
    ⟨⟨⟨?_, known _ (by simp [listRun])⟩, withinCount_of_length (by decide)⟩,
      ⟨⟨?_, known _ (by simp [listRun])⟩, withinCount_of_length (by decide)⟩,
      ⟨⟨?_, known _ (by simp [listRun])⟩, withinCount_of_length (by decide)⟩,
      ⟨⟨?_, known _ (by simp [listRun])⟩, withinCount_of_length (by decide)⟩, trivial⟩)
  · refine ⟨rfl, by decide, ?_, nofun, nofun⟩
    rintro _ ⟨⟩
    refine ⟨fun _ => ⟨7#8, rfl, by decide⟩, ?_⟩
    rintro table ⟨⟩
    decide
  · refine ⟨rfl, by decide, ?_, nofun, nofun⟩
    rintro _ ⟨⟩
    refine ⟨fun _ => ⟨8#8, rfl, by decide⟩, ?_⟩
    rintro table ⟨⟩
    decide
  · refine ⟨rfl, by decide, nofun, nofun, ?_⟩
    rintro _ _ ⟨⟩
    refine ⟨rfl, fun _ => ⟨8#8, rfl, by decide⟩, ?_⟩
    rintro table ⟨⟩
    exact ⟨by decide, .inr (by decide)⟩
  · refine ⟨rfl, by decide, nofun, ?_, nofun⟩
    rintro _ ⟨⟩
    refine ⟨rfl, ?_⟩
    rintro table ⟨⟩
    decide

/-! ## A list on more than 65535 ports -/

/-- List 2, with its only entry, applied on a port. -/
def denyOn (interface : Nat) : Operation Nat :=
  onPort (.apply { listId := 2, entries := portLists 2 }) interface 7#8

/-- List 2 is applied on its first port. -/
def deniedSystem : System Nat TcamHw :=
  step indexedXdk ⟨clsInit Nat emptyTcam, []⟩ (denyOn 0)

/-- The entry of list 2 when it was applied a number of times. -/
def deniedEntry (count : Nat) : AclEntry Nat where
  listUid := 2
  aclId := 7#8
  numRules := 1
  ruleList := [{ ruleId := 0, counterEn := false, count := 0 }]
  numIntfs := UInt16.ofNat count
  intfInfo := { interface := .port, l3Only := false }
  clsDirection := .ingress

/-- List 2 on the ports below a number. -/
def crowdedSystem (count : Nat) : System Nat TcamHw where
  cls :=
    { classifierHmap := Function.update (fun _ => []) .pacl [deniedEntry count]
      aclIds := {7#8}
      hw := deniedSystem.cls.hw }
  applied := ((List.range count).map fun interface => ⟨.pacl, 2, interface⟩).reverse

theorem crowdedSystem_one : deniedSystem = crowdedSystem 1 := by
  have hmap : deniedSystem.cls.classifierHmap = (crowdedSystem 1).cls.classifierHmap := by
    funext table
    cases table <;> rfl
  calc deniedSystem
      = ⟨⟨deniedSystem.cls.classifierHmap, deniedSystem.cls.aclIds, deniedSystem.cls.hw⟩,
          deniedSystem.applied⟩ := rfl
    _ = crowdedSystem 1 := by
      rw [hmap]
      rfl

theorem step_crowdedSystem (count : Nat) :
    step indexedXdk (crowdedSystem count) (denyOn count) = crowdedSystem (count + 1) := by
  have valid : (clsValidateEntries { listId := 2, entries := portLists 2 }
      .success).statusCode = .success := rfl
  have supported : ClsList.supported { listId := 2, entries := portLists 2 } = true := rfl
  simp [step, nextCls, nextApplied, requestApplied, denyOn, onPort, crowdedSystem,
    clsApply, clsGetType, AclType.table, bundleReady, valid, supported,
    clsHmapLookup, clsLookupFromHmapType, setInterfaceAcl, indexedXdk, adjustIntfs,
    KeyedList.rewrite, List.range_succ, deniedEntry]

theorem fixed_denyOn {system : System Nat TcamHw} {interface : Nat}
    (allocates : AllocatesFresh system.cls (allocating 7#8) 2)
    (new : ⟨.pacl, 2, interface⟩ ∉ system.applied) :
    Fixed portLists system (denyOn interface) where
  ruled :=
    { ingress := rfl
      interface := by simp [denyOn, onPort]
      apply := by
        rintro list ⟨⟩
        refine ⟨allocates, ?_⟩
        rintro table ⟨⟩
        exact new
      remove := nofun
      replace := nofun }
  known := by
    rintro list brings
    rcases brings with ⟨⟨⟩⟩ | ⟨_, ⟨⟩⟩
    rfl

/-- Any number of ports is reached. -/
theorem reached_crowdedSystem (count : Nat) :
    Transition.Reach
      (fun initial => ∃ hw, indexedModel.Clean hw ∧ initial = ⟨clsInit Nat hw, []⟩)
      (Fixed portLists) (step indexedXdk) (crowdedSystem (count + 1)) := by
  induction count with
  | zero =>
      rw [← crowdedSystem_one]
      refine .next (.start ⟨emptyTcam, indexedModel_clean, rfl⟩) (fixed_denyOn ?_ (by simp))
      intro _
      exact ⟨7#8, rfl, by simp [clsInit]⟩
  | succ count inductionHypothesis =>
      rw [← step_crowdedSystem]
      refine .next inductionHypothesis (fixed_denyOn ?_ (by simp [crowdedSystem]))
      intro missing
      have entries := allocatedAclId_eq_none.mp missing .pacl
      simp [crowdedSystem, deniedEntry] at entries

/-- List 2 is removed from its first port. -/
def allowAgain : Operation Nat :=
  onPort (.remove 2) 0 7#8

theorem interfaceCount_crowdedSystem (count : Nat) :
    interfaceCount (crowdedSystem count).applied .pacl 2 = count := by
  unfold interfaceCount crowdedSystem
  rw [List.countP_reverse, List.countP_map, List.countP_eq_length.mpr (by simp),
    List.length_range]

/-- With its count back at one, the first removal deletes the entry. -/
theorem entries_allowAgain {count : Nat} (wrapped : UInt16.ofNat count = 1) :
    (step indexedXdk (crowdedSystem count) allowAgain).cls.classifierHmap .pacl = [] := by
  simp [step, nextCls, allowAgain, onPort, crowdedSystem, clsRemove, clsGetType,
    AclType.table, bundleReady, clsHmapLookup, clsLookupFromHmapType, adjustIntfs,
    KeyedList.rewrite, KeyedList.remove, deniedEntry, wrapped, clsAclDelete]
  split <;> rfl

theorem first_mem_crowdedSystem {count : Nat} (some : 0 < count) :
    ⟨.pacl, 2, 0⟩ ∈ (crowdedSystem count).applied := by
  simpa [crowdedSystem] using some

theorem interfaceCount_allowAgain {count : Nat} (some : 0 < count) :
    interfaceCount (step indexedXdk (crowdedSystem count) allowAgain).applied .pacl 2 + 1 =
      count := by
  have removed : (step indexedXdk (crowdedSystem count) allowAgain).applied =
      (crowdedSystem count).applied.erase ⟨.pacl, 2, 0⟩ := rfl
  rw [removed]
  have erased := interfaceCount_erase (first_mem_crowdedSystem some) .pacl 2
  rw [if_pos ⟨rfl, rfl⟩, interfaceCount_crowdedSystem] at erased
  exact erased

/-- After 65537 ports a removal from one of them takes the rules of a list that is
applied on 65536 others. -/
theorem not_tcamConsistent_crowdedSystem :
    Transition.Reach
        (fun initial => ∃ hw, indexedModel.Clean hw ∧ initial = ⟨clsInit Nat hw, []⟩)
        (Fixed portLists) (step indexedXdk)
        (step indexedXdk (crowdedSystem 65537) allowAgain) ∧
      interfaceCount (step indexedXdk (crowdedSystem 65537) allowAgain).applied .pacl 2 =
        65536 ∧
      ¬TcamConsistent portLists indexedModel
        (step indexedXdk (crowdedSystem 65537) allowAgain) := by
  have left := @interfaceCount_allowAgain 65537 (by decide)
  have gone := @entries_allowAgain 65537 (by decide)
  refine ⟨.next (reached_crowdedSystem 65536) ?_, by omega, ?_⟩
  · refine ⟨⟨rfl, by decide, nofun, ?_, nofun⟩, ?_⟩
    · rintro _ ⟨⟩
      refine ⟨rfl, ?_⟩
      rintro table ⟨⟩
      exact first_mem_crowdedSystem (by decide)
    · rintro list brings
      rcases brings with ⟨⟨⟩⟩ | ⟨_, ⟨⟩⟩
  · intro consistent
    have some : 0 < interfaceCount (step indexedXdk (crowdedSystem 65537)
        allowAgain).applied .pacl 2 := by omega
    obtain ⟨a, member, place⟩ := List.countP_pos_iff.mp some
    obtain ⟨e, inHmap, _⟩ := consistent.covered a member
    obtain ⟨table, _⟩ : a.table = .pacl ∧ a.listId = 2 := by simpa using place
    rw [table, gone] at inHmap
    cases inHmap

end Classifier
end XpliantSwitchd
