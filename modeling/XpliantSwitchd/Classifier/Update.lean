import XpliantSwitchd.Classifier.Sound

/-!
# Updates of lists

`ops_xp_cls_list_update` gives the entries of a list in the port and router tables
new rules, and then takes the old ones out.  It reads a status that it allocates and
never sets, and it reads the result of a function that returns nothing; both are
arbitrary here.  The bridge table is not updated.
-/

namespace XpliantSwitchd
namespace Classifier

open Ternary Tcam

variable {Uuid Hw : Type}

/-- What `ops_xp_cls_list_update` reads that nothing has set: the status that it
allocates, and the results of its two calls of `ops_xp_cls_create_rule_entry_list`
as numbers, where zero is `OPS_CLS_STATUS_SUCCESS`. -/
structure Unset where
  pdStatus : PdStatus
  paclResult : Nat
  raclResult : Nat

section Update

variable [DecidableEq Uuid] (xdk : Xdk Hw)

/-- The maps with other rules for the entry of a list in a table. -/
def renewedHmap (cls : Cls Uuid Hw) (table : AclTable) (listId : Uuid)
    (rules : List AclRule) (numRules : UInt16) : AclTable → List (AclEntry Uuid) :=
  Function.update cls.classifierHmap table
    (KeyedList.rewrite (·.listUid) listId
      (fun e => { e with ruleList := rules, numRules := numRules })
      (cls.classifierHmap table))

/-- New rules for the entry of a list in a table, with the entry as it was.  There
is none when the list has no entry there or comes without entries. -/
def rebuild (outcome : Outcome) (cls : Cls Uuid Hw) (list : ClsList Uuid)
    (table : AclTable) : Option (AclEntry Uuid) × Cls Uuid Hw :=
  match clsLookupFromHmapType list.listId (cls.classifierHmap table), list.entries with
  | some aclEntry, some entries =>
      let (rules, hw) := clsCreateRuleEntryList xdk outcome aclEntry entries cls.hw
      let hmap := renewedHmap cls table list.listId rules (UInt16.ofNat entries.length)
      (some aclEntry, { cls with classifierHmap := hmap, hw := hw })
  | _, _ => (none, cls)

/-- Take out the rules of an entry as it was. -/
def destroyOld (outcome : Outcome) (old : Option (AclEntry Uuid)) (cls : Cls Uuid Hw) :
    Cls Uuid Hw :=
  match old with
  | some aclEntry =>
      { cls with hw := clsDestroyRuleEntryList xdk outcome aclEntry cls.hw }
  | none => cls

/-- `ops_xp_cls_list_update`.  When a result is not zero the loop that takes the new
rules out again runs into a list head on the stack and what follows is not
defined. -/
def clsListUpdate (outcomes : AclTable → Outcome) (unset : Unset) (cls : Cls Uuid Hw)
    (list : ClsList Uuid) (status : StatusCode) : Option (StatusCode × Cls Uuid Hw) :=
  let pdStatus := clsValidateEntries list unset.pdStatus
  if pdStatus.statusCode = .hwUnsupportedErr then some (.hwUnsupportedErr, cls)
  else
    let (oldPacl, cls) := rebuild xdk (outcomes .pacl) cls list .pacl
    let (oldRacl, cls) := rebuild xdk (outcomes .racl) cls list .racl
    if oldPacl.isNone && oldRacl.isNone then some (.hwConfigErr, cls)
    else if (oldPacl.isSome && unset.paclResult != 0) ||
        (oldRacl.isSome && unset.raclResult != 0) then none
    else some (status, destroyOld xdk (outcomes .racl) oldRacl
      (destroyOld xdk (outcomes .pacl) oldPacl cls))

end Update

/-! ## Tables with old and new rules -/

/-- The tables hold the contents of the entries of the maps and some more items. -/
structure Crowded (extra : AclTable → List (Nat × Nat × IaclkeyFieldList × IaclData))
    (contents : AclTable → Uuid → List ListEntry) {xdk : Xdk Hw}
    (model : TcamModel xdk) (cls : Cls Uuid Hw) : Prop where
  typed : ∀ table, ∀ e ∈ cls.classifierHmap table,
    clsGetType e.intfInfo e.clsDirection = table.aclType
  complete : ∀ table, ∀ e ∈ cls.classifierHmap table,
    e.ruleList.length = (contents table e.listUid).length
  holds : ∀ table, Holds model cls.hw table (extra table ++
    (cls.classifierHmap table).flatMap
      fun e => e.itemsOf xdk.zeroCmd (contents table e.listUid))

theorem crowded_nil_iff {xdk : Xdk Hw} {model : TcamModel xdk} {cls : Cls Uuid Hw}
    {contents : AclTable → Uuid → List ListEntry} :
    Crowded (fun _ => []) contents model cls ↔ Installed contents model cls := by
  constructor
  · intro crowded
    exact ⟨crowded.typed, crowded.complete, crowded.holds⟩
  · intro installed
    exact ⟨installed.typed, installed.complete, installed.holds⟩

section Rebuild

variable [DecidableEq Uuid] {xdk : Xdk Hw} {model : TcamModel xdk} {outcome : Outcome}
  {cls : Cls Uuid Hw} {list : ClsList Uuid} {table : AclTable}
  {extra : AclTable → List (Nat × Nat × IaclkeyFieldList × IaclData)}
  {contents : AclTable → Uuid → List ListEntry}

/-- What `rebuild` does when it does something. -/
inductive Rebuilds (xdk : Xdk Hw) (outcome : Outcome) (cls : Cls Uuid Hw)
    (list : ClsList Uuid) (table : AclTable) :
    Option (AclEntry Uuid) × Cls Uuid Hw → Prop
  | kept : (∀ e ∈ cls.classifierHmap table, e.listUid = list.listId →
      list.entries = none) → Rebuilds xdk outcome cls list table (none, cls)
  | renewed {aclEntry : AclEntry Uuid} {entries : List ListEntry}
      {rules : List AclRule} {hw : Hw} :
      aclEntry ∈ cls.classifierHmap table → aclEntry.listUid = list.listId →
      list.entries = some entries →
      clsCreateRuleEntryList xdk outcome aclEntry entries cls.hw = (rules, hw) →
      Rebuilds xdk outcome cls list table (some aclEntry,
        ⟨renewedHmap cls table list.listId rules (UInt16.ofNat entries.length),
          cls.aclIds, hw⟩)

variable (xdk outcome cls list table) in
theorem rebuild_rebuilds :
    Rebuilds xdk outcome cls list table (rebuild xdk outcome cls list table) := by
  unfold rebuild clsLookupFromHmapType
  cases found : (cls.classifierHmap table).find? (·.listUid == list.listId) with
  | none =>
      refine .kept ?_
      intro e member uid
      have different := List.find?_eq_none.mp found e member
      simp [uid] at different
  | some aclEntry =>
      cases listed : list.entries with
      | none => exact .kept (fun _ _ _ => listed)
      | some entries =>
          refine .renewed (List.mem_of_find?_eq_some found) ?_ listed rfl
          simpa using List.find?_some found

/-- The lists and ids of the entries of the maps are the same. -/
def SameLists (before after : Cls Uuid Hw) : Prop :=
  ∀ table, (after.classifierHmap table).map (fun e => (e.listUid, e.aclId)) =
    (before.classifierHmap table).map fun e => (e.listUid, e.aclId)

omit [DecidableEq Uuid] in
theorem SameLists.trans
    {between after : Cls Uuid Hw}
    (first : SameLists cls between)
    (second : SameLists between after) : SameLists cls after :=
  fun table => (second table).trans (first table)

omit [DecidableEq Uuid] in
theorem SameLists.origin
    {after : Cls Uuid Hw} {e : AclEntry Uuid}
    (same : SameLists cls after)
    (member : e ∈ after.classifierHmap table) :
    ∃ old ∈ cls.classifierHmap table, old.listUid = e.listUid ∧
      old.aclId = e.aclId := by
  have image : (e.listUid, e.aclId) ∈ (cls.classifierHmap table).map
      fun e => (e.listUid, e.aclId) := by
    rw [← same table]
    exact List.mem_map.mpr ⟨e, member, rfl⟩
  obtain ⟨old, oldMember, equal⟩ := List.mem_map.mp image
  exact ⟨old, oldMember, Prod.mk.inj equal⟩

omit [DecidableEq Uuid] in
/-- The ids do not depend on rules and counts. -/
theorem SharedIds.of_same
    {after : Cls Uuid Hw}
    (ids : SharedIds cls)
    (same : SameLists cls after)
    (sameIds : after.aclIds = cls.aclIds) : SharedIds after := by
  refine ⟨?_, ?_, ?_⟩
  · intro first e member second other otherMember
    obtain ⟨old, oldMember, uid, aclId⟩ := same.origin member
    obtain ⟨otherOld, otherOldMember, otherUid, otherId⟩ := same.origin otherMember
    rw [← uid, ← aclId, ← otherUid, ← otherId]
    exact ids.idIff first old oldMember second otherOld otherOldMember
  · intro table
    have uids := congrArg (List.map Prod.fst) (same table)
    simp only [List.map_map] at uids
    have once := ids.uuidOnce table
    change ((cls.classifierHmap table).map
      (Prod.fst ∘ fun e => (e.listUid, e.aclId))).Nodup at once
    rw [← uids] at once
    exact once
  · intro table e member
    obtain ⟨old, oldMember, _, aclId⟩ := same.origin member
    rw [sameIds, ← aclId]
    exact ids.used table old oldMember

/-- The fields of entries that new rules leave alone. -/
theorem renewedHmap_field
    {β : Type} {rules : List AclRule} {numRules : UInt16} (field : AclEntry Uuid → β)
    (keeps : ∀ e, field { e with ruleList := rules, numRules := numRules } = field e)
    (listId : Uuid) (other : AclTable) :
    (renewedHmap cls table listId rules numRules other).map field =
      (cls.classifierHmap other).map field := by
  unfold renewedHmap
  by_cases same : other = table
  · subst same
    rw [Function.update_self, KeyedList.map_rewrite (fun e _ _ => keeps e)]
  · rw [Function.update_of_ne same]

theorem mem_renewedHmap
    {other : AclTable} {listId : Uuid} {rules : List AclRule} {numRules : UInt16}
    {e : AclEntry Uuid} :
    e ∈ renewedHmap cls table listId rules numRules other ↔
      (other = table ∧ ∃ old ∈ cls.classifierHmap table, old.listUid = listId ∧
        e = { old with ruleList := rules, numRules := numRules }) ∨
      (e ∈ cls.classifierHmap other ∧ ¬(other = table ∧ e.listUid = listId)) := by
  unfold renewedHmap
  by_cases same : other = table
  · subst same
    rw [Function.update_self, KeyedList.mem_rewrite]
    simp only [true_and, ne_eq]
  · rw [Function.update_of_ne same]
    simp [same]

theorem Rebuilds.same
    {result : Option (AclEntry Uuid) × Cls Uuid Hw}
    (rebuilds : Rebuilds xdk outcome cls list table result) :
    SameLists cls result.2 ∧ result.2.aclIds = cls.aclIds := by
  cases rebuilds with
  | kept _ => exact ⟨fun _ => rfl, rfl⟩
  | renewed _ _ _ _ =>
      refine ⟨?_, rfl⟩
      intro other
      exact renewedHmap_field _ (fun _ => rfl) _ other

/-- The other maps stay as they are. -/
theorem Rebuilds.hmap_other
    {result : Option (AclEntry Uuid) × Cls Uuid Hw} {other : AclTable}
    (rebuilds : Rebuilds xdk outcome cls list table result)
    (different : other ≠ table) :
    result.2.classifierHmap other = cls.classifierHmap other := by
  cases rebuilds with
  | kept _ => rfl
  | renewed _ _ _ _ => exact Function.update_of_ne different ..

theorem SharedIds.rebuilds
    {result : Option (AclEntry Uuid) × Cls Uuid Hw}
    (ids : SharedIds cls)
    (rebuilds : Rebuilds xdk outcome cls list table result) : SharedIds result.2 :=
  ids.of_same rebuilds.same.1 rebuilds.same.2

/-- The items of an old entry, when there is one. -/
def oldItems (zeroCmd : PktCmd) (contents : AclTable → Uuid → List ListEntry)
    (table : AclTable) : Option (AclEntry Uuid) →
    List (Nat × Nat × IaclkeyFieldList × IaclData)
  | some aclEntry => aclEntry.itemsOf zeroCmd (contents table aclEntry.listUid)
  | none => []

/-- The contents after new rules in a table. -/
def renew (contents : AclTable → Uuid → List ListEntry) (table : AclTable)
    (list : ClsList Uuid) : Option (AclEntry Uuid) → AclTable → Uuid → List ListEntry
  | some _ => retarget contents table list.listId (list.entries.getD [])
  | none => contents

/-- The items with new rules for one list. -/
theorem renewedHmap_items
    {aclEntry : AclEntry Uuid}
    (zeroCmd : PktCmd)
    (contents : AclTable → Uuid → List ListEntry)
    (entries : List ListEntry)
    (rules : List AclRule)
    (numRules : UInt16)
    (uuidOnce : ((cls.classifierHmap table).map (·.listUid)).Nodup)
    (member : aclEntry ∈ cls.classifierHmap table) :
    (aclEntry.itemsOf zeroCmd (contents table aclEntry.listUid) ++
      (renewedHmap cls table aclEntry.listUid rules numRules table).flatMap
        fun e => e.itemsOf zeroCmd
          (retarget contents table aclEntry.listUid entries table e.listUid)).Perm
    (installedFrom zeroCmd aclEntry.aclId entries.length 0 rules entries ++
      (cls.classifierHmap table).flatMap
        fun e => e.itemsOf zeroCmd (contents table e.listUid)) := by
  have oldPerm := (KeyedList.perm_cons_remove uuidOnce member rfl).flatMap_right
    fun e => e.itemsOf zeroCmd (contents table e.listUid)
  have newPerm := (KeyedList.rewrite_perm uuidOnce member rfl fun e => { e with
      ruleList := rules, numRules := numRules }).flatMap_right
    fun e => e.itemsOf zeroCmd
      (retarget contents table aclEntry.listUid entries table e.listUid)
  have restSame : (KeyedList.remove (·.listUid) aclEntry.listUid
      (cls.classifierHmap table)).flatMap (fun e => e.itemsOf zeroCmd
        (retarget contents table aclEntry.listUid entries table e.listUid)) =
      (KeyedList.remove (·.listUid) aclEntry.listUid
        (cls.classifierHmap table)).flatMap
        fun e => e.itemsOf zeroCmd (contents table e.listUid) := by
    refine List.flatMap_congr ?_
    intro e kept
    rw [retarget_other (fun both => (KeyedList.mem_remove.mp kept).2 both.2)]
  rw [List.flatMap_cons] at oldPerm newPerm
  rw [restSame, retarget_self] at newPerm
  rw [renewedHmap, Function.update_self]
  refine (List.Perm.append_left _ newPerm).trans ?_
  refine List.Perm.trans ?_ (List.Perm.append_left _ oldPerm).symm
  rw [← List.append_assoc, ← List.append_assoc]
  exact List.Perm.append_right _ List.perm_append_comm

/-- New rules come beside the old ones. -/
theorem Crowded.rebuilds
    {result : Option (AclEntry Uuid) × Cls Uuid Hw}
    (crowded : Crowded extra contents model cls)
    (ids : SharedIds cls)
    (rebuilds : Rebuilds xdk outcome cls list table result) :
    Crowded (Function.update extra table
        (oldItems xdk.zeroCmd contents table result.1 ++ extra table))
      (renew contents table list result.1) model result.2 ∧
      ∀ other, other ≠ table →
        model.table result.2.hw other = model.table cls.hw other := by
  cases rebuilds with
  | kept _ =>
      refine ⟨?_, fun _ _ => rfl⟩
      simp only [oldItems, renew, List.nil_append, Function.update_eq_self]
      exact crowded
  | @renewed aclEntry entries rules hw member uid listed created =>
      rw [clsCreateRuleEntryList, crowded.typed table aclEntry member] at created
      obtain ⟨rules', hw', loop, length, holds, sameOthers⟩ :=
        @Holds.createRules Hw xdk model outcome table aclEntry.aclId entries.length
          entries cls.hw _ (crowded.holds table) 0 []
      rw [loop, List.nil_append] at created
      obtain ⟨rfl, rfl⟩ := Prod.mk.inj created
      simp only [renew, oldItems, listed, Option.getD_some, ← uid]
      refine ⟨⟨?_, ?_, ?_⟩, sameOthers⟩
      · intro other e eMember
        rcases mem_renewedHmap.mp eMember with ⟨rfl, old, oldMember, _, rfl⟩ | ⟨older, _⟩
        · exact crowded.typed other old oldMember
        · exact crowded.typed other e older
      · intro other e eMember
        rcases mem_renewedHmap.mp eMember with
          ⟨rfl, old, _, oldUid, rfl⟩ | ⟨older, elsewhere⟩
        · simp only [oldUid, retarget_self, length]
        · rw [retarget_other elsewhere]
          exact crowded.complete other e older
      · intro other
        by_cases same : other = table
        · subst same
          rw [Function.update_self]
          have items := renewedHmap_items xdk.zeroCmd contents entries rules'
            (UInt16.ofNat entries.length) (ids.uuidOnce other) member
          refine ⟨holds.tidy, holds.represents.perm ?_⟩
          refine (List.Perm.append_right _ List.perm_append_comm).trans ?_
          rw [List.append_assoc]
          refine (List.Perm.append_left _ items).trans ?_
          rw [← List.append_assoc, ← List.append_assoc]
          exact List.Perm.append_right _ List.perm_append_comm
        · simp only [Function.update_of_ne same, renewedHmap]
          have sameItems : (cls.classifierHmap other).flatMap (fun e => e.itemsOf
              xdk.zeroCmd (retarget contents table aclEntry.listUid entries other
                e.listUid)) = (cls.classifierHmap other).flatMap
              fun e => e.itemsOf xdk.zeroCmd (contents other e.listUid) := by
            refine List.flatMap_congr ?_
            intro e _
            rw [retarget_other (fun both => same both.1)]
          rw [sameItems]
          exact (crowded.holds other).congr (sameOthers other same)

omit [DecidableEq Uuid] in
/-- The old rules go. -/
theorem Crowded.destroyOld
    {old : Option (AclEntry Uuid)} {contents' : AclTable → Uuid → List ListEntry}
    {rest : List (Nat × Nat × IaclkeyFieldList × IaclData)}
    (crowded : Crowded extra contents' model cls)
    (owned : extra table = oldItems xdk.zeroCmd contents table old ++ rest)
    (oldTyped : ∀ e ∈ old, clsGetType e.intfInfo e.clsDirection = table.aclType)
    (oldComplete : ∀ e ∈ old,
      e.ruleList.length = (contents table e.listUid).length) :
    Crowded (Function.update extra table rest) contents' model
      (destroyOld xdk outcome old cls) ∧
      ∀ other, other ≠ table →
        model.table (destroyOld xdk outcome old cls).hw other =
          model.table cls.hw other := by
  cases old with
  | none =>
      have same : Function.update extra table rest = extra := by
        rw [Function.update_eq_self_iff, owned]
        rfl
      rw [same]
      exact ⟨crowded, fun _ _ => rfl⟩
  | some aclEntry =>
      have holds := crowded.holds table
      rw [owned, List.append_assoc] at holds
      have destroyed := @Holds.destroyRules Hw xdk model outcome table _ _
        aclEntry.ruleList cls.hw holds (installedFrom_ids (oldComplete aclEntry rfl))
      rw [← oldTyped aclEntry rfl] at destroyed
      refine ⟨⟨crowded.typed, crowded.complete, ?_⟩, destroyed.2⟩
      intro other
      by_cases same : other = table
      · subst same
        rw [Function.update_self]
        exact destroyed.1
      · rw [Function.update_of_ne same]
        exact (crowded.holds other).congr (destroyed.2 other same)

/-- The entry as it was is one of the map. -/
theorem Rebuilds.old
    {result : Option (AclEntry Uuid) × Cls Uuid Hw} {e : AclEntry Uuid}
    (rebuilds : Rebuilds xdk outcome cls list table result)
    (isOld : e ∈ result.1) :
    e ∈ cls.classifierHmap table ∧ e.listUid = list.listId := by
  cases rebuilds with
  | kept _ => cases isOld
  | renewed member uid _ _ =>
      cases isOld
      exact ⟨member, uid⟩

/-- New rules in the port and router tables in place of the old ones. -/
theorem Installed.update
    {outcomes : AclTable → Outcome} {first second : Option (AclEntry Uuid) × Cls Uuid Hw}
    (installed : Installed contents model cls)
    (ids : SharedIds cls)
    (pacl : Rebuilds xdk (outcomes .pacl) cls list .pacl first)
    (racl : Rebuilds xdk (outcomes .racl) first.2 list .racl second) :
    Installed (renew (renew contents .pacl list first.1) .racl list second.1) model
        (destroyOld xdk (outcomes .racl) second.1
          (destroyOld xdk (outcomes .pacl) first.1 second.2)) ∧
      model.table (destroyOld xdk (outcomes .racl) second.1
          (destroyOld xdk (outcomes .pacl) first.1 second.2)).hw .bacl =
        model.table cls.hw .bacl := by
  obtain ⟨crowded, afterPacl⟩ := (crowded_nil_iff.mpr installed).rebuilds ids pacl
  obtain ⟨both, afterRacl⟩ := crowded.rebuilds (ids.rebuilds pacl) racl
  obtain ⟨paclGone, withoutPacl⟩ := @Crowded.destroyOld _ _ _ _ (outcomes .pacl) _ .pacl
    _ contents first.1 _ [] both rfl
    (fun e isOld => installed.typed .pacl e (pacl.old isOld).1)
    (fun e isOld => installed.complete .pacl e (pacl.old isOld).1)
  obtain ⟨raclGone, withoutRacl⟩ := @Crowded.destroyOld _ _ _ _ (outcomes .racl) _ .racl
    _ (renew contents .pacl list first.1) second.1 _ [] paclGone rfl
    (fun e isOld => crowded.typed .racl e (racl.old isOld).1)
    (fun e isOld => crowded.complete .racl e (racl.old isOld).1)
  constructor
  · refine crowded_nil_iff.mp ?_
    convert raclGone using 1
    funext other
    cases other <;> rfl
  · rw [withoutRacl .bacl (by decide), withoutPacl .bacl (by decide),
      afterRacl .bacl (by decide), afterPacl .bacl (by decide)]

end Rebuild

/-! ## What an update does -/

section Updates

variable [DecidableEq Uuid] {xdk : Xdk Hw} {model : TcamModel xdk}
  {outcomes : AclTable → Outcome} {unset : Unset} {cls after : Cls Uuid Hw}
  {list : ClsList Uuid} {status code : StatusCode}

omit [DecidableEq Uuid] in
/-- A list that passes leaves the status as it was. -/
theorem clsValidateEntries_supported
    (supported : list.supported = true)
    (pdStatus : PdStatus) : clsValidateEntries list pdStatus = pdStatus := by
  have general : ∀ (entries : List ListEntry) (first : Nat),
      entries.all (!·.unsupported) = true →
      (entries.zipIdx first).foldl (fun status item =>
        if item.1.unsupported then
          { statusCode := .hwUnsupportedErr, entryId := item.2 }
        else status) pdStatus = pdStatus := by
    intro entries
    induction entries with
    | nil => exact fun _ _ => rfl
    | cons entry entries inductionHypothesis =>
        intro first passed
        rw [List.all_cons, Bool.and_eq_true_iff] at passed
        rw [List.zipIdx_cons, List.foldl_cons, if_neg (by simpa using passed.1)]
        exact inductionHypothesis (first + 1) passed.2
  exact general _ 0 supported

/-- The two rebuilds of an update that is not refused. -/
theorem clsListUpdate_rebuilds
    (passed : (clsValidateEntries list unset.pdStatus).statusCode ≠ .hwUnsupportedErr) :
    ∃ first second, Rebuilds xdk (outcomes .pacl) cls list .pacl first ∧
      Rebuilds xdk (outcomes .racl) first.2 list .racl second ∧
      clsListUpdate xdk outcomes unset cls list status =
        if first.1.isNone && second.1.isNone then some (.hwConfigErr, second.2)
        else if (first.1.isSome && unset.paclResult != 0) ||
            (second.1.isSome && unset.raclResult != 0) then none
        else some (status, destroyOld xdk (outcomes .racl) second.1
          (destroyOld xdk (outcomes .pacl) first.1 second.2)) := by
  refine ⟨_, _, rebuild_rebuilds .., rebuild_rebuilds .., ?_⟩
  unfold clsListUpdate
  simp only [if_neg passed]

omit [DecidableEq Uuid] in
theorem destroyOld_maps
    (xdk : Xdk Hw) (outcome : Outcome) (old : Option (AclEntry Uuid))
    (cls : Cls Uuid Hw) :
    (destroyOld xdk outcome old cls).classifierHmap = cls.classifierHmap ∧
      (destroyOld xdk outcome old cls).aclIds = cls.aclIds := by
  cases old <;> exact ⟨rfl, rfl⟩

/-- An update keeps the lists and ids of the entries. -/
theorem SameLists.update
    {first second : Option (AclEntry Uuid) × Cls Uuid Hw}
    (pacl : Rebuilds xdk (outcomes .pacl) cls list .pacl first)
    (racl : Rebuilds xdk (outcomes .racl) first.2 list .racl second) :
    SameLists cls (destroyOld xdk (outcomes .racl) second.1
        (destroyOld xdk (outcomes .pacl) first.1 second.2)) ∧
      (destroyOld xdk (outcomes .racl) second.1
        (destroyOld xdk (outcomes .pacl) first.1 second.2)).aclIds = cls.aclIds := by
  obtain ⟨paclSame, paclIds⟩ := pacl.same
  obtain ⟨raclSame, raclIds⟩ := racl.same
  refine ⟨paclSame.trans (raclSame.trans ?_), ?_⟩
  · intro table
    rw [(destroyOld_maps ..).1, (destroyOld_maps ..).1]
  · rw [(destroyOld_maps ..).2, (destroyOld_maps ..).2, raclIds, paclIds]

theorem Rebuilds.of_none
    {outcome : Outcome} {table : AclTable}
    {result : Option (AclEntry Uuid) × Cls Uuid Hw}
    (rebuilds : Rebuilds xdk outcome cls list table result)
    (isNone : result.1 = none) :
    result.2 = cls ∧ ∀ e ∈ cls.classifierHmap table, e.listUid = list.listId →
      list.entries = none := by
  cases rebuilds with
  | kept reason => exact ⟨rfl, reason⟩
  | renewed _ _ _ _ => cases isNone

/-- There are new rules when the list has an entry and comes with entries. -/
theorem Rebuilds.isSome_iff
    {outcome : Outcome} {table : AclTable}
    {result : Option (AclEntry Uuid) × Cls Uuid Hw}
    (rebuilds : Rebuilds xdk outcome cls list table result) :
    result.1.isSome ↔ (∃ e ∈ cls.classifierHmap table, e.listUid = list.listId) ∧
      list.entries ≠ none := by
  cases rebuilds with
  | kept reason =>
      constructor
      · nofun
      · rintro ⟨⟨e, member, uid⟩, given⟩
        exact absurd (reason e member uid) given
  | renewed member uid listed _ =>
      constructor
      · intro _
        exact ⟨⟨_, member, uid⟩, by simp [listed]⟩
      · intro _
        rfl

/-- An update keeps the classifier sound. -/
theorem Sound.update
    (sound : Sound model cls)
    (updated : clsListUpdate xdk outcomes unset cls list status = some (code, after)) :
    Sound model after := by
  by_cases refused :
      (clsValidateEntries list unset.pdStatus).statusCode = .hwUnsupportedErr
  · unfold clsListUpdate at updated
    simp only [refused, if_true, Option.some.injEq, Prod.mk.injEq] at updated
    rw [← updated.2]
    exact sound
  · obtain ⟨first, second, pacl, racl, result⟩ := @clsListUpdate_rebuilds _ _ _ xdk
      outcomes unset cls list status refused
    rw [result] at updated
    split at updated
    · rename_i neither
      simp only [Bool.and_eq_true, Option.isNone_iff_eq_none] at neither
      simp only [Option.some.injEq, Prod.mk.injEq] at updated
      rw [← updated.2, (racl.of_none neither.2).1, (pacl.of_none neither.1).1]
      exact sound
    · split at updated
      · cases updated
      · simp only [Option.some.injEq, Prod.mk.injEq] at updated
        obtain ⟨contents, installed⟩ := sound.installed
        obtain ⟨same, sameIds⟩ := SameLists.update pacl racl
        rw [← updated.2]
        exact ⟨sound.ids.of_same same sameIds, _,
          (installed.update sound.ids pacl racl).1⟩

end Updates

/-! ## Runs with updates -/

/-- What happens to the classifier. -/
inductive Event (Uuid : Type)
  | request (operation : Operation Uuid)
  | update (list : ClsList Uuid) (outcomes : AclTable → Outcome) (unset : Unset)
      (status : StatusCode)

section Runs

variable [DecidableEq Uuid]

/-- The classifier after an event. -/
def nextEvent (xdk : Xdk Hw) (cls : Cls Uuid Hw) : Event Uuid → Cls Uuid Hw
  | .request operation => nextCls xdk cls operation
  | .update list outcomes unset status =>
      match clsListUpdate xdk outcomes unset cls list status with
      | some (_, after) => after
      | none => cls

/-- The XDK serves requests, and updates are defined. -/
def Defined (xdk : Xdk Hw) (cls : Cls Uuid Hw) : Event Uuid → Prop
  | .request operation => Served cls operation
  | .update list outcomes unset status =>
      (clsListUpdate xdk outcomes unset cls list status).isSome

/-- The classifiers that requests and updates reach from an initialised one. -/
def ReachedByEvents {xdk : Xdk Hw} (model : TcamModel xdk) (cls : Cls Uuid Hw) : Prop :=
  Transition.Reach (fun initial => ∃ hw, model.Clean hw ∧ initial = clsInit Uuid hw)
    (Defined xdk) (nextEvent xdk) cls

/-- Every run keeps the classifier sound. -/
theorem ReachedByEvents.sound {xdk : Xdk Hw} {model : TcamModel xdk}
    {cls : Cls Uuid Hw}
    (eacl : EaclModel model)
    (reached : ReachedByEvents model cls) : Sound model cls := by
  refine Transition.Reach.invariant (Sound model) ?_ ?_ reached
  · rintro _ ⟨hw, clean, rfl⟩
    exact Sound.init clean
  · intro current event sound defined
    cases event with
    | request operation => exact sound.request eacl defined
    | update list outcomes unset status =>
        obtain ⟨⟨code, after⟩, updated⟩ := Option.isSome_iff_exists.mp defined
        have next : nextEvent xdk current (.update list outcomes unset status) =
            after := by
          simp only [nextEvent, updated]
        rw [next]
        exact sound.update updated

end Runs

/-! ## Programmed lists -/

/-- An entry of a map has the rules of a list in its table: its TCAM entries hold the
encodings in the order of the list, with decreasing priorities, and no other valid
rule has its ACL id. -/
structure Programmed {xdk : Xdk Hw} (model : TcamModel xdk) (hw : Hw)
    (table : AclTable) (e : AclEntry Uuid) (entries : List ListEntry) : Prop where
  rules : e.ruleList.map (fun rule => (model.table hw table).view rule.ruleId) =
    entries.zipIdx.map fun item =>
      some (entries.length - item.2, ruleOfEntry xdk.zeroCmd e.aclId item.1)
  only : ∀ index, ValidRule ((model.table hw table).rule index) →
    Carries e.aclId ((model.table hw table).rule index) →
    ∃ rule ∈ e.ruleList, (model.table hw table).place rule.ruleId = some index

/-- What an update is to leave: every entry of the list has its new rules, no valid
rule with an ACL id of the list is another one, and no error is reported. -/
structure Updated {xdk : Xdk Hw} (model : TcamModel xdk) (list : ClsList Uuid)
    (before after : Cls Uuid Hw) (code : StatusCode) : Prop where
  programmed : ∀ table, ∀ e ∈ after.classifierHmap table, e.listUid = list.listId →
    Programmed model after.hw table e (list.entries.getD [])
  oldGone : ∀ table, ∀ old ∈ before.classifierHmap table, old.listUid = list.listId →
    ∀ other index, ValidRule ((model.table after.hw other).rule index) →
      Carries old.aclId ((model.table after.hw other).rule index) →
      ∃ entry ∈ list.entries.getD [], (model.table after.hw other).rule index =
        ruleOfEntry xdk.zeroCmd old.aclId entry
  noError : code = .success

/-- When an update does what it is for: the status it allocates does not happen to
read as unsupported, the list comes with entries and is in the port or router table,
the results that nothing returns read as success, what the bridge table has of the
list is what it is to have, and the caller set no error. -/
structure Effective {xdk : Xdk Hw} (model : TcamModel xdk) (cls : Cls Uuid Hw)
    (list : ClsList Uuid) (unset : Unset) (status : StatusCode) : Prop where
  initialised : unset.pdStatus.statusCode ≠ .hwUnsupportedErr
  given : list.entries ≠ none
  present : ∃ table, table ≠ .bacl ∧
    ∃ e ∈ cls.classifierHmap table, e.listUid = list.listId
  paclSucceeds : (∃ e ∈ cls.classifierHmap .pacl, e.listUid = list.listId) →
    unset.paclResult = 0
  raclSucceeds : (∃ e ∈ cls.classifierHmap .racl, e.listUid = list.listId) →
    unset.raclResult = 0
  baclProgrammed : ∀ e ∈ cls.classifierHmap .bacl, e.listUid = list.listId →
    Programmed model cls.hw .bacl e (list.entries.getD [])
  noError : status = .success

/-- The items carry the priorities and encodings of the entries. -/
theorem installedFrom_values
    {zeroCmd : PktCmd} {aclId : Byte} {numEntries first : Nat}
    {rules : List AclRule} {entries : List ListEntry}
    (complete : rules.length = entries.length) :
    (installedFrom zeroCmd aclId numEntries first rules entries).map (·.2) =
      (entries.zipIdx first).map fun item =>
        (numEntries - item.2, ruleOfEntry zeroCmd aclId item.1) := by
  induction rules generalizing entries first with
  | nil =>
      have noEntries : entries = [] := List.eq_nil_of_length_eq_zero complete.symm
      subst noEntries
      rfl
  | cons rule rules inductionHypothesis =>
      cases entries with
      | nil => cases complete
      | cons entry entries =>
          have rest := @inductionHypothesis (first + 1) entries (Nat.succ.inj complete)
          simp only [installedFrom, List.zip_cons_cons, List.zipIdx_cons,
            List.map_cons] at rest ⊢
          rw [rest]

section Programs

variable {xdk : Xdk Hw} {model : TcamModel xdk} {cls : Cls Uuid Hw}
  {contents : AclTable → Uuid → List ListEntry} {table : AclTable} {e : AclEntry Uuid}

/-- Installed contents are programmed. -/
theorem Installed.programmed
    (installed : Installed contents model cls)
    (ids : SharedIds cls)
    (member : e ∈ cls.classifierHmap table) :
    Programmed model cls.hw table e (contents table e.listUid) := by
  refine ⟨?_, ?_⟩
  · have sameIds := installed.itemsOf_ids member
    have values : (e.itemsOf xdk.zeroCmd (contents table e.listUid)).map (·.2) = _ :=
      installedFrom_values (installed.complete table e member)
    have viewed : ∀ item ∈ e.itemsOf xdk.zeroCmd (contents table e.listUid),
        (model.table cls.hw table).view item.1 = some item.2 := by
      intro item itemMember
      exact ((installed.holds table).represents.exact item.1 item.2).mpr
        (List.mem_flatMap.mpr ⟨e, member, itemMember⟩)
    calc e.ruleList.map (fun rule => (model.table cls.hw table).view rule.ruleId)
        = (e.ruleList.map (·.ruleId)).map (model.table cls.hw table).view := by
          rw [List.map_map]
          rfl
      _ = (e.itemsOf xdk.zeroCmd (contents table e.listUid)).map
            (fun item => (model.table cls.hw table).view item.1) := by
          rw [← sameIds, List.map_map]
          rfl
      _ = ((e.itemsOf xdk.zeroCmd (contents table e.listUid)).map (·.2)).map some := by
          rw [List.map_map]
          exact List.map_congr_left viewed
      _ = _ := by
          rw [values, List.map_map]
          rfl
  · intro index valid carries
    obtain ⟨owner, ownerMember, placed, carried⟩ := installed.owner_of_valid valid
    have sameId := (carried e.aclId).mp carries
    have sameUid := (ids.idIff table e member table owner ownerMember).mp sameId
    have same := List.inj_on_of_nodup_map (ids.uuidOnce table) member ownerMember
      sameUid
    rw [same]
    exact placed

/-- A valid rule with the ACL id of a programmed entry is an encoding. -/
theorem Programmed.encoded
    {hw : Hw} {entries : List ListEntry} {index : Nat}
    (programmed : Programmed model hw table e entries)
    (valid : ValidRule ((model.table hw table).rule index))
    (carries : Carries e.aclId ((model.table hw table).rule index)) :
    ∃ entry ∈ entries, (model.table hw table).rule index =
      ruleOfEntry xdk.zeroCmd e.aclId entry := by
  obtain ⟨rule, owns, place⟩ := programmed.only index valid carries
  have viewed : (model.table hw table).view rule.ruleId ∈ e.ruleList.map
      fun rule => (model.table hw table).view rule.ruleId :=
    List.mem_map.mpr ⟨rule, owns, rfl⟩
  rw [programmed.rules] at viewed
  obtain ⟨⟨entry, i⟩, zipped, view⟩ := List.mem_map.mp viewed
  obtain ⟨_, _, placed, encoding⟩ := Table.view_eq_some.mp view.symm
  rw [place] at placed
  cases placed
  exact ⟨entry, List.fst_mem_of_mem_zipIdx zipped, encoding⟩

/-- Only the table matters. -/
theorem Programmed.congr
    {hw hw' : Hw} {entries : List ListEntry}
    (programmed : Programmed model hw table e entries)
    (same : model.table hw' table = model.table hw table) :
    Programmed model hw' table e entries := by
  refine ⟨?_, ?_⟩
  · rw [same]
    exact programmed.rules
  · rw [same]
    exact programmed.only

/-- When every entry of a list has its rules, no valid rule with its ACL id is
another one. -/
theorem Installed.oldGone
    {before : Cls Uuid Hw} {list : ClsList Uuid}
    (installed : Installed contents model cls)
    (ids : SharedIds before)
    (same : SameLists before cls)
    (programmed : ∀ table, ∀ e ∈ cls.classifierHmap table, e.listUid = list.listId →
      Programmed model cls.hw table e (list.entries.getD []))
    {old : AclEntry Uuid}
    (member : old ∈ before.classifierHmap table)
    (uid : old.listUid = list.listId)
    {other : AclTable} {index : Nat}
    (valid : ValidRule ((model.table cls.hw other).rule index))
    (carries : Carries old.aclId ((model.table cls.hw other).rule index)) :
    ∃ entry ∈ list.entries.getD [], (model.table cls.hw other).rule index =
      ruleOfEntry xdk.zeroCmd old.aclId entry := by
  obtain ⟨owner, ownerMember, _, carried⟩ := installed.owner_of_valid valid
  have sameId := (carried old.aclId).mp carries
  obtain ⟨origin, originMember, originUid, originId⟩ := same.origin ownerMember
  have ownerUid : owner.listUid = list.listId := by
    rw [← originUid, ← uid]
    exact (ids.idIff other origin originMember table old member).mp
      (originId.trans sameId.symm)
  rw [sameId] at carries ⊢
  exact (programmed other owner ownerMember ownerUid).encoded valid carries

section Effects

variable [DecidableEq Uuid] {outcomes : AclTable → Outcome} {unset : Unset}
  {list : ClsList Uuid} {status : StatusCode}
  {first second : Option (AclEntry Uuid) × Cls Uuid Hw}

theorem renew_self
    {old : Option (AclEntry Uuid)}
    (isSome : old.isSome) :
    renew contents table list old table list.listId = list.entries.getD [] := by
  cases old with
  | none => cases isSome
  | some _ => exact retarget_self ..

theorem renew_other
    {old : Option (AclEntry Uuid)} {other : AclTable}
    (different : other ≠ table)
    (uid : Uuid) :
    renew contents table list old other uid = contents other uid := by
  cases old with
  | none => rfl
  | some _ => exact retarget_other (fun both => different both.1)

/-- An update leaves the map of the bridge table alone. -/
theorem Rebuilds.hmap_bacl
    (pacl : Rebuilds xdk (outcomes .pacl) cls list .pacl first)
    (racl : Rebuilds xdk (outcomes .racl) first.2 list .racl second) :
    (destroyOld xdk (outcomes .racl) second.1 (destroyOld xdk (outcomes .pacl) first.1
      second.2)).classifierHmap .bacl = cls.classifierHmap .bacl := by
  rw [(destroyOld_maps ..).1, (destroyOld_maps ..).1, racl.hmap_other (by decide),
    pacl.hmap_other (by decide)]

/-- The entries of the list are programmed after an update. -/
theorem Installed.update_programmed
    (installed : Installed contents model cls)
    (ids : SharedIds cls)
    (pacl : Rebuilds xdk (outcomes .pacl) cls list .pacl first)
    (racl : Rebuilds xdk (outcomes .racl) first.2 list .racl second)
    (given : list.entries ≠ none)
    (baclProgrammed : ∀ e ∈ cls.classifierHmap .bacl, e.listUid = list.listId →
      Programmed model cls.hw .bacl e (list.entries.getD []))
    (member : e ∈ (destroyOld xdk (outcomes .racl) second.1
      (destroyOld xdk (outcomes .pacl) first.1 second.2)).classifierHmap table)
    (uid : e.listUid = list.listId) :
    Programmed model (destroyOld xdk (outcomes .racl) second.1
      (destroyOld xdk (outcomes .pacl) first.1 second.2)).hw table e
      (list.entries.getD []) := by
  obtain ⟨same, sameIds⟩ := SameLists.update pacl racl
  obtain ⟨after, sameBacl⟩ := installed.update ids pacl racl
  have programmed := after.programmed (ids.of_same same sameIds) member
  obtain ⟨old, oldMember, oldUid, _⟩ := same.origin member
  rw [uid] at programmed
  cases table with
  | pacl =>
      have isSome := pacl.isSome_iff.mpr ⟨⟨old, oldMember, oldUid.trans uid⟩, given⟩
      rw [renew_other (by decide), renew_self isSome] at programmed
      exact programmed
  | bacl =>
      rw [pacl.hmap_bacl racl] at member
      exact (baclProgrammed e member uid).congr sameBacl
  | racl =>
      rw [← pacl.hmap_other (by decide)] at oldMember
      have isSome := racl.isSome_iff.mpr ⟨⟨old, oldMember, oldUid.trans uid⟩, given⟩
      rw [renew_self isSome] at programmed
      exact programmed

/-- When an update comes to take the old rules out. -/
theorem Rebuilds.succeeds_iff
    (pacl : Rebuilds xdk (outcomes .pacl) cls list .pacl first)
    (racl : Rebuilds xdk (outcomes .racl) first.2 list .racl second) :
    (¬(first.1.isNone && second.1.isNone) = true ∧
      ¬((first.1.isSome && unset.paclResult != 0) ||
        (second.1.isSome && unset.raclResult != 0)) = true) ↔
    (list.entries ≠ none ∧ (∃ table, table ≠ .bacl ∧
        ∃ e ∈ cls.classifierHmap table, e.listUid = list.listId) ∧
      ((∃ e ∈ cls.classifierHmap .pacl, e.listUid = list.listId) →
        unset.paclResult = 0) ∧
      ((∃ e ∈ cls.classifierHmap .racl, e.listUid = list.listId) →
        unset.raclResult = 0)) := by
  have paclIff := pacl.isSome_iff
  have raclIff := racl.isSome_iff
  rw [pacl.hmap_other (by decide)] at raclIff
  have tables : (∃ table, table ≠ AclTable.bacl ∧
      ∃ e ∈ cls.classifierHmap table, e.listUid = list.listId) ↔
      (∃ e ∈ cls.classifierHmap .pacl, e.listUid = list.listId) ∨
        ∃ e ∈ cls.classifierHmap .racl, e.listUid = list.listId := by
    constructor
    · rintro ⟨table, notBacl, found⟩
      cases table with
      | pacl => exact .inl found
      | bacl => exact absurd rfl notBacl
      | racl => exact .inr found
    · rintro (found | found)
      · exact ⟨.pacl, by decide, found⟩
      · exact ⟨.racl, by decide, found⟩
  simp only [Bool.or_eq_true, Bool.and_eq_true, bne_iff_ne, ne_eq,
    Option.isNone_iff_eq_none, ← Option.not_isSome_iff_eq_none, paclIff, raclIff, tables]
  grind

/-- `ops_xp_cls_list_update` of a list that passes validation does what it is for
exactly when nothing that it leaves unset or out gets in the way. -/
theorem updated_iff_effective
    (eacl : EaclModel model)
    (reached : ReachedByEvents model cls)
    (supported : list.supported = true) :
    (∃ code after, clsListUpdate xdk outcomes unset cls list status =
        some (code, after) ∧ Updated model list cls after code) ↔
      Effective model cls list unset status := by
  have sound := reached.sound eacl
  have validated := clsValidateEntries_supported supported unset.pdStatus
  by_cases passed : unset.pdStatus.statusCode = .hwUnsupportedErr
  · constructor
    · rintro ⟨code, after, result, updated⟩
      unfold clsListUpdate at result
      simp only [validated, passed, if_true, Option.some.injEq,
        Prod.mk.injEq] at result
      rw [← result.1] at updated
      cases updated.noError
    · intro effective
      exact absurd passed effective.initialised
  · obtain ⟨contents, installed⟩ := sound.installed
    obtain ⟨first, second, pacl, racl, result⟩ := @clsListUpdate_rebuilds _ _ _ xdk
      outcomes unset cls list status (by rw [validated]; exact passed)
    obtain ⟨after, sameBacl⟩ := installed.update sound.ids pacl racl
    have succeeds := @Rebuilds.succeeds_iff _ _ _ _ _ outcomes unset _ _ _ pacl racl
    rw [result]
    constructor
    · rintro ⟨code, left, found, updated⟩
      split at found
      · simp only [Option.some.injEq, Prod.mk.injEq] at found
        rw [← found.1] at updated
        cases updated.noError
      · rename_i renewed
        split at found
        · cases found
        · rename_i notFailed
          simp only [Option.some.injEq, Prod.mk.injEq] at found
          obtain ⟨rfl, rfl⟩ := found
          obtain ⟨given, present, paclZero, raclZero⟩ :=
            succeeds.mp ⟨renewed, notFailed⟩
          refine ⟨passed, given, present, paclZero, raclZero, ?_, updated.noError⟩
          intro e member uid
          have now := member
          rw [← pacl.hmap_bacl racl] at now
          exact (updated.programmed .bacl e now uid).congr sameBacl.symm
    · intro effective
      obtain ⟨renewed, notFailed⟩ := succeeds.mpr ⟨effective.given, effective.present,
        effective.paclSucceeds, effective.raclSucceeds⟩
      rw [if_neg renewed, if_neg notFailed]
      have programmed : ∀ table, ∀ e ∈ (destroyOld xdk (outcomes .racl) second.1
          (destroyOld xdk (outcomes .pacl) first.1 second.2)).classifierHmap table,
          e.listUid = list.listId → Programmed model (destroyOld xdk (outcomes .racl)
            second.1 (destroyOld xdk (outcomes .pacl) first.1 second.2)).hw table e
            (list.entries.getD []) := by
        intro table e member uid
        exact installed.update_programmed sound.ids pacl racl effective.given
          effective.baclProgrammed member uid
      refine ⟨status, _, rfl, programmed, ?_, effective.noError⟩
      intro table old member uid other index valid carries
      exact after.oldGone sound.ids (SameLists.update pacl racl).1 programmed member uid
        valid carries

end Effects

end Programs

/-! ## Concrete updates -/

/-- A request for a VLAN. -/
def onVlan (request : Request Nat) (l3Only : Bool) (direction : Direction)
    (aclId : Byte) : Operation Nat where
  request := request
  interface := 0
  bundle := some { ports := [], l3Intf := if l3Only then some 5 else none }
  info := { interface := .vlan, l3Only := l3Only }
  direction := direction
  outcome := allocating aclId

/-- List 1 as it is applied. -/
def firstList : ClsList Nat := { listId := 1, entries := portLists 1 }

/-- List 1 with other entries. -/
def secondList : ClsList Nat := { listId := 1, entries := portLists 2 }

/-- The values that nothing has set happen to say success. -/
def luckily : Unset := { pdStatus := .success, paclResult := 0, raclResult := 0 }

/-- List 1 on a port. -/
def portRun : List (Event Nat) := [.request (onPort (.apply firstList) 0 7#8)]

/-- List 1 on a port and on the bridge interface of a VLAN. -/
def bridgeRun : List (Event Nat) :=
  portRun ++ [.request (onVlan (.apply firstList) false .ingress 8#8)]

/-- The classifier after a run. -/
def afterRun (events : List (Event Nat)) : Cls Nat (TcamHw × List (Nat × Nat)) :=
  Transition.run (nextEvent indexedXdk.withEgress) (clsInit Nat (emptyTcam, [])) events

theorem served_allocating
    {cls : Cls Nat Hw} {operation : Operation Nat} {fresh : Byte}
    (addressed : Addressed operation.info operation.direction)
    (answer : operation.outcome.aclIdAllocEntry = some fresh)
    (free : fresh ∉ cls.aclIds) : Served cls operation where
  addressed := addressed
  allocates := fun _ _ _ => ⟨fresh, answer, free⟩

theorem reached_portRun : ReachedByEvents indexedModel.withEgress (afterRun portRun) := by
  have initial : ReachedByEvents indexedModel.withEgress
      (clsInit Nat (emptyTcam, [])) := .start ⟨_, clean_emptyTcam, rfl⟩
  exact initial.of_run ⟨served_allocating ⟨by decide, by decide⟩ rfl (by decide), trivial⟩

theorem updated_portRun :
    ∃ code after, clsListUpdate indexedXdk.withEgress (fun _ => allocating 9#8) luckily
        (afterRun portRun) secondList .success = some (code, after) ∧
      Updated indexedModel.withEgress secondList (afterRun portRun) after code := by
  refine (updated_iff_effective (egressTable indexedModel) reached_portRun
    (by decide)).mpr ?_
  refine ⟨by decide, by decide, ⟨.pacl, by decide, by decide⟩, fun _ => rfl,
    fun _ => rfl, ?_, rfl⟩
  intro e member
  cases member

/-- The bridge table keeps the old rules. -/
theorem not_updated_bridgeRun :
    ReachedByEvents indexedModel.withEgress (afterRun bridgeRun) ∧
      secondList.supported = true ∧
      ¬∃ code after, clsListUpdate indexedXdk.withEgress (fun _ => allocating 9#8)
          luckily (afterRun bridgeRun) secondList .success = some (code, after) ∧
        Updated indexedModel.withEgress secondList (afterRun bridgeRun) after code := by
  refine ⟨?_, by decide, ?_⟩
  · exact reached_portRun.of_run
      ⟨served_allocating ⟨by decide, by decide⟩ rfl (by decide), trivial⟩
  · rintro ⟨code, after, result, updated⟩
    have shape : (clsListUpdate indexedXdk.withEgress (fun _ => allocating 9#8) luckily
        (afterRun bridgeRun) secondList .success).map (fun result =>
          (result.2.classifierHmap .bacl).map fun e => (e.listUid, e.ruleList.length)) =
        some [(1, 2)] := by
      decide +kernel
    rw [result, Option.map_some, Option.some.injEq] at shape
    obtain ⟨e, member, known⟩ : ∃ e ∈ after.classifierHmap .bacl,
        (e.listUid, e.ruleList.length) = (1, 2) := by
      refine List.mem_map.mp ?_
      rw [shape]
      exact List.mem_singleton_self _
    obtain ⟨uid, length⟩ := Prod.mk.inj known
    have programmed := congrArg List.length (updated.programmed .bacl e member uid).rules
    rw [List.length_map, List.length_map, List.length_zipIdx, length] at programmed
    revert programmed
    decide

end Classifier
end XpliantSwitchd
