import XpliantSwitchd.MacLearning.Defs
import XpliantSwitchd.Lib.Transition

/-!
# The software table follows the hardware FDB

Every software entry stands for the hardware entry at its index.  The hardware
may hold more: an XDK call that fails can leave an entry there that the software
does not know, but never the other way round.
-/

namespace XpliantSwitchd
namespace MacLearning

/-- The relation of the two tables that holds between operations. -/
structure TablesAgree (ml : Ml) : Prop where
  /-- There is at most one software entry per index. -/
  indexOnce : (ml.table.map (·.index)).Nodup
  /-- A software entry has a hardware entry behind it. -/
  tracked : ∀ e ∈ ml.table, ∃ entry, (e.index, entry) ∈ ml.hw ∧ entry.key = e.key
  /-- No two software entries are about the same address. -/
  keyOnce : ∀ e ∈ ml.table, ∀ other ∈ ml.table, e.key = other.key → e = other

/-- The invariant, with the uniqueness of hardware entries. -/
structure FdbInv (ml : Ml) : Prop where
  indexOnce : (ml.table.map (·.index)).Nodup
  tracked : ∀ e ∈ ml.table, ∃ entry, (e.index, entry) ∈ ml.hw ∧ entry.key = e.key
  hwIndexOnce : (ml.hw.map Prod.fst).Nodup
  hwKeyOnce : (ml.hw.map (·.2.key)).Nodup

theorem FdbInv.tablesAgree {ml : Ml} (inv : FdbInv ml) : TablesAgree ml where
  indexOnce := inv.indexOnce
  tracked := inv.tracked
  keyOnce := by
    intro e member other otherMember equal
    obtain ⟨entry, inHw, key⟩ := inv.tracked e member
    obtain ⟨otherEntry, otherInHw, otherKey⟩ := inv.tracked other otherMember
    have sameSlot : (e.index, entry) = (other.index, otherEntry) :=
      List.inj_on_of_nodup_map inv.hwKeyOnce inHw otherInHw
        (key.trans (equal.trans otherKey.symm))
    exact List.inj_on_of_nodup_map inv.indexOnce member otherMember
      (congrArg Prod.fst sameSlot)

/-- Hardware entries have distinct indices and distinct addresses. -/
structure HwUnique (hw : HwFdb) : Prop where
  indexOnce : (hw.map Prod.fst).Nodup
  keyOnce : (hw.map (·.2.key)).Nodup

theorem macLearningCreate_fdbInv (maxEntries : Nat) (pluginInterface : Bool)
    {hw : HwFdb} (unique : HwUnique hw) :
    FdbInv (macLearningCreate maxEntries pluginInterface hw) where
  indexOnce := List.nodup_nil
  tracked := by
    intro e member
    cases member
  hwIndexOnce := unique.indexOnce
  hwKeyOnce := unique.keyOnce

/-! ## Recording leaves both tables alone -/

@[simp] theorem processMlearn_table (ml : Ml) :
    (processMlearn ml).table = ml.table := by
  unfold processMlearn
  split <;> rfl

@[simp] theorem processMlearn_hw (ml : Ml) : (processMlearn ml).hw = ml.hw := by
  unfold processMlearn
  split <;> rfl

section Recording

variable (env : Env) (ml : Ml) (entry : FdbEntry) (index reHashIndex : Nat)
  (event : MlearnEvent)

@[simp] theorem mlearnActionAdd_table :
    (mlearnActionAdd env ml entry index reHashIndex event).table = ml.table := by
  simp only [mlearnActionAdd]
  split
  · rw [processMlearn_table]
    rfl
  · rfl

@[simp] theorem mlearnActionAdd_hw :
    (mlearnActionAdd env ml entry index reHashIndex event).hw = ml.hw := by
  simp only [mlearnActionAdd]
  split
  · rw [processMlearn_hw]
    rfl
  · rfl

end Recording

/-- The invariant only looks at the two tables. -/
theorem FdbInv.congr {ml ml' : Ml}
    (inv : FdbInv ml)
    (table : ml'.table = ml.table)
    (hw : ml'.hw = ml.hw) : FdbInv ml' := by
  obtain ⟨indexOnce, tracked, hwIndexOnce, hwKeyOnce⟩ := inv
  rw [← table] at indexOnce tracked
  rw [← hw] at tracked hwIndexOnce hwKeyOnce
  exact ⟨indexOnce, tracked, hwIndexOnce, hwKeyOnce⟩

/-! ## Removal -/

theorem fdbRemoveEntryByIndex_sublist (xdk : Outcome) (hw : HwFdb) (index : Nat) :
    (fdbRemoveEntryByIndex xdk hw index).2.Sublist hw := by
  unfold fdbRemoveEntryByIndex
  split
  · exact List.filter_sublist
  · exact List.Sublist.refl _

theorem fdbRemoveEntry_sublist (xdk : Outcome) (hw : HwFdb) (entry : FdbEntry) :
    (fdbRemoveEntry xdk hw entry).Sublist hw := by
  unfold fdbRemoveEntry
  split
  · exact List.filter_sublist
  · exact List.Sublist.refl _

/-- Removing hardware entries that no software entry stands for. -/
theorem FdbInv.shrinkHw {ml : Ml} {hw : HwFdb}
    (inv : FdbInv ml)
    (smaller : hw.Sublist ml.hw)
    (kept : ∀ e ∈ ml.table, ∀ entry, (e.index, entry) ∈ ml.hw →
      (e.index, entry) ∈ hw) :
    FdbInv { ml with hw := hw } where
  indexOnce := inv.indexOnce
  tracked := by
    intro e member
    obtain ⟨entry, inHw, key⟩ := inv.tracked e member
    exact ⟨entry, kept e member entry inHw, key⟩
  hwIndexOnce := inv.hwIndexOnce.sublist (smaller.map _)
  hwKeyOnce := inv.hwKeyOnce.sublist (smaller.map _)

theorem expire_of_refused {xdk : Outcome} {e : MacEntry}
    (refused : xdk.removeEntryByIndex e.index = false) (env : Env) (ml : Ml) :
    (expire env xdk ml e).2 = ml := by
  simp [expire, fdbRemoveEntryByIndex, refused]

theorem expire_of_removed {xdk : Outcome} {e : MacEntry}
    (removed : xdk.removeEntryByIndex e.index = true) (env : Env) (ml : Ml) :
    (expire env xdk ml e).2 = mlearnActionAdd env { ml with
      hw := KeyedList.remove Prod.fst e.index ml.hw
      table := KeyedList.remove (·.index) e.index ml.table }
      e.fdb e.index e.index .del := by
  simp [expire, fdbRemoveEntryByIndex, removed]

/-- `ops_xp_mac_learning_expire` removes an index from both tables or from
neither. -/
theorem FdbInv.expire {ml : Ml} (inv : FdbInv ml) (env : Env) (xdk : Outcome)
    (e : MacEntry) : FdbInv (expire env xdk ml e).2 := by
  cases answer : xdk.removeEntryByIndex e.index with
  | false =>
      rw [expire_of_refused answer]
      exact inv
  | true =>
      have removed : FdbInv { ml with
          hw := KeyedList.remove Prod.fst e.index ml.hw
          table := KeyedList.remove (·.index) e.index ml.table } := by
        refine ⟨KeyedList.nodup_remove inv.indexOnce, ?_,
          inv.hwIndexOnce.sublist (List.filter_sublist.map _),
          inv.hwKeyOnce.sublist (List.filter_sublist.map _)⟩
        intro other otherMember
        obtain ⟨older, different⟩ := KeyedList.mem_remove.mp otherMember
        obtain ⟨entry, inHw, key⟩ := inv.tracked other older
        exact ⟨entry, KeyedList.mem_remove.mpr ⟨inHw, different⟩, key⟩
      rw [expire_of_removed answer]
      exact removed.congr (by simp) (by simp)

theorem FdbInv.expireAll {ml : Ml} (inv : FdbInv ml) (env : Env) (xdk : Outcome)
    (entries : List MacEntry) : FdbInv (expireAll env xdk ml entries) := by
  unfold MacLearning.expireAll
  induction entries generalizing ml with
  | nil => exact inv
  | cons e entries inductionHypothesis =>
      exact inductionHypothesis (inv.expire env xdk e)

/-! ## Insertion and move -/

/-- The contract of `xpsFdbAddEntry`: it returns a free index, or an occupied
one whose occupant it has moved to a free one. -/
def AddContract (xdk : Outcome) (hw : HwFdb) : Prop :=
  ∀ index reHashIndex, xdk.addEntry = some (index, reHashIndex) →
    if index = reHashIndex then index ∉ hw.map Prod.fst
    else index ∈ hw.map Prod.fst ∧ reHashIndex ∉ hw.map Prod.fst

theorem lookup_some {ml : Ml} {index : Nat} {e : MacEntry}
    (found : lookup ml index = some e) : e ∈ ml.table ∧ e.index = index :=
  ⟨List.mem_of_find?_eq_some found, by simpa using List.find?_some found⟩

theorem lookup_none {ml : Ml} {index : Nat}
    (missing : lookup ml index = none) : ∀ e ∈ ml.table, e.index ≠ index := by
  intro e member
  simpa using List.find?_eq_none.mp missing e member

/-- A new entry at an index that is free in both tables. -/
theorem FdbInv.cons {ml : Ml} {index : Nat} {entry : FdbEntry}
    (inv : FdbInv ml)
    (free : index ∉ ml.hw.map Prod.fst)
    (new : entry.key ∉ ml.hw.map (·.2.key)) :
    FdbInv { ml with
      hw := (index, entry) :: ml.hw
      table := ⟨index, entry⟩ :: ml.table } where
  indexOnce := by
    refine List.nodup_cons.mpr ⟨?_, inv.indexOnce⟩
    intro member
    obtain ⟨e, eMember, equal⟩ := List.mem_map.mp member
    obtain ⟨behind, inHw, _⟩ := inv.tracked e eMember
    exact free (List.mem_map.mpr ⟨_, inHw, equal⟩)
  tracked := by
    intro e member
    rcases List.mem_cons.mp member with rfl | older
    · exact ⟨entry, List.mem_cons_self .., rfl⟩
    · obtain ⟨behind, inHw, key⟩ := inv.tracked e older
      exact ⟨behind, List.mem_cons_of_mem _ inHw, key⟩
  hwIndexOnce := List.nodup_cons.mpr ⟨free, inv.hwIndexOnce⟩
  hwKeyOnce := List.nodup_cons.mpr ⟨new, inv.hwKeyOnce⟩

/-- The occupant of an index moves to a free index in both tables. -/
theorem FdbInv.relocate {ml : Ml} {index reHashIndex : Nat}
    (inv : FdbInv ml)
    (free : reHashIndex ∉ ml.hw.map Prod.fst) :
    FdbInv { ml with
      hw := KeyedList.rewrite Prod.fst index
        (fun slot => (reHashIndex, slot.2)) ml.hw
      table := KeyedList.rewrite (·.index) index
        (fun e => { e with index := reHashIndex }) ml.table } where
  indexOnce := by
    refine KeyedList.nodup_rekey (fun _ => rfl) inv.indexOnce ?_
    intro member
    obtain ⟨e, eMember, equal⟩ := List.mem_map.mp member
    obtain ⟨behind, inHw, _⟩ := inv.tracked e eMember
    exact free (List.mem_map.mpr ⟨_, inHw, equal⟩)
  tracked := by
    intro e member
    rcases KeyedList.mem_rewrite.mp member with
      ⟨old, oldMember, selected, rfl⟩ | ⟨oldMember, different⟩
    · obtain ⟨behind, inHw, key⟩ := inv.tracked old oldMember
      exact ⟨behind, KeyedList.mem_rewrite.mpr
        (.inl ⟨_, inHw, selected, rfl⟩), key⟩
    · obtain ⟨behind, inHw, key⟩ := inv.tracked e oldMember
      exact ⟨behind, KeyedList.mem_rewrite.mpr (.inr ⟨inHw, different⟩), key⟩
  hwIndexOnce := KeyedList.nodup_rekey (fun _ => rfl) inv.hwIndexOnce free
  hwKeyOnce := by
    rw [KeyedList.map_rewrite (by intro _ _ _; rfl)]
    exact inv.hwKeyOnce

/-- A hardware entry that the software does not know. -/
theorem FdbInv.consHw {ml : Ml} {index : Nat} {entry : FdbEntry}
    (inv : FdbInv ml)
    (free : index ∉ ml.hw.map Prod.fst)
    (new : entry.key ∉ ml.hw.map (·.2.key)) :
    FdbInv { ml with hw := (index, entry) :: ml.hw } where
  indexOnce := inv.indexOnce
  tracked := by
    intro e member
    obtain ⟨behind, inHw, key⟩ := inv.tracked e member
    exact ⟨behind, List.mem_cons_of_mem _ inHw, key⟩
  hwIndexOnce := List.nodup_cons.mpr ⟨free, inv.hwIndexOnce⟩
  hwKeyOnce := List.nodup_cons.mpr ⟨new, inv.hwKeyOnce⟩

/-- Removing the hardware entry of an address that the software does not
track. -/
theorem FdbInv.removeUntracked {ml : Ml} {index : Nat} {entry behind : FdbEntry}
    (inv : FdbInv ml)
    (inHw : (index, behind) ∈ ml.hw)
    (key : behind.key = entry.key)
    (untracked : ∀ e ∈ ml.table, e.index ≠ index)
    (xdk : Outcome) :
    FdbInv { ml with hw := fdbRemoveEntry xdk ml.hw entry } := by
  refine inv.shrinkHw (fdbRemoveEntry_sublist xdk ml.hw entry) ?_
  intro e member other otherInHw
  unfold fdbRemoveEntry
  split
  · refine KeyedList.mem_remove.mpr ⟨otherInHw, ?_⟩
    intro sameKey
    have sameSlot := List.inj_on_of_nodup_map inv.hwKeyOnce otherInHw inHw
      (sameKey.trans key.symm)
    exact untracked e member (congrArg Prod.fst sameSlot)
  · exact otherInHw

theorem FdbInv.removeIndex {ml : Ml} {index : Nat}
    (inv : FdbInv ml)
    (untracked : ∀ e ∈ ml.table, e.index ≠ index)
    (xdk : Outcome) :
    FdbInv { ml with hw := (fdbRemoveEntryByIndex xdk ml.hw index).2 } := by
  refine inv.shrinkHw (fdbRemoveEntryByIndex_sublist xdk ml.hw index) ?_
  intro e member other otherInHw
  unfold fdbRemoveEntryByIndex
  split
  · exact KeyedList.mem_remove.mpr ⟨otherInHw, untracked e member⟩
  · exact otherInHw

/-- `ops_xp_mac_learning_insert` of an address that is not in the hardware. -/
theorem FdbInv.insert {ml : Ml} {entry : FdbEntry} {xdk : Outcome}
    (inv : FdbInv ml)
    (contract : AddContract xdk ml.hw)
    (new : entry.key ∉ ml.hw.map (·.2.key))
    (env : Env) :
    FdbInv (insert env xdk ml entry).2 := by
  unfold MacLearning.insert
  split
  · exact inv
  · unfold fdbAddEntry
    cases added : xdk.addEntry with
    | none => exact inv
    | some indices =>
        obtain ⟨index, reHashIndex⟩ := indices
        have allowed := contract index reHashIndex added
        simp only
        split
        · rename_i same
          rw [if_pos same] at allowed
          have unmoved : KeyedList.rewrite Prod.fst index
              (fun slot => (reHashIndex, slot.2)) ml.hw = ml.hw := by
            apply KeyedList.rewrite_of_absent
            rintro slot member rfl
            exact allowed (List.mem_map_of_mem member)
          rw [unmoved]
          exact (inv.cons allowed new).congr (by simp [insertEntry])
            (by simp [insertEntry])
        · rename_i different
          rw [if_neg different] at allowed
          have moved : FdbInv { ml with
              hw := KeyedList.rewrite Prod.fst index
                (fun slot => (reHashIndex, slot.2)) ml.hw
              table := KeyedList.rewrite (·.index) index
                (fun e => { e with index := reHashIndex }) ml.table } :=
            inv.relocate allowed.2
          have freed : index ∉ (KeyedList.rewrite Prod.fst index
              (fun slot => (reHashIndex, slot.2)) ml.hw).map Prod.fst :=
            KeyedList.not_mem_rekey (fun _ => rfl) (Ne.symm different)
          have stillNew : entry.key ∉ (KeyedList.rewrite Prod.fst index
              (fun slot => (reHashIndex, slot.2)) ml.hw).map (·.2.key) := by
            rw [KeyedList.map_rewrite (by intro _ _ _; rfl)]
            exact new
          split
          · exact (moved.cons freed stillNew).congr (by simp [insertEntry])
              (by simp [insertEntry])
          · rename_i missing
            have untracked := lookup_none missing
            have sameTable : KeyedList.rewrite (·.index) index
                (fun e => { e with index := reHashIndex }) ml.table = ml.table :=
              KeyedList.rewrite_of_absent untracked
            rw [sameTable] at moved
            have grown := moved.consHw freed stillNew
            have shrunk := grown.removeUntracked (List.mem_cons_self ..) rfl
              untracked xdk
            refine shrunk.removeIndex ?_ xdk
            rintro e member rfl
            obtain ⟨behind, inHw, _⟩ := inv.tracked e member
            exact allowed.2 (List.mem_map_of_mem inHw)

theorem fdbFindEntry_found {xdk : Outcome} {hw : HwFdb} {entry : FdbEntry}
    {index : Nat}
    (found : fdbFindEntry xdk hw entry = .found index) :
    ∃ behind, (index, behind) ∈ hw ∧ behind.key = entry.key := by
  unfold fdbFindEntry at found
  split at found
  · cases found
  · split at found
    · rename_i slot behind search
      cases found
      exact ⟨behind, List.mem_of_find?_eq_some search,
        by simpa using List.find?_some search⟩
    · cases found

theorem fdbFindEntry_miss {xdk : Outcome} {hw : HwFdb} {entry : FdbEntry}
    (miss : fdbFindEntry xdk hw entry = .miss) :
    entry.key ∉ hw.map (·.2.key) := by
  unfold fdbFindEntry at miss
  split at miss
  · cases miss
  · split at miss
    · cases miss
    · rename_i search
      intro member
      obtain ⟨slot, slotMember, equal⟩ := List.mem_map.mp member
      have test := List.find?_eq_none.mp search slot slotMember
      simp [equal] at test

/-- Rewriting software entries under the same index and address. -/
theorem FdbInv.rewriteEntry {ml : Ml} {index : Nat} {change : MacEntry → MacEntry}
    (inv : FdbInv ml)
    (keeps : ∀ e ∈ ml.table, e.index = index →
      (change e).index = e.index ∧ (change e).key = e.key) :
    FdbInv { ml with table :=
      KeyedList.rewrite (·.index) index change ml.table } where
  indexOnce := by
    rw [KeyedList.map_rewrite fun e member selected =>
      (keeps e member selected).1]
    exact inv.indexOnce
  tracked := by
    intro e member
    rcases KeyedList.mem_rewrite.mp member with
      ⟨old, oldMember, selected, rfl⟩ | ⟨oldMember, _⟩
    · obtain ⟨sameIndex, sameKey⟩ := keeps old oldMember selected
      rw [sameIndex, sameKey]
      exact inv.tracked old oldMember
    · exact inv.tracked e oldMember
  hwIndexOnce := inv.hwIndexOnce
  hwKeyOnce := inv.hwKeyOnce

/-- Rewriting a hardware entry under the same address. -/
theorem FdbInv.writeEntry {ml : Ml} {index : Nat} {entry : FdbEntry}
    (inv : FdbInv ml)
    (sameKey : ∀ behind, (index, behind) ∈ ml.hw → entry.key = behind.key) :
    FdbInv { ml with hw :=
      KeyedList.rewrite Prod.fst index (fun _ => (index, entry)) ml.hw } where
  indexOnce := inv.indexOnce
  tracked := by
    intro e member
    obtain ⟨behind, inHw, key⟩ := inv.tracked e member
    by_cases selected : e.index = index
    · subst selected
      exact ⟨entry, KeyedList.mem_rewrite.mpr (.inl ⟨_, inHw, rfl, rfl⟩),
        (sameKey behind inHw).trans key⟩
    · exact ⟨behind, KeyedList.mem_rewrite.mpr (.inr ⟨inHw, selected⟩), key⟩
  hwIndexOnce := by
    rw [KeyedList.map_rewrite (by intro _ _ selected; exact selected.symm)]
    exact inv.hwIndexOnce
  hwKeyOnce := by
    rw [KeyedList.map_rewrite]
    · exact inv.hwKeyOnce
    · rintro ⟨slot, behind⟩ member rfl
      exact sameKey behind member

/-- The case of an address that moved. -/
theorem FdbInv.learnMove {ml : Ml} {entry : FdbEntry} {xdk : Outcome}
    (inv : FdbInv ml) (env : Env) :
    FdbInv (learnMove env xdk ml entry).2 := by
  unfold MacLearning.learnMove
  split
  · exact inv
  · exact inv
  · rename_i index found
    obtain ⟨behind, inHw, key⟩ := fdbFindEntry_found found
    split
    · rename_i missing
      exact inv.removeUntracked inHw key (lookup_none missing) xdk
    · rename_i updE search
      obtain ⟨member, sameIndex⟩ := lookup_some search
      have updated : FdbInv { ml with
          table := KeyedList.rewrite (·.index) index
            (fun _ => updE.withIntf entry.intfId) ml.table } := by
        refine inv.rewriteEntry ?_
        intro e eMember selected
        have same : e = updE := List.inj_on_of_nodup_map inv.indexOnce eMember
          member (selected.trans sameIndex.symm)
        rw [same]
        exact ⟨rfl, rfl⟩
      have tracked : ∀ other, (index, other) ∈ ml.hw →
          (updE.withIntf entry.intfId).key = other.key := by
        intro other otherInHw
        obtain ⟨tracking, trackingInHw, trackingKey⟩ := inv.tracked updE member
        rw [sameIndex] at trackingInHw
        have sameSlot := List.inj_on_of_nodup_map inv.hwIndexOnce otherInHw
          trackingInHw rfl
        cases sameSlot
        exact trackingKey.symm
      simp only
      unfold fdbWriteEntry
      cases xdk.writeEntry with
      | true =>
          exact (updated.writeEntry tracked).congr (by simp) (by simp)
      | false =>
          exact FdbInv.expire (updated.congr (by simp) (by simp)) env xdk _

/-! ## Operations -/

/-- What an operation may rely on: the contract of `xpsFdbAddEntry`, and that
`ops_xp_mac_learning_expire` is given an entry of the table. -/
structure Allowed (ml : Ml) (operation : Operation) : Prop where
  add : AddContract operation.xdk ml.hw
  expire : ∀ e, operation.event = .expire e → e ∈ ml.table

/-- All XDK calls succeed. -/
structure Faultless (ml : Ml) (operation : Operation) : Prop
    extends Allowed ml operation where
  finds : operation.xdk.findFails = false
  adds : operation.xdk.addEntry ≠ none
  writes : operation.xdk.writeEntry = true
  removes : operation.xdk.removeEntry = true
  removesByIndex : ∀ index, operation.xdk.removeEntryByIndex index = true

theorem FdbInv.learn {ml : Ml} {data : LearningData} {xdk : Outcome}
    (inv : FdbInv ml)
    (contract : AddContract xdk ml.hw)
    (env : Env) :
    FdbInv (learn env xdk ml data).2 := by
  have learnNew : ∀ entry, FdbInv (learnNew env xdk ml entry).2 := by
    intro entry
    unfold MacLearning.learnNew
    split
    · rename_i miss
      exact inv.insert contract (fdbFindEntry_miss miss) env
    · exact inv
    · exact inv
  unfold MacLearning.learn
  split
  · exact inv
  · simp only
    split
    · exact learnNew _
    · exact learnNew _
    · exact inv.learnMove env
    · exact inv

/-- Every operation keeps the invariant, whichever XDK calls fail. -/
theorem FdbInv.step {env : Env} {ml : Ml} {operation : Operation}
    (inv : FdbInv ml)
    (allowed : Allowed ml operation) :
    FdbInv (step env ml operation) := by
  unfold MacLearning.step handle
  cases operation.event with
  | learning ingressVif reasonCode bdId srcMacAddr bufSize =>
      simp only [onLearning]
      split
      · exact inv
      · exact inv.learn allowed.add env
  | learn data => exact inv.learn allowed.add env
  | expire e => exact inv.expire env _ e
  | aging index =>
      simp only [ageByIndex]
      split
      · exact inv.expire env _ _
      · exact inv
  | ageByVlanAndMac vlan macAddr =>
      simp only [ageByVlanAndMac]
      split
      · exact inv.expire env _ _
      · exact inv
  | flush dynamicOnly => exact inv.expireAll env _ _
  | flushIntfId intfId dynamicOnly => exact inv.expireAll env _ _
  | flushVlan vlanId => exact inv.expireAll env _ _
  | flushVlanIntf vlanId intfId => exact inv.expireAll env _ _
  | vlanRemoved vlan => exact inv.expireAll env _ _
  | portDown intfId => exact inv.expireAll env _ _
  | vniRemoved vlan vni ifId => exact inv.expireAll env _ _
  | mlearnTimer => exact inv.congr (by simp) (by simp)
  | setMaxEntries maxEntries => exact inv.congr rfl rfl

/-- The states that operations can reach from a new table. -/
def Reached (env : Env) (guard : Ml → Operation → Prop) (ml : Ml) : Prop :=
  Transition.Reach
    (fun initial => ∃ maxEntries pluginInterface hw, HwUnique hw ∧
      initial = macLearningCreate maxEntries pluginInterface hw)
    guard (step env) ml

theorem Reached.fdbInv {env : Env} {guard : Ml → Operation → Prop} {ml : Ml}
    (allowed : ∀ ml operation, guard ml operation → Allowed ml operation)
    (reached : Reached env guard ml) : FdbInv ml := by
  refine Transition.Reach.invariant FdbInv ?_ ?_ reached
  · rintro _ ⟨maxEntries, pluginInterface, hw, unique, rfl⟩
    exact macLearningCreate_fdbInv maxEntries pluginInterface unique
  · intro current operation inv guarded
    exact inv.step (allowed current operation guarded)

/-- In every run, whichever XDK calls fail, the software table follows the
hardware FDB. -/
theorem tablesAgree_of_reached {env : Env} {ml : Ml}
    (reached : Reached env Allowed ml) : TablesAgree ml :=
  (reached.fdbInv fun _ _ allowed => allowed).tablesAgree

/-! ## Concrete operations -/

/-- An environment for concrete runs. -/
def sampleEnv : Env where
  devId := 0
  bufferSize := 8
  bufferSizePos := by decide
  portNameSize := 16
  getIntfName _ _ := none
  zeroCmd := .fwd

/-- XDK calls that all succeed; a new entry gets the given indices. -/
def accepting (index reHashIndex : Nat) : Outcome where
  isLearning _ := true
  findFails := false
  addEntry := some (index, reHashIndex)
  writeEntry := true
  removeEntry := true
  removeEntryByIndex _ := true
  order := .id

/-- The arrival of a packet from an address that ends in `low`. -/
def sampleLearning (reasonCode : ReasonCode) (low : UInt8) (intfId : Nat) : Event :=
  .learning intfId reasonCode 10 #v[2, 0, 0, 0, 0, low] 64

/-- A second address takes the place of the first, and the hardware then
refuses to age it. -/
def relocationRun : List Operation :=
  [⟨sampleLearning .macSaNew 1 1, accepting 5 5⟩,
   ⟨sampleLearning .macSaNew 2 1, accepting 5 9⟩,
   ⟨.aging 5, { accepting 0 0 with removeEntryByIndex := fun _ => false }⟩]

/-- A contract that is met at the returned indices. -/
theorem addContract_of_eq {xdk : Outcome} {hw : HwFdb} {index reHashIndex : Nat}
    (returned : xdk.addEntry = some (index, reHashIndex))
    (free : if index = reHashIndex then index ∉ hw.map Prod.fst
      else index ∈ hw.map Prod.fst ∧ reHashIndex ∉ hw.map Prod.fst) :
    AddContract xdk hw := by
  intro other otherReHash equation
  rw [returned] at equation
  cases equation
  exact free

/-- The XDK calls of an accepting operation succeed. -/
theorem faultless_accepting {ml : Ml} {event : Event} {index reHashIndex : Nat}
    (notExpire : ∀ e, event ≠ .expire e)
    (free : if index = reHashIndex then index ∉ ml.hw.map Prod.fst
      else index ∈ ml.hw.map Prod.fst ∧ reHashIndex ∉ ml.hw.map Prod.fst) :
    Faultless ml ⟨event, accepting index reHashIndex⟩ where
  add := addContract_of_eq rfl free
  expire := fun e equal => absurd equal (notExpire e)
  finds := rfl
  adds := Option.some_ne_none _
  writes := rfl
  removes := rfl
  removesByIndex := fun _ => rfl

theorem tablesAgree_relocationRun :
    TablesAgree (Transition.run (step sampleEnv) (macLearningCreate 100 true [])
      relocationRun) := by
  have initial : Reached sampleEnv Allowed (macLearningCreate 100 true []) :=
    .start ⟨100, true, [], ⟨List.nodup_nil, List.nodup_nil⟩, rfl⟩
  have guarded : Transition.Guarded Allowed (step sampleEnv)
      (macLearningCreate 100 true []) relocationRun := by
    refine ⟨⟨addContract_of_eq rfl ?_, ?_⟩, ⟨addContract_of_eq rfl ?_, ?_⟩,
      ⟨addContract_of_eq rfl ?_, ?_⟩, trivial⟩
    · decide
    · intro e equal
      cases equal
    · decide
    · intro e equal
      cases equal
    · decide
    · intro e equal
      cases equal
  exact tablesAgree_of_reached (initial.of_run guarded)

end MacLearning
end XpliantSwitchd
