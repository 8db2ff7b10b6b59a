import XpliantSwitchd.MacLearning.Recorded

/-!
# An address that moves to another interface

`ops_xp_mac_learning_learn` writes the new interface into the software entry and
records an addition before it writes the hardware.  When the write fails, it
expires the entry, which fails in turn when the hardware does not remove it.  This
module compares what the two tables and the last recorded event say afterwards.
-/

namespace XpliantSwitchd
namespace MacLearning

/-- The last event recorded for an index since a state is about an address and
says that it is at an interface, or gone. -/
def LastSays (ml after : Ml) (index : Nat) (address : Nat × MacAddr)
    (content : Option Nat) : Prop :=
  ∃ node newer, node.address = address ∧ node.content = content ∧
    trail after index = node :: (newer ++ delivered ml index)

/-- Nothing changed, and nothing was recorded. -/
structure Unmoved (ml after : Ml) : Prop where
  table : after.table = ml.table
  hw : after.hw = ml.hw
  untold : ∀ index, trail after index = trail ml index

/-- An entry is at an interface in both tables, and the last event says so.  The
other entries are as before. -/
structure MovedTo (ml after : Ml) (e : MacEntry) (intfId : Nat) : Prop where
  table : after.table =
    KeyedList.rewrite (·.index) e.index (fun _ => e.withIntf intfId) ml.table
  hw : after.hw = KeyedList.rewrite Prod.fst e.index
    (fun _ => (e.index, (e.withIntf intfId).fdb)) ml.hw
  told : LastSays ml after e.index e.fdb.address (some intfId)

/-- An entry is in neither table, and the last event says so.  The other entries
are as before. -/
structure Withdrawn (ml after : Ml) (e : MacEntry) : Prop where
  table : after.table = KeyedList.remove (·.index) e.index ml.table
  hw : after.hw = KeyedList.remove Prod.fst e.index ml.hw
  told : LastSays ml after e.index e.fdb.address none

/-- The two tables and the last event agree on what became of an address. -/
def MoveTold (ml after : Ml) (entry : FdbEntry) : Prop :=
  Unmoved ml after ∨ ∃ e ∈ ml.table, e.key = entry.key ∧
    (MovedTo ml after e entry.intfId ∨ Withdrawn ml after e)

/-- Where the move of a known address is safe: a successful write needs a place
for the event, unless the interface stays the same; after a failed write either
the hardware removes the entry and there is a place for the event of that, or the
interface stays the same. -/
def MoveSafe (env : Env) (xdk : Outcome) (ml : Ml) (entry : FdbEntry) : Prop :=
  ∀ e ∈ ml.table, e.key = entry.key →
    mayLearn xdk entry.macAddr entry.vlanId = true → xdk.findFails = false →
      if xdk.writeEntry then Takes env ml e.index ∨ e.fdb.intfId = entry.intfId
      else if xdk.removeEntryByIndex e.index then
        Takes env ml e.index ∨ Relieved env ml
      else e.fdb.intfId = entry.intfId

/-! ## The tables -/

section Tables

variable {env : Env} {xdk : Outcome} {ml : Ml} {entry : FdbEntry} {e : MacEntry}

theorem MacEntry.withIntf_self (e : MacEntry) : e.withIntf e.fdb.intfId = e := rfl

/-- A rewrite of an entry to itself. -/
theorem Synced.rewrite_table (synced : Synced ml) (member : e ∈ ml.table) :
    KeyedList.rewrite (·.index) e.index (fun _ => e) ml.table = ml.table := by
  unfold KeyedList.rewrite
  conv_rhs => rw [← List.map_id ml.table]
  apply List.map_congr_left
  intro other otherMember
  split
  · rename_i selected
    exact (List.inj_on_of_nodup_map synced.indexOnce otherMember member selected).symm
  · rfl

theorem Synced.rewrite_hw (synced : Synced ml) (member : e ∈ ml.table) :
    KeyedList.rewrite Prod.fst e.index (fun _ => (e.index, e.fdb)) ml.hw = ml.hw := by
  have inHw := (synced.same e.index e.fdb).mpr member
  unfold KeyedList.rewrite
  conv_rhs => rw [← List.map_id ml.hw]
  apply List.map_congr_left
  intro slot slotMember
  split
  · rename_i selected
    exact (List.inj_on_of_nodup_map synced.hwIndexOnce slotMember inHw selected).symm
  · rfl

/-- The address of an entry is found at its index. -/
theorem Synced.fdbFindEntry_eq
    (synced : Synced ml)
    (member : e ∈ ml.table)
    (key : e.key = entry.key)
    (finds : xdk.findFails = false) :
    fdbFindEntry xdk ml.hw entry = .found e.index := by
  have inHw := (synced.same e.index e.fdb).mpr member
  cases answer : fdbFindEntry xdk ml.hw entry with
  | found index =>
      obtain ⟨behind, behindInHw, behindKey⟩ := fdbFindEntry_found answer
      have sameSlot : (index, behind) = (e.index, e.fdb) :=
        List.inj_on_of_nodup_map synced.hwKeyOnce behindInHw inHw
          (behindKey.trans key.symm)
      rw [(Prod.mk.inj sameSlot).1]
  | miss =>
      have absent := fdbFindEntry_miss answer
      exact absurd (List.mem_map.mpr ⟨_, inHw, key⟩) absent
  | error =>
      unfold fdbFindEntry at answer
      rw [finds] at answer
      simp only [Bool.false_eq_true, if_false] at answer
      split at answer <;> cases answer

theorem Synced.lookup_eq (synced : Synced ml) (member : e ∈ ml.table) :
    lookup ml e.index = some e :=
  (KeyedList.find?_key_eq_some synced.indexOnce).mpr ⟨member, rfl⟩

/-- The state after the software entry was written. -/
def rerouted (ml : Ml) (e : MacEntry) (intfId : Nat) : Ml :=
  { ml with
    table := KeyedList.rewrite (·.index) e.index (fun _ => e.withIntf intfId) ml.table }

/-- The state after the addition was recorded as well. -/
def announced (env : Env) (ml : Ml) (e : MacEntry) (intfId : Nat) : Ml :=
  mlearnActionAdd env (rerouted ml e intfId) (e.withIntf intfId).fdb e.index e.index .add

/-- The move of a known address. -/
theorem Synced.learnMove_eq
    (synced : Synced ml)
    (member : e ∈ ml.table)
    (key : e.key = entry.key)
    (finds : xdk.findFails = false) :
    (learnMove env xdk ml entry).2 =
      if xdk.writeEntry then
        { announced env ml e entry.intfId with
          hw := KeyedList.rewrite Prod.fst e.index
            (fun _ => (e.index, (e.withIntf entry.intfId).fdb)) ml.hw }
      else (expire env xdk (announced env ml e entry.intfId)
        (e.withIntf entry.intfId)).2 := by
  unfold learnMove fdbWriteEntry
  rw [synced.fdbFindEntry_eq member key finds]
  simp only [synced.lookup_eq member]
  cases xdk.writeEntry with
  | true =>
      simp only [if_true, mlearnActionAdd_hw]
      rfl
  | false => rfl

/-- The move of an unknown address. -/
theorem Synced.learnMove_of_absent
    (synced : Synced ml)
    (absent : ∀ e ∈ ml.table, e.key ≠ entry.key) :
    (learnMove env xdk ml entry).2 = ml := by
  unfold learnMove
  cases found : fdbFindEntry xdk ml.hw entry with
  | found index =>
      obtain ⟨behind, inHw, key⟩ := fdbFindEntry_found found
      exact absurd key (absent ⟨index, behind⟩ ((synced.same index behind).mp inHw))
  | miss => rfl
  | error => rfl

theorem learnMove_of_findFails (fails : xdk.findFails = true) :
    (learnMove env xdk ml entry).2 = ml := by
  unfold learnMove fdbFindEntry
  rw [fails]
  rfl

end Tables

/-! ## The events -/

section Told

variable {env : Env} {xdk : Outcome} {ml after : Ml} {entry : FdbEntry} {e : MacEntry}
  {intfId : Nat}

/-- The addition is the last event when there is a place for it. -/
theorem lastSays_announced (takes : Takes env ml e.index) :
    LastSays ml (announced env ml e intfId) e.index e.fdb.address (some intfId) := by
  obtain ⟨node, ⟨old, filled⟩, _, recorded⟩ := @trail_mlearnActionAdd_self env
    (e.withIntf intfId).fdb e.index .add (rerouted ml e intfId) takes
  refine ⟨node, (pending ml e.index).tail, ?_, ?_, recorded⟩
  · rw [filled]
    rfl
  · rw [filled]
    rfl

/-- A dropped addition leaves no trace. -/
theorem trail_announced_of_dropped (dropped : ¬ Takes env ml e.index) (index : Nat) :
    trail (announced env ml e intfId) index = trail ml index :=
  @trail_mlearnActionAdd_dropped env (e.withIntf intfId).fdb e.index index .add
    (rerouted ml e intfId) dropped

/-- There is a place for the event of the removal. -/
theorem takes_announced :
    Takes env (announced env ml e intfId) e.index ↔
      Takes env ml e.index ∨ Relieved env ml := by
  by_cases takes : Takes env ml e.index
  · exact iff_of_true (@takes_mlearnActionAdd env (e.withIntf intfId).fdb e.index .add
      (rerouted ml e intfId) takes) (.inl takes)
  · refine Iff.trans ?_ (or_iff_right takes).symm
    exact @takes_mlearnActionAdd_of_dropped env (e.withIntf intfId).fdb e.index .add
      (rerouted ml e intfId) takes

/-- When nothing was recorded for an index that had no node in the buffer in use,
the last event says nothing. -/
theorem not_lastSays
    {index : Nat}
    {address : Nat × MacAddr}
    {content : Option Nat}
    (dropped : ¬ Takes env ml index)
    (untold : trail after index = trail ml index) :
    ¬ LastSays ml after index address content := by
  rintro ⟨node, newer, _, _, recorded⟩
  have empty : pending ml index = [] := not_not.mp (not_or.mp dropped).1
  have lengths := congrArg List.length (recorded.symm.trans untold)
  unfold trail at lengths
  rw [empty] at lengths
  simp only [List.length_cons, List.length_append, List.nil_append] at lengths
  omega

theorem announced_table :
    (announced env ml e intfId).table =
      KeyedList.rewrite (·.index) e.index (fun _ => e.withIntf intfId) ml.table :=
  mlearnActionAdd_table ..

theorem announced_hw : (announced env ml e intfId).hw = ml.hw :=
  mlearnActionAdd_hw ..

/-- The repair of a failed write takes the entry out of both tables. -/
theorem expire_announced (removed : xdk.removeEntryByIndex e.index = true) :
    (expire env xdk (announced env ml e intfId) (e.withIntf intfId)).2.table =
        KeyedList.remove (·.index) e.index ml.table ∧
      (expire env xdk (announced env ml e intfId) (e.withIntf intfId)).2.hw =
        KeyedList.remove Prod.fst e.index ml.hw := by
  rw [@expire_eq xdk (e.withIntf intfId) removed, mlearnActionAdd_table,
    mlearnActionAdd_hw]
  refine ⟨?_, congrArg _ announced_hw⟩
  refine (congrArg _ announced_table).trans ?_
  exact KeyedList.remove_rewrite fun _ _ => rfl

/-- The event of the repair. -/
theorem lastSays_expire
    (removed : xdk.removeEntryByIndex e.index = true)
    (takes : Takes env (announced env ml e intfId) e.index) :
    LastSays ml (expire env xdk (announced env ml e intfId) (e.withIntf intfId)).2
      e.index e.fdb.address none := by
  rw [@expire_eq xdk (e.withIntf intfId) removed]
  obtain ⟨node, ⟨old, filled⟩, _, recorded⟩ := @trail_mlearnActionAdd_self env
    (e.withIntf intfId).fdb e.index .del
    (evicted (announced env ml e intfId) (e.withIntf intfId)) takes
  obtain ⟨newer, handed⟩ := @delivered_mlearnActionAdd env (e.withIntf intfId).fdb
    e.index e.index .add (rerouted ml e intfId)
  refine ⟨node, (pending (announced env ml e intfId) e.index).tail ++ newer, ?_, ?_, ?_⟩
  · rw [filled]
    rfl
  · rw [filled]
    rfl
  · rw [List.append_assoc]
    refine recorded.trans (congrArg _ (congrArg _ ?_))
    exact handed

/-- The event of the repair is dropped as well when there is no place for it. -/
theorem trail_expire_of_dropped
    (removed : xdk.removeEntryByIndex e.index = true)
    (dropped : ¬ Takes env (announced env ml e intfId) e.index)
    (index : Nat) :
    trail (expire env xdk (announced env ml e intfId) (e.withIntf intfId)).2 index =
      trail (announced env ml e intfId) index := by
  rw [@expire_eq xdk (e.withIntf intfId) removed]
  exact @trail_mlearnActionAdd_dropped env (e.withIntf intfId).fdb e.index index .del
    (evicted (announced env ml e intfId) (e.withIntf intfId)) dropped

end Told

/-! ## Safe moves -/

section Safe

variable {env : Env} {xdk : Outcome} {ml after : Ml} {entry : FdbEntry} {e : MacEntry}

/-- Entries with the same address are the same. -/
theorem Synced.eq_of_key
    {other : MacEntry}
    (synced : Synced ml)
    (member : e ∈ ml.table)
    (otherMember : other ∈ ml.table)
    (key : other.key = e.key) :
    other = e :=
  synced.fdbInv.tablesAgree.keyOnce other otherMember e member key

/-- A rewrite that changes the interface of an entry changes the table. -/
theorem rewrite_table_ne
    {intfId : Nat}
    (member : e ∈ ml.table)
    (moves : e.fdb.intfId ≠ intfId) :
    KeyedList.rewrite (·.index) e.index (fun _ => e.withIntf intfId) ml.table ≠
      ml.table := by
  intro same
  rw [← same] at member
  rcases KeyedList.mem_rewrite.mp member with ⟨old, _, _, equal⟩ | ⟨_, different⟩
  · exact moves (congrArg (fun entry => entry.fdb.intfId) equal)
  · exact different rfl

theorem rewrite_hw_ne
    {intfId : Nat}
    (synced : Synced ml)
    (member : e ∈ ml.table)
    (moves : e.fdb.intfId ≠ intfId) :
    KeyedList.rewrite Prod.fst e.index
      (fun _ => (e.index, (e.withIntf intfId).fdb)) ml.hw ≠ ml.hw := by
  intro same
  have inHw := (synced.same e.index e.fdb).mpr member
  rw [← same] at inHw
  rcases KeyedList.mem_rewrite.mp inHw with ⟨old, _, _, equal⟩ | ⟨_, different⟩
  · exact moves (congrArg (fun slot => slot.2.intfId) equal)
  · exact different rfl

theorem remove_table_ne (member : e ∈ ml.table) :
    KeyedList.remove (·.index) e.index ml.table ≠ ml.table := by
  intro same
  rw [← same] at member
  exact (KeyedList.mem_remove.mp member).2 rfl

theorem remove_hw_ne (synced : Synced ml) (member : e ∈ ml.table) :
    KeyedList.remove Prod.fst e.index ml.hw ≠ ml.hw := by
  intro same
  have inHw := (synced.same e.index e.fdb).mpr member
  rw [← same] at inHw
  exact (KeyedList.mem_remove.mp inHw).2 rfl

/-- A changed table and a dropped event tell different stories. -/
theorem not_moveTold_of_untold
    (synced : Synced ml)
    (member : e ∈ ml.table)
    (key : e.key = entry.key)
    (changed : after.table ≠ ml.table)
    (dropped : ¬ Takes env ml e.index)
    (untold : trail after e.index = trail ml e.index) :
    ¬ MoveTold ml after entry := by
  rintro (unmoved | ⟨other, otherMember, otherKey, moved | withdrawn⟩)
  · exact changed unmoved.table
  · rw [synced.eq_of_key member otherMember (otherKey.trans key.symm)] at moved
    exact not_lastSays dropped untold moved.told
  · rw [synced.eq_of_key member otherMember (otherKey.trans key.symm)] at withdrawn
    exact not_lastSays dropped untold withdrawn.told

/-- A changed software table and an unchanged hardware table tell different
stories. -/
theorem not_moveTold_of_split
    (synced : Synced ml)
    (member : e ∈ ml.table)
    (key : e.key = entry.key)
    (moves : e.fdb.intfId ≠ entry.intfId)
    (changed : after.table ≠ ml.table)
    (unchanged : after.hw = ml.hw) :
    ¬ MoveTold ml after entry := by
  rintro (unmoved | ⟨other, otherMember, otherKey, moved | withdrawn⟩)
  · exact changed unmoved.table
  · rw [synced.eq_of_key member otherMember (otherKey.trans key.symm)] at moved
    exact rewrite_hw_ne synced member moves (moved.hw.symm.trans unchanged)
  · rw [synced.eq_of_key member otherMember (otherKey.trans key.symm)] at withdrawn
    exact remove_hw_ne synced member (withdrawn.hw.symm.trans unchanged)

/-- After a successful write. -/
theorem Synced.moveTold_written_iff
    (synced : Synced ml)
    (member : e ∈ ml.table)
    (key : e.key = entry.key) :
    MoveTold ml { announced env ml e entry.intfId with
        hw := KeyedList.rewrite Prod.fst e.index
          (fun _ => (e.index, (e.withIntf entry.intfId).fdb)) ml.hw } entry ↔
      Takes env ml e.index ∨ e.fdb.intfId = entry.intfId := by
  by_cases takes : Takes env ml e.index
  · refine iff_of_true (.inr ⟨e, member, key, .inl ⟨announced_table, rfl, ?_⟩⟩) (.inl takes)
    exact lastSays_announced takes
  · rw [or_iff_right takes]
    have untold := @trail_announced_of_dropped env ml e entry.intfId takes
    by_cases stays : e.fdb.intfId = entry.intfId
    · refine iff_of_true (.inl ⟨?_, ?_, untold⟩) stays
      · rw [announced_table, ← stays, e.withIntf_self, synced.rewrite_table member]
      · show KeyedList.rewrite _ _ _ _ = _
        rw [← stays, e.withIntf_self, synced.rewrite_hw member]
    · refine iff_of_false ?_ stays
      refine not_moveTold_of_untold synced member key ?_ takes (untold e.index)
      exact fun same => rewrite_table_ne member stays (announced_table.symm.trans same)

/-- After a failed write and a successful repair. -/
theorem Synced.moveTold_expired_iff
    (synced : Synced ml)
    (member : e ∈ ml.table)
    (key : e.key = entry.key)
    (removed : xdk.removeEntryByIndex e.index = true) :
    MoveTold ml (expire env xdk (announced env ml e entry.intfId)
        (e.withIntf entry.intfId)).2 entry ↔
      Takes env ml e.index ∨ Relieved env ml := by
  obtain ⟨table, hw⟩ := @expire_announced env xdk ml e entry.intfId removed
  rw [← @takes_announced env ml e entry.intfId]
  by_cases takes : Takes env (announced env ml e entry.intfId) e.index
  · refine iff_of_true (.inr ⟨e, member, key, .inr ⟨table, hw, ?_⟩⟩) takes
    exact lastSays_expire removed takes
  · refine iff_of_false ?_ takes
    have dropped : ¬ Takes env ml e.index := fun early => takes (takes_announced.mpr (.inl early))
    refine not_moveTold_of_untold synced member key ?_ dropped ?_
    · rw [table]
      exact remove_table_ne member
    · rw [trail_expire_of_dropped removed takes, trail_announced_of_dropped dropped]

/-- After a failed write and a failed repair. -/
theorem Synced.moveTold_refused_iff
    (synced : Synced ml)
    (member : e ∈ ml.table)
    (key : e.key = entry.key)
    (refused : xdk.removeEntryByIndex e.index = false) :
    MoveTold ml (expire env xdk (announced env ml e entry.intfId)
        (e.withIntf entry.intfId)).2 entry ↔
      e.fdb.intfId = entry.intfId := by
  rw [@expire_of_refused xdk (e.withIntf entry.intfId) refused]
  by_cases stays : e.fdb.intfId = entry.intfId
  · refine iff_of_true ?_ stays
    by_cases takes : Takes env ml e.index
    · refine .inr ⟨e, member, key, .inl ⟨announced_table, ?_, lastSays_announced takes⟩⟩
      rw [announced_hw, ← stays, e.withIntf_self, synced.rewrite_hw member]
    · refine .inl ⟨?_, announced_hw, trail_announced_of_dropped takes⟩
      rw [announced_table, ← stays, e.withIntf_self, synced.rewrite_table member]
  · refine iff_of_false ?_ stays
    refine not_moveTold_of_split synced member key stays ?_ announced_hw
    exact fun same => rewrite_table_ne member stays (announced_table.symm.trans same)

/-- The move of a known address. -/
theorem Synced.moveTold_learnMove_iff
    (synced : Synced ml)
    (member : e ∈ ml.table)
    (key : e.key = entry.key)
    (finds : xdk.findFails = false) :
    MoveTold ml (learnMove env xdk ml entry).2 entry ↔
      if xdk.writeEntry then Takes env ml e.index ∨ e.fdb.intfId = entry.intfId
      else if xdk.removeEntryByIndex e.index then
        Takes env ml e.index ∨ Relieved env ml
      else e.fdb.intfId = entry.intfId := by
  rw [synced.learnMove_eq member key finds]
  cases xdk.writeEntry with
  | true => exact synced.moveTold_written_iff member key
  | false =>
      cases answer : xdk.removeEntryByIndex e.index with
      | true => exact synced.moveTold_expired_iff member key answer
      | false => exact synced.moveTold_refused_iff member key answer

end Safe

theorem Unmoved.refl (ml : Ml) : Unmoved ml ml where
  table := rfl
  hw := rfl
  untold _ := rfl

/-- For tables that hold the same entries, the two tables and the last event agree
on what became of a moved address exactly when the move is safe. -/
theorem moveTold_iff
    {env : Env}
    {xdk : Outcome}
    {ml : Ml}
    {data : LearningData}
    (synced : Synced ml)
    (moved : data.reasonCode = .macSaMove) :
    MoveTold ml (learn env xdk ml data).2 data.fdb ↔ MoveSafe env xdk ml data.fdb := by
  unfold learn
  by_cases may : mayLearn xdk data.fdb.macAddr data.fdb.vlanId = true
  · rw [if_neg (by simp [may])]
    simp only [moved]
    cases fails : xdk.findFails with
    | true =>
        rw [learnMove_of_findFails fails]
        refine iff_of_true (.inl (Unmoved.refl ml)) ?_
        intro e _ _ _ finds
        exact absurd (fails.symm.trans finds) (by decide)
    | false =>
        by_cases known : ∃ e ∈ ml.table, e.key = data.fdb.key
        · obtain ⟨e, member, key⟩ := known
          refine (synced.moveTold_learnMove_iff member key fails).trans ?_
          constructor
          · intro safe other otherMember otherKey _ _
            rw [synced.eq_of_key member otherMember (otherKey.trans key.symm)]
            exact safe
          · intro safe
            exact safe e member key may fails
        · have absent : ∀ e ∈ ml.table, e.key ≠ data.fdb.key :=
            fun e member key => known ⟨e, member, key⟩
          rw [@Synced.learnMove_of_absent env xdk ml
            { data.fdb with pktCmd := .fwd, isControl := false } synced absent]
          refine iff_of_true (.inl (Unmoved.refl ml)) ?_
          intro e member key
          exact absurd key (absent e member)
  · rw [if_pos (by simpa using may)]
    refine iff_of_true (.inl (Unmoved.refl ml)) ?_
    intro e _ _ allowed
    exact absurd allowed may

/-- One address was learned on interface 1. -/
def learnedMl : Ml :=
  step sampleEnv (macLearningCreate 100 true []) ⟨sampleLearning .macSaNew 1 1, accepting 5 5⟩

/-- The same address is seen on interface 2. -/
def sampleMove : LearningData :=
  learningData sampleEnv 2 .macSaMove 10 #v[2, 0, 0, 0, 0, 1]

theorem synced_learnedMl : Synced learnedMl :=
  Synced.of_eq (by decide) (by decide) (by decide)

/-- The write fails and the entry is expired instead. -/
theorem moveTold_learnedMl :
    MoveTold learnedMl (learn sampleEnv { accepting 5 5 with writeEntry := false }
      learnedMl sampleMove).2 sampleMove.fdb := by
  refine (moveTold_iff synced_learnedMl rfl).mpr ?_
  intro e member _ _ _
  have takes : Takes sampleEnv learnedMl e.index :=
    .inr (by decide)
  exact .inl takes

/-- The write fails, and so does the removal that is to repair it. -/
theorem not_moveTold_learnedMl :
    Synced learnedMl ∧
      ¬ MoveTold learnedMl (learn sampleEnv
        { accepting 5 5 with writeEntry := false, removeEntryByIndex := fun _ => false }
        learnedMl sampleMove).2 sampleMove.fdb := by
  refine ⟨synced_learnedMl, ?_⟩
  have member : ⟨5, { sampleMove.fdb with intfId := 1 }⟩ ∈ learnedMl.table := by decide
  refine not_moveTold_of_split synced_learnedMl member rfl (by decide) ?_ ?_
  · decide
  · decide

end MacLearning
end XpliantSwitchd
