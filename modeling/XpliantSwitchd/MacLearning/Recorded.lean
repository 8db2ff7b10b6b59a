import XpliantSwitchd.MacLearning.Handoff

/-!
# What has been recorded for an index

The nodes for an index, the latest first, are those in the buffer in use followed
by those in the buffers that were handed off.  A handoff moves nodes from the
first part to the second and changes neither the nodes nor their order.  An event
that leaves its index alone puts one node in front, or it rewrites the front node
when the buffer in use already has one for the index; a full buffer drops it.
-/

namespace XpliantSwitchd
namespace MacLearning

/-- The nodes for an index in the buffer in use. -/
def pending (ml : Ml) (index : Nat) : List MlearnNode :=
  (currTable ml).table.filter (·.hash == index)

/-- The nodes for an index in the buffers that were handed off. -/
def delivered (ml : Ml) (index : Nat) : List MlearnNode :=
  (ml.handoffs.flatMap (·.nodes)).filter (·.hash == index)

/-- All nodes for an index, the latest first. -/
def trail (ml : Ml) (index : Nat) : List MlearnNode :=
  pending ml index ++ delivered ml index

/-- A node was filled with the data of an event. -/
def Reports (env : Env) (node : MlearnNode) (entry : FdbEntry) (event : MlearnEvent) :
    Prop :=
  ∃ old : MlearnNode, node = mlearnEntryFillData env old entry event

/-- The buffer in use has a place for an event at an index. -/
def Takes (env : Env) (ml : Ml) (index : Nat) : Prop :=
  pending ml index ≠ [] ∨ (currTable ml).actualSize < env.bufferSize

instance (env : Env) (ml : Ml) (index : Nat) : Decidable (Takes env ml index) :=
  inferInstanceAs (Decidable (_ ∨ _))

/-- The buffer in use is full and there is someone to hand it to. -/
def Relieved (env : Env) (ml : Ml) : Prop :=
  ml.pluginInterface = true ∧ (currTable ml).table ≠ [] ∧
    (currTable ml).actualSize = env.bufferSize

instance (env : Env) (ml : Ml) : Decidable (Relieved env ml) :=
  inferInstanceAs (Decidable (_ ∧ _))

/-! ## Handoffs -/

theorem trail_processMlearn (ml : Ml) (index : Nat) :
    trail (processMlearn ml) index = trail ml index := by
  unfold processMlearn
  split
  · simp [trail, pending, delivered, currTable, MlearnHmap.empty]
  · rfl

theorem delivered_processMlearn (ml : Ml) (index : Nat) :
    ∃ newer, delivered (processMlearn ml) index = newer ++ delivered ml index := by
  unfold processMlearn
  split
  · refine ⟨pending ml index, ?_⟩
    simp [pending, delivered]
  · exact ⟨[], rfl⟩

/-- After a handoff the buffer in use is empty. -/
theorem currTable_processMlearn
    {ml : Ml}
    (plugin : ml.pluginInterface = true)
    (filled : (currTable ml).table ≠ []) :
    currTable (processMlearn ml) = .empty := by
  unfold processMlearn
  rw [if_pos (by simpa [plugin] using filled)]
  exact Function.update_self ..

/-- Without someone to hand it to, the buffer in use stays. -/
theorem processMlearn_of_not
    {ml : Ml}
    (idle : ¬ (ml.pluginInterface = true ∧ (currTable ml).table ≠ [])) :
    processMlearn ml = ml := by
  unfold processMlearn
  rw [if_neg]
  simpa using idle

/-- A handoff leaves a place for an index that had a node. -/
theorem takes_processMlearn
    {env : Env}
    {ml : Ml}
    {index : Nat}
    (stored : pending ml index ≠ []) :
    Takes env (processMlearn ml) index := by
  have filled : (currTable ml).table ≠ [] := by
    intro empty
    apply stored
    unfold pending
    rw [empty]
    rfl
  by_cases handed : ml.pluginInterface = true
  · refine .inr ?_
    rw [currTable_processMlearn handed filled]
    exact env.bufferSizePos
  · rw [processMlearn_of_not fun both => handed both.1]
    exact .inl stored

/-! ## One event -/

section Events

variable {env : Env} {entry : FdbEntry} {index other : Nat} {event : MlearnEvent}

theorem filter_fillFirst_self
    {fill : MlearnNode → MlearnNode}
    {nodes : List MlearnNode}
    {node : MlearnNode}
    (keeps : ∀ old, (fill old).hash = old.hash)
    (found : nodes.find? (·.hash == index) = some node) :
    (fillFirst index fill nodes).filter (·.hash == index) =
      fill node :: (nodes.filter (·.hash == index)).tail := by
  induction nodes with
  | nil => cases found
  | cons head nodes inductionHypothesis =>
      by_cases selected : head.hash = index
      · rw [List.find?_cons_of_pos (by simpa using selected)] at found
        cases found
        rw [fillFirst, if_pos selected, List.filter_cons_of_pos (by simpa [keeps] using selected),
          List.filter_cons_of_pos (by simpa using selected), List.tail_cons]
      · rw [List.find?_cons_of_neg (by simpa using selected)] at found
        rw [fillFirst, if_neg selected, List.filter_cons_of_neg (by simpa using selected),
          List.filter_cons_of_neg (by simpa using selected), inductionHypothesis found]

theorem filter_fillFirst_other
    {fill : MlearnNode → MlearnNode}
    (nodes : List MlearnNode)
    (keeps : ∀ old, (fill old).hash = old.hash)
    (different : other ≠ index) :
    (fillFirst index fill nodes).filter (·.hash == other) =
      nodes.filter (·.hash == other) := by
  induction nodes with
  | nil => rfl
  | cons head nodes inductionHypothesis =>
      by_cases selected : head.hash = index
      · have skipped : ¬ head.hash = other := fun same => different (same.symm.trans selected)
        rw [fillFirst, if_pos selected, List.filter_cons_of_neg (by simpa [keeps] using skipped),
          List.filter_cons_of_neg (by simpa using skipped)]
      · rw [fillFirst, if_neg selected, List.filter_cons, List.filter_cons,
          inductionHypothesis]

/-- The nodes for an index are empty exactly when a search by it fails. -/
theorem find?_eq_none_iff_filter (nodes : List MlearnNode) :
    nodes.find? (·.hash == index) = none ↔ nodes.filter (·.hash == index) = [] := by
  rw [List.find?_eq_none, List.filter_eq_nil_iff]

/-- Recording at one index leaves the nodes of another. -/
theorem recordEvent_filter_other
    (mhmap : MlearnHmap)
    (different : other ≠ index) :
    (recordEvent env mhmap entry index index event).table.filter (·.hash == other) =
      mhmap.table.filter (·.hash == other) := by
  unfold recordEvent
  cases found : mhmap.table.find? (·.hash == index) with
  | none =>
      simp only [copyNode]
      split
      · exact List.filter_cons_of_neg (by simpa using Ne.symm different)
      · rfl
  | some node =>
      simp only [ne_eq, not_true_eq_false, if_false]
      exact filter_fillFirst_other mhmap.table (fun _ => rfl) different

/-- An event that the buffer takes is the latest for its index. -/
theorem recordEvent_filter_self
    {mhmap : MlearnHmap}
    (takes : mhmap.table.filter (·.hash == index) ≠ [] ∨ mhmap.actualSize < env.bufferSize) :
    ∃ node, Reports env node entry event ∧ node.hash = index ∧
      (recordEvent env mhmap entry index index event).table.filter (·.hash == index) =
        node :: (mhmap.table.filter (·.hash == index)).tail := by
  unfold recordEvent
  cases found : mhmap.table.find? (·.hash == index) with
  | none =>
      have empty := (find?_eq_none_iff_filter mhmap.table).mp found
      have room := takes.resolve_left (not_not.mpr empty)
      simp only [copyNode, if_pos room]
      refine ⟨_, ⟨{ MlearnNode.zero with slot := mhmap.actualSize, hash := index }, rfl⟩,
        rfl, ?_⟩
      rw [List.filter_cons_of_pos (by simp), empty]
      rfl
  | some node =>
      simp only [ne_eq, not_true_eq_false, if_false]
      have hash : node.hash = index := by
        simpa using List.find?_some found
      exact ⟨_, ⟨node, rfl⟩, hash, filter_fillFirst_self (fun _ => rfl) found⟩

/-- An event for which there is no place changes nothing. -/
theorem recordEvent_of_not_takes
    {mhmap : MlearnHmap}
    (dropped : ¬ (mhmap.table.filter (·.hash == index) ≠ [] ∨
      mhmap.actualSize < env.bufferSize)) :
    recordEvent env mhmap entry index index event = mhmap := by
  obtain ⟨empty, full⟩ := not_or.mp dropped
  unfold recordEvent
  rw [(find?_eq_none_iff_filter mhmap.table).mpr (not_not.mp empty)]
  simp only [copyNode, if_neg full]

variable (ml : Ml)

theorem trail_mlearnActionAdd :
    trail (mlearnActionAdd env ml entry index index event) other =
      (recordEvent env (currTable ml) entry index index event).table.filter
        (·.hash == other) ++ delivered ml other := by
  have recorded : trail (setCurrTable ml
      (recordEvent env (currTable ml) entry index index event)) other =
      (recordEvent env (currTable ml) entry index index event).table.filter
        (·.hash == other) ++ delivered ml other := by
    unfold trail pending
    rw [currTable_setCurrTable]
    rfl
  simp only [mlearnActionAdd]
  split
  · rw [trail_processMlearn, recorded]
  · exact recorded

theorem trail_mlearnActionAdd_other (different : other ≠ index) :
    trail (mlearnActionAdd env ml entry index index event) other = trail ml other := by
  rw [trail_mlearnActionAdd, recordEvent_filter_other _ different]
  rfl

theorem trail_mlearnActionAdd_self {ml : Ml} (takes : Takes env ml index) :
    ∃ node, Reports env node entry event ∧ node.hash = index ∧
      trail (mlearnActionAdd env ml entry index index event) index =
        node :: ((pending ml index).tail ++ delivered ml index) := by
  obtain ⟨node, reports, hash, filtered⟩ := recordEvent_filter_self takes
  refine ⟨node, reports, hash, ?_⟩
  rw [trail_mlearnActionAdd, filtered]
  rfl

theorem trail_mlearnActionAdd_dropped {ml : Ml} (dropped : ¬ Takes env ml index) :
    trail (mlearnActionAdd env ml entry index index event) other = trail ml other := by
  rw [trail_mlearnActionAdd, recordEvent_of_not_takes dropped]
  rfl

theorem delivered_mlearnActionAdd :
    ∃ newer, delivered (mlearnActionAdd env ml entry index index event) other =
      newer ++ delivered ml other := by
  simp only [mlearnActionAdd]
  split
  · exact delivered_processMlearn (setCurrTable ml _) other
  · exact ⟨[], rfl⟩

/-- There is a place for a second event at an index after a first one. -/
theorem takes_mlearnActionAdd {ml : Ml} (takes : Takes env ml index) :
    Takes env (mlearnActionAdd env ml entry index index event) index := by
  obtain ⟨node, _, _, filtered⟩ :=
    @recordEvent_filter_self env entry index event (currTable ml) takes
  have stored : pending (setCurrTable ml
      (recordEvent env (currTable ml) entry index index event)) index ≠ [] := by
    unfold pending
    rw [currTable_setCurrTable, filtered]
    exact List.cons_ne_nil _ _
  simp only [mlearnActionAdd]
  split
  · exact takes_processMlearn stored
  · exact .inl stored

/-- After a dropped event there is a place exactly when the buffer was handed
off. -/
theorem takes_mlearnActionAdd_of_dropped {ml : Ml} (dropped : ¬ Takes env ml index) :
    Takes env (mlearnActionAdd env ml entry index index event) index ↔ Relieved env ml := by
  have same : setCurrTable ml (currTable ml) = ml := by
    unfold setCurrTable currTable
    rw [Function.update_eq_self]
  simp only [mlearnActionAdd]
  rw [recordEvent_of_not_takes dropped, same]
  unfold mlearnTableIsFull Relieved
  by_cases full : (currTable ml).actualSize = env.bufferSize
  · rw [if_pos (by simpa using full)]
    by_cases handed : ml.pluginInterface = true ∧ (currTable ml).table ≠ []
    · refine iff_of_true (.inr ?_) ⟨handed.1, handed.2, full⟩
      rw [currTable_processMlearn handed.1 handed.2]
      exact env.bufferSizePos
    · rw [processMlearn_of_not handed]
      exact iff_of_false dropped fun relieved => handed ⟨relieved.1, relieved.2.1⟩
  · rw [if_neg (by simpa using full)]
    exact iff_of_false dropped fun relieved => full relieved.2.2

@[simp] theorem mlearnActionAdd_pluginInterface :
    (mlearnActionAdd env ml entry index other event).pluginInterface =
      ml.pluginInterface := by
  simp only [mlearnActionAdd]
  split
  · unfold processMlearn
    split <;> rfl
  · rfl

/-- A handoff leaves no node behind. -/
theorem pending_mlearnActionAdd_other
    {ml : Ml}
    (different : other ≠ index)
    (stored : pending (mlearnActionAdd env ml entry index index event) other ≠ []) :
    pending ml other ≠ [] := by
  have same : pending (setCurrTable ml
      (recordEvent env (currTable ml) entry index index event)) other = pending ml other := by
    unfold pending
    rw [currTable_setCurrTable, recordEvent_filter_other _ different]
  rw [← same]
  intro empty
  apply stored
  simp only [mlearnActionAdd]
  split
  · unfold processMlearn
    split
    · simp [pending, currTable, MlearnHmap.empty]
    · exact empty
  · exact empty

/-- With someone to hand it to, the buffer in use never stays full. -/
theorem room_mlearnActionAdd
    {ml : Ml}
    (plugin : ml.pluginInterface = true)
    (room : (currTable ml).actualSize < env.bufferSize) :
    (currTable (mlearnActionAdd env ml entry index other event)).actualSize <
      env.bufferSize := by
  have bounded := recordEvent_actualSize_le room entry index other event
  have filled := recordEvent_ne_nil room entry index other event
  rw [← currTable_setCurrTable ml (recordEvent env (currTable ml) entry index other event)]
    at filled
  simp only [mlearnActionAdd]
  split
  · rw [@currTable_processMlearn (setCurrTable ml _) plugin filled]
    exact env.bufferSizePos
  · rename_i notFull
    rw [currTable_setCurrTable]
    unfold mlearnTableIsFull at notFull
    have different : (recordEvent env (currTable ml) entry index other event).actualSize ≠
        env.bufferSize := by simpa using notFull
    omega

/-- Without anyone, the buffer in use is the one the event was recorded in. -/
theorem currTable_mlearnActionAdd
    {ml : Ml}
    (noPlugin : ml.pluginInterface = false) :
    currTable (mlearnActionAdd env ml entry index other event) =
      recordEvent env (currTable ml) entry index other event := by
  simp only [mlearnActionAdd]
  split
  · rw [processMlearn_of_not, currTable_setCurrTable]
    rintro ⟨plugin, _⟩
    exact absurd (plugin.symm.trans noPlugin) (by decide)
  · exact currTable_setCurrTable ..

/-- Only an event for an index without a node uses a slot of the buffer. -/
theorem recordEvent_actualSize
    {mhmap : MlearnHmap}
    (takes : mhmap.table.filter (·.hash == index) ≠ [] ∨ mhmap.actualSize < env.bufferSize) :
    (recordEvent env mhmap entry index index event).actualSize =
      mhmap.actualSize + if mhmap.table.filter (·.hash == index) = [] then 1 else 0 := by
  unfold recordEvent
  cases found : mhmap.table.find? (·.hash == index) with
  | none =>
      have empty := (find?_eq_none_iff_filter mhmap.table).mp found
      have room := takes.resolve_left (not_not.mpr empty)
      simp only [copyNode, if_pos room, if_pos empty]
  | some node =>
      have stored : ¬ mhmap.table.filter (·.hash == index) = [] := by
        rw [← find?_eq_none_iff_filter, found]
        exact Option.some_ne_none node
      simp only [ne_eq, not_true_eq_false, if_false, if_neg stored, Nat.add_zero]

end Events

/-- The tables without an entry. -/
def evicted (ml : Ml) (e : MacEntry) : Ml :=
  { ml with
    hw := KeyedList.remove Prod.fst e.index ml.hw
    table := KeyedList.remove (·.index) e.index ml.table }

theorem expire_eq
    {xdk : Outcome}
    {e : MacEntry}
    (removed : xdk.removeEntryByIndex e.index = true)
    (env : Env)
    (ml : Ml) :
    (expire env xdk ml e).2 =
      mlearnActionAdd env (evicted ml e) e.fdb e.index e.index .del :=
  expire_of_removed removed env ml

/-! ## Equal tables -/

/-- The software and the hardware table hold the same entries at the same indices,
and no index and no address has two of them. -/
structure Synced (ml : Ml) : Prop where
  indexOnce : (ml.table.map (·.index)).Nodup
  hwIndexOnce : (ml.hw.map Prod.fst).Nodup
  hwKeyOnce : (ml.hw.map (·.2.key)).Nodup
  same : ∀ index fdb, (index, fdb) ∈ ml.hw ↔ MacEntry.mk index fdb ∈ ml.table

theorem Synced.fdbInv {ml : Ml} (synced : Synced ml) : FdbInv ml where
  indexOnce := synced.indexOnce
  tracked e member := ⟨e.fdb, (synced.same e.index e.fdb).mpr member, rfl⟩
  hwIndexOnce := synced.hwIndexOnce
  hwKeyOnce := synced.hwKeyOnce

/-- Tables with the same list of entries. -/
theorem Synced.of_eq
    {ml : Ml}
    (indexOnce : (ml.hw.map Prod.fst).Nodup)
    (keyOnce : (ml.hw.map (·.2.key)).Nodup)
    (table : ml.table = ml.hw.map fun slot => ⟨slot.1, slot.2⟩) :
    Synced ml where
  indexOnce := by
    rw [table, List.map_map]
    exact indexOnce
  hwIndexOnce := indexOnce
  hwKeyOnce := keyOnce
  same := by
    intro index fdb
    rw [table, List.mem_map]
    constructor
    · intro member
      exact ⟨_, member, rfl⟩
    · rintro ⟨slot, member, equal⟩
      obtain ⟨sameIndex, sameFdb⟩ := MacEntry.mk.inj equal
      rwa [← sameIndex, ← sameFdb]

end MacLearning
end XpliantSwitchd
