import XpliantSwitchd.MacLearning.Reader

/-!
# The slots of the event buffers

A buffer hands its slots out by a counter and links the nodes in a hash table.
With a plugin interface the buffer in use is handed over as soon as its last slot
is taken, so an event always finds a free slot.
-/

namespace XpliantSwitchd
namespace MacLearning

/-- The nodes of a buffer occupy its first slots, one each, and the counter is
their number. -/
structure Filled (env : Env) (mhmap : MlearnHmap) : Prop where
  bounded : mhmap.actualSize ≤ env.bufferSize
  counted : mhmap.actualSize = mhmap.table.length
  slots : (mhmap.table.map (·.slot)).Perm (List.range mhmap.actualSize)

/-- The event takes one of the branches that drop it, or a relocated node, since
the buffer is full. -/
def DropsEvent (env : Env) (mhmap : MlearnHmap) (index reHashIndex : Nat) : Prop :=
  match mhmap.table.find? (·.hash == index) with
  | some _ => index ≠ reHashIndex ∧ ¬mhmap.actualSize < env.bufferSize
  | none => ¬mhmap.actualSize < env.bufferSize

/-- With room left, no event is dropped. -/
theorem not_dropsEvent
    {env : Env}
    {mhmap : MlearnHmap}
    (room : mhmap.actualSize < env.bufferSize)
    (index reHashIndex : Nat) :
    ¬DropsEvent env mhmap index reHashIndex := by
  unfold DropsEvent
  split
  · intro drops
    exact drops.2 room
  · intro drops
    exact drops room

/-! ## One event -/

section Record

variable {env : Env} {mhmap : MlearnHmap}

theorem filled_empty (env : Env) : Filled env .empty where
  bounded := Nat.zero_le _
  counted := rfl
  slots := List.Perm.refl _

/-- A copied node takes the next slot. -/
theorem Filled.copyNode
    (filled : Filled env mhmap)
    (room : mhmap.actualSize < env.bufferSize)
    (node : MlearnNode)
    (hash : Nat) :
    Filled env (copyNode env mhmap node hash) := by
  unfold MacLearning.copyNode
  rw [if_pos room]
  constructor
  · exact room
  · rw [List.length_cons, filled.counted]
  · rw [List.map_cons, List.range_succ]
    exact (filled.slots.cons _).trans (List.perm_append_singleton _ _).symm

/-- A node keeps its slot when it is filled with new data. -/
theorem map_slot_fillFirst
    {fill : MlearnNode → MlearnNode}
    (keeps : ∀ node, (fill node).slot = node.slot)
    (hash : Nat)
    (nodes : List MlearnNode) :
    (fillFirst hash fill nodes).map (·.slot) = nodes.map (·.slot) := by
  induction nodes with
  | nil => rfl
  | cons node nodes inductionHypothesis =>
      unfold fillFirst
      split
      · rw [List.map_cons, List.map_cons, keeps]
      · rw [List.map_cons, List.map_cons, inductionHypothesis]

theorem Filled.fillFirst
    {fill : MlearnNode → MlearnNode}
    (filled : Filled env mhmap)
    (keeps : ∀ node, (fill node).slot = node.slot)
    (hash : Nat) :
    Filled env { mhmap with table := fillFirst hash fill mhmap.table } := by
  have sameSlots := map_slot_fillFirst keeps hash mhmap.table
  have sameLength := congrArg List.length sameSlots
  rw [List.length_map, List.length_map] at sameLength
  constructor
  · exact filled.bounded
  · exact filled.counted.trans sameLength.symm
  · rw [sameSlots]
    exact filled.slots

theorem Filled.recordEvent
    (filled : Filled env mhmap)
    (room : mhmap.actualSize < env.bufferSize)
    (entry : FdbEntry)
    (index reHashIndex : Nat)
    (event : MlearnEvent) :
    Filled env (recordEvent env mhmap entry index reHashIndex event) := by
  unfold MacLearning.recordEvent
  cases mhmap.table.find? (·.hash == index) with
  | none => exact filled.copyNode room _ _
  | some node =>
      simp only
      apply Filled.fillFirst
      · by_cases moved : index ≠ reHashIndex
        · rw [if_pos moved]
          exact filled.copyNode room node reHashIndex
        · rw [if_neg moved]
          exact filled
      · intro node
        rfl

end Record

/-! ## Runs -/

/-- What holds between two critical sections: the plugin interface is there, and
the buffer in use has its first slots filled and a slot left. -/
structure Packed (env : Env) (ml : Ml) : Prop where
  plugin : ml.pluginInterface = true
  filled : Filled env (currTable ml)
  room : (currTable ml).actualSize < env.bufferSize

section Step

variable {env : Env} {ml : Ml}

theorem packed_macLearningCreate (env : Env) (maxEntries : Nat) (hw : HwFdb) :
    Packed env (macLearningCreate maxEntries true hw) where
  plugin := rfl
  filled := filled_empty env
  room := env.bufferSizePos

/-- A handoff starts an empty buffer. -/
theorem packed_processMlearn
    (plugin : ml.pluginInterface = true)
    (nonempty : (currTable ml).table ≠ []) :
    Packed env (processMlearn ml) := by
  have current : currTable (processMlearn ml) = .empty := by
    unfold processMlearn
    rw [if_pos (by simp [plugin, nonempty])]
    exact Function.update_self ..
  constructor
  · unfold processMlearn
    split <;> exact plugin
  · rw [current]
    exact filled_empty env
  · rw [current]
    exact env.bufferSizePos

theorem Packed.processMlearn (packed : Packed env ml) : Packed env (processMlearn ml) := by
  by_cases empty : (currTable ml).table = []
  · have unchanged : MacLearning.processMlearn ml = ml := by
      simp [MacLearning.processMlearn, empty]
    rw [unchanged]
    exact packed
  · exact packed_processMlearn packed.plugin empty

/-- An event leaves a slot free, or the buffer is handed over. -/
theorem Packed.mlearnActionAdd
    (packed : Packed env ml)
    (entry : FdbEntry)
    (index reHashIndex : Nat)
    (event : MlearnEvent) :
    Packed env (mlearnActionAdd env ml entry index reHashIndex event) := by
  have filled := packed.filled.recordEvent packed.room entry index reHashIndex event
  have current : currTable (setCurrTable ml
      (recordEvent env (currTable ml) entry index reHashIndex event)) =
        recordEvent env (currTable ml) entry index reHashIndex event :=
    Function.update_self ..
  unfold MacLearning.mlearnActionAdd mlearnTableIsFull
  simp only [beq_iff_eq]
  split
  · rename_i full
    refine packed_processMlearn packed.plugin ?_
    rw [current]
    apply List.ne_nil_of_length_pos
    rw [← filled.counted, full]
    exact env.bufferSizePos
  · rename_i notFull
    constructor
    · exact packed.plugin
    · rw [current]
      exact filled
    · rw [current]
      exact lt_of_le_of_ne filled.bounded notFull

end Step

theorem Shared.advance_ml (shared : Shared) (events : List RecordedEvent) (ml : Ml) :
    (shared.advance events ml).ml = ml := by
  unfold Shared.advance
  split <;> rfl

theorem Packed.sharedStep
    {env : Env}
    {shared : Shared}
    (packed : Packed env shared.ml)
    (event : SharedEvent) :
    Packed env (sharedStep env shared event).ml := by
  cases event with
  | record entry index reHashIndex event =>
      change Packed env (shared.advance _ _).ml
      rw [Shared.advance_ml]
      exact packed.mlearnActionAdd entry index reHashIndex event
  | timerExpired =>
      change Packed env (shared.advance _ _).ml
      rw [Shared.advance_ml]
      exact packed.processMlearn
  | hmapGet => exact packed
  | read =>
      unfold MacLearning.sharedStep
      cases given : shared.given <;> exact packed

/-- After any sequence of recorded events, expired timers and accesses of the
reader, the buffer in use has a free slot, its nodes occupy the slots before it, one
each, and no event can take the branches for a full buffer. -/
theorem slots_packed_run
    (env : Env)
    (maxEntries : Nat)
    (hw : HwFdb)
    (events : List SharedEvent) :
    let ml := (Transition.run (sharedStep env) (sharedCreate maxEntries true hw) events).ml
    (currTable ml).actualSize < env.bufferSize ∧
      (currTable ml).actualSize = (currTable ml).table.length ∧
      ((currTable ml).table.map (·.slot)).Perm (List.range (currTable ml).actualSize) ∧
      ∀ index reHashIndex, ¬DropsEvent env (currTable ml) index reHashIndex := by
  intro ml
  have packed : Packed env ml :=
    Transition.run_invariant (fun shared : Shared => Packed env shared.ml)
      (fun _ event packed => packed.sharedStep event)
      (packed_macLearningCreate env maxEntries hw) events
  exact ⟨packed.room, packed.filled.counted, packed.filled.slots,
    not_dropsEvent packed.room⟩

end MacLearning
end XpliantSwitchd
