import XpliantSwitchd.MacLearning.Recorded

/-!
# The reader of the event buffers

The switch daemon asks for the buffer of the latest handoff and reads it without
the lock.  Nothing tells the plugin that the daemon has read it: a handoff
clears the buffer of the handoff before, read or not.  An event that is recorded under
the index of an earlier one of its buffer takes its node, so that no reader sees the
earlier one.
-/

namespace XpliantSwitchd
namespace MacLearning

/-- An event that was recorded. -/
structure RecordedEvent where
  entry : FdbEntry
  event : MlearnEvent
  deriving DecidableEq

/-- A node tells of an event what is recorded of it. -/
def Tells (env : Env) (node : MlearnNode) (recorded : RecordedEvent) : Prop :=
  mlearnEntryFillData env node recorded.entry recorded.event = node

instance (env : Env) (node : MlearnNode) (recorded : RecordedEvent) :
    Decidable (Tells env node recorded) :=
  inferInstanceAs (Decidable (_ = _))

/-- A table tells of an event. -/
def MlearnHmap.TellsOf (env : Env) (mhmap : MlearnHmap) (recorded : RecordedEvent) : Prop :=
  ∃ node ∈ mhmap.table, Tells env node recorded

instance (env : Env) (mhmap : MlearnHmap) (recorded : RecordedEvent) :
    Decidable (mhmap.TellsOf env recorded) :=
  inferInstanceAs (Decidable (∃ _ ∈ _, _))

/-- The table that `ops_xp_mac_learning_hmap_get` returned: which buffer it is, how
many handoffs there had been, and what was in it. -/
structure Given where
  buffer : Bool
  handoffs : Nat
  mhmap : MlearnHmap
  deriving DecidableEq

/-- A read of a returned table: what was in it when it was returned and when it was
read. -/
structure Read where
  given : MlearnHmap
  found : MlearnHmap
  deriving DecidableEq

/-- A buffer that was cleared: the events that were recorded in it, and what the
reader had found in it since its handoff. -/
structure Clearing where
  events : List RecordedEvent
  found : List MlearnHmap
  deriving DecidableEq

/-- MAC learning and its reader.  `pending` are the events recorded in the buffer in
use, `handed` those recorded in the other one, and `found` is what the reader found in
the other one since its handoff; reads and clearings are noted, the latest first. -/
structure Shared where
  ml : Ml
  given : Option Given
  pending : List RecordedEvent
  handed : List RecordedEvent
  found : List MlearnHmap
  reads : List Read
  clearings : List Clearing

/-- The steps of the two threads: an event is recorded, the timer expires, the
reader asks for a table, and the reader reads it. -/
inductive SharedEvent
  | record (entry : FdbEntry) (index reHashIndex : Nat) (event : MlearnEvent)
  | timerExpired
  | hmapGet
  | read
  deriving DecidableEq

/-- `ops_xp_mac_learning_hmap_get`. -/
def hmapGet (ml : Ml) : Option Given :=
  if (ml.mlearnEventTables (!ml.inUse)).table.isEmpty then none
  else some ⟨!ml.inUse, ml.handoffs.length, ml.mlearnEventTables (!ml.inUse)⟩

/-- Note what a critical section of the plugin did to the buffers, the one in use with
the given events in it. -/
def Shared.advance (shared : Shared) (events : List RecordedEvent) (ml : Ml) : Shared :=
  if ml.handoffs.length = shared.ml.handoffs.length then
    { shared with ml := ml, pending := events }
  else
    { shared with
      ml := ml
      pending := []
      handed := events
      found := []
      clearings := ⟨shared.handed, shared.found⟩ :: shared.clearings }

/-- The state after a step. -/
def sharedStep (env : Env) (shared : Shared) (event : SharedEvent) : Shared :=
  match event with
  | .record entry index reHashIndex event =>
      shared.advance (⟨entry, event⟩ :: shared.pending)
        (mlearnActionAdd env shared.ml entry index reHashIndex event)
  | .timerExpired => shared.advance shared.pending (processMlearn shared.ml)
  | .hmapGet => { shared with given := hmapGet shared.ml }
  | .read =>
      match shared.given with
      | none => shared
      | some given =>
          { shared with
            found :=
              if given.buffer == !shared.ml.inUse then
                shared.ml.mlearnEventTables given.buffer :: shared.found
              else shared.found
            reads := ⟨given.mhmap, shared.ml.mlearnEventTables given.buffer⟩ ::
              shared.reads }

/-- MAC learning before anything was recorded, and a reader without a table. -/
def sharedCreate (maxEntries : Nat) (pluginInterface : Bool) (hw : HwFdb) : Shared where
  ml := macLearningCreate maxEntries pluginInterface hw
  given := none
  pending := []
  handed := []
  found := []
  reads := []
  clearings := []

/-- What the reader finds in a table is what was in it when it was returned, and every
event that was recorded in a buffer is in a table that the reader found before the
buffer was cleared. -/
structure ReadsFaithful (env : Env) (shared : Shared) : Prop where
  unchanged : ∀ read ∈ shared.reads, read.found = read.given
  seen : ∀ clearing ∈ shared.clearings, ∀ recorded ∈ clearing.events,
    ∃ mhmap ∈ clearing.found, mhmap.TellsOf env recorded

/-- The step hands the current buffer over. -/
def HandsOver (env : Env) (shared : Shared) : SharedEvent → Prop
  | .record entry index reHashIndex event =>
      shared.ml.pluginInterface = true ∧ mlearnTableIsFull env
        (recordEvent env (currTable shared.ml) entry index reHashIndex event) = true
  | .timerExpired =>
      shared.ml.pluginInterface = true ∧ (currTable shared.ml).table ≠ []
  | _ => False

/-- A node holds the same data as another one. -/
def MlearnNode.Repeats (node other : MlearnNode) : Prop :=
  { node with slot := other.slot, hash := other.hash } = other

instance (node other : MlearnNode) : Decidable (node.Repeats other) :=
  inferInstanceAs (Decidable (_ = _))

/-- Recording an event loses nothing of what is in a buffer: the node that its index
leads to is copied, gets the data that it has, or is not the only one with its data. -/
def Spares (env : Env) (mhmap : MlearnHmap) (entry : FdbEntry)
    (index reHashIndex : Nat) (event : MlearnEvent) : Prop :=
  index = reHashIndex → ∀ node, mhmap.table.find? (·.hash == index) = some node →
    Tells env node ⟨entry, event⟩ ∨
      ∃ other ∈ mhmap.table.eraseP (·.hash == index), other.Repeats node

instance (env : Env) (mhmap : MlearnHmap) (entry : FdbEntry)
    (index reHashIndex : Nat) (event : MlearnEvent) :
    Decidable (Spares env mhmap entry index reHashIndex event) :=
  inferInstanceAs (Decidable (index = reHashIndex →
    ∀ node ∈ mhmap.table.find? (·.hash == index), Tells env node ⟨entry, event⟩ ∨
      ∃ other ∈ mhmap.table.eraseP (·.hash == index), other.Repeats node))

/-- A step that records an event for the reader loses no other event. -/
def Sparing (env : Env) (shared : Shared) : SharedEvent → Prop
  | .record entry index reHashIndex event => shared.ml.pluginInterface = true →
      Spares env (currTable shared.ml) entry index reHashIndex event
  | _ => True

/-- The reader reads before the next handoff, a handoff comes after the reader has
read the buffer of the handoff before, and no event takes the node of another one. -/
def Paced (env : Env) (shared : Shared) (event : SharedEvent) : Prop :=
  (HandsOver env shared event →
    (shared.ml.mlearnEventTables (!shared.ml.inUse)).table = [] ∨ shared.found ≠ []) ∧
  (event = .read → ∀ given, shared.given = some given →
    given.handoffs = shared.ml.handoffs.length) ∧
  Sparing env shared event

instance (env : Env) (shared : Shared) (event : SharedEvent) :
    Decidable (HandsOver env shared event) :=
  match event with
  | .record .. => inferInstanceAs (Decidable (_ ∧ _))
  | .timerExpired => inferInstanceAs (Decidable (_ ∧ _))
  | .hmapGet => inferInstanceAs (Decidable False)
  | .read => inferInstanceAs (Decidable False)

instance (env : Env) (shared : Shared) (event : SharedEvent) :
    Decidable (Sparing env shared event) :=
  match event with
  | .record .. => inferInstanceAs (Decidable (_ → _))
  | .timerExpired => inferInstanceAs (Decidable True)
  | .hmapGet => inferInstanceAs (Decidable True)
  | .read => inferInstanceAs (Decidable True)

instance (env : Env) (shared : Shared) (event : SharedEvent) :
    Decidable (Paced env shared event) :=
  inferInstanceAs (Decidable (_ ∧ (event = .read → ∀ given ∈ shared.given, _) ∧ _))

/-! ## What a buffer tells -/

section Telling

variable {env : Env} {mhmap : MlearnHmap} {entry : FdbEntry} {index reHashIndex : Nat}
  {event : MlearnEvent} {recorded : RecordedEvent}

/-- A node with the data of one that tells of an event tells of it too. -/
theorem Tells.of_repeats
    {node other : MlearnNode}
    (tells : Tells env node recorded)
    (repeats : other.Repeats node) :
    Tells env other recorded := by
  unfold MlearnNode.Repeats at repeats
  rw [← repeats] at tells
  cases other
  simpa [Tells, mlearnEntryFillData] using tells

theorem tells_fillData (node : MlearnNode) :
    Tells env (mlearnEntryFillData env node entry event) ⟨entry, event⟩ := rfl

/-- Writing the first node with a hash leaves the other ones. -/
theorem mem_fillFirst_of_mem_eraseP
    {fill : MlearnNode → MlearnNode}
    {nodes : List MlearnNode}
    {node : MlearnNode}
    (member : node ∈ nodes.eraseP (·.hash == index)) :
    node ∈ fillFirst index fill nodes := by
  induction nodes with
  | nil => cases member
  | cons head nodes inductionHypothesis =>
      by_cases selected : head.hash = index
      · rw [List.eraseP_cons_of_pos (by simpa using selected)] at member
        rw [fillFirst, if_pos selected]
        exact List.mem_cons_of_mem _ member
      · rw [List.eraseP_cons_of_neg (by simpa using selected)] at member
        rw [fillFirst, if_neg selected]
        cases member with
        | head => exact List.mem_cons_self
        | tail _ later => exact List.mem_cons_of_mem _ (inductionHypothesis later)

/-- A node is the first one with a hash or one of the others. -/
theorem eq_or_mem_eraseP
    {nodes : List MlearnNode}
    {node first : MlearnNode}
    (found : nodes.find? (·.hash == index) = some first)
    (member : node ∈ nodes) :
    node = first ∨ node ∈ nodes.eraseP (·.hash == index) := by
  induction nodes with
  | nil => cases member
  | cons head nodes inductionHypothesis =>
      by_cases selected : head.hash = index
      · rw [List.find?_cons_of_pos (by simpa using selected)] at found
        rw [List.eraseP_cons_of_pos (by simpa using selected)]
        obtain rfl := Option.some.inj found
        exact List.mem_cons.mp member
      · rw [List.find?_cons_of_neg (by simpa using selected)] at found
        rw [List.eraseP_cons_of_neg (by simpa using selected)]
        cases member with
        | head => exact .inr List.mem_cons_self
        | tail _ later =>
            exact (inductionHypothesis found later).imp_right (List.mem_cons_of_mem _)

theorem mem_fillFirst_of_find?
    {fill : MlearnNode → MlearnNode}
    {nodes : List MlearnNode}
    {node : MlearnNode}
    (found : nodes.find? (·.hash == index) = some node) :
    fill node ∈ fillFirst index fill nodes := by
  obtain ⟨front, back, _, filled⟩ := fillFirst_split found fill
  rw [filled]
  exact List.mem_append_right _ List.mem_cons_self

/-- A buffer with room tells of the event that is recorded in it. -/
theorem tellsOf_recordEvent_self (room : mhmap.actualSize < env.bufferSize) :
    (recordEvent env mhmap entry index reHashIndex event).TellsOf env ⟨entry, event⟩ := by
  unfold recordEvent
  cases found : mhmap.table.find? (·.hash == index) with
  | none =>
      simp only [copyNode, if_pos room]
      exact ⟨_, List.mem_cons_self, rfl⟩
  | some node =>
      by_cases same : index = reHashIndex
      · simp only [same, ne_eq, not_true_eq_false, if_false]
        rw [same] at found
        exact ⟨_, mem_fillFirst_of_find? found, tells_fillData node⟩
      · simp only [ne_eq, same, not_false_eq_true, if_true, copyNode, if_pos room]
        refine ⟨_, mem_fillFirst_of_find? ?_, tells_fillData node⟩
        rw [List.find?_cons_of_neg (by simpa using Ne.symm same)]
        exact found

/-- A buffer with room still tells of an earlier event when recording spares it. -/
theorem MlearnHmap.TellsOf.recordEvent
    (told : mhmap.TellsOf env recorded)
    (room : mhmap.actualSize < env.bufferSize)
    (spares : Spares env mhmap entry index reHashIndex event) :
    (recordEvent env mhmap entry index reHashIndex event).TellsOf env recorded := by
  obtain ⟨node, member, tells⟩ := told
  unfold MacLearning.recordEvent
  cases found : mhmap.table.find? (·.hash == index) with
  | none =>
      simp only [copyNode, if_pos room]
      exact ⟨node, List.mem_cons_of_mem _ member, tells⟩
  | some first =>
      by_cases same : index = reHashIndex
      · simp only [ne_eq, same, not_true_eq_false, if_false]
        have keeps := spares same first found
        rw [same] at found keeps
        cases eq_or_mem_eraseP found member with
        | inr others => exact ⟨node, mem_fillFirst_of_mem_eraseP others, tells⟩
        | inl isFirst =>
            subst isFirst
            cases keeps with
            | inl again =>
                have unchanged := @mem_fillFirst_of_find? reHashIndex
                  (mlearnEntryFillData env · entry event) _ _ found
                rw [again] at unchanged
                exact ⟨node, unchanged, tells⟩
            | inr repeated =>
                obtain ⟨other, otherMember, repeats⟩ := repeated
                exact ⟨other, mem_fillFirst_of_mem_eraseP otherMember,
                  tells.of_repeats repeats⟩
      · simp only [ne_eq, same, not_false_eq_true, if_true, copyNode, if_pos room]
        have skipped : ¬reHashIndex = index := Ne.symm same
        simp only [fillFirst, if_neg skipped]
        cases eq_or_mem_eraseP found member with
        | inr others =>
            exact ⟨node, List.mem_cons_of_mem _ (mem_fillFirst_of_mem_eraseP others), tells⟩
        | inl isFirst =>
            subst isFirst
            exact ⟨_, List.mem_cons_self, tells.of_repeats rfl⟩

end Telling

/-! ## Critical sections -/

/-- A critical section writes the buffer in use and leaves the other one alone, or it
hands the written one over. -/
inductive Section (before after : Ml) (written : MlearnHmap) : Prop
  | keeps (handoffs : after.handoffs.length = before.handoffs.length)
      (inUse : after.inUse = before.inUse)
      (current : after.mlearnEventTables before.inUse = written)
      (other : after.mlearnEventTables (!before.inUse) =
        before.mlearnEventTables (!before.inUse))
  | handsOver (handoffs : after.handoffs.length = before.handoffs.length + 1)
      (inUse : after.inUse = !before.inUse)
      (passed : after.mlearnEventTables before.inUse = written)

theorem section_processMlearn (ml : Ml) :
    Section ml (processMlearn ml) (currTable ml) ∧
      ((processMlearn ml).handoffs.length ≠ ml.handoffs.length →
        ml.pluginInterface = true ∧ (currTable ml).table ≠ []) := by
  unfold processMlearn
  split
  · rename_i hands
    simp only [Bool.and_eq_true, Bool.not_eq_true', List.isEmpty_eq_false_iff] at hands
    exact ⟨.handsOver rfl rfl (Function.update_of_ne (by simp) _ _), fun _ => hands⟩
  · exact ⟨.keeps rfl rfl rfl rfl, fun changed => absurd rfl changed⟩

theorem section_mlearnActionAdd
    (env : Env)
    (ml : Ml)
    (entry : FdbEntry)
    (index reHashIndex : Nat)
    (event : MlearnEvent) :
    Section ml (mlearnActionAdd env ml entry index reHashIndex event)
        (recordEvent env (currTable ml) entry index reHashIndex event) ∧
      ((mlearnActionAdd env ml entry index reHashIndex event).handoffs.length ≠
          ml.handoffs.length →
        ml.pluginInterface = true ∧ mlearnTableIsFull env
          (recordEvent env (currTable ml) entry index reHashIndex event) = true) := by
  have current := currTable_setCurrTable ml
    (recordEvent env (currTable ml) entry index reHashIndex event)
  have other : (setCurrTable ml (recordEvent env (currTable ml) entry index reHashIndex
      event)).mlearnEventTables (!ml.inUse) = ml.mlearnEventTables (!ml.inUse) :=
    Function.update_of_ne (by simp) _ _
  unfold mlearnActionAdd
  simp only
  split
  · rename_i isFull
    obtain ⟨processed, hands⟩ := section_processMlearn
      (setCurrTable ml (recordEvent env (currTable ml) entry index reHashIndex event))
    rw [current] at processed
    refine ⟨?_, fun changed => ⟨(hands changed).1, isFull⟩⟩
    cases processed with
    | keeps handoffs inUse written kept => exact .keeps handoffs inUse written (kept.trans other)
    | handsOver handoffs inUse passed => exact .handsOver handoffs inUse passed
  · exact ⟨.keeps rfl rfl current other, fun changed => absurd rfl changed⟩

/-! ## Runs -/

/-- The reader's table is the other buffer until the next handoff, and each buffer
tells of the events that were recorded in it. -/
structure ReaderInv (env : Env) (shared : Shared) : Prop where
  faithful : ReadsFaithful env shared
  current : ∀ given, shared.given = some given →
    given.handoffs ≤ shared.ml.handoffs.length ∧
      (given.handoffs = shared.ml.handoffs.length →
        given.buffer = (!shared.ml.inUse) ∧
          shared.ml.mlearnEventTables given.buffer = given.mhmap)
  room : shared.ml.pluginInterface = true →
    (currTable shared.ml).actualSize < env.bufferSize
  pendingTold : shared.ml.pluginInterface = true → ∀ recorded ∈ shared.pending,
    (currTable shared.ml).TellsOf env recorded
  handedTold : ∀ recorded ∈ shared.handed,
    (shared.ml.mlearnEventTables (!shared.ml.inUse)).TellsOf env recorded
  foundOther : ∀ mhmap ∈ shared.found,
    mhmap = shared.ml.mlearnEventTables (!shared.ml.inUse)

namespace ReaderInv

variable {env : Env} {shared : Shared}

/-- When a buffer may be cleared, each event recorded in it is told by what the consumer
found there. -/
theorem found_tells
    (invariant : ReaderInv env shared)
    (paced : (shared.ml.mlearnEventTables (!shared.ml.inUse)).table = [] ∨
      shared.found ≠ [])
    {recorded : RecordedEvent}
    (member : recorded ∈ shared.handed) :
    ∃ mhmap ∈ shared.found, mhmap.TellsOf env recorded := by
  have inOther := invariant.handedTold recorded member
  obtain ⟨node, inTable, _⟩ := inOther
  have filled : (shared.ml.mlearnEventTables (!shared.ml.inUse)).table ≠ [] :=
    List.ne_nil_of_mem inTable
  obtain ⟨mhmap, isFound⟩ := List.exists_mem_of_ne_nil _ (paced.resolve_left filled)
  refine ⟨mhmap, isFound, ?_⟩
  rw [invariant.foundOther mhmap isFound]
  exact invariant.handedTold recorded member

theorem advance
    (invariant : ReaderInv env shared)
    {after : Ml}
    {written : MlearnHmap}
    {events : List RecordedEvent}
    (stepped : Section shared.ml after written)
    (samePlugin : after.pluginInterface = shared.ml.pluginInterface)
    (room : after.pluginInterface = true → (currTable after).actualSize < env.bufferSize)
    (told : shared.ml.pluginInterface = true → ∀ recorded ∈ events,
      written.TellsOf env recorded)
    (hands : after.handoffs.length ≠ shared.ml.handoffs.length →
      shared.ml.pluginInterface = true ∧
        ((shared.ml.mlearnEventTables (!shared.ml.inUse)).table = [] ∨
          shared.found ≠ [])) :
    ReaderInv env (shared.advance events after) := by
  unfold Shared.advance
  cases stepped with
  | keeps handoffs inUse current other =>
      rw [if_pos handoffs]
      have sameOther : after.mlearnEventTables (!after.inUse) =
          shared.ml.mlearnEventTables (!shared.ml.inUse) := by rw [inUse, other]
      refine ⟨⟨invariant.faithful.unchanged, invariant.faithful.seen⟩, ?_, room, ?_, ?_, ?_⟩
      · intro given isGiven
        obtain ⟨older, latest⟩ := invariant.current given isGiven
        rw [← handoffs] at older latest
        refine ⟨older, fun isLatest => ?_⟩
        obtain ⟨buffer, same⟩ := latest isLatest
        refine ⟨buffer.trans (by rw [← inUse]), ?_⟩
        rw [buffer] at same ⊢
        exact other.trans same
      · intro plugin recorded member
        have inWritten := told (samePlugin ▸ plugin) recorded member
        rw [← current, ← inUse] at inWritten
        exact inWritten
      · intro recorded member
        rw [sameOther]
        exact invariant.handedTold recorded member
      · intro mhmap member
        rw [sameOther]
        exact invariant.foundOther mhmap member
  | handsOver handoffs inUse passed =>
      have changed : after.handoffs.length ≠ shared.ml.handoffs.length := by omega
      obtain ⟨plugin, paced⟩ := hands changed
      rw [if_neg changed]
      refine ⟨⟨invariant.faithful.unchanged, ?_⟩, ?_, room, ?_, ?_, ?_⟩
      · intro clearing listed
        rcases List.mem_cons.mp listed with rfl | old
        · exact fun _ member => invariant.found_tells paced member
        · exact invariant.faithful.seen clearing old
      · intro given isGiven
        obtain ⟨older, _⟩ := invariant.current given isGiven
        refine ⟨?_, fun latest => ?_⟩
        · show given.handoffs ≤ after.handoffs.length
          omega
        · change given.handoffs = after.handoffs.length at latest
          omega
      · intro _ recorded member
        cases member
      · intro recorded member
        have inWritten := told plugin recorded member
        rw [← passed] at inWritten
        rw [inUse, Bool.not_not]
        exact inWritten
      · intro mhmap member
        cases member

theorem record
    (invariant : ReaderInv env shared)
    {entry : FdbEntry}
    {index reHashIndex : Nat}
    {event : MlearnEvent}
    (paced : Paced env shared (.record entry index reHashIndex event)) :
    ReaderInv env (sharedStep env shared (.record entry index reHashIndex event)) := by
  obtain ⟨read, _, spares⟩ := paced
  obtain ⟨stepped, hands⟩ :=
    section_mlearnActionAdd env shared.ml entry index reHashIndex event
  have samePlugin := @mlearnActionAdd_pluginInterface env entry index reHashIndex event
    shared.ml
  refine invariant.advance stepped samePlugin ?_ ?_ fun changed =>
    ⟨(hands changed).1, read (hands changed)⟩
  · intro plugin
    rw [samePlugin] at plugin
    exact room_mlearnActionAdd plugin (invariant.room plugin)
  · intro plugin recorded member
    have room := invariant.room plugin
    rcases List.mem_cons.mp member with rfl | earlier
    · exact tellsOf_recordEvent_self room
    · exact (invariant.pendingTold plugin recorded earlier).recordEvent room
        (spares plugin)

theorem timerExpired
    (invariant : ReaderInv env shared)
    (paced : Paced env shared .timerExpired) :
    ReaderInv env (sharedStep env shared .timerExpired) := by
  obtain ⟨stepped, hands⟩ := section_processMlearn shared.ml
  have samePlugin : (processMlearn shared.ml).pluginInterface =
      shared.ml.pluginInterface := by
    unfold processMlearn
    split <;> rfl
  refine invariant.advance stepped samePlugin ?_ invariant.pendingTold fun changed =>
    ⟨(hands changed).1, paced.1 (hands changed)⟩
  intro plugin
  rw [samePlugin] at plugin
  by_cases filled : (currTable shared.ml).table = []
  · rw [processMlearn_of_not fun both => both.2 filled]
    exact invariant.room plugin
  · rw [currTable_processMlearn plugin filled]
    exact env.bufferSizePos

theorem preserved
    (invariant : ReaderInv env shared)
    {event : SharedEvent}
    (paced : Paced env shared event) :
    ReaderInv env (sharedStep env shared event) := by
  cases event with
  | record entry index reHashIndex event => exact invariant.record paced
  | timerExpired => exact invariant.timerExpired paced
  | hmapGet =>
      refine ⟨⟨invariant.faithful.unchanged, invariant.faithful.seen⟩, ?_, invariant.room,
        invariant.pendingTold, invariant.handedTold, invariant.foundOther⟩
      intro given isGiven
      change hmapGet shared.ml = some given at isGiven
      unfold hmapGet at isGiven
      split at isGiven
      · contradiction
      · obtain rfl := Option.some.inj isGiven
        exact ⟨le_refl _, fun _ => ⟨rfl, rfl⟩⟩
  | read =>
      unfold sharedStep
      cases isGiven : shared.given with
      | none => simpa only [isGiven] using invariant
      | some given =>
          simp only
          have latest := paced.2.1 rfl given isGiven
          obtain ⟨_, current⟩ := invariant.current given isGiven
          obtain ⟨buffer, same⟩ := current latest
          refine ⟨⟨?_, invariant.faithful.seen⟩, ?_, invariant.room,
            invariant.pendingTold, invariant.handedTold, ?_⟩
          · intro read listed
            rcases List.mem_cons.mp listed with rfl | old
            · exact same
            · exact invariant.faithful.unchanged read old
          · intro other isOther
            exact invariant.current other (isGiven.trans isOther)
          · intro mhmap member
            simp only [buffer, beq_self_eq_true, if_true] at member
            rcases List.mem_cons.mp member with rfl | old
            · rfl
            · exact invariant.foundOther mhmap old

end ReaderInv

theorem readsFaithful_of_reached
    {env : Env}
    {maxEntries : Nat}
    {pluginInterface : Bool}
    {hw : HwFdb}
    {shared : Shared}
    (reached : Transition.Reach (· = sharedCreate maxEntries pluginInterface hw)
      (Paced env) (sharedStep env) shared) :
    ReadsFaithful env shared := by
  refine (reached.invariant (ReaderInv env) ?_ fun _ _ invariant paced =>
    invariant.preserved paced).faithful
  rintro _ rfl
  exact ⟨⟨nofun, nofun⟩, nofun, fun _ => env.bufferSizePos, nofun, nofun, nofun⟩

/-- An address that is learned on an interface. -/
def sampleFdb (last : UInt8) : FdbEntry where
  macAddr := #v[last, 0, 0, 0, 0, 2]
  vlanId := 10
  intfId := 1
  serviceInstId := 0
  isStatic := false
  isControl := false
  pktCmd := .fwd

/-- The reader keeps up with the handoffs; the second event moves the node of the
first to another index. -/
def pacedRun : List SharedEvent :=
  [.record (sampleFdb 1) 5 5 .add, .record (sampleFdb 2) 5 7 .add, .timerExpired,
   .hmapGet, .record (sampleFdb 1) 7 7 .del, .read, .timerExpired, .hmapGet, .read]

theorem readsFaithful_pacedRun :
    let shared := Transition.run (sharedStep sampleEnv) (sharedCreate 100 true []) pacedRun
    shared.clearings.map (·.events.length) = [2, 0] ∧ ReadsFaithful sampleEnv shared := by
  have start : Transition.Reach (· = sharedCreate 100 true []) (Paced sampleEnv)
      (sharedStep sampleEnv) (sharedCreate 100 true []) := .start rfl
  refine ⟨by decide, readsFaithful_of_reached
    (start.of_run ⟨?_, ?_, ?_, ?_, ?_, ?_, ?_, ?_, ?_, trivial⟩)⟩
  all_goals decide

/-- Two handoffs come before the reader reads. -/
def hastyRun : List SharedEvent :=
  [.record (sampleFdb 1) 5 5 .add, .timerExpired, .hmapGet,
   .record (sampleFdb 2) 6 6 .add, .timerExpired, .read]

/-- An address is forgotten before the reader is told that it was learned. -/
def overwritingRun : List SharedEvent :=
  [.record (sampleFdb 1) 5 5 .add, .record (sampleFdb 1) 5 5 .del, .timerExpired,
   .hmapGet, .read, .record (sampleFdb 2) 6 6 .add, .timerExpired]

/-- After two handoffs the reader finds its table empty, and the first event was never
seen; nor is an event whose node another one took, however soon the reader reads. -/
theorem not_readsFaithful_hastyRun :
    let hasty := Transition.run (sharedStep sampleEnv) (sharedCreate 100 true []) hastyRun
    let overwriting :=
      Transition.run (sharedStep sampleEnv) (sharedCreate 100 true []) overwritingRun
    (∃ read ∈ hasty.reads, read.found ≠ read.given) ∧
      (∃ clearing ∈ hasty.clearings, clearing.events ≠ [] ∧ clearing.found = []) ∧
      ¬ReadsFaithful sampleEnv hasty ∧
      (∀ read ∈ overwriting.reads, read.found = read.given) ∧
      ¬ReadsFaithful sampleEnv overwriting := by
  refine ⟨by decide, by decide, ?_, by decide, ?_⟩
  · intro faithful
    exact absurd faithful.unchanged (by decide)
  · intro faithful
    exact absurd faithful.seen (by decide)

end MacLearning
end XpliantSwitchd
