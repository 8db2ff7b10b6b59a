import XpliantSwitchd.MacLearning.Recorded

/-!
# Flushing the learning table

Each of the flush functions walks the software table and expires the entries that
it selects.  An entry that the hardware does not remove stays in both tables.  The
expiry of an entry records a deletion, which may hand the event buffer off in the
middle of the loop.
-/

namespace XpliantSwitchd
namespace MacLearning

/-- The flush functions with their arguments. -/
inductive Flush
  | all (dynamicOnly : Bool)
  | ofIntf (intfId : Nat) (dynamicOnly : Bool)
  | ofVlan (vlanId : Nat)
  | ofVlanIntf (vlanId intfId : Nat)

namespace Flush

/-- Call a flush function. -/
def run (env : Env) (xdk : Outcome) (ml : Ml) : Flush → Ml
  | .all dynamicOnly => flush env xdk ml dynamicOnly
  | .ofIntf intfId dynamicOnly => flushIntfId env xdk ml intfId dynamicOnly
  | .ofVlan vlanId => flushVlan env xdk ml vlanId
  | .ofVlanIntf vlanId intfId => flushVlanIntf env xdk ml vlanId intfId

/-- The entries that a flush is for. -/
def Selects (fdb : FdbEntry) : Flush → Prop
  | .all dynamicOnly => dynamicOnly = true → fdb.isStatic = false
  | .ofIntf intfId dynamicOnly =>
      fdb.intfId = intfId ∧ (dynamicOnly = true → fdb.isStatic = false)
  | .ofVlan vlanId => fdb.vlanId = vlanId
  | .ofVlanIntf vlanId intfId => fdb.vlanId = vlanId ∧ fdb.intfId = intfId

instance (fdb : FdbEntry) (variant : Flush) : Decidable (variant.Selects fdb) :=
  match variant with
  | .all dynamicOnly =>
      inferInstanceAs (Decidable (dynamicOnly = true → fdb.isStatic = false))
  | .ofIntf intfId dynamicOnly =>
      inferInstanceAs
        (Decidable (fdb.intfId = intfId ∧ (dynamicOnly = true → fdb.isStatic = false)))
  | .ofVlan vlanId => inferInstanceAs (Decidable (fdb.vlanId = vlanId))
  | .ofVlanIntf vlanId intfId =>
      inferInstanceAs (Decidable (fdb.vlanId = vlanId ∧ fdb.intfId = intfId))

theorem flushWhere_selects
    (env : Env) (xdk : Outcome) (ml : Ml) (variant : Flush)
    {test : FdbEntry → Bool}
    (tests : ∀ fdb, test fdb = true ↔ variant.Selects fdb) :
    flushWhere env xdk ml test =
      flushWhere env xdk ml fun fdb => decide (variant.Selects fdb) := by
  congr 1
  funext fdb
  rw [Bool.eq_iff_iff, decide_eq_true_iff]
  exact tests fdb

/-- Every flush is the common loop with its own test. -/
theorem run_eq (env : Env) (xdk : Outcome) (ml : Ml) (variant : Flush) :
    variant.run env xdk ml =
      flushWhere env xdk ml fun fdb => decide (variant.Selects fdb) := by
  cases variant with
  | all dynamicOnly =>
      rw [run, flush]
      apply flushWhere_selects
      intro fdb
      cases dynamicOnly <;> simp [Selects]
  | ofIntf intfId dynamicOnly =>
      rw [run, flushIntfId]
      apply flushWhere_selects
      intro fdb
      cases dynamicOnly <;> simp [Selects]
  | ofVlan vlanId =>
      rw [run, flushVlan]
      apply flushWhere_selects
      intro fdb
      simp [Selects]
  | ofVlanIntf vlanId intfId =>
      rw [run, flushVlanIntf]
      apply flushWhere_selects
      intro fdb
      simp [Selects]

end Flush

/-- An entry goes: the flush is for it, and the hardware removes it. -/
def Goes (xdk : Outcome) (variant : Flush) (e : MacEntry) : Prop :=
  variant.Selects e.fdb ∧ xdk.removeEntryByIndex e.index = true

instance (xdk : Outcome) (variant : Flush) (e : MacEntry) : Decidable (Goes xdk variant e) :=
  inferInstanceAs (Decidable (_ ∧ _))

/-- One event with the data of an entry was recorded for its index: there is a new
node in front of the others, or the front node, which had not been handed off, was
filled again. -/
def Recorded (env : Env) (ml after : Ml) (e : MacEntry) (event : MlearnEvent) : Prop :=
  ∃ node, Reports env node e.fdb event ∧ node.hash = e.index ∧
    (trail after e.index = node :: trail ml e.index ∨
      pending ml e.index ≠ [] ∧ trail after e.index = node :: (trail ml e.index).tail)

/-- Both tables have lost exactly the entries that go, and nothing was recorded for
an index without such an entry. -/
structure Flushed (xdk : Outcome) (variant : Flush) (ml after : Ml) : Prop where
  table : after.table = ml.table.filter fun e => ¬ Goes xdk variant e
  hw : after.hw = ml.hw.filter fun slot => ¬ Goes xdk variant ⟨slot.1, slot.2⟩
  others : ∀ index, (∀ e ∈ ml.table, Goes xdk variant e → e.index ≠ index) →
    trail after index = trail ml index

/-- One deletion was recorded for each entry that goes. -/
def DeletionsRecorded (env : Env) (xdk : Outcome) (variant : Flush) (ml after : Ml) :
    Prop :=
  ∀ e ∈ ml.table, Goes xdk variant e → Recorded env ml after e .del

/-! ## The loop -/

section Loop

variable {env : Env} {xdk : Outcome} {ml : Ml} {entries : List MacEntry}

/-- The tables after a loop over some entries. -/
theorem expireAll_tables (env : Env) (xdk : Outcome) (ml : Ml) (entries : List MacEntry) :
    (expireAll env xdk ml entries).table = ml.table.filter (fun e =>
        ¬ (e.index ∈ entries.map (·.index) ∧ xdk.removeEntryByIndex e.index = true)) ∧
      (expireAll env xdk ml entries).hw = ml.hw.filter (fun slot =>
        ¬ (slot.1 ∈ entries.map (·.index) ∧ xdk.removeEntryByIndex slot.1 = true)) := by
  induction entries generalizing ml with
  | nil =>
      constructor
      · exact (List.filter_eq_self.mpr fun _ _ => by simp).symm
      · exact (List.filter_eq_self.mpr fun _ _ => by simp).symm
  | cons e entries inductionHypothesis =>
      obtain ⟨table, hw⟩ := @inductionHypothesis (expire env xdk ml e).2
      have step : (expire env xdk ml e).2.table = ml.table.filter (fun other =>
            ¬ (other.index = e.index ∧ xdk.removeEntryByIndex e.index = true)) ∧
          (expire env xdk ml e).2.hw = ml.hw.filter (fun slot =>
            ¬ (slot.1 = e.index ∧ xdk.removeEntryByIndex e.index = true)) := by
        cases answer : xdk.removeEntryByIndex e.index with
        | false =>
            rw [expire_of_refused answer]
            constructor
            · exact (List.filter_eq_self.mpr fun _ _ => by simp).symm
            · exact (List.filter_eq_self.mpr fun _ _ => by simp).symm
        | true =>
            rw [expire_of_removed answer, mlearnActionAdd_table, mlearnActionAdd_hw]
            constructor
            · refine List.filter_congr fun other _ => ?_
              rw [Bool.eq_iff_iff]
              simp
            · refine List.filter_congr fun slot _ => ?_
              rw [Bool.eq_iff_iff]
              simp
      constructor
      · refine table.trans ?_
        rw [step.1, List.filter_filter]
        refine List.filter_congr fun other _ => ?_
        rw [← Bool.decide_and, decide_eq_decide, List.map_cons, List.mem_cons]
        grind
      · refine hw.trans ?_
        rw [step.2, List.filter_filter]
        refine List.filter_congr fun slot _ => ?_
        rw [← Bool.decide_and, decide_eq_decide, List.map_cons, List.mem_cons]
        grind

/-- The expiry of an entry records nothing for another index, and nothing at all when
the hardware refuses. -/
theorem trail_expire_other
    {e : MacEntry}
    {index : Nat}
    (untouched : xdk.removeEntryByIndex e.index = true → e.index ≠ index) :
    trail (expire env xdk ml e).2 index = trail ml index := by
  cases answer : xdk.removeEntryByIndex e.index with
  | false => rw [expire_of_refused answer]
  | true =>
      rw [expire_eq answer]
      exact trail_mlearnActionAdd_other (evicted ml e) (Ne.symm (untouched answer))

theorem trail_expireAll_other
    {index : Nat}
    (untouched : ∀ e ∈ entries, xdk.removeEntryByIndex e.index = true → e.index ≠ index) :
    trail (expireAll env xdk ml entries) index = trail ml index := by
  induction entries generalizing ml with
  | nil => rfl
  | cons e entries inductionHypothesis =>
      refine (@inductionHypothesis (expire env xdk ml e).2 fun other member =>
        untouched other (List.mem_cons_of_mem _ member)).trans ?_
      exact trail_expire_other (untouched e List.mem_cons_self)

/-- There is a place for the deletions of some entries: the buffer in use has a free
slot and someone to hand it to, or a free slot for each entry without a node. -/
def RoomFor (env : Env) (xdk : Outcome) (ml : Ml) (entries : List MacEntry) : Prop :=
  if ml.pluginInterface then (currTable ml).actualSize < env.bufferSize
  else (currTable ml).actualSize + (entries.filter fun e =>
    xdk.removeEntryByIndex e.index = true ∧ pending ml e.index = []).length ≤
      env.bufferSize

instance (env : Env) (xdk : Outcome) (ml : Ml) (entries : List MacEntry) :
    Decidable (RoomFor env xdk ml entries) := by
  unfold RoomFor
  infer_instance

namespace RoomFor

variable {e : MacEntry}

/-- An entry that the hardware keeps needs no place. -/
theorem of_refused
    (room : RoomFor env xdk ml (e :: entries))
    (refused : xdk.removeEntryByIndex e.index = false) :
    RoomFor env xdk ml entries := by
  unfold RoomFor at room ⊢
  split
  · rename_i plugin
    rwa [if_pos plugin] at room
  · rename_i noPlugin
    rwa [if_neg noPlugin, List.filter_cons_of_neg (by simp [refused])] at room

theorem takes
    (room : RoomFor env xdk ml (e :: entries))
    (removed : xdk.removeEntryByIndex e.index = true) :
    Takes env ml e.index := by
  unfold RoomFor at room
  split at room
  · exact .inr room
  · by_cases stored : pending ml e.index = []
    · refine .inr ?_
      rw [List.filter_cons_of_pos (by simp [removed, stored]), List.length_cons] at room
      omega
    · exact .inl stored

/-- The deletion of one entry leaves places for the others. -/
theorem of_removed
    (room : RoomFor env xdk ml (e :: entries))
    (removed : xdk.removeEntryByIndex e.index = true)
    (fresh : e.index ∉ entries.map (·.index)) :
    RoomFor env xdk (expire env xdk ml e).2 entries := by
  have takes := room.takes removed
  have samePlugin : (mlearnActionAdd env (evicted ml e) e.fdb e.index e.index
      .del).pluginInterface = ml.pluginInterface :=
    mlearnActionAdd_pluginInterface (evicted ml e)
  rw [expire_eq removed]
  unfold RoomFor at room ⊢
  rw [samePlugin]
  cases plugin : ml.pluginInterface with
  | true =>
      rw [if_pos plugin] at room
      exact @room_mlearnActionAdd env e.fdb e.index e.index .del (evicted ml e) plugin room
  | false =>
      rw [if_neg (by rw [plugin]; decide)] at room
      rw [if_neg (by decide)]
      have current := @currTable_mlearnActionAdd env e.fdb e.index e.index .del
        (evicted ml e) plugin
      have others : entries.filter (fun other =>
          xdk.removeEntryByIndex other.index = true ∧
            pending (mlearnActionAdd env (evicted ml e) e.fdb e.index e.index .del)
              other.index = []) =
          entries.filter fun other =>
            xdk.removeEntryByIndex other.index = true ∧ pending ml other.index = [] := by
        refine List.filter_congr fun other member => ?_
        have different : other.index ≠ e.index := by
          intro same
          exact fresh (List.mem_map.mpr ⟨other, member, same⟩)
        unfold pending
        rw [current, recordEvent_filter_other _ different]
        rfl
      rw [others, current]
      have grown : (recordEvent env (currTable ml) e.fdb e.index e.index .del).actualSize =
          (currTable ml).actualSize + if pending ml e.index = [] then 1 else 0 :=
        recordEvent_actualSize takes
      refine (Nat.add_le_add_right (Nat.le_of_eq grown) _).trans ?_
      by_cases stored : pending ml e.index = []
      · rw [List.filter_cons_of_pos (by simp [removed, stored]), List.length_cons] at room
        rw [if_pos stored]
        omega
      · rw [List.filter_cons_of_neg (by simp [stored])] at room
        rw [if_neg stored]
        omega

theorem perm
    {others : List MacEntry}
    (same : entries.Perm others)
    (room : RoomFor env xdk ml entries) :
    RoomFor env xdk ml others := by
  unfold RoomFor at room ⊢
  rwa [← (same.filter _).length_eq]

end RoomFor

/-- The deletion of an entry that the hardware removes. -/
theorem recorded_expire
    {e : MacEntry}
    (removed : xdk.removeEntryByIndex e.index = true)
    (takes : Takes env ml e.index) :
    Recorded env ml (expire env xdk ml e).2 e .del := by
  obtain ⟨node, reports, hash, front⟩ := @trail_mlearnActionAdd_self env e.fdb e.index .del
    (evicted ml e) takes
  rw [expire_eq removed]
  refine ⟨node, reports, hash, ?_⟩
  by_cases stored : pending ml e.index = []
  · refine .inl (front.trans (congrArg _ ?_))
    show (pending ml e.index).tail ++ delivered ml e.index = trail ml e.index
    unfold trail
    rw [stored]
    rfl
  · refine .inr ⟨stored, front.trans (congrArg _ ?_)⟩
    exact (List.tail_append_of_ne_nil stored).symm

/-- What the first expiry leaves of an index, the others may build on. -/
theorem Recorded.of_expire
    {after : Ml}
    {e other : MacEntry}
    (different : e.index ≠ other.index)
    (recorded : Recorded env (expire env xdk ml e).2 after other .del) :
    Recorded env ml after other .del := by
  obtain ⟨node, reports, hash, front⟩ := recorded
  rw [trail_expire_other fun _ => different] at front
  refine ⟨node, reports, hash, front.imp_right ?_⟩
  rintro ⟨stored, rewritten⟩
  refine ⟨?_, rewritten⟩
  cases answer : xdk.removeEntryByIndex e.index with
  | false => rwa [expire_of_refused answer] at stored
  | true =>
      rw [expire_eq answer] at stored
      exact @pending_mlearnActionAdd_other env e.fdb e.index other.index .del
        (evicted ml e) different.symm stored

/-- The loop records one deletion for each entry that the hardware removes. -/
theorem recorded_expireAll
    (distinct : (entries.map (·.index)).Nodup)
    (room : RoomFor env xdk ml entries) :
    ∀ e ∈ entries, xdk.removeEntryByIndex e.index = true →
      Recorded env ml (expireAll env xdk ml entries) e .del := by
  induction entries generalizing ml with
  | nil =>
      intro e member
      exact absurd member List.not_mem_nil
  | cons first entries inductionHypothesis =>
      obtain ⟨fresh, distinctLater⟩ := List.nodup_cons.mp distinct
      have apart : ∀ e ∈ entries, first.index ≠ e.index := by
        intro e member same
        exact fresh (List.mem_map.mpr ⟨e, member, same.symm⟩)
      have roomLater : RoomFor env xdk (expire env xdk ml first).2 entries := by
        cases answer : xdk.removeEntryByIndex first.index with
        | false =>
            rw [expire_of_refused answer]
            exact room.of_refused answer
        | true => exact room.of_removed answer fresh
      intro e member removed
      rcases List.mem_cons.mp member with rfl | later
      · obtain ⟨node, reports, hash, front⟩ :=
          recorded_expire removed (room.takes removed)
        have kept : trail (expireAll env xdk ml (e :: entries)) e.index =
            trail (expire env xdk ml e).2 e.index :=
          @trail_expireAll_other env xdk (expire env xdk ml e).2 entries e.index
            fun other otherMember _ => Ne.symm (apart other otherMember)
        refine ⟨node, reports, hash, ?_⟩
        rwa [kept]
      · exact (inductionHypothesis distinctLater roomLater e later removed).of_expire
          (apart e later)

end Loop

/-! ## The flush functions -/

/-- Whatever the hardware answers, a flush takes exactly the entries that go out of
both tables.  With a place for them, it records one deletion for each. -/
theorem flushed_run
    {ml : Ml}
    (synced : Synced ml)
    (env : Env)
    (xdk : Outcome)
    (variant : Flush) :
    Flushed xdk variant ml (variant.run env xdk ml) ∧
      (RoomFor env xdk ml (ml.table.filter fun e => variant.Selects e.fdb) →
        DeletionsRecorded env xdk variant ml (variant.run env xdk ml)) := by
  rw [variant.run_eq env xdk ml]
  unfold flushWhere
  have visited := (xdk.order.perm ml.table).filter fun e => decide (variant.Selects e.fdb)
  generalize (xdk.order.visit ml.table).filter
    (fun e => decide (variant.Selects e.fdb)) = entries at visited
  have chosen : ∀ e, e ∈ entries ↔ e ∈ ml.table ∧ variant.Selects e.fdb := by
    intro e
    rw [visited.mem_iff, List.mem_filter, decide_eq_true_iff]
  have listed : ∀ e ∈ ml.table, (e.index ∈ entries.map (·.index) ↔ variant.Selects e.fdb) := by
    intro e member
    rw [List.mem_map]
    constructor
    · rintro ⟨other, otherMember, sameIndex⟩
      obtain ⟨inTable, selected⟩ := (chosen other).mp otherMember
      rwa [← List.inj_on_of_nodup_map synced.indexOnce inTable member sameIndex]
    · intro selected
      exact ⟨e, (chosen e).mpr ⟨member, selected⟩, rfl⟩
  obtain ⟨table, hw⟩ := expireAll_tables env xdk ml entries
  refine ⟨⟨?_, ?_, ?_⟩, ?_⟩
  · rw [table]
    refine List.filter_congr fun e member => decide_eq_decide.mpr (not_congr ?_)
    exact and_congr_left fun _ => listed e member
  · rw [hw]
    refine List.filter_congr fun slot member => decide_eq_decide.mpr (not_congr ?_)
    exact and_congr_left fun _ =>
      listed ⟨slot.1, slot.2⟩ ((synced.same slot.1 slot.2).mp member)
  · intro index untouched
    refine trail_expireAll_other fun e member removed => ?_
    obtain ⟨inTable, selected⟩ := (chosen e).mp member
    exact untouched e inTable ⟨selected, removed⟩
  · intro room e member goes
    have distinct : (entries.map (·.index)).Nodup :=
      (visited.map _).nodup_iff.mpr (synced.indexOnce.sublist (List.filter_sublist.map _))
    exact recorded_expireAll distinct (room.perm visited.symm) e
      ((chosen e).mpr ⟨member, goes.1⟩) goes.2

/-- Two addresses were learned, with or without someone to hand events to. -/
def pairMl (env : Env) (pluginInterface : Bool) : Ml :=
  Transition.run (step env) (macLearningCreate 100 pluginInterface [])
    [⟨sampleLearning .macSaNew 1 1, accepting 5 5⟩,
     ⟨sampleLearning .macSaNew 2 2, accepting 9 9⟩]

/-- A flush of all entries, of which the hardware keeps one. -/
theorem flushed_pairMl :
    Flushed { accepting 0 0 with removeEntryByIndex := (· == 5) } (.all false)
        (pairMl sampleEnv true) ((Flush.all false).run sampleEnv
          { accepting 0 0 with removeEntryByIndex := (· == 5) } (pairMl sampleEnv true)) ∧
      DeletionsRecorded sampleEnv { accepting 0 0 with removeEntryByIndex := (· == 5) }
        (.all false) (pairMl sampleEnv true) ((Flush.all false).run sampleEnv
          { accepting 0 0 with removeEntryByIndex := (· == 5) } (pairMl sampleEnv true)) := by
  have synced : Synced (pairMl sampleEnv true) :=
    Synced.of_eq (by decide) (by decide) (by decide)
  obtain ⟨flushed, recorded⟩ := flushed_run synced sampleEnv
    { accepting 0 0 with removeEntryByIndex := (· == 5) } (.all false)
  exact ⟨flushed, recorded (by decide)⟩

/-- An environment with event buffers of one node. -/
def narrowEnv : Env := { sampleEnv with bufferSize := 1, bufferSizePos := by decide }

/-- Without anyone to hand events to, the buffer is full after the first address, and
the deletion of the second is dropped. -/
theorem not_deletionsRecorded_pairMl :
    Synced (pairMl narrowEnv false) ∧
      ¬ DeletionsRecorded narrowEnv (accepting 0 0) (.all false) (pairMl narrowEnv false)
        ((Flush.all false).run narrowEnv (accepting 0 0) (pairMl narrowEnv false)) := by
  refine ⟨Synced.of_eq (by decide) (by decide) (by decide), ?_⟩
  intro recorded
  have member : ⟨9, (learningData narrowEnv 2 .macSaNew 10 #v[2, 0, 0, 0, 0, 2]).fdb⟩ ∈
      (pairMl narrowEnv false).table := by decide
  obtain ⟨node, _, _, front | ⟨stored, _⟩⟩ := recorded _ member (by decide)
  · have empty : trail ((Flush.all false).run narrowEnv (accepting 0 0)
        (pairMl narrowEnv false)) 9 = [] := by decide
    exact absurd (empty.symm.trans front) (by simp)
  · exact stored (by decide)

end MacLearning
end XpliantSwitchd
