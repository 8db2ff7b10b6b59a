import XpliantSwitchd.MacLearning.Table

/-!
# The hardware FDB holds nothing that the software does not track

As long as the XDK calls succeed, every hardware entry has a software entry at
its index with its address and its interface.  The branches in which the code
recovers from a hardware entry without one are then out of reach.
-/

namespace XpliantSwitchd
namespace MacLearning

/-- Every hardware entry is tracked by a software entry at the same index with
the same address and the same interface. -/
def HwTracked (ml : Ml) : Prop :=
  ∀ slot ∈ ml.hw, ∃ e ∈ ml.table,
    e.index = slot.1 ∧ e.key = slot.2.key ∧ e.fdb.intfId = slot.2.intfId

/-- Neither of the searches that precede a recovery comes back without an
entry: not the one of `ops_xp_mac_learning_insert` after a re-hash, nor the one
of `ops_xp_mac_learning_learn` for an address that moved. -/
structure RecoveryFree (xdk : Outcome) (ml : Ml) : Prop where
  insert : ∀ entry index reHashIndex hw,
    fdbAddEntry xdk ml.hw entry = (some (index, reHashIndex), hw) →
    index ≠ reHashIndex → lookup { ml with hw := hw } index ≠ none
  learnMove : ∀ entry index,
    fdbFindEntry xdk ml.hw entry = .found index → lookup ml index ≠ none

theorem HwTracked.congr {ml ml' : Ml}
    (tracked : HwTracked ml)
    (table : ml'.table = ml.table)
    (hw : ml'.hw = ml.hw) : HwTracked ml' := by
  unfold HwTracked
  rw [table, hw]
  exact tracked

/-- An index of the hardware is found in the software table. -/
theorem HwTracked.lookup_ne_none {ml : Ml} {index : Nat}
    (tracked : HwTracked ml)
    (occupied : index ∈ ml.hw.map Prod.fst) :
    lookup ml index ≠ none := by
  intro missing
  obtain ⟨slot, inHw, rfl⟩ := List.mem_map.mp occupied
  obtain ⟨e, member, sameIndex, _, _⟩ := tracked slot inHw
  exact lookup_none missing e member sameIndex

theorem HwTracked.recoveryFree {ml : Ml} {xdk : Outcome}
    (tracked : HwTracked ml)
    (contract : AddContract xdk ml.hw) : RecoveryFree xdk ml where
  insert := by
    intro entry index reHashIndex hw added different
    unfold fdbAddEntry at added
    cases answer : xdk.addEntry with
    | none =>
        rw [answer] at added
        cases added
    | some indices =>
        rw [answer] at added
        obtain ⟨sameIndices, _⟩ := Prod.mk.injEq .. ▸ added
        rw [sameIndices] at answer
        have allowed := contract index reHashIndex answer
        rw [if_neg different] at allowed
        exact tracked.lookup_ne_none allowed.1
  learnMove := by
    intro entry index found
    obtain ⟨behind, inHw, _⟩ := fdbFindEntry_found found
    exact tracked.lookup_ne_none (List.mem_map_of_mem inHw)

/-! ## Removal -/

theorem HwTracked.expire {ml : Ml} (tracked : HwTracked ml) (env : Env)
    (xdk : Outcome) (e : MacEntry) : HwTracked (expire env xdk ml e).2 := by
  cases answer : xdk.removeEntryByIndex e.index with
  | false =>
      rw [expire_of_refused answer]
      exact tracked
  | true =>
      have removed : HwTracked { ml with
          hw := KeyedList.remove Prod.fst e.index ml.hw
          table := KeyedList.remove (·.index) e.index ml.table } := by
        intro slot inHw
        obtain ⟨older, different⟩ := KeyedList.mem_remove.mp inHw
        obtain ⟨tracking, member, sameIndex, same⟩ := tracked slot older
        refine ⟨tracking, KeyedList.mem_remove.mpr ⟨member, ?_⟩, sameIndex, same⟩
        rw [sameIndex]
        exact different
      rw [expire_of_removed answer]
      exact removed.congr (by simp) (by simp)

theorem HwTracked.expireAll {ml : Ml} (tracked : HwTracked ml) (env : Env)
    (xdk : Outcome) (entries : List MacEntry) :
    HwTracked (expireAll env xdk ml entries) := by
  unfold MacLearning.expireAll
  induction entries generalizing ml with
  | nil => exact tracked
  | cons e entries inductionHypothesis =>
      exact inductionHypothesis (tracked.expire env xdk e)

/-! ## Insertion and move -/

theorem HwTracked.cons {ml : Ml} (tracked : HwTracked ml) (index : Nat)
    (entry : FdbEntry) :
    HwTracked { ml with
      hw := (index, entry) :: ml.hw
      table := ⟨index, entry⟩ :: ml.table } := by
  intro slot inHw
  rcases List.mem_cons.mp inHw with rfl | older
  · exact ⟨⟨index, entry⟩, List.mem_cons_self .., rfl, rfl, rfl⟩
  · obtain ⟨e, member, same⟩ := tracked slot older
    exact ⟨e, List.mem_cons_of_mem _ member, same⟩

theorem HwTracked.relocate {ml : Ml} (tracked : HwTracked ml)
    (index reHashIndex : Nat) :
    HwTracked { ml with
      hw := KeyedList.rewrite Prod.fst index
        (fun slot => (reHashIndex, slot.2)) ml.hw
      table := KeyedList.rewrite (·.index) index
        (fun e => { e with index := reHashIndex }) ml.table } := by
  intro slot inHw
  rcases KeyedList.mem_rewrite.mp inHw with
    ⟨old, oldInHw, selected, rfl⟩ | ⟨oldInHw, different⟩
  · obtain ⟨e, member, sameIndex, same⟩ := tracked old oldInHw
    exact ⟨{ e with index := reHashIndex }, KeyedList.mem_rewrite.mpr
      (.inl ⟨e, member, sameIndex.trans selected, rfl⟩), rfl, same⟩
  · obtain ⟨e, member, sameIndex, same⟩ := tracked slot oldInHw
    refine ⟨e, KeyedList.mem_rewrite.mpr (.inr ⟨member, ?_⟩), sameIndex, same⟩
    rw [sameIndex]
    exact different

theorem HwTracked.insert {ml : Ml} {xdk : Outcome}
    (tracked : HwTracked ml)
    (contract : AddContract xdk ml.hw)
    (env : Env)
    (entry : FdbEntry) :
    HwTracked (insert env xdk ml entry).2 := by
  unfold MacLearning.insert
  split
  · exact tracked
  · unfold fdbAddEntry
    cases added : xdk.addEntry with
    | none => exact tracked
    | some indices =>
        obtain ⟨index, reHashIndex⟩ := indices
        have allowed := contract index reHashIndex added
        simp only
        split
        · rename_i same
          rw [if_pos same] at allowed
          have unmoved : KeyedList.rewrite Prod.fst index
              (fun slot => (reHashIndex, slot.2)) ml.hw = ml.hw := by
            apply KeyedList.rewrite_of_absent
            rintro slot member rfl
            exact allowed (List.mem_map_of_mem member)
          rw [unmoved]
          exact (tracked.cons index entry).congr (by simp [insertEntry])
            (by simp [insertEntry])
        · rename_i different
          rw [if_neg different] at allowed
          split
          · exact ((tracked.relocate index reHashIndex).cons index entry).congr
              (by simp [insertEntry]) (by simp [insertEntry])
          · rename_i missing
            exact absurd missing (tracked.lookup_ne_none allowed.1)

theorem HwTracked.learnMove {ml : Ml} {xdk : Outcome} {entry : FdbEntry}
    (tracked : HwTracked ml)
    (writes : xdk.writeEntry = true)
    (env : Env) :
    HwTracked (learnMove env xdk ml entry).2 := by
  unfold MacLearning.learnMove
  split
  · exact tracked
  · exact tracked
  · rename_i index found
    obtain ⟨behind, behindInHw, _⟩ := fdbFindEntry_found found
    split
    · rename_i missing
      exact absurd missing
        (tracked.lookup_ne_none (List.mem_map_of_mem behindInHw))
    · rename_i updE search
      obtain ⟨updMember, updIndex⟩ := lookup_some search
      have moved : HwTracked { ml with
          hw := KeyedList.rewrite Prod.fst index
            (fun _ => (index, (updE.withIntf entry.intfId).fdb)) ml.hw
          table := KeyedList.rewrite (·.index) index
            (fun _ => updE.withIntf entry.intfId) ml.table } := by
        intro slot inHw
        rcases KeyedList.mem_rewrite.mp inHw with
          ⟨old, oldInHw, selected, rfl⟩ | ⟨oldInHw, different⟩
        · exact ⟨updE.withIntf entry.intfId, KeyedList.mem_rewrite.mpr
            (.inl ⟨updE, updMember, updIndex, rfl⟩), updIndex, rfl, rfl⟩
        · obtain ⟨e, member, sameIndex, same⟩ := tracked slot oldInHw
          refine ⟨e, KeyedList.mem_rewrite.mpr (.inr ⟨member, ?_⟩), sameIndex,
            same⟩
          rw [sameIndex]
          exact different
      simp only [fdbWriteEntry, writes, if_true]
      exact moved.congr (by simp) (by simp)

/-! ## Runs -/

theorem HwTracked.learn {ml : Ml} {data : LearningData} {xdk : Outcome}
    (tracked : HwTracked ml)
    (contract : AddContract xdk ml.hw)
    (writes : xdk.writeEntry = true)
    (env : Env) :
    HwTracked (learn env xdk ml data).2 := by
  have learnNew : ∀ entry, HwTracked (learnNew env xdk ml entry).2 := by
    intro entry
    unfold MacLearning.learnNew
    split
    · exact tracked.insert contract env entry
    · exact tracked
    · exact tracked
  unfold MacLearning.learn
  split
  · exact tracked
  · simp only
    split
    · exact learnNew _
    · exact learnNew _
    · exact tracked.learnMove writes env
    · exact tracked

theorem HwTracked.step {env : Env} {ml : Ml} {operation : Operation}
    (tracked : HwTracked ml)
    (faultless : Faultless ml operation) :
    HwTracked (step env ml operation) := by
  unfold MacLearning.step handle
  cases operation.event with
  | learning ingressVif reasonCode bdId srcMacAddr bufSize =>
      simp only [onLearning]
      split
      · exact tracked
      · exact tracked.learn faultless.add faultless.writes env
  | learn data => exact tracked.learn faultless.add faultless.writes env
  | expire e => exact tracked.expire env _ e
  | aging index =>
      simp only [ageByIndex]
      split
      · exact tracked.expire env _ _
      · exact tracked
  | ageByVlanAndMac vlan macAddr =>
      simp only [ageByVlanAndMac]
      split
      · exact tracked.expire env _ _
      · exact tracked
  | flush dynamicOnly => exact tracked.expireAll env _ _
  | flushIntfId intfId dynamicOnly => exact tracked.expireAll env _ _
  | flushVlan vlanId => exact tracked.expireAll env _ _
  | flushVlanIntf vlanId intfId => exact tracked.expireAll env _ _
  | vlanRemoved vlan => exact tracked.expireAll env _ _
  | portDown intfId => exact tracked.expireAll env _ _
  | vniRemoved vlan vni ifId => exact tracked.expireAll env _ _
  | mlearnTimer => exact tracked.congr (by simp) (by simp)
  | setMaxEntries maxEntries => exact tracked

/-- A new table over an empty FDB. -/
def StartsEmpty (initial : Ml) : Prop :=
  ∃ maxEntries pluginInterface,
    initial = macLearningCreate maxEntries pluginInterface []

theorem StartsEmpty.fdbInv {ml : Ml} (empty : StartsEmpty ml) : FdbInv ml := by
  obtain ⟨maxEntries, pluginInterface, rfl⟩ := empty
  exact macLearningCreate_fdbInv maxEntries pluginInterface
    ⟨List.nodup_nil, List.nodup_nil⟩

theorem StartsEmpty.hwTracked {ml : Ml} (empty : StartsEmpty ml) : HwTracked ml := by
  obtain ⟨maxEntries, pluginInterface, rfl⟩ := empty
  intro slot inHw
  cases inHw

/-- In every run over an empty FDB in which the XDK calls succeed, every
hardware entry is tracked, and the next operation does not get to a
recovery. -/
theorem hwTracked_of_reached {env : Env} {ml : Ml} {operation : Operation}
    (reached : Transition.Reach StartsEmpty Faultless (step env) ml)
    (faultless : Faultless ml operation) :
    HwTracked ml ∧ RecoveryFree operation.xdk ml := by
  have both : FdbInv ml ∧ HwTracked ml := by
    refine Transition.Reach.invariant (fun ml => FdbInv ml ∧ HwTracked ml)
      ?_ ?_ reached
    · intro initial empty
      exact ⟨empty.fdbInv, empty.hwTracked⟩
    · rintro current next ⟨inv, tracked⟩ succeeds
      exact ⟨inv.step succeeds.toAllowed, tracked.step succeeds⟩
  exact ⟨both.2, both.2.recoveryFree faultless.add⟩

/-! ## Concrete operations -/

/-- An address is moved in the hardware, then seen on another interface; the
limit on the entries is changed in between. -/
def roamingRun : List Operation :=
  [⟨sampleLearning .macSaNew 1 1, accepting 5 5⟩,
   ⟨sampleLearning .macSaNew 2 1, accepting 5 9⟩,
   ⟨.setMaxEntries 0, accepting 7 7⟩,
   ⟨sampleLearning .macSaMove 1 3, accepting 7 7⟩]

theorem hwTracked_roamingRun :
    let ml := Transition.run (step sampleEnv) (macLearningCreate 100 true []) roamingRun
    HwTracked ml ∧ RecoveryFree (accepting 9 11) ml := by
  have start : Transition.Reach StartsEmpty Faultless (step sampleEnv)
      (macLearningCreate 100 true []) := .start ⟨100, true, rfl⟩
  have notExpire : ∀ reasonCode low intfId e,
      sampleLearning reasonCode low intfId ≠ .expire e := by
    intro reasonCode low intfId e equal
    cases equal
  have guarded : Transition.Guarded Faultless (step sampleEnv)
      (macLearningCreate 100 true []) roamingRun :=
    ⟨faultless_accepting (notExpire _ _ _) (by decide),
     faultless_accepting (notExpire _ _ _) (by decide),
     faultless_accepting (by rintro e ⟨⟩) (by decide),
     faultless_accepting (notExpire _ _ _) (by decide), trivial⟩
  have succeeds : Faultless
      (Transition.run (step sampleEnv) (macLearningCreate 100 true []) roamingRun)
      ⟨sampleLearning .macSaNew 3 1, accepting 9 11⟩ :=
    faultless_accepting (notExpire _ _ _) (by decide)
  exact hwTracked_of_reached (start.of_run guarded) succeeds

end MacLearning
end XpliantSwitchd
