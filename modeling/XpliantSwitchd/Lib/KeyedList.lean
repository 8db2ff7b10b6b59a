import Mathlib.Data.List.Nodup
import Mathlib.Data.List.Perm.Basic

/-!
# Lists of records with unique keys

A table is kept as a list of records whose keys are pairwise distinct.  The
lemmas of this module describe the two ways a table changes one record: the
record with a given key is rewritten, or it is removed.
-/

namespace XpliantSwitchd
namespace KeyedList

variable {α κ : Type*} [DecidableEq κ] (key : α → κ)

/-- Rewrite the record with a given key. -/
def rewrite (target : κ) (change : α → α) (records : List α) : List α :=
  records.map fun record => if key record = target then change record else record

/-- Remove the record with a given key. -/
def remove (target : κ) (records : List α) : List α :=
  records.filter fun record => key record != target

variable {key} {records : List α} {target : κ} {change : α → α}

theorem mem_rewrite {record : α} :
    record ∈ rewrite key target change records ↔
      (∃ old ∈ records, key old = target ∧ record = change old) ∨
        (record ∈ records ∧ key record ≠ target) := by
  unfold rewrite
  constructor
  · intro member
    obtain ⟨old, oldMember, equation⟩ := List.mem_map.mp member
    by_cases selected : key old = target
    · rw [if_pos selected] at equation
      exact .inl ⟨old, oldMember, selected, equation.symm⟩
    · rw [if_neg selected] at equation
      subst equation
      exact .inr ⟨oldMember, selected⟩
  · rintro (⟨old, oldMember, selected, rfl⟩ | ⟨member, different⟩)
    · exact List.mem_map.mpr ⟨old, oldMember, by rw [if_pos selected]⟩
    · exact List.mem_map.mpr ⟨record, member, by rw [if_neg different]⟩

theorem mem_remove {record : α} :
    record ∈ remove key target records ↔
      record ∈ records ∧ key record ≠ target := by
  simp [remove]

/-- A rewrite keeps the list of values of every field that it does not
touch. -/
theorem map_rewrite
    {β : Type*} {field : α → β}
    (keeps : ∀ record ∈ records, key record = target →
      field (change record) = field record) :
    (rewrite key target change records).map field = records.map field := by
  unfold rewrite
  rw [List.map_map]
  apply List.map_congr_left
  intro record member
  by_cases selected : key record = target
  · simp [selected, keeps record member selected]
  · simp [selected]

/-- A rewrite seen through a view of the records that has their keys. -/
theorem map_rewrite_view
    {β : Type*} {view : α → β} {viewKey : β → κ} {viewChange : β → β}
    (keys : ∀ record, viewKey (view record) = key record)
    (commutes : ∀ record, view (change record) = viewChange (view record)) :
    (rewrite key target change records).map view =
      rewrite viewKey target viewChange (records.map view) := by
  unfold rewrite
  rw [List.map_map, List.map_map]
  apply List.map_congr_left
  intro record _
  simp only [Function.comp_apply, keys]
  split
  · exact commutes record
  · rfl

theorem map_remove_view
    {β : Type*} {view : α → β} {viewKey : β → κ}
    (keys : ∀ record, viewKey (view record) = key record) :
    (remove key target records).map view =
      remove viewKey target (records.map view) := by
  unfold remove
  rw [List.filter_map]
  refine congrArg _ (List.filter_congr fun record _ => ?_)
  simp only [Function.comp_apply, keys]

/-- A rewrite that gives the record a new key leaves the others alone. -/
theorem map_key_rekey
    {fresh : κ}
    (rekeys : ∀ record, key (change record) = fresh) :
    (rewrite key target change records).map key =
      (records.map key).map fun other => if other = target then fresh else other := by
  unfold rewrite
  rw [List.map_map, List.map_map]
  apply List.map_congr_left
  intro record _
  by_cases selected : key record = target
  · simp [selected, rekeys]
  · simp [selected]

/-- Keys stay unique when a record moves to a key that was not in use. -/
theorem nodup_rekey
    {fresh : κ}
    (rekeys : ∀ record, key (change record) = fresh)
    (nodup : (records.map key).Nodup)
    (unused : fresh ∉ records.map key) :
    ((rewrite key target change records).map key).Nodup := by
  rw [map_key_rekey rekeys]
  refine nodup.map_on ?_
  intro left leftMember right rightMember equal
  by_cases leftSelected : left = target
  · by_cases rightSelected : right = target
    · rw [leftSelected, rightSelected]
    · rw [if_pos leftSelected, if_neg rightSelected] at equal
      exact absurd (equal ▸ rightMember) unused
  · by_cases rightSelected : right = target
    · rw [if_neg leftSelected, if_pos rightSelected] at equal
      exact absurd (equal ▸ leftMember) unused
    · rwa [if_neg leftSelected, if_neg rightSelected] at equal

/-- After a move, the old key is free. -/
theorem not_mem_rekey
    {fresh : κ}
    (rekeys : ∀ record, key (change record) = fresh)
    (different : fresh ≠ target) :
    target ∉ (rewrite key target change records).map key := by
  rw [map_key_rekey rekeys]
  intro member
  obtain ⟨other, _, equation⟩ := List.mem_map.mp member
  by_cases selected : other = target
  · rw [if_pos selected] at equation
    exact different equation
  · rw [if_neg selected] at equation
    exact selected equation

theorem nodup_remove (nodup : (records.map key).Nodup) :
    ((remove key target records).map key).Nodup :=
  nodup.sublist (List.Sublist.map key List.filter_sublist)

/-- A search by key finds the record exactly when it is there. -/
theorem find?_key_eq_some
    (nodup : (records.map key).Nodup)
    {record : α} :
    records.find? (fun candidate => key candidate == target) = some record ↔
      record ∈ records ∧ key record = target := by
  constructor
  · intro found
    exact ⟨List.mem_of_find?_eq_some found, by simpa using List.find?_some found⟩
  · rintro ⟨member, rfl⟩
    cases found : records.find? fun candidate => key candidate == key record with
    | none =>
        have absent := List.find?_eq_none.mp found record member
        simp at absent
    | some other =>
        have otherMember := List.mem_of_find?_eq_some found
        have otherKey : key other = key record := by
          simpa using List.find?_some found
        rw [List.inj_on_of_nodup_map nodup otherMember member otherKey]

/-- Erasing the first record that passes a test takes out what a search for it
finds. -/
theorem perm_cons_eraseP
    {test : α → Bool}
    {record : α}
    (found : records.find? test = some record) :
    records.Perm (record :: records.eraseP test) := by
  obtain ⟨passes, before, after, rfl, fails⟩ :=
    List.find?_eq_some_iff_append.mp found
  have skipped : ∀ other ∈ before, ¬ test other = true := by
    intro other member
    simpa using fails other member
  rw [List.eraseP_append_right _ skipped, List.eraseP_cons_of_pos passes]
  exact List.perm_middle

/-- Erasing a record leaves a search alone that the record does not pass. -/
theorem find?_eraseP_of_ne
    {test other : α → Bool}
    (different : ∀ record, other record = true → test record = false) :
    (records.eraseP test).find? other = records.find? other := by
  induction records with
  | nil => rfl
  | cons record records inductionHypothesis =>
      by_cases passes : test record = true
      · have fails : other record = false := by
          by_contra accepted
          rw [different record (by simpa using accepted)] at passes
          contradiction
        rw [List.eraseP_cons_of_pos passes, List.find?_cons, fails]
      · rw [List.eraseP_cons_of_neg passes, List.find?_cons, List.find?_cons,
          inductionHypothesis]

theorem remove_of_absent (absent : ∀ record ∈ records, key record ≠ target) :
    remove key target records = records := by
  unfold remove
  rw [List.filter_eq_self]
  intro record member
  simpa using absent record member

/-- With unique keys, erasing the first record with a key removes the key. -/
theorem eraseP_eq_remove (nodup : (records.map key).Nodup) :
    records.eraseP (fun record => key record == target) =
      remove key target records := by
  induction records with
  | nil => rfl
  | cons record records inductionHypothesis =>
      rw [List.map_cons, List.nodup_cons] at nodup
      obtain ⟨fresh, distinct⟩ := nodup
      by_cases selected : key record = target
      · have absent : ∀ other ∈ records, key other ≠ target := by
          intro other member equal
          apply fresh
          rw [selected, ← equal]
          exact List.mem_map_of_mem member
        rw [List.eraseP_cons_of_pos (by simpa using selected)]
        refine (remove_of_absent absent).symm.trans ?_
        exact (List.filter_cons_of_neg (by simpa using selected)).symm
      · rw [List.eraseP_cons_of_neg (by simpa using selected),
          inductionHypothesis distinct]
        exact (List.filter_cons_of_pos (by simpa using selected)).symm

theorem rewrite_of_absent (absent : ∀ record ∈ records, key record ≠ target) :
    rewrite key target change records = records := by
  unfold rewrite
  conv_rhs => rw [← List.map_id records]
  apply List.map_congr_left
  intro record member
  simp [absent record member]

/-- A rewrite that undoes another one. -/
theorem rewrite_undo
    {undo : α → α}
    (keeps : ∀ record, key (change record) = key record)
    (undoes : ∀ record, undo (change record) = record) :
    rewrite key target undo (rewrite key target change records) = records := by
  unfold rewrite
  rw [List.map_map]
  conv_rhs => rw [← List.map_id records]
  apply List.map_congr_left
  intro record _
  by_cases selected : key record = target
  · simp [selected, keeps, undoes]
  · simp [selected]

/-- Two rewrites of one record are one. -/
theorem rewrite_rewrite
    {again : α → α}
    (keeps : ∀ record, key record = target → key (change record) = target) :
    rewrite key target again (rewrite key target change records) =
      rewrite key target (again ∘ change) records := by
  unfold rewrite
  rw [List.map_map]
  apply List.map_congr_left
  intro record _
  by_cases selected : key record = target
  · simp [selected, keeps record selected]
  · simp [selected]

/-- What is written to a record that is removed does not matter. -/
theorem remove_rewrite (keeps : ∀ record, key record = target → key (change record) = target) :
    remove key target (rewrite key target change records) = remove key target records := by
  unfold remove rewrite
  induction records with
  | nil => rfl
  | cons record records inductionHypothesis =>
      rw [List.map_cons]
      by_cases selected : key record = target
      · rw [if_pos selected, List.filter_cons_of_neg (by simp [keeps record selected]),
          List.filter_cons_of_neg (by simp [selected]), inductionHypothesis]
      · rw [if_neg selected, List.filter_cons_of_pos (by simpa using selected),
          List.filter_cons_of_pos (by simpa using selected), inductionHypothesis]

/-- A record in front of the others. -/
theorem perm_cons_remove
    (nodup : (records.map key).Nodup)
    {record : α}
    (member : record ∈ records)
    (selected : key record = target) :
    records.Perm (record :: remove key target records) := by
  obtain ⟨before, after, rfl⟩ := List.append_of_mem member
  have others : ∀ other ∈ before ++ after, key other ≠ target := by
    intro other otherMember equal
    have reordered := (List.perm_middle.map key).nodup_iff.mp nodup
    rw [List.map_cons, List.nodup_cons] at reordered
    apply reordered.1
    rw [selected, ← equal]
    exact List.mem_map_of_mem otherMember
  have kept : remove key target (before ++ record :: after) = before ++ after := by
    have dropped : remove key target (before ++ record :: after) =
        remove key target (before ++ after) := by
      simp [remove, List.filter_append, selected]
    rw [dropped, remove_of_absent others]
  rw [kept]
  exact List.perm_middle

/-- A rewritten record in front of the others. -/
theorem rewrite_perm
    (nodup : (records.map key).Nodup)
    {record : α}
    (member : record ∈ records)
    (selected : key record = target)
    (change : α → α) :
    (rewrite key target change records).Perm
      (change record :: remove key target records) := by
  have reordered := (perm_cons_remove nodup member selected).map
    fun other => if key other = target then change other else other
  have others : rewrite key target change (remove key target records) =
      remove key target records := by
    apply rewrite_of_absent
    intro other otherMember
    exact (mem_remove.mp otherMember).2
  rw [List.map_cons, if_pos selected] at reordered
  unfold rewrite at others ⊢
  rwa [others] at reordered

/-- Counting after one record was rewritten. -/
theorem countP_rewrite
    (nodup : (records.map key).Nodup)
    {record : α}
    (member : record ∈ records)
    (selected : key record = target)
    (change : α → α)
    (test : α → Bool) :
    (rewrite key target change records).countP test +
        (if test record then 1 else 0) =
      records.countP test + if test (change record) then 1 else 0 := by
  induction records with
  | nil => simp at member
  | cons head tail inductionHypothesis =>
      have headFresh : ∀ other ∈ tail, key other ≠ key head := by
        intro other otherMember equal
        have distinct := (List.nodup_cons.mp nodup).1
        exact distinct (equal ▸ List.mem_map_of_mem otherMember)
      rcases List.mem_cons.mp member with rfl | inTail
      · have unchanged : rewrite key target change tail = tail := by
          apply rewrite_of_absent
          intro other otherMember
          rw [← selected]
          exact headFresh other otherMember
        have unfolded : rewrite key target change (record :: tail) =
            change record :: tail := by
          conv_rhs => rw [← unchanged]
          simp [rewrite, selected]
        rw [unfolded, List.countP_cons, List.countP_cons]
        omega
      · have different : key head ≠ target := by
          rw [← selected]
          exact (headFresh record inTail).symm
        have unfolded : rewrite key target change (head :: tail) =
            head :: rewrite key target change tail := by
          simp [rewrite, different]
        have tailCount := inductionHypothesis (List.nodup_cons.mp nodup).2 inTail
        rw [unfolded, List.countP_cons, List.countP_cons]
        omega

/-- Counting after one record was removed. -/
theorem countP_remove
    (nodup : (records.map key).Nodup)
    {record : α}
    (member : record ∈ records)
    (selected : key record = target)
    (test : α → Bool) :
    (remove key target records).countP test + (if test record then 1 else 0) =
      records.countP test := by
  induction records with
  | nil => simp at member
  | cons head tail inductionHypothesis =>
      have headFresh : ∀ other ∈ tail, key other ≠ key head := by
        intro other otherMember equal
        have distinct := (List.nodup_cons.mp nodup).1
        exact distinct (equal ▸ List.mem_map_of_mem otherMember)
      rcases List.mem_cons.mp member with rfl | inTail
      · have unchanged : remove key target tail = tail := by
          apply remove_of_absent
          intro other otherMember
          rw [← selected]
          exact headFresh other otherMember
        have unfolded : remove key target (record :: tail) = tail := by
          conv_rhs => rw [← unchanged]
          simp [remove, selected]
        rw [unfolded, List.countP_cons]
      · have different : key head ≠ target := by
          rw [← selected]
          exact (headFresh record inTail).symm
        have unfolded : remove key target (head :: tail) =
            head :: remove key target tail := by
          simp [remove, different]
        have tailCount := inductionHypothesis (List.nodup_cons.mp nodup).2 inTail
        rw [unfolded, List.countP_cons, List.countP_cons]
        omega

end KeyedList
end XpliantSwitchd
