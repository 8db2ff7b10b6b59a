import Mathlib.Data.List.Perm.Basic
import Mathlib.Logic.Function.Basic

/-!
# A TCAM and its manager

A TCAM compares a packet with all its valid rules at once, and among the rules
that match the one of the highest priority wins.  The manager of a table hands
out entries with a priority, keeps the index at which the rule of each entry is,
and may move rules when entries come and go.  Seen from the outside a table is a
map from entries to priorities and rules: installing and uninstalling a rule
change this map at one entry, wherever the rules are moved.
-/

namespace XpliantSwitchd
namespace Tcam

/-- One table: the priority of each allocated entry, the index of the rule of
each entry, and the rule at each index. -/
structure Table (ρ : Type*) where
  priority : Nat → Option Nat
  place : Nat → Option Nat
  rule : Nat → ρ

variable {ρ : Type*} {valid : ρ → Prop}

namespace Table

/-- The priority and the rule of an allocated entry. -/
def view (table : Table ρ) (id : Nat) : Option (Nat × ρ) :=
  match table.priority id, table.place id with
  | some priority, some index => some (priority, table.rule index)
  | _, _ => none

/-- Write a rule at an index. -/
def write (table : Table ρ) (index : Nat) (rule : ρ) : Table ρ :=
  { table with rule := Function.update table.rule index rule }

@[simp] theorem write_rule_self (table : Table ρ) (index : Nat) (rule : ρ) :
    (table.write index rule).rule index = rule := by
  simp [write]

@[simp] theorem write_rule_of_ne (table : Table ρ) {index other : Nat}
    (different : other ≠ index) (rule : ρ) :
    (table.write index rule).rule other = table.rule other := by
  simp [write, different]

/-- Allocated entries have indices of their own, and every valid rule is at the
index of one. -/
structure Tidy (valid : ρ → Prop) (table : Table ρ) : Prop where
  placed : ∀ id, (table.priority id).isSome → (table.place id).isSome
  apart : ∀ first second index, (table.priority first).isSome →
    (table.priority second).isSome → table.place first = some index →
    table.place second = some index → first = second
  owned : ∀ index, valid (table.rule index) →
    ∃ id, (table.priority id).isSome ∧ table.place id = some index

theorem view_of_place {table : Table ρ} {id priority index : Nat}
    (allocated : table.priority id = some priority)
    (place : table.place id = some index) :
    table.view id = some (priority, table.rule index) := by
  simp [view, allocated, place]

theorem view_eq_some {table : Table ρ} {id : Nat} {item : Nat × ρ} :
    table.view id = some item ↔
      ∃ index, table.priority id = some item.1 ∧ table.place id = some index ∧
        table.rule index = item.2 := by
  obtain ⟨priority, rule⟩ := item
  unfold view
  cases table.priority id with
  | none => simp
  | some current =>
      cases table.place id with
      | none => simp
      | some index => simp

theorem view_of_free {table : Table ρ} {id : Nat}
    (free : table.priority id = none) : table.view id = none := by
  simp [view, free]

end Table

/-- The manager rearranges a table: the rules of the surviving entries move with
them, and no copy of a moved rule stays behind. -/
structure Moves (valid : ρ → Prop) (survives : Nat → Prop)
    (before after : Table ρ) : Prop where
  placed : ∀ id, (after.priority id).isSome → (after.place id).isSome
  apart : ∀ first second index, (after.priority first).isSome →
    (after.priority second).isSome → after.place first = some index →
    after.place second = some index → first = second
  kept : ∀ id, survives id → ∀ index, before.place id = some index →
    ∃ moved, after.place id = some moved ∧ after.rule moved = before.rule index
  noCopies : ∀ index, valid (after.rule index) →
    (∃ id, (after.priority id).isSome ∧ after.place id = some index) ∨
    (valid (before.rule index) ∧ ∀ id, survives id → before.place id ≠ some index)

/-- An entry that was free is allocated with a priority. -/
structure Allocates (valid : ρ → Prop) (before after : Table ρ)
    (id priority : Nat) : Prop where
  fresh : before.priority id = none
  priorities : after.priority = Function.update before.priority id (some priority)
  moves : Moves valid (fun other => (before.priority other).isSome) before after

/-- An allocated entry is freed. -/
structure Frees (valid : ρ → Prop) (before after : Table ρ) (id : Nat) : Prop where
  priorities : after.priority = Function.update before.priority id none
  moves : Moves valid (fun other => (before.priority other).isSome ∧ other ≠ id)
    before after

/-- What a rearrangement does to a surviving entry that keeps its priority. -/
theorem Moves.view_of_survives
    {survives : Nat → Prop} {before after : Table ρ} {id : Nat}
    (moves : Moves valid survives before after)
    (placed : (before.priority id).isSome → (before.place id).isSome)
    (survivesId : (before.priority id).isSome → survives id)
    (samePriority : after.priority id = before.priority id) :
    after.view id = before.view id := by
  cases allocated : before.priority id with
  | none =>
      rw [Table.view_of_free allocated, Table.view_of_free (samePriority.trans allocated)]
  | some priority =>
      have isAllocated : (before.priority id).isSome := by simp [allocated]
      obtain ⟨index, place⟩ := Option.isSome_iff_exists.mp (placed isAllocated)
      obtain ⟨moved, newPlace, sameRule⟩ :=
        moves.kept id (survivesId isAllocated) index place
      rw [Table.view_of_place allocated place,
        Table.view_of_place (samePriority.trans allocated) newPlace, sameRule]

/-- A rule written at the index of an entry changes the view of that entry
only. -/
theorem Table.view_write
    {table : Table ρ} {id index priority : Nat}
    (apart : ∀ other, (table.priority other).isSome →
      table.place other = some index → other = id)
    (allocated : table.priority id = some priority)
    (place : table.place id = some index)
    (rule : ρ) :
    (table.write index rule).view =
      Function.update table.view id (some (priority, rule)) := by
  funext other
  by_cases same : other = id
  · subst same
    rw [Function.update_self]
    have written : (table.write index rule).view other =
        some (priority, (table.write index rule).rule index) :=
      Table.view_of_place allocated place
    rw [written, Table.write_rule_self]
  · rw [Function.update_of_ne same]
    unfold Table.view Table.write
    cases otherAllocated : table.priority other with
    | none => rfl
    | some otherPriority =>
        cases otherPlace : table.place other with
        | none => rfl
        | some otherIndex =>
            have different : otherIndex ≠ index := by
              rintro rfl
              exact same (apart other (by simp [otherAllocated]) otherPlace)
            simp [Function.update_of_ne different]

/-- Allocating an entry and writing its rule installs the rule. -/
theorem Allocates.install
    {before after : Table ρ} {id priority index : Nat}
    (allocates : Allocates valid before after id priority)
    (tidy : before.Tidy valid)
    (place : after.place id = some index)
    (rule : ρ) :
    (after.write index rule).Tidy valid ∧
      (after.write index rule).view =
        Function.update before.view id (some (priority, rule)) := by
  have moves := allocates.moves
  have allocated : after.priority id = some priority := by
    rw [allocates.priorities, Function.update_self]
  have isAllocated : (after.priority id).isSome := by simp [allocated]
  constructor
  · refine ⟨moves.placed, moves.apart, ?_⟩
    intro other isValid
    by_cases same : other = index
    · subst same
      exact ⟨id, isAllocated, place⟩
    · rw [Table.write_rule_of_ne after same] at isValid
      rcases moves.noCopies other isValid with owned | ⟨wasValid, unowned⟩
      · exact owned
      · obtain ⟨owner, ownerAllocated, ownerPlace⟩ := tidy.owned other wasValid
        exact absurd ownerPlace (unowned owner ownerAllocated)
  · have alone : ∀ other, (after.priority other).isSome →
        after.place other = some index → other = id := by
      intro other otherAllocated otherPlace
      exact moves.apart other id index otherAllocated isAllocated otherPlace place
    rw [Table.view_write alone allocated place]
    funext other
    by_cases same : other = id
    · subst same
      simp
    · rw [Function.update_of_ne same, Function.update_of_ne same]
      refine moves.view_of_survives (tidy.placed other) (fun survives => survives) ?_
      rw [allocates.priorities, Function.update_of_ne same]

/-- Writing a rule that is not valid at the index of an entry and freeing the
entry uninstalls its rule. -/
theorem Frees.uninstall
    {before after : Table ρ} {id index : Nat} {blank : ρ}
    (frees : Frees valid (before.write index blank) after id)
    (tidy : before.Tidy valid)
    (allocated : (before.priority id).isSome)
    (place : before.place id = some index)
    (isBlank : ¬valid blank) :
    after.Tidy valid ∧ after.view = Function.update before.view id none := by
  have moves := frees.moves
  have priorities : after.priority = Function.update before.priority id none :=
    frees.priorities
  constructor
  · refine ⟨moves.placed, moves.apart, ?_⟩
    intro other isValid
    rcases moves.noCopies other isValid with owned | ⟨wasValid, unowned⟩
    · exact owned
    · have different : other ≠ index := by
        rintro rfl
        rw [Table.write_rule_self] at wasValid
        exact isBlank wasValid
      rw [Table.write_rule_of_ne before different] at wasValid
      obtain ⟨owner, ownerAllocated, ownerPlace⟩ := tidy.owned other wasValid
      have notFreed : owner ≠ id := by
        rintro rfl
        rw [place] at ownerPlace
        exact different (Option.some.inj ownerPlace).symm
      exact absurd ownerPlace (unowned owner ⟨ownerAllocated, notFreed⟩)
  · funext other
    by_cases same : other = id
    · subst same
      rw [Function.update_self]
      apply Table.view_of_free
      rw [priorities, Function.update_self]
    · rw [Function.update_of_ne same]
      have moved : after.view other = (before.write index blank).view other := by
        refine moves.view_of_survives (tidy.placed other)
          (fun allocated => ⟨allocated, same⟩) ?_
        rw [priorities, Function.update_of_ne same]
        rfl
      obtain ⟨priority, isPriority⟩ := Option.isSome_iff_exists.mp allocated
      have alone : ∀ owner, (before.priority owner).isSome →
          before.place owner = some index → owner = id := by
        intro owner ownerAllocated ownerPlace
        exact tidy.apart owner id index ownerAllocated allocated ownerPlace place
      rw [moved, Table.view_write alone isPriority place, Function.update_of_ne same]

/-! ## Tables as lists of rules -/

/-- A view given by a list of entries with their priorities and rules. -/
structure Represents (view : Nat → Option (Nat × ρ))
    (items : List (Nat × Nat × ρ)) : Prop where
  once : (items.map (·.1)).Nodup
  exact : ∀ id item, view id = some item ↔ (id, item) ∈ items

namespace Represents

variable {view : Nat → Option (Nat × ρ)} {items : List (Nat × Nat × ρ)}

theorem perm {other : List (Nat × Nat × ρ)}
    (represents : Represents view items)
    (reordered : other.Perm items) : Represents view other where
  once := (reordered.map _).nodup_iff.mpr represents.once
  exact := fun id item =>
    (represents.exact id item).trans reordered.mem_iff.symm

/-- A new entry is one more item. -/
theorem cons
    (represents : Represents view items)
    {id : Nat}
    (free : view id = none)
    (item : Nat × ρ) :
    Represents (Function.update view id (some item)) ((id, item) :: items) where
  once := by
    rw [List.map_cons, List.nodup_cons]
    refine ⟨?_, represents.once⟩
    intro member
    obtain ⟨⟨_, other⟩, otherMember, rfl⟩ := List.mem_map.mp member
    rw [(represents.exact _ other).mpr otherMember] at free
    cases free
  exact := by
    intro other current
    by_cases same : other = id
    · subst same
      have absent : ∀ value, (other, value) ∉ items := by
        intro value member
        rw [(represents.exact other value).mpr member] at free
        cases free
      simp [absent, eq_comm]
    · rw [Function.update_of_ne same, represents.exact]
      simp [same]

/-- A freed entry is one item less. -/
theorem tail
    {id : Nat} {item : Nat × ρ}
    (represents : Represents view ((id, item) :: items)) :
    Represents (Function.update view id none) items where
  once := (List.nodup_cons.mp represents.once).2
  exact := by
    intro other current
    by_cases same : other = id
    · subst same
      have absent := (List.nodup_cons.mp represents.once).1
      simp only [Function.update_self, reduceCtorEq, false_iff]
      intro member
      exact absent (List.mem_map.mpr ⟨_, member, rfl⟩)
    · rw [Function.update_of_ne same, represents.exact]
      simp [same]

end Represents

/-- A rule wins among the candidates: its entry has the highest priority. -/
def Wins (table : Table ρ) (candidate : ρ → Prop) (rule : ρ) : Prop :=
  ∃ id priority, table.view id = some (priority, rule) ∧ candidate rule ∧
    ∀ other otherPriority otherRule, other ≠ id →
      table.view other = some (otherPriority, otherRule) → candidate otherRule →
      otherPriority < priority

/-- One rule at most wins. -/
theorem Wins.unique
    {table : Table ρ} {candidate : ρ → Prop} {rule otherRule : ρ}
    (wins : Wins table candidate rule)
    (otherWins : Wins table candidate otherRule) : rule = otherRule := by
  obtain ⟨id, priority, known, isCandidate, highest⟩ := wins
  obtain ⟨other, otherPriority, otherKnown, otherCandidate, otherHighest⟩ := otherWins
  by_cases same : id = other
  · subst same
    rw [known] at otherKnown
    exact congrArg Prod.snd (Option.some.inj otherKnown)
  · have below := highest other otherPriority otherRule (Ne.symm same) otherKnown
      otherCandidate
    have above := otherHighest id priority rule same known isCandidate
    omega

/-- What a table answers to a lookup: the candidate that wins, or nothing when there
is none. -/
def Answers (table : Table ρ) (candidate : ρ → Prop) : Option ρ → Prop
  | some rule => Wins table candidate rule
  | none => ∀ id priority rule, table.view id = some (priority, rule) → ¬candidate rule

theorem Answers.unique
    {table : Table ρ} {candidate : ρ → Prop} {answer otherAnswer : Option ρ}
    (answers : Answers table candidate answer)
    (otherAnswers : Answers table candidate otherAnswer) : answer = otherAnswer := by
  cases answer with
  | none =>
      cases otherAnswer with
      | none => rfl
      | some rule =>
          obtain ⟨id, priority, known, isCandidate, _⟩ := otherAnswers
          exact absurd isCandidate (answers id priority rule known)
  | some rule =>
      cases otherAnswer with
      | none =>
          obtain ⟨id, priority, known, isCandidate, _⟩ := answers
          exact absurd isCandidate (otherAnswers id priority rule known)
      | some otherRule => exact congrArg some (Wins.unique answers otherAnswers)

/-- A lookup depends on which of the rules of the table are candidates. -/
theorem Answers.congr
    {table : Table ρ} {candidate other : ρ → Prop} {answer : Option ρ}
    (answers : Answers table candidate answer)
    (agree : ∀ id priority rule, table.view id = some (priority, rule) →
      (candidate rule ↔ other rule)) : Answers table other answer := by
  cases answer with
  | none =>
      intro id priority rule known isOther
      exact answers id priority rule known ((agree id priority rule known).mpr isOther)
  | some rule =>
      obtain ⟨id, priority, known, isCandidate, highest⟩ := answers
      refine ⟨id, priority, known, (agree id priority rule known).mp isCandidate, ?_⟩
      intro rival rivalPriority rivalRule different rivalKnown isOther
      exact highest rival rivalPriority rivalRule different rivalKnown
        ((agree rival rivalPriority rivalRule rivalKnown).mpr isOther)

section Lists

variable {table : Table ρ} {own others : List (Nat × Nat × ρ)}
  {candidate : ρ → Prop}

/-- When a list of rules has decreasing priorities and no other rule is a
candidate, the first candidate of the list wins. -/
theorem wins_of_first
    {first last : List (Nat × Nat × ρ)} {id priority : Nat} {rule : ρ}
    (represents : Represents table.view
      (first ++ (id, priority, rule) :: last ++ others))
    (decreasing : ∀ item ∈ last, item.2.1 < priority)
    (isCandidate : candidate rule)
    (noneBefore : ∀ item ∈ first, ¬candidate item.2.2)
    (noOther : ∀ item ∈ others, ¬candidate item.2.2) :
    Wins table candidate rule := by
  refine ⟨id, priority, ?_, isCandidate, ?_⟩
  · exact (represents.exact id (priority, rule)).mpr (by simp)
  · intro other otherPriority otherRule different known otherCandidate
    have member := (represents.exact other (otherPriority, otherRule)).mp known
    rcases List.mem_append.mp member with inList | inOthers
    · rcases List.mem_append.mp inList with inFirst | inRest
      · exact absurd otherCandidate (noneBefore _ inFirst)
      · rcases List.mem_cons.mp inRest with same | inLast
        · cases same
          exact absurd rfl different
        · exact decreasing _ inLast
    · exact absurd otherCandidate (noOther _ inOthers)

/-- When the valid rules that are candidates are those of a list, they are at
indices of their own, one for each item of the list. -/
theorem candidates_of_list
    (tidy : table.Tidy valid)
    (represents : Represents table.view (own ++ others))
    (ownCandidates : ∀ item ∈ own, valid item.2.2 ∧ candidate item.2.2)
    (noOther : ∀ item ∈ others, ¬candidate item.2.2) :
    ∃ indices : List Nat, indices.Nodup ∧
      (∀ index, index ∈ indices ↔
        valid (table.rule index) ∧ candidate (table.rule index)) ∧
      indices.map table.rule = own.map (·.2.2) := by
  have located : ∀ item ∈ own, ∃ index, table.priority item.1 = some item.2.1 ∧
      table.place item.1 = some index ∧ table.rule index = item.2.2 := by
    intro item member
    exact Table.view_eq_some.mp ((represents.exact item.1 item.2).mpr
      (List.mem_append_left _ member))
  refine ⟨own.map fun item => (table.place item.1).getD 0, ?_, ?_, ?_⟩
  · have ownOnce : (own.map (·.1)).Nodup := by
      have once := represents.once
      rw [List.map_append] at once
      exact (List.nodup_append.mp once).1
    rw [List.Nodup, List.pairwise_map] at ownOnce ⊢
    refine ownOnce.imp_of_mem ?_
    intro first second firstMember secondMember different same
    obtain ⟨index, allocated, place, _⟩ := located first firstMember
    obtain ⟨otherIndex, otherAllocated, otherPlace, _⟩ := located second secondMember
    rw [place, otherPlace] at same
    simp only [Option.getD_some] at same
    rw [← same] at otherPlace
    exact different (tidy.apart _ _ index (by simp [allocated])
      (by simp [otherAllocated]) place otherPlace)
  · intro index
    constructor
    · intro member
      obtain ⟨item, itemMember, rfl⟩ := List.mem_map.mp member
      obtain ⟨place, _, known, sameRule⟩ := located item itemMember
      rw [known, Option.getD_some, sameRule]
      exact ownCandidates item itemMember
    · rintro ⟨isValid, isCandidate⟩
      obtain ⟨id, isAllocated, place⟩ := tidy.owned index isValid
      obtain ⟨priority, allocated⟩ := Option.isSome_iff_exists.mp isAllocated
      have member := (represents.exact id _).mp (Table.view_of_place allocated place)
      rcases List.mem_append.mp member with inOwn | inOthers
      · exact List.mem_map.mpr ⟨_, inOwn, by simp [place]⟩
      · exact absurd isCandidate (noOther _ inOthers)
  · rw [List.map_map]
    apply List.map_congr_left
    intro item member
    obtain ⟨index, _, place, sameRule⟩ := located item member
    simp [place, sameRule]

end Lists

end Tcam
end XpliantSwitchd
