import Mathlib.Logic.Function.Basic
import Mathlib.Data.List.Nodup

/-!
# Rosters

A roster says which groups exist and gives each member of a group a label.  A
group that does not exist has no members.  The module describes the changes of a
roster one pair at a time, and what a loop of joins or of leaves does.
-/

namespace XpliantSwitchd

/-- The members of the existing groups with their labels. -/
@[ext] structure Roster (Group Member Label : Type*) where
  /-- The groups that exist. -/
  exist : Group → Bool
  /-- The label of a member. -/
  label : Group → Member → Option Label
  /-- Only a group that exists has members. -/
  closed : ∀ group, exist group = false → ∀ member, label group member = none

namespace Roster

variable {Group Member Label : Type*} [DecidableEq Group] [DecidableEq Member]
  (roster : Roster Group Member Label)

/-- A new member joins a group that exists; a member keeps its label. -/
def join (group : Group) (member : Member) (tag : Label) :
    Roster Group Member Label where
  exist := roster.exist
  label other peer :=
    if other = group ∧ peer = member ∧ roster.exist group then
      some ((roster.label group member).getD tag)
    else roster.label other peer
  closed := by
    intro other missing peer
    split
    · rename_i same
      rw [same.1, same.2.2] at missing
      contradiction
    · exact roster.closed other missing peer

/-- A member leaves a group. -/
def leave (group : Group) (member : Member) : Roster Group Member Label where
  exist := roster.exist
  label other peer :=
    if other = group ∧ peer = member then none else roster.label other peer
  closed := by
    intro other missing peer
    split
    · rfl
    · exact roster.closed other missing peer

/-- A member leaves every group. -/
def leaveAll (member : Member) : Roster Group Member Label where
  exist := roster.exist
  label other peer := if peer = member then none else roster.label other peer
  closed := by
    intro other missing peer
    split
    · rfl
    · exact roster.closed other missing peer

/-- A group comes into being, without members. -/
def found (group : Group) : Roster Group Member Label where
  exist other := if other = group then true else roster.exist other
  label := roster.label
  closed := by
    intro other missing peer
    apply roster.closed
    split at missing
    · contradiction
    · exact missing

/-- A group ends. -/
def dissolve (group : Group) : Roster Group Member Label where
  exist other := if other = group then false else roster.exist other
  label other peer := if other = group then none else roster.label other peer
  closed := by
    intro other missing peer
    split
    · rfl
    · rename_i different
      rw [if_neg different] at missing
      exact roster.closed other missing peer

variable {roster} {group other : Group} {member peer : Member} {tag : Label}

@[simp] theorem join_exist : (roster.join group member tag).exist = roster.exist := rfl

@[simp] theorem leave_exist : (roster.leave group member).exist = roster.exist := rfl

omit [DecidableEq Group] in
@[simp] theorem leaveAll_exist : (roster.leaveAll member).exist = roster.exist := rfl

@[simp] theorem leave_label_self : (roster.leave group member).label group member = none :=
  if_pos ⟨rfl, rfl⟩

omit [DecidableEq Group] [DecidableEq Member] in
/-- A group with a member exists. -/
theorem exist_of_label (labelled : (roster.label group member).isSome = true) :
    roster.exist group = true := by
  by_contra missing
  rw [Bool.not_eq_true] at missing
  rw [roster.closed group missing] at labelled
  cases labelled

theorem join_label_self (present : roster.exist group = true) :
    (roster.join group member tag).label group member =
      some ((roster.label group member).getD tag) :=
  if_pos ⟨rfl, rfl, present⟩

theorem join_label_of_ne (different : other ≠ group ∨ peer ≠ member) :
    (roster.join group member tag).label other peer = roster.label other peer := by
  refine if_neg ?_
  rintro ⟨rfl, rfl, _⟩
  simp at different

theorem leave_label_of_ne (different : other ≠ group ∨ peer ≠ member) :
    (roster.leave group member).label other peer = roster.label other peer := by
  refine if_neg ?_
  rintro ⟨rfl, rfl⟩
  simp at different

/-- Leaving a group one is not in changes nothing. -/
theorem leave_of_absent (absent : roster.label group member = none) :
    roster.leave group member = roster := by
  ext other peer : 3
  · rfl
  · simp only [leave]
    split
    · rename_i same
      rw [same.1, same.2, absent]
    · rfl

/-- Joining a group one is in, or one that does not exist, changes nothing. -/
theorem join_of_settled
    (settled : roster.exist group = false ∨ roster.label group member ≠ none) :
    roster.join group member tag = roster := by
  ext other peer : 3
  · rfl
  · simp only [join]
    split
    · rename_i same
      obtain ⟨rfl, rfl, present⟩ := same
      rcases settled with missing | known
      · rw [present] at missing
        contradiction
      · obtain ⟨old, known⟩ := Option.ne_none_iff_exists'.mp known
        rw [known]
        rfl
    · rfl

end Roster

end XpliantSwitchd
