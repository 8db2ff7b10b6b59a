import XpliantSwitchd.Lib.KeyedList
import Mathlib.Logic.Function.Basic
import Mathlib.Data.List.Nodup

/-!
# Lists with back links

An assignment of items to groups is often kept twice: each item points to its
group, and each group lists its items.  The module describes the changes of such
a pair, when the two sides say the same, and that a change keeps this.
-/

namespace XpliantSwitchd

/-- The pointers of items to their groups and the lists of the groups. -/
@[ext] structure Backlinks (Group Item : Type*) where
  /-- The group that an item points to. -/
  owner : Item → Option Group
  /-- The groups with the items they list. -/
  lists : List (Group × List Item)

namespace Backlinks

variable {Group Item : Type*} [DecidableEq Group] [DecidableEq Item]

/-- Change the list of a group. -/
def onList (lists : List (Group × List Item)) (group : Group)
    (change : List Item → List Item) : List (Group × List Item) :=
  KeyedList.rewrite Prod.fst group (fun entry => (entry.1, change entry.2)) lists

/-- Take an item out of the group it points to. -/
def unlink (links : Backlinks Group Item) (item : Item) : Backlinks Group Item :=
  match links.owner item with
  | none => links
  | some group =>
      { owner := Function.update links.owner item none
        lists := onList links.lists group (·.erase item) }

/-- Put an item at the end of a group. -/
def link (links : Backlinks Group Item) (group : Group) (item : Item) :
    Backlinks Group Item where
  owner := Function.update links.owner item (some group)
  lists := onList links.lists group (· ++ [item])

/-- Remove a group. -/
def close (links : Backlinks Group Item) (group : Group) : Backlinks Group Item :=
  { links with lists := KeyedList.remove Prod.fst group links.lists }

/-- Make a group without items. -/
def found (links : Backlinks Group Item) (group : Group) : Backlinks Group Item :=
  { links with lists := (group, []) :: links.lists }

/-- Pointers and lists say the same. -/
structure Linked (links : Backlinks Group Item) : Prop where
  groupsNodup : (links.lists.map Prod.fst).Nodup
  itemsNodup : ∀ entry ∈ links.lists, entry.2.Nodup
  points : ∀ item group, links.owner item = some group ↔
    ∃ entry ∈ links.lists, entry.1 = group ∧ item ∈ entry.2

variable {links : Backlinks Group Item} {group : Group} {item : Item}

omit [DecidableEq Item] in
theorem map_fst_onList
    (lists : List (Group × List Item))
    (group : Group)
    (change : List Item → List Item) :
    (onList lists group change).map Prod.fst = lists.map Prod.fst :=
  KeyedList.map_rewrite fun _ _ _ => rfl

namespace Linked

omit [DecidableEq Group] [DecidableEq Item] in
theorem eq_of_fst
    (linked : links.Linked)
    {entry other : Group × List Item}
    (listed : entry ∈ links.lists)
    (otherListed : other ∈ links.lists)
    (same : entry.1 = other.1) :
    entry = other :=
  List.inj_on_of_nodup_map linked.groupsNodup listed otherListed same

omit [DecidableEq Group] in
/-- A list does not hold an item that points elsewhere. -/
theorem filter_eq_self
    (linked : links.Linked)
    {entry : Group × List Item}
    (listed : entry ∈ links.lists)
    (elsewhere : links.owner item ≠ some entry.1) :
    entry.2.filter (· ≠ item) = entry.2 := by
  rw [List.filter_eq_self]
  intro other member
  rw [decide_eq_true_eq]
  rintro rfl
  exact elsewhere ((linked.points other entry.1).mpr ⟨entry, listed, rfl, member⟩)

theorem unlink_owner (links : Backlinks Group Item) (item : Item) :
    (links.unlink item).owner = Function.update links.owner item none := by
  unfold Backlinks.unlink
  cases owner : links.owner item with
  | none =>
      simp only
      rw [← owner, Function.update_eq_self]
  | some group => rfl

theorem unlink_lists (linked : links.Linked) (item : Item) :
    (links.unlink item).lists =
      links.lists.map fun entry => (entry.1, entry.2.filter (· ≠ item)) := by
  unfold Backlinks.unlink
  cases owner : links.owner item with
  | none =>
      simp only
      conv_lhs => rw [← List.map_id links.lists]
      apply List.map_congr_left
      intro entry listed
      rw [linked.filter_eq_self listed (by simp [owner])]
      rfl
  | some group =>
      simp only [onList, KeyedList.rewrite]
      apply List.map_congr_left
      intro entry listed
      by_cases selected : entry.1 = group
      · rw [if_pos selected, (linked.itemsNodup entry listed).erase_eq_filter]
        refine congrArg (entry.1, ·) (List.filter_congr fun other _ => ?_)
        rw [Bool.eq_iff_iff, bne_iff_ne, decide_eq_true_eq]
      · rw [if_neg selected, linked.filter_eq_self listed]
        rw [owner]
        exact fun same => selected (Option.some.inj same).symm

omit [DecidableEq Group] in
/-- The items of a list leave their groups. -/
theorem of_unlinked
    {after : Backlinks Group Item}
    (linked : links.Linked)
    (items : List Item)
    (owner : ∀ item, after.owner item = if item ∈ items then none else links.owner item)
    (lists : after.lists =
      links.lists.map fun entry => (entry.1, entry.2.filter (· ∉ items))) :
    after.Linked where
  groupsNodup := by
    rw [lists, List.map_map]
    exact linked.groupsNodup
  itemsNodup entry listed := by
    rw [lists] at listed
    obtain ⟨old, oldListed, rfl⟩ := List.mem_map.mp listed
    exact (linked.itemsNodup old oldListed).filter _
  points other group := by
    rw [owner, lists]
    constructor
    · intro owned
      split at owned
      · contradiction
      · rename_i stays
        obtain ⟨entry, listed, rfl, member⟩ := (linked.points other group).mp owned
        refine ⟨_, List.mem_map_of_mem listed, rfl, ?_⟩
        exact List.mem_filter.mpr ⟨member, by simpa using stays⟩
    · rintro ⟨_, listed, rfl, member⟩
      obtain ⟨entry, oldListed, rfl⟩ := List.mem_map.mp listed
      obtain ⟨oldMember, stays⟩ := List.mem_filter.mp member
      rw [if_neg (by simpa using stays)]
      exact (linked.points other entry.1).mpr ⟨entry, oldListed, rfl, oldMember⟩

theorem unlink (linked : links.Linked) (item : Item) : (links.unlink item).Linked := by
  refine linked.of_unlinked [item] ?_ ?_
  · intro other
    rw [unlink_owner, Function.update_apply]
    simp
  · rw [linked.unlink_lists]
    simp

/-- What unlinking a list of items leaves. -/
theorem foldl_unlink (linked : links.Linked) (items : List Item) :
    (∀ item, (items.foldl Backlinks.unlink links).owner item =
      if item ∈ items then none else links.owner item) ∧
    (items.foldl Backlinks.unlink links).lists =
      links.lists.map fun entry => (entry.1, entry.2.filter (· ∉ items)) := by
  induction items generalizing links with
  | nil => simp
  | cons item items inductionHypothesis =>
      obtain ⟨owner, lists⟩ := inductionHypothesis (linked.unlink item)
      rw [List.foldl_cons]
      refine ⟨?_, ?_⟩
      · intro other
        rw [owner, unlink_owner, Function.update_apply]
        by_cases inRest : other ∈ items
        · simp [inRest]
        · by_cases same : other = item
          · simp [same]
          · simp [inRest, same]
      · rw [lists, linked.unlink_lists, List.map_map]
        apply List.map_congr_left
        intro entry _
        simp only [Function.comp_apply, List.filter_filter]
        congr 1
        apply List.filter_congr
        intro other _
        simp [Bool.and_comm]

theorem link
    (linked : links.Linked)
    (free : links.owner item = none)
    (exist : group ∈ links.lists.map Prod.fst) :
    (links.link group item).Linked where
  groupsNodup := by
    rw [Backlinks.link, map_fst_onList]
    exact linked.groupsNodup
  itemsNodup entry listed := by
    rcases KeyedList.mem_rewrite.mp listed with ⟨old, oldListed, _, rfl⟩ | ⟨old, _⟩
    · rw [List.nodup_append]
      refine ⟨linked.itemsNodup old oldListed, List.nodup_singleton _, ?_⟩
      intro left leftMember right rightMember same
      rw [List.mem_singleton.mp rightMember] at same
      have owned := (linked.points item old.1).mpr
        ⟨old, oldListed, rfl, same ▸ leftMember⟩
      rw [free] at owned
      contradiction
    · exact linked.itemsNodup entry old
  points other target := by
    simp only [Backlinks.link, Function.update_apply]
    by_cases same : other = item
    · subst same
      rw [if_pos rfl]
      constructor
      · intro equal
        obtain ⟨entry, listed, selected⟩ := List.mem_map.mp exist
        refine ⟨(entry.1, entry.2 ++ [other]), ?_, ?_, by simp⟩
        · exact KeyedList.mem_rewrite.mpr (.inl ⟨entry, listed, selected, rfl⟩)
        · exact selected.trans (Option.some.inj equal)
      · rintro ⟨entry, listed, rfl, member⟩
        rcases KeyedList.mem_rewrite.mp listed with
          ⟨old, _, selected, rfl⟩ | ⟨oldListed, _⟩
        · exact congrArg some selected.symm
        · have owned := (linked.points other entry.1).mpr
            ⟨entry, oldListed, rfl, member⟩
          rw [free] at owned
          contradiction
    · rw [if_neg same, linked.points]
      constructor
      · rintro ⟨entry, listed, rfl, member⟩
        by_cases selected : entry.1 = group
        · exact ⟨(entry.1, entry.2 ++ [item]),
            KeyedList.mem_rewrite.mpr (.inl ⟨entry, listed, selected, rfl⟩), rfl,
            List.mem_append_left _ member⟩
        · exact ⟨entry, KeyedList.mem_rewrite.mpr (.inr ⟨listed, selected⟩), rfl, member⟩
      · rintro ⟨entry, listed, rfl, member⟩
        rcases KeyedList.mem_rewrite.mp listed with
          ⟨old, oldListed, _, rfl⟩ | ⟨oldListed, _⟩
        · rcases List.mem_append.mp member with oldMember | new
          · exact ⟨old, oldListed, rfl, oldMember⟩
          · exact absurd (List.mem_singleton.mp new) same
        · exact ⟨entry, oldListed, rfl, member⟩

omit [DecidableEq Item] in
theorem close
    (linked : links.Linked)
    (empty : ∀ item, links.owner item ≠ some group) :
    (links.close group).Linked where
  groupsNodup := KeyedList.nodup_remove linked.groupsNodup
  itemsNodup entry listed :=
    linked.itemsNodup entry (KeyedList.mem_remove.mp listed).1
  points item target := by
    show links.owner item = some target ↔ _
    constructor
    · intro owned
      obtain ⟨entry, listed, rfl, member⟩ := (linked.points item target).mp owned
      refine ⟨entry, KeyedList.mem_remove.mpr ⟨listed, ?_⟩, rfl, member⟩
      intro selected
      exact empty item (owned.trans (congrArg some selected))
    · rintro ⟨entry, listed, rfl, member⟩
      exact (linked.points item entry.1).mpr
        ⟨entry, (KeyedList.mem_remove.mp listed).1, rfl, member⟩

omit [DecidableEq Group] [DecidableEq Item] in
theorem found
    (linked : links.Linked)
    (fresh : group ∉ links.lists.map Prod.fst) :
    (links.found group).Linked where
  groupsNodup := List.nodup_cons.mpr ⟨fresh, linked.groupsNodup⟩
  itemsNodup entry listed := by
    rcases List.mem_cons.mp listed with rfl | old
    · exact List.nodup_nil
    · exact linked.itemsNodup entry old
  points item target := by
    show links.owner item = some target ↔ _
    rw [linked.points]
    constructor
    · rintro ⟨entry, listed, rfl, member⟩
      exact ⟨entry, List.mem_cons_of_mem _ listed, rfl, member⟩
    · rintro ⟨entry, listed, rfl, member⟩
      rcases List.mem_cons.mp listed with rfl | old
      · exact absurd member List.not_mem_nil
      · exact ⟨entry, old, rfl, member⟩

omit [DecidableEq Group] in
/-- An item points to a group if it is once in the list of that group and in no
other list. -/
theorem owner_iff_count
    (linked : links.Linked)
    {entry : Group × List Item}
    (listed : entry ∈ links.lists) :
    links.owner item = some entry.1 ↔
      entry.2.count item = 1 ∧
        ∀ other ∈ links.lists, other.1 ≠ entry.1 → item ∉ other.2 := by
  constructor
  · intro owned
    obtain ⟨found, foundListed, same, member⟩ := (linked.points item entry.1).mp owned
    obtain rfl := linked.eq_of_fst foundListed listed same
    refine ⟨List.count_eq_one_of_mem (linked.itemsNodup _ listed) member, ?_⟩
    intro other otherListed different otherMember
    have ownedByOther := (linked.points item other.1).mpr
      ⟨other, otherListed, rfl, otherMember⟩
    rw [owned] at ownedByOther
    exact different (Option.some.inj ownedByOther).symm
  · rintro ⟨once, _⟩
    have member : item ∈ entry.2 := List.count_pos_iff.mp (by omega)
    exact (linked.points item entry.1).mpr ⟨entry, listed, rfl, member⟩

end Linked

/-! ## The list of a group -/

/-- The items that a group lists. -/
def listOf (links : Backlinks Group Item) (group : Group) : List Item :=
  ((links.lists.find? (·.1 == group)).map Prod.snd).getD []

omit [DecidableEq Item] in
theorem find?_map_entries
    (lists : List (Group × List Item))
    (group : Group)
    (change : Group × List Item → List Item) :
    (lists.map fun entry => (entry.1, change entry)).find? (·.1 == group) =
      (lists.find? (·.1 == group)).map fun entry => (entry.1, change entry) := by
  rw [List.find?_map]
  rfl

theorem link_listOf_of_ne {other : Group} (different : other ≠ group) :
    (links.link group item).listOf other = links.listOf other := by
  have asMap : (links.link group item).lists = links.lists.map fun entry =>
      (entry.1, if entry.1 = group then entry.2 ++ [item] else entry.2) := by
    apply List.map_congr_left
    intro entry _
    split <;> rfl
  unfold listOf
  rw [asMap, find?_map_entries]
  cases found : links.lists.find? (·.1 == other) with
  | none => rfl
  | some entry =>
      have selected : entry.1 = other := by simpa using List.find?_some found
      rw [Option.map_some, Option.map_some, Option.map_some]
      simp only [if_neg (selected ▸ different)]

namespace Linked

theorem unlink_listOf (linked : links.Linked) (item : Item) (group : Group) :
    (links.unlink item).listOf group = (links.listOf group).filter (· ≠ item) := by
  unfold listOf
  rw [linked.unlink_lists, find?_map_entries]
  cases links.lists.find? (·.1 == group) with
  | none => rfl
  | some entry => rfl

omit [DecidableEq Item] in
/-- An item is in the list of the group that it points to. -/
theorem mem_listOf (linked : links.Linked) :
    item ∈ links.listOf group ↔ links.owner item = some group := by
  rw [linked.points]
  unfold listOf
  constructor
  · intro member
    cases found : links.lists.find? (·.1 == group) with
    | none =>
        rw [found] at member
        exact absurd member List.not_mem_nil
    | some entry =>
        rw [found] at member
        exact ⟨entry, List.mem_of_find?_eq_some found, by simpa using List.find?_some found,
          member⟩
  · rintro ⟨entry, listed, rfl, member⟩
    have found : links.lists.find? (·.1 == entry.1) = some entry :=
      (KeyedList.find?_key_eq_some linked.groupsNodup).mpr ⟨listed, rfl⟩
    rw [found]
    exact member

omit [DecidableEq Item] in
theorem nodup_listOf (linked : links.Linked) : (links.listOf group).Nodup := by
  unfold listOf
  cases found : links.lists.find? (·.1 == group) with
  | none => exact List.nodup_nil
  | some entry => exact linked.itemsNodup entry (List.mem_of_find?_eq_some found)

/-- Filtering the list of a group by items that point elsewhere keeps it. -/
theorem filter_listOf
    (linked : links.Linked)
    {items : List Item}
    (elsewhere : ∀ item ∈ items, links.owner item ≠ some group) :
    (links.listOf group).filter (· ∉ items) = links.listOf group := by
  rw [List.filter_eq_self]
  intro item member
  rw [decide_eq_true_eq]
  intro listed
  exact elsewhere item listed (linked.mem_listOf.mp member)

end Linked

end Backlinks

end XpliantSwitchd
