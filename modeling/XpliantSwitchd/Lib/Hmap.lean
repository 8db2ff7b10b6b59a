import Mathlib.Algebra.Group.Nat.Defs
import Mathlib.Data.List.Nodup
import Mathlib.Data.Nat.Log
import Mathlib.Data.Nat.Size
import Mathlib.Logic.Function.Basic
import XpliantSwitchd.Lib.Traversal

/-!
# Hash tables with chained buckets

This module embeds the hash table of Open vSwitch.  A node lies in the bucket of the
low bits of its hash, an iteration goes through the buckets in turn, and a table that
is resized pushes every node, in the old order, at the head of its new bucket.  The
number of nodes is not stored apart from the nodes.
-/

namespace XpliantSwitchd

/-- `struct hmap`: a table of `mask + 1` buckets. -/
structure Hmap (α : Type*) where
  mask : Nat
  buckets : Nat → List α

namespace Hmap

variable {α : Type*}

/-! ## The mask for a number of nodes -/

/-- Set every bit that lies less than `width` positions below a set bit, when `mask`
has done so for half of them. -/
def smear (width mask : Nat) : Nat :=
  mask ||| mask >>> width

/-- `calc_mask`. -/
def calcMask (capacity : Nat) : Nat :=
  let mask := smear 32 (smear 16 (smear 8 (smear 4 (smear 2 (smear 1 (capacity / 2))))))
  mask ||| (mask &&& 1) <<< 1

/-- A number has every bit set that lies less than `width` positions below a set bit
of another one. -/
def Smeared (origin width mask : Nat) : Prop :=
  ∀ position, mask.testBit position = true ↔
    ∃ distance < width, origin.testBit (position + distance) = true

theorem smeared_one (origin : Nat) : Smeared origin 1 origin := by
  intro position
  simp

theorem Smeared.smear
    {origin width mask : Nat}
    (smeared : Smeared origin width mask) :
    Smeared origin (2 * width) (smear width mask) := by
  intro position
  rw [Hmap.smear, Nat.testBit_or, Nat.testBit_shiftRight, Bool.or_eq_true,
    smeared position, smeared (width + position)]
  constructor
  · intro covered
    cases covered with
    | inl near =>
        obtain ⟨distance, below, set⟩ := near
        exact ⟨distance, by omega, set⟩
    | inr far =>
        obtain ⟨distance, below, set⟩ := far
        refine ⟨width + distance, by omega, ?_⟩
        rw [show position + (width + distance) = width + position + distance by omega]
        exact set
  · rintro ⟨distance, below, set⟩
    by_cases near : distance < width
    · exact Or.inl ⟨distance, near, set⟩
    · refine Or.inr ⟨distance - width, by omega, ?_⟩
      rw [show width + position + (distance - width) = position + distance by omega]
      exact set

/-- A number that is smeared over its whole width has all bits below its highest
one. -/
theorem Smeared.eq_two_pow_sub_one
    {origin width mask : Nat}
    (smeared : Smeared origin width mask)
    (bounded : origin < 2 ^ width) :
    mask = 2 ^ origin.size - 1 := by
  apply Nat.eq_of_testBit_eq
  intro position
  rw [Bool.eq_iff_iff, smeared position, Nat.testBit_two_pow_sub_one, decide_eq_true_eq]
  constructor
  · rintro ⟨distance, -, set⟩
    have large := Nat.ge_two_pow_of_testBit set
    have high := Nat.lt_size.mpr large
    omega
  · intro below
    have narrow : origin.size ≤ width := Nat.size_le.mpr bounded
    refine ⟨origin.size - 1 - position, by omega, ?_⟩
    rw [show position + (origin.size - 1 - position) = origin.size - 1 by omega]
    have low : 2 ^ (origin.size - 1) ≤ origin := Nat.lt_size.mp (by omega)
    have high : origin < 2 ^ (origin.size - 1 + 1) := by
      rw [show origin.size - 1 + 1 = origin.size by omega]
      exact Nat.lt_size_self origin
    exact Nat.testBit_of_two_pow_le_and_two_pow_add_one_gt low high

/-- The mask for a number of nodes up to the next power of two, at least four buckets
being allocated. -/
theorem calcMask_eq {capacity level : Nat}
    (bounded : capacity < 2 ^ 64)
    (low : 2 ^ (level + 2) ≤ capacity ∨ level = 0 ∧ 2 ≤ capacity)
    (high : capacity < 2 ^ (level + 3)) :
    calcMask capacity = 2 ^ (level + 2) - 1 := by
  have half : 2 ^ (level + 2) = 2 * 2 ^ (level + 1) := Nat.pow_succ'
  have double : 2 ^ (level + 3) = 2 * 2 ^ (level + 2) := Nat.pow_succ'
  have narrow : (capacity / 2).size ≤ level + 2 := by
    rw [Nat.size_le]
    omega
  have wide : level + 2 ≤ (capacity / 2).size ∨ level = 0 ∧ 1 ≤ (capacity / 2).size := by
    cases low with
    | inl large =>
        left
        exact Nat.lt_size.mpr (show 2 ^ (level + 1) ≤ capacity / 2 by omega)
    | inr few => exact Or.inr ⟨few.1, Nat.lt_size.mpr (show 2 ^ 0 ≤ capacity / 2 by omega)⟩
  have smeared := (smeared_one (capacity / 2)).smear.smear.smear.smear.smear.smear
  have all := smeared.eq_two_pow_sub_one (by omega)
  unfold calcMask
  rw [all]
  apply Nat.eq_of_testBit_eq
  intro position
  rw [Bool.eq_iff_iff]
  simp only [Nat.testBit_or, Nat.testBit_shiftLeft, Nat.testBit_and,
    Nat.testBit_one_eq_true_iff_self_eq_zero,
    Nat.testBit_two_pow_sub_one, Bool.or_eq_true, Bool.and_eq_true, decide_eq_true_eq]
  omega

theorem calcMask_of_lt_two {capacity : Nat} (few : capacity < 2) : calcMask capacity = 0 := by
  have half : capacity / 2 = 0 := by omega
  unfold calcMask
  rw [half]
  rfl

/-! ## Operations -/

/-- The nodes in the order of an iteration. -/
def nodes (table : Hmap α) : List α :=
  (List.range (table.mask + 1)).flatMap table.buckets

/-- `hmap_init`. -/
def init : Hmap α := ⟨0, fun _ => []⟩

/-- Write one bucket. -/
def setBucket (table : Hmap α) (index : Nat) (bucket : List α) : Hmap α :=
  { table with buckets := Function.update table.buckets index bucket }

section Buckets

variable {table : Hmap α} {index other : Nat} {bucket : List α}

@[simp] theorem setBucket_mask : (table.setBucket index bucket).mask = table.mask := rfl

@[simp] theorem setBucket_same : (table.setBucket index bucket).buckets index = bucket :=
  Function.update_self ..

theorem setBucket_of_ne (different : other ≠ index) :
    (table.setBucket index bucket).buckets other = table.buckets other :=
  Function.update_of_ne different _ _

end Buckets

section Operations

variable (hash : α → Nat)

/-- The bucket of a node. -/
def slot (table : Hmap α) (node : α) : Nat :=
  hash node &&& table.mask

/-- `hmap_insert_fast`. -/
def insertFast (table : Hmap α) (node : α) : Hmap α :=
  table.setBucket (table.slot hash node) (node :: table.buckets (table.slot hash node))

/-- `resize`. -/
def resize (table : Hmap α) (mask : Nat) : Hmap α :=
  table.nodes.foldl (insertFast hash) ⟨mask, fun _ => []⟩

/-- `hmap_expand`. -/
def expand (table : Hmap α) : Hmap α :=
  if table.mask < calcMask table.nodes.length then
    table.resize hash (calcMask table.nodes.length)
  else table

/-- `hmap_shrink`. -/
def shrink (table : Hmap α) : Hmap α :=
  if calcMask table.nodes.length < table.mask then
    table.resize hash (calcMask table.nodes.length)
  else table

/-- `hmap_insert`. -/
def insert (table : Hmap α) (node : α) : Hmap α :=
  if table.mask < (table.insertFast hash node).nodes.length / 2 then
    (table.insertFast hash node).expand hash
  else table.insertFast hash node

/-- `hmap_next__`. -/
def nextFrom (table : Hmap α) (start : Nat) : Option α :=
  (List.range' start (table.mask + 1 - start)).findSome? fun index =>
    (table.buckets index).head?

/-- `hmap_first`. -/
def first (table : Hmap α) : Option α :=
  table.nextFrom 0

variable [DecidableEq α]

/-- `hmap_remove`. -/
def remove (table : Hmap α) (node : α) : Hmap α :=
  table.setBucket (table.slot hash node)
    ((table.buckets (table.slot hash node)).erase node)

/-- `hmap_next`: the node after another one in its bucket, and the first of the later
buckets when it is the last. -/
def next (table : Hmap α) (node : α) : Option α :=
  match (table.buckets (table.slot hash node)).dropWhile (· ≠ node) with
  | _ :: following :: _ => some following
  | _ => table.nextFrom (table.slot hash node + 1)

end Operations

/-! ## The order of an iteration -/

/-- The nodes of the buckets before one. -/
def before (table : Hmap α) (index : Nat) : List α :=
  (List.range index).flatMap table.buckets

/-- The nodes of the buckets after one. -/
def after (table : Hmap α) (index : Nat) : List α :=
  (List.range' (index + 1) (table.mask - index)).flatMap table.buckets

section Order

variable {table : Hmap α} {hash : α → Nat} {index : Nat}

/-- The order of an iteration around one bucket. -/
theorem nodes_eq (table : Hmap α) (inside : index ≤ table.mask) :
    table.nodes = table.before index ++ (table.buckets index ++ table.after index) := by
  unfold nodes before after
  have cut : List.range (table.mask + 1) =
      List.range index ++ index :: List.range' (index + 1) (table.mask - index) := by
    rw [List.range_eq_range', List.range_eq_range', ← List.range'_succ,
      show table.mask + 1 = index + (table.mask - index + 1) by omega,
      ← List.range'_append_1, Nat.zero_add]
  rw [cut, List.flatMap_append, List.flatMap_cons]

theorem nextFrom_succ (index : Nat) :
    table.nextFrom (index + 1) = (table.after index).head? := by
  unfold nextFrom after
  rw [List.head?_flatMap, show table.mask + 1 - (index + 1) = table.mask - index by omega]

theorem first_eq : table.first = table.nodes.head? := by
  unfold first nextFrom nodes
  rw [List.head?_flatMap, List.range_eq_range', Nat.sub_zero]

theorem nodes_setBucket (inside : index ≤ table.mask) (bucket : List α) :
    (table.setBucket index bucket).nodes =
      table.before index ++ (bucket ++ table.after index) := by
  rw [nodes_eq (table.setBucket index bucket) inside]
  rw [setBucket_same]
  congr 1
  · apply List.flatMap_congr
    intro other member
    have earlier := List.mem_range.mp member
    exact setBucket_of_ne (by omega)
  · congr 1
    apply List.flatMap_congr
    intro other member
    have later := List.mem_range'_1.mp member
    exact setBucket_of_ne (by omega)

theorem slot_le (hash : α → Nat) (table : Hmap α) (node : α) :
    table.slot hash node ≤ table.mask :=
  Nat.and_le_right

end Order

/-! ## Tables as the operations leave them -/

/-- Every node lies in its bucket. -/
def Placed (hash : α → Nat) (table : Hmap α) : Prop :=
  ∀ index ≤ table.mask, ∀ node ∈ table.buckets index, table.slot hash node = index

/-- The nodes in the order of an iteration over a table that was resized. -/
def relaid (hash : α → Nat) (mask : Nat) (nodes : List α) : List α :=
  (List.range (mask + 1)).flatMap fun index =>
    (nodes.filter fun node => hash node &&& mask = index).reverse

section Placing

variable {hash : α → Nat} {table : Hmap α} {index mask : Nat} {node : α}

theorem Placed.setBucket
    (placed : Placed hash table)
    {bucket : List α}
    (fits : ∀ node ∈ bucket, table.slot hash node = index) :
    Placed hash (table.setBucket index bucket) := by
  intro other inside node member
  by_cases same : other = index
  · subst same
    rw [setBucket_same] at member
    exact fits node member
  · rw [setBucket_of_ne same] at member
    exact placed other inside node member

/-- A node of the table is in the bucket of its hash. -/
theorem Placed.mem_slot (placed : Placed hash table) (member : node ∈ table.nodes) :
    node ∈ table.buckets (table.slot hash node) := by
  obtain ⟨index, inside, listed⟩ := List.mem_flatMap.mp member
  rw [placed index (by have := List.mem_range.mp inside; omega) node listed]
  exact listed

theorem placed_empty (hash : α → Nat) (mask : Nat) :
    Placed hash (⟨mask, fun _ => []⟩ : Hmap α) := by
  intro index inside node member
  exact absurd member List.not_mem_nil

theorem Placed.insertFast (placed : Placed hash table) (node : α) :
    Placed hash (table.insertFast hash node) := by
  apply placed.setBucket
  intro other member
  cases member with
  | head => rfl
  | tail _ member => exact placed _ (slot_le hash table node) other member

theorem nodes_insertFast_perm (hash : α → Nat) (table : Hmap α) (node : α) :
    (table.insertFast hash node).nodes.Perm (node :: table.nodes) := by
  rw [insertFast, nodes_setBucket (slot_le hash table node),
    nodes_eq table (slot_le hash table node), List.cons_append]
  exact List.perm_middle

theorem Placed.foldl_insertFast (placed : Placed hash table) (added : List α) :
    Placed hash (added.foldl (Hmap.insertFast hash) table) ∧
      (added.foldl (Hmap.insertFast hash) table).mask = table.mask ∧
      (added.foldl (Hmap.insertFast hash) table).nodes.Perm (added ++ table.nodes) := by
  induction added generalizing table with
  | nil => exact ⟨placed, rfl, List.Perm.refl _⟩
  | cons node added inductionHypothesis =>
      obtain ⟨nowPlaced, sameMask, perm⟩ := inductionHypothesis (placed.insertFast node)
      refine ⟨nowPlaced, sameMask, perm.trans ?_⟩
      exact ((nodes_insertFast_perm hash table node).append_left added).trans List.perm_middle

/-- The buckets after insertions: the latest node comes first. -/
theorem foldl_insertFast_buckets (added : List α) (index : Nat) :
    (added.foldl (Hmap.insertFast hash) table).buckets index =
      (added.filter fun node => hash node &&& table.mask = index).reverse ++
        table.buckets index := by
  induction added generalizing table with
  | nil => rfl
  | cons node added inductionHypothesis =>
      rw [List.foldl_cons, inductionHypothesis, insertFast, setBucket_mask]
      by_cases same : hash node &&& table.mask = index
      · have bucket : table.slot hash node = index := same
        rw [List.filter_cons_of_pos (by simpa using same), List.reverse_cons,
          List.append_assoc, bucket, setBucket_same]
        rfl
      · have bucket : index ≠ table.slot hash node := Ne.symm same
        rw [List.filter_cons_of_neg (by simpa using same), setBucket_of_ne bucket]

theorem nodes_resize (mask : Nat) :
    (table.resize hash mask).nodes = relaid hash mask table.nodes := by
  have sameMask := ((placed_empty hash mask).foldl_insertFast table.nodes).2.1
  unfold resize relaid
  rw [nodes, sameMask]
  apply List.flatMap_congr
  intro index inside
  rw [foldl_insertFast_buckets, List.append_nil]

theorem placed_resize (hash : α → Nat) (table : Hmap α) (mask : Nat) :
    Placed hash (table.resize hash mask) ∧ (table.resize hash mask).mask = mask ∧
      (table.resize hash mask).nodes.Perm table.nodes := by
  obtain ⟨placed, sameMask, perm⟩ := (placed_empty hash mask).foldl_insertFast table.nodes
  refine ⟨placed, sameMask, perm.trans ?_⟩
  have noNodes : (⟨mask, fun _ => []⟩ : Hmap α).nodes = [] :=
    List.flatMap_eq_nil_iff.mpr fun _ _ => rfl
  rw [noNodes, List.append_nil]

/-- A new order has the same nodes. -/
theorem relaid_perm (hash : α → Nat) (mask : Nat) (nodes : List α) :
    (relaid hash mask nodes).Perm nodes := by
  have whole : (⟨0, fun _ => nodes⟩ : Hmap α).nodes = nodes := by
    simp [Hmap.nodes]
  have perm := (placed_resize hash ⟨0, fun _ => nodes⟩ mask).2.2
  rw [nodes_resize, whole] at perm
  exact perm

/-- One node or none is laid out in one order only. -/
theorem relaid_of_length_le_one {mask : Nat} {nodes : List α} (few : nodes.length ≤ 1) :
    relaid hash mask nodes = nodes := by
  have perm := relaid_perm hash mask nodes
  match nodes, few with
  | [], _ => exact perm.eq_nil
  | [node], _ => exact List.perm_singleton.mp perm

end Placing

/-! ## The node after a cursor -/

section Cursor

variable {hash : α → Nat} {table : Hmap α} {node : α} {passed ahead : List α}

/-- The bucket of a node and the order of an iteration are cut at the same place. -/
theorem Placed.cut
    (placed : Placed hash table)
    (nodup : table.nodes.Nodup)
    (order : table.nodes = passed ++ node :: ahead) :
    ∃ front back, table.buckets (table.slot hash node) = front ++ node :: back ∧
      node ∉ front ∧
      passed = table.before (table.slot hash node) ++ front ∧
      ahead = back ++ table.after (table.slot hash node) := by
  have member : node ∈ table.nodes := by
    rw [order]
    exact List.mem_append_right _ List.mem_cons_self
  obtain ⟨front, back, bucket⟩ := List.append_of_mem (placed.mem_slot member)
  have whole := nodes_eq table (slot_le hash table node)
  rw [bucket, List.append_assoc, List.cons_append, ← List.append_assoc] at whole
  have once : ∀ left right, table.nodes = left ++ node :: right →
      node ∉ left ∧ node ∉ right := by
    intro left right split
    rw [split, List.nodup_middle, List.nodup_cons, List.mem_append, not_or] at nodup
    exact nodup.1
  obtain ⟨notPassed, notAhead⟩ := once _ _ order
  have cuts := (List.append_cons_inj_of_notMem notPassed notAhead).mp
    (order.symm.trans whole)
  refine ⟨front, back, bucket, ?_, cuts.1, cuts.2.2⟩
  intro listed
  exact (once _ _ whole).1 (List.mem_append_right _ listed)

variable [DecidableEq α]

/-- `hmap_next` returns the next node in the order of an iteration. -/
theorem Placed.next_eq
    (placed : Placed hash table)
    (nodup : table.nodes.Nodup)
    (order : table.nodes = passed ++ node :: ahead) :
    table.next hash node = ahead.head? := by
  obtain ⟨front, back, bucket, absent, -, rest⟩ := placed.cut nodup order
  have found : (table.buckets (table.slot hash node)).dropWhile (· ≠ node) = node :: back := by
    rw [bucket, List.dropWhile_append_of_pos, List.dropWhile_cons_of_neg (by simp)]
    intro other listed
    have different : other ≠ node := fun same => absent (same ▸ listed)
    simpa using different
  unfold next
  rw [found, rest, nextFrom_succ]
  cases back with
  | nil => rfl
  | cons following back => rfl

/-- Removal takes the node out of the order and leaves the others. -/
theorem Placed.nodes_remove
    (placed : Placed hash table)
    (nodup : table.nodes.Nodup)
    (order : table.nodes = passed ++ node :: ahead) :
    (table.remove hash node).nodes = passed ++ ahead := by
  obtain ⟨front, back, bucket, absent, start, rest⟩ := placed.cut nodup order
  rw [remove, nodes_setBucket (slot_le hash table node), bucket, List.erase_append_right _ absent,
    List.erase_cons_head, start, rest]
  simp only [List.append_assoc]

theorem Placed.remove (placed : Placed hash table) (node : α) :
    Placed hash (table.remove hash node) := by
  apply placed.setBucket
  intro other member
  exact placed _ (slot_le hash table node) other (List.mem_of_mem_erase member)

/-- Removing the nodes in their order leaves no node. -/
theorem Placed.foldl_remove
    (placed : Placed hash table)
    (nodup : table.nodes.Nodup) :
    Placed hash (table.nodes.foldl (Hmap.remove hash) table) ∧
      (table.nodes.foldl (Hmap.remove hash) table).nodes = [] := by
  generalize order : table.nodes = nodes at nodup ⊢
  induction nodes generalizing table with
  | nil => exact ⟨placed, order⟩
  | cons node nodes inductionHypothesis =>
      have left : (table.remove hash node).nodes = nodes :=
        placed.nodes_remove (order ▸ nodup) (order.trans (List.nil_append _).symm)
      exact inductionHypothesis (placed.remove node) left (List.nodup_cons.mp nodup).2

end Cursor

/-! ## Sizes -/

/-- The masks grow at the powers of two from eight on: the number of doublings after
the first four buckets. -/
def level (count : Nat) : Nat :=
  Nat.log 2 count - 2

/-- The counts with one mask. -/
def InLevel (level count : Nat) : Prop :=
  (2 ^ (level + 2) ≤ count ∨ level = 0 ∧ 2 ≤ count) ∧ count < 2 ^ (level + 3)

theorem inLevel_level {count : Nat} (several : 2 ≤ count) : InLevel (level count) count := by
  unfold level
  by_cases few : Nat.log 2 count < 2
  · have small : count < 2 ^ 2 := Nat.lt_pow_of_log_lt (by decide) few
    have zero : Nat.log 2 count - 2 = 0 := by omega
    rw [zero]
    exact ⟨Or.inr ⟨rfl, several⟩, by omega⟩
  · refine ⟨Or.inl ?_, ?_⟩
    · rw [show Nat.log 2 count - 2 + 2 = Nat.log 2 count by omega]
      exact Nat.pow_log_le_self 2 (by omega)
    · rw [show Nat.log 2 count - 2 + 3 = Nat.log 2 count + 1 by omega]
      exact Nat.lt_pow_succ_log_self (by decide) count

theorem InLevel.calcMask {level count : Nat} (inLevel : InLevel level count)
    (bounded : count < 2 ^ 64) :
    Hmap.calcMask count = 2 ^ (level + 2) - 1 :=
  calcMask_eq bounded inLevel.1 inLevel.2

/-- One node more leaves the mask as it is when half the nodes fit it. -/
theorem calcMask_succ {count : Nat} (bounded : count + 1 < 2 ^ 64)
    (fits : (count + 1) / 2 ≤ calcMask count) :
    calcMask (count + 1) = calcMask count := by
  by_cases few : count < 2
  · rw [calcMask_of_lt_two few] at fits ⊢
    exact calcMask_of_lt_two (by omega)
  · have inLevel := inLevel_level (show 2 ≤ count by omega)
    have mask := inLevel.calcMask (by omega)
    have double : 2 ^ (level count + 3) = 2 * 2 ^ (level count + 2) := Nat.pow_succ'
    have positive : 0 < 2 ^ (level count + 2) := Nat.two_pow_pos _
    rw [mask] at fits ⊢
    apply calcMask_eq bounded
    · have low := inLevel.1
      omega
    · omega

/-- A mask never gets smaller when there is a node more. -/
theorem calcMask_le_succ {count : Nat} (bounded : count + 1 < 2 ^ 64) :
    calcMask count ≤ calcMask (count + 1) := by
  by_cases few : count < 2
  · rw [calcMask_of_lt_two few]
    exact Nat.zero_le _
  · have inLevel := inLevel_level (show 2 ≤ count by omega)
    rw [inLevel.calcMask (by omega)]
    by_cases full : count + 1 < 2 ^ (level count + 3)
    · have low := inLevel.1
      rw [calcMask_eq bounded (by omega) full]
    · have high := inLevel.2
      have next : InLevel (level count + 1) (count + 1) := by
        have double : 2 ^ (level count + 1 + 3) = 2 * 2 ^ (level count + 3) := Nat.pow_succ'
        have same : 2 ^ (level count + 1 + 2) = 2 ^ (level count + 3) := rfl
        exact ⟨Or.inl (by omega), by omega⟩
      rw [next.calcMask bounded]
      have more : 2 ^ (level count + 2) ≤ 2 ^ (level count + 1 + 2) :=
        Nat.pow_le_pow_right (by decide) (by omega)
      omega

/-- What holds between the operations: the nodes are in their buckets, each once, and
the mask is the one for their number. -/
structure Sound (hash : α → Nat) (table : Hmap α) : Prop where
  placed : Placed hash table
  nodup : table.nodes.Nodup
  mask_eq : table.mask = calcMask table.nodes.length
  bounded : table.nodes.length < 2 ^ 64

theorem sound_init (hash : α → Nat) : Sound hash (init : Hmap α) where
  placed := placed_empty hash 0
  nodup := List.nodup_nil
  mask_eq := (calcMask_of_lt_two (by decide : 0 < 2)).symm
  bounded := Nat.two_pow_pos 64

section Keeping

variable {hash : α → Nat} {table : Hmap α} {node : α}

theorem nodes_shrink_perm (hash : α → Nat) (table : Hmap α) :
    (table.shrink hash).nodes.Perm table.nodes := by
  unfold shrink
  split
  · exact (placed_resize hash _ _).2.2
  · exact List.Perm.refl _

/-- A table whose mask is too large for its nodes is sound when it was shrunk. -/
theorem sound_shrink
    (placed : Placed hash table)
    (nodup : table.nodes.Nodup)
    (mask_le : calcMask table.nodes.length ≤ table.mask)
    (bounded : table.nodes.length < 2 ^ 64) :
    Sound hash (table.shrink hash) := by
  have perm := nodes_shrink_perm hash table
  refine ⟨?_, perm.nodup_iff.mpr nodup, ?_, perm.length_eq ▸ bounded⟩
  · unfold shrink
    split
    · exact (placed_resize hash _ _).1
    · exact placed
  · rw [perm.length_eq]
    unfold shrink
    split
    · exact (placed_resize hash _ _).2.1
    · omega

theorem insert_perm (hash : α → Nat) (table : Hmap α) (node : α) :
    (table.insert hash node).nodes.Perm (node :: table.nodes) := by
  have fast := nodes_insertFast_perm hash table node
  unfold insert
  split
  · unfold expand
    split
    · exact (placed_resize hash _ _).2.2.trans fast
    · exact fast
  · exact fast

theorem Sound.insert
    (sound : Sound hash table)
    (absent : node ∉ table.nodes)
    (bounded : table.nodes.length + 1 < 2 ^ 64) :
    Sound hash (table.insert hash node) := by
  have perm := insert_perm hash table node
  have fast := nodes_insertFast_perm hash table node
  have count : (table.insertFast hash node).nodes.length = table.nodes.length + 1 :=
    fast.length_eq
  have mask : (table.insertFast hash node).mask = calcMask table.nodes.length := sound.mask_eq
  have grows := calcMask_le_succ bounded
  refine ⟨?_, perm.nodup_iff.mpr (List.nodup_cons.mpr ⟨absent, sound.nodup⟩), ?_, ?_⟩
  · unfold Hmap.insert expand
    split
    · split
      · exact (placed_resize hash _ _).1
      · exact sound.placed.insertFast node
    · exact sound.placed.insertFast node
  · rw [perm.length_eq, List.length_cons]
    unfold Hmap.insert expand
    rw [count]
    split
    · split
      · exact (placed_resize hash _ _).2.1
      · omega
    · rename_i fits
      rw [sound.mask_eq] at fits
      exact mask.trans (calcMask_succ bounded (by omega)).symm
  · rw [perm.length_eq, List.length_cons]
    exact bounded

end Keeping

/-! ## A table that is only filled -/

section Filling

variable (hash : α → Nat)

/-- The table after nodes were inserted, the last of the list first. -/
def filled (nodes : List α) : Hmap α :=
  nodes.foldr (fun node table => table.insert hash node) init

theorem filled_perm (nodes : List α) : (filled hash nodes).nodes.Perm nodes := by
  induction nodes with
  | nil =>
      have noNodes : (init : Hmap α).nodes = [] := List.flatMap_eq_nil_iff.mpr fun _ _ => rfl
      change (init : Hmap α).nodes.Perm []
      rw [noNodes]
  | cons node nodes inductionHypothesis =>
      exact (insert_perm hash _ node).trans (inductionHypothesis.cons node)

/-- The order of a table that was filled from the end of a list on. -/
def filledOrder : Traversal α where
  visit nodes := (filled hash nodes).nodes
  perm := filled_perm hash

end Filling

end Hmap
end XpliantSwitchd
