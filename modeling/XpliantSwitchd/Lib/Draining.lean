import XpliantSwitchd.Lib.Hmap
import Mathlib.Data.List.TakeWhile

/-!
# Emptying a hash table that shrinks meanwhile

An iteration that is safe against the removal of the current node fetches the next one
beforehand.  When the removal also shrinks the table, the nodes are laid out in a new
order around the fetched node, and those that come to lie before it are passed over
unless a later resize brings them behind it again.  The theorem below says exactly
when the iteration empties the table.
-/

namespace XpliantSwitchd
namespace Hmap

variable {α : Type*}

/-- A list with a member at some position is cut there. -/
theorem exists_cut {nodes : List α} {count : Nat} (positive : 0 < count)
    (within : count ≤ nodes.length) :
    ∃ front node rest, nodes = front ++ node :: rest ∧ front.length + 1 = count := by
  have inside : count - 1 < nodes.length := by omega
  refine ⟨nodes.take (count - 1), nodes[count - 1], nodes.drop (count - 1 + 1), ?_, ?_⟩
  · rw [← List.drop_eq_getElem_cons inside, List.take_append_drop]
  · rw [List.length_take]
    omega

variable [DecidableEq α]

/-- `HMAP_FOR_EACH_SAFE` from a node on, the body removing the current node and
shrinking the table. -/
def drainFrom (hash : α → Nat) : Nat → Option α → Hmap α → Hmap α
  | fuel + 1, some node, table =>
      drainFrom hash fuel (table.next hash node) ((table.remove hash node).shrink hash)
  | _, _, table => table

@[simp] theorem drainFrom_none (hash : α → Nat) (fuel : Nat) (table : Hmap α) :
    drainFrom hash fuel none table = table := by
  cases fuel with
  | zero => rfl
  | succ fuel => rfl

/-- No node stays behind.  `passed` are the nodes before the cursor and `ahead` those
from it on, in a table of `2 ^ (level + 2)` buckets; the nodes are removed one by one
until half the buckets are enough, and then laid out anew around the next one. -/
def NoneHidden (hash : α → Nat) : Nat → List α → List α → Prop
  | 0, passed, _ => passed = []
  | level + 1, passed, ahead =>
      match ahead.drop (passed.length + ahead.length + 1 - 2 ^ (level + 3)) with
      | [] => False
      | cursor :: rest =>
          let order := relaid hash (2 ^ (level + 2) - 1) (passed ++ cursor :: rest)
          NoneHidden hash level (order.takeWhile (· ≠ cursor)) (order.dropWhile (· ≠ cursor))

instance decidableNoneHidden (hash : α → Nat) :
    (level : Nat) → (passed ahead : List α) → Decidable (NoneHidden hash level passed ahead)
  | 0, passed, _ => inferInstanceAs (Decidable (passed = []))
  | level + 1, passed, ahead =>
      match rest : ahead.drop (passed.length + ahead.length + 1 - 2 ^ (level + 3)) with
      | [] => isFalse (by rw [NoneHidden, rest]; exact not_false)
      | cursor :: others =>
          let order := relaid hash (2 ^ (level + 2) - 1) (passed ++ cursor :: others)
          have := decidableNoneHidden hash level (order.takeWhile (· ≠ cursor))
            (order.dropWhile (· ≠ cursor))
          decidable_of_iff (NoneHidden hash level (order.takeWhile (· ≠ cursor))
            (order.dropWhile (· ≠ cursor))) (by rw [NoneHidden, rest])

section Steps

variable {hash : α → Nat} {table : Hmap α} {node : α} {passed ahead : List α}

/-- One round of the iteration. -/
theorem Sound.round
    (sound : Sound hash table)
    (order : table.nodes = passed ++ node :: ahead) :
    table.next hash node = ahead.head? ∧
      Sound hash ((table.remove hash node).shrink hash) ∧
      ((table.remove hash node).shrink hash).nodes =
        if calcMask (passed.length + ahead.length) < table.mask then
          relaid hash (calcMask (passed.length + ahead.length)) (passed ++ ahead)
        else passed ++ ahead := by
  have left := sound.placed.nodes_remove sound.nodup order
  have count : (table.remove hash node).nodes.length = passed.length + ahead.length := by
    rw [left, List.length_append]
  have total : table.nodes.length = passed.length + ahead.length + 1 := by
    rw [order, List.length_append, List.length_cons]
    omega
  have bounded := sound.bounded
  have distinct : (passed ++ ahead).Nodup := by
    have nodup := sound.nodup
    rw [order, List.nodup_middle] at nodup
    exact (List.nodup_cons.mp nodup).2
  refine ⟨sound.placed.next_eq sound.nodup order, ?_, ?_⟩
  · apply sound_shrink (sound.placed.remove node)
    · rw [left]
      exact distinct
    · rw [count]
      have grows : calcMask (passed.length + ahead.length) ≤
          calcMask (passed.length + ahead.length + 1) := calcMask_le_succ (by omega)
      rw [← total, ← sound.mask_eq] at grows
      exact grows
    · omega
  · have sameMask : (table.remove hash node).mask = table.mask := rfl
    unfold shrink
    rw [count, sameMask]
    split
    · rw [nodes_resize, left]
    · exact left

/-- The other nodes are left, in one order or another. -/
theorem Sound.round_perm
    (sound : Sound hash table)
    (order : table.nodes = passed ++ node :: ahead) :
    ((table.remove hash node).shrink hash).nodes.Perm (passed ++ ahead) := by
  rw [(sound.round order).2.2]
  split
  · exact relaid_perm _ _ _
  · exact List.Perm.refl _

/-- While the number of nodes keeps the mask, the iteration takes the nodes in their
order. -/
theorem Sound.drain_within
    {level : Nat}
    {front : List α}
    (sound : Sound hash table)
    (order : table.nodes = passed ++ (front ++ ahead))
    (low : InLevel level (passed.length + ahead.length))
    (high : passed.length + (front ++ ahead).length < 2 ^ (level + 3)) :
    ∃ later, Sound hash later ∧ later.nodes = passed ++ ahead ∧ ∀ fuel,
      drainFrom hash (front.length + fuel) (front ++ ahead).head? table =
        drainFrom hash fuel ahead.head? later := by
  induction front generalizing table with
  | nil => exact ⟨table, sound, order, fun fuel => by simp⟩
  | cons node front inductionHypothesis =>
      rw [List.cons_append] at order
      obtain ⟨nextNode, soundAfter, orderAfter⟩ := sound.round order
      rw [List.cons_append, List.length_cons, List.length_append] at high
      have bounded := sound.bounded
      rw [order, List.length_append, List.length_cons, List.length_append] at bounded
      have atLeast : 2 ^ (level + 2) ≤ passed.length + (front ++ ahead).length ∨
          level = 0 ∧ 2 ≤ passed.length + (front ++ ahead).length := by
        have lower := low.1
        rw [List.length_append]
        omega
      have now : InLevel level (passed.length + (front ++ ahead).length) :=
        ⟨atLeast, by rw [List.length_append]; omega⟩
      have start : InLevel level table.nodes.length := by
        rw [order, List.length_append, List.length_cons]
        exact ⟨by omega, by rw [List.length_append]; omega⟩
      have keeps : ¬calcMask (passed.length + (front ++ ahead).length) < table.mask := by
        rw [sound.mask_eq, start.calcMask sound.bounded,
          now.calcMask (by rw [List.length_append]; omega)]
        exact lt_irrefl _
      rw [if_neg keeps] at orderAfter
      obtain ⟨later, soundLater, orderLater, same⟩ := inductionHypothesis soundAfter
        orderAfter (by rw [List.length_append]; omega)
      refine ⟨later, soundLater, orderLater, fun fuel => ?_⟩
      rw [← same fuel, List.length_cons, show front.length + 1 + fuel = front.length + fuel + 1
        by omega, List.cons_append, List.head?_cons, drainFrom, nextNode]

/-- With less than eight nodes the iteration takes all that it has not passed. -/
theorem Sound.drain_few
    (sound : Sound hash table)
    (order : table.nodes = passed ++ ahead)
    (few : passed.length + ahead.length < 8)
    {fuel : Nat}
    (enough : ahead.length ≤ fuel) :
    (drainFrom hash fuel ahead.head? table).nodes = passed := by
  induction ahead generalizing table fuel with
  | nil =>
      rw [List.append_nil] at order
      rw [List.head?_nil, drainFrom_none, order]
  | cons node ahead inductionHypothesis =>
      obtain ⟨nextNode, soundAfter, orderAfter⟩ := sound.round order
      rw [List.length_cons] at few enough
      have rest : ((table.remove hash node).shrink hash).nodes = passed ++ ahead := by
        rw [orderAfter]
        split
        · rename_i smaller
          apply relaid_of_length_le_one
          rw [List.length_append]
          by_contra several
          have before : InLevel 0 (passed.length + ahead.length + 1) :=
            ⟨Or.inr ⟨rfl, by omega⟩, by omega⟩
          have now : InLevel 0 (passed.length + ahead.length) :=
            ⟨Or.inr ⟨rfl, by omega⟩, by omega⟩
          rw [sound.mask_eq, order, List.length_append, List.length_cons, ← Nat.add_assoc,
            before.calcMask (by omega), now.calcMask (by omega)] at smaller
          exact lt_irrefl _ smaller
        · rfl
      cases fuel with
      | zero => omega
      | succ fuel =>
          rw [List.head?_cons, drainFrom, nextNode]
          exact inductionHypothesis soundAfter rest (by omega) (by omega)

end Steps

section Resizes

variable {hash : α → Nat} {table : Hmap α} {passed ahead : List α}

/-- A list is cut at its first occurrence of a member. -/
theorem cut_at {nodes : List α} {cursor : α} (member : cursor ∈ nodes) :
    nodes = nodes.takeWhile (· ≠ cursor) ++ nodes.dropWhile (· ≠ cursor) ∧
      (nodes.dropWhile (· ≠ cursor)).head? = some cursor := by
  refine ⟨List.takeWhile_append_dropWhile.symm, ?_⟩
  obtain ⟨front, back, rfl, absent⟩ := List.eq_append_cons_of_mem member
  rw [List.dropWhile_append_of_pos, List.dropWhile_cons_of_neg (by simp)]
  · rfl
  · intro other listed
    have different : other ≠ cursor := fun same => absent (same ▸ listed)
    simpa using different

/-- The iteration ends before a resize when it has too few nodes to go. -/
theorem Sound.drain_short
    {level : Nat}
    (sound : Sound hash table)
    (order : table.nodes = passed ++ ahead)
    (low : 2 ^ (level + 2) ≤ passed.length)
    (high : passed.length + ahead.length < 2 ^ (level + 3))
    {fuel : Nat}
    (enough : ahead.length ≤ fuel) :
    (drainFrom hash fuel ahead.head? table).nodes = passed := by
  have inLevel : InLevel level (passed.length + ([] : List α).length) :=
    ⟨Or.inl low, show passed.length + 0 < 2 ^ (level + 3) by omega⟩
  rw [← List.append_nil ahead] at order high
  obtain ⟨later, -, left, same⟩ := sound.drain_within order inLevel high
  have final := same (fuel - ahead.length)
  rw [show ahead.length + (fuel - ahead.length) = fuel by omega, List.append_nil,
    List.head?_nil, drainFrom_none] at final
  rw [final, left, List.append_nil]

/-- The rounds up to a resize, and the order after it. -/
theorem Sound.drain_to_resize
    {level : Nat}
    {front rest : List α}
    {node : α}
    (sound : Sound hash table)
    (order : table.nodes = passed ++ (front ++ node :: rest))
    (half : passed.length + (rest.length + 1) = 2 ^ (level + 3))
    (high : passed.length + (front.length + (rest.length + 1)) < 2 ^ (level + 4)) :
    ∃ later, Sound hash later ∧
      later.nodes = relaid hash (2 ^ (level + 2) - 1) (passed ++ rest) ∧ ∀ fuel,
        drainFrom hash (front.length + 1 + fuel) (front ++ node :: rest).head? table =
          drainFrom hash fuel rest.head? later := by
  have double : 2 ^ (level + 4) = 2 * 2 ^ (level + 3) := Nat.pow_succ'
  have bounded := sound.bounded
  rw [order, List.length_append, List.length_append, List.length_cons] at bounded
  have inLevel : InLevel (level + 1) (passed.length + (node :: rest).length) := by
    rw [List.length_cons, half]
    exact ⟨Or.inl (Nat.le_refl _), show 2 ^ (level + 3) < 2 ^ (level + 4) by omega⟩
  obtain ⟨cut, soundCut, orderCut, same⟩ := sound.drain_within order inLevel
    (by rw [List.length_append, List.length_cons]; exact high)
  obtain ⟨nextNode, soundAfter, orderAfter⟩ := soundCut.round orderCut
  have four : 2 ^ (level + 3) = 2 * 2 ^ (level + 2) := Nat.pow_succ'
  have positive : 4 ≤ 2 ^ (level + 2) := Nat.pow_le_pow_right (n := 2) (by decide)
    (show 2 ≤ level + 2 by omega)
  have now : InLevel level (passed.length + rest.length) :=
    ⟨Or.inl (by omega), by omega⟩
  have mask : cut.mask = 2 ^ (level + 3) - 1 := by
    rw [soundCut.mask_eq, orderCut, List.length_append]
    exact inLevel.calcMask (by rw [List.length_cons]; omega)
  rw [now.calcMask (by omega), if_pos (by omega)] at orderAfter
  refine ⟨_, soundAfter, orderAfter, fun fuel => ?_⟩
  rw [show front.length + 1 + fuel = front.length + (fuel + 1) by omega, same, List.head?_cons,
    drainFrom, nextNode]

/-- The iteration empties a table exactly when no node stays behind. -/
theorem Sound.drain_nodes_eq_nil_iff
    {level : Nat}
    (sound : Sound hash table)
    (order : table.nodes = passed ++ ahead)
    (high : passed.length + ahead.length < 2 ^ (level + 3))
    (low : level = 0 ∨ 2 ^ (level + 2) ≤ passed.length + ahead.length)
    {fuel : Nat}
    (enough : passed.length + ahead.length ≤ fuel) :
    (drainFrom hash fuel ahead.head? table).nodes = [] ↔
      NoneHidden hash level passed ahead := by
  induction level generalizing table passed ahead fuel with
  | zero => rw [sound.drain_few order high (by omega), NoneHidden]
  | succ level inductionHypothesis =>
      have total : 2 ^ (level + 3) ≤ passed.length + ahead.length := by
        cases low with
        | inl zero => omega
        | inr large => exact large
      have double : 2 ^ (level + 3) = 2 * 2 ^ (level + 2) := Nat.pow_succ'
      have positive : 4 ≤ 2 ^ (level + 2) := Nat.pow_le_pow_right (n := 2) (by decide)
        (show 2 ≤ level + 2 by omega)
      generalize removed : passed.length + ahead.length + 1 - 2 ^ (level + 3) = count
      unfold NoneHidden
      rw [removed]
      by_cases short : ahead.length < count
      · have low : 2 ^ (level + 3) ≤ passed.length := by omega
        rw [sound.drain_short order low high (by omega), List.drop_eq_nil_of_le (by omega),
          iff_false]
        intro nothing
        rw [nothing, List.length_nil] at total removed
        omega
      · obtain ⟨front, node, rest, rfl, length⟩ := exists_cut (show 0 < count by omega)
          (Nat.le_of_not_lt short)
        rw [List.length_append, List.length_cons] at removed enough high
        obtain ⟨later, soundLater, laid, same⟩ := sound.drain_to_resize order (by omega) high
        have final := same (fuel - (front.length + 1))
        rw [show front.length + 1 + (fuel - (front.length + 1)) = fuel by omega] at final
        have dropped : (front ++ node :: rest).drop count = rest := by
          rw [← length, List.drop_append]
          simp
        rw [final, dropped]
        have perm := relaid_perm hash (2 ^ (level + 2) - 1) (passed ++ rest)
        have size := perm.length_eq
        rw [List.length_append] at size
        cases rest with
        | nil =>
            rw [List.head?_nil, drainFrom_none, laid, iff_false]
            intro nothing
            rw [nothing] at size
            simp only [List.length_nil] at size removed
            omega
        | cons cursor rest =>
            have member : cursor ∈ relaid hash (2 ^ (level + 2) - 1)
                (passed ++ cursor :: rest) :=
              perm.mem_iff.mpr (List.mem_append_right _ List.mem_cons_self)
            obtain ⟨cut, head⟩ := cut_at member
            have lengths := congrArg List.length cut
            rw [List.length_append, size, List.length_cons] at lengths
            rw [List.length_cons] at removed enough
            rw [List.head?_cons, ← head]
            apply inductionHypothesis soundLater (laid.trans cut)
            · omega
            · omega
            · omega

/-- The iteration over a whole table. -/
theorem Sound.drain_all_iff (sound : Sound hash table) :
    (drainFrom hash table.nodes.length table.first table).nodes = [] ↔
      NoneHidden hash (level table.nodes.length) [] table.nodes := by
  have size : table.nodes.length < 2 ^ (level table.nodes.length + 3) ∧
      (level table.nodes.length = 0 ∨
        2 ^ (level table.nodes.length + 2) ≤ table.nodes.length) := by
    by_cases several : 2 ≤ table.nodes.length
    · obtain ⟨low, high⟩ := inLevel_level several
      exact ⟨high, low.symm.imp_left And.left⟩
    · have few : Nat.log 2 table.nodes.length = 0 := Nat.log_of_lt (by omega)
      have zero : level table.nodes.length = 0 := by
        rw [level, few]
      rw [zero]
      exact ⟨by omega, Or.inl rfl⟩
  rw [first_eq]
  have total : ([] : List α).length + table.nodes.length = table.nodes.length :=
    Nat.zero_add _
  exact sound.drain_nodes_eq_nil_iff (List.nil_append _).symm (total.symm ▸ size.1)
    (total.symm ▸ size.2) total.le

end Resizes

/-! ## What a resize hides -/

section Hiding

variable {hash : α → Nat} {mask : Nat} {cursor : α} {passed rest : List α}

/-- The nodes that a resize lays before the cursor are those of the lower buckets and,
in the bucket of the cursor, those that came after it. -/
theorem takeWhile_relaid (nodup : (passed ++ cursor :: rest).Nodup) :
    (relaid hash mask (passed ++ cursor :: rest)).takeWhile (· ≠ cursor) =
      ((List.range (hash cursor &&& mask)).flatMap fun index =>
        ((passed ++ cursor :: rest).filter fun node => hash node &&& mask = index).reverse) ++
      (rest.filter fun node => hash node &&& mask = hash cursor &&& mask).reverse := by
  rw [List.nodup_middle, List.nodup_cons] at nodup
  have apart : cursor ∉ rest := fun listed => nodup.1 (List.mem_append_right _ listed)
  obtain ⟨higher, laid⟩ : ∃ higher, relaid hash mask (passed ++ cursor :: rest) =
      ((List.range (hash cursor &&& mask)).flatMap fun index =>
        ((passed ++ cursor :: rest).filter fun node => hash node &&& mask = index).reverse) ++
      (((passed ++ cursor :: rest).filter fun node =>
        hash node &&& mask = hash cursor &&& mask).reverse ++ higher) :=
    ⟨_, nodes_eq ⟨mask, fun index =>
      ((passed ++ cursor :: rest).filter fun node => hash node &&& mask = index).reverse⟩
      (show hash cursor &&& mask ≤ mask from Nat.and_le_right)⟩
  have bucket : ((passed ++ cursor :: rest).filter fun node =>
      hash node &&& mask = hash cursor &&& mask).reverse =
        (rest.filter fun node => hash node &&& mask = hash cursor &&& mask).reverse ++
          cursor :: (passed.filter fun node =>
            hash node &&& mask = hash cursor &&& mask).reverse := by
    rw [List.filter_append, List.filter_cons_of_pos (by simp), List.reverse_append,
      List.reverse_cons, List.append_assoc, List.singleton_append]
  rw [laid, bucket, List.append_assoc, ← List.append_assoc, List.cons_append,
    List.takeWhile_append_of_pos, List.takeWhile_cons_of_neg (by simp), List.append_nil]
  · intro node listed
    have different : node ≠ cursor := by
      rintro rfl
      cases List.mem_append.mp listed with
      | inl lower =>
          obtain ⟨index, below, member⟩ := List.mem_flatMap.mp lower
          have same := (List.mem_filter.mp (List.mem_reverse.mp member)).2
          rw [decide_eq_true_eq] at same
          have strict := List.mem_range.mp below
          omega
      | inr later => exact apart (List.mem_filter.mp (List.mem_reverse.mp later)).1
    simpa using different

theorem mem_takeWhile_relaid_iff
    (nodup : (passed ++ cursor :: rest).Nodup)
    (node : α) :
    node ∈ (relaid hash mask (passed ++ cursor :: rest)).takeWhile (· ≠ cursor) ↔
      node ∈ passed ++ cursor :: rest ∧ hash node &&& mask < hash cursor &&& mask ∨
        node ∈ rest ∧ hash node &&& mask = hash cursor &&& mask := by
  rw [takeWhile_relaid nodup]
  simp only [List.mem_append, List.mem_flatMap, List.mem_range, List.mem_reverse,
    List.mem_filter, decide_eq_true_eq]
  constructor
  · intro hidden
    cases hidden with
    | inl lower =>
        obtain ⟨index, below, listed, same⟩ := lower
        exact Or.inl ⟨listed, same ▸ below⟩
    | inr later => exact Or.inr later
  · intro hidden
    cases hidden with
    | inl lower => exact Or.inl ⟨_, lower.2, lower.1, rfl⟩
    | inr later => exact Or.inr later

/-- With 8 to 15 nodes there is one resize, around the seventh node from the end: the
other six have to lie in higher buckets. -/
theorem noneHidden_one_iff
    {front : List α}
    (nodup : (cursor :: rest).Nodup)
    (six : rest.length = 6) :
    NoneHidden hash 1 [] (front ++ cursor :: rest) ↔
      ∀ node ∈ rest, hash cursor &&& 3 < hash node &&& 3 := by
  have count : ([] : List α).length + (front ++ cursor :: rest).length + 1 - 2 ^ (0 + 3) =
      front.length := by
    rw [List.length_nil, List.length_append, List.length_cons]
    omega
  have dropped : (front ++ cursor :: rest).drop front.length = cursor :: rest := by
    simp
  rw [NoneHidden, count, dropped]
  have hidden_iff := @mem_takeWhile_relaid_iff α _ hash 3 cursor [] rest nodup
  show (relaid hash 3 (cursor :: rest)).takeWhile (· ≠ cursor) = [] ↔ _
  rw [List.eq_nil_iff_forall_not_mem]
  constructor
  · intro none node listed
    have notHidden := (hidden_iff node).not.mp (none node)
    have notLower : ¬hash node &&& 3 < hash cursor &&& 3 :=
      fun lower => notHidden (Or.inl ⟨List.mem_cons_of_mem _ listed, lower⟩)
    have notSame : ¬hash node &&& 3 = hash cursor &&& 3 :=
      fun same => notHidden (Or.inr ⟨listed, same⟩)
    omega
  · intro higher node hidden
    cases (hidden_iff node).mp hidden with
    | inl lower =>
        cases List.mem_cons.mp lower.1 with
        | inl same =>
            rw [same] at lower
            exact lt_irrefl _ lower.2
        | inr listed => exact lt_asymm lower.2 (higher node listed)
    | inr same => exact absurd same.2 (Nat.ne_of_gt (higher node same.1))

end Hiding

end Hmap
end XpliantSwitchd
