import Mathlib.Data.Finset.Card
import XpliantSwitchd.Classifier.Update
import XpliantSwitchd.Lib.Ring

/-!
# The links of the rule lists

The rules of an entry are on a circular list through the `rule_list` of the entry.
`ops_xp_cls_list_update` builds new lists on heads on its stack, copies heads by value
and turns the links of the new lists by hand.  This module follows the links
themselves: what `malloc` and `free` do is explicit, and a loop over rules that runs
into something else is not defined.
-/

namespace XpliantSwitchd
namespace Classifier

open Ternary XpliantSwitchd.Ring

variable {Uuid : Type}

/-- What a link points to: the list head of the entry of a list in a table, the list
head for a table on the stack of the update, or a rule. -/
inductive Addr (Uuid : Type)
  | entry (table : AclTable) (listId : Uuid)
  | stack (table : AclTable)
  | rule (block : Nat)
  deriving DecidableEq

/-- The entries of the maps with their rule lists.  A rule is live from `malloc` to
`free`. -/
structure RuleHeap (Uuid : Type) where
  links : Links (Addr Uuid)
  live : Finset Nat
  rules : Nat → AclRule
  present : AclTable → Uuid → Bool
  numRules : AclTable → Uuid → UInt16

/-- The blocks that `malloc` returns for the rules of a list, and what the TCAM
manager returns for them. -/
structure Made where
  block : AclTable → Nat → Nat
  ruleIndex : AclTable → Nat → Nat

/-- The rules that `ops_xp_cls_create_rule_entry_list` makes, with their blocks. -/
def madeRules (made : Made) (table : AclTable) (entries : List ListEntry) :
    List (Nat × AclRule) :=
  entries.zipIdx.map fun item =>
    (made.block table item.2, { ruleId := made.ruleIndex table item.2,
                                counterEn := item.1.entryActions.count
                                count := 0 })

/-! ## Operations -/

section Operations

variable [DecidableEq Uuid]

/-- `malloc` of a rule and `list_push_back`. -/
def pushRule (head : Addr Uuid) (heap : RuleHeap Uuid) (made : Nat × AclRule) :
    RuleHeap Uuid :=
  { heap with
    links := heap.links.insert head (.rule made.1)
    live := insert made.1 heap.live
    rules := Function.update heap.rules made.1 made.2 }

/-- Set `num_rules` of an entry. -/
def setNumRules (heap : RuleHeap Uuid) (table : AclTable) (listId : Uuid)
    (numRules : UInt16) : RuleHeap Uuid :=
  { heap with
    numRules := Function.update heap.numRules table
      (Function.update (heap.numRules table) listId numRules) }

theorem setNumRules_numRules (heap : RuleHeap Uuid) (table other : AclTable)
    (listId otherId : Uuid) (numRules : UInt16) :
    (setNumRules heap table listId numRules).numRules other otherId =
      if other = table ∧ otherId = listId then numRules
      else heap.numRules other otherId := by
  by_cases sameTable : other = table
  · subst sameTable
    simp [setNumRules, Function.update_apply]
  · simp [setNumRules, sameTable]

/-- `ops_xp_cls_create_rule_entry_list` for an entry, on a list head. -/
def createRuleList (heap : RuleHeap Uuid) (table : AclTable) (listId : Uuid)
    (head : Addr Uuid) (rules : List (Nat × AclRule)) : RuleHeap Uuid :=
  rules.foldl (pushRule head)
    (setNumRules heap table listId (UInt16.ofNat rules.length))

/-- `list_remove` and `free` of a rule. -/
def freeRule (heap : RuleHeap Uuid) (block : Nat) : RuleHeap Uuid :=
  { heap with links := heap.links.remove (.rule block), live := heap.live.erase block }

/-- The loop of `ops_xp_cls_destroy_rule_entry_list` from a position on.  Anything
but a live rule in the place of a rule is not defined. -/
def destroyFrom (head : Addr Uuid) : Nat → RuleHeap Uuid → Addr Uuid →
    Option (RuleHeap Uuid)
  | 0, heap, position => if position = head then some heap else none
  | fuel + 1, heap, position =>
      if position = head then some heap
      else
        match position with
        | .rule block =>
            if block ∈ heap.live then
              destroyFrom head fuel (freeRule heap block)
                (heap.links.next (.rule block))
            else none
        | _ => none

/-- `ops_xp_cls_destroy_rule_entry_list` for an entry.  Each round frees a rule. -/
def destroyRuleList (heap : RuleHeap Uuid) (head : Addr Uuid) : Option (RuleHeap Uuid) :=
  destroyFrom head heap.live.card heap (heap.links.next head)

/-- Note whether a list has an entry in the map of a table. -/
def setPresent (heap : RuleHeap Uuid) (table : AclTable) (listId : Uuid)
    (present : Bool) : RuleHeap Uuid :=
  { heap with
    present := Function.update heap.present table
      (Function.update (heap.present table) listId present) }

theorem setPresent_present (heap : RuleHeap Uuid) (table other : AclTable)
    (listId otherId : Uuid) (present : Bool) :
    (setPresent heap table listId present).present other otherId =
      if other = table ∧ otherId = listId then present
      else heap.present other otherId := by
  by_cases sameTable : other = table
  · subst sameTable
    simp [setPresent, Function.update_apply]
  · simp [setPresent, sameTable]

/-- `ops_xp_cls_acl_add`: a new entry with its list. -/
def addEntry (heap : RuleHeap Uuid) (made : Made) (table : AclTable)
    (list : ClsList Uuid) : RuleHeap Uuid :=
  let head := Addr.entry table list.listId
  let heap := setNumRules (setPresent heap table list.listId true) table list.listId 0
  let heap := { heap with links := heap.links.init head }
  match list.entries with
  | some entries =>
      createRuleList heap table list.listId head (madeRules made table entries)
  | none => heap

/-- `ops_xp_cls_acl_delete`. -/
def deleteEntry (heap : RuleHeap Uuid) (table : AclTable) (listId : Uuid) :
    Option (RuleHeap Uuid) :=
  (destroyRuleList heap (.entry table listId)).map fun heap =>
    setPresent heap table listId false

/-- The new list of an entry, on the stack and by value in the entry, with the old
value of its list head. -/
def rebuildLinks (heap : RuleHeap Uuid) (made : Made) (list : ClsList Uuid)
    (table : AclTable) : Option (Addr Uuid × Addr Uuid) × RuleHeap Uuid :=
  let head := Addr.entry table list.listId
  let new := Addr.stack table
  if heap.present table list.listId then
    let old := (heap.links.next head, heap.links.prev head)
    let heap := { heap with links := heap.links.init new }
    match list.entries with
    | some entries =>
        let heap := createRuleList heap table list.listId new
          (madeRules made table entries)
        (some old, { heap with
          links := heap.links.assign head (heap.links.next new, heap.links.prev new) })
    | none => (none, heap)
  else (none, heap)

/-- After a failure: destroy the list in the entry, and put the old head back. -/
def keepOld (table : AclTable) (listId : Uuid) (old : Option (Addr Uuid × Addr Uuid))
    (heap : RuleHeap Uuid) : Option (RuleHeap Uuid) :=
  match old with
  | some old =>
      (destroyRuleList heap (.entry table listId)).map fun heap =>
        { heap with links := heap.links.assign (.entry table listId) old }
  | none => some heap

/-- After a success: put the old head back, destroy its list, and give the entry the
list on the stack. -/
def keepNew (table : AclTable) (listId : Uuid) (old : Option (Addr Uuid × Addr Uuid))
    (heap : RuleHeap Uuid) : Option (RuleHeap Uuid) :=
  match old with
  | some old =>
      let heap := { heap with links := heap.links.assign (.entry table listId) old }
      (destroyRuleList heap (.entry table listId)).map fun heap =>
        { heap with links := heap.links.adopt (.entry table listId) (.stack table) }
  | none => some heap

/-- `ops_xp_cls_list_update`. -/
def listUpdateLinks (made : Made) (unset : Unset) (heap : RuleHeap Uuid)
    (list : ClsList Uuid) (status : StatusCode) : Option (StatusCode × RuleHeap Uuid) :=
  let pdStatus := clsValidateEntries list unset.pdStatus
  if pdStatus.statusCode = .hwUnsupportedErr then some (.hwUnsupportedErr, heap)
  else
    let (oldPacl, heap) := rebuildLinks heap made list .pacl
    let (oldRacl, heap) := rebuildLinks heap made list .racl
    if oldPacl.isNone && oldRacl.isNone then some (.hwConfigErr, heap)
    else if (oldPacl.isSome && unset.paclResult != 0) ||
        (oldRacl.isSome && unset.raclResult != 0) then
      ((keepOld .pacl list.listId oldPacl heap).bind
        (keepOld .racl list.listId oldRacl)).map fun heap => (.hwConfigErr, heap)
    else
      ((keepNew .pacl list.listId oldPacl heap).bind
        (keepNew .racl list.listId oldRacl)).map fun heap => (status, heap)

end Operations

/-! ## Lists of rules -/

/-- The members of a list of rules. -/
def nodesOf (blocks : List Nat) : List (Addr Uuid) := blocks.map .rule

@[simp] theorem mem_nodesOf {blocks : List Nat} {block : Nat} :
    (Addr.rule block : Addr Uuid) ∈ nodesOf blocks ↔ block ∈ blocks := by
  simp [nodesOf]

@[simp] theorem entry_not_mem_nodesOf {blocks : List Nat} {table : AclTable}
    {listId : Uuid} : Addr.entry table listId ∉ nodesOf blocks := by
  simp [nodesOf]

@[simp] theorem stack_not_mem_nodesOf {blocks : List Nat} {table : AclTable} :
    (Addr.stack table : Addr Uuid) ∉ nodesOf blocks := by
  simp [nodesOf]

/-- The links from a head go through rules that are live, each once, and back. -/
structure Chained (heap : RuleHeap Uuid) (head : Addr Uuid) (blocks : List Nat) :
    Prop where
  ring : IsRing heap.links head (nodesOf blocks)
  live : ∀ block ∈ blocks, block ∈ heap.live

/-- Everything but what belongs to some members is as it was: their links, a rule
with its life, the fields of an entry. -/
structure Leaves (heap after : RuleHeap Uuid) (touched : List (Addr Uuid)) : Prop where
  links : ∀ node, node ∉ touched → after.links.next node = heap.links.next node ∧
    after.links.prev node = heap.links.prev node
  live : ∀ block, .rule block ∉ touched → (block ∈ after.live ↔ block ∈ heap.live)
  rules : ∀ block, .rule block ∉ touched → after.rules block = heap.rules block
  present : ∀ table listId, .entry table listId ∉ touched →
    after.present table listId = heap.present table listId
  numRules : ∀ table listId, .entry table listId ∉ touched →
    after.numRules table listId = heap.numRules table listId

section Frames

variable {heap between after : RuleHeap Uuid} {touched touched' : List (Addr Uuid)}
  {head : Addr Uuid} {blocks : List Nat}

theorem Leaves.refl (heap : RuleHeap Uuid) : Leaves heap heap touched :=
  ⟨fun _ _ => ⟨rfl, rfl⟩, fun _ _ => Iff.rfl, fun _ _ => rfl, fun _ _ _ => rfl,
    fun _ _ _ => rfl⟩

/-- Members that are touched in neither of two steps. -/
theorem Leaves.trans
    (first : Leaves heap between touched)
    (second : Leaves between after touched') : Leaves heap after (touched ++ touched') := by
  refine ⟨?_, ?_, ?_, ?_, ?_⟩
  · intro node outside
    rw [List.mem_append, not_or] at outside
    obtain ⟨next, prev⟩ := second.links node outside.2
    obtain ⟨next', prev'⟩ := first.links node outside.1
    exact ⟨next.trans next', prev.trans prev'⟩
  · intro block outside
    rw [List.mem_append, not_or] at outside
    exact (second.live block outside.2).trans (first.live block outside.1)
  · intro block outside
    rw [List.mem_append, not_or] at outside
    exact (second.rules block outside.2).trans (first.rules block outside.1)
  · intro table listId outside
    rw [List.mem_append, not_or] at outside
    exact (second.present table listId outside.2).trans
      (first.present table listId outside.1)
  · intro table listId outside
    rw [List.mem_append, not_or] at outside
    exact (second.numRules table listId outside.2).trans
      (first.numRules table listId outside.1)

theorem Leaves.mono
    (leaves : Leaves heap after touched)
    (within : ∀ node ∈ touched, node ∈ touched') : Leaves heap after touched' where
  links := fun node outside => leaves.links node fun inside => outside (within _ inside)
  live := fun block outside => leaves.live block fun inside => outside (within _ inside)
  rules := fun block outside => leaves.rules block fun inside => outside (within _ inside)
  present := fun table listId outside =>
    leaves.present table listId fun inside => outside (within _ inside)
  numRules := fun table listId outside =>
    leaves.numRules table listId fun inside => outside (within _ inside)

/-- A list of which no member is touched. -/
theorem Chained.leaves
    (chained : Chained heap head blocks)
    (leaves : Leaves heap after touched)
    (apart : ∀ node ∈ head :: nodesOf blocks, node ∉ touched) :
    Chained after head blocks where
  ring := chained.ring.congr fun node member => leaves.links node (apart node member)
  live := by
    intro block member
    have outside := apart (.rule block) (List.mem_cons_of_mem _ (mem_nodesOf.mpr member))
    exact (leaves.live block outside).mpr (chained.live block member)

end Frames

/-! ## The loops over rules -/

section Loops

variable [DecidableEq Uuid] {heap : RuleHeap Uuid} {head : Addr Uuid}
  {blocks : List Nat}

theorem pushRules_fields (head : Addr Uuid) (made : List (Nat × AclRule))
    (heap : RuleHeap Uuid) :
    (made.foldl (pushRule head) heap).present = heap.present ∧
      (made.foldl (pushRule head) heap).numRules = heap.numRules := by
  induction made generalizing heap with
  | nil => exact ⟨rfl, rfl⟩
  | cons rule made inductionHypothesis => exact inductionHypothesis (pushRule head heap rule)

theorem pushRules_rules (head : Addr Uuid) (made : List (Nat × AclRule))
    (heap : RuleHeap Uuid) {block : Nat} (other : block ∉ made.map (·.1)) :
    (made.foldl (pushRule head) heap).rules block = heap.rules block := by
  induction made generalizing heap with
  | nil => rfl
  | cons rule made inductionHypothesis =>
      rw [List.map_cons, List.mem_cons, not_or] at other
      rw [List.foldl_cons, inductionHypothesis (pushRule head heap rule) other.2]
      exact Function.update_of_ne other.1 ..

/-- `malloc` and `list_push_back` of one rule. -/
theorem Chained.pushRule
    {block : Nat}
    (rule : AclRule)
    (chained : Chained heap head blocks)
    (notRule : ∀ block, head ≠ .rule block)
    (fresh : block ∉ blocks) :
    Chained (Classifier.pushRule head heap (block, rule)) head (blocks ++ [block]) ∧
      Leaves heap (Classifier.pushRule head heap (block, rule))
        (head :: nodesOf (blocks ++ [block])) := by
  have outside : (Addr.rule block : Addr Uuid) ∉ head :: nodesOf blocks := by
    rw [List.mem_cons, not_or]
    exact ⟨fun same => notRule block same.symm, fun member => fresh (mem_nodesOf.mp member)⟩
  refine ⟨⟨?_, ?_⟩, ?_, ?_, ?_, fun _ _ _ => rfl, fun _ _ _ => rfl⟩
  · have inserted := chained.ring.insert outside
    change IsRing (heap.links.insert head (.rule block)) head _
    simpa [nodesOf] using inserted
  · intro other member
    rcases List.mem_append.mp member with old | new
    · exact Finset.mem_insert_of_mem (chained.live other old)
    · rw [List.mem_singleton.mp new]
      exact Finset.mem_insert_self ..
  · intro node elsewhere
    refine chained.ring.insert_frame outside ?_
    simp only [nodesOf, List.map_append, List.map_cons, List.map_nil, List.mem_cons,
      List.mem_append, List.not_mem_nil, or_false, not_or] at elsewhere ⊢
    exact ⟨elsewhere.2.2, elsewhere.1, elsewhere.2.1⟩
  · intro other elsewhere
    simp only [List.mem_cons, mem_nodesOf, List.mem_append, List.not_mem_nil, or_false,
      not_or] at elsewhere
    exact Finset.mem_insert.trans (or_iff_right elsewhere.2.2)
  · intro other elsewhere
    simp only [List.mem_cons, mem_nodesOf, List.mem_append, List.not_mem_nil, or_false,
      not_or] at elsewhere
    exact Function.update_of_ne elsewhere.2.2 ..

/-- The loop of `ops_xp_cls_create_rule_entry_list`. -/
theorem Chained.pushRules
    (made : List (Nat × AclRule))
    (chained : Chained heap head blocks)
    (notRule : ∀ block, head ≠ .rule block)
    (once : (blocks ++ made.map (·.1)).Nodup) :
    Chained (made.foldl (Classifier.pushRule head) heap) head (blocks ++ made.map (·.1)) ∧
      Leaves heap (made.foldl (Classifier.pushRule head) heap)
        (head :: nodesOf (blocks ++ made.map (·.1))) ∧
      (made.map (·.1)).map (made.foldl (Classifier.pushRule head) heap).rules =
        made.map (·.2) := by
  induction made generalizing heap blocks with
  | nil =>
      rw [List.map_nil, List.append_nil]
      exact ⟨chained, Leaves.refl heap, rfl⟩
  | cons rule made inductionHypothesis =>
      obtain ⟨block, content⟩ := rule
      have split : blocks ++ ((block, content) :: made).map (·.1) =
          (blocks ++ [block]) ++ made.map (·.1) := by simp
      rw [split] at once ⊢
      have fresh : block ∉ blocks := by
        intro member
        have twice := (List.nodup_append.mp once).1
        exact (List.nodup_append.mp twice).2.2 block member block List.mem_cons_self rfl
      have pushed := chained.pushRule content notRule fresh
      obtain ⟨rest, restLeaves, contents⟩ := inductionHypothesis pushed.1 once
      refine ⟨rest, ?_, ?_⟩
      · refine (pushed.2.trans restLeaves).mono ?_
        intro node touched
        rcases List.mem_append.mp touched with first | later
        · rcases List.mem_cons.mp first with isHead | inner
          · exact isHead ▸ List.mem_cons_self
          · refine List.mem_cons_of_mem _ ?_
            rw [nodesOf, List.map_append]
            exact List.mem_append_left _ inner
        · exact later
      · have later : block ∉ made.map (·.1) := fun member =>
          (List.nodup_append.mp once).2.2 block (by simp) block member rfl
        have own : (Classifier.pushRule head heap (block, content)).rules block = content :=
          Function.update_self ..
        rw [List.map_cons, List.map_cons, List.map_cons, List.foldl_cons, contents,
          pushRules_rules _ _ _ later, own]

/-- One round of the loop of `ops_xp_cls_destroy_rule_entry_list`. -/
theorem Chained.freeRule
    {block : Nat}
    (chained : Chained heap head (block :: blocks)) :
    Chained (Classifier.freeRule heap block) head blocks ∧
      Leaves heap (Classifier.freeRule heap block) (head :: nodesOf (block :: blocks)) ∧
      (Classifier.freeRule heap block).links.next head =
        heap.links.next (.rule block) := by
  have ring := chained.ring
  rw [nodesOf, List.map_cons] at ring
  have nodup := (List.nodup_cons.mp ring.nodup).2
  refine ⟨⟨ring.remove, ?_⟩, ⟨?_, ?_, fun _ _ => rfl, fun _ _ _ => rfl, fun _ _ _ => rfl⟩,
    ring.next_remove⟩
  · intro other member
    have different : other ≠ block := by
      rintro rfl
      exact (List.nodup_cons.mp nodup).1 (List.mem_map_of_mem member)
    exact Finset.mem_erase.mpr
      ⟨different, chained.live other (List.mem_cons_of_mem _ member)⟩
  · intro node outside
    exact ring.remove_frame outside
  · intro other outside
    simp only [List.mem_cons, mem_nodesOf, not_or] at outside
    exact Finset.mem_erase.trans (and_iff_right outside.2.1)

/-- The loop of `ops_xp_cls_destroy_rule_entry_list` over the list of its head. -/
theorem Chained.destroyFrom
    {fuel : Nat}
    (chained : Chained heap head blocks)
    (notRule : ∀ block, head ≠ .rule block)
    (enough : blocks.length ≤ fuel) :
    ∃ after, Classifier.destroyFrom head fuel heap (heap.links.next head) = some after ∧
      Leaves heap after (head :: nodesOf blocks) ∧ after.rules = heap.rules ∧
      after.present = heap.present ∧ after.numRules = heap.numRules := by
  induction blocks generalizing heap fuel with
  | nil =>
      have next : heap.links.next head = head := chained.ring.path.1
      refine ⟨heap, ?_, Leaves.refl heap, rfl, rfl, rfl⟩
      cases fuel with
      | zero => simp [Classifier.destroyFrom, next]
      | succ fuel => simp [Classifier.destroyFrom, next]
  | cons block blocks inductionHypothesis =>
      have next : heap.links.next head = .rule block := chained.ring.path.1
      obtain ⟨rest, leaves, nextHead⟩ := chained.freeRule
      cases fuel with
      | zero => exact absurd enough (Nat.not_succ_le_zero _)
      | succ fuel =>
          obtain ⟨after, destroyed, later, rules, present, numRules⟩ :=
            inductionHypothesis rest (Nat.le_of_succ_le_succ enough)
          refine ⟨after, ?_, ?_, rules, present, numRules⟩
          · rw [nextHead] at destroyed
            rw [next, Classifier.destroyFrom, if_neg (notRule block).symm]
            simp only [chained.live block List.mem_cons_self, if_true]
            exact destroyed
          · refine (leaves.trans later).mono ?_
            intro node touched
            rcases List.mem_append.mp touched with first | second
            · exact first
            · rcases List.mem_cons.mp second with isHead | inner
              · exact isHead ▸ List.mem_cons_self
              · exact List.mem_cons_of_mem _ (List.mem_cons_of_mem _ inner)

theorem Chained.destroyRuleList
    (chained : Chained heap head blocks)
    (notRule : ∀ block, head ≠ .rule block) :
    ∃ after, Classifier.destroyRuleList heap head = some after ∧
      Leaves heap after (head :: nodesOf blocks) ∧ after.rules = heap.rules ∧
      after.present = heap.present ∧ after.numRules = heap.numRules := by
  refine chained.destroyFrom notRule ?_
  have nodup : blocks.Nodup := (List.nodup_cons.mp chained.ring.nodup).2.of_map
  rw [← List.toFinset_card_of_nodup nodup]
  refine Finset.card_le_card ?_
  intro block member
  exact chained.live block (List.mem_toFinset.mp member)

/-- From a head, the loop over the list of another head does not come to an end. -/
theorem destroyFrom_astray
    {table : AclTable} {fuel : Nat}
    (different : head ≠ .stack table)
    (notRule : ∀ block, head ≠ .rule block)
    (ring : IsRing heap.links (.stack table) (nodesOf blocks)) :
    destroyFrom head fuel heap (heap.links.next (.stack table)) = none := by
  induction blocks generalizing heap fuel with
  | nil =>
      have next : heap.links.next (.stack table) = .stack table := ring.path.1
      rw [next]
      cases fuel with
      | zero => rw [destroyFrom, if_neg different.symm]
      | succ fuel => simp [destroyFrom, different.symm]
  | cons block blocks inductionHypothesis =>
      rw [nodesOf, List.map_cons] at ring
      have next : heap.links.next (.stack table) = .rule block := ring.path.1
      rw [next]
      cases fuel with
      | zero => rw [destroyFrom, if_neg (notRule block).symm]
      | succ fuel =>
          have nextStack : (freeRule heap block).links.next (.stack table) =
              heap.links.next (.rule block) := ring.next_remove
          have rest := @inductionHypothesis (freeRule heap block) fuel ring.remove
          rw [nextStack] at rest
          rw [destroyFrom, if_neg (notRule block).symm]
          by_cases alive : block ∈ heap.live
          · simp only [alive, if_true]
            exact rest
          · simp only [alive, if_false]

end Loops

/-! ## An entry between two lists -/

/-- The blocks of the new rules of a list. -/
def newBlocks (made : Made) (table : AclTable) (entries : List ListEntry) : List Nat :=
  (madeRules made table entries).map (·.1)

/-- The new rules of a list. -/
def newRules (made : Made) (table : AclTable) (entries : List ListEntry) :
    List AclRule :=
  (madeRules made table entries).map (·.2)

@[simp] theorem length_newBlocks (made : Made) (table : AclTable)
    (entries : List ListEntry) : (newBlocks made table entries).length = entries.length := by
  simp [newBlocks, madeRules]

/-- What an update of a list in a table works on. -/
def sphere (table : AclTable) (listId : Uuid) (blocks : List Nat) : List (Addr Uuid) :=
  .entry table listId :: .stack table :: nodesOf blocks

section Turning

variable [DecidableEq Uuid] {heap after : RuleHeap Uuid} {table : AclTable}
  {listId : Uuid} {old new : List Nat} {rules : List AclRule}

/-- The head of the old list of an entry is saved, and the new list is on the
stack. -/
structure Pending (heap : RuleHeap Uuid) (table : AclTable) (listId : Uuid)
    (saved : Addr Uuid × Addr Uuid) (old new : List Nat) : Prop where
  former : Chained { heap with links := heap.links.assign (.entry table listId) saved }
    (.entry table listId) old
  latter : Chained heap (.stack table) new
  copied : heap.links.next (.entry table listId) = heap.links.next (.stack table)
  apart : ∀ block ∈ old, block ∉ new

/-- Assigning the links of a member concerns only that member. -/
theorem leaves_assign (heap : RuleHeap Uuid) (node : Addr Uuid)
    (value : Addr Uuid × Addr Uuid) :
    Leaves heap { heap with links := heap.links.assign node value } [node] := by
  refine ⟨?_, fun _ _ => Iff.rfl, fun _ _ => rfl, fun _ _ _ => rfl, fun _ _ _ => rfl⟩
  intro other outside
  have different : other ≠ node := fun same => outside (same ▸ List.mem_singleton_self _)
  exact ⟨Function.update_of_ne different .., Function.update_of_ne different ..⟩

theorem Leaves.assign
    {touched : List (Addr Uuid)}
    (leaves : Leaves heap after touched)
    (node : Addr Uuid)
    (value : Addr Uuid × Addr Uuid) :
    Leaves { heap with links := heap.links.assign node value }
      { after with links := after.links.assign node value } touched := by
  refine ⟨?_, leaves.live, leaves.rules, leaves.present, leaves.numRules⟩
  intro other outside
  by_cases same : other = node
  · subst same
    simp
  · simp only [Links.assign_next, Links.assign_prev, Function.update_of_ne same]
    exact leaves.links other outside

/-- What happens elsewhere does not matter to an entry between two lists. -/
theorem Pending.leaves
    {touched : List (Addr Uuid)} {saved : Addr Uuid × Addr Uuid}
    (pending : Pending heap table listId saved old new)
    (leaves : Leaves heap after touched)
    (apart : ∀ node ∈ sphere table listId (old ++ new), node ∉ touched) :
    Pending after table listId saved old new := by
  have ownEntry := apart (.entry table listId) List.mem_cons_self
  have ownStack := apart (.stack table) (List.mem_cons_of_mem _ List.mem_cons_self)
  have ownRule : ∀ block ∈ old ++ new, .rule block ∉ touched := fun block member =>
    apart _ (List.mem_cons_of_mem _ (List.mem_cons_of_mem _ (mem_nodesOf.mpr member)))
  refine ⟨?_, ?_, ?_, pending.apart⟩
  · refine pending.former.leaves (leaves.assign _ saved) ?_
    intro node member
    rcases List.mem_cons.mp member with rfl | inner
    · exact ownEntry
    · obtain ⟨block, oldBlock, rfl⟩ := List.mem_map.mp inner
      exact ownRule block (List.mem_append_left _ oldBlock)
  · refine pending.latter.leaves leaves ?_
    intro node member
    rcases List.mem_cons.mp member with rfl | inner
    · exact ownStack
    · obtain ⟨block, newBlock, rfl⟩ := List.mem_map.mp inner
      exact ownRule block (List.mem_append_right _ newBlock)
  · rw [(leaves.links _ ownEntry).1, (leaves.links _ ownStack).1]
    exact pending.copied

/-- A list head on the stack and the count of an entry are set. -/
theorem leaves_opened (heap : RuleHeap Uuid) (table : AclTable) (listId : Uuid)
    (numRules : UInt16) :
    Leaves heap (setNumRules { heap with links := heap.links.init (.stack table) } table
      listId numRules) [.entry table listId, .stack table] := by
  refine ⟨?_, fun _ _ => Iff.rfl, fun _ _ => rfl, fun _ _ _ => rfl, ?_⟩
  · intro node outside
    have different : node ≠ .stack table := fun same => outside (by simp [same])
    exact ⟨Function.update_of_ne different .., Function.update_of_ne different ..⟩
  · intro other otherId outside
    rw [setNumRules_numRules, if_neg]
    rintro ⟨rfl, rfl⟩
    exact outside List.mem_cons_self

/-- The new list of an entry is made on the stack. -/
theorem rebuildLinks_pending
    {made : Made} {list : ClsList Uuid} {entries : List ListEntry}
    (chained : Chained heap (.entry table list.listId) old)
    (present : heap.present table list.listId = true)
    (listed : list.entries = some entries)
    (once : (newBlocks made table entries).Nodup)
    (fresh : ∀ block ∈ newBlocks made table entries, block ∉ heap.live) :
    ∃ saved after, rebuildLinks heap made list table = (some saved, after) ∧
      Pending after table list.listId saved old (newBlocks made table entries) ∧
      Leaves heap after (sphere table list.listId (newBlocks made table entries)) ∧
      (newBlocks made table entries).map after.rules = newRules made table entries ∧
      after.numRules table list.listId = UInt16.ofNat entries.length ∧
      after.present = heap.present := by
  let opened : RuleHeap Uuid :=
    setNumRules { heap with links := heap.links.init (.stack table) } table list.listId
      (UInt16.ofNat (madeRules made table entries).length)
  let pushed := (madeRules made table entries).foldl (pushRule (.stack table)) opened
  let saved := (heap.links.next (.entry table list.listId),
    heap.links.prev (.entry table list.listId))
  let copy := (pushed.links.next (.stack table), pushed.links.prev (.stack table))
  have opens : Leaves heap opened [.entry table list.listId, .stack table] :=
    leaves_opened heap table list.listId _
  have empty : Chained opened (.stack table) [] :=
    ⟨isRing_init heap.links (.stack table), fun _ member => absurd member List.not_mem_nil⟩
  obtain ⟨latter, pushes, contents⟩ :=
    empty.pushRules (madeRules made table entries) (by simp) once
  rw [List.nil_append] at latter pushes
  have copies := leaves_assign pushed (.entry table list.listId) copy
  have whole : Leaves heap { pushed with
      links := pushed.links.assign (.entry table list.listId) copy }
      (sphere table list.listId (newBlocks made table entries)) := by
    refine ((opens.trans pushes).trans copies).mono ?_
    intro node touched
    simp only [List.mem_append, List.mem_cons, List.not_mem_nil, or_false, sphere,
      newBlocks] at touched ⊢
    tauto
  have apart : ∀ block ∈ old, block ∉ newBlocks made table entries :=
    fun block oldBlock new => fresh block new (chained.live block oldBlock)
  have outside : ∀ block ∈ old, .rule block ∉
      sphere table list.listId (newBlocks made table entries) := by
    intro block oldBlock
    simp only [sphere, List.mem_cons, mem_nodesOf, reduceCtorEq, false_or]
    exact apart block oldBlock
  refine ⟨saved, { pushed with
      links := pushed.links.assign (.entry table list.listId) copy },
    ?_, ⟨⟨?_, ?_⟩, ?_, ?_, apart⟩, whole, contents, ?_, ?_⟩
  · simp [rebuildLinks, present, listed, createRuleList, pushed, opened, saved, copy]
  · refine chained.ring.congr ?_
    intro node member
    rcases List.mem_cons.mp member with rfl | inner
    · simp [saved]
    · obtain ⟨block, oldBlock, rfl⟩ := List.mem_map.mp inner
      have same := whole.links (.rule block) (outside block oldBlock)
      simpa using same
  · intro block oldBlock
    exact (whole.live block (outside block oldBlock)).mpr (chained.live block oldBlock)
  · refine latter.leaves copies ?_
    intro node member touched
    rw [List.mem_singleton.mp touched] at member
    simp at member
  · simp [copy]
  · change pushed.numRules table list.listId = _
    rw [(pushRules_fields _ _ opened).2]
    simp [opened, setNumRules_numRules, madeRules]
  · exact (pushRules_fields _ _ opened).1

/-- The loop that is to take the new rules out starts from the entry, and their list
is that of the stack. -/
theorem Pending.keepOld
    {saved : Addr Uuid × Addr Uuid}
    (pending : Pending heap table listId saved old new) :
    Classifier.keepOld table listId (some saved) heap = none := by
  have astray := @destroyFrom_astray Uuid _ heap (.entry table listId) new table
    heap.live.card (by simp) (by simp) pending.latter.ring
  simp only [Classifier.keepOld, destroyRuleList, pending.copied, astray, Option.map_none]

/-- The old rules are taken out before the entry gets the list on the stack. -/
theorem Pending.emptied
    {saved : Addr Uuid × Addr Uuid}
    (pending : Pending heap table listId saved old new) :
    ∃ emptied, Classifier.keepNew table listId (some saved) heap =
        some { emptied with
          links := emptied.links.adopt (.entry table listId) (.stack table) } ∧
      Chained emptied (.stack table) new ∧
      Leaves heap emptied (.entry table listId :: nodesOf old) ∧
      emptied.rules = heap.rules ∧ emptied.present = heap.present ∧
      emptied.numRules = heap.numRules := by
  obtain ⟨emptied, destroyed, leaves, rules, present, numRules⟩ :=
    pending.former.destroyRuleList (by simp)
  have whole : Leaves heap emptied (.entry table listId :: nodesOf old) := by
    refine ((leaves_assign heap (.entry table listId) saved).trans leaves).mono ?_
    intro node touched
    simpa using touched
  refine ⟨emptied, ?_, pending.latter.leaves whole ?_, whole, rules, present, numRules⟩
  · simp only [Classifier.keepNew, destroyed, Option.map_some]
  · intro node member
    rcases List.mem_cons.mp member with rfl | inner
    · simp
    · obtain ⟨block, newBlock, rfl⟩ := List.mem_map.mp inner
      simp only [List.mem_cons, mem_nodesOf, reduceCtorEq, false_or]
      exact fun oldBlock => pending.apart block oldBlock newBlock

theorem leaves_adopt
    (latter : Chained heap (.stack table) new) :
    Leaves heap { heap with links := heap.links.adopt (.entry table listId) (.stack table) }
      (sphere table listId new) := by
  refine ⟨?_, fun _ _ => Iff.rfl, fun _ _ => rfl, fun _ _ _ => rfl, fun _ _ _ => rfl⟩
  intro node outside
  exact latter.ring.adopt_frame (by simp) outside

/-- What the update of an entry touches in the end. -/
theorem Leaves.adopted
    (leaves : Leaves heap after (.entry table listId :: nodesOf old))
    (latter : Chained after (.stack table) new) :
    Leaves heap
      { after with links := after.links.adopt (.entry table listId) (.stack table) }
      (sphere table listId (old ++ new)) := by
  refine (leaves.trans (leaves_adopt latter)).mono ?_
  intro node touched
  simp only [List.mem_append, List.mem_cons, sphere, nodesOf, List.map_append] at touched ⊢
  tauto

/-- An entry gets its new list when that is not empty. -/
theorem Pending.keepNew
    {saved : Addr Uuid × Addr Uuid}
    (pending : Pending heap table listId saved old new)
    (notEmpty : new ≠ []) :
    ∃ after, Classifier.keepNew table listId (some saved) heap = some after ∧
      Chained after (.entry table listId) new ∧
      Leaves heap after (sphere table listId (old ++ new)) ∧
      after.rules = heap.rules ∧ after.present = heap.present ∧
      after.numRules = heap.numRules := by
  obtain ⟨emptied, kept, latter, leaves, rules, present, numRules⟩ := pending.emptied
  refine ⟨_, kept, ⟨?_, latter.live⟩, leaves.adopted latter, rules, present, numRules⟩
  refine latter.ring.adopt ?_ (by simp)
  exact fun none => notEmpty (List.map_eq_nil_iff.mp none)

/-- With an empty list the entry is left with a link to the stack. -/
theorem Pending.keepNew_empty
    {saved : Addr Uuid × Addr Uuid}
    (pending : Pending heap table listId saved old []) :
    ∃ after, Classifier.keepNew table listId (some saved) heap = some after ∧
      after.links.prev (.entry table listId) = .stack table ∧
      Leaves heap after (sphere table listId old) := by
  obtain ⟨emptied, kept, latter, leaves, _⟩ := pending.emptied
  refine ⟨_, kept, ?_, ?_⟩
  · rw [Links.adopt_empty_eq _ (by simp) latter.ring.path]
    simp
  · have whole := leaves.adopted latter
    rwa [List.append_nil] at whole

/-- An entry with its new list. -/
structure Renewed (heap : RuleHeap Uuid) (table : AclTable) (listId : Uuid)
    (new : List Nat) (rules : List AclRule) : Prop where
  chained : Chained heap (.entry table listId) new
  contents : new.map heap.rules = rules
  numRules : heap.numRules table listId = UInt16.ofNat new.length

/-- An entry between two lists when the head of its old list is saved. -/
structure Turning (heap : RuleHeap Uuid) (table : AclTable) (listId : Uuid)
    (saved : Option (Addr Uuid × Addr Uuid)) (old new : List Nat)
    (rules : List AclRule) : Prop where
  pending : ∀ value, saved = some value → Pending heap table listId value old new
  contents : saved.isSome → new.map heap.rules = rules
  numRules : saved.isSome → heap.numRules table listId = UInt16.ofNat new.length

omit [DecidableEq Uuid] in
theorem map_rules_leaves
    {touched : List (Addr Uuid)}
    (leaves : Leaves heap after touched)
    (apart : ∀ node ∈ sphere table listId new, node ∉ touched) :
    new.map after.rules = new.map heap.rules := by
  refine List.map_congr_left ?_
  intro block newBlock
  refine leaves.rules block (apart _ ?_)
  exact List.mem_cons_of_mem _ (List.mem_cons_of_mem _ (mem_nodesOf.mpr newBlock))

omit [DecidableEq Uuid] in
theorem Renewed.leaves
    {touched : List (Addr Uuid)}
    (renewed : Renewed heap table listId new rules)
    (leaves : Leaves heap after touched)
    (apart : ∀ node ∈ sphere table listId new, node ∉ touched) :
    Renewed after table listId new rules where
  chained := by
    refine renewed.chained.leaves leaves ?_
    intro node member
    rcases List.mem_cons.mp member with rfl | inner
    · exact apart _ List.mem_cons_self
    · exact apart _ (List.mem_cons_of_mem _ (List.mem_cons_of_mem _ inner))
  contents := (map_rules_leaves leaves apart).trans renewed.contents
  numRules := (leaves.numRules _ _ (apart _ List.mem_cons_self)).trans renewed.numRules

theorem Turning.leaves
    {touched : List (Addr Uuid)} {saved : Option (Addr Uuid × Addr Uuid)}
    (turning : Turning heap table listId saved old new rules)
    (leaves : Leaves heap after touched)
    (apart : ∀ node ∈ sphere table listId (old ++ new), node ∉ touched) :
    Turning after table listId saved old new rules := by
  have newApart : ∀ node ∈ sphere table listId new, node ∉ touched := by
    intro node member
    refine apart node ?_
    simp only [sphere, nodesOf, List.map_append, List.mem_cons, List.mem_append] at member ⊢
    tauto
  refine ⟨?_, ?_, ?_⟩
  · intro value isSaved
    exact (turning.pending value isSaved).leaves leaves apart
  · intro isSaved
    exact (map_rules_leaves leaves newApart).trans (turning.contents isSaved)
  · intro isSaved
    exact (leaves.numRules _ _ (apart _ List.mem_cons_self)).trans (turning.numRules isSaved)

/-- An entry of the table, or none, and its new list. -/
theorem rebuildLinks_turning
    {made : Made} {list : ClsList Uuid} {entries : List ListEntry}
    (chained : heap.present table list.listId = true →
      Chained heap (.entry table list.listId) old)
    (listed : list.entries = some entries)
    (once : (newBlocks made table entries).Nodup)
    (fresh : ∀ block ∈ newBlocks made table entries, block ∉ heap.live) :
    ∃ saved after, rebuildLinks heap made list table = (saved, after) ∧
      saved.isSome = heap.present table list.listId ∧
      Turning after table list.listId saved old (newBlocks made table entries)
        (newRules made table entries) ∧
      Leaves heap after (sphere table list.listId (newBlocks made table entries)) ∧
      after.present = heap.present := by
  cases present : heap.present table list.listId with
  | false =>
      refine ⟨none, heap, ?_, rfl, ⟨?_, ?_, ?_⟩, Leaves.refl heap, rfl⟩
      · simp [rebuildLinks, present]
      · exact fun _ impossible => nomatch impossible
      · exact fun impossible => nomatch impossible
      · exact fun impossible => nomatch impossible
  | true =>
      obtain ⟨saved, after, rebuilt, pending, leaves, contents, numRules, same⟩ :=
        rebuildLinks_pending (chained present) present listed once fresh
      refine ⟨some saved, after, rebuilt, rfl, ⟨?_, fun _ => contents, ?_⟩, leaves, same⟩
      · rintro value isSaved
        obtain rfl := Option.some.inj isSaved
        exact pending
      · intro _
        rw [numRules, length_newBlocks]

theorem Turning.keepNew
    {saved : Option (Addr Uuid × Addr Uuid)}
    (turning : Turning heap table listId saved old new rules)
    (notEmpty : new ≠ []) :
    ∃ after, Classifier.keepNew table listId saved heap = some after ∧
      (saved.isSome → Renewed after table listId new rules) ∧
      Leaves heap after (sphere table listId (old ++ new)) ∧
      after.present = heap.present := by
  cases saved with
  | none => exact ⟨heap, rfl, fun impossible => (nomatch impossible), Leaves.refl heap, rfl⟩
  | some value =>
      obtain ⟨after, kept, chained, leaves, same, present, numRules⟩ :=
        (turning.pending value rfl).keepNew notEmpty
      refine ⟨after, kept, fun isSaved => ⟨chained, ?_, ?_⟩, leaves, present⟩
      · rw [same]
        exact turning.contents isSaved
      · rw [numRules]
        exact turning.numRules isSaved

end Turning

end Classifier
end XpliantSwitchd
