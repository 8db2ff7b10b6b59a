import Mathlib.Data.List.Nodup
import Mathlib.Logic.Function.Basic

/-!
# Intrusive circular lists

A doubly linked list runs through a head and back to it, and the links are fields of
the members.  The operations below are assignments to these fields, in the order in
which list code makes them, so they are defined on any links; the lemmas say what
they do to a ring.
-/

namespace XpliantSwitchd
namespace Ring

variable {α : Type*}

/-- The links of all members, whichever list they are on. -/
@[ext] structure Links (α : Type*) where
  next : α → α
  prev : α → α

/-- Follow the links from one member through others to a last one, and back. -/
def Path (links : Links α) : α → List α → α → Prop
  | first, [], last => links.next first = last ∧ links.prev last = first
  | first, node :: nodes, last =>
      links.next first = node ∧ links.prev node = first ∧ Path links node nodes last

/-- The list of a head: its members in order, each once. -/
structure IsRing (links : Links α) (head : α) (nodes : List α) : Prop where
  path : Path links head nodes head
  nodup : (head :: nodes).Nodup

section Paths

variable {links links' : Links α} {first last middle target : α}
  {nodes before after : List α}

theorem path_append :
    Path links first (before ++ middle :: after) last ↔
      Path links first before middle ∧ Path links middle after last := by
  induction before generalizing first with
  | nil =>
      simp only [List.nil_append, Path]
      exact and_assoc.symm
  | cons node before inductionHypothesis =>
      simp only [List.cons_append, Path, inductionHypothesis]
      constructor
      · rintro ⟨next, prev, left, right⟩
        exact ⟨⟨next, prev, left⟩, right⟩
      · rintro ⟨⟨next, prev, left⟩, right⟩
        exact ⟨next, prev, left, right⟩

/-- The member before the last one is on the path. -/
theorem Path.prev_mem (path : Path links first nodes last) :
    links.prev last ∈ first :: nodes := by
  induction nodes generalizing first with
  | nil =>
      rw [path.2]
      exact List.mem_cons_self
  | cons node nodes inductionHypothesis =>
      exact List.mem_cons_of_mem _ (inductionHypothesis path.2.2)

/-- The end of a path is turned to another member. -/
theorem Path.redirect
    (path : Path links first nodes last)
    (nodup : (first :: nodes).Nodup)
    (next_end : links'.next (links.prev last) = target)
    (prev_end : links'.prev target = links.prev last)
    (sameNext : ∀ node ∈ first :: nodes, node ≠ links.prev last →
      links'.next node = links.next node)
    (samePrev : ∀ node ∈ nodes, links'.prev node = links.prev node) :
    Path links' first nodes target := by
  induction nodes generalizing first with
  | nil =>
      obtain ⟨_, prev⟩ := path
      rw [prev] at next_end prev_end
      exact ⟨next_end, prev_end⟩
  | cons node nodes inductionHypothesis =>
      obtain ⟨next, prev, rest⟩ := path
      obtain ⟨notMember, restNodup⟩ := List.nodup_cons.mp nodup
      have different : first ≠ links.prev last := by
        intro same
        rw [same] at notMember
        exact notMember rest.prev_mem
      refine ⟨?_, ?_, inductionHypothesis rest restNodup ?_ ?_⟩
      · rw [sameNext first List.mem_cons_self different, next]
      · rw [samePrev node List.mem_cons_self, prev]
      · intro other member
        exact sameNext other (List.mem_cons_of_mem _ member)
      · intro other member
        exact samePrev other (List.mem_cons_of_mem _ member)

theorem Path.congr
    (path : Path links first nodes last)
    (sameNext : ∀ node ∈ first :: nodes, links'.next node = links.next node)
    (samePrev : ∀ node ∈ nodes, links'.prev node = links.prev node)
    (sameEnd : links'.prev last = links.prev last) :
    Path links' first nodes last := by
  induction nodes generalizing first with
  | nil => exact ⟨(sameNext first List.mem_cons_self).trans path.1, sameEnd.trans path.2⟩
  | cons node nodes inductionHypothesis =>
      obtain ⟨next, prev, rest⟩ := path
      refine ⟨?_, ?_, inductionHypothesis rest ?_ ?_⟩
      · rw [sameNext first List.mem_cons_self, next]
      · rw [samePrev node List.mem_cons_self, prev]
      · intro other member
        exact sameNext other (List.mem_cons_of_mem _ member)
      · intro other member
        exact samePrev other (List.mem_cons_of_mem _ member)

/-- A path is determined by its ends. -/
theorem Path.unique
    {others : List α}
    (path : Path links first nodes last)
    (other : Path links first others last)
    (notInner : last ∉ nodes)
    (notOther : last ∉ others) : nodes = others := by
  induction nodes generalizing first others with
  | nil =>
      cases others with
      | nil => rfl
      | cons node others =>
          have same : last = node := path.1.symm.trans other.1
          exact absurd (same ▸ List.mem_cons_self) notOther
  | cons node nodes inductionHypothesis =>
      cases others with
      | nil =>
          have same : last = node := other.1.symm.trans path.1
          exact absurd (same ▸ List.mem_cons_self) notInner
      | cons second others =>
          have same : node = second := path.1.symm.trans other.1
          subst same
          rw [inductionHypothesis path.2.2 other.2.2
            (fun member => notInner (List.mem_cons_of_mem _ member))
            (fun member => notOther (List.mem_cons_of_mem _ member))]

end Paths

/-! ## Operations -/

namespace Links

variable [DecidableEq α] (links : Links α)

/-- Assign to the forward link of a member. -/
def setNext (node value : α) : Links α :=
  { links with next := Function.update links.next node value }

/-- Assign to the backward link of a member. -/
def setPrev (node value : α) : Links α :=
  { links with prev := Function.update links.prev node value }

/-- Make a member the head of an empty list. -/
def init (head : α) : Links α := (links.setNext head head).setPrev head head

/-- Insert a member before another one; before a head this is at the back. -/
def insert (before elem : α) : Links α :=
  let links := links.setPrev elem (links.prev before)
  let links := links.setNext elem before
  let links := links.setNext (links.prev before) elem
  links.setPrev before elem

/-- Take a member off its list. -/
def remove (elem : α) : Links α :=
  let links := links.setNext (links.prev elem) (links.next elem)
  links.setPrev (links.next elem) (links.prev elem)

/-- Assign both links of a member. -/
def assign (node : α) (value : α × α) : Links α :=
  (links.setNext node value.1).setPrev node value.2

/-- Give the list of one head to another: copy both links, and turn the first and
the last member to the new head. -/
def adopt (head old : α) : Links α :=
  let links := links.assign head (links.next old, links.prev old)
  let links := links.setPrev (links.next old) head
  links.setNext (links.prev old) head

@[simp] theorem assign_next (node : α) (value : α × α) :
    (links.assign node value).next = Function.update links.next node value.1 := rfl

@[simp] theorem assign_prev (node : α) (value : α × α) :
    (links.assign node value).prev = Function.update links.prev node value.2 := rfl

theorem insert_eq
    {before elem : α}
    (different : before ≠ elem) :
    links.insert before elem =
      ⟨Function.update (Function.update links.next elem before) (links.prev before) elem,
        Function.update (Function.update links.prev elem (links.prev before)) before
          elem⟩ := by
  simp [insert, setNext, setPrev, Function.update_of_ne different]

theorem remove_eq (elem : α) :
    links.remove elem =
      ⟨Function.update links.next (links.prev elem) (links.next elem),
        Function.update links.prev (links.next elem) (links.prev elem)⟩ := by
  by_cases same : elem = links.prev elem
  · simp [remove, setNext, setPrev, ← same]
  · simp [remove, setNext, setPrev, Function.update_of_ne same]

/-- Adopting a list that is not empty. -/
theorem adopt_eq
    {head old : α}
    (different : old ≠ head)
    (notEmpty : old ≠ links.next old) :
    links.adopt head old =
      ⟨Function.update (Function.update links.next head (links.next old))
          (links.prev old) head,
        Function.update (Function.update links.prev head (links.prev old))
          (links.next old) head⟩ := by
  simp [adopt, setNext, setPrev, Function.update_of_ne different,
    Function.update_of_ne notEmpty]

/-- The new head of an empty list is left with a link to the old one. -/
theorem adopt_empty_eq
    {head old : α}
    (different : old ≠ head)
    (empty : links.next old = old ∧ links.prev old = old) :
    links.adopt head old =
      ⟨Function.update links.next head head,
        Function.update (Function.update links.prev head old) old head⟩ := by
  simp [adopt, setNext, setPrev, Function.update_of_ne different, empty]

end Links

section Rings

variable [DecidableEq α] {links links' : Links α} {head other elem : α}
  {nodes : List α}

omit [DecidableEq α] in
/-- Only the links of the members matter. -/
theorem IsRing.congr
    (ring : IsRing links head nodes)
    (same : ∀ node ∈ head :: nodes, links'.next node = links.next node ∧
      links'.prev node = links.prev node) : IsRing links' head nodes where
  path := ring.path.congr (fun node member => (same node member).1)
    (fun node member => (same node (List.mem_cons_of_mem _ member)).2)
    (same head List.mem_cons_self).2
  nodup := ring.nodup

theorem isRing_init (links : Links α) (head : α) : IsRing (links.init head) head [] where
  path := by
    refine ⟨?_, ?_⟩
    · exact Function.update_self ..
    · exact Function.update_self ..
  nodup := List.nodup_singleton head

omit [DecidableEq α] in
theorem IsRing.prev_mem (ring : IsRing links head nodes) :
    links.prev head ∈ head :: nodes := ring.path.prev_mem

omit [DecidableEq α] in
/-- A head has one list. -/
theorem IsRing.unique
    {others : List α}
    (ring : IsRing links head nodes)
    (another : IsRing links head others) : nodes = others :=
  ring.path.unique another.path (List.nodup_cons.mp ring.nodup).1
    (List.nodup_cons.mp another.nodup).1

/-- What an insertion leaves alone. -/
theorem IsRing.insert_frame
    {node : α}
    (ring : IsRing links head nodes)
    (fresh : elem ∉ head :: nodes)
    (outside : node ∉ elem :: head :: nodes) :
    (links.insert head elem).next node = links.next node ∧
      (links.insert head elem).prev node = links.prev node := by
  have different : head ≠ elem := fun same => fresh (same ▸ List.mem_cons_self)
  have notElem : node ≠ elem := fun same => outside (same ▸ List.mem_cons_self)
  have notRing : node ∉ head :: nodes :=
    fun member => outside (List.mem_cons_of_mem _ member)
  have notHead : node ≠ head := fun same => notRing (same ▸ List.mem_cons_self)
  have notPrev : node ≠ links.prev head := fun same => notRing (same ▸ ring.prev_mem)
  rw [links.insert_eq different]
  simp [Function.update_of_ne notElem, Function.update_of_ne notHead,
    Function.update_of_ne notPrev]

/-- An insertion before the head puts a member at the back. -/
theorem IsRing.insert
    (ring : IsRing links head nodes)
    (fresh : elem ∉ head :: nodes) :
    IsRing (links.insert head elem) head (nodes ++ [elem]) := by
  have different : head ≠ elem := fun same => fresh (same ▸ List.mem_cons_self)
  have prevNotElem : links.prev head ≠ elem := fun same => fresh (same ▸ ring.prev_mem)
  have notElem : ∀ node ∈ head :: nodes, node ≠ elem :=
    fun node member same => fresh (same ▸ member)
  have notHead : ∀ node ∈ nodes, node ≠ head :=
    fun node member same => (List.nodup_cons.mp ring.nodup).1 (same ▸ member)
  rw [links.insert_eq different]
  refine ⟨path_append.mpr ⟨?_, ?_⟩, ?_⟩
  · refine ring.path.redirect ring.nodup ?_ ?_ ?_ ?_
    · exact Function.update_self ..
    · simp [Function.update_of_ne different.symm]
    · intro node member notLast
      simp [Function.update_of_ne notLast, Function.update_of_ne (notElem node member)]
    · intro node member
      simp [Function.update_of_ne (notHead node member),
        Function.update_of_ne (notElem node (List.mem_cons_of_mem _ member))]
  · refine ⟨?_, ?_⟩
    · simp [Function.update_of_ne prevNotElem.symm]
    · exact Function.update_self ..
  · rw [← List.cons_append, List.nodup_append]
    refine ⟨ring.nodup, List.nodup_singleton elem, ?_⟩
    intro node member last isLast same
    rw [List.mem_singleton.mp isLast] at same
    exact notElem node member same

omit [DecidableEq α] in
/-- The member after the first one, or the head. -/
theorem IsRing.next_first
    {first : α}
    (ring : IsRing links head (first :: nodes)) :
    links.next first = (nodes ++ [head]).headD head := by
  obtain ⟨_, _, rest⟩ := ring.path
  cases nodes with
  | nil => exact rest.1
  | cons node nodes => exact rest.1

omit [DecidableEq α] in
theorem headD_mem (nodes : List α) (head : α) :
    (nodes ++ [head]).headD head ∈ head :: nodes := by
  cases nodes <;> simp

/-- What taking off the first member leaves alone. -/
theorem IsRing.remove_frame
    {first node : α}
    (ring : IsRing links head (first :: nodes))
    (outside : node ∉ head :: first :: nodes) :
    (links.remove first).next node = links.next node ∧
      (links.remove first).prev node = links.prev node := by
  have notHead : node ≠ head := fun same => outside (same ▸ List.mem_cons_self)
  have notNext : node ≠ links.next first := by
    intro same
    rw [ring.next_first] at same
    rcases List.mem_cons.mp (same ▸ headD_mem nodes head) with isHead | member
    · exact notHead isHead
    · exact outside (List.mem_cons_of_mem _ (List.mem_cons_of_mem _ member))
  rw [links.remove_eq, ring.path.2.1]
  simp [Function.update_of_ne notHead, Function.update_of_ne notNext]

/-- The member after the first one comes first. -/
theorem IsRing.next_remove
    {first : α}
    (ring : IsRing links head (first :: nodes)) :
    (links.remove first).next head = links.next first := by
  rw [links.remove_eq, ring.path.2.1]
  exact Function.update_self ..

/-- Taking off the first member. -/
theorem IsRing.remove
    {first : α}
    (ring : IsRing links head (first :: nodes)) :
    IsRing (links.remove first) head nodes := by
  obtain ⟨_, prev, rest⟩ := ring.path
  have nodup := ring.nodup
  rw [links.remove_eq, prev]
  cases nodes with
  | nil =>
      obtain ⟨next, _⟩ := rest
      refine ⟨⟨?_, ?_⟩, List.nodup_singleton head⟩
      · simp [next]
      · simp [next]
  | cons second nodes =>
      obtain ⟨next, _, rest⟩ := rest
      simp only [List.nodup_cons, List.mem_cons, not_or] at nodup
      obtain ⟨⟨_, headNotSecond, headNotRest⟩, _, secondNotRest, restNodup⟩ := nodup
      rw [next]
      refine ⟨⟨?_, ?_, rest.congr ?_ ?_ ?_⟩, ?_⟩
      · exact Function.update_self ..
      · exact Function.update_self ..
      · intro node member
        have notHead : node ≠ head := by
          rintro rfl
          rcases List.mem_cons.mp member with same | later
          · exact headNotSecond same
          · exact headNotRest later
        exact Function.update_of_ne notHead ..
      · intro node member
        have notSecond : node ≠ second := by
          rintro rfl
          exact secondNotRest member
        exact Function.update_of_ne notSecond ..
      · exact Function.update_of_ne headNotSecond ..
      · simp only [List.nodup_cons, List.mem_cons, not_or]
        exact ⟨⟨headNotSecond, headNotRest⟩, secondNotRest, restNodup⟩

omit [DecidableEq α] in
/-- The last member is not the head when there is one. -/
theorem IsRing.prev_mem_nodes
    (ring : IsRing links head nodes)
    (notEmpty : nodes ≠ []) : links.prev head ∈ nodes := by
  cases nodes with
  | nil => exact absurd rfl notEmpty
  | cons first nodes => exact ring.path.2.2.prev_mem

omit [DecidableEq α] in
theorem IsRing.next_mem_nodes
    (ring : IsRing links head nodes)
    (notEmpty : nodes ≠ []) : links.next head ∈ nodes := by
  cases nodes with
  | nil => exact absurd rfl notEmpty
  | cons first nodes =>
      rw [ring.path.1]
      exact List.mem_cons_self

omit [DecidableEq α] in
theorem IsRing.head_not_mem (ring : IsRing links head nodes) : head ∉ nodes :=
  (List.nodup_cons.mp ring.nodup).1

/-- What adopting leaves alone. -/
theorem IsRing.adopt_frame
    {old node : α}
    (ring : IsRing links old nodes)
    (different : old ≠ head)
    (elsewhere : node ∉ head :: old :: nodes) :
    (links.adopt head old).next node = links.next node ∧
      (links.adopt head old).prev node = links.prev node := by
  have notHead : node ≠ head := fun same => elsewhere (same ▸ List.mem_cons_self)
  have notRing : node ∉ old :: nodes :=
    fun member => elsewhere (List.mem_cons_of_mem _ member)
  by_cases empty : nodes = []
  · subst empty
    have notOld : node ≠ old := fun same => notRing (same ▸ List.mem_cons_self)
    rw [links.adopt_empty_eq different ring.path]
    simp [Function.update_of_ne notHead, Function.update_of_ne notOld]
  · have nextMem := ring.next_mem_nodes empty
    have prevMem := ring.prev_mem_nodes empty
    have notNext : node ≠ links.next old :=
      fun same => notRing (List.mem_cons_of_mem _ (same ▸ nextMem))
    have notPrev : node ≠ links.prev old :=
      fun same => notRing (List.mem_cons_of_mem _ (same ▸ prevMem))
    rw [links.adopt_eq different (fun same => ring.head_not_mem (same ▸ nextMem))]
    simp [Function.update_of_ne notHead, Function.update_of_ne notNext,
      Function.update_of_ne notPrev]

/-- A list that is not empty may be given to another head. -/
theorem IsRing.adopt
    {old : α}
    (ring : IsRing links old nodes)
    (notEmpty : nodes ≠ [])
    (outside : head ∉ old :: nodes) :
    IsRing (links.adopt head old) head nodes := by
  have different : old ≠ head := fun same => outside (same ▸ List.mem_cons_self)
  have headNotMember : head ∉ nodes :=
    fun member => outside (List.mem_cons_of_mem _ member)
  have nextMem := ring.next_mem_nodes notEmpty
  have prevMem := ring.prev_mem_nodes notEmpty
  have lastNotHead : head ≠ links.prev old := fun same => headNotMember (same ▸ prevMem)
  have nodup := (List.nodup_cons.mp ring.nodup).2
  rw [links.adopt_eq different (fun same => ring.head_not_mem (same ▸ nextMem))]
  refine ⟨?_, List.nodup_cons.mpr ⟨headNotMember, nodup⟩⟩
  cases nodes with
  | nil => exact absurd rfl notEmpty
  | cons first nodes =>
      obtain ⟨next, prev, rest⟩ := ring.path
      have notHead : ∀ node ∈ first :: nodes, node ≠ head := by
        rintro node member rfl
        exact headNotMember member
      rw [next]
      refine ⟨?_, ?_, rest.redirect nodup ?_ ?_ ?_ ?_⟩
      · simp [Function.update_of_ne lastNotHead]
      · exact Function.update_self ..
      · exact Function.update_self ..
      · simp [Function.update_of_ne (notHead first List.mem_cons_self).symm]
      · intro node member notLast
        simp [Function.update_of_ne notLast, Function.update_of_ne (notHead node member)]
      · intro node member
        have notFirst : node ≠ first := by
          rintro rfl
          exact (List.nodup_cons.mp nodup).1 member
        simp [Function.update_of_ne notFirst,
          Function.update_of_ne (notHead node (List.mem_cons_of_mem _ member))]

end Rings

end Ring
end XpliantSwitchd
