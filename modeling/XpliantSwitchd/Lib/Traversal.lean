import Mathlib.Data.List.Perm.Basic

/-!
# Traversal orders of unordered containers

A hash table visits each of its nodes exactly once, in an order its users may
not rely on.  A `Traversal` is such an order: a function that rearranges the
list of nodes and carries the proof that it neither drops nor repeats one.
Results proved for an arbitrary traversal hold for every order.
-/

namespace XpliantSwitchd

/-- An order in which the nodes of a container are visited. -/
structure Traversal (α : Type*) where
  /-- The nodes in visiting order. -/
  visit : List α → List α
  /-- Every node is visited exactly once. -/
  perm : ∀ nodes, (visit nodes).Perm nodes

namespace Traversal

variable {α : Type*}

/-- Visit the nodes in list order. -/
protected def id : Traversal α where
  visit nodes := nodes
  perm _ := List.Perm.refl _

instance : Inhabited (Traversal α) := ⟨Traversal.id⟩

@[simp] theorem id_visit (nodes : List α) :
    (Traversal.id : Traversal α).visit nodes = nodes := rfl

@[simp] theorem mem_visit (order : Traversal α) {nodes : List α} {node : α} :
    node ∈ order.visit nodes ↔ node ∈ nodes :=
  (order.perm nodes).mem_iff

@[simp] theorem length_visit (order : Traversal α) (nodes : List α) :
    (order.visit nodes).length = nodes.length :=
  (order.perm nodes).length_eq

@[simp] theorem visit_nil (order : Traversal α) : order.visit [] = [] :=
  (order.perm []).eq_nil

/-- A search finds a node in some order exactly when one exists. -/
theorem find?_visit_eq_none
    (order : Traversal α)
    {nodes : List α}
    {test : α → Bool} :
    (order.visit nodes).find? test = none ↔
      ∀ node ∈ nodes, test node = false := by
  simp [List.find?_eq_none]

/-- What a search returns satisfies the test and is a node. -/
theorem of_find?_visit
    (order : Traversal α)
    {nodes : List α}
    {test : α → Bool}
    {node : α}
    (found : (order.visit nodes).find? test = some node) :
    node ∈ nodes ∧ test node = true :=
  ⟨order.mem_visit.mp (List.mem_of_find?_eq_some found),
    List.find?_some found⟩

end Traversal

end XpliantSwitchd
