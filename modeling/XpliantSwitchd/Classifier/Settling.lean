import XpliantSwitchd.Classifier.Links

/-!
# Old rules or new rules

An update is to leave the entries of a list in the port and router tables with their
old rules or with the new ones, on lists that are whole.  It does so where the list is
not empty and the calls that make the new rules happen to return zero; after anything
else a loop has run into a list head on the stack, or an entry has a link to one.
-/

namespace XpliantSwitchd
namespace Classifier

open Ternary XpliantSwitchd.Ring

variable {Uuid : Type}

/-! ## States and updates -/

/-- The blocks that `malloc` returns are not in use, and different. -/
structure Made.Fresh (made : Made) (live : Finset Nat) : Prop where
  free : ∀ table index, made.block table index ∉ live
  once : ∀ first second index other,
    made.block first index = made.block second other → first = second ∧ index = other

theorem newBlocks_eq (made : Made) (table : AclTable) (entries : List ListEntry) :
    newBlocks made table entries = (List.range entries.length).map (made.block table) := by
  rw [newBlocks, madeRules, List.map_map, List.range_eq_range', ← List.zipIdx_map_snd,
    List.map_map]
  rfl

theorem Made.Fresh.nodup
    {made : Made} {live : Finset Nat}
    (fresh : made.Fresh live)
    (table : AclTable)
    (entries : List ListEntry) : (newBlocks made table entries).Nodup := by
  rw [newBlocks_eq]
  refine List.Nodup.map ?_ List.nodup_range
  intro index other same
  exact (fresh.once table table index other same).2

theorem Made.Fresh.not_live
    {made : Made} {live : Finset Nat} {table : AclTable} {entries : List ListEntry}
    {block : Nat}
    (fresh : made.Fresh live)
    (isNew : block ∈ newBlocks made table entries) : block ∉ live := by
  rw [newBlocks_eq] at isNew
  obtain ⟨index, _, rfl⟩ := List.mem_map.mp isNew
  exact fresh.free table index

theorem Made.Fresh.apart
    {made : Made} {live : Finset Nat} {table other : AclTable}
    {entries others : List ListEntry} {block : Nat}
    (fresh : made.Fresh live)
    (different : table ≠ other)
    (isNew : block ∈ newBlocks made table entries) :
    block ∉ newBlocks made other others := by
  rw [newBlocks_eq] at isNew ⊢
  obtain ⟨index, _, rfl⟩ := List.mem_map.mp isNew
  intro also
  obtain ⟨otherIndex, _, same⟩ := List.mem_map.mp also
  exact different (fresh.once other table otherIndex index same).1.symm

/-- The rules of the entries: each list is whole, and no rule is on two of them. -/
structure Linked (heap : RuleHeap Uuid) (blocks : AclTable → Uuid → List Nat) :
    Prop where
  chained : ∀ table listId, heap.present table listId = true →
    Chained heap (.entry table listId) (blocks table listId)
  numRules : ∀ table listId, heap.present table listId = true →
    (heap.numRules table listId).toNat = (blocks table listId).length
  absent : ∀ table listId, heap.present table listId = false → blocks table listId = []
  apart : ∀ {table listId other otherId block}, block ∈ blocks table listId →
    block ∈ blocks other otherId → table = other ∧ listId = otherId

section Updates

variable [DecidableEq Uuid] {heap : RuleHeap Uuid} {blocks : AclTable → Uuid → List Nat}
  {made : Made} {list : ClsList Uuid} {entries : List ListEntry} {unset : Unset}
  {status : StatusCode}

omit [DecidableEq Uuid] in
theorem Linked.live
    {table : AclTable} {listId : Uuid} {block : Nat}
    (linked : Linked heap blocks)
    (member : block ∈ blocks table listId) : block ∈ heap.live := by
  cases present : heap.present table listId with
  | false =>
      rw [linked.absent table listId present] at member
      exact absurd member List.not_mem_nil
  | true => exact (linked.chained table listId present).live block member

omit [DecidableEq Uuid] in
/-- Updates in two tables do not meet. -/
theorem sphere_apart
    {table other : AclTable} {listId otherId : Uuid} {own others : List Nat}
    (different : table ≠ other)
    (apart : ∀ block ∈ own, block ∉ others) :
    ∀ node ∈ sphere table listId own, node ∉ sphere other otherId others := by
  intro node member touched
  simp only [sphere, List.mem_cons] at member touched
  rcases member with rfl | rfl | inner
  · simp [different] at touched
  · simp [different] at touched
  · obtain ⟨block, isOwn, rfl⟩ := List.mem_map.mp inner
    simp only [reduceCtorEq, mem_nodesOf, false_or] at touched
    exact apart block isOwn touched

/-- The entries of a list in the two tables between their lists. -/
structure BothTurning (heap turned : RuleHeap Uuid)
    (blocks : AclTable → Uuid → List Nat) (made : Made) (listId : Uuid)
    (entries : List ListEntry) (oldPacl oldRacl : Option (Addr Uuid × Addr Uuid)) :
    Prop where
  paclSome : oldPacl.isSome = heap.present .pacl listId
  raclSome : oldRacl.isSome = heap.present .racl listId
  pacl : Turning turned .pacl listId oldPacl (blocks .pacl listId)
    (newBlocks made .pacl entries) (newRules made .pacl entries)
  racl : Turning turned .racl listId oldRacl (blocks .racl listId)
    (newBlocks made .racl entries) (newRules made .racl entries)
  leaves : Leaves heap turned (sphere .pacl listId (newBlocks made .pacl entries) ++
    sphere .racl listId (newBlocks made .racl entries))
  present : turned.present = heap.present

omit [DecidableEq Uuid] in
/-- What an update works on in two tables. -/
theorem Linked.spheres_apart
    {table other : AclTable} {listId : Uuid}
    (linked : Linked heap blocks)
    (fresh : made.Fresh heap.live)
    (different : table ≠ other) :
    ∀ node ∈ sphere table listId (blocks table listId ++ newBlocks made table entries),
      node ∉ sphere other listId (blocks other listId ++ newBlocks made other entries) := by
  refine sphere_apart different ?_
  intro block own others
  rcases List.mem_append.mp own with isOld | isNew
  · rcases List.mem_append.mp others with otherOld | otherNew
    · exact different (linked.apart isOld otherOld).1
    · exact fresh.not_live otherNew (linked.live isOld)
  · rcases List.mem_append.mp others with otherOld | otherNew
    · exact fresh.not_live isNew (linked.live otherOld)
    · exact fresh.apart different isNew otherNew

omit [DecidableEq Uuid] in
theorem mem_sphere_append
    {table : AclTable} {listId : Uuid} {old new : List Nat} {node : Addr Uuid}
    (member : node ∈ sphere table listId new) : node ∈ sphere table listId (old ++ new) := by
  simp only [sphere, nodesOf, List.map_append, List.mem_cons, List.mem_append] at member ⊢
  tauto

/-- The first half of the update. -/
theorem Linked.bothTurning
    (linked : Linked heap blocks)
    (fresh : made.Fresh heap.live)
    (listed : list.entries = some entries) :
    ∃ oldPacl oldRacl middle turned,
      rebuildLinks heap made list .pacl = (oldPacl, middle) ∧
      rebuildLinks middle made list .racl = (oldRacl, turned) ∧
      BothTurning heap turned blocks made list.listId entries oldPacl oldRacl := by
  obtain ⟨oldPacl, middle, first, paclSome, pacl, leaves, present⟩ :=
    rebuildLinks_turning (linked.chained .pacl list.listId) listed
      (fresh.nodup .pacl entries) (fun _ isNew => fresh.not_live isNew)
  have raclApart := @Linked.spheres_apart _ heap blocks made entries .racl .pacl
    list.listId linked fresh (by simp)
  have raclChained : middle.present .racl list.listId = true →
      Chained middle (.entry .racl list.listId) (blocks .racl list.listId) := by
    intro isPresent
    rw [present] at isPresent
    refine (linked.chained .racl list.listId isPresent).leaves leaves ?_
    intro node member touched
    refine raclApart node ?_ (mem_sphere_append touched)
    simp only [sphere, nodesOf, List.map_append, List.mem_cons, List.mem_append] at member ⊢
    tauto
  have raclFresh : ∀ block ∈ newBlocks made .racl entries, block ∉ middle.live := by
    intro block isNew live
    refine fresh.not_live isNew ((leaves.live block ?_).mp live)
    simp only [sphere, List.mem_cons, mem_nodesOf, reduceCtorEq, false_or]
    exact fresh.apart (by simp) isNew
  obtain ⟨oldRacl, turned, second, raclSome, racl, raclLeaves, raclPresent⟩ :=
    rebuildLinks_turning raclChained listed (fresh.nodup .racl entries) raclFresh
  refine ⟨oldPacl, oldRacl, middle, turned, first, second, paclSome, ?_, ?_, racl,
    leaves.trans raclLeaves, raclPresent.trans present⟩
  · rw [raclSome, present]
  · refine pacl.leaves raclLeaves ?_
    intro node member touched
    exact raclApart node (mem_sphere_append touched) member

namespace BothTurning

variable {turned : RuleHeap Uuid} {listId : Uuid}
  {oldPacl oldRacl : Option (Addr Uuid × Addr Uuid)}

/-- The path after a failure is not defined. -/
theorem keepOld
    (both : BothTurning heap turned blocks made listId entries oldPacl oldRacl)
    (engaged : oldPacl.isSome ∨ oldRacl.isSome) :
    (Classifier.keepOld .pacl listId oldPacl turned).bind
      (Classifier.keepOld .racl listId oldRacl) = none := by
  cases oldPacl with
  | some saved => rw [(both.pacl.pending saved rfl).keepOld, Option.bind_none]
  | none =>
      cases oldRacl with
      | some saved => exact (both.racl.pending saved rfl).keepOld
      | none => simp at engaged

/-- The path after a success with a list that is not empty. -/
theorem keepNew
    (linked : Linked heap blocks)
    (fresh : made.Fresh heap.live)
    (both : BothTurning heap turned blocks made listId entries oldPacl oldRacl)
    (notEmpty : entries ≠ []) :
    ∃ after, (Classifier.keepNew .pacl listId oldPacl turned).bind
        (Classifier.keepNew .racl listId oldRacl) = some after ∧
      (oldPacl.isSome → Renewed after .pacl listId (newBlocks made .pacl entries)
        (newRules made .pacl entries)) ∧
      (oldRacl.isSome → Renewed after .racl listId (newBlocks made .racl entries)
        (newRules made .racl entries)) ∧
      Leaves heap after
        (sphere .pacl listId (blocks .pacl listId ++ newBlocks made .pacl entries) ++
          sphere .racl listId (blocks .racl listId ++ newBlocks made .racl entries)) ∧
      after.present = heap.present := by
  have someNew : ∀ table, newBlocks made table entries ≠ [] := by
    intro table empty
    have length := length_newBlocks made table entries
    rw [empty] at length
    exact notEmpty (List.length_eq_zero_iff.mp length.symm)
  have raclApart := @Linked.spheres_apart _ heap blocks made entries .racl .pacl listId
    linked fresh (by simp)
  obtain ⟨middle, kept, paclRenewed, leaves, present⟩ := both.pacl.keepNew (someNew .pacl)
  obtain ⟨after, raclKept, raclRenewed, raclLeaves, raclPresent⟩ :=
    (both.racl.leaves leaves raclApart).keepNew (someNew .racl)
  refine ⟨after, ?_, ?_, raclRenewed, ?_, ?_⟩
  · rw [kept]
    exact raclKept
  · intro isSaved
    refine (paclRenewed isSaved).leaves raclLeaves ?_
    intro node member touched
    exact raclApart node touched (mem_sphere_append member)
  · refine (both.leaves.trans (leaves.trans raclLeaves)).mono ?_
    intro node touched
    rcases List.mem_append.mp touched with early | late
    · rcases List.mem_append.mp early with pacl | racl
      · exact List.mem_append_left _ (mem_sphere_append pacl)
      · exact List.mem_append_right _ (mem_sphere_append racl)
    · exact late
  · exact raclPresent.trans (present.trans both.present)

/-- The path after a success with an empty list. -/
theorem keepNew_empty
    (linked : Linked heap blocks)
    (fresh : made.Fresh heap.live)
    (both : BothTurning heap turned blocks made listId [] oldPacl oldRacl)
    (engaged : oldPacl.isSome ∨ oldRacl.isSome) :
    ∃ after table, (Classifier.keepNew .pacl listId oldPacl turned).bind
        (Classifier.keepNew .racl listId oldRacl) = some after ∧ table ≠ .bacl ∧
      heap.present table listId = true ∧
      after.links.prev (.entry table listId) = .stack table := by
  have raclApart := @Linked.spheres_apart _ heap blocks made [] .racl .pacl listId
    linked fresh (by simp)
  cases oldPacl with
  | none =>
      cases oldRacl with
      | none => simp at engaged
      | some saved =>
          obtain ⟨after, kept, link, _⟩ := (both.racl.pending saved rfl).keepNew_empty
          exact ⟨after, .racl, kept, by simp, both.raclSome.symm, link⟩
  | some saved =>
      obtain ⟨middle, kept, link, leaves⟩ := (both.pacl.pending saved rfl).keepNew_empty
      cases oldRacl with
      | none =>
          refine ⟨middle, .pacl, ?_, by simp, both.paclSome.symm, link⟩
          rw [kept]
          rfl
      | some raclSaved =>
          have turning := both.racl.leaves leaves (by
            intro node member touched
            exact raclApart node member (by simpa [newBlocks, madeRules] using touched))
          obtain ⟨after, raclKept, raclLink, _⟩ :=
            (turning.pending raclSaved rfl).keepNew_empty
          refine ⟨after, .racl, ?_, by simp, both.raclSome.symm, raclLink⟩
          rw [kept]
          exact raclKept

end BothTurning

/-! ## Old rules or new rules -/

/-- The links from an entry visit the rules, each once, and come back to it, and
`num_rules` is their number. -/
def HoldsRules (heap : RuleHeap Uuid) (table : AclTable) (listId : Uuid)
    (rules : List AclRule) : Prop :=
  ∃ blocks, Chained heap (.entry table listId) blocks ∧ blocks.map heap.rules = rules ∧
    (heap.numRules table listId).toNat = blocks.length

/-- After an update the entries of the list in the port and router tables have their
old rules and the caller reads of a failure, or they have the new ones. -/
def Settles (made : Made) (unset : Unset) (heap : RuleHeap Uuid) (list : ClsList Uuid)
    (status : StatusCode) : Prop :=
  ∃ code after, listUpdateLinks made unset heap list status = some (code, after) ∧
    (((code = .hwUnsupportedErr ∨ code = .hwConfigErr) ∧
        ∀ table, table ≠ .bacl → heap.present table list.listId = true →
          ∃ rules, HoldsRules heap table list.listId rules ∧
            HoldsRules after table list.listId rules) ∨
      (code = status ∧ ∃ entries, list.entries = some entries ∧
        ∀ table, table ≠ .bacl → heap.present table list.listId = true →
          HoldsRules after table list.listId (newRules made table entries)))

/-- An update comes to the rules of the entry of a table. -/
def Engages (unset : Unset) (heap : RuleHeap Uuid) (list : ClsList Uuid)
    (table : AclTable) : Prop :=
  (clsValidateEntries list unset.pdStatus).statusCode ≠ .hwUnsupportedErr ∧
    list.entries ≠ none ∧ heap.present table list.listId = true

/-- The list is not empty, and its length fits into `num_rules`. -/
def Fits (list : ClsList Uuid) : Prop :=
  ∃ entries, list.entries = some entries ∧ entries ≠ [] ∧ entries.length < 2 ^ 16

/-- Where the update comes to the rules of an entry, the list fits and the call that
makes the new rules happens to return zero. -/
def Consistent (unset : Unset) (heap : RuleHeap Uuid) (list : ClsList Uuid) : Prop :=
  (Engages unset heap list .pacl → unset.paclResult = 0 ∧ Fits list) ∧
    (Engages unset heap list .racl → unset.raclResult = 0 ∧ Fits list)

section Settling

variable {after : RuleHeap Uuid} {table : AclTable} {listId : Uuid} {new : List Nat}
  {rules : List AclRule}

omit [DecidableEq Uuid] in
theorem Renewed.holdsRules
    (renewed : Renewed heap table listId new rules)
    (short : new.length < 2 ^ 16) : HoldsRules heap table listId rules := by
  refine ⟨new, renewed.chained, renewed.contents, ?_⟩
  rw [renewed.numRules, UInt16.toNat_ofNat']
  exact Nat.mod_eq_of_lt short

omit [DecidableEq Uuid] in
/-- A longer list does not have its number in `num_rules`. -/
theorem Renewed.short
    {others : List AclRule}
    (renewed : Renewed heap table listId new rules)
    (holds : HoldsRules heap table listId others) : new.length < 2 ^ 16 := by
  obtain ⟨blocks, chained, _, numRules⟩ := holds
  have same := renewed.chained.ring.unique chained.ring
  have length : new.length = blocks.length := by
    simpa [nodesOf] using congrArg List.length same
  rw [length, ← numRules]
  exact UInt16.toNat_lt _

omit [DecidableEq Uuid] in
/-- A link to the stack is no link of a list of rules. -/
theorem HoldsRules.prev_ne_stack
    {other : AclTable}
    (holds : HoldsRules heap table listId rules) :
    heap.links.prev (.entry table listId) ≠ .stack other := by
  obtain ⟨blocks, chained, _⟩ := holds
  intro link
  have member := chained.ring.prev_mem
  rw [link] at member
  simp at member

omit [DecidableEq Uuid] in
theorem HoldsRules.leaves
    {touched : List (Addr Uuid)} {blocks : List Nat}
    (chained : Chained heap (.entry table listId) blocks)
    (numRules : (heap.numRules table listId).toNat = blocks.length)
    (leaves : Leaves heap after touched)
    (apart : ∀ node ∈ .entry table listId :: nodesOf blocks, node ∉ touched) :
    HoldsRules after table listId (blocks.map heap.rules) := by
  refine ⟨blocks, chained.leaves leaves apart, ?_, ?_⟩
  · refine List.map_congr_left ?_
    intro block member
    exact leaves.rules block (apart _ (List.mem_cons_of_mem _ (mem_nodesOf.mpr member)))
  · rw [leaves.numRules _ _ (apart _ List.mem_cons_self)]
    exact numRules

/-- A table where the update does not come to the rules. -/
theorem rebuildLinks_idle
    (idle : heap.present table list.listId = true → list.entries = none) :
    ∃ after, rebuildLinks heap made list table = (none, after) ∧
      Leaves heap after [.stack table] ∧ after.present = heap.present := by
  cases present : heap.present table list.listId with
  | false => exact ⟨heap, by simp [rebuildLinks, present], Leaves.refl heap, rfl⟩
  | true =>
      refine ⟨{ heap with links := heap.links.init (.stack table) }, ?_, ?_, rfl⟩
      · simp [rebuildLinks, present, idle present]
      · exact leaves_assign heap (.stack table) (.stack table, .stack table)

/-- What the caller reads of an update that does not come to the rules. -/
def refusal (unset : Unset) (list : ClsList Uuid) : StatusCode :=
  if (clsValidateEntries list unset.pdStatus).statusCode = .hwUnsupportedErr then
    .hwUnsupportedErr
  else .hwConfigErr

omit [DecidableEq Uuid] in
theorem refusal_cases (unset : Unset) (list : ClsList Uuid) :
    refusal unset list = .hwUnsupportedErr ∨ refusal unset list = .hwConfigErr := by
  unfold refusal
  split
  · exact .inl rfl
  · exact .inr rfl

/-- An update that does not come to the rules is refused. -/
theorem listUpdateLinks_idle
    (paclIdle : ¬Engages unset heap list .pacl)
    (raclIdle : ¬Engages unset heap list .racl) :
    ∃ after, listUpdateLinks made unset heap list status =
        some (refusal unset list, after) ∧
      Leaves heap after [.stack .pacl, .stack .racl] := by
  by_cases unsupported :
      (clsValidateEntries list unset.pdStatus).statusCode = .hwUnsupportedErr
  · refine ⟨heap, ?_, Leaves.refl heap⟩
    rw [refusal, if_pos unsupported]
    simp only [listUpdateLinks, unsupported, if_true]
  · have idle : ∀ table, ¬Engages unset heap list table →
        heap.present table list.listId = true → list.entries = none := by
      intro table notEngaged present
      by_contra listed
      exact notEngaged ⟨unsupported, listed, present⟩
    obtain ⟨middle, first, leaves, present⟩ :=
      @rebuildLinks_idle _ _ heap made list .pacl (idle .pacl paclIdle)
    obtain ⟨after, second, raclLeaves, _⟩ :=
      @rebuildLinks_idle _ _ middle made list .racl (by
        rw [present]
        exact idle .racl raclIdle)
    refine ⟨after, ?_, leaves.trans raclLeaves⟩
    rw [refusal, if_neg unsupported]
    simp only [listUpdateLinks, unsupported, if_false, first, second, Option.isNone_none,
      Bool.and_self, if_true]

/-- A call that makes new rules returns something else than zero. -/
def CallFails (unset : Unset) (heap : RuleHeap Uuid) (listId : Uuid) : Prop :=
  (heap.present .pacl listId = true ∧ unset.paclResult ≠ 0) ∨
    (heap.present .racl listId = true ∧ unset.raclResult ≠ 0)

/-- The second half of an update that comes to the rules. -/
theorem listUpdateLinks_engaged
    (linked : Linked heap blocks)
    (fresh : made.Fresh heap.live)
    (supported :
      (clsValidateEntries list unset.pdStatus).statusCode ≠ .hwUnsupportedErr)
    (listed : list.entries = some entries)
    (engaged : heap.present .pacl list.listId = true ∨
      heap.present .racl list.listId = true) :
    ∃ oldPacl oldRacl turned,
      BothTurning heap turned blocks made list.listId entries oldPacl oldRacl ∧
      (oldPacl.isSome ∨ oldRacl.isSome) ∧
      (CallFails unset heap list.listId →
        listUpdateLinks made unset heap list status =
          ((keepOld .pacl list.listId oldPacl turned).bind
            (keepOld .racl list.listId oldRacl)).map fun heap => (.hwConfigErr, heap)) ∧
      (¬CallFails unset heap list.listId →
        listUpdateLinks made unset heap list status =
          ((keepNew .pacl list.listId oldPacl turned).bind
            (keepNew .racl list.listId oldRacl)).map fun heap => (status, heap)) := by
  obtain ⟨oldPacl, oldRacl, middle, turned, first, second, both⟩ :=
    linked.bothTurning fresh listed
  have someOld : oldPacl.isSome ∨ oldRacl.isSome := by
    rw [both.paclSome, both.raclSome]
    exact engaged
  have notIdle : ¬(oldPacl.isNone && oldRacl.isNone) = true := by
    rw [← Option.not_isSome, ← Option.not_isSome, ← Bool.not_or, Bool.not_eq_true',
      Bool.or_eq_false_iff]
    rintro ⟨noPacl, noRacl⟩
    rw [noPacl, noRacl] at someOld
    simp at someOld
  have failing : ((oldPacl.isSome && unset.paclResult != 0) ||
      (oldRacl.isSome && unset.raclResult != 0)) = true ↔
        CallFails unset heap list.listId := by
    rw [both.paclSome, both.raclSome]
    simp [CallFails]
  refine ⟨oldPacl, oldRacl, turned, both, someOld, ?_, ?_⟩
  · intro fails
    simp only [listUpdateLinks, first, second]
    rw [if_neg supported, if_neg notIdle, if_pos (failing.mpr fails)]
  · intro works
    simp only [listUpdateLinks, first, second]
    rw [if_neg supported, if_neg notIdle, if_neg (mt failing.mp works)]

/-- A call that fails leaves nothing defined. -/
theorem listUpdateLinks_fails
    (linked : Linked heap blocks)
    (fresh : made.Fresh heap.live)
    (supported :
      (clsValidateEntries list unset.pdStatus).statusCode ≠ .hwUnsupportedErr)
    (listed : list.entries = some entries)
    (fails : CallFails unset heap list.listId) :
    listUpdateLinks made unset heap list status = none := by
  have engaged := fails.imp And.left And.left
  obtain ⟨oldPacl, oldRacl, turned, both, someOld, failing, _⟩ :=
    listUpdateLinks_engaged linked fresh supported listed engaged
  rw [failing fails, both.keepOld someOld, Option.map_none]

/-- An update with a list that is not empty, when the calls return zero. -/
theorem listUpdateLinks_renews
    (linked : Linked heap blocks)
    (fresh : made.Fresh heap.live)
    (supported :
      (clsValidateEntries list unset.pdStatus).statusCode ≠ .hwUnsupportedErr)
    (listed : list.entries = some entries)
    (engaged : heap.present .pacl list.listId = true ∨
      heap.present .racl list.listId = true)
    (works : ¬CallFails unset heap list.listId)
    (notEmpty : entries ≠ []) :
    ∃ after, listUpdateLinks made unset heap list status = some (status, after) ∧
      (∀ table, table ≠ .bacl → heap.present table list.listId = true →
        Renewed after table list.listId (newBlocks made table entries)
          (newRules made table entries)) ∧
      Leaves heap after (sphere .pacl list.listId
          (blocks .pacl list.listId ++ newBlocks made .pacl entries) ++
        sphere .racl list.listId
          (blocks .racl list.listId ++ newBlocks made .racl entries)) ∧
      after.present = heap.present := by
  obtain ⟨oldPacl, oldRacl, turned, both, _, _, working⟩ :=
    listUpdateLinks_engaged linked fresh supported listed engaged
  obtain ⟨after, kept, pacl, racl, leaves, present⟩ := both.keepNew linked fresh notEmpty
  refine ⟨after, ?_, ?_, leaves, present⟩
  · rw [working works, kept, Option.map_some]
  · intro table updated isPresent
    cases table with
    | pacl => exact pacl (both.paclSome.trans isPresent)
    | bacl => exact absurd rfl updated
    | racl => exact racl (both.raclSome.trans isPresent)

/-- An update with an empty list, when the calls return zero. -/
theorem listUpdateLinks_empty
    (linked : Linked heap blocks)
    (fresh : made.Fresh heap.live)
    (supported :
      (clsValidateEntries list unset.pdStatus).statusCode ≠ .hwUnsupportedErr)
    (listed : list.entries = some [])
    (engaged : heap.present .pacl list.listId = true ∨
      heap.present .racl list.listId = true)
    (works : ¬CallFails unset heap list.listId) :
    ∃ after table, listUpdateLinks made unset heap list status = some (status, after) ∧
      table ≠ .bacl ∧ heap.present table list.listId = true ∧
      after.links.prev (.entry table list.listId) = .stack table := by
  obtain ⟨oldPacl, oldRacl, turned, both, someOld, _, working⟩ :=
    listUpdateLinks_engaged linked fresh supported listed engaged
  obtain ⟨after, table, kept, updated, present, link⟩ :=
    both.keepNew_empty linked fresh someOld
  refine ⟨after, table, ?_, updated, present, link⟩
  rw [working works, kept, Option.map_some]

/-- The entries hold rules after an update that settles. -/
theorem Settles.holds
    (settles : Settles made unset heap list status) :
    ∃ code after, listUpdateLinks made unset heap list status = some (code, after) ∧
      ∀ table, table ≠ .bacl → heap.present table list.listId = true →
        ∃ rules, HoldsRules after table list.listId rules := by
  obtain ⟨code, after, updated, ⟨_, old⟩ | ⟨_, entries, _, new⟩⟩ := settles
  · refine ⟨code, after, updated, ?_⟩
    intro table isUpdated present
    obtain ⟨rules, _, holds⟩ := old table isUpdated present
    exact ⟨rules, holds⟩
  · exact ⟨code, after, updated, fun table isUpdated present =>
      ⟨_, new table isUpdated present⟩⟩

/-- An update that comes to the rules settles only without the defects. -/
theorem Settles.works
    (linked : Linked heap blocks)
    (fresh : made.Fresh heap.live)
    (updated : table ≠ .bacl)
    (engages : Engages unset heap list table)
    (settles : Settles made unset heap list status) :
    ¬CallFails unset heap list.listId ∧ Fits list := by
  obtain ⟨supported, notNull, present⟩ := engages
  obtain ⟨entries, listed⟩ := Option.ne_none_iff_exists'.mp notNull
  obtain ⟨code, after, result, holds⟩ := settles.holds
  have engaged : heap.present .pacl list.listId = true ∨
      heap.present .racl list.listId = true := by
    cases table with
    | pacl => exact .inl present
    | bacl => exact absurd rfl updated
    | racl => exact .inr present
  have works : ¬CallFails unset heap list.listId := by
    intro fails
    rw [listUpdateLinks_fails linked fresh supported listed fails] at result
    exact nomatch result
  by_cases empty : entries = []
  · subst empty
    obtain ⟨broken, other, same, otherUpdated, otherPresent, link⟩ :=
      @listUpdateLinks_empty _ _ heap blocks made list unset status linked fresh supported
        listed engaged works
    rw [same] at result
    obtain ⟨_, rfl⟩ := Prod.mk.inj (Option.some.inj result)
    obtain ⟨rules, otherHolds⟩ := holds other otherUpdated otherPresent
    exact absurd link otherHolds.prev_ne_stack
  · obtain ⟨renewedHeap, same, renewed, _⟩ :=
      @listUpdateLinks_renews _ _ heap blocks made list entries unset status linked fresh
        supported listed engaged works empty
    rw [same] at result
    obtain ⟨_, rfl⟩ := Prod.mk.inj (Option.some.inj result)
    obtain ⟨rules, tableHolds⟩ := holds table updated present
    have short := (renewed table updated present).short tableHolds
    rw [length_newBlocks] at short
    exact ⟨works, entries, listed, empty, short⟩

omit [DecidableEq Uuid] in
/-- Nothing that belongs to an entry is on the stack. -/
theorem Linked.keeps
    (linked : Linked heap blocks)
    (leaves : Leaves heap after [.stack .pacl, .stack .racl])
    (present : heap.present table listId = true) :
    HoldsRules heap table listId ((blocks table listId).map heap.rules) ∧
      HoldsRules after table listId ((blocks table listId).map heap.rules) := by
  have chained := linked.chained table listId present
  have numRules := linked.numRules table listId present
  refine ⟨⟨_, chained, rfl, numRules⟩, HoldsRules.leaves chained numRules leaves ?_⟩
  intro node member
  rcases List.mem_cons.mp member with rfl | inner
  · simp
  · obtain ⟨block, _, rfl⟩ := List.mem_map.mp inner
    simp

omit [DecidableEq Uuid] in
/-- The two ways to keep to the condition. -/
theorem Consistent.cases
    (consistent : Consistent unset heap list) :
    (¬Engages unset heap list .pacl ∧ ¬Engages unset heap list .racl) ∨
      ∃ entries, list.entries = some entries ∧ entries ≠ [] ∧ entries.length < 2 ^ 16 ∧
        (clsValidateEntries list unset.pdStatus).statusCode ≠ .hwUnsupportedErr ∧
        (heap.present .pacl list.listId = true ∨
          heap.present .racl list.listId = true) ∧
        ¬CallFails unset heap list.listId := by
  obtain ⟨pacl, racl⟩ := consistent
  by_cases idle : ¬Engages unset heap list .pacl ∧ ¬Engages unset heap list .racl
  · exact .inl idle
  · have engages : Engages unset heap list .pacl ∨ Engages unset heap list .racl := by
      tauto
    have fits : Fits list := by
      rcases engages with first | second
      · exact (pacl first).2
      · exact (racl second).2
    obtain ⟨entries, listed, notEmpty, short⟩ := fits
    have supported : (clsValidateEntries list unset.pdStatus).statusCode ≠
        .hwUnsupportedErr := by
      rcases engages with first | second
      · exact first.1
      · exact second.1
    have notNull : list.entries ≠ none := by simp [listed]
    refine .inr ⟨entries, listed, notEmpty, short, supported,
      engages.imp (·.2.2) (·.2.2), ?_⟩
    rintro (⟨present, nonzero⟩ | ⟨present, nonzero⟩)
    · exact nonzero (pacl ⟨supported, notNull, present⟩).1
    · exact nonzero (racl ⟨supported, notNull, present⟩).1

/-- In a state with whole lists an update settles if and only if it keeps to the
condition. -/
theorem Linked.settles_iff
    (linked : Linked heap blocks)
    (fresh : made.Fresh heap.live) :
    Settles made unset heap list status ↔ Consistent unset heap list := by
  constructor
  · intro settles
    refine ⟨?_, ?_⟩
    · intro engages
      obtain ⟨works, fits⟩ := settles.works linked fresh (by simp) engages
      refine ⟨?_, fits⟩
      by_contra nonzero
      exact works (.inl ⟨engages.2.2, nonzero⟩)
    · intro engages
      obtain ⟨works, fits⟩ := settles.works linked fresh (by simp) engages
      refine ⟨?_, fits⟩
      by_contra nonzero
      exact works (.inr ⟨engages.2.2, nonzero⟩)
  · intro consistent
    obtain idle | ⟨entries, listed, notEmpty, short, supported, engaged, works⟩ :=
      consistent.cases
    · obtain ⟨after, updated, leaves⟩ :=
        @listUpdateLinks_idle _ _ heap made list unset status idle.1 idle.2
      refine ⟨_, after, updated, .inl ⟨refusal_cases unset list, ?_⟩⟩
      intro table _ present
      exact ⟨_, linked.keeps leaves present⟩
    · obtain ⟨after, updated, renewed, _⟩ :=
        @listUpdateLinks_renews _ _ heap blocks made list entries unset status linked fresh
          supported listed engaged works notEmpty
      refine ⟨status, after, updated, .inr ⟨rfl, entries, listed, ?_⟩⟩
      intro table isUpdated present
      refine (renewed table isUpdated present).holdsRules ?_
      rw [length_newBlocks]
      exact short

end Settling

end Updates

/-! ## Runs -/

/-- What happens to the entries: they are added and deleted, lists are updated, and
statistics are read or cleared. -/
inductive LinkEvent (Uuid : Type)
  | add (table : AclTable) (list : ClsList Uuid) (made : Made)
  | delete (table : AclTable) (listId : Uuid)
  | update (list : ClsList Uuid) (made : Made) (unset : Unset) (status : StatusCode)
  | count (counts : Nat → Nat)

section Runs

variable [DecidableEq Uuid] {heap after : RuleHeap Uuid}
  {blocks blocks' : AclTable → Uuid → List Nat}

/-- The entries after an event. -/
def nextHeap (heap : RuleHeap Uuid) : LinkEvent Uuid → RuleHeap Uuid
  | .add table list made => addEntry heap made table list
  | .delete table listId => (deleteEntry heap table listId).getD heap
  | .update list made unset status =>
      ((listUpdateLinks made unset heap list status).map (·.2)).getD heap
  | .count counts =>
      { heap with rules := fun block => { heap.rules block with count := counts block } }

/-- Entries are added once and deleted while they are there, `malloc` returns blocks
that are not in use, the lengths of lists fit into `num_rules`, and updates keep to the
condition. -/
def Orderly (heap : RuleHeap Uuid) : LinkEvent Uuid → Prop
  | .add table list made => heap.present table list.listId = false ∧
      made.Fresh heap.live ∧
      ∀ entries, list.entries = some entries → entries.length < 2 ^ 16
  | .delete table listId => heap.present table listId = true
  | .update list made unset _ => made.Fresh heap.live ∧ Consistent unset heap list
  | .count _ => True

/-- The states that orderly runs reach from empty maps. -/
def ReachedByLinks (heap : RuleHeap Uuid) : Prop :=
  Transition.Reach (fun initial => ∀ table listId, initial.present table listId = false)
    Orderly nextHeap heap

omit [DecidableEq Uuid] in
/-- A step that gives some entries other lists, made of new rules, and leaves the rest
alone. -/
theorem Linked.change
    {touched : List (Addr Uuid)} (changed : AclTable → Uuid → Prop)
    (linked : Linked heap blocks)
    (leaves : Leaves heap after touched)
    (kept : ∀ table listId, ¬changed table listId →
      blocks' table listId = blocks table listId ∧ .entry table listId ∉ touched ∧
        ∀ block ∈ blocks table listId, .rule block ∉ touched)
    (chained : ∀ table listId, changed table listId → after.present table listId = true →
      Chained after (.entry table listId) (blocks' table listId) ∧
        (after.numRules table listId).toNat = (blocks' table listId).length)
    (absent : ∀ table listId, changed table listId → after.present table listId = false →
      blocks' table listId = [])
    (fresh : ∀ table listId, changed table listId → ∀ block ∈ blocks' table listId,
      block ∉ heap.live)
    (apart : ∀ {table listId other otherId block}, changed table listId →
      changed other otherId → block ∈ blocks' table listId →
      block ∈ blocks' other otherId → table = other ∧ listId = otherId) :
    Linked after blocks' := by
  have present : ∀ table listId, ¬changed table listId →
      after.present table listId = heap.present table listId := fun table listId same =>
    leaves.present table listId (kept table listId same).2.1
  refine ⟨?_, ?_, ?_, ?_⟩
  · intro table listId isPresent
    by_cases isChanged : changed table listId
    · exact (chained table listId isChanged isPresent).1
    · obtain ⟨same, entryKept, rulesKept⟩ := kept table listId isChanged
      rw [present table listId isChanged] at isPresent
      rw [same]
      refine (linked.chained table listId isPresent).leaves leaves ?_
      intro node member
      rcases List.mem_cons.mp member with rfl | inner
      · exact entryKept
      · obtain ⟨block, isOld, rfl⟩ := List.mem_map.mp inner
        exact rulesKept block isOld
  · intro table listId isPresent
    by_cases isChanged : changed table listId
    · exact (chained table listId isChanged isPresent).2
    · obtain ⟨same, entryKept, _⟩ := kept table listId isChanged
      rw [present table listId isChanged] at isPresent
      rw [same, leaves.numRules table listId entryKept]
      exact linked.numRules table listId isPresent
  · intro table listId isAbsent
    by_cases isChanged : changed table listId
    · exact absent table listId isChanged isAbsent
    · rw [present table listId isChanged] at isAbsent
      rw [(kept table listId isChanged).1]
      exact linked.absent table listId isAbsent
  · intro table listId other otherId block first second
    by_cases isChanged : changed table listId
    · by_cases otherChanged : changed other otherId
      · exact apart isChanged otherChanged first second
      · rw [(kept other otherId otherChanged).1] at second
        exact absurd (linked.live second) (fresh table listId isChanged block first)
    · rw [(kept table listId isChanged).1] at first
      by_cases otherChanged : changed other otherId
      · exact absurd (linked.live first) (fresh other otherId otherChanged block second)
      · rw [(kept other otherId otherChanged).1] at second
        exact linked.apart first second

/-- The blocks with another list for the entry of a list in a table. -/
def withBlocks (blocks : AclTable → Uuid → List Nat) (table : AclTable) (listId : Uuid)
    (new : List Nat) : AclTable → Uuid → List Nat :=
  fun other otherId =>
    if other = table ∧ otherId = listId then new else blocks other otherId

theorem withBlocks_self (blocks : AclTable → Uuid → List Nat) (table : AclTable)
    (listId : Uuid) (new : List Nat) : withBlocks blocks table listId new table listId = new :=
  if_pos ⟨rfl, rfl⟩

omit [DecidableEq Uuid] in
/-- An entry elsewhere is not touched by what happens to one entry. -/
theorem Linked.elsewhere
    {table other : AclTable} {listId otherId : Uuid} {new : List Nat}
    (linked : Linked heap blocks)
    (fresh : ∀ block ∈ new, block ∉ heap.live)
    (different : ¬(other = table ∧ otherId = listId)) :
    .entry other otherId ∉ .entry table listId :: nodesOf (blocks table listId ++ new) ∧
      ∀ block ∈ blocks other otherId,
        .rule block ∉ .entry table listId :: nodesOf (blocks table listId ++ new) := by
  refine ⟨?_, ?_⟩
  · simp only [List.mem_cons, Addr.entry.injEq, entry_not_mem_nodesOf, or_false]
    exact different
  · intro block member touched
    simp only [List.mem_cons, reduceCtorEq, mem_nodesOf, List.mem_append,
      false_or] at touched
    rcases touched with own | isNew
    · exact different (linked.apart member own)
    · exact fresh block isNew (linked.live member)

/-- One entry changes. -/
theorem Linked.changeOne
    {table : AclTable} {listId : Uuid} {new : List Nat}
    (linked : Linked heap blocks)
    (leaves : Leaves heap after
      (.entry table listId :: nodesOf (blocks table listId ++ new)))
    (chained : after.present table listId = true →
      Chained after (.entry table listId) new ∧
        (after.numRules table listId).toNat = new.length)
    (absent : after.present table listId = false → new = [])
    (fresh : ∀ block ∈ new, block ∉ heap.live) :
    Linked after (withBlocks blocks table listId new) := by
  refine linked.change (fun other otherId => other = table ∧ otherId = listId) leaves ?_ ?_
    ?_ ?_ ?_
  · intro other otherId different
    exact ⟨if_neg different, linked.elsewhere fresh different⟩
  · rintro other otherId ⟨rfl, rfl⟩ present
    rw [withBlocks_self]
    exact chained present
  · rintro other otherId ⟨rfl, rfl⟩ isAbsent
    rw [withBlocks_self]
    exact absent isAbsent
  · rintro other otherId ⟨rfl, rfl⟩ block member
    rw [withBlocks_self] at member
    exact fresh block member
  · rintro first firstId second secondId block ⟨rfl, rfl⟩ ⟨rfl, rfl⟩ _ _
    exact ⟨rfl, rfl⟩

/-- A new entry with its list. -/
theorem addEntry_spec
    {made : Made} {table : AclTable} {list : ClsList Uuid}
    (fresh : made.Fresh heap.live) :
    Chained (addEntry heap made table list) (.entry table list.listId)
        (newBlocks made table (list.entries.getD [])) ∧
      Leaves heap (addEntry heap made table list)
        (.entry table list.listId ::
          nodesOf (newBlocks made table (list.entries.getD []))) ∧
      (addEntry heap made table list).numRules table list.listId =
        UInt16.ofNat (list.entries.getD []).length ∧
      (addEntry heap made table list).present table list.listId = true ∧
      (newBlocks made table (list.entries.getD [])).map
        (addEntry heap made table list).rules =
          newRules made table (list.entries.getD []) := by
  let entries := list.entries.getD []
  let opened : RuleHeap Uuid := setNumRules
    { setPresent heap table list.listId true with
      links := heap.links.init (.entry table list.listId) }
    table list.listId (UInt16.ofNat (madeRules made table entries).length)
  have added : addEntry heap made table list =
      (madeRules made table entries).foldl (pushRule (.entry table list.listId)) opened := by
    cases listed : list.entries with
    | none =>
        simp [addEntry, listed, opened, entries, madeRules, setNumRules, setPresent]
    | some items =>
        simp [addEntry, listed, opened, entries, createRuleList, setNumRules, setPresent]
  have opens : Leaves heap opened [.entry table list.listId] := by
    refine ⟨?_, fun _ _ => Iff.rfl, fun _ _ => rfl, ?_, ?_⟩
    · exact (leaves_assign heap _ (.entry table list.listId, .entry table list.listId)).links
    · intro other otherId outside
      change (setPresent heap table list.listId true).present other otherId = _
      rw [setPresent_present, if_neg]
      rintro ⟨rfl, rfl⟩
      exact outside List.mem_cons_self
    · intro other otherId outside
      rw [setNumRules_numRules, if_neg]
      · rfl
      · rintro ⟨rfl, rfl⟩
        exact outside List.mem_cons_self
  have empty : Chained opened (.entry table list.listId) [] :=
    ⟨isRing_init heap.links _, fun _ member => absurd member List.not_mem_nil⟩
  obtain ⟨chained, pushes, contents⟩ :=
    empty.pushRules (madeRules made table entries) (by simp) (fresh.nodup table entries)
  obtain ⟨present, numRules⟩ := pushRules_fields (.entry table list.listId)
    (madeRules made table entries) opened
  rw [List.nil_append] at chained pushes
  rw [added, present, numRules]
  refine ⟨chained, (opens.trans pushes).mono ?_, ?_, ?_, contents⟩
  · intro node touched
    simp only [List.cons_append, List.nil_append, List.mem_cons] at touched ⊢
    tauto
  · simp [opened, setNumRules_numRules, madeRules, entries]
  · simp [opened, setNumRules, setPresent]

theorem Linked.add
    {made : Made} {table : AclTable} {list : ClsList Uuid}
    (linked : Linked heap blocks)
    (absent : heap.present table list.listId = false)
    (fresh : made.Fresh heap.live)
    (short : ∀ entries, list.entries = some entries → entries.length < 2 ^ 16) :
    Linked (addEntry heap made table list) (withBlocks blocks table list.listId
      (newBlocks made table (list.entries.getD []))) := by
  obtain ⟨chained, leaves, numRules, present, _⟩ :=
    @addEntry_spec _ _ heap made table list fresh
  have getD_short : (list.entries.getD []).length < 2 ^ 16 := by
    cases listed : list.entries with
    | none => simp
    | some entries => exact short entries listed
  refine linked.changeOne ?_ ?_ ?_ ?_
  · rw [linked.absent table list.listId absent, List.nil_append]
    exact leaves
  · intro _
    refine ⟨chained, ?_⟩
    rw [numRules, length_newBlocks, UInt16.toNat_ofNat']
    exact Nat.mod_eq_of_lt getD_short
  · intro notPresent
    rw [present] at notPresent
    exact nomatch notPresent
  · exact fun block isNew => fresh.not_live isNew

theorem Linked.delete
    {table : AclTable} {listId : Uuid}
    (linked : Linked heap blocks)
    (present : heap.present table listId = true) :
    ∃ after, deleteEntry heap table listId = some after ∧
      Linked after (withBlocks blocks table listId []) ∧
      Leaves heap after (.entry table listId :: nodesOf (blocks table listId)) ∧
      after.present table listId = false := by
  obtain ⟨emptied, destroyed, leaves, _⟩ :=
    (linked.chained table listId present).destroyRuleList (by simp)
  have marked : (setPresent emptied table listId false).present table listId = false := by
    rw [setPresent_present, if_pos ⟨rfl, rfl⟩]
  have whole : Leaves heap (setPresent emptied table listId false)
      (.entry table listId :: nodesOf (blocks table listId)) := by
    refine ⟨leaves.links, leaves.live, leaves.rules, ?_, leaves.numRules⟩
    intro other otherId outside
    rw [setPresent_present, if_neg]
    · exact leaves.present other otherId outside
    · rintro ⟨rfl, rfl⟩
      exact outside List.mem_cons_self
  refine ⟨setPresent emptied table listId false, ?_, linked.changeOne ?_ ?_ ?_ ?_, whole,
    marked⟩
  · rw [deleteEntry, destroyed, Option.map_some]
  · rw [List.append_nil]
    exact whole
  · intro stillPresent
    rw [marked] at stillPresent
    exact nomatch stillPresent
  · exact fun _ => rfl
  · exact fun _ member => absurd member List.not_mem_nil

/-- The blocks after an update of a list in the port and router tables. -/
def updatedBlocks (heap : RuleHeap Uuid) (blocks : AclTable → Uuid → List Nat)
    (made : Made) (listId : Uuid) (entries : List ListEntry) :
    AclTable → Uuid → List Nat :=
  fun table otherId =>
    if table ≠ .bacl ∧ otherId = listId then
      if heap.present table listId then newBlocks made table entries else []
    else blocks table otherId

theorem mem_updatedBlocks
    {made : Made} {table : AclTable} {listId : Uuid} {entries : List ListEntry}
    {block : Nat}
    (updated : table ≠ .bacl)
    (member : block ∈ updatedBlocks heap blocks made listId entries table listId) :
    block ∈ newBlocks made table entries := by
  rw [updatedBlocks, if_pos ⟨updated, rfl⟩] at member
  cases present : heap.present table listId with
  | false => simp [present] at member
  | true => simpa [present] using member

/-- An update in the two tables does not touch the other entries. -/
theorem Linked.updated_elsewhere
    {made : Made} {table : AclTable} {listId otherId : Uuid} {entries : List ListEntry}
    (linked : Linked heap blocks)
    (fresh : made.Fresh heap.live)
    (unchanged : ¬(table ≠ .bacl ∧ otherId = listId)) :
    updatedBlocks heap blocks made listId entries table otherId = blocks table otherId ∧
      .entry table otherId ∉
        sphere .pacl listId (blocks .pacl listId ++ newBlocks made .pacl entries) ++
          sphere .racl listId (blocks .racl listId ++ newBlocks made .racl entries) ∧
      ∀ block ∈ blocks table otherId, .rule block ∉
        sphere .pacl listId (blocks .pacl listId ++ newBlocks made .pacl entries) ++
          sphere .racl listId (blocks .racl listId ++ newBlocks made .racl entries) := by
  have elsewhere : ∀ {other}, other ≠ AclTable.bacl →
      .entry table otherId ∉ sphere other listId
          (blocks other listId ++ newBlocks made other entries) ∧
        ∀ block ∈ blocks table otherId, .rule block ∉ sphere other listId
          (blocks other listId ++ newBlocks made other entries) := by
    intro other updated
    refine ⟨?_, ?_⟩
    · simp only [sphere, List.mem_cons, Addr.entry.injEq, reduceCtorEq,
        entry_not_mem_nodesOf, or_false]
      rintro ⟨rfl, rfl⟩
      exact unchanged ⟨updated, rfl⟩
    · intro block member touched
      simp only [sphere, List.mem_cons, reduceCtorEq, mem_nodesOf, List.mem_append,
        false_or] at touched
      rcases touched with isOld | isNew
      · obtain ⟨rfl, rfl⟩ := linked.apart member isOld
        exact unchanged ⟨updated, rfl⟩
      · exact fresh.not_live isNew (linked.live member)
  obtain ⟨paclEntry, paclRules⟩ := @elsewhere .pacl (by simp)
  obtain ⟨raclEntry, raclRules⟩ := @elsewhere .racl (by simp)
  refine ⟨if_neg unchanged, ?_, ?_⟩
  · rw [List.mem_append, not_or]
    exact ⟨paclEntry, raclEntry⟩
  · intro block member
    rw [List.mem_append, not_or]
    exact ⟨paclRules block member, raclRules block member⟩

/-- The lists after new rules in the two tables. -/
theorem Linked.renew
    {made : Made} {listId : Uuid} {entries : List ListEntry}
    (linked : Linked heap blocks)
    (fresh : made.Fresh heap.live)
    (short : entries.length < 2 ^ 16)
    (renewed : ∀ table, table ≠ .bacl → heap.present table listId = true →
      Renewed after table listId (newBlocks made table entries)
        (newRules made table entries))
    (leaves : Leaves heap after
      (sphere .pacl listId (blocks .pacl listId ++ newBlocks made .pacl entries) ++
        sphere .racl listId (blocks .racl listId ++ newBlocks made .racl entries)))
    (present : after.present = heap.present) :
    Linked after (updatedBlocks heap blocks made listId entries) := by
  refine linked.change (fun table otherId => table ≠ .bacl ∧ otherId = listId) leaves
    ?_ ?_ ?_ ?_ ?_
  · intro table otherId unchanged
    exact linked.updated_elsewhere fresh unchanged
  · rintro table otherId ⟨updated, rfl⟩ isPresent
    rw [present] at isPresent
    have entry := renewed table updated isPresent
    rw [updatedBlocks, if_pos ⟨updated, rfl⟩, if_pos isPresent]
    refine ⟨entry.chained, ?_⟩
    rw [entry.numRules, length_newBlocks, UInt16.toNat_ofNat']
    exact Nat.mod_eq_of_lt short
  · rintro table otherId ⟨updated, rfl⟩ isAbsent
    rw [present] at isAbsent
    rw [updatedBlocks, if_pos ⟨updated, rfl⟩, if_neg (by simp [isAbsent])]
  · rintro table otherId ⟨updated, rfl⟩ block member
    exact fresh.not_live (mem_updatedBlocks updated member)
  · rintro table otherId other _ block ⟨updated, rfl⟩ ⟨otherUpdated, rfl⟩ first second
    refine ⟨?_, rfl⟩
    by_contra different
    exact fresh.apart different (mem_updatedBlocks updated first)
      (mem_updatedBlocks otherUpdated second)

omit [DecidableEq Uuid] in
/-- The lists of the entries do not lead to the stack. -/
theorem Linked.idle
    (linked : Linked heap blocks)
    (leaves : Leaves heap after [.stack .pacl, .stack .racl]) : Linked after blocks := by
  refine linked.change (fun _ _ => False) leaves ?_ ?_ ?_ ?_ ?_
  · intro table listId _
    exact ⟨rfl, by simp, by simp⟩
  · exact fun _ _ impossible => impossible.elim
  · exact fun _ _ impossible => impossible.elim
  · exact fun _ _ impossible => impossible.elim
  · exact fun impossible => impossible.elim

/-- An update that keeps to the condition leaves whole lists. -/
theorem Linked.update
    {made : Made} {list : ClsList Uuid} {unset : Unset}
    (status : StatusCode)
    (linked : Linked heap blocks)
    (fresh : made.Fresh heap.live)
    (consistent : Consistent unset heap list) :
    ∃ code after blocks', listUpdateLinks made unset heap list status =
      some (code, after) ∧ Linked after blocks' := by
  obtain idle | ⟨entries, listed, notEmpty, short, supported, engaged, works⟩ :=
    consistent.cases
  · obtain ⟨after, updated, leaves⟩ :=
      @listUpdateLinks_idle _ _ heap made list unset status idle.1 idle.2
    exact ⟨_, after, blocks, updated, linked.idle leaves⟩
  · obtain ⟨after, updated, renewed, leaves, present⟩ :=
      @listUpdateLinks_renews _ _ heap blocks made list entries unset status linked fresh
        supported listed engaged works notEmpty
    exact ⟨status, after, _, updated, linked.renew fresh short renewed leaves present⟩

/-- Every orderly run keeps the lists whole. -/
theorem ReachedByLinks.linked
    (reached : ReachedByLinks heap) : ∃ blocks, Linked heap blocks := by
  refine Transition.Reach.invariant (fun heap => ∃ blocks, Linked heap blocks) ?_ ?_ reached
  · intro initial absent
    have notPresent : ∀ table listId, ¬initial.present table listId = true := by
      intro table listId present
      rw [absent table listId] at present
      exact nomatch present
    refine ⟨fun _ _ => [], ?_, ?_, fun _ _ _ => rfl, ?_⟩
    · exact fun table listId present => absurd present (notPresent table listId)
    · exact fun table listId present => absurd present (notPresent table listId)
    · exact fun member => absurd member List.not_mem_nil
  · rintro current event ⟨blocks, linked⟩ orderly
    cases event with
    | add table list made =>
        obtain ⟨absent, fresh, short⟩ := orderly
        exact ⟨_, linked.add absent fresh short⟩
    | delete table listId =>
        obtain ⟨after, deleted, whole, _⟩ := linked.delete orderly
        refine ⟨withBlocks blocks table listId [], ?_⟩
        rw [nextHeap, deleted]
        exact whole
    | update list made unset status =>
        obtain ⟨fresh, consistent⟩ := orderly
        obtain ⟨code, after, blocks', updated, whole⟩ :=
          linked.update status fresh consistent
        refine ⟨blocks', ?_⟩
        rw [nextHeap, updated]
        exact whole
    | count counts =>
        refine ⟨blocks, ?_, linked.numRules, linked.absent, linked.apart⟩
        intro table listId present
        have chained := linked.chained table listId present
        exact ⟨chained.ring, chained.live⟩

/-- In every state of an orderly run the entries hold rules on whole lists, and an
update leaves both entries of its list with the old rules or with the new ones if and
only if it keeps to the condition. -/
theorem settles_iff_consistent
    {made : Made} {list : ClsList Uuid} {unset : Unset} {status : StatusCode}
    (reached : ReachedByLinks heap)
    (fresh : made.Fresh heap.live) :
    (∀ table listId, heap.present table listId = true →
      ∃ rules, HoldsRules heap table listId rules) ∧
    (Settles made unset heap list status ↔ Consistent unset heap list) := by
  obtain ⟨blocks, linked⟩ := reached.linked
  refine ⟨?_, linked.settles_iff fresh⟩
  intro table listId present
  exact ⟨_, blocks table listId, linked.chained table listId present, rfl,
    linked.numRules table listId present⟩

end Runs

/-! ## A list in both tables -/

/-- `malloc` returns blocks from a number on, and the TCAM manager counts. -/
def madeFrom (start : Nat) : Made where
  block := fun table index =>
    match table with
    | .pacl => start + 3 * index
    | .bacl => start + 3 * index + 1
    | .racl => start + 3 * index + 2
  ruleIndex := fun _ index => index

theorem madeFrom_fresh
    {start : Nat} {live : Finset Nat}
    (below : ∀ block ∈ live, block < start) : (madeFrom start).Fresh live := by
  refine ⟨?_, ?_⟩
  · intro table index isLive
    have bound := below _ isLive
    cases table <;> simp only [madeFrom] at bound <;> omega
  · intro first second index other same
    cases first <;> cases second <;> simp only [madeFrom] at same <;>
      simp only [reduceCtorEq, true_and, false_and] <;> omega

/-- Nothing is applied. -/
def noEntries (Uuid : Type) : RuleHeap Uuid where
  links := ⟨id, id⟩
  live := ∅
  rules := fun _ => { ruleId := 0, counterEn := false, count := 0 }
  present := fun _ _ => false
  numRules := fun _ _ => 0

/-- List 1 on a port and on a router interface. -/
def bothRun : List (LinkEvent Nat) :=
  [.add .pacl firstList (madeFrom 0), .add .racl firstList (madeFrom 10)]

/-- The entries after a run. -/
def afterLinks (events : List (LinkEvent Nat)) : RuleHeap Nat :=
  Transition.run nextHeap (noEntries Nat) events

theorem reached_bothRun : ReachedByLinks (afterLinks bothRun) := by
  have initial : ReachedByLinks (noEntries Nat) := .start fun _ _ => rfl
  have short : ∀ entries, firstList.entries = some entries → entries.length < 2 ^ 16 := by
    rintro entries listed
    obtain rfl := Option.some.inj listed
    decide
  exact initial.of_run ⟨⟨rfl, madeFrom_fresh (by decide), short⟩,
    ⟨by decide, madeFrom_fresh (by decide), short⟩, trivial⟩

/-- Both entries get the new rules. -/
theorem settles_bothRun :
    Settles (madeFrom 20) luckily (afterLinks bothRun) secondList .success := by
  refine (settles_iff_consistent reached_bothRun (madeFrom_fresh (by decide))).2.mpr ?_
  have fits : Fits secondList := ⟨_, rfl, by decide, by decide⟩
  exact ⟨fun _ => ⟨rfl, fits⟩, fun _ => ⟨rfl, fits⟩⟩

/-- An update with no entries leaves links to the stack, and one where a call returns
something else than zero is not defined. -/
theorem not_settles_bothRun :
    ReachedByLinks (afterLinks bothRun) ∧ (madeFrom 20).Fresh (afterLinks bothRun).live ∧
      ¬Settles (madeFrom 20) luckily (afterLinks bothRun)
        { secondList with entries := some [] } .success ∧
      ¬Settles (madeFrom 20) { luckily with raclResult := 1 } (afterLinks bothRun)
        secondList .success := by
  have fresh : (madeFrom 20).Fresh (afterLinks bothRun).live :=
    madeFrom_fresh (by decide)
  obtain ⟨blocks, linked⟩ := reached_bothRun.linked
  refine ⟨reached_bothRun, fresh, ?_, ?_⟩
  · rw [linked.settles_iff fresh]
    intro consistent
    obtain ⟨_, entries, listed, notEmpty, _⟩ :=
      consistent.1 ⟨by decide, by decide, by decide⟩
    exact notEmpty (Option.some.inj listed).symm
  · rw [linked.settles_iff fresh]
    intro consistent
    obtain ⟨zero, _⟩ := consistent.2 ⟨by decide, by decide, by decide⟩
    exact nomatch zero

end Classifier
end XpliantSwitchd
