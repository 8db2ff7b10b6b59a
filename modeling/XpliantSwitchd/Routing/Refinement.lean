import XpliantSwitchd.Routing.Contents
import Mathlib.Data.Finset.Basic

/-!
# Routes as a map from prefixes to sets of next hops

The purpose of the route half is to keep, for each prefix, a set of next hops:
`ADD` unites, `DELETE_NH` subtracts and `DELETE` forgets.  This module states
that map and compares the code with it.  The two agree as long as no group is
reused for a smaller set of next hops than it holds; the size test of the reuse
excludes this unless the reserved size of the new group was miscounted.
-/

namespace XpliantSwitchd
namespace Routing

/-! ## The groups a request builds -/

/-- The ids of the group behind a pointer. -/
def pointerIds (mgr : L3Mgr) (pointer : Option GroupRef) : List String :=
  (pointer.map fun ref => (deref mgr ref).ids).getD []

@[simp] theorem pointerIds_none (mgr : L3Mgr) : pointerIds mgr none = [] := rfl

@[simp] theorem pointerIds_some (mgr : L3Mgr) (ref : GroupRef) :
    pointerIds mgr (some ref) = (deref mgr ref).ids := rfl

/-- The size of the group behind a pointer. -/
def pointerSize (mgr : L3Mgr) (pointer : Option GroupRef) : Nat :=
  ((pointer.map (deref mgr)).map (·.size)).getD 0

/-- Copying next hops with distinct ids into a newly allocated group. -/
theorem nhInsertAll_spec
    {env : Env} {xdk : Outcome} {mgr mgr' : L3Mgr} {size : Nat} {empty : NhGroup}
    {entries : List NhEntry}
    (allocated : nhGroupAlloc env xdk mgr size = (some empty, mgr'))
    (once : (entries.map (·.id)).Nodup)
    (room : entries.length ≤ size) :
    (nhInsertAll env empty entries).WellFormed ∧
      (nhInsertAll env empty entries).ids = entries.map (·.id) ∧
      (nhInsertAll env empty entries).size = size := by
  have shape := (nhGroupAlloc_some allocated).2.2.1
  have noHops : empty.nhMap = [] := by rw [shape]
  have isSize : empty.size = size := by rw [shape]
  have laid : empty.Laid := by simp [NhGroup.Laid, noHops]
  have ids : (nhInsertAll env empty entries).ids = entries.map (·.id) := by
    have noIds : empty.ids = [] := by simp [NhGroup.ids, noHops]
    simp [nhInsertAll_ids, noIds]
  have sameSize : (nhInsertAll env empty entries).size = size := by
    rw [nhInsertAll_size env entries (by simpa [noHops, isSize] using room), isSize]
  refine ⟨⟨ids ▸ once, nhInsertAll_laid env laid entries, ?_⟩, ids, sameSize⟩
  rw [nhInsertAll_length, sameSize]
  simpa [noHops] using room

/-- The next hops that `route_update` copies from the old group. -/
def copiedHops (xdk : Outcome) (mgr : L3Mgr) (pointer : Option GroupRef) :
    List NhEntry :=
  ((pointer.map (deref mgr)).map fun group =>
    xdk.nhOrder.visit group.nhMap).getD []

theorem copiedHops_ids
    (xdk : Outcome) (mgr : L3Mgr) (pointer : Option GroupRef) :
    ((copiedHops xdk mgr pointer).map (·.id)).Perm (pointerIds mgr pointer) := by
  cases pointer with
  | none => exact List.Perm.refl _
  | some ref => exact (xdk.nhOrder.perm (deref mgr ref).nhMap).map _

theorem pointerIds_wellFormed
    {mgr : L3Mgr} {pointer : Option GroupRef}
    (oldWell : ∀ ref, pointer = some ref → (deref mgr ref).WellFormed) :
    (pointerIds mgr pointer).Nodup ∧
      (pointerIds mgr pointer).length ≤ pointerSize mgr pointer := by
  cases pointer with
  | none => simp [pointerIds, pointerSize]
  | some ref =>
      have well := oldWell ref rfl
      exact ⟨well.idsOnce, by simpa [pointerIds, pointerSize] using well.fits⟩

/-- The group `route_update` builds holds the old next hops and the requested
ones, but reserves a slot for each of both. -/
theorem updateCandidate_spec
    {env : Env} {xdk : Outcome} {mgr : L3Mgr} {request : OfprotoRoute}
    {pointer : Option GroupRef} {candidate : NhGroup}
    (oldWell : ∀ ref, pointer = some ref → (deref mgr ref).WellFormed)
    (once : (request.nexthops.map (·.id)).Nodup)
    (isCandidate : updateCandidate env xdk mgr request pointer = some candidate) :
    candidate.WellFormed ∧
      candidate.size = request.nexthops.length + pointerSize mgr pointer ∧
      candidate.nhMap.length = (pointerIds mgr pointer).length +
        request.nexthops.countP
          (fun nh => !(pointerIds mgr pointer).contains nh.id) ∧
      ∀ id, id ∈ candidate.ids ↔
        id ∈ pointerIds mgr pointer ∨ id ∈ request.nexthops.map (·.id) := by
  simp only [updateCandidate] at isCandidate
  split at isCandidate
  · generalize allocated : nhGroupAlloc env xdk mgr (request.nexthops.length +
      ((pointer.map (deref mgr)).map (·.size)).getD 0) = allocation at isCandidate
    obtain ⟨result, mgr₁⟩ := allocation
    cases result with
    | none => cases isCandidate
    | some empty =>
        simp only [Option.bind_some] at isCandidate
        split at isCandidate
        · rename_i group merged
          cases isCandidate
          have copied := copiedHops_ids xdk mgr pointer
          obtain ⟨oldOnce, oldFits⟩ := pointerIds_wellFormed oldWell
          have copiedLength : (copiedHops xdk mgr pointer).length =
              (pointerIds mgr pointer).length := by
            simpa using copied.length_eq
          obtain ⟨baseWell, baseIds, baseSize⟩ := nhInsertAll_spec allocated
            (copied.nodup_iff.mpr oldOnce)
            (by
              rw [copiedLength]
              exact Nat.le_add_left_of_le oldFits)
          have sameMembers : ∀ id, id ∈ (nhInsertAll env empty
              (copiedHops xdk mgr pointer)).ids ↔ id ∈ pointerIds mgr pointer := by
            intro id
            rw [baseIds]
            exact copied.mem_iff
          have sameCount : request.nexthops.countP (fun nh =>
              !(nhInsertAll env empty (copiedHops xdk mgr pointer)).ids.contains
                nh.id) =
              request.nexthops.countP fun nh =>
                !(pointerIds mgr pointer).contains nh.id := by
            apply List.countP_congr
            intro nh _
            simp [sameMembers]
          have baseLength : (nhInsertAll env empty
              (copiedHops xdk mgr pointer)).nhMap.length =
              (pointerIds mgr pointer).length := by
            rw [← NhGroup.length_ids, baseIds]
            exact copied.length_eq
          have bounded := List.countP_le_length
            (p := fun nh : RouteNexthop => !(pointerIds mgr pointer).contains nh.id)
            (l := request.nexthops)
          obtain ⟨well, size, length, ids⟩ := nhGroupUpdate_spec baseWell once
            (by
              rw [baseLength, baseSize, sameCount, Nat.add_comm]
              exact Nat.add_le_add bounded oldFits) merged
          refine ⟨well, size.trans baseSize, ?_, ?_⟩
          · rw [length, baseLength, sameCount]
          · intro id
            rw [ids, sameMembers]
        · cases isCandidate
  · cases isCandidate

/-- The group `delete_nh_entry` builds holds the next hops that are not
listed. -/
theorem deleteCandidate_spec
    {env : Env} {xdk : Outcome} {mgr : L3Mgr} {request : OfprotoRoute}
    {ref : GroupRef} {candidate : NhGroup}
    (oldWell : (deref mgr ref).WellFormed)
    (isCandidate : deleteCandidate env xdk mgr request ref = some candidate) :
    candidate.WellFormed ∧
      candidate.size + listedCount xdk request (deref mgr ref) =
        (deref mgr ref).size ∧
      candidate.nhMap.length + listedCount xdk request (deref mgr ref) =
        (deref mgr ref).nhMap.length ∧
      ∀ id, id ∈ candidate.ids ↔
        id ∈ (deref mgr ref).ids ∧ id ∉ request.nexthops.map (·.id) := by
  simp only [deleteCandidate] at isCandidate
  split at isCandidate
  · rename_i left
    change (deref mgr ref).size > listedCount xdk request (deref mgr ref) at left
    generalize allocated : nhGroupAlloc env xdk mgr ((deref mgr ref).size -
      (xdk.nhOrder.visit (deref mgr ref).nhMap).countP (isListed request)) =
        allocation at isCandidate
    obtain ⟨result, mgr₁⟩ := allocation
    cases result with
    | none => cases isCandidate
    | some empty =>
        cases isCandidate
        have visited := xdk.nhOrder.perm (deref mgr ref).nhMap
        have visitedOnce : ((xdk.nhOrder.visit (deref mgr ref).nhMap).map
            (·.id)).Nodup :=
          (visited.map _).nodup_iff.mpr oldWell.idsOnce
        have keptLength := length_unlisted xdk request (deref mgr ref)
        have fits := oldWell.fits
        have keptOnce : (((xdk.nhOrder.visit (deref mgr ref).nhMap).filter
            (!isListed request ·)).map (·.id)).Nodup :=
          visitedOnce.sublist (List.Sublist.map _ List.filter_sublist)
        obtain ⟨well, ids, size⟩ := nhInsertAll_spec allocated keptOnce
          (by
            unfold listedCount at keptLength left
            omega)
        refine ⟨well, ?_, ?_, ?_⟩
        · rw [size]
          unfold listedCount at left ⊢
          omega
        · rw [← NhGroup.length_ids, ids, List.length_map]
          exact keptLength
        · intro id
          rw [ids]
          simp only [List.mem_map, List.mem_filter, Traversal.mem_visit,
            Bool.not_eq_true', NhGroup.ids, isListed, List.any_eq_false,
            beq_iff_eq, not_exists, not_and]
          constructor
          · rintro ⟨nh, ⟨member, unlisted⟩, rfl⟩
            exact ⟨⟨nh, member, rfl⟩, unlisted⟩
          · rintro ⟨⟨nh, member, rfl⟩, unlisted⟩
            exact ⟨nh, ⟨member, unlisted⟩, rfl⟩
  · cases isCandidate

/-! ## Reuse -/

/-- What a group found by its contents has in common with the candidate. -/
theorem nhGroupLookupByGroup_spec
    {xdk : Outcome} {mgr : L3Mgr} {candidate : NhGroup} {ref : GroupRef}
    (found : nhGroupLookupByGroup xdk mgr candidate = some ref) :
    ref ∈ mgr.nhGroupMap ∧ (deref mgr ref).hash = candidate.hash ∧
      (deref mgr ref).size = candidate.size ∧
      ∀ id ∈ candidate.ids, id ∈ (deref mgr ref).ids := by
  obtain ⟨published, test⟩ := xdk.groupOrder.of_find?_visit found
  simp only [Bool.and_eq_true, beq_iff_eq, List.all_eq_true,
    Traversal.mem_visit] at test
  obtain ⟨⟨hash, size⟩, all⟩ := test
  refine ⟨published, hash, size, ?_⟩
  intro id member
  obtain ⟨nh, nhMember, rfl⟩ := List.mem_map.mp member
  exact nhLookup_isSome.mp (all nh nhMember)

/-- A group found for a request of distinct next hops holds exactly these. -/
theorem nhGroupLookupByRoute_spec
    {env : Env} {xdk : Outcome} {mgr : L3Mgr} {request : OfprotoRoute}
    {ref : GroupRef}
    (once : (request.nexthops.map (·.id)).Nodup)
    (found : nhGroupLookupByRoute env xdk mgr request = some ref)
    (well : (deref mgr ref).WellFormed) :
    ref ∈ mgr.nhGroupMap ∧
      (deref mgr ref).size = (deref mgr ref).nhMap.length ∧
      ∀ id, id ∈ (deref mgr ref).ids ↔ id ∈ request.nexthops.map (·.id) := by
  obtain ⟨published, test⟩ := xdk.groupOrder.of_find?_visit found
  simp only [Bool.and_eq_true, beq_iff_eq, List.all_eq_true] at test
  obtain ⟨⟨_, size⟩, all⟩ := test
  have contained : ∀ id ∈ request.nexthops.map (·.id), id ∈ (deref mgr ref).ids := by
    intro id member
    obtain ⟨nh, nhMember, rfl⟩ := List.mem_map.mp member
    exact nhLookup_isSome.mp (all nh nhMember)
  have subperm : (request.nexthops.map (·.id)).Subperm (deref mgr ref).ids :=
    List.subperm_of_subset once contained
  have fits := well.fits
  have lower := subperm.length_le
  simp only [List.length_map, NhGroup.length_ids] at lower
  have perm := subperm.perm_of_length_le (by
    simp only [List.length_map, NhGroup.length_ids]
    omega)
  exact ⟨published, by omega, fun id => perm.mem_iff.symm⟩

/-! ## The abstract map -/

/-- The set of next-hop ids of each prefix that has a route. -/
abbrev RouteSets := String → Option (Finset String)

/-- What a request that is not rejected does to the sets. -/
def RouteSets.apply (sets : RouteSets) (request : Request) : RouteSets :=
  let ids := (request.route.nexthops.map (·.id)).toFinset
  match request.action with
  | .add => Function.update sets request.route.ipPrefix
      (some ((sets request.route.ipPrefix).getD ∅ ∪ ids))
  | .deleteNh => Function.update sets request.route.ipPrefix
      ((sets request.route.ipPrefix).map (· \ ids))
  | .delete => Function.update sets request.route.ipPrefix none
  | .unknown => sets

/-- The sets that the routes and groups of a manager stand for. -/
def routeSets (mgr : L3Mgr) : RouteSets := fun ipPrefix =>
  (pointers mgr ipPrefix).map fun pointer => (pointerIds mgr pointer).toFinset

section Moves

variable {env : Env} {mgr mgr' : L3Mgr} {ipPrefix : String}
  {pointer : Option (Option GroupRef)} {published : Option NhGroup}

theorem RefInv.published_of_points
    (inv : RefInv mgr none fun _ => 0)
    {ipPrefix : String} {ref : GroupRef}
    (points : pointers mgr ipPrefix = some (some ref)) :
    ref ∈ mgr.nhGroupMap := by
  obtain ⟨route, found, pointer⟩ := Option.map_eq_some_iff.mp points
  exact inv.pointsPublished route (List.mem_of_find?_eq_some found) ref pointer

theorem RefInv.below_of_published
    {locked : Option String} {held : GroupRef → Nat}
    (inv : RefInv mgr locked held) {ref : GroupRef}
    (isPublished : ref ∈ mgr.nhGroupMap) : ref < mgr.nextRef := by
  by_contra above
  have live := inv.live_of_published isPublished
  rw [inv.fresh ref (Nat.le_of_not_lt above)] at live
  cases live

/-- An older group that a route uses after a move has its old contents. -/
theorem Moved.content_of_older
    (moved : Moved mgr mgr' ipPrefix pointer published)
    (inv : RefInv mgr none fun _ => 0)
    (inv' : RefInv mgr' none fun _ => 0)
    {other : String} {ref : GroupRef}
    (isPublished : ref ∈ mgr.nhGroupMap)
    (points : Routing.pointers mgr' other = some (some ref)) :
    (deref mgr' ref).content = (deref mgr ref).content := by
  have live := inv'.live_of_published (inv'.published_of_points points)
  obtain ⟨group, older, same⟩ :=
    moved.kept ref _ (inv.below_of_published isPublished) live
  rw [deref_of_live older]
  exact same

/-- The group a move published has the contents it was published with. -/
theorem Moved.content_of_fresh
    {group : NhGroup}
    (moved : Moved mgr mgr' ipPrefix pointer (some group))
    (inv' : RefInv mgr' none fun _ => 0)
    {other : String}
    (points : Routing.pointers mgr' other = some (some mgr.nextRef)) :
    (deref mgr' mgr.nextRef).content = group.content := by
  have live := inv'.live_of_published (inv'.published_of_points points)
  obtain ⟨_, isPublished, _, same⟩ := moved.fresh _ _ (Nat.le_refl _) live
  cases isPublished
  exact same

theorem routeSets_of_points
    {target : Option GroupRef}
    (points : pointers mgr ipPrefix = some target) :
    routeSets mgr ipPrefix = some (pointerIds mgr target).toFinset := by
  simp [routeSets, points]

/-- A move changes the set of one prefix only. -/
theorem Moved.routeSets
    (moved : Moved mgr mgr' ipPrefix pointer published)
    (inv : RefInv mgr none fun _ => 0)
    (inv' : RefInv mgr' none fun _ => 0) :
    routeSets mgr' = Function.update (routeSets mgr) ipPrefix
      (pointer.map fun pointer => (pointerIds mgr' pointer).toFinset) := by
  funext other
  by_cases equal : other = ipPrefix
  · subst equal
    simp [Routing.routeSets, moved.pointers]
  · have samePointer : Routing.pointers mgr' other = Routing.pointers mgr other := by
      rw [moved.pointers, Function.update_of_ne equal]
    rw [Function.update_of_ne equal, Routing.routeSets, Routing.routeSets,
      samePointer]
    cases points : Routing.pointers mgr other with
    | none => rfl
    | some target =>
        cases target with
        | none => rfl
        | some ref =>
            have same := moved.content_of_older inv inv'
              (inv.published_of_points points) (samePointer.trans points)
            simp [pointerIds, (NhGroup.content_eq.mp same).1]

theorem Moved.routeSets_quiet
    (moved : Moved mgr mgr' ipPrefix (Routing.pointers mgr ipPrefix) published)
    (inv : RefInv mgr none fun _ => 0)
    (inv' : RefInv mgr' none fun _ => 0) :
    Routing.routeSets mgr' = Routing.routeSets mgr := by
  rw [moved.routeSets inv inv']
  have samePointer : Routing.pointers mgr' ipPrefix =
      Routing.pointers mgr ipPrefix := by rw [moved.pointers, Function.update_self]
  refine Function.update_eq_self_iff.mpr ?_
  unfold Routing.routeSets
  cases points : Routing.pointers mgr ipPrefix with
  | none => rfl
  | some target =>
      cases target with
      | none => rfl
      | some ref =>
          have same := moved.content_of_older inv inv'
            (inv.published_of_points points) (samePointer.trans points)
          simp [pointerIds, (NhGroup.content_eq.mp same).1]

end Moves

/-- The candidate of a request would be confused with another group: it
reserves more slots than it has next hops, and a published group with the same
hash and size holds its next hops and others besides. -/
def Ambiguous (env : Env) (mgr : L3Mgr) (request : Request) : Prop :=
  ∃ candidate, candidateGroup env mgr request = some candidate ∧
    candidate.nhMap.length < candidate.size ∧
    ∃ ref ∈ mgr.nhGroupMap,
      (deref mgr ref).hash = candidate.hash ∧
      (deref mgr ref).size = candidate.size ∧
      (∀ id ∈ candidate.ids, id ∈ (deref mgr ref).ids) ∧
      ∃ id ∈ (deref mgr ref).ids, id ∉ candidate.ids

theorem chosen_ids
    {env : Env} {mgr mgr' : L3Mgr} {request : Request} {candidate : NhGroup}
    {ref : GroupRef} {published : Option NhGroup}
    (inv : RefInv mgr none fun _ => 0)
    (inv' : RefInv mgr' none fun _ => 0)
    (well : GroupsWell mgr)
    (clear : ¬Ambiguous env mgr request)
    (isCandidate : candidateGroup env mgr request = some candidate)
    (candidateWell : candidate.WellFormed)
    (chosen : Chosen request.xdk mgr candidate ref published)
    (moved : Moved mgr mgr' request.route.ipPrefix (some (some ref)) published) :
    ∀ id, id ∈ (deref mgr' ref).ids ↔ id ∈ candidate.ids := by
  have points : pointers mgr' request.route.ipPrefix = some (some ref) := by
    rw [moved.pointers, Function.update_self]
  cases chosen with
  | published =>
      intro id
      rw [(NhGroup.content_eq.mp (moved.content_of_fresh inv' points)).1]
  | reused lookup =>
      obtain ⟨isPublished, hash, size, contained⟩ :=
        nhGroupLookupByGroup_spec lookup
      have same := moved.content_of_older inv inv' isPublished points
      rw [(NhGroup.content_eq.mp same).1]
      intro id
      refine ⟨?_, contained id⟩
      intro member
      by_contra extra
      refine clear ⟨candidate, isCandidate, ?_, ref, isPublished, hash, size,
        contained, id, member, extra⟩
      have fits := (well ref _ (inv.live_of_published isPublished)).fits
      have subperm : (id :: candidate.ids).Subperm (deref mgr ref).ids := by
        refine List.subperm_of_subset
          (List.nodup_cons.mpr ⟨extra, candidateWell.idsOnce⟩) ?_
        intro other otherMember
        rcases List.mem_cons.mp otherMember with rfl | inCandidate
        · exact member
        · exact contained other inCandidate
      have smaller := subperm.length_le
      simp only [List.length_cons, NhGroup.length_ids] at smaller
      omega

/-! ## One request -/

section Step

variable {env : Env} {mgr : L3Mgr} {request : Request}

theorem candidateGroup_cases
    {candidate : NhGroup}
    (isCandidate : candidateGroup env mgr request = some candidate) :
    ∃ pointer, pointers mgr request.route.ipPrefix = some pointer ∧
      ((request.action = .add ∧
        updateCandidate env request.xdk mgr request.route pointer =
          some candidate) ∨
      (request.action = .deleteNh ∧ ∃ ref, pointer = some ref ∧
        deleteCandidate env request.xdk mgr request.route ref =
          some candidate)) := by
  obtain ⟨route, found, rest⟩ := Option.bind_eq_some_iff.mp isCandidate
  refine ⟨route.nhGroup, by simp [pointers, found], ?_⟩
  cases action : request.action with
  | add =>
      simp only [action] at rest
      exact .inl ⟨rfl, rest⟩
  | deleteNh =>
      simp only [action] at rest
      obtain ⟨ref, pointer, rest⟩ := Option.bind_eq_some_iff.mp rest
      exact .inr ⟨rfl, ref, pointer, rest⟩
  | delete => simp [action] at rest
  | unknown => simp [action] at rest

theorem GroupsWell.pointed
    (well : GroupsWell mgr)
    (inv : RefInv mgr none fun _ => 0)
    {ipPrefix : String} {pointer : Option GroupRef}
    (points : pointers mgr ipPrefix = some pointer) :
    ∀ ref, pointer = some ref → (deref mgr ref).WellFormed := by
  rintro ref rfl
  exact well ref _ (inv.live_of_published (inv.published_of_points points))

theorem candidateGroup_wellFormed
    {candidate : NhGroup}
    (inv : RefInv mgr none fun _ => 0)
    (well : GroupsWell mgr)
    (once : (request.route.nexthops.map (·.id)).Nodup)
    (isCandidate : candidateGroup env mgr request = some candidate) :
    candidate.WellFormed := by
  obtain ⟨pointer, points, ⟨_, update⟩ | ⟨_, ref, isRef, delete⟩⟩ :=
    candidateGroup_cases isCandidate
  · exact (updateCandidate_spec (well.pointed inv points) once update).1
  · exact (deleteCandidate_spec (well.pointed inv points ref isRef) delete).1

theorem Gained.wellFormed
    {ref : GroupRef} {published : Option NhGroup} {group : NhGroup}
    (gained : Gained env mgr request ref published)
    (once : (request.route.nexthops.map (·.id)).Nodup)
    (isPublished : published = some group) : group.WellFormed := by
  cases gained with
  | reused _ => cases isPublished
  | built laid ids size =>
      cases isPublished
      refine ⟨ids ▸ once, laid, ?_⟩
      rw [← NhGroup.length_ids, ids, size, List.length_map]

/-- The group of a new route holds exactly the requested next hops. -/
theorem Gained.ids
    {mgr' : L3Mgr} {ref : GroupRef} {published : Option NhGroup}
    (gained : Gained env mgr request ref published)
    (inv : RefInv mgr none fun _ => 0)
    (inv' : RefInv mgr' none fun _ => 0)
    (well : GroupsWell mgr)
    (once : (request.route.nexthops.map (·.id)).Nodup)
    (moved : Moved mgr mgr' request.route.ipPrefix (some (some ref)) published) :
    ∀ id, id ∈ (deref mgr' ref).ids ↔
      id ∈ request.route.nexthops.map (·.id) := by
  have points : pointers mgr' request.route.ipPrefix = some (some ref) := by
    rw [moved.pointers, Function.update_self]
  cases gained with
  | reused found =>
      have isPublished := (request.xdk.groupOrder.of_find?_visit found).1
      have spec := nhGroupLookupByRoute_spec once found
        (well ref _ (inv.live_of_published isPublished))
      have same := moved.content_of_older inv inv' isPublished points
      rw [(NhGroup.content_eq.mp same).1]
      exact spec.2.2
  | built _ ids _ =>
      intro id
      rw [(NhGroup.content_eq.mp (moved.content_of_fresh inv' points)).1, ids]

/-- A request keeps the groups well formed. -/
theorem GroupsWell.step
    (succeeds : request.xdk.Succeeds)
    (once : (request.route.nexthops.map (·.id)).Nodup)
    (inv : RefInv mgr none fun _ => 0)
    (well : GroupsWell mgr) :
    GroupsWell (Routing.step env mgr request) := by
  have effect : Effect env mgr request (routeEntryAction env mgr request).rc
      (Routing.step env mgr request) := inv.effect succeeds well
  generalize (routeEntryAction env mgr request).rc = rc at effect
  generalize Routing.step env mgr request = mgr' at *
  cases effect with
  | rejected gained moved =>
      refine well.moved moved ?_
      intro group isPublished
      obtain ⟨ref, choice⟩ := gained (by simp [isPublished])
      exact choice.wellFormed once isPublished
  | inPlace _ _ _ moved => exact well.moved moved (by simp)
  | added _ _ choice moved =>
      exact well.moved moved fun group isPublished =>
        choice.wellFormed once isPublished
  | regrouped isCandidate choice moved =>
      refine well.moved moved ?_
      intro group isPublished
      cases choice with
      | reused _ => cases isPublished
      | published =>
          cases isPublished
          exact candidateGroup_wellFormed inv well once isCandidate
  | deleted _ moved => exact well.moved moved (by simp)
  | nothingToDelete _ _ moved => exact well.moved moved (by simp)
  | emptied _ _ _ moved => exact well.moved moved (by simp)

theorem RefSafe.of_succeeds (succeeds : request.xdk.Succeeds) :
    RefSafe env mgr request := by
  intro refused
  rw [succeeds.updates] at refused
  cases refused

theorem mem_pointerIds_of_emptied
    {xdk : Outcome} {ref : GroupRef}
    (oldWell : (deref mgr ref).WellFormed)
    (none_left : (deref mgr ref).size ≤
      listedCount xdk request.route (deref mgr ref)) :
    ∀ id ∈ (deref mgr ref).ids, id ∈ request.route.nexthops.map (·.id) := by
  have fits := oldWell.fits
  have bounded := List.countP_le_length (p := isListed request.route)
    (l := xdk.nhOrder.visit (deref mgr ref).nhMap)
  have all : (xdk.nhOrder.visit (deref mgr ref).nhMap).countP
      (isListed request.route) =
      (xdk.nhOrder.visit (deref mgr ref).nhMap).length := by
    unfold listedCount at none_left
    rw [Traversal.length_visit] at *
    omega
  intro id member
  obtain ⟨nh, nhMember, rfl⟩ := List.mem_map.mp member
  have listed := List.countP_eq_length.mp all nh (by simpa using nhMember)
  simpa [isListed, List.mem_map] using listed

/-- One request acts on the sets of next hops as the abstract map says. -/
theorem routeSets_step
    (succeeds : request.xdk.Succeeds)
    (once : (request.route.nexthops.map (·.id)).Nodup)
    (clear : ¬Ambiguous env mgr request)
    (inv : RefInv mgr none fun _ => 0)
    (well : GroupsWell mgr) :
    routeSets (step env mgr request) =
      if (routeEntryAction env mgr request).rc = none then
        (routeSets mgr).apply request
      else routeSets mgr := by
  have effect : Effect env mgr request (routeEntryAction env mgr request).rc
      (step env mgr request) := inv.effect succeeds well
  have inv' : RefInv (step env mgr request) none fun _ => 0 :=
    inv.step (.of_succeeds succeeds)
  generalize (routeEntryAction env mgr request).rc = rc at *
  generalize step env mgr request = mgr' at *
  cases effect with
  | rejected _ moved =>
      simp only [reduceCtorEq, if_false]
      exact moved.routeSets_quiet inv inv'
  | inPlace isAdd points known moved =>
      simp only [if_true, moved.routeSets_quiet inv inv', RouteSets.apply, isAdd]
      refine (Function.update_eq_self_iff.mpr ?_).symm
      simp only [routeSets_of_points points, Option.getD_some, Option.some.injEq,
        Finset.union_eq_left]
      intro id member
      obtain ⟨nh, nhMember, rfl⟩ := List.mem_map.mp (List.mem_toFinset.mp member)
      exact List.mem_toFinset.mpr (known nh nhMember)
  | @added ref published mgr' isAdd absent choice moved =>
      have ids : ∀ id, id ∈ (deref mgr' ref).ids ↔
          id ∈ request.route.nexthops.map (·.id) :=
        choice.ids inv inv' well once moved
      have sets : (pointerIds mgr' (some ref)).toFinset =
          ∅ ∪ (request.route.nexthops.map (·.id)).toFinset := by
        ext id
        simpa [pointerIds] using ids id
      have unrouted : routeSets mgr request.route.ipPrefix = none := by
        simp [routeSets, absent]
      simp only [if_true, moved.routeSets inv inv', RouteSets.apply, isAdd,
        unrouted, Option.getD_none, Option.map_some, sets]
  | @regrouped candidate ref published mgr' isCandidate choice moved =>
      have ids := chosen_ids inv inv' well clear isCandidate
        (candidateGroup_wellFormed inv well once isCandidate) choice moved
      obtain ⟨pointer, points, ⟨isAdd, update⟩ | ⟨isDeleteNh, old, rfl, delete⟩⟩ :=
        candidateGroup_cases isCandidate
      · have merged := (updateCandidate_spec (well.pointed inv points) once
          update).2.2.2
        have sets : (pointerIds mgr' (some ref)).toFinset =
            (pointerIds mgr pointer).toFinset ∪
              (request.route.nexthops.map (·.id)).toFinset := by
          ext id
          simpa using (ids id).trans (merged id)
        simp only [if_true, moved.routeSets inv inv', RouteSets.apply, isAdd,
          routeSets_of_points points, Option.getD_some, Option.map_some, sets]
      · have left := (deleteCandidate_spec (well.pointed inv points old rfl)
          delete).2.2.2
        have sets : (pointerIds mgr' (some ref)).toFinset =
            (pointerIds mgr (some old)).toFinset \
              (request.route.nexthops.map (·.id)).toFinset := by
          ext id
          simpa using (ids id).trans (left id)
        simp only [if_true, moved.routeSets inv inv', RouteSets.apply, isDeleteNh,
          routeSets_of_points points, Option.map_some, sets]
  | deleted isDelete moved =>
      simp only [if_true, moved.routeSets inv inv', RouteSets.apply, isDelete,
        Option.map_none]
  | nothingToDelete isDeleteNh points moved =>
      simp only [if_true, moved.routeSets_quiet inv inv', RouteSets.apply,
        isDeleteNh]
      refine (Function.update_eq_self_iff.mpr ?_).symm
      cases target : pointers mgr request.route.ipPrefix with
      | none => simp [routeSets, target]
      | some pointer =>
          cases pointer with
          | none => simp [routeSets, target, pointerIds]
          | some ref => exact absurd target (points ref)
  | @emptied ref mgr' isDeleteNh points none_left moved =>
      have listed := mem_pointerIds_of_emptied
        (well.pointed inv points _ rfl) none_left
      have sets : (pointerIds mgr (some ref)).toFinset \
          (request.route.nexthops.map (·.id)).toFinset = ∅ := by
        rw [Finset.sdiff_eq_empty_iff_subset]
        intro id member
        exact List.mem_toFinset.mpr (listed id (List.mem_toFinset.mp member))
      have noIds : (pointerIds mgr' none).toFinset = ∅ := rfl
      simp only [if_true, moved.routeSets inv inv', RouteSets.apply, isDeleteNh,
        routeSets_of_points points, Option.map_some, sets, noIds]

end Step

/-! ## Runs -/

/-- The code and the abstract map side by side. -/
structure Tracked where
  mgr : L3Mgr
  sets : RouteSets

/-- One request on both sides.  A request that the code rejects leaves the
abstract map alone. -/
def Tracked.step (env : Env) (tracked : Tracked) (request : Request) : Tracked where
  mgr := Routing.step env tracked.mgr request
  sets :=
    if (routeEntryAction env tracked.mgr request).rc = none then
      tracked.sets.apply request
    else tracked.sets

/-- The requests for which the code follows the abstract map. -/
structure Unambiguous (env : Env) (tracked : Tracked) (request : Request) :
    Prop where
  succeeds : request.xdk.Succeeds
  once : (request.route.nexthops.map (·.id)).Nodup
  clear : ¬Ambiguous env tracked.mgr request

/-- What is known of both sides between requests. -/
structure Agree (tracked : Tracked) : Prop where
  refInv : RefInv tracked.mgr none fun _ => 0
  well : GroupsWell tracked.mgr
  same : routeSets tracked.mgr = tracked.sets

theorem Agree.step
    {env : Env} {tracked : Tracked} {request : Request}
    (agree : Agree tracked)
    (guarded : Unambiguous env tracked request) :
    Agree (tracked.step env request) where
  refInv := agree.refInv.step (.of_succeeds guarded.succeeds)
  well := agree.well.step guarded.succeeds guarded.once agree.refInv
  same := by
    rw [Tracked.step, ← agree.same]
    exact routeSets_step guarded.succeeds guarded.once guarded.clear agree.refInv
      agree.well

/-- In every run of unambiguous requests, the next hops of each route are those
of the abstract map. -/
theorem routeSets_of_reached
    {env : Env} {tracked : Tracked}
    (reached : Transition.Reach
      (fun initial => ∃ vrfId hosts,
        initial = ⟨l3MgrCreate vrfId hosts, fun _ => none⟩)
      (Unambiguous env) (Tracked.step env) tracked) :
    routeSets tracked.mgr = tracked.sets := by
  refine (Transition.Reach.invariant Agree ?_ ?_ reached).same
  · rintro _ ⟨vrfId, hosts, rfl⟩
    refine ⟨l3MgrCreate_refInv vrfId hosts, ?_, rfl⟩
    intro ref group live
    cases live
  · intro current request agree guarded
    exact agree.step guarded

/-- A new route and one more next hop for it. -/
def mergeRun : List Request :=
  [sampleRequest .add "10.0.1.0/24" ["1.1.1.1"] (accepting 0),
   sampleRequest .add "10.0.1.0/24" ["2.2.2.2"] (accepting 10)]

theorem routeSets_mergeRun :
    routeSets (Transition.run (Tracked.step sampleEnv)
        ⟨l3MgrCreate 0 [], fun _ => none⟩ mergeRun).mgr =
      (Transition.run (Tracked.step sampleEnv)
        ⟨l3MgrCreate 0 [], fun _ => none⟩ mergeRun).sets := by
  refine routeSets_of_reached
    (.next (.next (.start ⟨0, [], rfl⟩) ?_) ?_)
  · refine ⟨accepting_succeeds 0, by decide, ?_⟩
    rintro ⟨candidate, isCandidate, _⟩
    cases isCandidate
  · refine ⟨accepting_succeeds 10, by decide, ?_⟩
    rintro ⟨candidate, isCandidate, oversized, _⟩
    have exact : ∀ candidate ∈ candidateGroup sampleEnv
        (step sampleEnv (l3MgrCreate 0 [])
          (sampleRequest .add "10.0.1.0/24" ["1.1.1.1"] (accepting 0)))
        (sampleRequest .add "10.0.1.0/24" ["2.2.2.2"] (accepting 10)),
        ¬candidate.nhMap.length < candidate.size := by decide
    exact exact candidate isCandidate oversized

/-- A hash under which all lists of next hops collide. -/
def collidingEnv : Env := { sampleEnv with hashString := fun _ _ => 0 }

/-- The last request repeats one next hop of the route and adds another. -/
def overlapRun : List Request :=
  [sampleRequest .add "10.0.1.0/24" ["1.1.1.1", "2.2.2.2", "3.3.3.3"] (accepting 0),
   sampleRequest .add "10.0.2.0/24" ["1.1.1.1"] (accepting 10),
   sampleRequest .add "10.0.2.0/24" ["1.1.1.1", "2.2.2.2"] (accepting 20)]

/-- The route ends up with a next hop that nobody asked for. -/
theorem routeSets_overlapRun :
    (∀ request ∈ overlapRun, request.xdk.Succeeds ∧
      (request.route.nexthops.map (·.id)).Nodup) ∧
    routeSets (Transition.run (Tracked.step collidingEnv)
        ⟨l3MgrCreate 0 [], fun _ => none⟩ overlapRun).mgr "10.0.2.0/24" =
      some {"1.1.1.1", "2.2.2.2", "3.3.3.3"} ∧
    (Transition.run (Tracked.step collidingEnv)
        ⟨l3MgrCreate 0 [], fun _ => none⟩ overlapRun).sets "10.0.2.0/24" =
      some {"1.1.1.1", "2.2.2.2"} := by
  refine ⟨?_, by decide, by decide⟩
  simp only [overlapRun, List.forall_mem_cons, List.not_mem_nil, false_imp_iff,
    implies_true, and_true]
  exact ⟨⟨accepting_succeeds 0, by decide⟩, ⟨accepting_succeeds 10, by decide⟩,
    accepting_succeeds 20, by decide⟩

end Routing
end XpliantSwitchd
