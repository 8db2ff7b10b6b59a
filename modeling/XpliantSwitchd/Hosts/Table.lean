import XpliantSwitchd.Hosts.Ownership

/-!
# The hardware host table

An add places the new entry at an index and may move the occupant of that index
somewhere else, so the index that is kept for a host entry changes with adds of
others.  Entries that the software has forgotten after a failed removal are moved
as well.
-/

namespace XpliantSwitchd
namespace Hosts

/-- The calls of the host half of `ops-xp-routing.c`. -/
inductive TableEvent
  | add (args : AddArgs)
  | delete (l3EgressId : Int)

/-- A call with the answers of the XDK. -/
structure TableOperation where
  event : TableEvent
  xdk : Outcome

/-- The manager after a call. -/
def tableStep (env : Env) (mgr : HostMgr) (operation : TableOperation) : HostMgr :=
  match operation.event with
  | .add args => (addHostEntry env operation.xdk mgr args).2.2
  | .delete l3EgressId => (deleteHostEntry operation.xdk mgr l3EgressId).2

/-- What the hardware looks an entry up by. -/
def XpHost.key (host : XpHost) : Bool × List UInt8 × Nat :=
  (host.isIpv6, host.addr, host.vrfId)

/-- The entry that an add asks for. -/
def requestedHost (env : Env) (mgr : HostMgr) (args : AddArgs) (addr : List UInt8) :
    XpHost where
  isIpv6 := args.isIpv6Addr
  addr := addr
  vrfId := mgr.vrfId
  nhEntry := hostNextHop env args

/-- How the hardware places an entry whose key it does not have: at a free index,
or at one whose occupant it moves to a free index. -/
structure Places (hw : List (Nat × XpHost)) (host : XpHost) (hash rehash : Nat) :
    Prop where
  absent : host.key ∉ hw.map (·.2.key)
  free : hash = rehash → hash ∉ hw.map Prod.fst
  moved : hash ≠ rehash → hash ∈ hw.map Prod.fst ∧ rehash ∉ hw.map Prod.fst

instance (hw : List (Nat × XpHost)) (host : XpHost) (hash rehash : Nat) :
    Decidable (Places hw host hash rehash) :=
  decidable_of_iff (host.key ∉ hw.map (·.2.key) ∧
      (hash = rehash → hash ∉ hw.map Prod.fst) ∧
      (hash ≠ rehash → hash ∈ hw.map Prod.fst ∧ rehash ∉ hw.map Prod.fst))
    ⟨fun holds => ⟨holds.1, holds.2.1, holds.2.2⟩,
      fun places => ⟨places.absent, places.free, places.moved⟩⟩

/-- Every add that succeeds places its entry. -/
def AddPlaces (env : Env) (xdk : Outcome) (mgr : HostMgr) (args : AddArgs) : Prop :=
  ∀ parsed indices, env.stringToPrefix args.isIpv6Addr args.ipAddr = some parsed →
    xdk.addIpHostEntry mgr.calls = some indices →
      Places mgr.hw (requestedHost env mgr args parsed.1) indices.1 indices.2

instance (env : Env) (xdk : Outcome) (mgr : HostMgr) (args : AddArgs) :
    Decidable (AddPlaces env xdk mgr args) :=
  decidable_of_iff (∀ parsed ∈ env.stringToPrefix args.isIpv6Addr args.ipAddr,
      ∀ indices ∈ xdk.addIpHostEntry mgr.calls,
        Places mgr.hw (requestedHost env mgr args parsed.1) indices.1 indices.2)
    ⟨fun holds parsed indices parses answers => holds parsed parses indices answers,
      fun places parsed parses indices answers => places parsed indices parses answers⟩

/-- The slot of the hardware that a host entry stands for. -/
def HostEntry.slot (e : HostEntry) : Nat × XpHost := (e.index, e.xpHost)

/-- Move the occupant of an index. -/
def relocate (hash rehash : Nat) (slots : List (Nat × XpHost)) : List (Nat × XpHost) :=
  KeyedList.rewrite Prod.fst hash (fun slot => (rehash, slot.2)) slots

theorem relocate_self (index : Nat) (slots : List (Nat × XpHost)) :
    relocate index index slots = slots := by
  unfold relocate KeyedList.rewrite
  conv_rhs => rw [← List.map_id slots]
  apply List.map_congr_left
  intro slot _
  split
  · rename_i same
    rw [← same]
    rfl
  · rfl

/-- What an add does to the two tables. -/
theorem addHostEntry_slots
    (env : Env)
    (xdk : Outcome)
    (mgr : HostMgr)
    (args : AddArgs) :
    ((addHostEntry env xdk mgr args).2.2.hosts = mgr.hosts ∧
        (addHostEntry env xdk mgr args).2.2.hw = mgr.hw) ∨
      ∃ parsed indices, env.stringToPrefix args.isIpv6Addr args.ipAddr = some parsed ∧
        xdk.addIpHostEntry mgr.calls = some indices ∧
        (addHostEntry env xdk mgr args).2.2.hosts.map HostEntry.slot =
          (indices.1, requestedHost env mgr args parsed.1) ::
            relocate indices.1 indices.2 (mgr.hosts.map HostEntry.slot) ∧
        (addHostEntry env xdk mgr args).2.2.hw =
          (indices.1, requestedHost env mgr args parsed.1) ::
            relocate indices.1 indices.2 mgr.hw := by
  have allocated : ∃ id next dummies, hostEntryAlloc { mgr with calls := mgr.calls + 1 } =
      (id, { mgr with
        nextHostId := next
        dummyHostList := dummies
        calls := mgr.calls + 1 }) := by
    unfold hostEntryAlloc
    cases mgr.dummyHostList with
    | nil => exact ⟨_, _, _, rfl⟩
    | cons first others => exact ⟨_, _, _, rfl⟩
  obtain ⟨id, next, dummies, allocated⟩ := allocated
  unfold addHostEntry
  rw [allocated]
  cases parsed : env.stringToPrefix args.isIpv6Addr args.ipAddr with
  | none => exact .inl ⟨rfl, rfl⟩
  | some prefixed =>
      cases answered : xdk.addIpHostEntry mgr.calls with
      | none =>
          simp only [Nat.add_sub_cancel, answered]
          exact .inl ⟨rfl, rfl⟩
      | some indices =>
          simp only [Nat.add_sub_cancel, answered]
          refine .inr ⟨prefixed, indices, rfl, rfl, ?_, rfl⟩
          rw [List.map_cons]
          refine congrArg _ ?_
          by_cases same : indices.1 = indices.2
          · rw [if_neg (not_not.mpr same), ← same, relocate_self]
          · rw [if_pos same]
            exact KeyedList.map_rewrite_view (fun _ => rfl) fun _ => rfl

/-! ## Indices -/

/-- Each live host entry sits at its index in the hardware, where no entry has a
key or an index twice. -/
structure Located (mgr : HostMgr) : Prop where
  keysNodup : (mgr.hw.map (·.2.key)).Nodup
  slotsNodup : (mgr.hw.map Prod.fst).Nodup
  indicesNodup : (mgr.hosts.map (·.index)).Nodup
  located : ∀ e ∈ mgr.hosts, e.slot ∈ mgr.hw

theorem nodup_relocate
    {slots : List (Nat × XpHost)}
    {hash rehash : Nat}
    (nodup : (slots.map Prod.fst).Nodup)
    (free : hash = rehash → hash ∉ slots.map Prod.fst)
    (unused : hash ≠ rehash → rehash ∉ slots.map Prod.fst) :
    (hash :: (relocate hash rehash slots).map Prod.fst).Nodup := by
  by_cases same : hash = rehash
  · rw [← same, relocate_self]
    exact List.nodup_cons.mpr ⟨free same, nodup⟩
  · exact List.nodup_cons.mpr
      ⟨KeyedList.not_mem_rekey (fun _ => rfl) (Ne.symm same),
        KeyedList.nodup_rekey (fun _ => rfl) nodup (unused same)⟩

theorem map_index (hosts : List HostEntry) :
    (hosts.map HostEntry.slot).map Prod.fst = hosts.map (·.index) := by
  rw [List.map_map]
  rfl

namespace Located

variable {env : Env} {xdk : Outcome} {mgr : HostMgr}

theorem index_mem
    (located : Located mgr)
    {index : Nat}
    (live : index ∈ (mgr.hosts.map HostEntry.slot).map Prod.fst) :
    index ∈ mgr.hw.map Prod.fst := by
  rw [map_index] at live
  obtain ⟨e, member, rfl⟩ := List.mem_map.mp live
  exact List.mem_map_of_mem (located.located e member)

theorem addHostEntry
    (located : Located mgr)
    {args : AddArgs}
    (places : AddPlaces env xdk mgr args) :
    Located (Hosts.addHostEntry env xdk mgr args).2.2 := by
  rcases addHostEntry_slots env xdk mgr args with
    ⟨sameHosts, sameHw⟩ | ⟨parsed, indices, parses, answers, hosts, hw⟩
  · refine ⟨?_, ?_, ?_, ?_⟩
    · rw [sameHw]
      exact located.keysNodup
    · rw [sameHw]
      exact located.slotsNodup
    · rw [sameHosts]
      exact located.indicesNodup
    · rw [sameHosts, sameHw]
      exact located.located
  · have placed := places parsed indices parses answers
    refine ⟨?_, ?_, ?_, ?_⟩
    · have keys : (relocate indices.1 indices.2 mgr.hw).map (·.2.key) =
          mgr.hw.map (·.2.key) := KeyedList.map_rewrite fun _ _ _ => rfl
      rw [hw, List.map_cons, keys]
      exact List.nodup_cons.mpr ⟨placed.absent, located.keysNodup⟩
    · rw [hw, List.map_cons]
      exact nodup_relocate located.slotsNodup placed.free fun differ =>
        (placed.moved differ).2
    · rw [← map_index, hosts, List.map_cons]
      refine nodup_relocate ?_ ?_ ?_
      · rw [map_index]
        exact located.indicesNodup
      · exact fun same live => placed.free same (located.index_mem live)
      · exact fun differ live => (placed.moved differ).2 (located.index_mem live)
    · intro e member
      have slot : e.slot ∈ (Hosts.addHostEntry env xdk mgr args).2.2.hosts.map
          HostEntry.slot := List.mem_map_of_mem member
      rw [hosts] at slot
      rw [hw]
      rcases List.mem_cons.mp slot with new | moved
      · rw [new]
        exact List.mem_cons_self
      · refine List.mem_cons_of_mem _ ?_
        rcases KeyedList.mem_rewrite.mp moved with
          ⟨old, live, selected, equal⟩ | ⟨live, different⟩
        · obtain ⟨owner, ownerMember, rfl⟩ := List.mem_map.mp live
          rw [equal]
          exact KeyedList.mem_rewrite.mpr
            (.inl ⟨_, located.located owner ownerMember, selected, rfl⟩)
        · obtain ⟨owner, ownerMember, same⟩ := List.mem_map.mp live
          rw [← same] at different ⊢
          exact KeyedList.mem_rewrite.mpr
            (.inr ⟨located.located owner ownerMember, different⟩)

/-- The entries that stay after a delete have other indices. -/
theorem index_ne
    (located : Located mgr)
    {l3EgressId : Int}
    {e other : HostEntry}
    (found : hostById mgr l3EgressId = some e)
    (stays : other ∈ mgr.hosts.eraseP (·.id == sizeT l3EgressId)) :
    other.index ≠ e.index := by
  have nodup := ((KeyedList.perm_cons_eraseP found).map (·.index)).nodup_iff.mp
    located.indicesNodup
  rw [List.map_cons, List.nodup_cons] at nodup
  intro same
  exact nodup.1 (same ▸ List.mem_map_of_mem stays)

theorem deleteHostEntry (located : Located mgr) (l3EgressId : Int) :
    Located (Hosts.deleteHostEntry xdk mgr l3EgressId).2 := by
  unfold Hosts.deleteHostEntry
  cases found : hostById mgr l3EgressId with
  | none => exact located
  | some e =>
      have sublist : (mgr.hosts.eraseP (·.id == sizeT l3EgressId)).Sublist mgr.hosts :=
        List.eraseP_sublist
      have remaining := located.indicesNodup.sublist (sublist.map (·.index))
      simp only
      split
      · refine ⟨?_, ?_, remaining, ?_⟩
        · exact located.keysNodup.sublist (List.filter_sublist.map _)
        · exact KeyedList.nodup_remove located.slotsNodup
        · intro other stays
          exact KeyedList.mem_remove.mpr
            ⟨located.located other (sublist.subset stays), located.index_ne found stays⟩
      · exact ⟨located.keysNodup, located.slotsNodup, remaining,
          fun other stays => located.located other (sublist.subset stays)⟩

/-- A removal by index takes the entry that was asked for. -/
theorem perm_deleteHostEntry
    (located : Located mgr)
    {l3EgressId : Int}
    {e : HostEntry}
    (found : hostById mgr l3EgressId = some e)
    (accepted : xdk.removeIpHostEntryByIndex e.index = true) :
    mgr.hw.Perm (e.slot :: (Hosts.deleteHostEntry xdk mgr l3EgressId).2.hw) := by
  have member : e ∈ mgr.hosts := List.mem_of_find?_eq_some found
  unfold Hosts.deleteHostEntry
  rw [found]
  simp only [accepted, if_true]
  exact KeyedList.perm_cons_remove located.slotsNodup (located.located e member) rfl

end Located

/-- The answers to adds are those of a hash table; every call may fail. -/
def AddsPlace (env : Env) (mgr : HostMgr) (operation : TableOperation) : Prop :=
  match operation.event with
  | .add args => AddPlaces env operation.xdk mgr args
  | .delete _ => True

theorem Located.tableStep
    {env : Env}
    {mgr : HostMgr}
    {operation : TableOperation}
    (located : Located mgr)
    (places : AddsPlace env mgr operation) :
    Located (Hosts.tableStep env mgr operation) := by
  obtain ⟨event, xdk⟩ := operation
  cases event with
  | add args => exact located.addHostEntry places
  | delete l3EgressId => exact located.deleteHostEntry l3EgressId

theorem located_l3MgrCreate (vrfId : Nat) : Located (l3MgrCreate vrfId) :=
  ⟨List.nodup_nil, List.nodup_nil, List.nodup_nil,
    fun _ member => absurd member List.not_mem_nil⟩

/-- The index of a live host entry is where the hardware has its entry, and no two
live entries have the same index. -/
structure IndicesExact (mgr : HostMgr) : Prop where
  present : ∀ e ∈ mgr.hosts, e.slot ∈ mgr.hw
  exact : ∀ e ∈ mgr.hosts, ∀ slot ∈ mgr.hw,
    slot.2.key = e.xpHost.key → slot.1 = e.index
  distinct : (mgr.hosts.map (·.index)).Nodup

theorem indicesExact_of_reached
    {env : Env}
    {vrfId : Nat}
    {mgr : HostMgr}
    (reached : Transition.Reach (· = l3MgrCreate vrfId) (AddsPlace env)
      (tableStep env) mgr) :
    IndicesExact mgr ∧
      ∀ xdk l3EgressId e, hostById mgr l3EgressId = some e →
        xdk.removeIpHostEntryByIndex e.index = true →
          mgr.hw.Perm (e.slot :: (deleteHostEntry xdk mgr l3EgressId).2.hw) := by
  have located : Located mgr := by
    refine reached.invariant Located ?_ fun _ _ located places => located.tableStep places
    rintro _ rfl
    exact located_l3MgrCreate vrfId
  refine ⟨⟨located.located, ?_, located.indicesNodup⟩, ?_⟩
  · intro e member slot listed sameKey
    have same := List.inj_on_of_nodup_map located.keysNodup listed
      (located.located e member) sameKey
    rw [same]
    rfl
  · exact fun xdk l3EgressId e found accepted =>
      located.perm_deleteHostEntry found accepted

/-- The XDK gives one answer to an add and one to a removal. -/
def tableXdk (answer : Option (Nat × Nat)) (removes : Bool) : Outcome :=
  { sampleXdk true with
    addIpHostEntry := fun _ => answer
    removeIpHostEntryByIndex := fun _ => removes }

/-- The address of a bundle. -/
def sampleLocal : AddArgs where
  portIntfId := 0
  isIpv6Addr := false
  ipAddr := "10.0.0.1/24"
  nextHopMacAddr := none
  l3IntfId := 0
  vid := 0
  isLocal := true

/-- An add fails, a live entry is moved, its removal fails, and the entry that has
taken its place is removed. -/
def relocatingRun : List TableOperation :=
  [⟨.add sampleLocal, tableXdk none true⟩, ⟨.add sampleLocal, tableXdk (some (5, 5)) true⟩,
   ⟨.add sampleNeighbour, tableXdk (some (5, 7)) true⟩, ⟨.delete 0, tableXdk none false⟩,
   ⟨.delete 1, tableXdk none true⟩]

theorem indicesExact_relocatingRun :
    IndicesExact (Transition.run (tableStep sampleEnv) (l3MgrCreate 0) relocatingRun) := by
  have guarded : Transition.Guarded (AddsPlace sampleEnv) (tableStep sampleEnv)
      (l3MgrCreate 0) relocatingRun := by
    refine ⟨?_, ?_, ?_, trivial, trivial, trivial⟩
    · show AddPlaces _ _ _ _
      decide
    · show AddPlaces _ _ _ _
      decide
    · show AddPlaces _ _ _ _
      decide
  have start : Transition.Reach (· = l3MgrCreate 0) (AddsPlace sampleEnv)
      (tableStep sampleEnv) (l3MgrCreate 0) := .start rfl
  exact (indicesExact_of_reached (start.of_run guarded)).1

/-! ## Tracking -/

/-- The hardware has the entries of the live host entries and no others. -/
structure HostsTracked (mgr : HostMgr) : Prop where
  tracked : ∀ slot ∈ mgr.hw, ∃ e ∈ mgr.hosts, e.slot = slot
  present : ∀ e ∈ mgr.hosts, e.slot ∈ mgr.hw

/-- A removal may not fail. -/
def RemovalsSucceed (env : Env) (mgr : HostMgr) (operation : TableOperation) : Prop :=
  AddsPlace env mgr operation ∧
    match operation.event with
    | .add _ => True
    | .delete l3EgressId => ∀ e, hostById mgr l3EgressId = some e →
        operation.xdk.removeIpHostEntryByIndex e.index = true

theorem addHostEntry_perm
    {mgr : HostMgr}
    (same : mgr.hw.Perm (mgr.hosts.map HostEntry.slot))
    (env : Env)
    (xdk : Outcome)
    (args : AddArgs) :
    (addHostEntry env xdk mgr args).2.2.hw.Perm
      ((addHostEntry env xdk mgr args).2.2.hosts.map HostEntry.slot) := by
  rcases addHostEntry_slots env xdk mgr args with
    ⟨sameHosts, sameHw⟩ | ⟨parsed, indices, _, _, hosts, hw⟩
  · rw [sameHosts, sameHw]
    exact same
  · rw [hosts, hw]
    exact (same.map _).cons _

theorem deleteHostEntry_perm
    {mgr : HostMgr}
    {xdk : Outcome}
    {l3EgressId : Int}
    (located : Located mgr)
    (same : mgr.hw.Perm (mgr.hosts.map HostEntry.slot))
    (succeeds : ∀ e, hostById mgr l3EgressId = some e →
      xdk.removeIpHostEntryByIndex e.index = true) :
    (deleteHostEntry xdk mgr l3EgressId).2.hw.Perm
      ((deleteHostEntry xdk mgr l3EgressId).2.hosts.map HostEntry.slot) := by
  cases found : hostById mgr l3EgressId with
  | none =>
      unfold deleteHostEntry
      rw [found]
      exact same
  | some e =>
      have split : mgr.hw.Perm
          (e.slot :: (deleteHostEntry xdk mgr l3EgressId).2.hw) :=
        located.perm_deleteHostEntry found (succeeds e found)
      have remaining : (deleteHostEntry xdk mgr l3EgressId).2.hosts =
          mgr.hosts.eraseP (·.id == sizeT l3EgressId) := by
        unfold deleteHostEntry
        rw [found]
        simp only
        split <;> rfl
      rw [remaining]
      refine (List.perm_cons e.slot).mp (split.symm.trans (same.trans ?_))
      exact (KeyedList.perm_cons_eraseP found).map HostEntry.slot

theorem deleteHostEntry_succeeds
    {mgr : HostMgr}
    {xdk : Outcome}
    {l3EgressId : Int}
    (succeeds : ∀ e, hostById mgr l3EgressId = some e →
      xdk.removeIpHostEntryByIndex e.index = true) :
    (deleteHostEntry xdk mgr l3EgressId).1 = none := by
  unfold deleteHostEntry
  cases found : hostById mgr l3EgressId with
  | none => rfl
  | some e => simp only [succeeds e found, if_true]

/-- Where removals succeed, both sides have the same entries.  A delete that fails
would have to leave them alone. -/
theorem hostsTracked_of_reached
    {env : Env}
    {vrfId : Nat}
    {mgr : HostMgr}
    (reached : Transition.Reach (· = l3MgrCreate vrfId) (RemovalsSucceed env)
      (tableStep env) mgr) :
    HostsTracked mgr ∧
      ∀ xdk l3EgressId, RemovalsSucceed env mgr ⟨.delete l3EgressId, xdk⟩ →
        (deleteHostEntry xdk mgr l3EgressId).1 ≠ none →
          (deleteHostEntry xdk mgr l3EgressId).2.hosts = mgr.hosts ∧
            (deleteHostEntry xdk mgr l3EgressId).2.hw = mgr.hw := by
  have invariant : Located mgr ∧ mgr.hw.Perm (mgr.hosts.map HostEntry.slot) := by
    refine reached.invariant
      (fun mgr => Located mgr ∧ mgr.hw.Perm (mgr.hosts.map HostEntry.slot)) ?_ ?_
    · rintro _ rfl
      exact ⟨located_l3MgrCreate vrfId, List.Perm.refl _⟩
    · rintro before ⟨event, xdk⟩ ⟨located, same⟩ ⟨places, succeeds⟩
      refine ⟨located.tableStep places, ?_⟩
      cases event with
      | add args => exact addHostEntry_perm same env xdk args
      | delete l3EgressId => exact deleteHostEntry_perm located same succeeds
  obtain ⟨located, same⟩ := invariant
  refine ⟨⟨?_, located.located⟩, ?_⟩
  · intro slot listed
    exact List.mem_map.mp (same.mem_iff.mp listed)
  · intro xdk l3EgressId allowed fails
    exact absurd (deleteHostEntry_succeeds allowed.2) fails

/-- An add fails, a live entry is moved, and both entries are removed. -/
def trackedRun : List TableOperation :=
  [⟨.add sampleLocal, tableXdk none true⟩, ⟨.add sampleLocal, tableXdk (some (5, 5)) true⟩,
   ⟨.add sampleNeighbour, tableXdk (some (5, 7)) true⟩, ⟨.delete 0, tableXdk none true⟩]

theorem hostsTracked_trackedRun :
    HostsTracked (Transition.run (tableStep sampleEnv) (l3MgrCreate 0) trackedRun) := by
  have guarded : Transition.Guarded (RemovalsSucceed sampleEnv) (tableStep sampleEnv)
      (l3MgrCreate 0) trackedRun := by
    refine ⟨⟨?_, trivial⟩, ⟨?_, trivial⟩, ⟨?_, trivial⟩, ⟨trivial, fun _ _ => rfl⟩, trivial⟩
    · show AddPlaces _ _ _ _
      decide
    · show AddPlaces _ _ _ _
      decide
    · show AddPlaces _ _ _ _
      decide
  have start : Transition.Reach (· = l3MgrCreate 0) (RemovalsSucceed sampleEnv)
      (tableStep sampleEnv) (l3MgrCreate 0) := .start rfl
  exact (hostsTracked_of_reached (start.of_run guarded)).1

/-- An entry is added and its removal fails. -/
def orphaningRun : List TableOperation :=
  [⟨.add sampleLocal, tableXdk (some (5, 5)) true⟩, ⟨.delete 0, tableXdk none false⟩]

/-- The software forgets the entry although the delete returns an error. -/
theorem not_hostsTracked_orphaningRun :
    Transition.Guarded (AddsPlace sampleEnv) (tableStep sampleEnv) (l3MgrCreate 0)
        orphaningRun ∧
      ¬ HostsTracked
        (Transition.run (tableStep sampleEnv) (l3MgrCreate 0) orphaningRun) ∧
      (deleteHostEntry (tableXdk none false) (Transition.run (tableStep sampleEnv)
        (l3MgrCreate 0) [⟨.add sampleLocal, tableXdk (some (5, 5)) true⟩]) 0).1 ≠ none := by
  refine ⟨⟨?_, trivial, trivial⟩, ?_, by decide⟩
  · show AddPlaces _ _ _ _
    decide
  · intro tracked
    exact absurd tracked.tracked (by decide)

end Hosts
end XpliantSwitchd
