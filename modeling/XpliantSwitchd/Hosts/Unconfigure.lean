import XpliantSwitchd.Hosts.Ownership

/-!
# Unconfiguring the addresses of a bundle

`port_unconfigure_ips` walks four groups of address records, deletes the host
entry of each record and frees the record.  This module runs it on the records in
memory, where a read through a null pointer or of a freed record has no result,
and connects that run with `portUnconfigureIps`.
-/

namespace XpliantSwitchd
namespace Hosts

/-! ## Records in memory -/

/-- The address records in memory.  There is none at a pointer that was freed. -/
abbrev Heap := Nat → Option NetAddr

/-- `free`. -/
def Heap.free (heap : Heap) (pointer : Nat) : Heap :=
  fun other => if other = pointer then none else heap other

/-- The pointers of a `struct bundle_xpliant` to its address records.  The
secondary ones stand in the order in which their table is walked. -/
structure BundleRefs where
  ip4addr : Option Nat
  ip6addr : Option Nat
  secondaryIp4addr : List Nat
  secondaryIp6addr : List Nat

/-- All pointers of a bundle. -/
def BundleRefs.pointers (refs : BundleRefs) : List Nat :=
  refs.ip4addr.toList ++ (refs.secondaryIp4addr ++
    (refs.ip6addr.toList ++ refs.secondaryIp6addr))

/-- One round of `port_unconfigure_ips`: the id is read through one pointer, and
the record at another is freed.  There is no result when one of them is null or
its record was freed. -/
def unconfigureAddr (xdk : Outcome) (named : Option Nat) (state : HostMgr × Heap)
    (pointer : Nat) : Option (HostMgr × Heap) :=
  match named.bind state.2, state.2 pointer with
  | some record, some addr =>
      some (deleteForRecord xdk state.1 addr record.id, state.2.free pointer)
  | _, _ => none

/-- A round that reads the id of the record that it frees. -/
def unconfigureOwn (xdk : Outcome) (state : HostMgr × Heap) (pointer : Nat) :
    Option (HostMgr × Heap) :=
  unconfigureAddr xdk (some pointer) state pointer

/-- `port_unconfigure_ips` on the records in memory. -/
def portUnconfigureRefs (xdk : Outcome) (state : HostMgr × Heap) (refs : BundleRefs) :
    Option (HostMgr × Heap) := do
  let state ← refs.ip4addr.toList.foldlM (unconfigureOwn xdk) state
  let state ← refs.secondaryIp4addr.foldlM (unconfigureOwn xdk) state
  let state ← refs.ip6addr.toList.foldlM (unconfigureOwn xdk) state
  refs.secondaryIp6addr.foldlM (unconfigureAddr xdk refs.ip6addr) state

/-- The pointers of a bundle lead to its records, each record has a pointer of its
own, and the tables are walked in the order of the outcome. -/
structure Represents (xdk : Outcome) (heap : Heap) (refs : BundleRefs)
    (ips : BundleIps) : Prop where
  ip4addr : refs.ip4addr.toList.map heap = ips.ip4addr.toList.map some
  ip6addr : refs.ip6addr.toList.map heap = ips.ip6addr.toList.map some
  secondaryIp4addr : refs.secondaryIp4addr.map heap =
    (xdk.addrOrder.visit ips.secondaryIp4addr).map some
  secondaryIp6addr : refs.secondaryIp6addr.map heap =
    (xdk.addrOrder.visit ips.secondaryIp6addr).map some
  distinct : refs.pointers.Nodup

/-- Free several records. -/
def Heap.freeAll (heap : Heap) (pointers : List Nat) : Heap :=
  pointers.foldl Heap.free heap

theorem Heap.freeAll_apply (heap : Heap) (pointers : List Nat) (pointer : Nat) :
    heap.freeAll pointers pointer = if pointer ∈ pointers then none else heap pointer := by
  induction pointers generalizing heap with
  | nil => rfl
  | cons first pointers inductionHypothesis =>
      refine (inductionHypothesis (heap.free first)).trans ?_
      by_cases later : pointer ∈ pointers
      · rw [if_pos later, if_pos (List.mem_cons_of_mem _ later)]
      · rw [if_neg later]
        unfold Heap.free
        by_cases same : pointer = first
        · rw [if_pos same, if_pos (List.mem_cons.mpr (.inl same))]
        · rw [if_neg same, if_neg]
          intro member
          rcases List.mem_cons.mp member with equal | tail
          · exact same equal
          · exact later tail

/-- Other records stay when some are freed. -/
theorem Heap.map_freeAll
    {heap : Heap}
    {freed pointers : List Nat}
    (apart : freed.Disjoint pointers) :
    pointers.map (heap.freeAll freed) = pointers.map heap := by
  apply List.map_congr_left
  intro pointer member
  rw [heap.freeAll_apply, if_neg]
  intro inFreed
  exact apart inFreed member

section Loops

variable {xdk : Outcome}

theorem unconfigureOwn_of_live
    {mgr : HostMgr}
    {heap : Heap}
    {pointer : Nat}
    {addr : NetAddr}
    (live : heap pointer = some addr) :
    unconfigureOwn xdk (mgr, heap) pointer =
      some (deleteRecord xdk mgr addr, heap.free pointer) := by
  simp only [unconfigureOwn, unconfigureAddr, Option.bind_some, live]
  rfl

/-- A loop that reads the ids of the records that it frees does what the model
without memory does. -/
theorem foldlM_unconfigureOwn
    {mgr : HostMgr}
    {heap : Heap}
    {pointers : List Nat}
    {addrs : List NetAddr}
    (live : pointers.map heap = addrs.map some)
    (distinct : pointers.Nodup) :
    pointers.foldlM (unconfigureOwn xdk) (mgr, heap) =
      some (addrs.foldl (deleteRecord xdk) mgr, heap.freeAll pointers) := by
  induction pointers generalizing mgr heap addrs with
  | nil =>
      rw [List.map_nil, eq_comm, List.map_eq_nil_iff] at live
      rw [live]
      rfl
  | cons pointer pointers inductionHypothesis =>
      cases addrs with
      | nil => exact absurd live (by simp)
      | cons addr addrs =>
          obtain ⟨first, others⟩ := List.cons_eq_cons.mp live
          obtain ⟨fresh, later⟩ := List.nodup_cons.mp distinct
          have kept : pointers.map (heap.free pointer) = addrs.map some := by
            rw [← others]
            exact @Heap.map_freeAll heap [pointer] pointers
              (List.singleton_disjoint.mpr fresh)
          rw [List.foldlM_cons, unconfigureOwn_of_live first]
          exact inductionHypothesis kept later

/-- A loop that reads through a pointer without a record has no result, unless
there is no round. -/
theorem foldlM_unconfigureAddr_eq_none
    {named : Option Nat}
    {state : HostMgr × Heap}
    {pointers : List Nat}
    (dangling : named.bind state.2 = none)
    (rounds : pointers ≠ []) :
    pointers.foldlM (unconfigureAddr xdk named) state = none := by
  cases pointers with
  | nil => exact absurd rfl rounds
  | cons pointer pointers =>
      rw [List.foldlM_cons]
      unfold unconfigureAddr
      rw [dangling]
      rfl

end Loops

namespace Represents

variable {xdk : Outcome} {heap : Heap} {refs : BundleRefs} {ips : BundleIps}

/-- The first three loops run to their end. -/
theorem portUnconfigureRefs_eq
    (represents : Represents xdk heap refs ips)
    (mgr : HostMgr) :
    portUnconfigureRefs xdk (mgr, heap) refs =
      refs.secondaryIp6addr.foldlM (unconfigureAddr xdk refs.ip6addr)
        (ips.ip6addr.toList.foldl (deleteRecord xdk)
          ((xdk.addrOrder.visit ips.secondaryIp4addr).foldl (deleteRecord xdk)
            (ips.ip4addr.toList.foldl (deleteRecord xdk) mgr)),
          ((heap.freeAll refs.ip4addr.toList).freeAll refs.secondaryIp4addr).freeAll
            refs.ip6addr.toList) := by
  obtain ⟨primary4, afterPrimary4, apart4⟩ := List.nodup_append'.mp represents.distinct
  obtain ⟨secondary4, afterSecondary4, apartSecondary4⟩ :=
    List.nodup_append'.mp afterPrimary4
  obtain ⟨primary6, _, _⟩ := List.nodup_append'.mp afterSecondary4
  have live4 := represents.secondaryIp4addr
  rw [← Heap.map_freeAll (List.disjoint_append_right.mp apart4).1] at live4
  have live6 := represents.ip6addr
  rw [← Heap.map_freeAll (List.disjoint_append_right.mp
      (List.disjoint_append_right.mp apart4).2).1,
    ← Heap.map_freeAll (List.disjoint_append_right.mp apartSecondary4).1] at live6
  unfold portUnconfigureRefs
  simp only [Option.bind_eq_bind]
  rw [foldlM_unconfigureOwn represents.ip4addr primary4, Option.bind_some,
    foldlM_unconfigureOwn live4 secondary4, Option.bind_some,
    foldlM_unconfigureOwn live6 primary6, Option.bind_some]

/-- Without secondary IPv6 addresses the run in memory ends as the model says. -/
theorem portUnconfigureRefs_of_noSecondary
    (represents : Represents xdk heap refs ips)
    (mgr : HostMgr)
    (noSecondary : ips.secondaryIp6addr = []) :
    ∃ freed, portUnconfigureRefs xdk (mgr, heap) refs =
      some (portUnconfigureIps xdk mgr ips, freed) := by
  have noRounds : refs.secondaryIp6addr = [] := by
    have same := represents.secondaryIp6addr
    rw [noSecondary, xdk.addrOrder.visit_nil] at same
    exact List.map_eq_nil_iff.mp same
  rw [represents.portUnconfigureRefs_eq mgr, noRounds]
  unfold portUnconfigureIps
  rw [noSecondary, xdk.addrOrder.visit_nil]
  exact ⟨_, rfl⟩

/-- With one, the last loop reads through `bundle->ip6addr`, which is null or was
freed. -/
theorem portUnconfigureRefs_eq_none
    (represents : Represents xdk heap refs ips)
    (mgr : HostMgr)
    (secondary : ips.secondaryIp6addr ≠ []) :
    portUnconfigureRefs xdk (mgr, heap) refs = none := by
  rw [represents.portUnconfigureRefs_eq mgr]
  refine foldlM_unconfigureAddr_eq_none ?_ ?_
  · cases primary : refs.ip6addr with
    | none => rfl
    | some pointer =>
        refine (Heap.freeAll_apply _ [pointer] pointer).trans ?_
        exact if_pos (List.mem_singleton_self pointer)
  · intro noRounds
    have same := represents.secondaryIp6addr
    rw [noRounds] at same
    have unvisited := List.map_eq_nil_iff.mp same.symm
    have counted := xdk.addrOrder.length_visit ips.secondaryIp6addr
    rw [unvisited] at counted
    exact secondary (List.length_eq_zero_iff.mp counted.symm)

end Represents

/-! ## The host entries of records -/

/-- Each of the records holds its own live host entry. -/
structure Owned (mgr : HostMgr) (records : List NetAddr) : Prop where
  idsNodup : (mgr.hosts.map (·.id)).Nodup
  idsBounded : ∀ e ∈ mgr.hosts, e.id < 2 ^ 32
  recordsNodup : (records.map (·.id)).Nodup
  live : ∀ addr ∈ records, ∃ e ∈ mgr.hosts, e.id = addr.id ∧ some e.call = addr.owner

/-- The slots of the hardware that go when the host entries with some ids are
deleted: those at the index of such an entry whose removal the XDK accepts. -/
def vacated (xdk : Outcome) (mgr : HostMgr) (ids : List Nat) (slot : Nat × XpHost) :
    Bool :=
  mgr.hosts.any fun e =>
    decide (e.id ∈ ids) && (e.index == slot.1 && xdk.removeIpHostEntryByIndex e.index)

theorem vacated_iff
    {xdk : Outcome}
    {mgr : HostMgr}
    {ids : List Nat}
    {slot : Nat × XpHost} :
    vacated xdk mgr ids slot = true ↔ ∃ e ∈ mgr.hosts, e.id ∈ ids ∧
      e.index = slot.1 ∧ xdk.removeIpHostEntryByIndex e.index = true := by
  simp [vacated, List.any_eq_true]

/-- Exactly the host entries of some records were deleted, each once. -/
structure Deletes (xdk : Outcome) (mgr after : HostMgr) (records : List NetAddr) :
    Prop where
  hosts : after.hosts = mgr.hosts.filter fun e => e.id ∉ records.map (·.id)
  hw : after.hw = mgr.hw.filter fun slot => !vacated xdk mgr (records.map (·.id)) slot
  freed : after.dummyHostList.Perm (records.map (·.id) ++ mgr.dummyHostList)
  noted : after.removals.Perm
    ((records.map fun addr => ⟨addr.owner, addr.owner⟩) ++ mgr.removals)
  others : after =
    { mgr with
      hosts := after.hosts
      hw := after.hw
      dummyHostList := after.dummyHostList
      removals := after.removals }

theorem HostInv.owned
    {budget : Nat}
    {mgr : HostMgr}
    {records : List NetAddr}
    {rest : List Holding}
    (invariant : HostInv budget mgr (records.map NetAddr.holding ++ rest)) :
    Owned mgr records where
  idsNodup := invariant.live_idsNodup
  idsBounded e member := by
    have below := invariant.idsBelow e.id
      (List.mem_append_left _ (List.mem_map_of_mem member))
    have wide := invariant.bounded
    omega
  recordsNodup := by
    have nodup := invariant.heldNodup
    rw [List.map_append, List.map_map] at nodup
    exact (List.nodup_append.mp nodup).1
  live addr member :=
    invariant.live addr.holding (List.mem_append_left _ (List.mem_map_of_mem member))

/-- Deleting for a record that finds an entry. -/
theorem deleteRecord_of_found
    {xdk : Outcome}
    {mgr : HostMgr}
    {addr : NetAddr}
    {e : HostEntry}
    (found : hostById mgr (toInt32 addr.id) = some e) :
    deleteRecord xdk mgr addr =
      { mgr with
        hosts := mgr.hosts.eraseP (·.id == sizeT (toInt32 addr.id))
        dummyHostList := e.id :: mgr.dummyHostList
        hw :=
          if xdk.removeIpHostEntryByIndex e.index then
            KeyedList.remove Prod.fst e.index mgr.hw
          else mgr.hw
        removals := ⟨addr.owner, some e.call⟩ :: mgr.removals } := by
  unfold deleteRecord deleteForRecord deleteHostEntry
  simp only [found]
  by_cases accepted : xdk.removeIpHostEntryByIndex e.index = true
  · simp only [if_pos accepted]
    rfl
  · simp only [if_neg accepted]
    rfl

namespace Owned

variable {xdk : Outcome} {mgr after : HostMgr} {addr : NetAddr}
  {records others : List NetAddr}

theorem perm
    (same : records.Perm others)
    (owned : Owned mgr records) :
    Owned mgr others where
  idsNodup := owned.idsNodup
  idsBounded := owned.idsBounded
  recordsNodup := (same.map _).nodup_iff.mp owned.recordsNodup
  live addr member := owned.live addr (same.mem_iff.mpr member)

theorem sublist
    (contained : others.Sublist records)
    (owned : Owned mgr records) :
    Owned mgr others where
  idsNodup := owned.idsNodup
  idsBounded := owned.idsBounded
  recordsNodup := owned.recordsNodup.sublist (contained.map _)
  live addr member := owned.live addr (contained.subset member)

/-- The ids of records fit into 32 bits. -/
theorem id_lt (owned : Owned mgr records) (member : addr ∈ records) :
    addr.id < 2 ^ 32 := by
  obtain ⟨e, entryMember, idEq, _⟩ := owned.live addr member
  rw [← idEq]
  exact owned.idsBounded e entryMember

/-- A record with a small id finds its own entry. -/
theorem hostById_eq
    (owned : Owned mgr (addr :: records))
    (readable : addr.id < 2 ^ 31) :
    ∃ e ∈ mgr.hosts, e.id = addr.id ∧ some e.call = addr.owner ∧
      sizeT (toInt32 addr.id) = addr.id ∧
      hostById mgr (toInt32 addr.id) = some e := by
  obtain ⟨e, member, idEq, callEq⟩ := owned.live addr List.mem_cons_self
  have widened : sizeT (toInt32 addr.id) = addr.id := by
    rw [HostInv.sizeT_toInt32 (owned.id_lt List.mem_cons_self), if_pos readable]
  refine ⟨e, member, idEq, callEq, widened, ?_⟩
  exact (KeyedList.find?_key_eq_some owned.idsNodup).mpr ⟨member, idEq.trans widened.symm⟩

/-- Deleting for a record with a small id deletes its entry. -/
theorem deletes_deleteRecord
    (owned : Owned mgr (addr :: records))
    (readable : addr.id < 2 ^ 31)
    (xdk : Outcome) :
    Deletes xdk mgr (deleteRecord xdk mgr addr) [addr] := by
  obtain ⟨e, member, idEq, callEq, widened, found⟩ := owned.hostById_eq readable
  have erased : mgr.hosts.eraseP (·.id == sizeT (toInt32 addr.id)) =
      mgr.hosts.filter fun other => other.id ∉ [addr].map (·.id) := by
    rw [widened, KeyedList.eraseP_eq_remove owned.idsNodup]
    unfold KeyedList.remove
    refine List.filter_congr fun other _ => ?_
    rw [Bool.eq_iff_iff]
    simp
  have slots : ∀ slot, vacated xdk mgr [addr.id] slot =
      (e.index == slot.1 && xdk.removeIpHostEntryByIndex e.index) := by
    intro slot
    rw [Bool.eq_iff_iff, vacated_iff, Bool.and_eq_true_iff, beq_iff_eq]
    constructor
    · rintro ⟨other, otherMember, selected, vacates⟩
      have same : other = e := List.inj_on_of_nodup_map owned.idsNodup otherMember member
        ((List.mem_singleton.mp selected).trans idEq.symm)
      rwa [same] at vacates
    · intro vacates
      exact ⟨e, member, List.mem_singleton.mpr idEq, vacates⟩
  rw [deleteRecord_of_found found, erased]
  refine ⟨rfl, ?_, ?_, ?_, rfl⟩
  · show (if xdk.removeIpHostEntryByIndex e.index then
      KeyedList.remove Prod.fst e.index mgr.hw else mgr.hw) = _
    cases answer : xdk.removeIpHostEntryByIndex e.index with
    | true =>
        refine List.filter_congr fun slot _ => ?_
        rw [List.map_singleton, slots, answer, Bool.and_true, bne, BEq.comm]
    | false =>
        refine (List.filter_eq_self.mpr fun slot _ => ?_).symm
        rw [List.map_singleton, slots, answer, Bool.and_false]
        rfl
  · exact List.Perm.of_eq (congrArg (· :: mgr.dummyHostList) idEq)
  · exact List.Perm.of_eq
      (congrArg (fun call => ⟨addr.owner, call⟩ :: mgr.removals) callEq)

/-- The other records keep their entries when some are deleted. -/
theorem of_deletes
    (owned : Owned mgr (records ++ others))
    (deletes : Deletes xdk mgr after records) :
    Owned after others := by
  have apart := (List.nodup_append'.mp (List.map_append ▸ owned.recordsNodup)).2.2
  refine ⟨?_, ?_, ?_, ?_⟩
  · rw [deletes.hosts]
    exact owned.idsNodup.sublist (List.filter_sublist.map _)
  · intro e member
    rw [deletes.hosts] at member
    exact owned.idsBounded e (List.mem_filter.mp member).1
  · exact owned.recordsNodup.sublist ((List.sublist_append_right _ _).map _)
  · intro addr member
    obtain ⟨e, entryMember, idEq, callEq⟩ := owned.live addr (List.mem_append_right _ member)
    refine ⟨e, ?_, idEq, callEq⟩
    rw [deletes.hosts]
    refine List.mem_filter.mpr ⟨entryMember, decide_eq_true ?_⟩
    intro deleted
    rw [idEq] at deleted
    exact apart deleted (List.mem_map_of_mem member)

end Owned

namespace Deletes

variable {xdk : Outcome} {mgr middle after : HostMgr} {records others : List NetAddr}

theorem nil (xdk : Outcome) (mgr : HostMgr) : Deletes xdk mgr mgr [] where
  hosts := (List.filter_eq_self.mpr fun _ _ => rfl).symm
  hw := by
    refine (List.filter_eq_self.mpr fun slot _ => ?_).symm
    simp [vacated]
  freed := List.Perm.refl _
  noted := List.Perm.refl _
  others := rfl

theorem perm
    (same : records.Perm others)
    (deletes : Deletes xdk mgr after records) :
    Deletes xdk mgr after others where
  hosts := by
    rw [deletes.hosts]
    refine List.filter_congr fun e _ => decide_eq_decide.mpr (not_congr ?_)
    exact (same.map _).mem_iff
  hw := by
    rw [deletes.hw]
    refine List.filter_congr fun slot _ => congrArg not ?_
    unfold vacated
    refine congrArg mgr.hosts.any (funext fun e => ?_)
    rw [decide_eq_decide.mpr (same.map _).mem_iff]
  freed := deletes.freed.trans ((same.map _).append_right _)
  noted := deletes.noted.trans ((same.map _).append_right _)
  others := deletes.others

/-- The slots that go in two rounds. -/
theorem vacated_append
    (owned : Owned mgr (records ++ others))
    (first : Deletes xdk mgr middle records)
    (slot : Nat × XpHost) :
    vacated xdk mgr ((records ++ others).map (·.id)) slot =
      (vacated xdk middle (others.map (·.id)) slot ||
        vacated xdk mgr (records.map (·.id)) slot) := by
  have apart := (List.nodup_append'.mp (List.map_append ▸ owned.recordsNodup)).2.2
  rw [Bool.eq_iff_iff, Bool.or_eq_true_iff, vacated_iff, vacated_iff, vacated_iff,
    first.hosts, List.map_append]
  constructor
  · rintro ⟨e, member, selected, vacates⟩
    rcases List.mem_append.mp selected with early | late
    · exact .inr ⟨e, member, early, vacates⟩
    · refine .inl ⟨e, List.mem_filter.mpr ⟨member, decide_eq_true ?_⟩, late, vacates⟩
      intro early
      exact apart early late
  · rintro (⟨e, member, late, vacates⟩ | ⟨e, member, early, vacates⟩)
    · exact ⟨e, (List.mem_filter.mp member).1, List.mem_append_right _ late, vacates⟩
    · exact ⟨e, member, List.mem_append_left _ early, vacates⟩

theorem trans
    (owned : Owned mgr (records ++ others))
    (first : Deletes xdk mgr middle records)
    (second : Deletes xdk middle after others) :
    Deletes xdk mgr after (records ++ others) where
  hosts := by
    rw [second.hosts, first.hosts, List.filter_filter]
    refine List.filter_congr fun e _ => ?_
    rw [← Bool.decide_and, decide_eq_decide, List.map_append, List.mem_append, not_or,
      and_comm]
  hw := by
    rw [second.hw, first.hw, List.filter_filter]
    refine List.filter_congr fun slot _ => ?_
    rw [vacated_append owned first, Bool.not_or]
  freed := by
    refine second.freed.trans ((first.freed.append_left _).trans ?_)
    rw [← List.append_assoc, List.map_append]
    exact List.perm_append_comm.append_right _
  noted := by
    refine second.noted.trans ((first.noted.append_left _).trans ?_)
    rw [← List.append_assoc, List.map_append]
    exact List.perm_append_comm.append_right _
  others := by
    rw [second.others, first.others]

/-- A loop over records with small ids deletes their entries. -/
theorem foldl_deleteRecord
    (owned : Owned mgr records)
    (readable : ∀ addr ∈ records, addr.id < 2 ^ 31)
    (xdk : Outcome) :
    Deletes xdk mgr (records.foldl (deleteRecord xdk) mgr) records := by
  induction records generalizing mgr with
  | nil => exact nil xdk mgr
  | cons addr records inductionHypothesis =>
      have first := owned.deletes_deleteRecord (readable addr List.mem_cons_self) xdk
      have later := inductionHypothesis (@Owned.of_deletes _ _ _ [addr] records owned first)
        fun other member => readable other (List.mem_cons_of_mem _ member)
      exact trans (@id (Owned mgr ([addr] ++ records)) owned) first later

end Deletes

/-! ## Exactness -/

/-- `port_unconfigure_ips` reads no record that is null or was freed and deletes
exactly the host entries of the records of the bundle, each once. -/
def UnconfiguresExactly (xdk : Outcome) (mgr : HostMgr) (heap : Heap)
    (refs : BundleRefs) (ips : BundleIps) : Prop :=
  ∃ after freed, portUnconfigureRefs xdk (mgr, heap) refs = some (after, freed) ∧
    Deletes xdk mgr after ips.records

/-- The records of a bundle without secondary IPv6 addresses, in the order in
which they are unconfigured. -/
theorem BundleIps.records_perm
    {ips : BundleIps}
    (xdk : Outcome)
    (noSecondary : ips.secondaryIp6addr = []) :
    (ips.ip4addr.toList ++ (xdk.addrOrder.visit ips.secondaryIp4addr ++
      ips.ip6addr.toList)).Perm ips.records := by
  unfold BundleIps.records
  rw [noSecondary, List.append_nil]
  refine List.Perm.append_left _ (List.perm_append_comm.trans ?_)
  exact (xdk.addrOrder.perm _).append_left _

/-- The model without memory, as one loop. -/
theorem portUnconfigureIps_eq_foldl
    {ips : BundleIps}
    (xdk : Outcome)
    (mgr : HostMgr)
    (noSecondary : ips.secondaryIp6addr = []) :
    portUnconfigureIps xdk mgr ips =
      (ips.ip4addr.toList ++ (xdk.addrOrder.visit ips.secondaryIp4addr ++
        ips.ip6addr.toList)).foldl (deleteRecord xdk) mgr := by
  unfold portUnconfigureIps
  rw [noSecondary, xdk.addrOrder.visit_nil, List.foldl_append, List.foldl_append]
  rfl

/-- An entry whose id is not below `2 ^ 31` survives every delete for a record. -/
theorem mem_hosts_deleteRecord
    {mgr : HostMgr}
    {addr : NetAddr}
    {e : HostEntry}
    (xdk : Outcome)
    (member : e ∈ mgr.hosts)
    (large : 2 ^ 31 ≤ e.id)
    (entryBounded : e.id < 2 ^ 32)
    (recordBounded : addr.id < 2 ^ 32) :
    e ∈ (deleteRecord xdk mgr addr).hosts := by
  have missed : e.id ≠ sizeT (toInt32 addr.id) := by
    rw [HostInv.sizeT_toInt32 recordBounded]
    split <;> omega
  cases found : hostById mgr (toInt32 addr.id) with
  | none =>
      unfold deleteRecord deleteForRecord deleteHostEntry
      simp only [found]
      exact member
  | some other =>
      rw [deleteRecord_of_found found]
      exact (List.mem_eraseP_of_neg (by simpa using missed)).mpr member

theorem mem_hosts_foldl_deleteRecord
    {mgr : HostMgr}
    {addrs : List NetAddr}
    {e : HostEntry}
    (xdk : Outcome)
    (member : e ∈ mgr.hosts)
    (large : 2 ^ 31 ≤ e.id)
    (entryBounded : e.id < 2 ^ 32)
    (recordsBounded : ∀ addr ∈ addrs, addr.id < 2 ^ 32) :
    e ∈ (addrs.foldl (deleteRecord xdk) mgr).hosts := by
  induction addrs generalizing mgr with
  | nil => exact member
  | cons addr addrs inductionHypothesis =>
      refine inductionHypothesis ?_ fun other later =>
        recordsBounded other (List.mem_cons_of_mem _ later)
      exact mem_hosts_deleteRecord xdk member large entryBounded
        (recordsBounded addr List.mem_cons_self)

/-- The records are unconfigured exactly when the bundle has no secondary IPv6
address and every id survives the conversion to `int` and back. -/
theorem unconfiguresExactly_iff
    {xdk : Outcome}
    {mgr : HostMgr}
    {heap : Heap}
    {refs : BundleRefs}
    {ips : BundleIps}
    (owned : Owned mgr ips.records)
    (represents : Represents xdk heap refs ips) :
    UnconfiguresExactly xdk mgr heap refs ips ↔
      ips.secondaryIp6addr = [] ∧ ∀ addr ∈ ips.records, addr.id < 2 ^ 31 := by
  constructor
  · rintro ⟨after, freed, ran, deletes⟩
    have noSecondary : ips.secondaryIp6addr = [] := by
      by_contra secondary
      rw [represents.portUnconfigureRefs_eq_none mgr secondary] at ran
      contradiction
    refine ⟨noSecondary, ?_⟩
    intro addr member
    by_contra unreadable
    obtain ⟨final, same⟩ := represents.portUnconfigureRefs_of_noSecondary mgr noSecondary
    have afterEq : after = portUnconfigureIps xdk mgr ips :=
      congrArg Prod.fst (Option.some.inj (ran.symm.trans same))
    obtain ⟨e, entryMember, idEq, _⟩ := owned.live addr member
    have stays : e ∈ after.hosts := by
      rw [afterEq, portUnconfigureIps_eq_foldl xdk mgr noSecondary]
      refine mem_hosts_foldl_deleteRecord xdk entryMember ?_
        (owned.idsBounded e entryMember) ?_
      · rw [idEq]
        exact Nat.le_of_not_lt unreadable
      · intro other otherMember
        exact owned.id_lt ((BundleIps.records_perm xdk noSecondary).mem_iff.mp otherMember)
    rw [deletes.hosts] at stays
    refine of_decide_eq_true (List.mem_filter.mp stays).2 ?_
    rw [idEq]
    exact List.mem_map_of_mem member
  · rintro ⟨noSecondary, readable⟩
    obtain ⟨freed, ran⟩ := represents.portUnconfigureRefs_of_noSecondary mgr noSecondary
    refine ⟨_, freed, ran, ?_⟩
    have order := BundleIps.records_perm xdk noSecondary
    rw [portUnconfigureIps_eq_foldl xdk mgr noSecondary]
    refine (Deletes.foldl_deleteRecord (owned.perm order.symm) ?_ xdk).perm order
    intro addr member
    exact readable addr (order.mem_iff.mp member)

/-- Settings with a primary and a secondary address of one family. -/
def pairSettings (isIpv6 : Bool) (primary secondary : String) : Settings where
  primaryIpv4Changed := !isIpv6
  primaryIpv6Changed := isIpv6
  secondaryIpv4Changed := !isIpv6
  secondaryIpv6Changed := isIpv6
  ip4Address := if isIpv6 then none else some primary
  ip6Address := if isIpv6 then some primary else none
  ip4AddressSecondary := if isIpv6 then [] else [secondary]
  ip6AddressSecondary := if isIpv6 then [secondary] else []

/-- A bundle with two IPv4 addresses next to a neighbour. -/
def pairSystem : System :=
  Transition.run (step sampleEnv) (initial 0)
    [⟨.reconfigure 0 (pairSettings false "10.0.0.1/24" "10.0.1.1/24"), sampleXdk true⟩,
     ⟨.remoteAdd sampleNeighbour, sampleXdk true⟩]

/-- The records of that bundle in memory. -/
def pairHeap : Heap
  | 16 => (pairSystem.ips 0).ip4addr
  | 32 => (pairSystem.ips 0).secondaryIp4addr.head?
  | _ => none

/-- The pointers of that bundle. -/
def pairRefs : BundleRefs where
  ip4addr := some 16
  ip6addr := none
  secondaryIp4addr := [32]
  secondaryIp6addr := []

theorem owned_pairSystem : Owned pairSystem.mgr (pairSystem.ips 0).records where
  idsNodup := by decide
  idsBounded := by decide
  recordsNodup := by decide
  live := by decide

theorem unconfiguresExactly_pairSystem :
    UnconfiguresExactly (sampleXdk true) pairSystem.mgr pairHeap pairRefs
      (pairSystem.ips 0) := by
  refine (unconfiguresExactly_iff owned_pairSystem ⟨?_, ?_, ?_, ?_, ?_⟩).mpr ⟨?_, ?_⟩
  all_goals decide

/-- An environment that parses two IPv6 addresses. -/
def ip6Env : Env :=
  { sampleEnv with
    stringToPrefix := fun isIpv6 address =>
      if isIpv6 && address == "fd00::1/64" then
        some ([0xfd, 0, 0, 0, 0, 0, 0, 0, 0, 0, 0, 0, 0, 0, 0, 1], 64)
      else if isIpv6 && address == "fd00::2/64" then
        some ([0xfd, 0, 0, 0, 0, 0, 0, 0, 0, 0, 0, 0, 0, 0, 0, 2], 64)
      else none }

/-- A bundle with two IPv6 addresses. -/
def ip6System : System :=
  step ip6Env (initial 0)
    ⟨.reconfigure 0 (pairSettings true "fd00::1/64" "fd00::2/64"), sampleXdk true⟩

/-- The records of that bundle in memory. -/
def ip6Heap : Heap
  | 16 => (ip6System.ips 0).ip6addr
  | 32 => (ip6System.ips 0).secondaryIp6addr.head?
  | _ => none

/-- The pointers of that bundle. -/
def ip6Refs : BundleRefs where
  ip4addr := none
  ip6addr := some 16
  secondaryIp4addr := []
  secondaryIp6addr := [32]

/-- The loop over the secondary IPv6 addresses reads the primary record, which was
freed before it. -/
theorem not_unconfiguresExactly_ip6System :
    Owned ip6System.mgr (ip6System.ips 0).records ∧
      Represents (sampleXdk true) ip6Heap ip6Refs (ip6System.ips 0) ∧
      ¬ UnconfiguresExactly (sampleXdk true) ip6System.mgr ip6Heap ip6Refs
        (ip6System.ips 0) := by
  have represents : Represents (sampleXdk true) ip6Heap ip6Refs (ip6System.ips 0) := by
    refine ⟨?_, ?_, ?_, ?_, ?_⟩
    all_goals decide
  refine ⟨⟨by decide, by decide, by decide, by decide⟩, represents, ?_⟩
  rintro ⟨after, freed, ran, _⟩
  rw [represents.portUnconfigureRefs_eq_none _ (by decide)] at ran
  contradiction

end Hosts
end XpliantSwitchd
