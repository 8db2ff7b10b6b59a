import XpliantSwitchd.Hosts.Table

/-!
# Teardown of the hosts

The manager frees the host entries on its free list first and deletes the live ones
afterwards.  A live entry is found again through its id, which is read as an `int`, and
deleting it puts it on the free list, from which nothing takes it any more.
-/

namespace XpliantSwitchd
namespace Hosts

/-- What the XDK and the hash tables do while the manager is destroyed. -/
structure TeardownOutcome extends Outcome where
  hostOrder : Traversal HostEntry

/-- The loop of `ops_xp_l3_mgr_destroy` over `dummy_host_list`. -/
def destroyDummyHosts (mgr : HostMgr) : HostMgr := { mgr with dummyHostList := [] }

/-- The loop of `ops_xp_l3_mgr_destroy` over `host_map`. -/
def destroyHosts (xdk : TeardownOutcome) (mgr : HostMgr) : HostMgr :=
  (xdk.hostOrder.visit mgr.hosts).foldl
    (fun mgr e => (deleteHostEntry xdk.toOutcome mgr (toInt32 e.id)).2) mgr

/-- The host entries of `ops_xp_l3_mgr_destroy`. -/
def l3MgrDestroy (xdk : TeardownOutcome) (mgr : HostMgr) : HostMgr :=
  destroyHosts xdk (destroyDummyHosts mgr)

/-- No host entry is live, and the hardware has lost the entries of those that were
live, where the XDK did not refuse.  The memory of these host entries, and of no
others, is still on the free list. -/
structure HostsDismantled (xdk : TeardownOutcome) (mgr mgr' : HostMgr) : Prop where
  noHosts : mgr'.hosts = []
  sublist : mgr'.hw.Sublist mgr.hw
  left : ∀ slot, slot ∈ mgr'.hw ↔ slot ∈ mgr.hw ∧
    ∀ e ∈ mgr.hosts, e.slot = slot → xdk.removeIpHostEntryByIndex e.index = false
  leaked : mgr'.dummyHostList.Perm (mgr.hosts.map (·.id))

/-! ## The loop over the live entries -/

section Loop

variable {xdk : Outcome} {mgr : HostMgr}

/-- A slot stays unless it is at the index of an entry whose removal is accepted. -/
def keeps (xdk : Outcome) (hosts : List HostEntry) (slot : Nat × XpHost) : Bool :=
  hosts.all fun e => !(e.index == slot.1 && xdk.removeIpHostEntryByIndex e.index)

theorem deleteHostEntry_of_found
    {l3EgressId : Int} {e : HostEntry}
    (found : hostById mgr l3EgressId = some e) :
    (deleteHostEntry xdk mgr l3EgressId).2 =
      { mgr with
        hosts := mgr.hosts.eraseP (·.id == sizeT l3EgressId)
        dummyHostList := e.id :: mgr.dummyHostList
        hw := mgr.hw.filter (keeps xdk [e]) } := by
  have kept : (if xdk.removeIpHostEntryByIndex e.index then
      KeyedList.remove Prod.fst e.index mgr.hw else mgr.hw) =
      mgr.hw.filter (keeps xdk [e]) := by
    cases accepted : xdk.removeIpHostEntryByIndex e.index with
    | true =>
        refine List.filter_congr fun slot _ => ?_
        simp [keeps, accepted, bne, BEq.comm]
    | false =>
        refine (List.filter_eq_self.mpr fun slot _ => ?_).symm
        simp [keeps, accepted]
  unfold deleteHostEntry
  rw [← kept]
  simp only [found]
  split <;> rfl

/-- Live entries with small ids are deleted one after the other, each once. -/
theorem foldl_deleteHostEntry
    {hosts : List HostEntry}
    (remaining : hosts.Perm mgr.hosts)
    (idsNodup : (mgr.hosts.map (·.id)).Nodup)
    (readable : ∀ e ∈ mgr.hosts, e.id < 2 ^ 31) :
    hosts.foldl (fun mgr e => (deleteHostEntry xdk mgr (toInt32 e.id)).2) mgr =
      { mgr with
        hosts := []
        dummyHostList := (hosts.map (·.id)).reverse ++ mgr.dummyHostList
        hw := mgr.hw.filter (keeps xdk hosts) } := by
  induction hosts generalizing mgr with
  | nil =>
      have none := remaining.nil_eq
      have all : mgr.hw.filter (keeps xdk []) = mgr.hw :=
        List.filter_eq_self.mpr fun _ _ => rfl
      rw [List.foldl_nil, List.map_nil, List.reverse_nil, List.nil_append, all, none]
  | cons e hosts inductionHypothesis =>
      have member : e ∈ mgr.hosts := remaining.mem_iff.mp List.mem_cons_self
      have small := readable e member
      have sameId : sizeT (toInt32 e.id) = e.id := by
        rw [HostInv.sizeT_toInt32 (by omega), if_pos small]
      have found : hostById mgr (toInt32 e.id) = some e :=
        (KeyedList.find?_key_eq_some idsNodup).mpr ⟨member, sameId.symm⟩
      have sublist : (mgr.hosts.eraseP (·.id == sizeT (toInt32 e.id))).Sublist mgr.hosts :=
        List.eraseP_sublist
      rw [List.foldl_cons, deleteHostEntry_of_found found, inductionHypothesis]
      · simp only [List.map_cons, List.reverse_cons, List.append_assoc,
          List.singleton_append, List.filter_filter]
        congr 1
        refine List.filter_congr fun slot _ => ?_
        simp [keeps, Bool.and_comm]
      · exact (remaining.trans (KeyedList.perm_cons_eraseP found)).cons_inv
      · exact idsNodup.sublist (sublist.map _)
      · exact fun other stays => readable other (sublist.subset stays)

end Loop

/-! ## Runs -/

/-- Adds are answered as by a hash table, and there is always an `int` for a new
entry; every call may fail. -/
def AddsFit (env : Env) (mgr : HostMgr) (operation : TableOperation) : Prop :=
  AddsPlace env mgr operation ∧
    match operation.event with
    | .add _ => mgr.hosts.length < 2 ^ 31
    | .delete _ => True

/-- What calls keep. -/
structure TableInv (mgr : HostMgr) : Prop where
  located : Located mgr
  ids : HostInv 0 mgr []
  readable : mgr.nextHostId ≤ 2 ^ 31

section Runs

variable {env : Env} {mgr : HostMgr}

/-- A fresh id is taken only when every id is live. -/
theorem hostEntryAlloc_nextHostId
    (allocated : Allocated mgr)
    (readable : mgr.nextHostId ≤ 2 ^ 31)
    (room : mgr.hosts.length < 2 ^ 31) :
    (hostEntryAlloc mgr).2.nextHostId ≤ 2 ^ 31 := by
  have counted := allocated.counted
  unfold hostEntryAlloc
  cases free : mgr.dummyHostList with
  | nil =>
      rw [free, List.append_nil, List.length_map] at counted
      show mgr.nextHostId + 1 ≤ 2 ^ 31
      omega
  | cons id rest => exact readable

theorem addHostEntry_nextHostId
    (env : Env) (xdk : Outcome) (mgr : HostMgr) (args : AddArgs) :
    (addHostEntry env xdk mgr args).2.2.nextHostId =
      (hostEntryAlloc mgr).2.nextHostId := by
  have same : (hostEntryAlloc { mgr with calls := mgr.calls + 1 }).2.nextHostId =
      (hostEntryAlloc mgr).2.nextHostId := by
    unfold hostEntryAlloc
    cases mgr.dummyHostList <;> rfl
  rw [← same]
  unfold addHostEntry
  cases env.stringToPrefix args.isIpv6Addr args.ipAddr with
  | none => rfl
  | some parsed =>
      simp only
      split <;> rfl

theorem deleteHostEntry_nextHostId
    (xdk : Outcome) (mgr : HostMgr) (l3EgressId : Int) :
    (deleteHostEntry xdk mgr l3EgressId).2.nextHostId = mgr.nextHostId := by
  cases found : hostById mgr l3EgressId with
  | none =>
      unfold deleteHostEntry
      rw [found]
  | some e => rw [deleteHostEntry_of_found found]

theorem TableInv.step
    {operation : TableOperation}
    (inv : TableInv mgr)
    (fits : AddsFit env mgr operation) : TableInv (tableStep env mgr operation) := by
  obtain ⟨places, room⟩ := fits
  refine ⟨inv.located.tableStep places, ?_, ?_⟩
  · cases operation with
    | mk event xdk =>
        cases event with
        | add args =>
            have budget : HostInv 1 mgr [] := inv.ids.rebudget (by
              simp only at room
              omega)
            rcases budget.addHostEntry_spec env xdk args with
              ⟨id, after, result, _, next⟩ | ⟨_, errno, after, result, next⟩
            · simp only [tableStep, result]
              exact next.sublist (List.nil_sublist _)
            · simp only [tableStep, result]
              exact next
        | delete l3EgressId => exact inv.ids.deleteHostEntry_spec xdk List.not_mem_nil
  · cases operation with
    | mk event xdk =>
        cases event with
        | add args =>
            simp only [tableStep, addHostEntry_nextHostId]
            exact hostEntryAlloc_nextHostId inv.ids.allocated inv.readable room
        | delete l3EgressId =>
            simp only [tableStep, deleteHostEntry_nextHostId]
            exact inv.readable

theorem TableInv.init (vrfId : Nat) : TableInv (l3MgrCreate vrfId) where
  located := located_l3MgrCreate vrfId
  ids := (SystemInv.base vrfId).hosts
  readable := Nat.zero_le _

/-- After every such run the live entries are deleted, each once and from its own
index, in whatever order they are visited. -/
theorem hostsDismantled_of_reached
    {vrfId : Nat}
    (reached : Transition.Reach (· = l3MgrCreate vrfId) (AddsFit env) (tableStep env) mgr)
    (xdk : TeardownOutcome) :
    HostsDismantled xdk mgr (l3MgrDestroy xdk mgr) := by
  have inv : TableInv mgr := by
    refine reached.invariant TableInv ?_ fun _ _ inv fits => inv.step fits
    rintro _ rfl
    exact .init vrfId
  have small : ∀ e ∈ mgr.hosts, e.id < 2 ^ 31 := by
    intro e member
    have below := inv.ids.idsBelow e.id
      (List.mem_append_left _ (List.mem_map_of_mem member))
    have readable := inv.readable
    omega
  have destroyed : l3MgrDestroy xdk mgr =
      { mgr with
        hosts := []
        dummyHostList := ((xdk.hostOrder.visit mgr.hosts).map (·.id)).reverse ++ []
        hw := mgr.hw.filter (keeps xdk.toOutcome (xdk.hostOrder.visit mgr.hosts)) } :=
    @foldl_deleteHostEntry xdk.toOutcome (destroyDummyHosts mgr) _
      (xdk.hostOrder.perm mgr.hosts) inv.ids.live_idsNodup small
  rw [destroyed]
  refine ⟨rfl, List.filter_sublist, ?_, ?_⟩
  · intro slot
    rw [List.mem_filter]
    refine and_congr_right fun listed => ?_
    simp only [keeps, List.all_eq_true, Traversal.mem_visit]
    refine forall₂_congr fun e member => ?_
    constructor
    · rintro stays rfl
      simpa [HostEntry.slot] using stays
    · intro refused
      by_cases here : e.index = slot.1
      · have same : e.slot = slot := List.inj_on_of_nodup_map inv.located.slotsNodup
          (inv.located.located e member) listed here
        simp [refused same]
      · simp [here]
  · rw [List.append_nil]
    exact (List.reverse_perm _).trans ((xdk.hostOrder.perm mgr.hosts).map _)

end Runs

/-- An add fails, and a live entry is moved by the next one. -/
def movedRun : List TableOperation :=
  [⟨.add sampleLocal, tableXdk none true⟩, ⟨.add sampleLocal, tableXdk (some (5, 5)) true⟩,
   ⟨.add sampleNeighbour, tableXdk (some (5, 7)) true⟩]

/-- The removal of the moved entry is refused. -/
def refusingTeardown : TeardownOutcome :=
  { sampleXdk true with
    removeIpHostEntryByIndex := fun index => index ≠ 7
    hostOrder := .id }

theorem hostsDismantled_movedRun :
    HostsDismantled refusingTeardown
      (Transition.run (tableStep sampleEnv) (l3MgrCreate 0) movedRun)
      (l3MgrDestroy refusingTeardown
        (Transition.run (tableStep sampleEnv) (l3MgrCreate 0) movedRun)) := by
  have guarded : Transition.Guarded (AddsFit sampleEnv) (tableStep sampleEnv)
      (l3MgrCreate 0) movedRun := by
    refine ⟨⟨?_, by decide⟩, ⟨?_, by decide⟩, ⟨?_, by decide⟩, trivial⟩
    · show AddPlaces _ _ _ _
      decide
    · show AddPlaces _ _ _ _
      decide
    · show AddPlaces _ _ _ _
      decide
  have start : Transition.Reach (· = l3MgrCreate 0) (AddsFit sampleEnv)
      (tableStep sampleEnv) (l3MgrCreate 0) := .start rfl
  exact hostsDismantled_of_reached (start.of_run guarded) refusingTeardown

end Hosts
end XpliantSwitchd
