import XpliantSwitchd.Hosts.Defs
import XpliantSwitchd.Lib.Transition

/-!
# Which host entry an address record removes

The ids of the live host entries and of the free list are pairwise distinct as
long as the counter of fresh ids does not wrap.  A holding is an id together
with the call that made the entry with that id: every address record and every
neighbour has one.  The invariant of this module says that the holdings have
pairwise distinct ids and that each has its own live entry.  It is proved one
holding at a time, for an arbitrary list of other holdings.
-/

namespace XpliantSwitchd
namespace Hosts

/-- An id with the call that made the host entry known by it. -/
abbrev Holding := Nat × Option Nat

/-- What an address record holds. -/
def NetAddr.holding (addr : NetAddr) : Holding := (addr.id, addr.owner)

/-- The deletes for address records removed their own entry or nothing. -/
def RemovalsFaithful (mgr : HostMgr) : Prop :=
  ∀ removal ∈ mgr.removals,
    removal.removed = none ∨ removal.removed = removal.owner

/-- The adds of an operation succeed for these addresses. -/
structure AddsSucceed (env : Env) (xdk : Outcome) (isIpv6 : Bool)
    (addresses : List String) : Prop where
  parsed : ∀ address ∈ addresses, env.stringToPrefix isIpv6 address ≠ none
  answered : ∀ call, xdk.addIpHostEntry call ≠ none

/-- The address records of a bundle. -/
def BundleIps.records (ips : BundleIps) : List NetAddr :=
  ips.ip4addr.toList ++ (ips.ip6addr.toList ++
    (ips.secondaryIp4addr ++ ips.secondaryIp6addr))

/-- A bound on the adds of a reconfiguration. -/
def Settings.adds (s : Settings) : Nat :=
  2 + s.ip4AddressSecondary.length + s.ip6AddressSecondary.length

/-- The adds of a reconfiguration succeed. -/
structure Settings.Succeed (env : Env) (xdk : Outcome) (s : Settings) : Prop where
  primaryIpv4 : s.primaryIpv4Changed → AddsSucceed env xdk false s.ip4Address.toList
  primaryIpv6 : s.primaryIpv6Changed → AddsSucceed env xdk true s.ip6Address.toList
  secondaryIpv4 : s.secondaryIpv4Changed →
    AddsSucceed env xdk false s.ip4AddressSecondary
  secondaryIpv6 : s.secondaryIpv6Changed →
    AddsSucceed env xdk true s.ip6AddressSecondary

/-- The ids of the live entries and of the free list are pairwise distinct, and
they are the ones below the counter, which has not wrapped. -/
structure Allocated (mgr : HostMgr) : Prop where
  idsNodup : (mgr.hosts.map (·.id) ++ mgr.dummyHostList).Nodup
  idsBelow : ∀ id ∈ mgr.hosts.map (·.id) ++ mgr.dummyHostList, id < mgr.nextHostId
  counted : (mgr.hosts.map (·.id) ++ mgr.dummyHostList).length = mgr.nextHostId
  bounded : mgr.nextHostId ≤ 2 ^ 32

/-- What an allocation gives: an id that no live entry has and that is not free
any more. -/
theorem Allocated.hostEntryAlloc_spec
    {mgr : HostMgr}
    (invariant : Allocated mgr)
    (room : mgr.hosts.length < 2 ^ 32) :
    ∃ id dummies next,
      hostEntryAlloc mgr =
        (id, { mgr with nextHostId := next, dummyHostList := dummies }) ∧
      (id :: (mgr.hosts.map (·.id) ++ dummies)).length = next ∧ next ≤ 2 ^ 32 ∧
      (id :: (mgr.hosts.map (·.id) ++ dummies)).Nodup ∧
      ∀ other ∈ id :: (mgr.hosts.map (·.id) ++ dummies), other < next := by
  have counted := invariant.counted
  cases free : mgr.dummyHostList with
  | nil =>
      have unwrapped : mgr.nextHostId < 2 ^ 32 := by
        simp only [free, List.append_nil, List.length_map] at counted
        omega
      have small : mgr.nextHostId % 2 ^ 32 = mgr.nextHostId :=
        Nat.mod_eq_of_lt unwrapped
      rw [free] at counted
      refine ⟨mgr.nextHostId, [], mgr.nextHostId + 1, ?_,
        congrArg (· + 1) counted, unwrapped, ?_, ?_⟩
      · simp only [hostEntryAlloc, free, small]
      · have nodup := invariant.idsNodup
        have below := invariant.idsBelow
        rw [free] at nodup below
        refine List.nodup_cons.mpr ⟨?_, nodup⟩
        intro member
        exact absurd (below _ member) (Nat.lt_irrefl _)
      · intro other member
        rcases List.mem_cons.mp member with rfl | old
        · exact Nat.lt_succ_self _
        · have below := invariant.idsBelow other (by rwa [free])
          omega
  | cons id dummies =>
      have reordered : (mgr.hosts.map (·.id) ++ mgr.dummyHostList).Perm
          (id :: (mgr.hosts.map (·.id) ++ dummies)) := by
        rw [free]
        exact List.perm_middle
      refine ⟨id, dummies, mgr.nextHostId, ?_, reordered.length_eq ▸ counted,
        invariant.bounded, ?_, ?_⟩
      · simp only [hostEntryAlloc, free]
      · exact reordered.nodup_iff.mp invariant.idsNodup
      · intro other member
        exact invariant.idsBelow other (reordered.mem_iff.mpr member)

/-- The invariant of a manager with the holdings of its users.  Every id below
the counter is live or free, and the budget bounds the adds that may follow. -/
structure HostInv (budget : Nat) (mgr : HostMgr) (held : List Holding) : Prop where
  idsNodup : (mgr.hosts.map (·.id) ++ mgr.dummyHostList).Nodup
  idsBelow : ∀ id ∈ mgr.hosts.map (·.id) ++ mgr.dummyHostList, id < mgr.nextHostId
  counted : (mgr.hosts.map (·.id) ++ mgr.dummyHostList).length = mgr.nextHostId
  bounded : mgr.nextHostId ≤ 2 ^ 32
  room : mgr.hosts.length + budget ≤ 2 ^ 32
  heldNodup : (held.map Prod.fst).Nodup
  live : ∀ holding ∈ held, ∃ e ∈ mgr.hosts,
    e.id = holding.1 ∧ some e.call = holding.2
  faithful : RemovalsFaithful mgr

namespace HostInv

variable {env : Env} {xdk : Outcome} {mgr : HostMgr} {budget : Nat}
  {held rest : List Holding}

theorem perm
    {other : List Holding}
    (same : held.Perm other)
    (invariant : HostInv budget mgr held) :
    HostInv budget mgr other where
  idsNodup := invariant.idsNodup
  idsBelow := invariant.idsBelow
  counted := invariant.counted
  bounded := invariant.bounded
  room := invariant.room
  heldNodup := (same.map Prod.fst).nodup_iff.mp invariant.heldNodup
  live holding member := invariant.live holding (same.mem_iff.mpr member)
  faithful := invariant.faithful

/-- Holdings may be forgotten. -/
theorem sublist
    {fewer : List Holding}
    (contained : fewer.Sublist held)
    (invariant : HostInv budget mgr held) :
    HostInv budget mgr fewer where
  idsNodup := invariant.idsNodup
  idsBelow := invariant.idsBelow
  counted := invariant.counted
  bounded := invariant.bounded
  room := invariant.room
  heldNodup := invariant.heldNodup.sublist (contained.map Prod.fst)
  live holding member := invariant.live holding (contained.subset member)
  faithful := invariant.faithful

theorem rebudget
    {less : Nat}
    (enough : mgr.hosts.length + less ≤ 2 ^ 32)
    (invariant : HostInv budget mgr held) :
    HostInv less mgr held where
  idsNodup := invariant.idsNodup
  idsBelow := invariant.idsBelow
  counted := invariant.counted
  bounded := invariant.bounded
  room := enough
  heldNodup := invariant.heldNodup
  live := invariant.live
  faithful := invariant.faithful

theorem spend
    {less : Nat}
    (fewer : less ≤ budget)
    (invariant : HostInv budget mgr held) :
    HostInv less mgr held := by
  have room := invariant.room
  exact invariant.rebudget (by omega)

theorem live_idsNodup (invariant : HostInv budget mgr held) :
    (mgr.hosts.map (·.id)).Nodup :=
  (List.nodup_append.mp invariant.idsNodup).1

theorem allocated (invariant : HostInv budget mgr held) : Allocated mgr :=
  ⟨invariant.idsNodup, invariant.idsBelow, invariant.counted, invariant.bounded⟩

end HostInv

/-! ## Adding a host entry -/

/-- What `ops_xp_routing_add_host_entry` can do: it writes back an id, or it
fails. -/
theorem addHostEntry_cases
    (env : Env)
    (xdk : Outcome)
    (mgr : HostMgr)
    (args : AddArgs)
    {id next : Nat}
    {dummies : List Nat}
    (allocated : hostEntryAlloc mgr =
      (id, { mgr with nextHostId := next, dummyHostList := dummies })) :
    (∃ e moved hw,
      addHostEntry env xdk mgr args = (none, some id,
        { mgr with
          nextHostId := next
          dummyHostList := dummies
          hosts := e :: moved
          hw := hw
          calls := mgr.calls + 1 }) ∧
      e.id = id ∧ e.call = mgr.calls ∧
      moved.map (fun old => (old.id, old.call)) =
        mgr.hosts.map fun old => (old.id, old.call)) ∨
    ((env.stringToPrefix args.isIpv6Addr args.ipAddr = none ∨
        xdk.addIpHostEntry mgr.calls = none) ∧
      ∃ errno, addHostEntry env xdk mgr args = (some errno, none,
        { mgr with
          nextHostId := next
          dummyHostList := id :: dummies
          calls := mgr.calls + 1 })) := by
  have counted : hostEntryAlloc { mgr with calls := mgr.calls + 1 } =
      (id, { mgr with
        nextHostId := next
        dummyHostList := dummies
        calls := mgr.calls + 1 }) := by
    unfold hostEntryAlloc at allocated ⊢
    cases free : mgr.dummyHostList with
    | nil =>
        simp only [free, Prod.mk.injEq, HostMgr.mk.injEq, true_and, and_true]
          at allocated ⊢
        exact allocated
    | cons first others =>
        simp only [free, Prod.mk.injEq, HostMgr.mk.injEq, true_and, and_true]
          at allocated ⊢
        exact allocated
  unfold addHostEntry
  rw [counted]
  cases parsed : env.stringToPrefix args.isIpv6Addr args.ipAddr with
  | none => exact .inr ⟨.inl rfl, _, rfl⟩
  | some prefixed =>
      cases answered : xdk.addIpHostEntry mgr.calls with
      | none =>
          refine .inr ⟨.inr rfl, .EAGAIN, ?_⟩
          simp [answered, hostEntryFree]
      | some indices =>
          left
          simp only [Nat.add_sub_cancel, answered]
          refine ⟨_, _, _, rfl, rfl, rfl, ?_⟩
          split
          · exact KeyedList.map_rewrite fun _ _ _ => rfl
          · rfl

namespace HostInv

variable {env : Env} {xdk : Outcome} {mgr : HostMgr} {budget : Nat}
  {held rest : List Holding}

/-- An add gives a new holding, or it fails and changes no holding. -/
theorem addHostEntry_spec
    (invariant : HostInv (budget + 1) mgr held)
    (env : Env)
    (xdk : Outcome)
    (args : AddArgs) :
    (∃ id after,
      addHostEntry env xdk mgr args = (none, some id, after) ∧
      after.calls = mgr.calls + 1 ∧
      HostInv budget after ((id, some mgr.calls) :: held)) ∨
    ((env.stringToPrefix args.isIpv6Addr args.ipAddr = none ∨
        xdk.addIpHostEntry mgr.calls = none) ∧
      ∃ errno after,
        addHostEntry env xdk mgr args = (some errno, none, after) ∧
        HostInv budget after held) := by
  have room := invariant.room
  obtain ⟨id, dummies, next, allocated, counted, bounded, nodup, below⟩ :=
    invariant.allocated.hostEntryAlloc_spec (by omega)
  rcases addHostEntry_cases env xdk mgr args allocated with
    ⟨e, moved, hw, equation, idEq, callEq, kept⟩ | ⟨failed, errno, equation⟩
  · left
    have idsKept : moved.map (·.id) = mgr.hosts.map (·.id) := by
      have projected := congrArg (List.map Prod.fst) kept
      simpa [Function.comp_def] using projected
    have sameLength : moved.length = mgr.hosts.length := by
      simpa using congrArg List.length kept
    refine ⟨id, _, equation, rfl, ?_, ?_, ?_, bounded, ?_, ?_, ?_,
      invariant.faithful⟩
    · simpa [idEq, idsKept] using nodup
    · simpa [idEq, idsKept] using below
    · simpa [sameLength] using counted
    · simp only [List.length_cons]
      omega
    · refine List.nodup_cons.mpr ⟨?_, invariant.heldNodup⟩
      intro member
      obtain ⟨holding, holdingMember, holdingId⟩ := List.mem_map.mp member
      obtain ⟨old, oldMember, oldId, _⟩ := invariant.live holding holdingMember
      have taken : id ∈ mgr.hosts.map (·.id) :=
        List.mem_map.mpr ⟨old, oldMember, oldId.trans holdingId⟩
      exact (List.nodup_cons.mp nodup).1 (List.mem_append_left _ taken)
    · intro holding member
      rcases List.mem_cons.mp member with rfl | older
      · exact ⟨e, List.mem_cons_self, idEq, by rw [callEq]⟩
      · obtain ⟨old, oldMember, oldId, oldCall⟩ := invariant.live holding older
        have still : (old.id, old.call) ∈ moved.map fun entry =>
            (entry.id, entry.call) := by
          rw [kept]
          exact List.mem_map_of_mem oldMember
        obtain ⟨entry, entryMember, same⟩ := List.mem_map.mp still
        obtain ⟨sameId, sameCall⟩ := Prod.mk.inj same
        exact ⟨entry, List.mem_cons_of_mem _ entryMember, by rw [sameId, oldId],
          by rw [sameCall, oldCall]⟩
  · right
    have reordered : (id :: (mgr.hosts.map (·.id) ++ dummies)).Perm
        (mgr.hosts.map (·.id) ++ id :: dummies) :=
      List.perm_middle.symm
    refine ⟨failed, errno, _, equation, reordered.nodup_iff.mp nodup, ?_,
      reordered.length_eq ▸ counted, bounded, ?_, invariant.heldNodup,
      invariant.live, invariant.faithful⟩
    · intro other member
      exact below other (reordered.mem_iff.mpr member)
    · simp only
      omega

/-! ## Deleting a host entry -/

/-- A live entry is found by its id, and only by it. -/
theorem hostById_eq_some
    (invariant : HostInv budget mgr held)
    {l3EgressId : Int}
    {e : HostEntry} :
    hostById mgr l3EgressId = some e ↔
      e ∈ mgr.hosts ∧ e.id = sizeT l3EgressId :=
  KeyedList.find?_key_eq_some invariant.live_idsNodup

/-- A delete through an id that no holding has keeps the holdings. -/
theorem deleteHostEntry_spec
    (invariant : HostInv budget mgr held)
    (xdk : Outcome)
    {l3EgressId : Int}
    (unheld : sizeT l3EgressId ∉ held.map Prod.fst) :
    HostInv budget (deleteHostEntry xdk mgr l3EgressId).2 held := by
  unfold deleteHostEntry
  cases found : hostById mgr l3EgressId with
  | none => exact invariant
  | some e =>
      obtain ⟨_, idEq⟩ := invariant.hostById_eq_some.mp found
      have split : mgr.hosts.Perm
          (e :: mgr.hosts.eraseP (·.id == sizeT l3EgressId)) :=
        KeyedList.perm_cons_eraseP found
      have reordered : (mgr.hosts.map (·.id) ++ mgr.dummyHostList).Perm
          ((mgr.hosts.eraseP (·.id == sizeT l3EgressId)).map (·.id) ++
            e.id :: mgr.dummyHostList) :=
        ((split.map (·.id)).append_right _).trans List.perm_middle.symm
      have removed : HostInv budget (hostEntryFree
          { mgr with hosts := mgr.hosts.eraseP (·.id == sizeT l3EgressId) } e.id)
          held := by
        refine ⟨reordered.nodup_iff.mp invariant.idsNodup, ?_,
          reordered.length_eq ▸ invariant.counted, invariant.bounded, ?_,
          invariant.heldNodup, ?_, invariant.faithful⟩
        · intro id member
          exact invariant.idsBelow id (reordered.mem_iff.mpr member)
        · have room := invariant.room
          have shorter := split.length_eq
          simp only [List.length_cons] at shorter
          simp only [hostEntryFree]
          omega
        · intro holding member
          obtain ⟨entry, entryMember, entryId, entryCall⟩ :=
            invariant.live holding member
          rcases List.mem_cons.mp (split.mem_iff.mp entryMember) with rfl | stays
          · exact absurd
              (List.mem_map.mpr ⟨holding, member, entryId.symm.trans idEq⟩) unheld
          · exact ⟨entry, stays, entryId, entryCall⟩
      simp only
      split
      · exact ⟨removed.idsNodup, removed.idsBelow, removed.counted,
          removed.bounded, removed.room, removed.heldNodup, removed.live,
          removed.faithful⟩
      · exact removed

/-- A `uint32_t` read as an `int` and widened: below `2 ^ 31` it is the id
again, and from there on it is no id at all. -/
theorem sizeT_toInt32 {id : Nat} (bounded : id < 2 ^ 32) :
    sizeT (toInt32 id) = if id < 2 ^ 31 then id else id + (2 ^ 64 - 2 ^ 32) := by
  unfold sizeT toInt32
  split <;> omega

/-- The id a holding names, read as an `int`, finds the entry of the holding or
none. -/
theorem hostById_holding
    {holding : Holding}
    (invariant : HostInv budget mgr (holding :: rest)) :
    sizeT (toInt32 holding.1) ∉ rest.map Prod.fst ∧
      ∀ e, hostById mgr (toInt32 holding.1) = some e → some e.call = holding.2 := by
  obtain ⟨own, ownMember, ownId, ownCall⟩ :=
    invariant.live holding List.mem_cons_self
  have wide := invariant.bounded
  have isSmall : ∀ e ∈ mgr.hosts, e.id < 2 ^ 32 := by
    intro e member
    have below := invariant.idsBelow e.id
      (List.mem_append_left _ (List.mem_map_of_mem member))
    omega
  have widened := sizeT_toInt32 (ownId ▸ isSmall own ownMember)
  have readBack : ∀ e ∈ mgr.hosts, e.id = sizeT (toInt32 holding.1) →
      e.id = holding.1 := by
    intro e member equal
    have bounded := isSmall e member
    rw [widened] at equal
    split at equal
    · exact equal
    · omega
  constructor
  · intro member
    obtain ⟨other, otherMember, otherId⟩ := List.mem_map.mp member
    obtain ⟨e, entryMember, entryId, _⟩ :=
      invariant.live other (List.mem_cons_of_mem _ otherMember)
    have same := readBack e entryMember (entryId.trans otherId)
    have fresh := (List.nodup_cons.mp invariant.heldNodup).1
    apply fresh
    rw [← same, entryId]
    exact List.mem_map_of_mem otherMember
  · intro e found
    obtain ⟨member, idEq⟩ := invariant.hostById_eq_some.mp found
    have same : e = own := List.inj_on_of_nodup_map invariant.live_idsNodup member
      ownMember ((readBack e member idEq).trans ownId.symm)
    rw [same, ownCall]

/-- Deleting a record's host entry gives up the record's holding only. -/
theorem deleteRecord_spec
    {addr : NetAddr}
    (invariant : HostInv budget mgr (addr.holding :: rest))
    (xdk : Outcome) :
    HostInv budget (deleteRecord xdk mgr addr) rest := by
  obtain ⟨unheld, own⟩ := invariant.hostById_holding
  have others : HostInv budget mgr rest :=
    invariant.sublist (List.sublist_cons_self _ _)
  have after := others.deleteHostEntry_spec xdk unheld
  refine ⟨after.idsNodup, after.idsBelow, after.counted, after.bounded, after.room,
    after.heldNodup, after.live, ?_⟩
  intro removal member
  rcases List.mem_cons.mp member with rfl | older
  · cases found : hostById mgr (toInt32 addr.id) with
    | none => exact .inl rfl
    | some e =>
        right
        exact own e found
  · exact after.faithful removal older

theorem foldl_deleteRecord
    (xdk : Outcome)
    (addrs : List NetAddr)
    (invariant : HostInv budget mgr (addrs.map NetAddr.holding ++ rest)) :
    HostInv budget (addrs.foldl (deleteRecord xdk) mgr) rest := by
  induction addrs generalizing mgr with
  | nil => exact invariant
  | cons addr addrs inductionHypothesis =>
      exact inductionHypothesis (invariant.deleteRecord_spec xdk)

/-! ## The addresses of a bundle -/

/-- A record whose add succeeds has a holding. -/
theorem addForRecord_spec
    {isIpv6 : Bool}
    {addr : NetAddr}
    (invariant : HostInv (budget + 1) mgr rest)
    (succeeds : AddsSucceed env xdk isIpv6 [addr.address]) :
    HostInv budget (addForRecord env xdk mgr isIpv6 addr).2
      ((addForRecord env xdk mgr isIpv6 addr).1.holding :: rest) := by
  unfold addForRecord
  rcases invariant.addHostEntry_spec env xdk
      { portIntfId := env.invalidId, isIpv6Addr := isIpv6, ipAddr := addr.address,
        nextHopMacAddr := none, l3IntfId := env.invalidId, vid := 0,
        isLocal := true } with
    ⟨id, after, equation, counted, held⟩ | ⟨unparsed | refused, _⟩
  · rw [equation]
    simpa [NetAddr.holding, counted] using held
  · exact absurd unparsed (succeeds.parsed _ List.mem_cons_self)
  · exact absurd refused (succeeds.answered _)

theorem primaryReconfigure_spec
    {isIpv6 : Bool}
    {current : Option NetAddr}
    {requested : Option String}
    (invariant : HostInv (budget + 1) mgr
      (current.toList.map NetAddr.holding ++ rest))
    (succeeds : AddsSucceed env xdk isIpv6 requested.toList) :
    HostInv budget
      (primaryReconfigure env xdk isIpv6 mgr current requested).2
      ((primaryReconfigure env xdk isIpv6 mgr current requested).1.toList.map
        NetAddr.holding ++ rest) := by
  cases requested with
  | none =>
      cases current with
      | none => exact invariant.spend (Nat.le_succ _)
      | some addr => exact (invariant.deleteRecord_spec xdk).spend (Nat.le_succ _)
  | some address =>
      cases current with
      | none => exact addForRecord_spec invariant succeeds
      | some addr =>
          unfold primaryReconfigure
          by_cases changed : addr.address ≠ address
          · simp only [if_pos changed]
            exact addForRecord_spec (invariant.deleteRecord_spec xdk) succeeds
          · simp only [if_neg changed]
            exact invariant.spend (Nat.le_succ _)

theorem addSecondary_spec
    {isIpv6 : Bool}
    {secondary : List NetAddr}
    {address : String}
    (invariant : HostInv (budget + 1) mgr (secondary.map NetAddr.holding ++ rest))
    (succeeds : AddsSucceed env xdk isIpv6 [address]) :
    HostInv budget (addSecondary env xdk isIpv6 (secondary, mgr) address).2
      ((addSecondary env xdk isIpv6 (secondary, mgr) address).1.map
        NetAddr.holding ++ rest) := by
  unfold addSecondary
  cases portIpAddrFind secondary address with
  | some addr => exact invariant.spend (Nat.le_succ _)
  | none => exact addForRecord_spec invariant succeeds

theorem foldl_addSecondary
    {isIpv6 : Bool}
    (addresses : List String)
    {secondary : List NetAddr}
    (invariant : HostInv (budget + addresses.length) mgr
      (secondary.map NetAddr.holding ++ rest))
    (succeeds : AddsSucceed env xdk isIpv6 addresses) :
    HostInv budget
      (addresses.foldl (addSecondary env xdk isIpv6) (secondary, mgr)).2
      ((addresses.foldl (addSecondary env xdk isIpv6) (secondary, mgr)).1.map
        NetAddr.holding ++ rest) := by
  induction addresses generalizing mgr secondary with
  | nil => exact invariant
  | cons address addresses inductionHypothesis =>
      have first := addSecondary_spec invariant
        ⟨fun other member => succeeds.parsed other
          (List.mem_cons.mpr (.inl (List.mem_singleton.mp member))),
          succeeds.answered⟩
      exact inductionHypothesis first
        ⟨fun other member => succeeds.parsed other (List.mem_cons_of_mem _ member),
          succeeds.answered⟩

/-- The requested addresses without repetitions. -/
theorem foldl_shashAddOnce (requested known : List String) :
    (requested.foldl shashAddOnce known).length ≤ known.length + requested.length ∧
      ∀ address ∈ requested.foldl shashAddOnce known,
        address ∈ known ∨ address ∈ requested := by
  induction requested generalizing known with
  | nil => exact ⟨Nat.le_refl _, fun _ member => .inl member⟩
  | cons head requested inductionHypothesis =>
      obtain ⟨short, origin⟩ := inductionHypothesis (shashAddOnce known head)
      have stepLength : (shashAddOnce known head).length ≤ known.length + 1 := by
        unfold shashAddOnce
        split <;> simp
      have stepOrigin : ∀ address ∈ shashAddOnce known head,
          address ∈ known ∨ address = head := by
        unfold shashAddOnce
        split <;> simp +contextual
      constructor
      · simp only [List.foldl_cons, List.length_cons]
        omega
      · intro address member
        rcases origin address member with old | later
        · rcases stepOrigin address old with before | rfl
          · exact .inl before
          · exact .inr List.mem_cons_self
        · exact .inr (List.mem_cons_of_mem _ later)

theorem portConfigSecondaryAddr_spec
    {isIpv6 : Bool}
    {secondary : List NetAddr}
    {requested : List String}
    (invariant : HostInv (budget + requested.length) mgr
      (secondary.map NetAddr.holding ++ rest))
    (succeeds : AddsSucceed env xdk isIpv6 requested) :
    HostInv budget
      (portConfigSecondaryAddr env xdk isIpv6 mgr secondary requested).2
      ((portConfigSecondaryAddr env xdk isIpv6 mgr secondary requested).1.map
        NetAddr.holding ++ rest) := by
  unfold portConfigSecondaryAddr
  obtain ⟨short, origin⟩ := foldl_shashAddOnce requested []
  generalize requested.foldl shashAddOnce [] = newIpList at short origin
  simp only
  have split : (secondary.map NetAddr.holding ++ rest).Perm
      (((xdk.addrOrder.visit secondary).filter (·.address ∉ newIpList)).map
        NetAddr.holding ++
        ((secondary.filter (·.address ∈ newIpList)).map NetAddr.holding ++ rest)) := by
    rw [← List.append_assoc, ← List.map_append]
    refine (List.Perm.map _ ?_).append_right _
    refine (List.filter_append_perm (·.address ∈ newIpList) secondary).symm.trans ?_
    refine List.perm_append_comm.trans (List.Perm.append_right _ ?_)
    simpa using ((xdk.addrOrder.perm secondary).filter (·.address ∉ newIpList)).symm
  have deleted := foldl_deleteRecord xdk _ (invariant.perm split)
  refine foldl_addSecondary _ (deleted.spend ?_) ⟨?_, succeeds.answered⟩
  · have sameLength := xdk.shashOrder.length_visit newIpList
    simp only [List.length_nil] at short
    omega
  · intro address member
    rcases origin address (xdk.shashOrder.mem_visit.mp member) with none | asked
    · exact absurd none List.not_mem_nil
    · exact succeeds.parsed address asked

theorem rotate
    {first others : List Holding}
    (invariant : HostInv budget mgr (first ++ others)) :
    HostInv budget mgr (others ++ first) :=
  invariant.perm List.perm_append_comm

/-- The primary address of a family, where it may have changed. -/
theorem primaryStage
    (changed isIpv6 : Bool)
    (current : Option NetAddr)
    (requested : Option String)
    (invariant : HostInv (budget + 1) mgr
      (current.toList.map NetAddr.holding ++ rest))
    (succeeds : changed → AddsSucceed env xdk isIpv6 requested.toList) :
    let stage :=
      if changed then primaryReconfigure env xdk isIpv6 mgr current requested
      else (current, mgr)
    HostInv budget stage.2 (stage.1.toList.map NetAddr.holding ++ rest) := by
  cases changed with
  | false => exact invariant.spend (Nat.le_succ _)
  | true => exact primaryReconfigure_spec invariant (succeeds rfl)

/-- The secondary addresses of a family, where they may have changed. -/
theorem secondaryStage
    (changed isIpv6 : Bool)
    (secondary : List NetAddr)
    (requested : List String)
    (invariant : HostInv (budget + requested.length) mgr
      (secondary.map NetAddr.holding ++ rest))
    (succeeds : changed → AddsSucceed env xdk isIpv6 requested) :
    let stage :=
      if changed then portConfigSecondaryAddr env xdk isIpv6 mgr secondary requested
      else (secondary, mgr)
    HostInv budget stage.2 (stage.1.map NetAddr.holding ++ rest) := by
  cases changed with
  | false => exact invariant.spend (Nat.le_add_right _ _)
  | true => exact portConfigSecondaryAddr_spec invariant (succeeds rfl)

/-- A reconfiguration whose adds succeed leaves each record of the bundle with
its own entry. -/
theorem portIpReconfigure_spec
    {ips : BundleIps}
    {s : Settings}
    (invariant : HostInv s.adds mgr (ips.records.map NetAddr.holding ++ rest))
    (succeeds : s.Succeed env xdk) :
    HostInv 0 (portIpReconfigure env xdk mgr ips s).2
      ((portIpReconfigure env xdk mgr ips s).1.records.map NetAddr.holding ++
        rest) := by
  have budgeted : s.adds =
      0 + s.ip6AddressSecondary.length + s.ip4AddressSecondary.length + 1 + 1 := by
    unfold Settings.adds
    omega
  simp only [budgeted, BundleIps.records, List.map_append, List.append_assoc]
    at invariant ⊢
  have ip4addr := primaryStage s.primaryIpv4Changed false ips.ip4addr s.ip4Address
    invariant succeeds.primaryIpv4
  have turned := ip4addr.rotate
  simp only [List.append_assoc] at turned
  have ip6addr := primaryStage s.primaryIpv6Changed true ips.ip6addr s.ip6Address
    turned succeeds.primaryIpv6
  have turned := ip6addr.rotate
  simp only [List.append_assoc] at turned
  have secondaryIp4addr := secondaryStage s.secondaryIpv4Changed false
    ips.secondaryIp4addr s.ip4AddressSecondary turned succeeds.secondaryIpv4
  have turned := secondaryIp4addr.rotate
  simp only [List.append_assoc] at turned
  have secondaryIp6addr := secondaryStage s.secondaryIpv6Changed true
    ips.secondaryIp6addr s.ip6AddressSecondary turned succeeds.secondaryIpv6
  have turned := secondaryIp6addr.rotate
  simp only [List.append_assoc] at turned
  have turned := turned.rotate
  simp only [List.append_assoc] at turned
  exact turned

/-- Destroying a bundle without secondary IPv6 addresses gives up the holdings
of its records. -/
theorem portUnconfigureIps_spec
    {ips : BundleIps}
    (xdk : Outcome)
    (invariant : HostInv budget mgr (ips.records.map NetAddr.holding ++ rest))
    (noSecondary : ips.secondaryIp6addr = []) :
    HostInv budget (portUnconfigureIps xdk mgr ips) rest := by
  have reordered : (ips.records.map NetAddr.holding ++ rest).Perm
      (ips.ip4addr.toList.map NetAddr.holding ++
        ((xdk.addrOrder.visit ips.secondaryIp4addr).map NetAddr.holding ++
          (ips.ip6addr.toList.map NetAddr.holding ++ rest))) := by
    simp only [BundleIps.records, noSecondary, List.append_nil, List.map_append,
      List.append_assoc]
    refine List.Perm.append_left _ ?_
    rw [← List.append_assoc, ← List.append_assoc]
    refine List.Perm.append_right _ (List.perm_append_comm.trans ?_)
    exact ((xdk.addrOrder.perm _).symm.map _).append_right _
  have primary := foldl_deleteRecord xdk _ (invariant.perm reordered)
  have secondary := foldl_deleteRecord xdk _ primary
  have deleted := foldl_deleteRecord xdk _ secondary
  unfold portUnconfigureIps
  rw [noSecondary, xdk.addrOrder.visit_nil]
  exact deleted

end HostInv

/-! ## Runs -/

/-- What a neighbour holds. -/
def Neighbour.holding (neighbour : Neighbour) : Holding :=
  (neighbour.id, some neighbour.call)

/-- The holdings of the records of some bundles. -/
def bundlesHeld (bundles : List (Nat × BundleIps)) : List Holding :=
  bundles.flatMap fun bundle => bundle.2.records.map NetAddr.holding

/-- The holdings of a system. -/
def System.held (system : System) : List Holding :=
  bundlesHeld system.bundles ++ system.neighbours.map Neighbour.holding

/-- The invariant of a system. -/
structure SystemInv (system : System) : Prop where
  bundlesNodup : (system.bundles.map Prod.fst).Nodup
  hosts : HostInv 0 system.mgr system.held

/-- A manager as it is created, before there are bundles and neighbours. -/
def initial (vrfId : Nat) : System :=
  { mgr := l3MgrCreate vrfId, bundles := [], neighbours := [] }

/-- Operations that stay clear of the defects: the adds for addresses of bundles
succeed, a destroyed bundle has no secondary IPv6 address, fewer than `2 ^ 32`
entries are live, and a remote delete is for the entry of a neighbour. -/
def Admissible (env : Env) (system : System) (operation : Operation) : Prop :=
  match operation.event with
  | .reconfigure _ s =>
      s.Succeed env operation.xdk ∧ system.mgr.hosts.length + s.adds ≤ 2 ^ 32
  | .destroy bundle => (system.ips bundle).secondaryIp6addr = []
  | .remoteAdd _ => system.mgr.hosts.length + 1 ≤ 2 ^ 32
  | .remoteDelete l3EgressId =>
      ∃ neighbour ∈ system.neighbours, neighbour.l3EgressId = l3EgressId

/-- The holdings of one bundle in front of the others. -/
theorem System.held_perm
    {system : System}
    (nodup : (system.bundles.map Prod.fst).Nodup)
    (bundle : Nat) :
    system.held.Perm ((system.ips bundle).records.map NetAddr.holding ++
      (bundlesHeld (KeyedList.remove Prod.fst bundle system.bundles) ++
        system.neighbours.map Neighbour.holding)) := by
  rw [← List.append_assoc]
  refine List.Perm.append_right _ ?_
  unfold System.ips
  cases found : system.bundles.find? (·.1 == bundle) with
  | none =>
      have absent : ∀ other ∈ system.bundles, other.1 ≠ bundle := by
        intro other member
        simpa using List.find?_eq_none.mp found other member
      rw [KeyedList.remove_of_absent absent]
      exact List.Perm.refl _
  | some pair =>
      obtain ⟨member, selected⟩ := (KeyedList.find?_key_eq_some nodup).mp found
      exact (KeyedList.perm_cons_remove nodup member selected).flatMap_right _

namespace SystemInv

variable {env : Env} {system : System} {xdk : Outcome}

theorem base (vrfId : Nat) : SystemInv (initial vrfId) where
  bundlesNodup := List.nodup_nil
  hosts :=
    { idsNodup := List.nodup_nil
      idsBelow := fun _ member => absurd member List.not_mem_nil
      counted := rfl
      bounded := Nat.zero_le _
      room := Nat.zero_le _
      heldNodup := List.nodup_nil
      live := fun _ member => absurd member List.not_mem_nil
      faithful := fun _ member => absurd member List.not_mem_nil }

/-- The invariant with the holdings of one bundle in front. -/
theorem focus (invariant : SystemInv system) (bundle : Nat) :
    HostInv 0 system.mgr ((system.ips bundle).records.map NetAddr.holding ++
      (bundlesHeld (KeyedList.remove Prod.fst bundle system.bundles) ++
        system.neighbours.map Neighbour.holding)) :=
  invariant.hosts.perm (System.held_perm invariant.bundlesNodup bundle)

theorem reconfigure
    (invariant : SystemInv system)
    (bundle : Nat)
    {s : Settings}
    (admissible : Admissible env system ⟨.reconfigure bundle s, xdk⟩) :
    SystemInv (step env system ⟨.reconfigure bundle s, xdk⟩) := by
  obtain ⟨succeeds, room⟩ := admissible
  constructor
  · refine List.nodup_cons.mpr ⟨?_, KeyedList.nodup_remove invariant.bundlesNodup⟩
    intro member
    obtain ⟨other, otherMember, same⟩ := List.mem_map.mp member
    exact (KeyedList.mem_remove.mp otherMember).2 same
  · have after := HostInv.portIpReconfigure_spec
      ((invariant.focus bundle).rebudget room) succeeds
    rw [← List.append_assoc] at after
    exact after

theorem destroy
    (invariant : SystemInv system)
    (bundle : Nat)
    (admissible : Admissible env system ⟨.destroy bundle, xdk⟩) :
    SystemInv (step env system ⟨.destroy bundle, xdk⟩) where
  bundlesNodup := KeyedList.nodup_remove invariant.bundlesNodup
  hosts := HostInv.portUnconfigureIps_spec xdk (invariant.focus bundle) admissible

theorem remoteAdd
    (invariant : SystemInv system)
    {args : AddArgs}
    (admissible : Admissible env system ⟨.remoteAdd args, xdk⟩) :
    SystemInv (step env system ⟨.remoteAdd args, xdk⟩) := by
  have budgeted : HostInv (0 + 1) system.mgr system.held :=
    invariant.hosts.rebudget admissible
  simp only [step]
  rcases budgeted.addHostEntry_spec env xdk { args with isLocal := false } with
    ⟨id, after, equation, counted, held⟩ | ⟨_, errno, after, equation, held⟩
  · rw [equation]
    refine ⟨invariant.bundlesNodup, held.perm ?_⟩
    simp only [counted, Nat.add_sub_cancel]
    exact List.perm_middle.symm
  · rw [equation]
    exact ⟨invariant.bundlesNodup, held⟩

/-- The neighbours without those of one id, seen from one that is dropped. -/
theorem neighbours_perm
    {neighbours : List Neighbour}
    {neighbour : Neighbour}
    (member : neighbour ∈ neighbours) :
    ∃ dropped, neighbours.Perm (neighbour :: (dropped ++
      KeyedList.remove Neighbour.l3EgressId neighbour.l3EgressId neighbours)) := by
  let same : Neighbour → Bool := fun other =>
    other.l3EgressId == neighbour.l3EgressId
  have selected : neighbour ∈ neighbours.filter same :=
    List.mem_filter.mpr ⟨member, beq_self_eq_true _⟩
  refine ⟨(neighbours.filter same).erase neighbour, ?_⟩
  refine (List.filter_append_perm same neighbours).symm.trans ?_
  exact (List.perm_cons_erase selected).append_right _

theorem remoteDelete
    (invariant : SystemInv system)
    {l3EgressId : Int}
    (admissible : Admissible env system ⟨.remoteDelete l3EgressId, xdk⟩) :
    SystemInv (step env system ⟨.remoteDelete l3EgressId, xdk⟩) := by
  obtain ⟨neighbour, member, rfl⟩ := admissible
  obtain ⟨dropped, split⟩ := neighbours_perm member
  have reordered : system.held.Perm (neighbour.holding ::
      (dropped.map Neighbour.holding ++ (bundlesHeld system.bundles ++
        (KeyedList.remove Neighbour.l3EgressId neighbour.l3EgressId
          system.neighbours).map Neighbour.holding))) := by
    refine ((split.map Neighbour.holding).append_left _).trans ?_
    refine List.perm_middle.trans (List.Perm.cons _ ?_)
    rw [List.map_append, ← List.append_assoc, ← List.append_assoc]
    exact List.perm_append_comm.append_right _
  have focused := invariant.hosts.perm reordered
  have unheld := focused.hostById_holding.1
  have kept := focused.sublist
    ((List.sublist_append_right _ _).trans (List.sublist_cons_self _ _))
  refine ⟨invariant.bundlesNodup, kept.deleteHostEntry_spec xdk ?_⟩
  intro again
  apply unheld
  rw [List.map_append]
  exact List.mem_append_right _ again

theorem preserved
    (invariant : SystemInv system)
    (operation : Operation)
    (admissible : Admissible env system operation) :
    SystemInv (step env system operation) := by
  obtain ⟨event, xdk⟩ := operation
  cases event with
  | reconfigure bundle s => exact invariant.reconfigure bundle admissible
  | destroy bundle => exact invariant.destroy bundle admissible
  | remoteAdd args => exact invariant.remoteAdd admissible
  | remoteDelete l3EgressId => exact invariant.remoteDelete admissible

end SystemInv

/-- In every run of admissible operations, each delete for an address record
removed the entry of the record's latest successful add or nothing. -/
theorem removalsFaithful_of_reached
    {env : Env}
    {vrfId : Nat}
    {system : System}
    (reached : Transition.Reach (· = initial vrfId) (Admissible env) (step env)
      system) :
    RemovalsFaithful system.mgr := by
  have invariant : SystemInv system := by
    refine reached.invariant SystemInv ?_ ?_
    · rintro state rfl
      exact SystemInv.base vrfId
    · intro state operation invariant admissible
      exact invariant.preserved operation admissible
  exact invariant.hosts.faithful

/-- An environment that parses two addresses and one MAC address. -/
def sampleEnv : Env where
  stringToPrefix isIpv6 address :=
    if isIpv6 then none
    else if address = "10.0.0.1/24" then some ([1, 0, 0, 10], 24)
    else if address = "10.0.1.1/24" then some ([1, 1, 0, 10], 24)
    else none
  etherAton mac := if mac = "00:00:00:00:00:02" then some #v[0, 0, 0, 0, 0, 2] else none
  hostTableHit := 1
  zeroCmd := .fwd
  invalidId := 0

/-- The XDK places each new entry at the index of its call, or refuses it. -/
def sampleXdk (accepts : Bool) : Outcome where
  addIpHostEntry call := if accepts then some (call, call) else none
  removeIpHostEntryByIndex _ := true
  addrOrder := .id
  shashOrder := .id
  freedId _ := 0

/-- A new primary IPv4 address. -/
def primarySettings (address : String) : Settings where
  primaryIpv4Changed := true
  primaryIpv6Changed := false
  secondaryIpv4Changed := false
  secondaryIpv6Changed := false
  ip4Address := some address
  ip6Address := none
  ip4AddressSecondary := []
  ip6AddressSecondary := []

/-- A neighbour behind an interface. -/
def sampleNeighbour : AddArgs where
  portIntfId := 1
  isIpv6Addr := false
  ipAddr := "10.0.1.1/24"
  nextHopMacAddr := some "00:00:00:00:00:02"
  l3IntfId := 2
  vid := 1
  isLocal := false

/-- An address is configured next to a neighbour, changed and unconfigured. -/
def ownedRun : List Operation :=
  [⟨.reconfigure 0 (primarySettings "10.0.0.1/24"), sampleXdk true⟩,
   ⟨.remoteAdd sampleNeighbour, sampleXdk true⟩,
   ⟨.reconfigure 0 (primarySettings "10.0.1.1/24"), sampleXdk true⟩,
   ⟨.remoteDelete 1, sampleXdk true⟩,
   ⟨.destroy 0, sampleXdk true⟩]

theorem removalsFaithful_ownedRun :
    RemovalsFaithful (Transition.run (step sampleEnv) (initial 0) ownedRun).mgr := by
  have start : Transition.Reach (· = initial 0) (Admissible sampleEnv)
      (step sampleEnv) (initial 0) := .start rfl
  have succeeds : ∀ address, sampleEnv.stringToPrefix false address ≠ none →
      (primarySettings address).Succeed sampleEnv (sampleXdk true) := by
    intro address parsed
    refine ⟨fun _ => ⟨?_, fun call => Option.some_ne_none _⟩, ?_, ?_, ?_⟩
    · intro other member
      rw [List.mem_singleton.mp member]
      exact parsed
    all_goals
      intro changed
      exact Bool.noConfusion changed
  refine removalsFaithful_of_reached (start.of_run ⟨?_, ?_, ?_, ?_, ?_, trivial⟩)
  · exact ⟨succeeds _ (by decide), by decide⟩
  · show _ ≤ _
    decide
  · exact ⟨succeeds _ (by decide), by decide⟩
  · exact ⟨⟨1, 1⟩, by decide, by decide⟩
  · show _ = _
    decide

/-- A bundle gets an address, the add for the address of another bundle fails,
and that other bundle is destroyed. -/
def failedAddRun : List Operation :=
  [⟨.reconfigure 0 (primarySettings "10.0.0.1/24"), sampleXdk true⟩,
   ⟨.reconfigure 1 (primarySettings "10.0.1.1/24"), sampleXdk false⟩,
   ⟨.destroy 1, sampleXdk true⟩]

/-- The record whose add failed keeps the id zero, so its delete removes the
host entry of the first bundle. -/
theorem not_removalsFaithful_failedAddRun :
    ¬ RemovalsFaithful
      (Transition.run (step sampleEnv) (initial 0) failedAddRun).mgr := by
  intro faithful
  have noted : ⟨none, some 0⟩ ∈
      (Transition.run (step sampleEnv) (initial 0) failedAddRun).mgr.removals := by
    decide
  have wrong := faithful ⟨none, some 0⟩ noted
  simp at wrong

end Hosts
end XpliantSwitchd
