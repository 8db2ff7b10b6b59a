import Mathlib.Data.Finset.Card
import Mathlib.Data.List.Dedup
import XpliantSwitchd.Hosts.Table
import XpliantSwitchd.Hosts.Unconfigure

/-!
# Reconciling the secondary addresses of a bundle

`port_config_secondary_ipv4_addr` and `port_config_secondary_ipv6_addr` compare
the address records of a bundle with a list of requested addresses.  They delete
the host entries of the addresses that are not requested any more and add entries
for the new ones.  The ids that the deletes give back are the first that the adds
take.
-/

namespace XpliantSwitchd
namespace Hosts

/-! ## Adding entries -/

/-- A host entry but for its index, which the hardware changes when it moves the
entry. -/
def HostEntry.unplaced (e : HostEntry) : HostEntry := { e with index := 0 }

/-- The arguments of an add for an address of a bundle. -/
def localArgs (env : Env) (isIpv6 : Bool) (address : String) : AddArgs where
  portIntfId := env.invalidId
  isIpv6Addr := isIpv6
  ipAddr := address
  nextHopMacAddr := none
  l3IntfId := env.invalidId
  vid := 0
  isLocal := true

/-- A host entry was made for an address record. -/
structure MadeFor (env : Env) (mgr : HostMgr) (isIpv6 : Bool) (addr : NetAddr)
    (e : HostEntry) : Prop where
  id : e.id = addr.id
  call : some e.call = addr.owner
  family : e.isIpv6Addr = isIpv6
  parsed : (env.stringToPrefix isIpv6 addr.address).map Prod.fst = some e.destAddr
  xpHost : e.xpHost =
    requestedHost env mgr (localArgs env isIpv6 addr.address) e.destAddr

/-- All ids, live or free, fit into 32 bits. -/
def IdsFit (mgr : HostMgr) : Prop :=
  ∀ id ∈ mgr.hosts.map (·.id) ++ mgr.dummyHostList, id < 2 ^ 32

/-- Host entries were added for some records, and nothing else changed but for the
places of the other entries.  Ids stay distinct while there is room. -/
structure Adds (env : Env) (isIpv6 : Bool) (mgr : HostMgr) (added : List NetAddr)
    (fresh : List HostEntry) (after : HostMgr) : Prop where
  made : List.Forall₂ (MadeFor env mgr isIpv6) added fresh
  hosts : after.hosts.map HostEntry.unplaced =
    fresh.map HostEntry.unplaced ++ mgr.hosts.map HostEntry.unplaced
  hw : after.hw.map Prod.snd = fresh.map (·.xpHost) ++ mgr.hw.map Prod.snd
  vrfId : after.vrfId = mgr.vrfId
  idsFit : IdsFit mgr → IdsFit after
  allocated : Allocated mgr → mgr.hosts.length + added.length ≤ 2 ^ 32 →
    Allocated after

theorem MadeFor.congr
    {env : Env}
    {mgr other : HostMgr}
    {isIpv6 : Bool}
    {addr : NetAddr}
    {e : HostEntry}
    (sameVrf : other.vrfId = mgr.vrfId)
    (made : MadeFor env other isIpv6 addr e) :
    MadeFor env mgr isIpv6 addr e where
  id := made.id
  call := made.call
  family := made.family
  parsed := made.parsed
  xpHost := by
    rw [made.xpHost]
    unfold requestedHost
    rw [sameVrf]

namespace Adds

variable {env : Env} {xdk : Outcome} {isIpv6 : Bool} {mgr middle after : HostMgr}
  {added later : List NetAddr} {fresh newer : List HostEntry}

theorem nil (env : Env) (isIpv6 : Bool) (mgr : HostMgr) : Adds env isIpv6 mgr [] [] mgr where
  made := .nil
  hosts := rfl
  hw := rfl
  vrfId := rfl
  idsFit fit := fit
  allocated allocated _ := allocated

theorem length_eq (adds : Adds env isIpv6 mgr added fresh after) :
    after.hosts.length = added.length + mgr.hosts.length := by
  have counted := congrArg List.length adds.hosts
  simp only [List.length_map, List.length_append] at counted
  rw [counted, adds.made.length_eq]

/-- The ids of the live entries. -/
theorem map_id (adds : Adds env isIpv6 mgr added fresh after) :
    after.hosts.map (·.id) = fresh.map (·.id) ++ mgr.hosts.map (·.id) := by
  have projected := congrArg (List.map fun e : HostEntry => e.id) adds.hosts
  rw [List.map_append, List.map_map, List.map_map, List.map_map] at projected
  exact projected

theorem trans
    (first : Adds env isIpv6 mgr added fresh middle)
    (second : Adds env isIpv6 middle later newer after) :
    Adds env isIpv6 mgr (later ++ added) (newer ++ fresh) after where
  made := by
    refine List.rel_append ?_ first.made
    exact second.made.imp fun _ _ made => made.congr first.vrfId
  hosts := by
    rw [second.hosts, first.hosts, List.map_append, List.append_assoc]
  hw := by
    rw [second.hw, first.hw, List.map_append, List.append_assoc]
  vrfId := second.vrfId.trans first.vrfId
  idsFit fit := second.idsFit (first.idsFit fit)
  allocated := by
    intro allocated room
    have counted := first.length_eq
    rw [List.length_append] at room
    exact second.allocated (first.allocated allocated (by omega)) (by omega)

end Adds

/-- What an add does when the address is parsed and the hardware takes the
entry. -/
theorem addHostEntry_of_parsed
    {env : Env}
    {xdk : Outcome}
    {mgr : HostMgr}
    {args : AddArgs}
    {prefixed : List UInt8 × Nat}
    {indices : Nat × Nat}
    (parsed : env.stringToPrefix args.isIpv6Addr args.ipAddr = some prefixed)
    (answered : xdk.addIpHostEntry mgr.calls = some indices) :
    ∃ e moved,
      addHostEntry env xdk mgr args = (none, some (hostEntryAlloc mgr).1,
        { mgr with
          nextHostId := (hostEntryAlloc mgr).2.nextHostId
          dummyHostList := (hostEntryAlloc mgr).2.dummyHostList
          hosts := e :: moved
          hw := (indices.1, requestedHost env mgr args prefixed.1) ::
            relocate indices.1 indices.2 mgr.hw
          calls := mgr.calls + 1 }) ∧
      e.id = (hostEntryAlloc mgr).1 ∧ e.call = mgr.calls ∧
      e.isIpv6Addr = args.isIpv6Addr ∧ e.destAddr = prefixed.1 ∧
      e.xpHost = requestedHost env mgr args prefixed.1 ∧
      moved.map HostEntry.unplaced = mgr.hosts.map HostEntry.unplaced := by
  have counted : hostEntryAlloc { mgr with calls := mgr.calls + 1 } =
      ((hostEntryAlloc mgr).1, { mgr with
        nextHostId := (hostEntryAlloc mgr).2.nextHostId
        dummyHostList := (hostEntryAlloc mgr).2.dummyHostList
        calls := mgr.calls + 1 }) := by
    unfold hostEntryAlloc
    cases mgr.dummyHostList with
    | nil => rfl
    | cons first others => rfl
  unfold addHostEntry
  rw [counted]
  simp only [parsed, Nat.add_sub_cancel, answered]
  refine ⟨_, _, rfl, ?_, ?_, ?_, ?_, ?_, ?_⟩
  · rfl
  · rfl
  · rfl
  · rfl
  · rfl
  · split
    · exact KeyedList.map_rewrite fun _ _ _ => rfl
    · rfl

/-- An allocation takes an id that fits and leaves the others. -/
theorem IdsFit.hostEntryAlloc
    {mgr : HostMgr}
    (fit : IdsFit mgr) :
    ∀ id ∈ (hostEntryAlloc mgr).1 ::
      (mgr.hosts.map (·.id) ++ (hostEntryAlloc mgr).2.dummyHostList), id < 2 ^ 32 := by
  unfold Hosts.hostEntryAlloc
  unfold IdsFit at fit
  cases free : mgr.dummyHostList with
  | nil =>
      rw [free] at fit
      intro id member
      rcases List.mem_cons.mp member with rfl | old
      · exact Nat.mod_lt _ (by decide)
      · exact fit id old
  | cons first others =>
      rw [free] at fit
      intro id member
      exact fit id (List.perm_middle.mem_iff.mpr member)

/-- An add for a record that succeeds. -/
theorem Adds.addForRecord
    {env : Env}
    {xdk : Outcome}
    {isIpv6 : Bool}
    {addr : NetAddr}
    (mgr : HostMgr)
    (succeeds : AddsSucceed env xdk isIpv6 [addr.address]) :
    ∃ e,
      (Hosts.addForRecord env xdk mgr isIpv6 addr).1 =
        { addr with id := e.id, owner := some e.call } ∧
      Adds env isIpv6 mgr [(Hosts.addForRecord env xdk mgr isIpv6 addr).1] [e]
        (Hosts.addForRecord env xdk mgr isIpv6 addr).2 := by
  obtain ⟨prefixed, parsed⟩ :=
    Option.ne_none_iff_exists'.mp (succeeds.parsed _ List.mem_cons_self)
  obtain ⟨indices, answered⟩ :=
    Option.ne_none_iff_exists'.mp (succeeds.answered mgr.calls)
  obtain ⟨e, moved, equation, idEq, callEq, familyEq, destEq, hostEq, kept⟩ :=
    @addHostEntry_of_parsed env xdk mgr (localArgs env isIpv6 addr.address) prefixed
      indices parsed answered
  have record : Hosts.addForRecord env xdk mgr isIpv6 addr =
      ({ addr with id := e.id, owner := some e.call },
        { mgr with
          nextHostId := (hostEntryAlloc mgr).2.nextHostId
          dummyHostList := (hostEntryAlloc mgr).2.dummyHostList
          hosts := e :: moved
          hw := (indices.1, e.xpHost) :: relocate indices.1 indices.2 mgr.hw
          calls := mgr.calls + 1 }) := by
    rw [← hostEq] at equation
    unfold localArgs at equation
    unfold Hosts.addForRecord
    simp only [equation, idEq, callEq, Nat.add_sub_cancel]
  have idsKept : moved.map (·.id) = mgr.hosts.map (·.id) := by
    have projected := congrArg (List.map fun entry : HostEntry => entry.id) kept
    rwa [List.map_map, List.map_map] at projected
  refine ⟨e, by rw [record], ?_⟩
  rw [record]
  refine ⟨.cons ⟨rfl, rfl, familyEq, ?_, ?_⟩ .nil, ?_, ?_, rfl, ?_, ?_⟩
  · rw [parsed, destEq]
    rfl
  · rw [hostEq, destEq]
  · rw [List.map_cons, kept]
    rfl
  · rw [List.map_cons]
    refine congrArg _ ?_
    exact KeyedList.map_rewrite fun _ _ _ => rfl
  · intro fit
    show ∀ id ∈ (e.id :: moved.map (·.id)) ++ _, id < 2 ^ 32
    rw [idsKept, idEq]
    exact fit.hostEntryAlloc
  · intro allocated room
    obtain ⟨id, dummies, next, taken, counted, bounded, nodup, below⟩ :=
      allocated.hostEntryAlloc_spec room
    have ids : e.id :: moved.map (·.id) = id :: mgr.hosts.map (·.id) := by
      rw [idsKept, idEq, taken]
    rw [taken]
    refine ⟨?_, ?_, ?_, bounded⟩
    · show ((e.id :: moved.map (·.id)) ++ dummies).Nodup
      rwa [ids]
    · show ∀ other ∈ (e.id :: moved.map (·.id)) ++ dummies, other < next
      rwa [ids]
    · show ((e.id :: moved.map (·.id)) ++ dummies).length = next
      rwa [ids]

/-! ## The two loops -/

theorem portIpAddrFind_eq_none {secondary : List NetAddr} {address : String} :
    portIpAddrFind secondary address = none ↔ address ∉ secondary.map (·.address) := by
  simp [portIpAddrFind]

/-- The second loop adds an entry for each address without a record. -/
theorem Adds.foldl_addSecondary
    {env : Env}
    {xdk : Outcome}
    {isIpv6 : Bool}
    {addresses : List String}
    {records : List NetAddr}
    (mgr : HostMgr)
    (succeeds : AddsSucceed env xdk isIpv6 addresses)
    (distinct : addresses.Nodup) :
    ∃ added fresh,
      (addresses.foldl (addSecondary env xdk isIpv6) (records, mgr)).1 = added ++ records ∧
      Adds env isIpv6 mgr added fresh
        (addresses.foldl (addSecondary env xdk isIpv6) (records, mgr)).2 ∧
      added.map (·.address) =
        (addresses.filter fun address => address ∉ records.map (·.address)).reverse := by
  induction addresses generalizing mgr records with
  | nil => exact ⟨[], [], rfl, Adds.nil env isIpv6 mgr, rfl⟩
  | cons address addresses inductionHypothesis =>
      obtain ⟨unrepeated, distinctLater⟩ := List.nodup_cons.mp distinct
      have laterSucceed : AddsSucceed env xdk isIpv6 addresses :=
        ⟨fun other member => succeeds.parsed other (List.mem_cons_of_mem _ member),
          succeeds.answered⟩
      cases found : portIpAddrFind records address with
      | some known =>
          have present : address ∈ records.map (·.address) := by
            by_contra absent
            rw [portIpAddrFind_eq_none.mpr absent] at found
            contradiction
          have stays : addSecondary env xdk isIpv6 (records, mgr) address = (records, mgr) := by
            unfold addSecondary
            rw [found]
          rw [List.foldl_cons, stays, List.filter_cons_of_neg (by simpa using present)]
          exact inductionHypothesis mgr laterSucceed distinctLater
      | none =>
          have absent := portIpAddrFind_eq_none.mp found
          obtain ⟨e, record, first⟩ := @Adds.addForRecord env xdk isIpv6 (.new address) mgr
            ⟨fun other member => succeeds.parsed other
              (List.mem_cons.mpr (.inl (List.mem_singleton.mp member))), succeeds.answered⟩
          generalize stepped : Hosts.addForRecord env xdk mgr isIpv6 (.new address) = next
            at record first
          have grows : addSecondary env xdk isIpv6 (records, mgr) address =
              (next.1 :: records, next.2) := by
            unfold addSecondary
            rw [found]
            simp only [stepped]
          have named : next.1.address = address := by
            rw [record]
            rfl
          obtain ⟨added, fresh, result, adds, addresses'⟩ :=
            @inductionHypothesis (next.1 :: records) next.2 laterSucceed distinctLater
          rw [List.foldl_cons, grows]
          refine ⟨added ++ [next.1], fresh ++ [e], ?_, first.trans adds, ?_⟩
          · rw [result, List.append_assoc]
            rfl
          · rw [List.filter_cons_of_pos (by simpa using absent), List.reverse_cons,
              List.map_append, addresses', List.map_singleton, named]
            refine congrArg (fun list => List.reverse list ++ [address]) ?_
            refine List.filter_congr fun other member => ?_
            rw [decide_eq_decide, List.map_cons, List.mem_cons, named, not_or]
            refine and_iff_right ?_
            rintro rfl
            exact unrepeated member

/-- The requested addresses without repetitions. -/
theorem foldl_shashAddOnce_nodup
    (requested : List String)
    {known : List String}
    (distinct : known.Nodup) :
    (requested.foldl shashAddOnce known).Nodup ∧
      ∀ address, address ∈ requested.foldl shashAddOnce known ↔
        address ∈ known ∨ address ∈ requested := by
  induction requested generalizing known with
  | nil => exact ⟨distinct, fun address => by simp⟩
  | cons head requested inductionHypothesis =>
      have stepNodup : (shashAddOnce known head).Nodup := by
        unfold shashAddOnce
        split
        · exact distinct
        · rename_i absent
          exact List.nodup_append'.mpr ⟨distinct, List.nodup_singleton head,
            List.disjoint_singleton.mpr absent⟩
      have stepMem : ∀ address, address ∈ shashAddOnce known head ↔
          address ∈ known ∨ address = head := by
        intro address
        unfold shashAddOnce
        split
        · rename_i present
          constructor
          · exact .inl
          · rintro (old | rfl)
            · exact old
            · exact present
        · simp
      obtain ⟨nodup, members⟩ := inductionHypothesis stepNodup
      refine ⟨nodup, fun address => ?_⟩
      rw [List.foldl_cons, members, stepMem, List.mem_cons, or_assoc]

/-- The records whose address is not requested. -/
def droppedRecords (secondary : List NetAddr) (requested : List String) : List NetAddr :=
  secondary.filter (·.address ∉ requested)

/-- The requested addresses without a record. -/
def newAddresses (secondary : List NetAddr) (requested : List String) : List String :=
  requested.dedup.filter (· ∉ secondary.map (·.address))

/-- A reconciliation deletes in some order and then adds. -/
theorem portConfigSecondaryAddr_eq
    {env : Env}
    {xdk : Outcome}
    {isIpv6 : Bool}
    {secondary : List NetAddr}
    {requested : List String}
    (mgr : HostMgr)
    (succeeds : AddsSucceed env xdk isIpv6 requested) :
    ∃ (order : List NetAddr) (added : List NetAddr) (fresh : List HostEntry),
      order.Perm (droppedRecords secondary requested) ∧
      (portConfigSecondaryAddr env xdk isIpv6 mgr secondary requested).1 =
        added ++ secondary.filter (·.address ∈ requested) ∧
      Adds env isIpv6 (order.foldl (deleteRecord xdk) mgr) added fresh
        (portConfigSecondaryAddr env xdk isIpv6 mgr secondary requested).2 ∧
      (added.map (·.address)).Perm (newAddresses secondary requested) := by
  obtain ⟨distinct, members⟩ := foldl_shashAddOnce_nodup requested List.nodup_nil
  unfold portConfigSecondaryAddr
  generalize requested.foldl shashAddOnce [] = newIpList at distinct members
  simp only [List.not_mem_nil, false_or] at members
  simp only [members]
  have visited := xdk.shashOrder.perm newIpList
  obtain ⟨added, fresh, result, adds, addresses⟩ :=
    @Adds.foldl_addSecondary env xdk isIpv6 (xdk.shashOrder.visit newIpList)
      (secondary.filter (·.address ∈ requested))
      (((xdk.addrOrder.visit secondary).filter (·.address ∉ requested)).foldl
        (deleteRecord xdk) mgr)
      ⟨fun address member => succeeds.parsed address
        ((members address).mp (visited.mem_iff.mp member)), succeeds.answered⟩
      (visited.nodup_iff.mpr distinct)
  refine ⟨_, added, fresh, (xdk.addrOrder.perm secondary).filter _, result, adds, ?_⟩
  rw [addresses]
  refine (List.reverse_perm _).trans ?_
  refine (List.perm_ext_iff_of_nodup ((visited.nodup_iff.mpr distinct).filter _)
    ((List.nodup_dedup _).filter _)).mpr fun address => ?_
  rw [List.mem_filter, List.mem_filter, visited.mem_iff, members, List.mem_dedup]
  refine and_congr_right fun asked => ?_
  rw [decide_eq_true_iff, decide_eq_true_iff, not_iff_not, List.mem_map, List.mem_map]
  constructor
  · rintro ⟨addr, member, same⟩
    exact ⟨addr, (List.mem_filter.mp member).1, same⟩
  · rintro ⟨addr, member, rfl⟩
    exact ⟨addr, List.mem_filter.mpr ⟨member, decide_eq_true asked⟩, rfl⟩

/-- The live ids are those of some records and the others. -/
theorem Owned.ids_perm
    {mgr : HostMgr}
    {records : List NetAddr}
    (owned : Owned mgr records) :
    (mgr.hosts.map (·.id)).Perm
      ((mgr.hosts.filter fun e => e.id ∉ records.map (·.id)).map (·.id) ++
        records.map (·.id)) := by
  have apart : ((mgr.hosts.filter fun e => e.id ∉ records.map (·.id)).map
      (·.id)).Disjoint (records.map (·.id)) := by
    intro id kept recorded
    obtain ⟨e, member, rfl⟩ := List.mem_map.mp kept
    exact of_decide_eq_true (List.mem_filter.mp member).2 recorded
  refine (List.perm_ext_iff_of_nodup owned.idsNodup (List.nodup_append'.mpr
    ⟨owned.idsNodup.sublist (List.filter_sublist.map _), owned.recordsNodup,
      apart⟩)).mpr fun id => ?_
  rw [List.mem_append]
  constructor
  · intro live
    by_cases recorded : id ∈ records.map (·.id)
    · exact .inr recorded
    · obtain ⟨e, member, rfl⟩ := List.mem_map.mp live
      exact .inl (List.mem_map_of_mem
        (List.mem_filter.mpr ⟨member, decide_eq_true recorded⟩))
  · rintro (kept | recorded)
    · exact (List.filter_sublist.map _).subset kept
    · obtain ⟨addr, member, rfl⟩ := List.mem_map.mp recorded
      obtain ⟨e, entryMember, idEq, _⟩ := owned.live addr member
      exact List.mem_map.mpr ⟨e, entryMember, idEq⟩

/-- Deletes give the ids back. -/
theorem Allocated.of_deletes
    {xdk : Outcome}
    {mgr after : HostMgr}
    {records : List NetAddr}
    (allocated : Allocated mgr)
    (owned : Owned mgr records)
    (deletes : Deletes xdk mgr after records) :
    Allocated after ∧ after.hosts.length + records.length = mgr.hosts.length := by
  have split := owned.ids_perm
  rw [← deletes.hosts] at split
  have reordered : (mgr.hosts.map (·.id) ++ mgr.dummyHostList).Perm
      (after.hosts.map (·.id) ++ after.dummyHostList) := by
    refine (split.append_right _).trans ?_
    rw [List.append_assoc]
    exact (deletes.freed.symm).append_left _
  have next : after.nextHostId = mgr.nextHostId := by
    rw [deletes.others]
  refine ⟨⟨?_, ?_, ?_, ?_⟩, ?_⟩
  · exact reordered.nodup_iff.mp allocated.idsNodup
  · intro id member
    rw [next]
    exact allocated.idsBelow id (reordered.mem_iff.mpr member)
  · rw [next, ← reordered.length_eq]
    exact allocated.counted
  · rw [next]
    exact allocated.bounded
  · have counted := split.length_eq
    simp only [List.length_append, List.length_map] at counted
    exact counted.symm

/-! ## Reconciliation -/

/-- What a reconciliation of secondary addresses is to do.  The addresses of the
records are the requested ones, once each; the records of requested addresses stay
as they are; the host entries of the dropped records are gone, the others are as
before but for their places, and each new record has an entry of its own. -/
structure Reconciled (env : Env) (xdk : Outcome) (isIpv6 : Bool)
    (requested : List String) (mgr : HostMgr) (secondary : List NetAddr)
    (after : HostMgr) (result : List NetAddr) : Prop where
  addressesNodup : (result.map (·.address)).Nodup
  addresses : ∀ address, address ∈ result.map (·.address) ↔ address ∈ requested
  entries : ∃ added fresh,
    result = added ++ secondary.filter (·.address ∈ requested) ∧
    List.Forall₂ (MadeFor env mgr isIpv6) added fresh ∧
    after.hosts.map HostEntry.unplaced = fresh.map HostEntry.unplaced ++
      (mgr.hosts.filter fun e =>
        e.id ∉ (droppedRecords secondary requested).map (·.id)).map
          HostEntry.unplaced ∧
    after.hw.map Prod.snd = fresh.map (·.xpHost) ++
      (mgr.hw.filter fun slot =>
        !vacated xdk mgr ((droppedRecords secondary requested).map (·.id)) slot).map
          Prod.snd
  idsNodup : (after.hosts.map (·.id)).Nodup

/-- Distinct ids of 32 bits are at most `2 ^ 32` many. -/
theorem length_le_of_fit
    {ids : List Nat}
    (nodup : ids.Nodup)
    (fit : ∀ id ∈ ids, id < 2 ^ 32) :
    ids.length ≤ 2 ^ 32 := by
  rw [← List.toFinset_card_of_nodup nodup]
  calc
    ids.toFinset.card ≤ (Finset.range (2 ^ 32)).card := by
      refine Finset.card_le_card fun id member => ?_
      exact Finset.mem_range.mpr (fit id (List.mem_toFinset.mp member))
    _ = 2 ^ 32 := Finset.card_range _

/-- The entries made for records have their ids. -/
theorem MadeFor.map_id
    {env : Env}
    {mgr : HostMgr}
    {isIpv6 : Bool}
    {added : List NetAddr}
    {fresh : List HostEntry}
    (made : List.Forall₂ (MadeFor env mgr isIpv6) added fresh) :
    fresh.map (·.id) = added.map (·.id) := by
  induction made with
  | nil => rfl
  | cons first _ inductionHypothesis =>
      rw [List.map_cons, List.map_cons, first.id, inductionHypothesis]

section Reconciliation

variable {env : Env} {xdk : Outcome} {isIpv6 : Bool} {mgr : HostMgr}
  {secondary : List NetAddr} {requested : List String}

/-- The new and the retained addresses are the requested ones, once each. -/
theorem addresses_of_perm
    {added : List NetAddr}
    (distinct : (secondary.map (·.address)).Nodup)
    (addresses : (added.map (·.address)).Perm (newAddresses secondary requested)) :
    ((added ++ secondary.filter (·.address ∈ requested)).map (·.address)).Nodup ∧
      ∀ address, address ∈ (added ++ secondary.filter (·.address ∈ requested)).map
        (·.address) ↔ address ∈ requested := by
  have isNew : ∀ address, address ∈ added.map (·.address) ↔
      address ∈ requested ∧ address ∉ secondary.map (·.address) := by
    intro address
    rw [addresses.mem_iff]
    unfold newAddresses
    rw [List.mem_filter, List.mem_dedup, decide_eq_true_iff]
  rw [List.map_append]
  constructor
  · refine List.nodup_append'.mpr ⟨?_, ?_, ?_⟩
    · exact addresses.nodup_iff.mpr ((List.nodup_dedup _).filter _)
    · exact distinct.sublist (List.filter_sublist.map _)
    · intro address new retained
      exact ((isNew address).mp new).2 ((List.filter_sublist.map _).subset retained)
  · intro address
    rw [List.mem_append, isNew]
    constructor
    · rintro (⟨asked, _⟩ | retained)
      · exact asked
      · obtain ⟨addr, member, rfl⟩ := List.mem_map.mp retained
        exact of_decide_eq_true (List.mem_filter.mp member).2
    · intro asked
      by_cases known : address ∈ secondary.map (·.address)
      · obtain ⟨addr, member, rfl⟩ := List.mem_map.mp known
        exact .inr (List.mem_map_of_mem
          (List.mem_filter.mpr ⟨member, decide_eq_true asked⟩))
      · exact .inl ⟨asked, known⟩

/-- When no id of some records is live after deletes for them, these ids survive
the conversion to `int` and back. -/
theorem Owned.readable_of_gone
    {records : List NetAddr}
    (owned : Owned mgr records)
    (gone : ∀ addr ∈ records,
      addr.id ∉ (records.foldl (deleteRecord xdk) mgr).hosts.map (·.id)) :
    ∀ addr ∈ records, addr.id < 2 ^ 31 := by
  intro addr member
  by_contra unreadable
  obtain ⟨e, entryMember, idEq, _⟩ := owned.live addr member
  apply gone addr member
  rw [← idEq] at unreadable ⊢
  refine List.mem_map_of_mem (mem_hosts_foldl_deleteRecord xdk entryMember ?_
    (owned.idsBounded e entryMember) fun other => owned.id_lt)
  exact Nat.le_of_not_lt unreadable

/-- The secondary addresses are reconciled exactly when the id of every dropped
record survives the conversion to `int` and back and the live entries do not
exhaust the ids. -/
theorem reconciled_iff
    (allocated : Allocated mgr)
    (owned : Owned mgr secondary)
    (distinct : (secondary.map (·.address)).Nodup)
    (succeeds : AddsSucceed env xdk isIpv6 requested) :
    Reconciled env xdk isIpv6 requested mgr secondary
        (portConfigSecondaryAddr env xdk isIpv6 mgr secondary requested).2
        (portConfigSecondaryAddr env xdk isIpv6 mgr secondary requested).1 ↔
      (∀ addr ∈ secondary, addr.address ∉ requested → addr.id < 2 ^ 31) ∧
        mgr.hosts.length + (newAddresses secondary requested).length ≤
          2 ^ 32 + (droppedRecords secondary requested).length := by
  obtain ⟨order, added, fresh, dropped, result, adds, addresses⟩ :=
    @portConfigSecondaryAddr_eq env xdk isIpv6 secondary requested mgr succeeds
  have ownedDropped : Owned mgr order :=
    (owned.sublist List.filter_sublist).perm dropped.symm
  have count : added.length = (newAddresses secondary requested).length := by
    rw [← addresses.length_eq, List.length_map]
  constructor
  · rintro ⟨_, _, ⟨added', fresh', result', made, hosts, _⟩, idsNodup⟩
    have sameAdded : added' = added :=
      List.append_cancel_right (result'.symm.trans result)
    have ids := congrArg (List.map fun entry : HostEntry => entry.id) hosts
    rw [List.map_append, List.map_map, List.map_map, List.map_map] at ids
    have freshIds : fresh'.map (·.id) = fresh.map (·.id) := by
      rw [MadeFor.map_id made, MadeFor.map_id adds.made, sameAdded]
    have kept := List.append_cancel_left
      (adds.map_id.symm.trans (ids.trans (congrArg (· ++ _) freshIds)))
    have readable : ∀ addr ∈ order, addr.id < 2 ^ 31 := by
      refine @Owned.readable_of_gone xdk mgr order ownedDropped fun addr member live => ?_
      rw [kept] at live
      obtain ⟨e, entryMember, idEq⟩ := List.mem_map.mp live
      refine of_decide_eq_true (List.mem_filter.mp entryMember).2 ?_
      exact List.mem_map.mpr ⟨addr, dropped.mem_iff.mp member, idEq.symm⟩
    have deletes := Deletes.foldl_deleteRecord ownedDropped readable xdk
    obtain ⟨middle, left⟩ := allocated.of_deletes ownedDropped deletes
    refine ⟨?_, ?_⟩
    · intro addr member unasked
      exact readable addr (dropped.mem_iff.mpr
        (List.mem_filter.mpr ⟨member, decide_eq_true unasked⟩))
    · have fit := adds.idsFit fun id member =>
        Nat.lt_of_lt_of_le (middle.idsBelow id member) middle.bounded
      have bound := length_le_of_fit idsNodup fun id member =>
        fit id (List.mem_append_left _ member)
      have total := adds.length_eq
      rw [List.length_map] at bound
      rw [dropped.length_eq] at left
      omega
  · rintro ⟨readable, room⟩
    have readableDropped : ∀ addr ∈ order, addr.id < 2 ^ 31 := by
      intro addr member
      obtain ⟨inSecondary, unasked⟩ := List.mem_filter.mp (dropped.mem_iff.mp member)
      exact readable addr inSecondary (of_decide_eq_true unasked)
    have inOrder := Deletes.foldl_deleteRecord ownedDropped readableDropped xdk
    obtain ⟨middle, left⟩ := allocated.of_deletes ownedDropped inOrder
    have deletes := inOrder.perm dropped
    obtain ⟨nodup, members⟩ := addresses_of_perm distinct addresses
    rw [dropped.length_eq] at left
    have final := adds.allocated middle (by omega)
    refine ⟨?_, ?_, ⟨added, fresh, result, ?_, ?_, ?_⟩, ?_⟩
    · rw [result]
      exact nodup
    · rw [result]
      exact members
    · refine adds.made.imp fun _ _ made => made.congr ?_
      rw [deletes.others]
    · rw [adds.hosts, deletes.hosts]
    · rw [adds.hw, deletes.hw]
    · exact (List.nodup_append.mp final.idsNodup).1

end Reconciliation

/-- Settings with secondary IPv4 addresses only. -/
def secondarySettings (addresses : List String) : Settings where
  primaryIpv4Changed := false
  primaryIpv6Changed := false
  secondaryIpv4Changed := true
  secondaryIpv6Changed := false
  ip4Address := none
  ip6Address := none
  ip4AddressSecondary := addresses
  ip6AddressSecondary := []

/-- A bundle with one secondary address next to a neighbour. -/
def secondarySystem : System :=
  Transition.run (step sampleEnv) (initial 0)
    [⟨.reconfigure 0 (secondarySettings ["10.0.0.1/24"]), sampleXdk true⟩,
     ⟨.remoteAdd sampleNeighbour, sampleXdk true⟩]

/-- The address is replaced by another one that is requested twice. -/
theorem reconciled_secondarySystem :
    Reconciled sampleEnv (sampleXdk true) false ["10.0.1.1/24", "10.0.1.1/24"]
      secondarySystem.mgr (secondarySystem.ips 0).secondaryIp4addr
      (portConfigSecondaryAddr sampleEnv (sampleXdk true) false secondarySystem.mgr
        (secondarySystem.ips 0).secondaryIp4addr ["10.0.1.1/24", "10.0.1.1/24"]).2
      (portConfigSecondaryAddr sampleEnv (sampleXdk true) false secondarySystem.mgr
        (secondarySystem.ips 0).secondaryIp4addr ["10.0.1.1/24", "10.0.1.1/24"]).1 := by
  refine (reconciled_iff ⟨?_, ?_, ?_, ?_⟩ ⟨?_, ?_, ?_, ?_⟩ ?_ ⟨?_, ?_⟩).mpr ⟨?_, ?_⟩
  case refine_11 =>
    intro call
    exact Option.some_ne_none _
  all_goals decide

/-- An entry with the first id that does not fit into an `int`. -/
def farEntry : HostEntry where
  id := 2 ^ 31
  index := 0
  isIpv6Addr := false
  destAddr := [1, 0, 0, 10]
  macAddr := Vector.replicate 6 0
  xpHost := requestedHost sampleEnv (l3MgrCreate 0)
    (localArgs sampleEnv false "10.0.0.1/24") [1, 0, 0, 10]
  call := 2 ^ 31

/-- All other ids below it were given back. -/
def farMgr : HostMgr :=
  { l3MgrCreate 0 with
    nextHostId := farEntry.id + 1
    dummyHostList := List.range farEntry.id
    hosts := [farEntry]
    hw := [farEntry.slot]
    calls := 2 ^ 31 + 1 }

/-- The record of that entry. -/
def farRecord : NetAddr where
  id := 2 ^ 31
  address := "10.0.0.1/24"
  owner := some (2 ^ 31)

/-- One entry is live and all ids below its own are free. -/
theorem Allocated.of_single
    {mgr : HostMgr}
    {e : HostEntry}
    (live : mgr.hosts = [e])
    (free : mgr.dummyHostList = List.range e.id)
    (next : mgr.nextHostId = e.id + 1)
    (fits : e.id < 2 ^ 32) :
    Allocated mgr := by
  refine ⟨?_, ?_, ?_, ?_⟩
  · rw [live, free]
    refine List.nodup_cons.mpr ⟨?_, List.nodup_range⟩
    intro member
    exact absurd (List.mem_range.mp member) (Nat.lt_irrefl _)
  · rw [live, free, next]
    intro id member
    rcases List.mem_cons.mp member with rfl | below
    · exact Nat.lt_succ_self _
    · exact Nat.lt_succ_of_lt (List.mem_range.mp below)
  · rw [live, free, next]
    exact congrArg (· + 1) List.length_range
  · rw [next]
    exact fits

/-- The id of the dropped record is sign-extended, so its host entry is not found
and stays. -/
theorem not_reconciled_farMgr :
    Allocated farMgr ∧ Owned farMgr [farRecord] ∧
      AddsSucceed sampleEnv (sampleXdk true) false [] ∧
      ¬ Reconciled sampleEnv (sampleXdk true) false [] farMgr [farRecord]
        (portConfigSecondaryAddr sampleEnv (sampleXdk true) false farMgr [farRecord] []).2
        (portConfigSecondaryAddr sampleEnv (sampleXdk true) false farMgr [farRecord] []).1 := by
  have owned : Owned farMgr [farRecord] := by
    refine ⟨?_, ?_, ?_, ?_⟩
    all_goals decide
  have allocated : Allocated farMgr :=
    @Allocated.of_single farMgr farEntry rfl (by simp only [farMgr]) rfl (by decide)
  refine ⟨allocated, owned, ⟨?_, ?_⟩, ?_⟩
  · intro address member
    exact absurd member List.not_mem_nil
  · intro call
    exact Option.some_ne_none _
  · rintro ⟨_, _, ⟨added, fresh, result, made, hosts, _⟩, _⟩
    have noneAdded : added = [] := (List.append_eq_nil_iff.mp result.symm).1
    rw [noneAdded] at made
    rw [List.forall₂_nil_left_iff.mp made] at hosts
    have gone : (portConfigSecondaryAddr sampleEnv (sampleXdk true) false farMgr
        [farRecord] []).2.hosts = [] := by
      exact List.map_eq_nil_iff.mp hosts
    have stays : farEntry ∈ (portConfigSecondaryAddr sampleEnv (sampleXdk true) false
        farMgr [farRecord] []).2.hosts :=
      mem_hosts_deleteRecord (sampleXdk true) List.mem_cons_self (by decide) (by decide)
        (by decide)
    rw [gone] at stays
    exact absurd stays List.not_mem_nil

end Hosts
end XpliantSwitchd
