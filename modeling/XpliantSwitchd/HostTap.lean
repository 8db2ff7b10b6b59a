import XpliantSwitchd.Basic
import XpliantSwitchd.Lib.Hmap
import XpliantSwitchd.Lib.KeyedList
import XpliantSwitchd.Lib.Transition
import XpliantSwitchd.Lib.Traversal

/-!
# TAP interfaces of the host

This module embeds the interface and filter functions of `ops-xp-host-tap.c`
after `tap_init`.  Every operation runs under the recursive mutex.  An entry is
known by its address, here a number that is never used again; it is in the map
of file descriptors for as long as it lives, and in the map of interface ids
while its filter exists.  The filter of an interface is named by the interface
id alone, which two interfaces may share.
-/

namespace XpliantSwitchd
namespace HostTap

/-- `xpsInterfaceId_t`. -/
abbrev IfId := BitVec 32

/-- `struct tap_if_entry`, with its address; `fd` is the hash of its node in
`fd_to_tap_if_map`. -/
structure TapIfEntry where
  address : Nat
  ifId : IfId
  sendIfId : IfId
  fd : Int
  name : String
  filterCreated : Bool
  deriving DecidableEq

/-- A node of `if_id_to_tap_if_map`: its hash and the entry it is part of, which
may have been freed. -/
structure IfIdNode where
  hash : IfId
  address : Nat
  deriving DecidableEq

/-- `struct tap_info` without the pipes and the listener. -/
structure TapInfo where
  readFdSet : List Int
  ifIdToTapIfMap : List IfIdNode
  fdToTapIfMap : List TapIfEntry
  nextAddress : Nat

/-- The maps after `tap_init`. -/
def tapInit : TapInfo where
  readFdSet := []
  ifIdToTapIfMap := []
  fdToTapIfMap := []
  nextAddress := 0

/-- What the system does when an interface is made: the descriptor and the name
that `ops_xp_tun_alloc` returns, and whether `set_nonblocking` and
`ops_xp_net_if_setup` succeed. -/
structure Tun where
  fd : Int
  name : String
  nonblocking : Bool
  setup : Bool

/-- `tap_get_if_entry_by_fd`. -/
def tapGetIfEntryByFd (info : TapInfo) (fd : Int) : Option TapIfEntry :=
  if fd ≤ 0 then none else info.fdToTapIfMap.find? (·.fd == fd)

/-- `tap_get_if_entry_by_if_id`: the first node with the hash, in the order of
its bucket. -/
def tapGetIfEntryByIfId (order : Traversal IfIdNode) (info : TapInfo) (ifId : IfId) :
    Option IfIdNode :=
  (order.visit info.ifIdToTapIfMap).find? (·.hash == ifId)

/-- `tap_if_create`. -/
def tapIfCreate (info : TapInfo) (xpsIfId : IfId) (tun : Tun) :
    Option Errno × TapInfo :=
  if tun.fd ≤ 0 then (some .EFAULT, info)
  else if !tun.nonblocking then (some .EFAULT, info)
  else if !tun.setup then (some .EFAULT, info)
  else
    let ifEntry : TapIfEntry :=
      { address := info.nextAddress, ifId := xpsIfId, sendIfId := xpsIfId,
        fd := tun.fd, name := tun.name, filterCreated := false }
    (none, { info with
      fdToTapIfMap := ifEntry :: info.fdToTapIfMap
      readFdSet := tun.fd :: info.readFdSet
      nextAddress := info.nextAddress + 1 })

/-- The id under which a filter is known outside, an `int`. -/
def filterId (xpsIfId : IfId) : Int := (xpsIfId + 1).toInt

/-- `tap_if_filter_create`, with the id that it returns. -/
def tapIfFilterCreate (info : TapInfo) (xpsIfId : IfId) (hostIfId : Int) :
    Option Errno × Option Int × TapInfo :=
  if hostIfId ≤ 0 then (some .EINVAL, none, info)
  else
    match tapGetIfEntryByFd info hostIfId with
    | none => (some .ENOENT, none, info)
    | some ifEntry =>
        if ifEntry.filterCreated then (none, none, info)
        else
          (none, some (filterId xpsIfId), { info with
            fdToTapIfMap := KeyedList.rewrite (·.address) ifEntry.address
              (fun e => { e with filterCreated := true }) info.fdToTapIfMap
            ifIdToTapIfMap :=
              ⟨ifEntry.ifId, ifEntry.address⟩ :: info.ifIdToTapIfMap })

/-- Take a node out of its map and write to the entry it is part of. -/
def unlinkFilter (info : TapInfo) (node : IfIdNode) : TapInfo :=
  { info with
    ifIdToTapIfMap := KeyedList.remove (·.address) node.address info.ifIdToTapIfMap
    fdToTapIfMap := KeyedList.rewrite (·.address) node.address
      (fun e => { e with filterCreated := false }) info.fdToTapIfMap }

/-- `tap_if_filter_delete`. -/
def tapIfFilterDelete (order : Traversal IfIdNode) (info : TapInfo)
    (hostFilterId : Int) : Option Errno × TapInfo :=
  if hostFilterId ≤ 0 then (some .EINVAL, info)
  else
    match tapGetIfEntryByIfId order info (BitVec.ofInt 32 (hostFilterId - 1)) with
    | none => (some .ENOENT, info)
    | some node => (none, unlinkFilter info node)

/-- Take an entry out of the map of descriptors and free it. -/
def freeEntry (info : TapInfo) (ifEntry : TapIfEntry) : TapInfo :=
  { info with
    fdToTapIfMap :=
      KeyedList.remove (·.address) ifEntry.address info.fdToTapIfMap
    readFdSet := info.readFdSet.filter (· ≠ ifEntry.fd) }

/-- `tap_if_delete`. -/
def tapIfDelete (order : Traversal IfIdNode) (info : TapInfo) (hostIfId : Int) :
    Option Errno × TapInfo :=
  if hostIfId ≤ 0 then (some .EINVAL, info)
  else
    match tapGetIfEntryByFd info hostIfId with
    | none => (some .ENOENT, info)
    | some ifEntry =>
        let info := (tapIfFilterDelete order info (filterId ifEntry.ifId)).2
        (none, freeEntry info ifEntry)

/-- The operations.  A filter is deleted on behalf of an interface, `hostIfId`,
which the code does not get to know. -/
inductive Event
  | create (xpsIfId : IfId) (tun : Tun)
  | delete (hostIfId : Int)
  | filterCreate (xpsIfId : IfId) (hostIfId : Int)
  | filterDelete (hostIfId hostFilterId : Int)

/-- An operation, with the order of the nodes in the map of interface ids. -/
structure Operation where
  event : Event
  order : Traversal IfIdNode

/-- The state after an operation. -/
def step (info : TapInfo) (operation : Operation) : TapInfo :=
  match operation.event with
  | .create xpsIfId tun => (tapIfCreate info xpsIfId tun).2
  | .delete hostIfId => (tapIfDelete operation.order info hostIfId).2
  | .filterCreate xpsIfId hostIfId => (tapIfFilterCreate info xpsIfId hostIfId).2.2
  | .filterDelete _ hostFilterId =>
      (tapIfFilterDelete operation.order info hostFilterId).2

/-! ## What is to hold -/

/-- The entry at an address is in the map of interface ids. -/
def Linked (info : TapInfo) (address : Nat) : Prop :=
  ∃ node ∈ info.ifIdToTapIfMap, node.address = address

/-- The two maps and the flags agree. -/
structure MapsAgree (info : TapInfo) : Prop where
  /-- An entry has a filter exactly when it is in the map of interface ids. -/
  created_iff : ∀ e ∈ info.fdToTapIfMap, e.filterCreated = true ↔ Linked info e.address
  /-- No node of the map of interface ids is part of a freed entry. -/
  live : ∀ node ∈ info.ifIdToTapIfMap, ∃ e ∈ info.fdToTapIfMap, e.address = node.address

/-- Every interface but one keeps its entry, with its flag, and its place in or
outside the map of interface ids. -/
def OthersKept (hostIfId : Int) (before after : TapInfo) : Prop :=
  ∀ e ∈ before.fdToTapIfMap, e.fd ≠ hostIfId →
    e ∈ after.fdToTapIfMap ∧ (Linked after e.address ↔ Linked before e.address)

/-- The id is that of the filter of an interface. -/
def IsFilterOf (info : TapInfo) (hostIfId hostFilterId : Int) : Prop :=
  ∃ e ∈ info.fdToTapIfMap, e.fd = hostIfId ∧ filterId e.ifId = hostFilterId

/-- Deleting one interface or its filter leaves the other interfaces alone. -/
def DeletesOne (info : TapInfo) (operation : Operation) : Prop :=
  match operation.event with
  | .create _ _ => True
  | .delete hostIfId => OthersKept hostIfId info (step info operation)
  | .filterCreate _ _ => True
  | .filterDelete hostIfId hostFilterId =>
      IsFilterOf info hostIfId hostFilterId →
        OthersKept hostIfId info (step info operation)

/-- No other interface with the id of this one has a filter. -/
def Unshared (info : TapInfo) (e : TapIfEntry) : Prop :=
  ∀ other ∈ info.fdToTapIfMap, other.fd ≠ e.fd → other.ifId = e.ifId →
    other.filterCreated = false

/-- The condition under which an operation is local: the filter that is deleted
is not one of another interface with the same id, and the id of the filter of an
interface that is deleted is a positive `int`. -/
def Separable (info : TapInfo) : Event → Prop
  | .create _ _ => True
  | .delete hostIfId => ∀ e ∈ info.fdToTapIfMap, e.fd = hostIfId →
      Unshared info e ∧ (e.filterCreated = true → e.ifId.toNat + 1 < 2 ^ 31)
  | .filterCreate _ _ => True
  | .filterDelete hostIfId hostFilterId => ∀ e ∈ info.fdToTapIfMap,
      e.fd = hostIfId → filterId e.ifId = hostFilterId → Unshared info e

/-- A new descriptor is not one of an open interface. -/
def FreshFd (info : TapInfo) : Event → Prop
  | .create _ tun => ∀ e ∈ info.fdToTapIfMap, e.fd ≠ tun.fd
  | _ => True

/-- The system returns unused descriptors, and the condition is met. -/
def Guard (info : TapInfo) (operation : Operation) : Prop :=
  FreshFd info operation.event ∧ Separable info operation.event

/-! ## The invariant -/

/-- The nodes of the map of interface ids are exactly those of the live entries
with a filter. -/
structure Inv (info : TapInfo) : Prop where
  fdOnce : (info.fdToTapIfMap.map (·.fd)).Nodup
  addressOnce : (info.fdToTapIfMap.map (·.address)).Nodup
  fresh : ∀ e ∈ info.fdToTapIfMap, e.address < info.nextAddress
  filtered : ∀ node, node ∈ info.ifIdToTapIfMap ↔
    ∃ e ∈ info.fdToTapIfMap, e.filterCreated = true ∧ node = ⟨e.ifId, e.address⟩

theorem inv_tapInit : Inv tapInit where
  fdOnce := List.nodup_nil
  addressOnce := List.nodup_nil
  fresh _ absent := by cases absent
  filtered node := by simp [tapInit]

section Entries

variable {info : TapInfo} {e other : TapIfEntry}

theorem Inv.eq_of_fd (inv : Inv info) (member : e ∈ info.fdToTapIfMap)
    (otherMember : other ∈ info.fdToTapIfMap) (same : e.fd = other.fd) : e = other :=
  List.inj_on_of_nodup_map inv.fdOnce member otherMember same

theorem Inv.eq_of_address (inv : Inv info) (member : e ∈ info.fdToTapIfMap)
    (otherMember : other ∈ info.fdToTapIfMap) (same : e.address = other.address) :
    e = other :=
  List.inj_on_of_nodup_map inv.addressOnce member otherMember same

theorem Inv.linked_iff (inv : Inv info) (member : e ∈ info.fdToTapIfMap) :
    Linked info e.address ↔ e.filterCreated = true := by
  constructor
  · rintro ⟨node, inMap, sameAddress⟩
    obtain ⟨owner, ownerMember, created, rfl⟩ := (inv.filtered node).mp inMap
    rw [inv.eq_of_address member ownerMember sameAddress.symm]
    exact created
  · intro created
    exact ⟨⟨e.ifId, e.address⟩, (inv.filtered _).mpr ⟨e, member, created, rfl⟩, rfl⟩

theorem Inv.mapsAgree (inv : Inv info) : MapsAgree info where
  created_iff e member := (inv.linked_iff member).symm
  live := by
    intro node inMap
    obtain ⟨owner, ownerMember, _, rfl⟩ := (inv.filtered node).mp inMap
    exact ⟨owner, ownerMember, rfl⟩

theorem tapGetIfEntryByFd_eq_some {fd : Int}
    (found : tapGetIfEntryByFd info fd = some e) :
    e ∈ info.fdToTapIfMap ∧ e.fd = fd := by
  unfold tapGetIfEntryByFd at found
  split at found
  · cases found
  · exact ⟨List.mem_of_find?_eq_some found, by simpa using List.find?_some found⟩

end Entries

/-! ## Filters -/

section Filters

variable {info : TapInfo} {e : TapIfEntry}

/-- Entries keep their keys when a flag is written. -/
theorem map_rewrite_flag {β : Type} {field : TapIfEntry → β} {created : Bool}
    (keeps : ∀ e : TapIfEntry, field { e with filterCreated := created } = field e)
    (address : Nat)
    (entries : List TapIfEntry) :
    (KeyedList.rewrite (·.address) address
      (fun e => { e with filterCreated := created }) entries).map field =
        entries.map field :=
  KeyedList.map_rewrite fun e _ _ => keeps e

theorem Inv.unlinkFilter (inv : Inv info) (node : IfIdNode) :
    Inv (unlinkFilter info node) where
  fdOnce := by
    unfold HostTap.unlinkFilter
    rw [map_rewrite_flag fun _ => rfl]
    exact inv.fdOnce
  addressOnce := by
    unfold HostTap.unlinkFilter
    rw [map_rewrite_flag fun _ => rfl]
    exact inv.addressOnce
  fresh := by
    intro e member
    rcases KeyedList.mem_rewrite.mp member with ⟨old, oldMember, _, rfl⟩ | ⟨oldMember, _⟩
    · exact inv.fresh old oldMember
    · exact inv.fresh e oldMember
  filtered := by
    intro other
    constructor
    · intro inMap
      obtain ⟨older, different⟩ := KeyedList.mem_remove.mp inMap
      obtain ⟨owner, ownerMember, created, rfl⟩ := (inv.filtered other).mp older
      exact ⟨owner, KeyedList.mem_rewrite.mpr (.inr ⟨ownerMember, different⟩), created,
        rfl⟩
    · rintro ⟨owner, ownerMember, created, rfl⟩
      rcases KeyedList.mem_rewrite.mp ownerMember with
        ⟨old, _, _, rfl⟩ | ⟨oldMember, different⟩
      · cases created
      · exact KeyedList.mem_remove.mpr
          ⟨(inv.filtered _).mpr ⟨owner, oldMember, created, rfl⟩, different⟩

theorem Inv.linkFilter (inv : Inv info) (member : e ∈ info.fdToTapIfMap) :
    Inv { info with
      fdToTapIfMap := KeyedList.rewrite (·.address) e.address
        (fun e => { e with filterCreated := true }) info.fdToTapIfMap
      ifIdToTapIfMap := ⟨e.ifId, e.address⟩ :: info.ifIdToTapIfMap } where
  fdOnce := by
    rw [map_rewrite_flag fun _ => rfl]
    exact inv.fdOnce
  addressOnce := by
    rw [map_rewrite_flag fun _ => rfl]
    exact inv.addressOnce
  fresh := by
    intro other otherMember
    rcases KeyedList.mem_rewrite.mp otherMember with
      ⟨old, oldMember, _, rfl⟩ | ⟨oldMember, _⟩
    · exact inv.fresh old oldMember
    · exact inv.fresh other oldMember
  filtered := by
    intro node
    constructor
    · intro inMap
      rcases List.mem_cons.mp inMap with rfl | older
      · exact ⟨{ e with filterCreated := true },
          KeyedList.mem_rewrite.mpr (.inl ⟨e, member, rfl, rfl⟩), rfl, rfl⟩
      · obtain ⟨owner, ownerMember, created, rfl⟩ := (inv.filtered node).mp older
        by_cases same : owner.address = e.address
        · exact ⟨{ owner with filterCreated := true },
            KeyedList.mem_rewrite.mpr (.inl ⟨owner, ownerMember, same, rfl⟩), rfl, rfl⟩
        · exact ⟨owner, KeyedList.mem_rewrite.mpr (.inr ⟨ownerMember, same⟩), created,
            rfl⟩
    · rintro ⟨owner, ownerMember, created, rfl⟩
      rcases KeyedList.mem_rewrite.mp ownerMember with
        ⟨old, oldMember, same, rfl⟩ | ⟨oldMember, _⟩
      · rw [inv.eq_of_address oldMember member same]
        exact List.mem_cons_self ..
      · exact List.mem_cons_of_mem _
          ((inv.filtered _).mpr ⟨owner, oldMember, created, rfl⟩)

/-- An entry whose filter is gone can be freed. -/
theorem Inv.freeEntry (inv : Inv info) (unlinked : ¬Linked info e.address) :
    Inv (freeEntry info e) where
  fdOnce := inv.fdOnce.sublist (List.filter_sublist.map _)
  addressOnce := inv.addressOnce.sublist (List.filter_sublist.map _)
  fresh := by
    intro other otherMember
    exact inv.fresh other (KeyedList.mem_remove.mp otherMember).1
  filtered := by
    intro node
    constructor
    · intro inMap
      obtain ⟨owner, ownerMember, created, rfl⟩ := (inv.filtered node).mp inMap
      refine ⟨owner, KeyedList.mem_remove.mpr ⟨ownerMember, ?_⟩, created, rfl⟩
      intro same
      exact unlinked ⟨_, inMap, same⟩
    · rintro ⟨owner, ownerMember, created, rfl⟩
      exact (inv.filtered _).mpr
        ⟨owner, (KeyedList.mem_remove.mp ownerMember).1, created, rfl⟩

theorem not_linked_unlinkFilter (info : TapInfo) (node : IfIdNode) :
    ¬Linked (unlinkFilter info node) node.address := by
  rintro ⟨other, inMap, same⟩
  exact (KeyedList.mem_remove.mp inMap).2 same

/-- Unlinking the filter of an interface leaves the others alone. -/
theorem Inv.othersKept_unlinkFilter
    (inv : Inv info)
    (member : e ∈ info.fdToTapIfMap)
    {node : IfIdNode}
    (own : node.address = e.address) :
    OthersKept e.fd info (HostTap.unlinkFilter info node) := by
  intro other otherMember different
  have apart : other.address ≠ node.address := by
    intro same
    exact different (congrArg TapIfEntry.fd
      (inv.eq_of_address otherMember member (same.trans own)))
  refine ⟨KeyedList.mem_rewrite.mpr (.inr ⟨otherMember, apart⟩), ?_⟩
  constructor
  · rintro ⟨found, inMap, same⟩
    exact ⟨found, (KeyedList.mem_remove.mp inMap).1, same⟩
  · rintro ⟨found, inMap, same⟩
    exact ⟨found, KeyedList.mem_remove.mpr ⟨inMap, fun equal => apart
      (same.symm.trans equal)⟩, same⟩

theorem OthersKept.refl (hostIfId : Int) (info : TapInfo) : OthersKept hostIfId info info :=
  fun _ member _ => ⟨member, Iff.rfl⟩

theorem OthersKept.freeEntry {before : TapInfo} {hostIfId : Int}
    (kept : OthersKept hostIfId before info)
    (apart : ∀ other ∈ before.fdToTapIfMap, other.fd ≠ hostIfId →
      other.address ≠ e.address) :
    OthersKept hostIfId before (freeEntry info e) := by
  intro other otherMember different
  obtain ⟨stays, linked⟩ := kept other otherMember different
  exact ⟨KeyedList.mem_remove.mpr ⟨stays, apart other otherMember different⟩, linked⟩

end Filters

/-! ## Finding a filter by the interface id -/

/-- A filter id leads back to the interface id. -/
theorem ofInt_filterId (ifId : IfId) :
    BitVec.ofInt 32 (filterId ifId - 1) = ifId := by
  unfold filterId
  rw [Int.sub_eq_add_neg, BitVec.ofInt_add, BitVec.ofInt_toInt, BitVec.add_assoc]
  exact BitVec.add_zero ifId

theorem filterId_pos {ifId : IfId} (fits : ifId.toNat + 1 < 2 ^ 31) :
    0 < filterId ifId := by
  have value : (ifId + 1).toNat = ifId.toNat + 1 := by
    rw [BitVec.toNat_add]
    exact Nat.mod_eq_of_lt (by simp; omega)
  unfold filterId
  rw [BitVec.toInt_eq_toNat_of_lt (by omega), value]
  omega

section Deletion

variable {info : TapInfo} {e : TapIfEntry}

/-- What `tap_if_filter_delete` does with the filter id of an interface that
shares it with no other filter: it deletes the filter of this interface, or it
does nothing. -/
theorem Inv.tapIfFilterDelete_own
    (inv : Inv info)
    (order : Traversal IfIdNode)
    (member : e ∈ info.fdToTapIfMap)
    (unshared : Unshared info e) :
    (0 < filterId e.ifId → e.filterCreated = false) ∧
        (tapIfFilterDelete order info (filterId e.ifId)).2 = info ∨
      ∃ node, node.address = e.address ∧
        (tapIfFilterDelete order info (filterId e.ifId)).2 =
          HostTap.unlinkFilter info node := by
  unfold tapIfFilterDelete
  split
  · rename_i negative
    exact .inl ⟨fun positive => absurd positive (not_lt.mpr negative), rfl⟩
  · rw [ofInt_filterId]
    split
    · rename_i missing
      refine .inl ⟨?_, rfl⟩
      intro _
      by_contra created
      have linked := (inv.filtered ⟨e.ifId, e.address⟩).mpr
        ⟨e, member, by simpa using created, rfl⟩
      have unequal := (order.find?_visit_eq_none.mp missing) _ linked
      simp at unequal
    · rename_i node found
      obtain ⟨inMap, sameHash⟩ := order.of_find?_visit found
      obtain ⟨owner, ownerMember, created, rfl⟩ := (inv.filtered node).mp inMap
      refine .inr ⟨_, ?_, rfl⟩
      by_contra different
      have apart : owner.fd ≠ e.fd := by
        intro same
        exact different (congrArg TapIfEntry.address
          (inv.eq_of_fd ownerMember member same))
      have uncreated := unshared owner ownerMember apart (by simpa using sameHash)
      rw [created] at uncreated
      cases uncreated

/-- `tap_if_filter_delete` with any id. -/
theorem Inv.tapIfFilterDelete (inv : Inv info) (order : Traversal IfIdNode)
    (hostFilterId : Int) :
    Inv (tapIfFilterDelete order info hostFilterId).2 := by
  unfold HostTap.tapIfFilterDelete
  split
  · exact inv
  · split
    · exact inv
    · exact inv.unlinkFilter _

/-- The filter of an interface is gone before the interface is freed. -/
theorem Inv.tapIfDelete_spec
    (inv : Inv info)
    (order : Traversal IfIdNode)
    (member : e ∈ info.fdToTapIfMap)
    (unshared : Unshared info e)
    (fits : e.filterCreated = true → e.ifId.toNat + 1 < 2 ^ 31) :
    ¬Linked (HostTap.tapIfFilterDelete order info (filterId e.ifId)).2 e.address ∧
      OthersKept e.fd info
        (HostTap.tapIfFilterDelete order info (filterId e.ifId)).2 := by
  rcases inv.tapIfFilterDelete_own order member unshared with
    ⟨uncreated, same⟩ | ⟨node, own, same⟩
  · rw [same]
    refine ⟨?_, .refl _ _⟩
    rw [inv.linked_iff member]
    intro created
    have absent := uncreated (filterId_pos (fits created))
    rw [created] at absent
    cases absent
  · rw [same, ← own]
    exact ⟨not_linked_unlinkFilter info node, inv.othersKept_unlinkFilter member own⟩

/-- `tap_if_delete` under its condition. -/
theorem Inv.tapIfDelete
    (inv : Inv info)
    (order : Traversal IfIdNode)
    {hostIfId : Int}
    (separable : Separable info (.delete hostIfId)) :
    Inv (tapIfDelete order info hostIfId).2 ∧
      OthersKept hostIfId info (tapIfDelete order info hostIfId).2 := by
  unfold HostTap.tapIfDelete
  split
  · exact ⟨inv, .refl _ _⟩
  · split
    · exact ⟨inv, .refl _ _⟩
    · rename_i ifEntry found
      obtain ⟨member, rfl⟩ := tapGetIfEntryByFd_eq_some found
      obtain ⟨unshared, fits⟩ := separable ifEntry member rfl
      have spec := inv.tapIfDelete_spec order member unshared fits
      refine ⟨(inv.tapIfFilterDelete order _).freeEntry spec.1, spec.2.freeEntry ?_⟩
      intro other otherMember different sameAddress
      exact different (congrArg TapIfEntry.fd
        (inv.eq_of_address otherMember member sameAddress))

end Deletion

/-! ## Runs -/

section Runs

variable {info : TapInfo} {operation : Operation}

theorem Inv.tapIfCreate
    (inv : Inv info)
    {xpsIfId : IfId}
    {tun : Tun}
    (fresh : ∀ e ∈ info.fdToTapIfMap, e.fd ≠ tun.fd) :
    Inv (tapIfCreate info xpsIfId tun).2 := by
  unfold HostTap.tapIfCreate
  split
  · exact inv
  · split
    · exact inv
    · split
      · exact inv
      · refine ⟨?_, ?_, ?_, ?_⟩
        · refine List.nodup_cons.mpr ⟨?_, inv.fdOnce⟩
          intro inFds
          obtain ⟨e, member, same⟩ := List.mem_map.mp inFds
          exact fresh e member same
        · refine List.nodup_cons.mpr ⟨?_, inv.addressOnce⟩
          intro inAddresses
          obtain ⟨e, member, same⟩ := List.mem_map.mp inAddresses
          exact absurd same (Nat.ne_of_lt (inv.fresh e member))
        · intro e member
          rcases List.mem_cons.mp member with rfl | older
          · exact Nat.lt_succ_self _
          · exact Nat.lt_succ_of_lt (inv.fresh e older)
        · intro node
          rw [inv.filtered node]
          constructor
          · rintro ⟨e, member, created⟩
            exact ⟨e, List.mem_cons_of_mem _ member, created⟩
          · rintro ⟨e, member, created⟩
            rcases List.mem_cons.mp member with rfl | older
            · cases created.1
            · exact ⟨e, older, created⟩

theorem Inv.tapIfFilterCreate (inv : Inv info) (xpsIfId : IfId) (hostIfId : Int) :
    Inv (tapIfFilterCreate info xpsIfId hostIfId).2.2 := by
  unfold HostTap.tapIfFilterCreate
  split
  · exact inv
  · split
    · exact inv
    · rename_i ifEntry found
      split
      · exact inv
      · exact inv.linkFilter (tapGetIfEntryByFd_eq_some found).1

/-- Every operation that meets the condition keeps the invariant. -/
theorem Inv.step (inv : Inv info) (guarded : Guard info operation) :
    Inv (step info operation) := by
  obtain ⟨event, order⟩ := operation
  cases event with
  | create xpsIfId tun => exact inv.tapIfCreate guarded.1
  | delete hostIfId => exact (inv.tapIfDelete order guarded.2).1
  | filterCreate xpsIfId hostIfId => exact inv.tapIfFilterCreate xpsIfId hostIfId
  | filterDelete hostIfId hostFilterId =>
      exact inv.tapIfFilterDelete order hostFilterId

/-- Every operation that meets the condition is local. -/
theorem Inv.deletesOne (inv : Inv info) (guarded : Guard info operation) :
    DeletesOne info operation := by
  obtain ⟨event, order⟩ := operation
  cases event with
  | create xpsIfId tun => trivial
  | delete hostIfId => exact (inv.tapIfDelete order guarded.2).2
  | filterCreate xpsIfId hostIfId => trivial
  | filterDelete hostIfId hostFilterId =>
      rintro ⟨e, member, rfl, rfl⟩
      have unshared : Unshared info e := guarded.2 e member rfl rfl
      change OthersKept e.fd info
        (HostTap.tapIfFilterDelete order info (filterId e.ifId)).2
      rcases inv.tapIfFilterDelete_own order member unshared with
        ⟨_, same⟩ | ⟨node, own, same⟩
      · rw [same]
        exact .refl _ _
      · rw [same]
        exact inv.othersKept_unlinkFilter member own

/-- In every run whose operations meet the condition, the maps and the flags
agree, and the next deletion that meets it leaves the other interfaces alone. -/
theorem mapsAgree_of_reached
    (reached : Transition.Reach (· = tapInit) Guard step info)
    (guarded : Guard info operation) :
    MapsAgree info ∧ DeletesOne info operation := by
  have inv : Inv info := by
    refine Transition.Reach.invariant Inv ?_ ?_ reached
    · rintro _ rfl
      exact inv_tapInit
    · exact fun _ _ inv guarded => inv.step guarded
  exact ⟨inv.mapsAgree, inv.deletesOne guarded⟩

end Runs

/-! ## A port and its sub-port -/

/-- An operation over a map that is searched in list order. -/
def operate (event : Event) : Operation := ⟨event, .id⟩

/-- An interface is made without an error. -/
def sampleTun (fd : Int) (name : String) : Tun := ⟨fd, name, true, true⟩

instance (info : TapInfo) (e : TapIfEntry) : Decidable (Unshared info e) :=
  inferInstanceAs (Decidable (∀ _ ∈ _, _))

instance (info : TapInfo) : (event : Event) → Decidable (FreshFd info event)
  | .create _ _ => inferInstanceAs (Decidable (∀ _ ∈ _, _))
  | .delete _ => isTrue trivial
  | .filterCreate _ _ => isTrue trivial
  | .filterDelete _ _ => isTrue trivial

instance (info : TapInfo) : (event : Event) → Decidable (Separable info event)
  | .create _ _ => isTrue trivial
  | .delete _ => inferInstanceAs (Decidable (∀ _ ∈ _, _))
  | .filterCreate _ _ => isTrue trivial
  | .filterDelete _ _ => inferInstanceAs (Decidable (∀ _ ∈ _, _))

instance (info : TapInfo) (operation : Operation) : Decidable (Guard info operation) :=
  inferInstanceAs (Decidable (_ ∧ _))

/-- A port and its sub-port share interface id 7; the filter of the port is
deleted before the sub-port gets one. -/
def takingTurnsRun : List Operation :=
  [operate (.create 7 (sampleTun 5 "1")), operate (.create 7 (sampleTun 6 "1-1")),
   operate (.filterCreate 7 5), operate (.filterDelete 5 8),
   operate (.filterCreate 7 6)]

theorem mapsAgree_takingTurnsRun :
    let info := Transition.run step tapInit takingTurnsRun
    MapsAgree info ∧ DeletesOne info (operate (.delete 6)) := by
  have start : Transition.Reach (· = tapInit) Guard step tapInit := .start rfl
  have guarded : Transition.Guarded Guard step tapInit takingTurnsRun := by
    refine ⟨?_, ?_, ?_, ?_, ?_, trivial⟩ <;> decide
  exact mapsAgree_of_reached (start.of_run guarded) (by decide)

/-- Both the port and its sub-port have a filter. -/
def sharingRun : List Operation :=
  [operate (.create 7 (sampleTun 5 "1")), operate (.create 7 (sampleTun 6 "1-1")),
   operate (.filterCreate 7 5), operate (.filterCreate 7 6)]

/-- The order of the map of interface ids into which nodes were only put: the second
node makes the table grow, so that the older one comes first in the bucket. -/
def mapOrder : Traversal IfIdNode := Hmap.filledOrder fun node => node.hash.toNat

/-- Deleting the sub-port takes the filter of the port, and leaves a node of the
freed sub-port in the map. -/
theorem not_mapsAgree_sharingRun :
    let info := Transition.run step tapInit sharingRun
    Transition.Reach (· = tapInit) (fun info operation => FreshFd info operation.event)
        step (step info ⟨.delete 6, mapOrder⟩) ∧
      ¬DeletesOne info ⟨.delete 6, mapOrder⟩ ∧
      ¬MapsAgree (step info ⟨.delete 6, mapOrder⟩) := by
  intro info
  have start : Transition.Reach (· = tapInit)
      (fun info operation => FreshFd info operation.event) step tapInit := .start rfl
  have guarded : Transition.Guarded (fun info operation => FreshFd info operation.event)
      step tapInit sharingRun := by
    refine ⟨?_, ?_, ?_, ?_, trivial⟩ <;> decide
  refine ⟨.next (start.of_run guarded) trivial, ?_, ?_⟩
  · intro kept
    have unchanged := (kept ⟨0, 7, 7, 5, "1", true⟩ (by decide) (by decide)).1
    revert unchanged
    decide
  · intro agree
    have alive := agree.live ⟨7, 1⟩ (by decide)
    revert alive
    decide

end HostTap
end XpliantSwitchd
