import XpliantSwitchd.Bundles.Ports
import XpliantSwitchd.Lib.Backlinks
import XpliantSwitchd.Lib.Transition
import XpliantSwitchd.Vlan.Hardware
import Mathlib.Data.List.Perm.Subperm

/-!
# Ports and the bundles that list them

A port points to its bundle, and the bundle lists the port.  Whatever calls of
the XDK fail, the two stay the same, with one exception: when a port is taken
from another bundle and the frame type of that bundle cannot be set,
`ofproto_xpliant_bundle_remove` gives up, and the port gets into a second list.
-/

namespace XpliantSwitchd
namespace Bundles

open Vlans

variable {count : Nat} {bridge : Bridge} {xdk : Xdk}

/-- The pointers of the ports and the port lists of the bundles. -/
def Ofproto.links (ofproto : Ofproto count) : Backlinks Nat Nat where
  owner := ofproto.portBundle
  lists := ofproto.bundles.map fun bundle => (bundle.id, bundle.ports)

/-- Ports and bundles know each other, and only ports of the bridge are in
bundles. -/
structure Tied (bridge : Bridge) (ofproto : Ofproto count) : Prop where
  linked : ofproto.links.Linked
  below : ∀ entry ∈ ofproto.links.lists, entry.1 < ofproto.nextBundle
  arePorts : ∀ ofpPort, ofproto.portBundle ofpPort ≠ none →
    (bridge.port? ofpPort).isSome = true

theorem links_owner (ofproto : Ofproto count) :
    ofproto.links.owner = ofproto.portBundle := rfl

theorem map_fst_links (ofproto : Ofproto count) :
    ofproto.links.lists.map Prod.fst = ofproto.bundles.map (·.id) := by
  unfold Ofproto.links
  rw [List.map_map]
  rfl

/-- A write that keeps the address and the port list of the bundle. -/
theorem links_modify
    {ofproto : Ofproto count}
    {id : Nat}
    {change : Bundle count → Bundle count}
    (keeps : ∀ bundle ∈ ofproto.bundles, bundle.id = id →
      (change bundle).id = bundle.id ∧ (change bundle).ports = bundle.ports) :
    (ofproto.modify id change).links = ofproto.links := by
  refine Backlinks.ext rfl (KeyedList.map_rewrite ?_)
  intro bundle member selected
  rw [(keeps bundle member selected).1, (keeps bundle member selected).2]

theorem bundleDelPort_links
    (bridge : Bridge)
    (xdk : Xdk)
    (ofproto : Ofproto count)
    (port : OfPort) :
    (bundleDelPort bridge xdk ofproto port).links =
      ofproto.links.unlink port.ofpPort := by
  unfold bundleDelPort Backlinks.unlink
  rw [links_owner]
  cases ofproto.portBundle port.ofpPort with
  | none => rfl
  | some id =>
      exact Backlinks.ext rfl (KeyedList.map_rewrite_view (fun _ => rfl) fun _ => rfl)

theorem bundleDelPort_nextBundle
    (bridge : Bridge)
    (xdk : Xdk)
    (ofproto : Ofproto count)
    (port : OfPort) :
    (bundleDelPort bridge xdk ofproto port).nextBundle = ofproto.nextBundle := by
  unfold bundleDelPort
  cases ofproto.portBundle port.ofpPort <;> rfl

theorem foldl_bundleDelPort_links
    (bridge : Bridge)
    (xdk : Xdk)
    (ports : List OfPort)
    (ofproto : Ofproto count) :
    (ports.foldl (bundleDelPort bridge xdk) ofproto).links =
        (ports.map (·.ofpPort)).foldl Backlinks.unlink ofproto.links ∧
      (ports.foldl (bundleDelPort bridge xdk) ofproto).nextBundle =
        ofproto.nextBundle := by
  induction ports generalizing ofproto with
  | nil => exact ⟨rfl, rfl⟩
  | cons port ports inductionHypothesis =>
      obtain ⟨links, next⟩ := inductionHypothesis (bundleDelPort bridge xdk ofproto port)
      rw [List.foldl_cons, List.map_cons, List.foldl_cons, ← bundleDelPort_links bridge xdk]
      exact ⟨links, next.trans (bundleDelPort_nextBundle bridge xdk ofproto port)⟩

/-- The numbers of the ports behind a list of numbers. -/
theorem map_ofpPort_filterMap
    {ofpPorts : List Nat}
    (known : ∀ ofpPort ∈ ofpPorts, (bridge.port? ofpPort).isSome = true) :
    (ofpPorts.filterMap bridge.port?).map (·.ofpPort) = ofpPorts := by
  induction ofpPorts with
  | nil => rfl
  | cons ofpPort ofpPorts inductionHypothesis =>
      obtain ⟨port, found⟩ := Option.isSome_iff_exists.mp (known ofpPort List.mem_cons_self)
      rw [List.filterMap_cons_some found, List.map_cons, (mem_of_port? found).2,
        inductionHypothesis fun other member => known other (List.mem_cons_of_mem _ member)]

namespace Tied

variable {ofproto : Ofproto count}

theorem of_links
    {other : Ofproto count}
    (tied : Tied bridge ofproto)
    (links : other.links = ofproto.links)
    (next : other.nextBundle = ofproto.nextBundle) :
    Tied bridge other where
  linked := links ▸ tied.linked
  below := by
    rw [links, next]
    exact tied.below
  arePorts := by
    have owner : other.portBundle = ofproto.portBundle :=
      congrArg Backlinks.owner links
    rw [owner]
    exact tied.arePorts

theorem bundle?_eq_some
    (tied : Tied bridge ofproto)
    {id : Nat}
    {bundle : Bundle count} :
    ofproto.bundle? id = some bundle ↔ bundle ∈ ofproto.bundles ∧ bundle.id = id := by
  have nodup := tied.linked.groupsNodup
  rw [map_fst_links] at nodup
  exact KeyedList.find?_key_eq_some nodup

/-- The ports of a bundle point to it. -/
theorem points
    (tied : Tied bridge ofproto)
    {bundle : Bundle count}
    (member : bundle ∈ ofproto.bundles)
    {ofpPort : Nat} :
    ofproto.portBundle ofpPort = some bundle.id ↔ ofpPort ∈ bundle.ports := by
  have listed : (bundle.id, bundle.ports) ∈ ofproto.links.lists :=
    List.mem_map_of_mem member
  constructor
  · intro owned
    obtain ⟨entry, entryListed, same, inside⟩ :=
      (tied.linked.points ofpPort bundle.id).mp owned
    rw [tied.linked.eq_of_fst entryListed listed same] at inside
    exact inside
  · intro inside
    exact (tied.linked.points ofpPort bundle.id).mpr ⟨_, listed, rfl, inside⟩

theorem known
    (tied : Tied bridge ofproto)
    {bundle : Bundle count}
    (member : bundle ∈ ofproto.bundles) :
    ∀ ofpPort ∈ bundle.ports, (bridge.port? ofpPort).isSome = true := by
  intro ofpPort inside
  refine tied.arePorts ofpPort ?_
  rw [(tied.points member).mpr inside]
  exact Option.some_ne_none _

/-- Every pointer leads to a bundle. -/
theorem bundle?_of_portBundle
    (tied : Tied bridge ofproto)
    {ofpPort id : Nat}
    (owned : ofproto.portBundle ofpPort = some id) :
    ∃ bundle, ofproto.bundle? id = some bundle := by
  obtain ⟨entry, listed, rfl, _⟩ := (tied.linked.points ofpPort id).mp owned
  obtain ⟨bundle, member, rfl⟩ := List.mem_map.mp listed
  exact ⟨bundle, tied.bundle?_eq_some.mpr ⟨member, rfl⟩⟩

/-- Ports leave their bundles. -/
theorem unlinked
    {after : Ofproto count}
    (tied : Tied bridge ofproto)
    (items : List Nat)
    (links : after.links = items.foldl Backlinks.unlink ofproto.links)
    (next : after.nextBundle = ofproto.nextBundle) :
    Tied bridge after := by
  obtain ⟨owner, lists⟩ := tied.linked.foldl_unlink items
  rw [← links] at owner lists
  refine ⟨tied.linked.of_unlinked items owner lists, ?_, ?_⟩
  · intro entry listed
    rw [lists] at listed
    obtain ⟨old, oldListed, rfl⟩ := List.mem_map.mp listed
    rw [next]
    exact tied.below old oldListed
  · intro ofpPort owned
    have pointer : after.portBundle ofpPort =
        if ofpPort ∈ items then none else ofproto.portBundle ofpPort := owner ofpPort
    rw [pointer] at owned
    split at owned
    · contradiction
    · exact tied.arePorts ofpPort owned

/-- A bundle without ports goes. -/
theorem closed
    {after : Ofproto count}
    {id : Nat}
    (tied : Tied bridge ofproto)
    (empty : ∀ ofpPort, ofproto.portBundle ofpPort ≠ some id)
    (links : after.links = ofproto.links.close id)
    (next : after.nextBundle = ofproto.nextBundle) :
    Tied bridge after where
  linked := links ▸ tied.linked.close empty
  below entry listed := by
    rw [links] at listed
    rw [next]
    exact tied.below entry (KeyedList.mem_remove.mp listed).1
  arePorts := by
    have owner : after.portBundle = ofproto.portBundle := congrArg Backlinks.owner links
    rw [owner]
    exact tied.arePorts

theorem bundleDelPort (tied : Tied bridge ofproto) (port : OfPort) :
    Tied bridge (Bundles.bundleDelPort bridge xdk ofproto port) :=
  tied.unlinked [port.ofpPort] (bundleDelPort_links bridge xdk ofproto port)
    (bundleDelPort_nextBundle bridge xdk ofproto port)

end Tied

theorem releaseIntf_links
    (bridge : Bridge)
    (xdk : Xdk)
    (ofproto : Ofproto count)
    (bundle : Bundle count) :
    (releaseIntf bridge xdk ofproto bundle).links = ofproto.links ∧
      (releaseIntf bridge xdk ofproto bundle).nextBundle = ofproto.nextBundle := by
  unfold releaseIntf
  simp only
  split
  · split <;> exact ⟨rfl, rfl⟩
  · exact ⟨rfl, rfl⟩

/-- `bundle_destroy` unlinks the ports of the bundle and takes it out of the
table. -/
theorem bundleDestroy_links
    {ofproto : Ofproto count}
    (tied : Tied bridge ofproto)
    {bundle : Bundle count}
    (member : bundle ∈ ofproto.bundles) :
    (bundleDestroy bridge xdk ofproto bundle.id).links =
        (bundle.ports.foldl Backlinks.unlink ofproto.links).close bundle.id ∧
      (bundleDestroy bridge xdk ofproto bundle.id).nextBundle = ofproto.nextBundle := by
  obtain ⟨released, releasedNext⟩ := releaseIntf_links bridge xdk ofproto bundle
  obtain ⟨deleted, deletedNext⟩ := foldl_bundleDelPort_links bridge xdk
    (bundle.ports.filterMap bridge.port?) (releaseIntf bridge xdk ofproto bundle)
  rw [map_ofpPort_filterMap (tied.known member), released] at deleted
  unfold bundleDestroy
  rw [tied.bundle?_eq_some.mpr ⟨member, rfl⟩]
  refine ⟨?_, deletedNext.trans releasedNext⟩
  rw [← deleted]
  exact Backlinks.ext rfl (KeyedList.map_remove_view fun _ => rfl)

theorem Tied.bundleDestroy
    {ofproto : Ofproto count}
    (tied : Tied bridge ofproto)
    (id : Nat) :
    Tied bridge (Bundles.bundleDestroy bridge xdk ofproto id) := by
  cases found : ofproto.bundle? id with
  | none =>
      unfold Bundles.bundleDestroy
      rw [found]
      exact tied
  | some bundle =>
      obtain ⟨member, rfl⟩ := tied.bundle?_eq_some.mp found
      obtain ⟨links, next⟩ := @bundleDestroy_links _ _ xdk _ tied _ member
      obtain ⟨owner, lists⟩ := tied.linked.foldl_unlink bundle.ports
      have unlinked : (bundle.ports.foldl Backlinks.unlink ofproto.links).Linked :=
        tied.linked.of_unlinked bundle.ports owner lists
      have empty : ∀ ofpPort, (bundle.ports.foldl Backlinks.unlink ofproto.links).owner
          ofpPort ≠ some bundle.id := by
        intro ofpPort owned
        rw [owner] at owned
        split at owned
        · contradiction
        · rename_i outside
          exact outside ((tied.points member).mp owned)
      refine ⟨links ▸ unlinked.close empty, ?_, ?_⟩
      · intro entry listed
        rw [links] at listed
        have stays := (KeyedList.mem_remove.mp listed).1
        rw [lists] at stays
        obtain ⟨old, oldListed, rfl⟩ := List.mem_map.mp stays
        rw [next]
        exact tied.below old oldListed
      · intro ofpPort owned
        have pointer : (Bundles.bundleDestroy bridge xdk ofproto bundle.id).portBundle
            ofpPort = if ofpPort ∈ bundle.ports then none
              else ofproto.portBundle ofpPort := by
          rw [← links_owner, links]
          exact owner ofpPort
        rw [pointer] at owned
        split at owned
        · contradiction
        · exact tied.arePorts ofpPort owned

/-! ## Moving a port -/

/-- The call of the XDK in `ofproto_xpliant_bundle_remove` succeeds, if it is
made. -/
def RemovalAccepted (bridge : Bridge) (xdk : Xdk) (ofproto : Ofproto count)
    (ofpPort : Nat) : Prop :=
  ∀ bundle, (ofproto.portBundle ofpPort).bind ofproto.bundle? = some bundle →
    bundle.intfId ≠ bridge.intfInvalidId → xdk.succeeds ofproto.dev.calls = true

instance (bridge : Bridge) (xdk : Xdk) (ofproto : Ofproto count) (ofpPort : Nat) :
    Decidable (RemovalAccepted bridge xdk ofproto ofpPort) :=
  inferInstanceAs (Decidable (∀ bundle ∈ (ofproto.portBundle ofpPort).bind ofproto.bundle?,
    bundle.intfId ≠ bridge.intfInvalidId → xdk.succeeds ofproto.dev.calls = true))

/-- What `ofproto_xpliant_bundle_remove` does to the links. -/
theorem bundleRemove_links
    {ofproto : Ofproto count}
    (tied : Tied bridge ofproto)
    (port : OfPort) :
    (bundleRemove bridge xdk ofproto port).nextBundle = ofproto.nextBundle ∧
      ((bundleRemove bridge xdk ofproto port).links = ofproto.links ∧
          (RemovalAccepted bridge xdk ofproto port.ofpPort →
            ofproto.portBundle port.ofpPort = none) ∨
        (bundleRemove bridge xdk ofproto port).links =
          ofproto.links.unlink port.ofpPort ∨
        ∃ id, ofproto.portBundle port.ofpPort = some id ∧
          (∀ ofpPort, (ofproto.links.unlink port.ofpPort).owner ofpPort ≠ some id) ∧
          (bundleRemove bridge xdk ofproto port).links =
            (ofproto.links.unlink port.ofpPort).close id) := by
  unfold bundleRemove
  cases owner : ofproto.portBundle port.ofpPort with
  | none => exact ⟨rfl, .inl ⟨rfl, fun _ => rfl⟩⟩
  | some id =>
      obtain ⟨bundle, found⟩ := tied.bundle?_of_portBundle owner
      obtain ⟨member, rfl⟩ := tied.bundle?_eq_some.mp found
      rw [Option.bind_some, found]
      simp only
      have rejected : (if bundle.intfId ≠ bridge.intfInvalidId then
          ofproto.dev.call xdk fun hw =>
            { hw with frameTypes := Function.update hw.frameTypes bundle.intfId .all }
          else (true, ofproto.dev)).1 = false →
          ¬ RemovalAccepted bridge xdk ofproto port.ofpPort := by
        intro fails accepted
        split at fails
        · rename_i valid
          have succeeds := accepted bundle (by rw [owner, Option.bind_some, found]) valid
          rw [Dev.call, if_pos succeeds] at fails
          contradiction
        · contradiction
      generalize (if bundle.intfId ≠ bridge.intfInvalidId then _ else _ : Bool × Dev) =
        result at rejected ⊢
      obtain ⟨setField, dev⟩ := result
      cases setField with
      | false =>
          exact ⟨rfl, .inl ⟨rfl, fun accepted => absurd accepted (rejected rfl)⟩⟩
      | true =>
          simp only [Bool.not_true, Bool.false_eq_true, if_false]
          have called : Tied bridge { ofproto with dev := dev } := tied.of_links rfl rfl
          have links := bundleDelPort_links bridge xdk { ofproto with dev := dev } port
          have next := bundleDelPort_nextBundle bridge xdk { ofproto with dev := dev } port
          have deleted : Tied bridge
              (bundleDelPort bridge xdk { ofproto with dev := dev } port) :=
            called.bundleDelPort port
          split
          · rename_i isEmpty
            obtain ⟨last, foundLast, noPorts⟩ := Option.any_eq_true _ _ |>.mp isEmpty
            obtain ⟨lastMember, sameId⟩ := deleted.bundle?_eq_some.mp foundLast
            have noPorts := List.isEmpty_iff.mp noPorts
            obtain ⟨destroyed, destroyedNext⟩ :=
              @bundleDestroy_links _ _ xdk _ deleted _ lastMember
            rw [sameId, noPorts, List.foldl_nil, links] at destroyed
            rw [sameId] at destroyedNext
            refine ⟨destroyedNext.trans next, .inr (.inr ⟨bundle.id, rfl, ?_, destroyed⟩)⟩
            intro ofpPort owned
            have pointer : (bundleDelPort bridge xdk { ofproto with dev := dev }
                port).portBundle ofpPort = some last.id := by
              rw [← links_owner, links, sameId]
              exact owned
            have inside := (deleted.points lastMember).mp pointer
            rw [noPorts] at inside
            exact List.not_mem_nil inside
          · exact ⟨next, .inr (.inl links)⟩

theorem Tied.bundleRemove
    {ofproto : Ofproto count}
    (tied : Tied bridge ofproto)
    (port : OfPort) :
    Tied bridge (Bundles.bundleRemove bridge xdk ofproto port) := by
  obtain ⟨next, ⟨same, _⟩ | unlinked | ⟨id, _, empty, closed⟩⟩ :=
    @bundleRemove_links _ _ xdk _ tied port
  · exact tied.of_links same next
  · exact tied.unlinked [port.ofpPort] unlinked next
  · have between : Tied bridge (Bundles.bundleDelPort bridge xdk ofproto port) :=
      tied.bundleDelPort port
    have links := bundleDelPort_links bridge xdk ofproto port
    refine between.closed ?_ (links ▸ closed)
      (next.trans (bundleDelPort_nextBundle bridge xdk ofproto port).symm)
    intro ofpPort
    rw [← links_owner, links]
    exact empty ofpPort

/-- After an accepted removal the port is free; other ports and bundles that do not
have the port are as before. -/
theorem bundleRemove_free
    {ofproto : Ofproto count}
    (tied : Tied bridge ofproto)
    (port : OfPort)
    (accepted : RemovalAccepted bridge xdk ofproto port.ofpPort) :
    (∀ ofpPort, (bundleRemove bridge xdk ofproto port).portBundle ofpPort =
        if ofpPort = port.ofpPort then none else ofproto.portBundle ofpPort) ∧
      ∀ id, ofproto.portBundle port.ofpPort ≠ some id →
        id ∈ ofproto.links.lists.map Prod.fst →
          id ∈ (bundleRemove bridge xdk ofproto port).links.lists.map Prod.fst := by
  have unlinkOwner : ∀ ofpPort, (ofproto.links.unlink port.ofpPort).owner ofpPort =
      if ofpPort = port.ofpPort then none else ofproto.portBundle ofpPort := by
    intro ofpPort
    rw [Backlinks.Linked.unlink_owner, Function.update_apply]
    rfl
  have unlinkGroups : (ofproto.links.unlink port.ofpPort).lists.map Prod.fst =
      ofproto.links.lists.map Prod.fst := by
    rw [tied.linked.unlink_lists, List.map_map]
    rfl
  obtain ⟨_, ⟨same, free⟩ | unlinked | ⟨old, owner, _, closed⟩⟩ :=
    @bundleRemove_links _ _ xdk _ tied port
  · refine ⟨?_, ?_⟩
    · intro ofpPort
      rw [← links_owner, same, links_owner]
      split
      · rename_i isPort
        rw [isPort]
        exact free accepted
      · rfl
    · rw [same]
      exact fun _ _ listed => listed
  · refine ⟨?_, ?_⟩
    · intro ofpPort
      rw [← links_owner, unlinked]
      exact unlinkOwner ofpPort
    · rw [unlinked, unlinkGroups]
      exact fun _ _ listed => listed
  · refine ⟨?_, ?_⟩
    · intro ofpPort
      rw [← links_owner, closed]
      exact unlinkOwner ofpPort
    · intro id notOwner listed
      rw [← unlinkGroups] at listed
      obtain ⟨entry, entryListed, rfl⟩ := List.mem_map.mp listed
      rw [closed]
      refine List.mem_map_of_mem (KeyedList.mem_remove.mpr ⟨entryListed, ?_⟩)
      intro isOld
      exact notOwner (owner.trans (congrArg some isOld.symm))

/-- A bundle while its ports are being added: it exists and has slaves only. -/
structure Loading (bridge : Bridge) (slaves : List Nat) (id : Nat)
    (ofproto : Ofproto count) : Prop where
  tied : Tied bridge ofproto
  exist : id ∈ ofproto.links.lists.map Prod.fst
  within : ∀ ofpPort, ofproto.portBundle ofpPort = some id → ofpPort ∈ slaves

/-- No move of a port from another bundle is given up by the XDK. -/
def MovesAccepted (bridge : Bridge) (xdk : Xdk) (id : Nat) :
    List Nat → Ofproto count → Prop
  | [], _ => True
  | ofpPort :: slaves, ofproto =>
      ((bridge.port? ofpPort).isSome = true → ofproto.portBundle ofpPort ≠ some id →
        RemovalAccepted bridge xdk ofproto ofpPort) ∧
      MovesAccepted bridge xdk id slaves (bundleAddPort bridge xdk id ofproto ofpPort)

instance decidableMovesAccepted (bridge : Bridge) (xdk : Xdk) (id : Nat) :
    (slaves : List Nat) → (ofproto : Ofproto count) →
      Decidable (MovesAccepted bridge xdk id slaves ofproto)
  | [], _ => .isTrue trivial
  | ofpPort :: slaves, ofproto =>
      have := decidableMovesAccepted bridge xdk id slaves
        (bundleAddPort bridge xdk id ofproto ofpPort)
      inferInstanceAs (Decidable (_ ∧ _))

namespace Loading

variable {ofproto : Ofproto count} {slaves : List Nat} {id : Nat}

/-- A slave that is free is put into the bundle. -/
theorem of_link
    {after : Ofproto count}
    {ofpPort : Nat}
    (tied : Tied bridge ofproto)
    (exist : id ∈ ofproto.links.lists.map Prod.fst)
    (free : ofproto.portBundle ofpPort = none)
    (isPort : (bridge.port? ofpPort).isSome = true)
    (within : ∀ other, ofproto.portBundle other = some id → other ∈ slaves)
    (isSlave : ofpPort ∈ slaves)
    (links : after.links = ofproto.links.link id ofpPort)
    (next : after.nextBundle = ofproto.nextBundle) :
    Loading bridge slaves id after := by
  have pointer : ∀ other, after.portBundle other =
      if other = ofpPort then some id else ofproto.portBundle other := by
    intro other
    rw [← links_owner, links]
    exact Function.update_apply ofproto.portBundle ofpPort (some id) other
  have groups : after.links.lists.map Prod.fst = ofproto.links.lists.map Prod.fst := by
    rw [links]
    exact Backlinks.map_fst_onList ofproto.links.lists id (· ++ [ofpPort])
  refine ⟨⟨links ▸ tied.linked.link free exist, ?_, ?_⟩, groups ▸ exist, ?_⟩
  · intro entry listed
    have known : entry.1 ∈ after.links.lists.map Prod.fst := List.mem_map_of_mem listed
    rw [groups] at known
    obtain ⟨old, oldListed, same⟩ := List.mem_map.mp known
    rw [next, ← same]
    exact tied.below old oldListed
  · intro other owned
    rw [pointer] at owned
    split at owned
    · rename_i same
      rw [same]
      exact isPort
    · exact tied.arePorts other owned
  · intro other owned
    rw [pointer] at owned
    split at owned
    · rename_i same
      rw [same]
      exact isSlave
    · exact within other owned

theorem bundleAddPort
    (loading : Loading bridge slaves id ofproto)
    {ofpPort : Nat}
    (isSlave : ofpPort ∈ slaves)
    (accepted : (bridge.port? ofpPort).isSome = true →
      ofproto.portBundle ofpPort ≠ some id →
        RemovalAccepted bridge xdk ofproto ofpPort) :
    Loading bridge slaves id (Bundles.bundleAddPort bridge xdk id ofproto ofpPort) := by
  unfold Bundles.bundleAddPort
  cases found : bridge.port? ofpPort with
  | none => exact loading
  | some port =>
      simp only
      split
      · exact loading
      rename_i elsewhere
      rw [found] at accepted
      have number : port.ofpPort = ofpPort := (mem_of_port? found).2
      subst number
      have removed : Tied bridge (bundleRemove bridge xdk ofproto port) :=
        loading.tied.bundleRemove port
      obtain ⟨owner, stays⟩ :=
        bundleRemove_free loading.tied port (accepted rfl elsewhere)
      have exist := stays id elsewhere loading.exist
      have free : (bundleRemove bridge xdk ofproto port).portBundle port.ofpPort = none := by
        rw [owner, if_pos rfl]
      have others : ∀ other, (bundleRemove bridge xdk ofproto port).portBundle other =
          some id → other ∈ slaves := by
        intro other owned
        rw [owner] at owned
        split at owned
        · contradiction
        · exact loading.within other owned
      refine of_link removed exist free (found ▸ rfl) others isSlave ?_ rfl
      exact Backlinks.ext rfl (KeyedList.map_rewrite_view (fun _ => rfl) fun _ => rfl)

theorem foldl_bundleAddPort
    (loading : Loading bridge slaves id ofproto)
    {ofpPorts : List Nat}
    (areSlaves : ∀ ofpPort ∈ ofpPorts, ofpPort ∈ slaves)
    (accepted : MovesAccepted bridge xdk id ofpPorts ofproto) :
    Loading bridge slaves id
      (ofpPorts.foldl (Bundles.bundleAddPort bridge xdk id) ofproto) := by
  induction ofpPorts generalizing ofproto with
  | nil => exact loading
  | cons ofpPort ofpPorts inductionHypothesis =>
      exact inductionHypothesis
        (loading.bundleAddPort (areSlaves ofpPort List.mem_cons_self) accepted.1)
        (fun other member => areSlaves other (List.mem_cons_of_mem _ member)) accepted.2

/-- A port that was added points to the bundle, and the others point where they
did. -/
theorem bundleAddPort_portBundle
    (tied : Tied bridge ofproto)
    {ofpPort : Nat}
    (accepted : RemovalAccepted bridge xdk ofproto ofpPort)
    (other : Nat) :
    (Bundles.bundleAddPort bridge xdk id ofproto ofpPort).portBundle other =
      if other = ofpPort ∧ (bridge.port? ofpPort).isSome = true then some id
      else ofproto.portBundle other := by
  unfold Bundles.bundleAddPort
  cases found : bridge.port? ofpPort with
  | none => simp
  | some port =>
      have number : port.ofpPort = ofpPort := (mem_of_port? found).2
      subst number
      simp only [Option.isSome_some, and_true]
      by_cases inside : ofproto.portBundle port.ofpPort = some id
      · rw [if_pos inside]
        split
        · rename_i same
          rw [same, inside]
        · rfl
      · rw [if_neg inside]
        obtain ⟨owner, _⟩ := bundleRemove_free tied port accepted
        change Function.update (bundleRemove bridge xdk ofproto port).portBundle
          port.ofpPort (some id) other = _
        rw [Function.update_apply, owner]
        split <;> rfl

/-- Every slave that is a port points to the bundle in the end. -/
theorem foldl_bundleAddPort_points
    (loading : Loading bridge slaves id ofproto)
    {ofpPorts : List Nat}
    (areSlaves : ∀ ofpPort ∈ ofpPorts, ofpPort ∈ slaves)
    (accepts : xdk.Accepts)
    {ofpPort : Nat}
    (points : ofproto.portBundle ofpPort = some id ∨
      ofpPort ∈ ofpPorts ∧ (bridge.port? ofpPort).isSome = true) :
    (ofpPorts.foldl (Bundles.bundleAddPort bridge xdk id) ofproto).portBundle ofpPort =
      some id := by
  induction ofpPorts generalizing ofproto with
  | nil => exact points.resolve_right fun later => absurd later.1 List.not_mem_nil
  | cons first ofpPorts inductionHypothesis =>
      have accepted : RemovalAccepted bridge xdk ofproto first := fun _ _ _ => accepts _
      refine inductionHypothesis
        (loading.bundleAddPort (areSlaves first List.mem_cons_self) fun _ _ => accepted)
        (fun other member => areSlaves other (List.mem_cons_of_mem _ member)) ?_
      rw [bundleAddPort_portBundle loading.tied accepted]
      by_cases now : ofpPort = first ∧ (bridge.port? first).isSome = true
      · exact .inl (if_pos now)
      · rw [if_neg now]
        rcases points with already | ⟨listed, known⟩
        · exact .inl already
        · refine .inr ⟨(List.mem_cons.mp listed).resolve_left fun same => ?_, known⟩
          exact now ⟨same, same ▸ known⟩

/-- A bundle has no more ports than slaves. -/
theorem length_ports_le
    (loading : Loading bridge slaves id ofproto)
    {bundle : Bundle count}
    (found : ofproto.bundle? id = some bundle) :
    bundle.ports.length ≤ slaves.length := by
  obtain ⟨member, rfl⟩ := loading.tied.bundle?_eq_some.mp found
  have nodup : bundle.ports.Nodup :=
    loading.tied.linked.itemsNodup (bundle.id, bundle.ports) (List.mem_map_of_mem member)
  refine (List.Nodup.subperm nodup ?_).length_le
  intro ofpPort inside
  exact loading.within ofpPort ((loading.tied.points member).mpr inside)

end Loading

/-! ## The rest of the call -/

theorem bundleCreateRemoveHwLag_links
    (bridge : Bridge)
    (xdk : Xdk)
    (ofproto : Ofproto count)
    (bundle : Bundle count)
    (s : Settings count) :
    (bundleCreateRemoveHwLag bridge xdk ofproto bundle s).2.links = ofproto.links ∧
      (bundleCreateRemoveHwLag bridge xdk ofproto bundle s).2.nextBundle =
        ofproto.nextBundle := by
  unfold bundleCreateRemoveHwLag
  split
  · rcases lagCreate xdk ofproto.dev with ⟨lagId, dev⟩
    cases lagId with
    | none => exact ⟨rfl, rfl⟩
    | some lagId => exact ⟨links_modify fun _ _ _ => ⟨rfl, rfl⟩, rfl⟩
  · split
    · exact ⟨links_modify fun _ _ _ => ⟨rfl, rfl⟩, rfl⟩
    · exact ⟨rfl, rfl⟩

/-- `bundle_update_vlan_config` leaves the ports of the bundle alone. -/
theorem bundleUpdateVlanConfig_ports
    (bridge : Bridge)
    (xdk : Xdk)
    (dev : Dev)
    (bundle : Bundle count)
    (s : Settings count) :
    (bundleUpdateVlanConfig bridge xdk dev bundle s).2.1.id = bundle.id ∧
      (bundleUpdateVlanConfig bridge xdk dev bundle s).2.1.ports = bundle.ports := by
  unfold bundleUpdateVlanConfig
  rcases trunksToCompare bridge.toEnv xdk dev bundle s with ⟨errno, oldTrunks, between⟩
  cases errno with
  | some errno => exact ⟨rfl, rfl⟩
  | none =>
      simp only
      split <;> exact ⟨rfl, rfl⟩

namespace Tied

variable {ofproto : Ofproto count}

theorem bundleUpdateSingleSlaveConfig
    (tied : Tied bridge ofproto)
    (bundle : Bundle count) :
    Tied bridge (Bundles.bundleUpdateSingleSlaveConfig bridge xdk ofproto bundle).2 := by
  unfold Bundles.bundleUpdateSingleSlaveConfig
  cases bundle.ports.head?.bind bridge.port? with
  | none => exact tied
  | some port =>
      simp only
      split
      · exact tied
      split
      · exact tied.bundleDestroy bundle.id
      · exact tied.of_links (links_modify fun _ _ _ => ⟨rfl, rfl⟩) rfl

theorem bundleConfigureL2
    (tied : Tied bridge ofproto)
    (bundle : Bundle count)
    (s : Settings count) :
    Tied bridge (Bundles.bundleConfigureL2 bridge xdk ofproto bundle s).2 := by
  have single : Tied bridge (if !bundle.isLag && s.slaves.length == 1 then
      Bundles.bundleUpdateSingleSlaveConfig bridge xdk ofproto bundle
      else (none, ofproto)).2 := by
    split
    · exact tied.bundleUpdateSingleSlaveConfig bundle
    · exact tied
  unfold Bundles.bundleConfigureL2
  generalize (if !bundle.isLag && s.slaves.length == 1 then _ else _ :
    Option Errno × Ofproto count) = result at single ⊢
  obtain ⟨errno, between⟩ := result
  cases errno with
  | some errno => exact single
  | none =>
      cases found : between.bundle? bundle.id with
      | none => simpa only [found] using single
      | some current =>
          simp only [found]
          split
          · obtain ⟨sameId, samePorts⟩ :=
              bundleUpdateVlanConfig_ports bridge xdk between.dev current s
            obtain ⟨member, _⟩ := single.bundle?_eq_some.mp found
            refine single.of_links (links_modify ?_) rfl
            intro other otherMember selected
            have same : other = current := by
              have nodup := single.linked.groupsNodup
              rw [map_fst_links] at nodup
              exact List.inj_on_of_nodup_map nodup otherMember member
                (selected.trans sameId)
            rw [same]
            exact ⟨sameId, samePorts⟩
          · exact single

end Tied

/-- The state in which `ofproto_xpliant_bundle_set` starts to add ports, with the
bundle. -/
def bundleDropPorts (bridge : Bridge) (xdk : Xdk) (ofproto : Ofproto count)
    (bundle : Bundle count) (s : Settings count) : Ofproto count :=
  ((bundle.ports.filter (· ∉ s.slaves)).filterMap bridge.port?).foldl
    (bundleDelPort bridge xdk) ofproto

theorem Tied.bundleDropPorts
    {ofproto : Ofproto count}
    (tied : Tied bridge ofproto)
    {bundle : Bundle count}
    (member : bundle ∈ ofproto.bundles)
    (s : Settings count) :
    Loading bridge s.slaves bundle.id
      (Bundles.bundleDropPorts bridge xdk ofproto bundle s) := by
  obtain ⟨links, next⟩ := foldl_bundleDelPort_links bridge xdk
    ((bundle.ports.filter (· ∉ s.slaves)).filterMap bridge.port?) ofproto
  rw [map_ofpPort_filterMap fun ofpPort inside =>
    tied.known member ofpPort (List.mem_of_mem_filter inside)] at links
  obtain ⟨owner, lists⟩ := tied.linked.foldl_unlink (bundle.ports.filter (· ∉ s.slaves))
  rw [← links] at owner lists
  refine ⟨tied.unlinked _ links next, ?_, ?_⟩
  · unfold Bundles.bundleDropPorts
    rw [lists, List.map_map]
    exact List.mem_map.mpr ⟨(bundle.id, bundle.ports), List.mem_map_of_mem member, rfl⟩
  · intro ofpPort owned
    rw [← links_owner, Bundles.bundleDropPorts, owner, links_owner] at owned
    split at owned
    · contradiction
    · rename_i stays
      by_contra notSlave
      have inside := (tied.points member).mp owned
      exact stays (List.mem_filter.mpr ⟨inside, by simpa using notSlave⟩)

theorem Tied.bundleSetPorts
    {ofproto : Ofproto count}
    (tied : Tied bridge ofproto)
    {bundle : Bundle count}
    (member : bundle ∈ ofproto.bundles)
    (s : Settings count)
    (accepted : MovesAccepted bridge xdk bundle.id s.slaves
      (Bundles.bundleDropPorts bridge xdk ofproto bundle s)) :
    Tied bridge (Bundles.bundleSetPorts bridge xdk ofproto bundle s).2 := by
  have added := ((tied.bundleDropPorts member s).foldl_bundleAddPort
    (fun _ isSlave => isSlave) accepted).tied
  unfold Bundles.bundleDropPorts at added
  unfold Bundles.bundleSetPorts
  simp only
  generalize s.slaves.foldl (bundleAddPort bridge xdk bundle.id) _ = between at added ⊢
  cases between.bundle? bundle.id with
  | none => exact added
  | some current =>
      simp only
      split
      · exact added.bundleDestroy current.id
      generalize (if current.isLag then _ else _ : Ending × Dev) = result
      obtain ⟨ending, dev⟩ := result
      have attached : Tied bridge { between with dev := dev } := added.of_links rfl rfl
      dsimp only
      split
      · exact attached.bundleConfigureL2 current s
      · exact attached

/-- Where `ofproto_xpliant_bundle_set` starts to change the ports of a bundle, if
it gets that far. -/
def bundleSetStart (bridge : Bridge) (xdk : Xdk) (ofproto : Ofproto count) (aux : Nat)
    (s : Settings count) : Option (Bundle count × Ofproto count) :=
  let (id, ofproto) := bundleObtain bridge ofproto aux s.name
  match ofproto.bundle? id with
  | none => none
  | some bundle =>
      let (errno, ofproto) := bundleCreateRemoveHwLag bridge xdk ofproto bundle s
      if s.bondHandleAllocOnly || errno.isSome then none
      else (ofproto.bundle? id).map fun bundle => (bundle, ofproto)

/-- The XDK lets `ofproto_xpliant_bundle_set` take slaves from other bundles. -/
def SlavesAccepted (bridge : Bridge) (xdk : Xdk) (ofproto : Ofproto count) (aux : Nat)
    (s : Settings count) : Prop :=
  ∀ bundle start, bundleSetStart bridge xdk ofproto aux s = some (bundle, start) →
    MovesAccepted bridge xdk bundle.id s.slaves
      (bundleDropPorts bridge xdk start bundle s)

instance (bridge : Bridge) (xdk : Xdk) (ofproto : Ofproto count) (aux : Nat)
    (s : Settings count) : Decidable (SlavesAccepted bridge xdk ofproto aux s) :=
  decidable_of_iff (∀ start ∈ bundleSetStart bridge xdk ofproto aux s,
      MovesAccepted bridge xdk start.1.id s.slaves
        (bundleDropPorts bridge xdk start.2 start.1 s))
    ⟨fun accepted bundle start starts => accepted (bundle, start) starts,
      fun accepted start starts => accepted start.1 start.2 starts⟩

/-- The assertion of `ofproto_xpliant_bundle_set` about the number of ports. -/
def PortsAsserted (bridge : Bridge) (xdk : Xdk) (ofproto : Ofproto count) (aux : Nat)
    (s : Settings count) : Prop :=
  ∀ bundle start, bundleSetStart bridge xdk ofproto aux s = some (bundle, start) →
    ∀ current, (s.slaves.foldl (bundleAddPort bridge xdk bundle.id)
        (bundleDropPorts bridge xdk start bundle s)).bundle? bundle.id = some current →
      current.ports.length ≤ s.slaves.length

theorem Tied.bundleObtain
    {ofproto : Ofproto count}
    (tied : Tied bridge ofproto)
    (aux : Nat)
    (name : String) :
    Tied bridge (Bundles.bundleObtain bridge ofproto aux name).2 := by
  unfold Bundles.bundleObtain
  cases bundleLookup ofproto aux with
  | some bundle => exact tied.of_links (links_modify fun _ _ _ => ⟨rfl, rfl⟩) rfl
  | none =>
      have fresh : ofproto.nextBundle ∉ ofproto.links.lists.map Prod.fst := by
        intro listed
        obtain ⟨entry, entryListed, same⟩ := List.mem_map.mp listed
        have below := tied.below entry entryListed
        omega
      refine ⟨tied.linked.found fresh, ?_, tied.arePorts⟩
      intro entry listed
      rcases List.mem_cons.mp listed with rfl | old
      · exact Nat.lt_succ_self _
      · exact Nat.lt_succ_of_lt (tied.below entry old)

/-- The state where the ports start to change. -/
theorem Tied.bundleSetStart
    {ofproto start : Ofproto count}
    {aux : Nat}
    {s : Settings count}
    {bundle : Bundle count}
    (tied : Tied bridge ofproto)
    (starts : Bundles.bundleSetStart bridge xdk ofproto aux s = some (bundle, start)) :
    Tied bridge start ∧ bundle ∈ start.bundles := by
  have obtained : Tied bridge (Bundles.bundleObtain bridge ofproto aux s.name).2 :=
    tied.bundleObtain aux s.name
  unfold Bundles.bundleSetStart at starts
  rcases result : Bundles.bundleObtain bridge ofproto aux s.name with ⟨id, between⟩
  rw [result] at obtained
  simp only [result] at starts
  cases found : between.bundle? id with
  | none => simp [found] at starts
  | some current =>
      simp only [found] at starts
      obtain ⟨links, next⟩ := bundleCreateRemoveHwLag_links bridge xdk between current s
      have configured := obtained.of_links links next
      split at starts
      · contradiction
      obtain ⟨_, found, same⟩ := Option.map_eq_some_iff.mp starts
      obtain ⟨rfl, rfl⟩ := Prod.mk.inj same
      exact ⟨configured, (configured.bundle?_eq_some.mp found).1⟩

theorem Tied.portsAsserted
    {ofproto : Ofproto count}
    {aux : Nat}
    {s : Settings count}
    (tied : Tied bridge ofproto)
    (accepted : SlavesAccepted bridge xdk ofproto aux s) :
    PortsAsserted bridge xdk ofproto aux s := by
  intro bundle start starts current found
  obtain ⟨startTied, member⟩ := tied.bundleSetStart starts
  exact ((startTied.bundleDropPorts member s).foldl_bundleAddPort
    (fun _ isSlave => isSlave) (accepted bundle start starts)).length_ports_le found

theorem Tied.bundleSet
    {ofproto : Ofproto count}
    (tied : Tied bridge ofproto)
    (aux : Nat)
    (settings : Option (Settings count))
    (accepted : ∀ s, settings = some s → SlavesAccepted bridge xdk ofproto aux s) :
    Tied bridge (Bundles.bundleSet bridge xdk ofproto aux settings).2 := by
  unfold Bundles.bundleSet
  cases settings with
  | none =>
      cases bundleLookup ofproto aux with
      | none => exact tied
      | some bundle => exact tied.bundleDestroy bundle.id
  | some s =>
      have accepted := accepted s rfl
      have obtained : Tied bridge (Bundles.bundleObtain bridge ofproto aux s.name).2 :=
        tied.bundleObtain aux s.name
      unfold SlavesAccepted Bundles.bundleSetStart at accepted
      rcases result : Bundles.bundleObtain bridge ofproto aux s.name with ⟨id, between⟩
      rw [result] at obtained
      simp only [result] at accepted ⊢
      cases found : between.bundle? id with
      | none => exact obtained
      | some bundle =>
          obtain ⟨links, next⟩ := bundleCreateRemoveHwLag_links bridge xdk between bundle s
          have configured := obtained.of_links links next
          simp only [found] at accepted ⊢
          split
          · exact configured
          rename_i continues
          rw [if_neg continues] at accepted
          cases refound : (bundleCreateRemoveHwLag bridge xdk between bundle s).2.bundle?
            id with
          | none => exact configured
          | some current =>
              obtain ⟨member, _⟩ := configured.bundle?_eq_some.mp refound
              refine configured.bundleSetPorts member s (accepted current _ ?_)
              rw [refound]
              rfl

/-! ## Runs -/

/-- A call that gives a LAG its ports counts the slaves to the end. -/
def Settings.Counted (s : Settings count) : Prop :=
  s.bondHandleAllocOnly = false → s.hwBondShouldExist = true → s.slaves.length < 256

instance (s : Settings count) : Decidable s.Counted :=
  inferInstanceAs (Decidable (_ → _ → _))

/-- The slaves of an operation are counted to the end. -/
def Operation.Counted (operation : Operation count) : Prop :=
  ∀ aux s, operation.event = .bundleSet aux (some s) → s.Counted

/-- Up to 255 slaves are counted to the end. -/
theorem bundleUpdateHwLagConfig_of_lt
    {dev : Dev}
    {bundle : Bundle count}
    {s : Settings count}
    (few : s.slaves.length < 256) :
    bundleUpdateHwLagConfig bridge xdk dev bundle s =
      match lagIfList bridge s.slaves with
      | none => (.returned (some .EINVAL), dev)
      | some ifList =>
          let (errno, dev) := lagAttachPorts bridge.toEnv xdk dev bundle.intfId ifList
          (.returned errno, dev) := by
  unfold bundleUpdateHwLagConfig
  rw [List.take_of_length_le few.le]
  cases lagIfList bridge s.slaves with
  | none => rfl
  | some ifList => exact if_pos few

/-- Slaves may be taken from other bundles; every other call of the XDK is free to
fail. -/
def MovesAdmissible (bridge : Bridge) (ofproto : Ofproto bridge.vlanMaxCount)
    (operation : Operation bridge.vlanMaxCount) : Prop :=
  match operation.event with
  | .bundleSet aux settings => ∀ s, settings = some s →
      SlavesAccepted bridge operation.xdk ofproto aux s
  | _ => True

theorem movesAccepted_of_accepts
    (accepts : xdk.Accepts)
    (id : Nat)
    (slaves : List Nat)
    (ofproto : Ofproto count) :
    MovesAccepted bridge xdk id slaves ofproto := by
  induction slaves generalizing ofproto with
  | nil => trivial
  | cons slave slaves inductionHypothesis =>
      exact ⟨fun _ _ _ _ _ => accepts _, inductionHypothesis _⟩

theorem movesAdmissible_of_accepts
    {ofproto : Ofproto bridge.vlanMaxCount}
    {operation : Operation bridge.vlanMaxCount}
    (accepts : operation.xdk.Accepts) :
    MovesAdmissible bridge ofproto operation := by
  unfold MovesAdmissible
  split
  · exact fun _ _ _ _ _ => movesAccepted_of_accepts accepts _ _ _
  · trivial

/-- An ofproto without bundles. -/
def Unbundled (ofproto : Ofproto count) : Prop :=
  ofproto.bundles = [] ∧ ∀ ofpPort, ofproto.portBundle ofpPort = none

/-- A port points to a bundle if it is once in the list of the bundle and in no
other list, and no pointer leads to a bundle that was freed. -/
structure PortsConsistent (ofproto : Ofproto count) : Prop where
  pointers : ∀ bundle ∈ ofproto.bundles, ∀ ofpPort,
    ofproto.portBundle ofpPort = some bundle.id ↔
      bundle.ports.count ofpPort = 1 ∧
        ∀ other ∈ ofproto.bundles, other.id ≠ bundle.id → ofpPort ∉ other.ports
  noneFreed : ∀ ofpPort id, ofproto.portBundle ofpPort = some id →
    ∃ bundle ∈ ofproto.bundles, bundle.id = id

theorem Unbundled.tied {ofproto : Ofproto count} (unbundled : Unbundled ofproto) :
    Tied bridge ofproto := by
  have lists : ofproto.links.lists = [] := by
    unfold Ofproto.links
    rw [unbundled.1, List.map_nil]
  refine ⟨⟨?_, ?_, ?_⟩, ?_, fun ofpPort owned => absurd (unbundled.2 ofpPort) owned⟩
  · rw [lists]
    exact List.nodup_nil
  · rw [lists]
    exact fun _ listed => absurd listed List.not_mem_nil
  · intro ofpPort id
    rw [links_owner, unbundled.2, lists]
    simp
  · rw [lists]
    exact fun _ listed => absurd listed List.not_mem_nil

theorem Tied.step
    {ofproto : Ofproto bridge.vlanMaxCount}
    {operation : Operation bridge.vlanMaxCount}
    (tied : Tied bridge ofproto)
    (admissible : MovesAdmissible bridge ofproto operation) :
    Tied bridge (Bundles.step bridge ofproto operation) := by
  unfold Bundles.step
  unfold MovesAdmissible at admissible
  cases event : operation.event with
  | bundleSet aux settings =>
      rw [event] at admissible
      exact tied.bundleSet aux settings admissible
  | bundleRemove ofpPort =>
      simp only
      cases bridge.port? ofpPort with
      | none => exact tied
      | some port => exact tied.bundleRemove port
  | setVlan vid add => exact tied.of_links rfl rfl

theorem Tied.portsConsistent
    {ofproto : Ofproto count}
    (tied : Tied bridge ofproto) :
    PortsConsistent ofproto where
  pointers bundle member ofpPort := by
    have listed : (bundle.id, bundle.ports) ∈ ofproto.links.lists :=
      List.mem_map_of_mem member
    rw [← links_owner, tied.linked.owner_iff_count listed]
    refine and_congr_right fun _ => ⟨?_, ?_⟩
    · intro elsewhere other otherMember different
      exact elsewhere (other.id, other.ports) (List.mem_map_of_mem otherMember) different
    · intro elsewhere entry entryListed different
      obtain ⟨other, otherMember, rfl⟩ := List.mem_map.mp entryListed
      exact elsewhere other otherMember different
  noneFreed ofpPort id owned := by
    obtain ⟨bundle, found⟩ := tied.bundle?_of_portBundle owned
    exact ⟨bundle, tied.bundle?_eq_some.mp found⟩

theorem portsConsistent_of_reached
    {ofproto : Ofproto bridge.vlanMaxCount}
    (reached : Transition.Reach Unbundled
      (fun ofproto operation => MovesAdmissible bridge ofproto operation ∧ operation.Counted)
      (step bridge) ofproto) :
    PortsConsistent ofproto ∧
      ∀ operation aux s, MovesAdmissible bridge ofproto operation → operation.Counted →
        operation.event = .bundleSet aux (some s) →
          PortsAsserted bridge operation.xdk ofproto aux s := by
  have tied : Tied bridge ofproto :=
    reached.invariant (Tied bridge) (fun _ unbundled => unbundled.tied)
      fun _ _ tied admissible => tied.step admissible.1
  refine ⟨tied.portsConsistent, ?_⟩
  intro operation aux s admissible _ event
  unfold MovesAdmissible at admissible
  rw [event] at admissible
  exact tied.portsAsserted (admissible s rfl)

/-! ## A bridge with two ports -/

/-- A port of the switch. -/
def systemPort (ofpPort : Nat) (name : String) (ifId : Nat) : OfPort where
  ofpPort := ofpPort
  name := name
  type := .system
  isXpliantClass := true
  ifId := ifId
  portNum := ofpPort

/-- A bridge of two ports with the given interface ids and the VLAN ids of
802.1Q. -/
abbrev sampleBridge (first second : Nat) : Bridge where
  toEnv := sampleEnv
  ports := [systemPort 1 "1" first, systemPort 2 "2" second]
  ofpPort_nodup := by simp [systemPort]
  name_nodup := by simp [systemPort]

/-- The device of a bridge before anything was configured. -/
def sampleOfproto (bridge : Bridge) : Ofproto bridge.vlanMaxCount where
  dev :=
    { table := fun vid => ⟨vid == defaultVlanId, []⟩
      ifIdToName := []
      hw :=
        { vlans := fun vid => if vid = defaultVlanId then some [] else none
          lags := []
          ports := fun _ => ⟨defaultVlanId, true⟩
          frameTypes := fun _ => .all }
      calls := 0 }
  portBundle := fun _ => none
  bundles := []
  nextBundle := 0
  destroyedLags := []

/-- Every call succeeds, and a LAG gets the given interface id. -/
def sampleXdk (lagId : Nat) : Xdk := ⟨fun _ => true, fun _ => lagId⟩

/-- A bundle with one VLAN in its trunks. -/
def trunkSettings (name : String) (slaves : List Nat) (hwBond : Bool) (vid : Nat) :
    Settings 4096 where
  name := name
  slaves := slaves
  hwBondShouldExist := hwBond
  bondHandleAllocOnly := false
  vlanMode := .trunk
  vlan := -1
  trunks := some (BitVec.twoPow 4096 vid)

/-- An operation of the switch daemon that creates a LAG with the given id. -/
def operate (event : Event 4096) (lagId : Nat) : Operation 4096 :=
  ⟨event, sampleXdk lagId, .id⟩

/-- The XDK accepts the first calls, up to a number. -/
def acceptingXdk (last lagId : Nat) : Xdk := ⟨(· ≤ last), fun _ => lagId⟩

/-- A port moves to a LAG that lists it twice, and another slave that is no port.
The LAG is made and the frame type set; every later call fails. -/
def movingRun : List (Operation 4096) :=
  [operate (.bundleSet 1 (some (trunkSettings "1" [1] false 10))) 100,
   ⟨.bundleSet 2 (some (trunkSettings "lag" [1, 2, 1, 9] true 10)),
    acceptingXdk 3 100, .id⟩]

theorem portsConsistent_movingRun :
    PortsConsistent (Transition.run (step (sampleBridge 1 2)) (sampleOfproto _)
      movingRun) := by
  have guarded : Transition.Guarded (fun ofproto operation =>
        MovesAdmissible (sampleBridge 1 2) ofproto operation ∧ operation.Counted)
      (step (sampleBridge 1 2)) (sampleOfproto _) movingRun := by
    refine ⟨⟨?_, ?_⟩, ⟨?_, ?_⟩, trivial⟩
    · rintro _ ⟨⟩
      decide +kernel
    · rintro _ _ ⟨⟩
      decide
    · rintro _ ⟨⟩
      decide +kernel
    · rintro _ _ ⟨⟩
      decide
  exact (portsConsistent_of_reached
    (Transition.Reach.of_run (.start ⟨rfl, fun _ => rfl⟩) guarded)).1

/-- The frame type of the old bundle cannot be set while its port moves. -/
def strandingRun : List (Operation 4096) :=
  [operate (.bundleSet 1 (some (trunkSettings "1" [1] false 10))) 100,
   ⟨.bundleSet 2 (some (trunkSettings "2" [1] false 10)), acceptingXdk 0 100, .id⟩]

/-- The port is in the lists of two bundles. -/
theorem not_portsConsistent_strandingRun :
    Unbundled (sampleOfproto (sampleBridge 1 2)) ∧
      (∀ bundle ∈ (Transition.run (step (sampleBridge 1 2)) (sampleOfproto _)
        strandingRun).bundles, 1 ∈ bundle.ports) ∧
      ¬ PortsConsistent (Transition.run (step (sampleBridge 1 2)) (sampleOfproto _)
        strandingRun) := by
  refine ⟨⟨rfl, fun _ => rfl⟩, by decide +kernel, ?_⟩
  intro consistent
  have agrees : ∀ bundle ∈ (Transition.run (step (sampleBridge 1 2)) (sampleOfproto _)
      strandingRun).bundles, _ :=
    fun bundle member => consistent.pointers bundle member 1
  exact absurd agrees (by decide +kernel)

end Bundles
end XpliantSwitchd
