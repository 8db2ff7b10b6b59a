import XpliantSwitchd.Bundles.Coherence

/-!
# Ports that join and leave bundles

The functions that move a port change the port lists of bundles, the membership
of the port in the default VLAN, and may destroy a bundle that has lost its last
port.  The core of a bundle is what coherence speaks about, so a change of port
lists keeps the cores.
-/

namespace XpliantSwitchd
namespace Bundles

open Vlans

variable {count : Nat} {bridge : Bridge} {tracked : Prop} {xdk : Xdk}

/-- A bundle without its ports. -/
def Bundle.core (bundle : Bundle count) : Bundle count :=
  { bundle with aux := 0, ports := [], portsUpdated := false }

@[simp] theorem core_id (bundle : Bundle count) : bundle.core.id = bundle.id := rfl

@[simp] theorem core_name (bundle : Bundle count) : bundle.core.name = bundle.name :=
  rfl

@[simp] theorem core_intfId (bundle : Bundle count) :
    bundle.core.intfId = bundle.intfId := rfl

@[simp] theorem core_isLag (bundle : Bundle count) :
    bundle.core.isLag = bundle.isLag := rfl

@[simp] theorem core_isTrunked (bundle : Bundle count) (vid : Nat) :
    bundle.core.isTrunked vid = bundle.isTrunked vid := rfl

/-- The bundles of an ofproto without their ports. -/
def Ofproto.cores (ofproto : Ofproto count) : List (Bundle count) :=
  ofproto.bundles.map Bundle.core

/-- The device is coherent with a list of bundles, none of which is newer than
the latest one of the ofproto. -/
def Holds (bridge : Bridge) (tracked : Prop) (ofproto : Ofproto count)
    (bundles : List (Bundle count)) : Prop :=
  (∀ bundle ∈ bundles, bundle.id < ofproto.nextBundle) ∧
    ∃ members, Represents bridge.toEnv ofproto.dev members ∧
      Coherent bridge tracked bundles members ofproto.destroyedLags

theorem map_id_cores (ofproto : Ofproto count) :
    ofproto.cores.map (·.id) = ofproto.bundles.map (·.id) := by
  unfold Ofproto.cores
  rw [List.map_map]
  rfl

theorem cores_remove (ofproto : Ofproto count) (id : Nat) :
    (KeyedList.remove (·.id) id ofproto.bundles).map Bundle.core =
      KeyedList.remove (·.id) id ofproto.cores := by
  unfold KeyedList.remove Ofproto.cores
  rw [List.filter_map]
  rfl

/-- A write that keeps the core of the bundle. -/
theorem cores_modify
    {ofproto : Ofproto count}
    {id : Nat}
    {change : Bundle count → Bundle count}
    (keeps : ∀ bundle ∈ ofproto.bundles, bundle.id = id →
      (change bundle).core = bundle.core) :
    (ofproto.modify id change).cores = ofproto.cores :=
  KeyedList.map_rewrite keeps

theorem mem_cores {ofproto : Ofproto count} {bundle : Bundle count}
    (member : bundle ∈ ofproto.bundles) :
    bundle.core ∈ ofproto.cores :=
  List.mem_map_of_mem member

namespace Holds

variable {ofproto : Ofproto count} {bundles : List (Bundle count)}

theorem perm
    {others : List (Bundle count)}
    (holds : Holds bridge tracked ofproto bundles)
    (same : bundles.Perm others) :
    Holds bridge tracked ofproto others := by
  obtain ⟨below, members, represents, coherent⟩ := holds
  exact ⟨fun bundle member => below bundle (same.mem_iff.mpr member), members,
    represents, coherent.perm same⟩

/-- Only the table matters of the device. -/
theorem of_table
    {other : Ofproto count}
    (holds : Holds bridge tracked ofproto bundles)
    (sameTable : other.dev.table = ofproto.dev.table)
    (sameLags : other.destroyedLags = ofproto.destroyedLags)
    (sameNext : other.nextBundle = ofproto.nextBundle) :
    Holds bridge tracked other bundles := by
  obtain ⟨below, members, represents, coherent⟩ := holds
  refine ⟨?_, members, represents.of_table sameTable, ?_⟩
  · rw [sameNext]
    exact below
  · rw [sameLags]
    exact coherent

theorem idsNodup (holds : Holds bridge tracked ofproto ofproto.cores) :
    (ofproto.bundles.map (·.id)).Nodup := by
  obtain ⟨_, members, _, coherent⟩ := holds
  rw [← map_id_cores]
  exact coherent.owned.idsNodup

theorem bundle?_eq_some
    (holds : Holds bridge tracked ofproto ofproto.cores)
    {id : Nat}
    {bundle : Bundle count} :
    ofproto.bundle? id = some bundle ↔ bundle ∈ ofproto.bundles ∧ bundle.id = id :=
  KeyedList.find?_key_eq_some holds.idsNodup

/-- One bundle in front of the others. -/
theorem focus
    (holds : Holds bridge tracked ofproto ofproto.cores)
    {id : Nat}
    {bundle : Bundle count}
    (found : ofproto.bundle? id = some bundle) :
    ofproto.cores.Perm (bundle.core :: KeyedList.remove (·.id) id ofproto.cores) := by
  obtain ⟨member, selected⟩ := holds.bundle?_eq_some.mp found
  rw [← cores_remove]
  exact (KeyedList.perm_cons_remove holds.idsNodup member selected).map Bundle.core

/-- One bundle, after it was written to, in front of the others. -/
theorem focus_modify
    (holds : Holds bridge tracked ofproto ofproto.cores)
    {id : Nat}
    {bundle : Bundle count}
    (found : ofproto.bundle? id = some bundle)
    (change : Bundle count → Bundle count) :
    (ofproto.modify id change).cores.Perm
      ((change bundle).core :: KeyedList.remove (·.id) id ofproto.cores) := by
  obtain ⟨member, selected⟩ := holds.bundle?_eq_some.mp found
  rw [← cores_remove]
  exact (KeyedList.rewrite_perm holds.idsNodup member selected change).map Bundle.core

end Holds

/-! ## The default VLAN -/

/-- `bundle_del_port` makes the port a member of the default VLAN. -/
theorem joinDefaultVlan_spec
    {env : Env}
    {dev : Dev}
    {members : VlanRoster}
    (represents : Represents env dev members)
    (accepts : xdk.Accepts)
    (port : OfPort) :
    ∃ after : VlanRoster,
      Represents env (joinDefaultVlan env xdk dev port) after ∧
      after.exist = members.exist ∧
      (∀ vid peer, vid ≠ defaultVlanId ∨ peer ≠ port.ifId →
        after.label vid peer = members.label vid peer) ∧
      (members.label defaultVlanId port.ifId ≠ none →
        after.label defaultVlanId port.ifId ≠ none) := by
  unfold joinDefaultVlan
  split
  · split
    · rename_i notMember
      obtain ⟨joined, _⟩ :=
        represents.memberAdd accepts defaultVlanId port.ifId .untagged
      refine ⟨_, joined, rfl, ?_, ?_⟩
      · intro vid peer different
        exact Roster.join_label_of_ne different
      · intro labelled
        have isMember := represents.isMember_eq defaultVlanId port.ifId
        rw [Option.isSome_iff_ne_none.mpr labelled] at isMember
        rw [isMember] at notMember
        contradiction
    · obtain ⟨after, tagged, exist, others, same⟩ :=
        represents.memberSetTagging accepts defaultVlanId port.ifId false
      refine ⟨after, ?_, exist, others, fun labelled absent => labelled (same.mp absent)⟩
      exact tagged.of_table (portDefaultVlanSet_spec accepts _ _ _).2
  · exact ⟨members, represents, rfl, fun _ _ _ => rfl, id⟩

/-! ## What happens to port lists -/

/-- A port leaves the bundles: they keep their cores, some may have lost the
port from their lists, and some may have gone. -/
structure Loses (ofpPort : Nat) (before after : Ofproto count) : Prop where
  bundles : ∀ bundle ∈ after.bundles, ∃ old ∈ before.bundles,
    bundle.core = old.core ∧
      (bundle.ports = old.ports ∨ bundle.ports = old.ports.erase ofpPort)
  portBundle : ∀ other, other ≠ ofpPort →
    after.portBundle other = before.portBundle other

theorem Loses.refl (ofpPort : Nat) (ofproto : Ofproto count) :
    Loses ofpPort ofproto ofproto where
  bundles bundle member := ⟨bundle, member, rfl, .inl rfl⟩
  portBundle _ _ := rfl

theorem bundleDelPort_loses
    (bridge : Bridge)
    (xdk : Xdk)
    (ofproto : Ofproto count)
    (port : OfPort) :
    Loses port.ofpPort ofproto (bundleDelPort bridge xdk ofproto port) := by
  unfold bundleDelPort
  cases ofproto.portBundle port.ofpPort with
  | none => exact .refl _ _
  | some id =>
      refine ⟨?_, ?_⟩
      · intro bundle member
        rcases KeyedList.mem_rewrite.mp member with
          ⟨old, oldMember, _, rfl⟩ | ⟨same, _⟩
        · exact ⟨old, oldMember, rfl, .inr rfl⟩
        · exact ⟨bundle, same, rfl, .inl rfl⟩
      · intro other different
        exact Function.update_of_ne different _ _

theorem bundleDelPort_cores
    (bridge : Bridge)
    (xdk : Xdk)
    (ofproto : Ofproto count)
    (port : OfPort) :
    (bundleDelPort bridge xdk ofproto port).cores = ofproto.cores := by
  unfold bundleDelPort
  cases ofproto.portBundle port.ofpPort with
  | none => rfl
  | some id => exact cores_modify fun _ _ _ => rfl

theorem foldl_bundleDelPort_cores
    (bridge : Bridge)
    (xdk : Xdk)
    (ports : List OfPort)
    (ofproto : Ofproto count) :
    (ports.foldl (bundleDelPort bridge xdk) ofproto).cores = ofproto.cores := by
  induction ports generalizing ofproto with
  | nil => rfl
  | cons port ports inductionHypothesis =>
      rw [List.foldl_cons, inductionHypothesis, bundleDelPort_cores]

theorem mem_of_port? {ofpPort : Nat} {port : OfPort}
    (found : bridge.port? ofpPort = some port) :
    port ∈ bridge.ports ∧ port.ofpPort = ofpPort :=
  (KeyedList.find?_key_eq_some bridge.ofpPort_nodup).mp found

theorem mem_of_mem_filterMap_port? {ofpPorts : List Nat} {port : OfPort}
    (member : port ∈ ofpPorts.filterMap bridge.port?) :
    port ∈ bridge.ports ∧ port.ofpPort ∈ ofpPorts := by
  obtain ⟨ofpPort, listed, found⟩ := List.mem_filterMap.mp member
  obtain ⟨isPort, number⟩ := mem_of_port? found
  exact ⟨isPort, number ▸ listed⟩

namespace Holds

variable {ofproto : Ofproto count} {bundles : List (Bundle count)}

theorem bundleDelPort
    (holds : Holds bridge tracked ofproto bundles)
    (accepts : xdk.Accepts)
    {port : OfPort}
    (isPort : port ∈ bridge.ports) :
    Holds bridge tracked (Bundles.bundleDelPort bridge xdk ofproto port) bundles := by
  unfold Bundles.bundleDelPort
  cases ofproto.portBundle port.ofpPort with
  | none => exact holds
  | some id =>
      obtain ⟨below, members, represents, coherent⟩ := holds
      obtain ⟨after, joined, exist, others, kept⟩ :=
        joinDefaultVlan_spec represents accepts port
      refine ⟨below, after, joined, coherent.portDefault (List.mem_map_of_mem isPort) exist
        others ?_⟩
      intro _ bundle _ _ _ labelled
      exact kept labelled

theorem foldl_bundleDelPort
    (holds : Holds bridge tracked ofproto bundles)
    (accepts : xdk.Accepts)
    (ports : List OfPort)
    (arePorts : ∀ port ∈ ports, port ∈ bridge.ports) :
    Holds bridge tracked (ports.foldl (Bundles.bundleDelPort bridge xdk) ofproto)
      bundles := by
  induction ports generalizing ofproto with
  | nil => exact holds
  | cons port ports inductionHypothesis =>
      exact inductionHypothesis
        (holds.bundleDelPort accepts (arePorts port List.mem_cons_self))
        fun other member => arePorts other (List.mem_cons_of_mem _ member)

/-- The interface of a bundle that is destroyed leaves every VLAN. -/
theorem releaseIntf
    (distinct : bridge.IntfsDistinct)
    (accepts : xdk.Accepts)
    {bundle : Bundle count}
    (holds : Holds bridge tracked ofproto (bundle.core :: bundles)) :
    Holds bridge tracked (Bundles.releaseIntf bridge xdk ofproto bundle) bundles := by
  obtain ⟨below, members, represents, coherent⟩ := holds
  have cleared := represents.portClearAllMembership accepts bundle.intfId
  have dropped : Coherent bridge tracked bundles (members.leaveAll bundle.intfId)
      (if bundle.isLag then bundle.intfId :: ofproto.destroyedLags
        else ofproto.destroyedLags) :=
    coherent.drop distinct
  have belowRest : ∀ other ∈ bundles, other.id < ofproto.nextBundle :=
    fun other member => below other (List.mem_cons_of_mem _ member)
  unfold Bundles.releaseIntf
  simp only
  cases isLag : bundle.isLag with
  | true =>
      have valid : bundle.intfId ≠ bridge.intfInvalidId :=
        (coherent.owned.lagBound bundle.core List.mem_cons_self isLag).1
      rw [isLag, if_pos rfl] at dropped
      rw [if_pos valid, if_pos rfl]
      exact ⟨belowRest, _, cleared.of_table (lagDestroy_table _ _ _ _), dropped⟩
  | false =>
      rw [isLag, if_neg Bool.false_ne_true] at dropped
      split
      · exact ⟨belowRest, _, cleared.of_table rfl, dropped⟩
      · exact ⟨belowRest, _, cleared, dropped⟩

theorem bundleDestroy
    (holds : Holds bridge tracked ofproto ofproto.cores)
    (distinct : bridge.IntfsDistinct)
    (accepts : xdk.Accepts)
    (id : Nat) :
    Holds bridge tracked (Bundles.bundleDestroy bridge xdk ofproto id)
      (Bundles.bundleDestroy bridge xdk ofproto id).cores := by
  unfold Bundles.bundleDestroy
  cases found : ofproto.bundle? id with
  | none => exact holds
  | some bundle =>
      have released := releaseIntf distinct accepts (holds.perm (holds.focus found))
      have arePorts : ∀ port ∈ bundle.ports.filterMap bridge.port?,
          port ∈ bridge.ports := fun port member =>
        (mem_of_mem_filterMap_port? member).1
      have deleted := released.foldl_bundleDelPort accepts _ arePorts
      have sameBundles : (Bundles.releaseIntf bridge xdk ofproto bundle).cores =
          ofproto.cores := by
        unfold Bundles.releaseIntf
        simp only
        split
        · split <;> rfl
        · rfl
      simp only
      have remaining := cores_remove ((bundle.ports.filterMap bridge.port?).foldl
        (Bundles.bundleDelPort bridge xdk)
        (Bundles.releaseIntf bridge xdk ofproto bundle)) id
      rw [foldl_bundleDelPort_cores, sameBundles] at remaining
      unfold Ofproto.cores at remaining ⊢
      rw [remaining]
      exact deleted.of_table rfl rfl rfl

/-- The device of an ofproto after a call that touches the hardware only. -/
theorem onHw
    (holds : Holds bridge tracked ofproto bundles)
    (effect : Hw → Hw) :
    Holds bridge tracked { ofproto with dev := (ofproto.dev.call xdk effect).2 }
      bundles :=
  holds.of_table (call_table _ _ _) rfl rfl

theorem bundleRemove
    (holds : Holds bridge tracked ofproto ofproto.cores)
    (distinct : bridge.IntfsDistinct)
    (accepts : xdk.Accepts)
    {port : OfPort}
    (isPort : port ∈ bridge.ports) :
    Holds bridge tracked (Bundles.bundleRemove bridge xdk ofproto port)
      (Bundles.bundleRemove bridge xdk ofproto port).cores := by
  unfold Bundles.bundleRemove
  cases (ofproto.portBundle port.ofpPort).bind ofproto.bundle? with
  | none => exact holds
  | some bundle =>
      simp only
      have called : ∀ dev : Dev, dev.table = ofproto.dev.table →
          Holds bridge tracked { ofproto with dev := dev } ofproto.cores :=
        fun dev sameTable => holds.of_table sameTable rfl rfl
      have table : (if bundle.intfId ≠ bridge.intfInvalidId then
          ofproto.dev.call xdk fun hw =>
            { hw with frameTypes := Function.update hw.frameTypes bundle.intfId .all }
          else (true, ofproto.dev)).2.table = ofproto.dev.table := by
        split
        · exact call_table _ _ _
        · rfl
      generalize (if bundle.intfId ≠ bridge.intfInvalidId then _ else _ :
        Bool × Dev) = result at table ⊢
      have deleted := (called result.2 table).bundleDelPort accepts isPort
      have sameCores := bundleDelPort_cores bridge xdk
        { ofproto with dev := result.2 } port
      split
      · exact called result.2 table
      · change Holds bridge tracked _ ofproto.cores at deleted
        rw [show ofproto.cores = _ from sameCores.symm] at deleted
        split
        · exact deleted.bundleDestroy distinct accepts bundle.id
        · exact deleted

end Holds

/-- Destroying a bundle without ports touches no port. -/
theorem bundleDestroy_of_empty
    (bridge : Bridge)
    (xdk : Xdk)
    {ofproto : Ofproto count}
    {id : Nat}
    (empty : (ofproto.bundle? id).any (·.ports.isEmpty) = true) :
    (bundleDestroy bridge xdk ofproto id).bundles =
        KeyedList.remove (·.id) id ofproto.bundles ∧
      (bundleDestroy bridge xdk ofproto id).portBundle = ofproto.portBundle := by
  unfold bundleDestroy
  cases found : ofproto.bundle? id with
  | none => simp [found] at empty
  | some bundle =>
      have noPorts : bundle.ports = [] := by simpa [found] using empty
      simp only [noPorts, List.filterMap_nil, List.foldl_nil]
      unfold releaseIntf
      simp only
      split
      · split <;> exact ⟨rfl, rfl⟩
      · exact ⟨rfl, rfl⟩

theorem bundleRemove_loses
    (bridge : Bridge)
    (xdk : Xdk)
    (ofproto : Ofproto count)
    (port : OfPort) :
    Loses port.ofpPort ofproto (bundleRemove bridge xdk ofproto port) := by
  unfold bundleRemove
  cases (ofproto.portBundle port.ofpPort).bind ofproto.bundle? with
  | none => exact .refl _ _
  | some bundle =>
      simp only
      generalize (if bundle.intfId ≠ bridge.intfInvalidId then _ else _ :
        Bool × Dev) = result
      have same : Loses port.ofpPort ofproto { ofproto with dev := result.2 } :=
        ⟨fun other member => ⟨other, member, rfl, .inl rfl⟩, fun _ _ => rfl⟩
      have deleted : Loses port.ofpPort ofproto
          (bundleDelPort bridge xdk { ofproto with dev := result.2 } port) := by
        have loses := bundleDelPort_loses bridge xdk
          { ofproto with dev := result.2 } port
        exact ⟨loses.bundles, loses.portBundle⟩
      split
      · exact same
      split
      · rename_i empty
        obtain ⟨bundles, portBundle⟩ := bundleDestroy_of_empty bridge xdk empty
        refine ⟨?_, ?_⟩
        · intro other member
          rw [bundles] at member
          exact deleted.bundles other (KeyedList.mem_remove.mp member).1
        · intro other different
          rw [portBundle]
          exact deleted.portBundle other different
      · exact deleted

/-- A bundle goes when its only port is removed. -/
theorem bundleRemove_gone
    (accepts : xdk.Accepts)
    {ofproto : Ofproto count}
    (nodup : (ofproto.bundles.map (·.id)).Nodup)
    {bundle : Bundle count}
    (member : bundle ∈ ofproto.bundles)
    {port : OfPort}
    (only : bundle.ports = [port.ofpPort])
    (points : ofproto.portBundle port.ofpPort = some bundle.id) :
    ∀ other ∈ (bundleRemove bridge xdk ofproto port).bundles, other.id ≠ bundle.id := by
  have found : ofproto.bundle? bundle.id = some bundle :=
    (KeyedList.find?_key_eq_some nodup).mpr ⟨member, rfl⟩
  have accepted : (if bundle.intfId ≠ bridge.intfInvalidId then
      ofproto.dev.call xdk fun hw =>
        { hw with frameTypes := Function.update hw.frameTypes bundle.intfId .all }
      else (true, ofproto.dev)).1 = true := by
    split
    · rw [accepts.call]
    · rfl
  unfold bundleRemove
  simp only [points, Option.bind_some, found]
  generalize (if bundle.intfId ≠ bridge.intfInvalidId then _ else _ :
    Bool × Dev) = result at accepted ⊢
  rw [accepted]
  have emptied : ((bundleDelPort bridge xdk { ofproto with dev := result.2 }
      port).bundle? bundle.id).any (·.ports.isEmpty) = true := by
    have rewritten : (bundleDelPort bridge xdk { ofproto with dev := result.2 }
        port).bundles = KeyedList.rewrite (·.id) bundle.id (fun bundle =>
          { bundle with
            ports := bundle.ports.erase port.ofpPort
            portsUpdated := true }) ofproto.bundles := by
      unfold bundleDelPort
      simp only [points]
      rfl
    have stillNodup : ((bundleDelPort bridge xdk { ofproto with dev := result.2 }
        port).bundles.map (·.id)).Nodup := by
      rw [← map_id_cores, bundleDelPort_cores]
      exact (map_id_cores ofproto).symm ▸ nodup
    have now : (bundleDelPort bridge xdk { ofproto with dev := result.2 }
        port).bundle? bundle.id = some { bundle with
          ports := bundle.ports.erase port.ofpPort
          portsUpdated := true } := by
      refine (KeyedList.find?_key_eq_some stillNodup).mpr ⟨?_, rfl⟩
      rw [rewritten]
      exact KeyedList.mem_rewrite.mpr (.inl ⟨bundle, member, rfl, rfl⟩)
    rw [now]
    simp [only]
  simp only [Bool.not_true, Bool.false_eq_true, if_false, emptied, if_true]
  intro other otherMember
  rw [(bundleDestroy_of_empty bridge xdk emptied).1] at otherMember
  exact (KeyedList.mem_remove.mp otherMember).2

/-! ## Adding ports -/

/-- Adding these ports takes no bundle that stays out of the default VLAN: a
bundle that owns the interface of such a port and has the default VLAN in its
trunks has no other port, and goes when the port moves. -/
def DefaultSafe (bridge : Bridge) (ofproto : Ofproto count) (id : Nat)
    (slaves : List Nat) : Prop :=
  ∀ ofpPort ∈ slaves, ∀ port, bridge.port? ofpPort = some port →
    port.type = .system → ofproto.portBundle ofpPort ≠ some id →
      ∀ bundle ∈ ofproto.bundles, bundle.intfId = port.ifId →
        bundle.isTrunked defaultVlanId = true →
          bundle.ports = [ofpPort] ∧ ofproto.portBundle ofpPort = some bundle.id

/-- Only bundles with the default VLAN in their trunks matter. -/
theorem DefaultSafe.of_trunked
    {before after : Ofproto count}
    {id : Nat}
    {slaves : List Nat}
    (safe : DefaultSafe bridge before id slaves)
    (samePointers : after.portBundle = before.portBundle)
    (known : ∀ bundle ∈ after.bundles, bundle.isTrunked defaultVlanId = true →
      ∃ old ∈ before.bundles, bundle.core = old.core ∧ bundle.ports = old.ports) :
    DefaultSafe bridge after id slaves := by
  intro ofpPort listed port found isSystem elsewhere bundle member sameIntf trunked
  obtain ⟨old, oldMember, sameCore, samePorts⟩ := known bundle member trunked
  rw [samePointers] at elsewhere ⊢
  rw [← core_intfId, sameCore] at sameIntf
  rw [← core_isTrunked, sameCore] at trunked
  have sameId : bundle.id = old.id := by rw [← core_id, sameCore, core_id]
  rw [samePorts, sameId]
  exact safe ofpPort listed port found isSystem elsewhere old oldMember sameIntf trunked

/-- The loss of another port does no harm. -/
theorem DefaultSafe.of_loses
    {before after : Ofproto count}
    {id lost : Nat}
    {slaves : List Nat}
    (safe : DefaultSafe bridge before id slaves)
    (loses : Loses lost before after)
    (other : lost ∉ slaves) :
    DefaultSafe bridge after id slaves := by
  intro ofpPort listed port found isSystem elsewhere bundle member sameIntf trunked
  have different : ofpPort ≠ lost := fun same => other (same ▸ listed)
  obtain ⟨old, oldMember, sameCore, ports⟩ := loses.bundles bundle member
  rw [loses.portBundle ofpPort different] at elsewhere ⊢
  rw [← core_intfId, sameCore] at sameIntf
  rw [← core_isTrunked, sameCore] at trunked
  obtain ⟨only, points⟩ :=
    safe ofpPort listed port found isSystem elsewhere old oldMember sameIntf trunked
  have sameId : bundle.id = old.id := by rw [← core_id, sameCore, core_id]
  refine ⟨?_, by rw [sameId]; exact points⟩
  rcases ports with same | erased
  · rw [same, only]
  · rw [erased, only, List.erase_of_not_mem (by simpa using different.symm)]

theorem DefaultSafe.foldl_bundleDelPort
    {ofproto : Ofproto count}
    {id : Nat}
    {slaves : List Nat}
    (safe : DefaultSafe bridge ofproto id slaves)
    (ports : List OfPort)
    (others : ∀ port ∈ ports, port.ofpPort ∉ slaves) :
    DefaultSafe bridge (ports.foldl (bundleDelPort bridge xdk) ofproto) id slaves := by
  induction ports generalizing ofproto with
  | nil => exact safe
  | cons port ports inductionHypothesis =>
      refine inductionHypothesis (safe.of_loses (bundleDelPort_loses bridge xdk _ port)
        (others port List.mem_cons_self)) ?_
      intro other member
      exact others other (List.mem_cons_of_mem _ member)

/-- What adding a port does besides the default VLAN. -/
theorem bundleAddPort_spec
    (bridge : Bridge)
    (xdk : Xdk)
    (id : Nat)
    {ofproto : Ofproto count}
    {ofpPort : Nat}
    {port : OfPort}
    (found : bridge.port? ofpPort = some port)
    (elsewhere : ofproto.portBundle ofpPort ≠ some id) :
    ∃ dev,
      bundleAddPort bridge xdk id ofproto ofpPort =
        { (bundleRemove bridge xdk ofproto port).modify id (fun bundle =>
            { bundle with ports := bundle.ports ++ [ofpPort], portsUpdated := true })
          with
          portBundle := Function.update
            (bundleRemove bridge xdk ofproto port).portBundle ofpPort (some id)
          dev := dev } ∧
      dev =
        if port.type = .system then
          (vlanMemberRemove bridge.toEnv xdk (bundleRemove bridge xdk ofproto port).dev
            defaultVlanId port.ifId).2
        else (bundleRemove bridge xdk ofproto port).dev := by
  refine ⟨_, ?_, rfl⟩
  unfold bundleAddPort
  simp only [found, if_neg elsewhere]
  rfl

theorem bundleAddPort_cores
    (bridge : Bridge)
    (xdk : Xdk)
    (id : Nat)
    {ofproto : Ofproto count}
    {ofpPort : Nat}
    {port : OfPort}
    (found : bridge.port? ofpPort = some port)
    (elsewhere : ofproto.portBundle ofpPort ≠ some id) :
    (bundleAddPort bridge xdk id ofproto ofpPort).cores =
      (bundleRemove bridge xdk ofproto port).cores := by
  obtain ⟨dev, equation, _⟩ := bundleAddPort_spec bridge xdk id found elsewhere
  rw [equation]
  exact cores_modify fun _ _ _ => rfl

theorem DefaultSafe.bundleAddPort
    {ofproto : Ofproto count}
    {id added : Nat}
    {slaves : List Nat}
    (safe : DefaultSafe bridge ofproto id slaves) :
    DefaultSafe bridge (Bundles.bundleAddPort bridge xdk id ofproto added) id slaves := by
  cases foundAdded : bridge.port? added with
  | none =>
      unfold Bundles.bundleAddPort
      rw [foundAdded]
      exact safe
  | some addedPort =>
      by_cases inside : ofproto.portBundle added = some id
      · unfold Bundles.bundleAddPort
        simp only [foundAdded, if_pos inside]
        exact safe
      obtain ⟨dev, equation, _⟩ := bundleAddPort_spec bridge xdk id foundAdded inside
      obtain ⟨_, number⟩ := mem_of_port? foundAdded
      have loses := bundleRemove_loses bridge xdk ofproto addedPort
      rw [number] at loses
      rw [equation]
      intro ofpPort listed port found isSystem elsewhere bundle member sameIntf trunked
      have different : ofpPort ≠ added := by
        rintro rfl
        exact elsewhere (Function.update_self _ _ _)
      have pointer : ∀ value, Function.update
          (bundleRemove bridge xdk ofproto addedPort).portBundle added value ofpPort =
          ofproto.portBundle ofpPort := by
        intro value
        rw [Function.update_of_ne different, loses.portBundle ofpPort different]
      change Function.update _ _ _ _ ≠ _ at elsewhere
      rw [pointer] at elsewhere
      change _ ∧ Function.update _ _ _ _ = _
      rw [pointer]
      have safeAfter : ∀ old ∈ (bundleRemove bridge xdk ofproto addedPort).bundles,
          old.intfId = port.ifId → old.isTrunked defaultVlanId = true →
            old.ports = [ofpPort] ∧ ofproto.portBundle ofpPort = some old.id := by
        intro old oldMember oldIntf oldTrunked
        obtain ⟨first, firstMember, sameCore, ports⟩ := loses.bundles old oldMember
        rw [← core_intfId, sameCore] at oldIntf
        rw [← core_isTrunked, sameCore] at oldTrunked
        obtain ⟨only, points⟩ := safe ofpPort listed port found isSystem elsewhere
          first firstMember oldIntf oldTrunked
        have sameId : old.id = first.id := by rw [← core_id, sameCore, core_id]
        refine ⟨?_, by rw [sameId]; exact points⟩
        rcases ports with same | erased
        · rw [same, only]
        · rw [erased, only, List.erase_of_not_mem (by simpa using different.symm)]
      rcases KeyedList.mem_rewrite.mp member with
        ⟨old, oldMember, isTarget, rfl⟩ | ⟨oldMember, _⟩
      · obtain ⟨_, points⟩ := safeAfter old oldMember sameIntf trunked
        rw [isTarget] at points
        exact absurd points elsewhere
      · exact safeAfter bundle oldMember sameIntf trunked

namespace Holds

variable {ofproto : Ofproto count}

theorem bundleAddPort
    (holds : Holds bridge tracked ofproto ofproto.cores)
    (distinct : bridge.IntfsDistinct)
    (accepts : xdk.Accepts)
    {id ofpPort : Nat}
    (safe : tracked → DefaultSafe bridge ofproto id [ofpPort]) :
    Holds bridge tracked (Bundles.bundleAddPort bridge xdk id ofproto ofpPort)
      (Bundles.bundleAddPort bridge xdk id ofproto ofpPort).cores := by
  cases found : bridge.port? ofpPort with
  | none =>
      unfold Bundles.bundleAddPort
      rw [found]
      exact holds
  | some port =>
      by_cases inside : ofproto.portBundle ofpPort = some id
      · unfold Bundles.bundleAddPort
        simp only [found, if_pos inside]
        exact holds
      obtain ⟨isPort, number⟩ := mem_of_port? found
      obtain ⟨below, members, represents, coherent⟩ :=
        holds.bundleRemove distinct accepts isPort
      rw [bundleAddPort_cores bridge xdk id found inside]
      obtain ⟨dev, equation, written⟩ := bundleAddPort_spec bridge xdk id found inside
      rw [equation]
      by_cases isSystem : port.type = .system
      · rw [if_pos isSystem] at written
        subst written
        obtain ⟨left, _⟩ := represents.memberRemove accepts defaultVlanId port.ifId
        refine ⟨below, _, left, coherent.portDefault (List.mem_map_of_mem isPort) rfl ?_ ?_⟩
        · intro vid peer different
          exact Roster.leave_label_of_ne different
        · intro track core coreMember sameIntf trunked _
          obtain ⟨bundle, member, rfl⟩ := List.mem_map.mp coreMember
          have loses := bundleRemove_loses bridge xdk ofproto port
          obtain ⟨old, oldMember, sameCore, _⟩ := loses.bundles bundle member
          rw [sameCore] at sameIntf trunked
          obtain ⟨only, points⟩ := safe track ofpPort List.mem_cons_self port found
            isSystem inside old oldMember sameIntf trunked
          rw [← number] at only points
          have gone := bundleRemove_gone accepts holds.idsNodup
            oldMember only points bundle member
          exact absurd (by rw [← core_id, sameCore, core_id]) gone
      · rw [if_neg isSystem] at written
        subst written
        exact ⟨below, members, represents, coherent⟩

theorem foldl_bundleAddPort
    (holds : Holds bridge tracked ofproto ofproto.cores)
    (distinct : bridge.IntfsDistinct)
    (accepts : xdk.Accepts)
    {id : Nat}
    (slaves : List Nat)
    (safe : tracked → DefaultSafe bridge ofproto id slaves) :
    Holds bridge tracked (slaves.foldl (Bundles.bundleAddPort bridge xdk id) ofproto)
      (slaves.foldl (Bundles.bundleAddPort bridge xdk id) ofproto).cores := by
  induction slaves generalizing ofproto with
  | nil => exact holds
  | cons ofpPort slaves inductionHypothesis =>
      refine inductionHypothesis (holds.bundleAddPort distinct accepts ?_) ?_
      · intro track other listed
        rw [List.mem_singleton.mp listed]
        exact safe track ofpPort List.mem_cons_self
      · intro track
        refine DefaultSafe.bundleAddPort ?_
        intro other listed
        exact safe track other (List.mem_cons_of_mem _ listed)

end Holds

end Bundles
end XpliantSwitchd
