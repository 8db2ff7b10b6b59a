import XpliantSwitchd.Bundles.Ports
import XpliantSwitchd.Lib.Transition

/-!
# Runs of a bridge

Each operation of the switch daemon keeps the device coherent with the bundles,
as long as bundles keep their names, a LAG is given up only without trunks, and
LAGs get interface ids of their own.
-/

namespace XpliantSwitchd
namespace Bundles

open Vlans

variable {count : Nat} {bridge : Bridge} {tracked : Prop} {xdk : Xdk}

/-- What a call of `ofproto_xpliant_bundle_set` with settings has to keep to. -/
structure BundleSetOk (bridge : Bridge) (tracked : Prop) (ofproto : Ofproto count)
    (xdk : Xdk) (aux : Nat) (s : Settings count) : Prop where
  nameKept : ∀ bundle, bundleLookup ofproto aux = some bundle → bundle.name = s.name
  nameFresh : bundleLookup ofproto aux = none →
    ∀ bundle ∈ ofproto.bundles, bundle.name ≠ s.name
  lagKept : ∀ bundle, bundleLookup ofproto aux = some bundle → bundle.isLag = true →
    s.hwBondShouldExist = true ∨ ∀ vid, bundle.isTrunked vid = false
  lagFresh : ∀ call, xdk.lagCreate call ≠ bridge.intfInvalidId ∧
    xdk.lagCreate call ∉ bridge.portIntfs ∧
    (∀ bundle ∈ ofproto.bundles, bundle.intfId ≠ xdk.lagCreate call) ∧
    (tracked → xdk.lagCreate call ∉ ofproto.destroyedLags)
  defaultSafe : tracked → DefaultSafe bridge ofproto
    ((bundleLookup ofproto aux).elim ofproto.nextBundle (·.id)) s.slaves

/-! ## The bundle of the call -/

/-- Two ofprotos with the same bundles, up to bundles without trunks. -/
structure Continues (before after : Ofproto count) : Prop where
  portBundle : after.portBundle = before.portBundle
  trunked : ∀ bundle ∈ after.bundles, ∀ vid, bundle.isTrunked vid = true →
    ∃ old ∈ before.bundles, bundle.core = old.core ∧ bundle.ports = old.ports

theorem Continues.defaultSafe
    {before after : Ofproto count}
    {id : Nat}
    {slaves : List Nat}
    (continues : Continues before after)
    (safe : DefaultSafe bridge before id slaves) :
    DefaultSafe bridge after id slaves :=
  safe.of_trunked continues.portBundle fun bundle member trunked =>
    continues.trunked bundle member defaultVlanId trunked

/-- A bundle is written to and has no trunks afterwards. -/
theorem Holds.continues_modify
    {ofproto : Ofproto count}
    {bundle : Bundle count}
    (holds : Holds bridge tracked ofproto ofproto.cores)
    (member : bundle ∈ ofproto.bundles)
    (change : Bundle count → Bundle count)
    (dev : Dev)
    (lags : List Nat)
    (untrunked : ∀ vid, (change bundle).isTrunked vid = false) :
    Continues ofproto
      { ofproto.modify bundle.id change with dev := dev, destroyedLags := lags } := by
  refine ⟨rfl, ?_⟩
  intro other otherMember vid trunked
  rcases KeyedList.mem_rewrite.mp otherMember with
    ⟨old, oldMember, oldId, rfl⟩ | ⟨old, _⟩
  · have same := List.inj_on_of_nodup_map holds.idsNodup oldMember member oldId
    rw [same, untrunked vid] at trunked
    contradiction
  · exact ⟨other, old, rfl, rfl⟩

/-- What `bundleObtain` gives to the rest of the call. -/
structure Obtained (bridge : Bridge) (tracked : Prop) (before : Ofproto count)
    (xdk : Xdk) (s : Settings count) (id : Nat) (after : Ofproto count) : Prop where
  holds : Holds bridge tracked after after.cores
  lagKept : ∀ bundle, after.bundle? id = some bundle → bundle.isLag = true →
    s.hwBondShouldExist = true ∨ ∀ vid, bundle.isTrunked vid = false
  lagFresh : ∀ call, xdk.lagCreate call ≠ bridge.intfInvalidId ∧
    xdk.lagCreate call ∉ bridge.portIntfs ∧
    (∀ bundle ∈ after.bundles, bundle.intfId ≠ xdk.lagCreate call) ∧
    (tracked → xdk.lagCreate call ∉ after.destroyedLags)
  continues : Continues before after

theorem Holds.bundleObtain_existing
    {ofproto : Ofproto count}
    (holds : Holds bridge tracked ofproto ofproto.cores)
    {aux : Nat}
    {s : Settings count}
    (ok : BundleSetOk bridge tracked ofproto xdk aux s)
    {bundle : Bundle count}
    (found : bundleLookup ofproto aux = some bundle) :
    Obtained bridge tracked ofproto xdk s bundle.id
      (ofproto.modify bundle.id fun bundle =>
        { bundle with portsUpdated := false, name := s.name }) := by
  have member := List.mem_of_find?_eq_some found
  have unique : ∀ other ∈ ofproto.bundles, other.id = bundle.id → other = bundle :=
    fun other otherMember sameId =>
      List.inj_on_of_nodup_map holds.idsNodup otherMember member sameId
  have keeps : ∀ other ∈ ofproto.bundles, other.id = bundle.id →
      ({ other with portsUpdated := false, name := s.name } : Bundle count).core =
        other.core := by
    intro other otherMember sameId
    rw [unique other otherMember sameId]
    unfold Bundle.core
    simp only
    rw [ok.nameKept bundle found]
  have sameCores := cores_modify keeps
  have written : Holds bridge tracked (ofproto.modify bundle.id fun bundle =>
      { bundle with portsUpdated := false, name := s.name }) ofproto.cores :=
    holds.of_table rfl rfl rfl
  rw [← sameCores] at written
  have known : ∀ other ∈ (ofproto.modify bundle.id fun bundle =>
      { bundle with portsUpdated := false, name := s.name }).bundles,
      ∃ old ∈ ofproto.bundles, other.core = old.core ∧ other.ports = old.ports := by
    intro other otherMember
    rcases KeyedList.mem_rewrite.mp otherMember with
      ⟨old, oldMember, sameId, rfl⟩ | ⟨old, _⟩
    · exact ⟨old, oldMember, keeps old oldMember sameId, rfl⟩
    · exact ⟨other, old, rfl, rfl⟩
  refine ⟨written, ?_, ?_, rfl, fun other otherMember _ _ => known other otherMember⟩
  · intro other otherFound isLag
    obtain ⟨otherMember, sameId⟩ := written.bundle?_eq_some.mp otherFound
    obtain ⟨old, oldMember, sameCore, _⟩ := known other otherMember
    have oldIs : old = bundle := by
      apply unique old oldMember
      rw [← sameId, ← core_id old, ← sameCore, core_id]
    rw [oldIs] at sameCore
    rw [← core_isLag, sameCore] at isLag
    rcases ok.lagKept bundle found isLag with should | untrunked
    · exact .inl should
    · right
      intro vid
      rw [← core_isTrunked, sameCore]
      exact untrunked vid
  · intro call
    obtain ⟨valid, notPort, unowned, undestroyed⟩ := ok.lagFresh call
    refine ⟨valid, notPort, ?_, undestroyed⟩
    intro other otherMember
    obtain ⟨old, oldMember, sameCore, _⟩ := known other otherMember
    rw [← core_intfId, sameCore]
    exact unowned old oldMember

theorem Holds.bundleObtain_new
    {ofproto : Ofproto count}
    (holds : Holds bridge tracked ofproto ofproto.cores)
    (distinct : bridge.IntfsDistinct)
    {aux : Nat}
    {s : Settings count}
    (ok : BundleSetOk bridge tracked ofproto xdk aux s)
    (missing : bundleLookup ofproto aux = none) :
    Obtained bridge tracked ofproto xdk s ofproto.nextBundle
      { ofproto with
        bundles := .new bridge ofproto.nextBundle aux s.name :: ofproto.bundles
        nextBundle := ofproto.nextBundle + 1 } := by
  obtain ⟨below, members, represents, coherent⟩ := holds
  have untrunked : ∀ vid, (Bundle.new bridge ofproto.nextBundle aux s.name :
      Bundle count).isTrunked vid = false := fun _ => rfl
  have freshId : ofproto.nextBundle ∉ ofproto.cores.map (·.id) := by
    intro listed
    obtain ⟨core, coreMember, sameId⟩ := List.mem_map.mp listed
    exact absurd (below core coreMember) (by omega)
  have freshName : s.name ∉ ofproto.cores.map (·.name) := by
    intro listed
    obtain ⟨core, coreMember, sameName⟩ := List.mem_map.mp listed
    obtain ⟨bundle, member, rfl⟩ := List.mem_map.mp coreMember
    exact ok.nameFresh missing bundle member sameName
  have owned : Owned bridge
      ((Bundle.new bridge ofproto.nextBundle aux s.name).core :: ofproto.cores) :=
    coherent.owned.cons _ freshId freshName
      (fun isLag => absurd isLag Bool.false_ne_true) (fun _ valid => absurd rfl valid)
  have lagsKnown : tracked → ∀ lagId ∈ ofproto.destroyedLags,
      lagId ≠ bridge.intfInvalidId ∧ lagId ∉ bridge.portIntfs ∧
        ∀ bundle ∈ (Bundle.new bridge ofproto.nextBundle aux s.name).core ::
          ofproto.cores, bundle.intfId ≠ lagId := by
    intro track lagId listed
    obtain ⟨valid, notPort, unowned⟩ := coherent.destroyed track lagId listed
    refine ⟨valid, notPort, ?_⟩
    intro bundle member
    rcases List.mem_cons.mp member with rfl | old
    · exact valid.symm
    · exact unowned bundle old
  have made : Holds bridge tracked
      { ofproto with
        bundles := .new bridge ofproto.nextBundle aux s.name :: ofproto.bundles
        nextBundle := ofproto.nextBundle + 1 }
      ((Bundle.new bridge ofproto.nextBundle aux s.name).core :: ofproto.cores) := by
    refine ⟨?_, members, represents, coherent.rebind distinct owned untrunked
      (fun trunks => absurd rfl trunks) lagsKnown⟩
    intro bundle member
    rcases List.mem_cons.mp member with rfl | old
    · exact Nat.lt_succ_self _
    · exact Nat.lt_succ_of_lt (below bundle old)
  refine ⟨made, ?_, ?_, rfl, ?_⟩
  · intro bundle found isLag
    obtain ⟨member, sameId⟩ := made.bundle?_eq_some.mp found
    rcases List.mem_cons.mp member with rfl | old
    · exact absurd isLag Bool.false_ne_true
    · exact absurd (below bundle.core (mem_cores old)) (by rw [core_id, sameId]; omega)
  · intro call
    obtain ⟨valid, notPort, unowned, undestroyed⟩ := ok.lagFresh call
    refine ⟨valid, notPort, ?_, undestroyed⟩
    intro bundle member
    rcases List.mem_cons.mp member with rfl | old
    · exact valid.symm
    · exact unowned bundle old
  · intro bundle member vid trunked
    rcases List.mem_cons.mp member with rfl | old
    · exact absurd trunked Bool.false_ne_true
    · exact ⟨bundle, old, rfl, rfl⟩

/-- `bundleObtain` keeps coherence. -/
theorem Holds.bundleObtain
    {ofproto : Ofproto count}
    (holds : Holds bridge tracked ofproto ofproto.cores)
    (distinct : bridge.IntfsDistinct)
    {aux : Nat}
    {s : Settings count}
    (ok : BundleSetOk bridge tracked ofproto xdk aux s) :
    Obtained bridge tracked ofproto xdk s (Bundles.bundleObtain bridge ofproto aux s.name).1
        (Bundles.bundleObtain bridge ofproto aux s.name).2 ∧
      (tracked → DefaultSafe bridge (Bundles.bundleObtain bridge ofproto aux s.name).2
        (Bundles.bundleObtain bridge ofproto aux s.name).1 s.slaves) := by
  have safe := ok.defaultSafe
  unfold Bundles.bundleObtain
  cases found : bundleLookup ofproto aux with
  | some bundle =>
      rw [found] at safe
      have obtained := holds.bundleObtain_existing ok found
      exact ⟨obtained, fun track => obtained.continues.defaultSafe (safe track)⟩
  | none =>
      rw [found] at safe
      have obtained := holds.bundleObtain_new distinct ok found
      exact ⟨obtained, fun track => obtained.continues.defaultSafe (safe track)⟩

/-! ## The LAG of the bundle -/

/-- A bundle without trunks gets another interface, or none. -/
theorem Holds.rebound
    {ofproto : Ofproto count}
    (holds : Holds bridge tracked ofproto ofproto.cores)
    (distinct : bridge.IntfsDistinct)
    {bundle : Bundle count}
    (found : ofproto.bundle? bundle.id = some bundle)
    (untrunked : ∀ vid, bundle.isTrunked vid = false)
    {intfId : Nat}
    {isLag : Bool}
    {dev : Dev}
    {lags : List Nat}
    {after : Ofproto count}
    (isAfter : after = { ofproto.modify bundle.id fun bundle =>
      { bundle with intfId := intfId, isLag := isLag } with dev := dev, destroyedLags := lags })
    (sameTable : dev.table = ofproto.dev.table)
    (lagBound : isLag = true → intfId ≠ bridge.intfInvalidId ∧
      intfId ∉ bridge.portIntfs ∧
        ∀ other ∈ KeyedList.remove (·.id) bundle.id ofproto.cores, other.intfId ≠ intfId)
    (unbound : isLag = false → intfId = bridge.intfInvalidId)
    (lagsKnown : tracked → ∀ lagId ∈ lags, lagId ≠ bridge.intfInvalidId ∧
      lagId ∉ bridge.portIntfs ∧ intfId ≠ lagId ∧
        ∀ other ∈ KeyedList.remove (·.id) bundle.id ofproto.cores, other.intfId ≠ lagId) :
    Holds bridge tracked after after.cores ∧ Continues ofproto after := by
  subst isAfter
  obtain ⟨member, _⟩ := holds.bundle?_eq_some.mp found
  obtain ⟨below, members, represents, coherent⟩ := holds.perm (holds.focus found)
  obtain ⟨freshId, _⟩ := List.nodup_cons.mp coherent.owned.idsNodup
  obtain ⟨freshName, _⟩ := List.nodup_cons.mp coherent.owned.namesNodup
  have vlanKnown := coherent.vlanKnown bundle.core List.mem_cons_self
  refine ⟨?_, holds.continues_modify member _ _ _ untrunked⟩
  refine Holds.perm ?_ (holds.focus_modify found fun bundle =>
    { bundle with intfId := intfId, isLag := isLag }).symm
  have owned := coherent.owned.tail.cons
    { bundle.core with intfId := intfId, isLag := isLag } freshId freshName lagBound
    (fun notLag valid => absurd (unbound notLag) valid)
  refine ⟨?_, members, represents.of_table sameTable,
    (coherent.tail_of_untrunked untrunked).rebind distinct owned untrunked vlanKnown ?_⟩
  · intro other otherMember
    rcases List.mem_cons.mp otherMember with rfl | old
    · exact below bundle.core List.mem_cons_self
    · exact below other (List.mem_cons_of_mem _ old)
  · intro track lagId listed
    obtain ⟨valid, notPort, notOwn, unowned⟩ := lagsKnown track lagId listed
    refine ⟨valid, notPort, ?_⟩
    intro other otherMember
    rcases List.mem_cons.mp otherMember with rfl | old
    · exact notOwn
    · exact unowned other old

/-- `bundle_create_remove_hw_lag` keeps coherence. -/
theorem Obtained.createRemoveHwLag
    {before ofproto : Ofproto count}
    {s : Settings count}
    {id : Nat}
    (obtained : Obtained bridge tracked before xdk s id ofproto)
    (distinct : bridge.IntfsDistinct)
    (accepts : xdk.Accepts)
    {bundle : Bundle count}
    (found : ofproto.bundle? id = some bundle) :
    Holds bridge tracked (bundleCreateRemoveHwLag bridge xdk ofproto bundle s).2
        (bundleCreateRemoveHwLag bridge xdk ofproto bundle s).2.cores ∧
      Continues ofproto (bundleCreateRemoveHwLag bridge xdk ofproto bundle s).2 := by
  have holds := obtained.holds
  obtain ⟨_, rfl⟩ := holds.bundle?_eq_some.mp found
  obtain ⟨_, _, _, coherent⟩ := holds.perm (holds.focus found)
  unfold bundleCreateRemoveHwLag
  split
  · -- A new LAG.
    rename_i creates
    have invalid : bundle.intfId = bridge.intfInvalidId := by
      simp only [Bool.and_eq_true, decide_eq_true_eq] at creates
      exact creates.1
    obtain ⟨lagValid, notPort, unowned, undestroyed⟩ :=
      obtained.lagFresh ofproto.dev.calls
    simp only [lagCreate, accepts.call, if_true]
    refine holds.rebound distinct found
      (coherent.unbound bundle.core List.mem_cons_self invalid) rfl rfl
      (fun _ => ⟨lagValid, notPort, ?_⟩)
      (fun notLag => absurd notLag.symm Bool.false_ne_true) ?_
    · intro other otherMember
      obtain ⟨old, oldMember, rfl⟩ := List.mem_map.mp
        (KeyedList.mem_remove.mp otherMember).1
      exact unowned old oldMember
    · intro track lagId listed
      obtain ⟨valid, notPort, unownedBefore⟩ := coherent.destroyed track lagId listed
      refine ⟨valid, notPort, ?_, fun other old =>
        unownedBefore other (List.mem_cons_of_mem _ old)⟩
      rintro rfl
      exact undestroyed track listed
  split
  · -- The LAG is given up.
    rename_i destroys
    simp only [Bool.and_eq_true, decide_eq_true_eq, Bool.not_eq_true'] at destroys
    obtain ⟨⟨valid, isLag⟩, unwanted⟩ := destroys
    have untrunked : ∀ vid, bundle.isTrunked vid = false := by
      rcases obtained.lagKept bundle found isLag with wanted | untrunked
      · rw [unwanted] at wanted
        contradiction
      · exact untrunked
    have lagBound := coherent.owned.lagBound bundle.core List.mem_cons_self isLag
    refine holds.rebound distinct found untrunked rfl (lagDestroy_table _ _ _ _)
      (fun isLag => absurd isLag Bool.false_ne_true) (fun _ => rfl) ?_
    intro track lagId listed
    rcases List.mem_cons.mp listed with rfl | older
    · exact ⟨lagBound.1, lagBound.2, lagBound.1.symm, fun other old =>
        coherent.owned.ne_head distinct lagBound.1 old⟩
    · obtain ⟨lagValid, notPort, unowned⟩ := coherent.destroyed track lagId older
      exact ⟨lagValid, notPort, lagValid.symm, fun other old =>
        unowned other (List.mem_cons_of_mem _ old)⟩
  · exact ⟨holds, rfl, fun other otherMember _ _ => ⟨other, otherMember, rfl, rfl⟩⟩

/-! ## The configuration of the bundle -/

namespace Holds

variable {ofproto : Ofproto count} {bundle : Bundle count} {s : Settings count}

/-- `bundle_update_single_slave_config` keeps coherence: the port that a bundle is
named after does not change. -/
theorem updateSingleSlaveConfig
    (holds : Holds bridge tracked ofproto ofproto.cores)
    (distinct : bridge.IntfsDistinct)
    (accepts : xdk.Accepts)
    (found : ofproto.bundle? bundle.id = some bundle)
    (notLag : bundle.isLag = false) :
    Holds bridge tracked (bundleUpdateSingleSlaveConfig bridge xdk ofproto bundle).2
      (bundleUpdateSingleSlaveConfig bridge xdk ofproto bundle).2.cores := by
  unfold bundleUpdateSingleSlaveConfig
  cases front : bundle.ports.head?.bind bridge.port? with
  | none => exact holds
  | some port =>
      simp only
      split
      · exact holds
      rename_i sameName
      rw [not_not] at sameName
      split
      · exact holds.bundleDestroy distinct accepts bundle.id
      obtain ⟨ofpPort, _, isFront⟩ := Option.bind_eq_some_iff.mp front
      obtain ⟨isPort, _⟩ := mem_of_port? isFront
      obtain ⟨below, members, represents, coherent⟩ := holds.perm (holds.focus found)
      refine Holds.perm ?_
        (holds.focus_modify found fun bundle => { bundle with intfId := port.ifId }).symm
      by_cases invalid : bundle.intfId = bridge.intfInvalidId
      · have untrunked := coherent.unbound bundle.core List.mem_cons_self invalid
        obtain ⟨freshId, _⟩ := List.nodup_cons.mp coherent.owned.idsNodup
        obtain ⟨freshName, _⟩ := List.nodup_cons.mp coherent.owned.namesNodup
        have owned := coherent.owned.tail.cons { bundle.core with intfId := port.ifId }
          freshId freshName
          (fun isLag => absurd (notLag.symm.trans isLag) Bool.false_ne_true)
          (fun _ _ => ⟨port, isPort, sameName.symm, rfl⟩)
        refine ⟨?_, members, represents, (coherent.tail_of_untrunked untrunked).rebind
          distinct owned untrunked (coherent.vlanKnown bundle.core List.mem_cons_self)
          ?_⟩
        · intro other otherMember
          rcases List.mem_cons.mp otherMember with rfl | old
          · exact below bundle.core List.mem_cons_self
          · exact below other (List.mem_cons_of_mem _ old)
        · intro track lagId listed
          obtain ⟨valid, notPort, unowned⟩ := coherent.destroyed track lagId listed
          refine ⟨valid, notPort, ?_⟩
          intro other otherMember
          rcases List.mem_cons.mp otherMember with rfl | old
          · rintro rfl
            exact notPort (List.mem_map_of_mem isPort)
          · exact unowned other (List.mem_cons_of_mem _ old)
      · obtain ⟨peer, isPeer, peerName, peerIntf⟩ :=
          coherent.owned.portBound bundle.core List.mem_cons_self notLag invalid
        have same : peer = port := List.inj_on_of_nodup_map bridge.name_nodup isPeer
          isPort (peerName.trans sameName)
        have unchanged : { bundle with intfId := port.ifId } = bundle := by
          rw [← same, peerIntf]
          rfl
        rw [unchanged]
        exact ⟨below, members, represents, coherent⟩

/-- `bundle_update_vlan_config` keeps coherence. -/
theorem updateVlanConfig
    (holds : Holds bridge tracked ofproto ofproto.cores)
    (distinct : bridge.IntfsDistinct)
    (accepts : xdk.Accepts)
    (found : ofproto.bundle? bundle.id = some bundle)
    (valid : bundle.intfId ≠ bridge.intfInvalidId) :
    let updated := (bundleUpdateVlanConfig bridge xdk ofproto.dev bundle s).2
    let after := { ofproto with
        dev := devAddIntfEntry updated.2 updated.1.intfId updated.1.name }.modify
      updated.1.id fun _ => updated.1
    Holds bridge tracked after after.cores := by
  obtain ⟨below, members, represents, coherent⟩ := holds.perm (holds.focus found)
  obtain ⟨dev', after, equation, updated, only, labels⟩ :=
    bundleUpdateVlanConfig_spec represents accepts bundle s
  simp only [equation]
  refine Holds.perm ?_
    (holds.focus_modify found fun _ => bundle.configured bridge.toEnv s).symm
  refine ⟨?_, after, ?_, coherent.configure distinct valid only labels⟩
  · intro other otherMember
    rcases List.mem_cons.mp otherMember with rfl | old
    · exact below bundle.core List.mem_cons_self
    · exact below other (List.mem_cons_of_mem _ old)
  · refine updated.of_table ?_
    change (devAddIntfEntry dev' _ _).table = dev'.table
    unfold devAddIntfEntry
    split <;> rfl

/-- The L2 part of `ofproto_xpliant_bundle_set` keeps coherence. -/
theorem configureL2
    (holds : Holds bridge tracked ofproto ofproto.cores)
    (distinct : bridge.IntfsDistinct)
    (accepts : xdk.Accepts)
    (found : ofproto.bundle? bundle.id = some bundle) :
    Holds bridge tracked (bundleConfigureL2 bridge xdk ofproto bundle s).2
      (bundleConfigureL2 bridge xdk ofproto bundle s).2.cores := by
  have single : Holds bridge tracked
      (if !bundle.isLag && s.slaves.length == 1 then
        bundleUpdateSingleSlaveConfig bridge xdk ofproto bundle
      else (none, ofproto)).2
      (if !bundle.isLag && s.slaves.length == 1 then
        bundleUpdateSingleSlaveConfig bridge xdk ofproto bundle
      else (none, ofproto)).2.cores := by
    split
    · rename_i isSingle
      have notLag : bundle.isLag = false := by
        simp only [Bool.and_eq_true, Bool.not_eq_true'] at isSingle
        exact isSingle.1
      exact holds.updateSingleSlaveConfig distinct accepts found notLag
    · exact holds
  unfold bundleConfigureL2
  generalize (if !bundle.isLag && s.slaves.length == 1 then _ else _ :
    Option Errno × Ofproto count) = result at single ⊢
  obtain ⟨errno, between⟩ := result
  simp only at single ⊢
  cases errno with
  | some errno => exact single
  | none =>
      cases refound : between.bundle? bundle.id with
      | none => exact single
      | some current =>
          simp only
          split
          · rename_i valid
            obtain ⟨_, sameId⟩ := single.bundle?_eq_some.mp refound
            exact single.updateVlanConfig distinct accepts (sameId ▸ refound) valid
          · exact single

/-- The update of the port set keeps coherence. -/
theorem setPorts
    (holds : Holds bridge tracked ofproto ofproto.cores)
    (distinct : bridge.IntfsDistinct)
    (accepts : xdk.Accepts)
    (safe : tracked → DefaultSafe bridge ofproto bundle.id s.slaves) :
    Holds bridge tracked (bundleSetPorts bridge xdk ofproto bundle s).2
      (bundleSetPorts bridge xdk ofproto bundle s).2.cores := by
  have arePorts : ∀ port ∈ (bundle.ports.filter (· ∉ s.slaves)).filterMap bridge.port?,
      port ∈ bridge.ports ∧ port.ofpPort ∉ s.slaves := by
    intro port member
    obtain ⟨isPort, listed⟩ := mem_of_mem_filterMap_port? member
    exact ⟨isPort, by simpa using (List.mem_filter.mp listed).2⟩
  have deleted := holds.foldl_bundleDelPort accepts _ fun port member =>
    (arePorts port member).1
  have stillSafe : tracked → DefaultSafe bridge
      (((bundle.ports.filter (· ∉ s.slaves)).filterMap bridge.port?).foldl
        (Bundles.bundleDelPort bridge xdk) ofproto) bundle.id s.slaves :=
    fun track => (safe track).foldl_bundleDelPort _ fun port member =>
      (arePorts port member).2
  have sameCores := foldl_bundleDelPort_cores bridge xdk
    ((bundle.ports.filter (· ∉ s.slaves)).filterMap bridge.port?) ofproto
  rw [← sameCores] at deleted
  have added := deleted.foldl_bundleAddPort distinct accepts s.slaves stillSafe
  unfold bundleSetPorts
  simp only
  generalize s.slaves.foldl (Bundles.bundleAddPort bridge xdk bundle.id) _ = between
    at added ⊢
  cases found : between.bundle? bundle.id with
  | none => exact added
  | some current =>
      obtain ⟨_, sameId⟩ := added.bundle?_eq_some.mp found
      simp only
      split
      · exact added.bundleDestroy distinct accepts current.id
      have table : (if current.isLag then
          bundleUpdateHwLagConfig bridge xdk between.dev current s
          else (.returned none, between.dev)).2.table = between.dev.table := by
        split
        · unfold bundleUpdateHwLagConfig
          cases lagIfList bridge (s.slaves.take 256) with
          | none => rfl
          | some ifList =>
              dsimp only
              split
              · exact lagAttachPorts_table _ _ _ _ _
              · rfl
        · rfl
      generalize (if current.isLag then _ else _ : Ending × Dev) = result
        at table ⊢
      obtain ⟨ending, dev⟩ := result
      have attached : Holds bridge tracked { between with dev := dev } between.cores :=
        added.of_table table rfl rfl
      dsimp only
      split
      · exact attached.configureL2 distinct accepts (sameId ▸ found)
      · exact attached

/-- `ofproto_xpliant_bundle_set` keeps coherence. -/
theorem bundleSet
    (holds : Holds bridge tracked ofproto ofproto.cores)
    (distinct : bridge.IntfsDistinct)
    (accepts : xdk.Accepts)
    (aux : Nat)
    (settings : Option (Settings count))
    (ok : ∀ s, settings = some s → BundleSetOk bridge tracked ofproto xdk aux s) :
    Holds bridge tracked (Bundles.bundleSet bridge xdk ofproto aux settings).2
      (Bundles.bundleSet bridge xdk ofproto aux settings).2.cores := by
  cases settings with
  | none =>
      unfold Bundles.bundleSet
      cases bundleLookup ofproto aux with
      | none => exact holds
      | some bundle => exact holds.bundleDestroy distinct accepts bundle.id
  | some s =>
      obtain ⟨obtained, safe⟩ := holds.bundleObtain distinct (ok s rfl)
      unfold Bundles.bundleSet
      rcases result : Bundles.bundleObtain bridge ofproto aux s.name with ⟨id, between⟩
      rw [result] at obtained safe
      simp only [result]
      cases found : between.bundle? id with
      | none => exact obtained.holds
      | some bundle =>
          obtain ⟨lagHolds, continues⟩ :=
            obtained.createRemoveHwLag distinct accepts found
          rcases lagResult : bundleCreateRemoveHwLag bridge xdk between bundle s with
            ⟨errno, after⟩
          rw [lagResult] at lagHolds continues
          simp only [lagResult]
          split
          · exact lagHolds
          cases refound : after.bundle? id with
          | none => exact lagHolds
          | some current =>
              obtain ⟨_, rfl⟩ := lagHolds.bundle?_eq_some.mp refound
              exact lagHolds.setPorts distinct accepts fun track =>
                continues.defaultSafe (safe track)

end Holds

/-! ## VLANs -/

theorem addTrunked_map_core (env : Env) (vid : Nat) (bundles : List (Bundle count))
    (dev : Dev) :
    addTrunked env xdk vid (bundles.map Bundle.core) dev =
      addTrunked env xdk vid bundles dev := by
  induction bundles generalizing dev with
  | nil => rfl
  | cons bundle bundles inductionHypothesis =>
      rw [List.map_cons]
      unfold addTrunked
      simp only [inductionHypothesis]
      rfl

theorem removeTrunked_map_core (env : Env) (vid : Nat)
    (bundles : List (Bundle count)) (dev : Dev) :
    removeTrunked env xdk vid (bundles.map Bundle.core) dev =
      removeTrunked env xdk vid bundles dev := by
  induction bundles generalizing dev with
  | nil => rfl
  | cons bundle bundles inductionHypothesis =>
      rw [List.map_cons]
      unfold removeTrunked
      simp only [inductionHypothesis]
      rfl

/-- No bundle joins a VLAN that does not exist. -/
theorem addTrunked_missing
    {env : Env}
    {dev : Dev}
    {vid : Nat}
    (missing : vlanIsExisting env dev vid = false)
    (bundles : List (Bundle count)) :
    (addTrunked env xdk vid bundles dev).2 = dev := by
  induction bundles with
  | nil => rfl
  | cons bundle bundles inductionHypothesis =>
      unfold addTrunked
      split
      · simp [vlanMemberAdd, missing]
      · exact inductionHypothesis

namespace Holds

variable {ofproto : Ofproto count}

theorem mem_visit_cores (order : Traversal (Bundle count)) (bundle : Bundle count) :
    bundle ∈ (order.visit ofproto.bundles).map Bundle.core ↔ bundle ∈ ofproto.cores :=
  ((order.perm ofproto.bundles).map Bundle.core).mem_iff

/-- The bundles join a VLAN that was just founded, or that they may be members of
already. -/
theorem addTrunked
    (holds : Holds bridge tracked ofproto ofproto.cores)
    (distinct : bridge.IntfsDistinct)
    (accepts : xdk.Accepts)
    (order : Traversal (Bundle count))
    (vid : Nat)
    (new : vid ≠ defaultVlanId → vlanIsExisting bridge.toEnv ofproto.dev vid = false)
    {dev : Dev}
    (founded : ∀ members, Represents bridge.toEnv ofproto.dev members →
      Represents bridge.toEnv dev (members.found vid)) :
    Holds bridge tracked
      { ofproto with
        dev := (Bundles.addTrunked bridge.toEnv xdk vid
          (order.visit ofproto.bundles) dev).2 }
      ofproto.cores := by
  obtain ⟨below, members, represents, coherent⟩ := holds
  have exist : (members.found vid).exist vid = true := if_pos rfl
  obtain ⟨dev', after, equation, joined, sameExist, elsewhere, labels⟩ :=
    addTrunked_spec (founded members represents) accepts exist
      ((order.visit ofproto.bundles).map Bundle.core)
  rw [addTrunked_map_core] at equation
  rw [equation]
  refine ⟨below, after, joined, coherent.joinTrunked distinct (mem_visit_cores order)
    ?_ ?_ elsewhere labels⟩
  · intro notDefault intfId
    refine members.closed vid ?_ intfId
    rw [← represents.exist_eq]
    exact new notDefault
  · intro other different
    rw [sameExist]
    exact if_neg different

/-- `ofproto_xpliant_set_vlan` keeps coherence when it adds a VLAN. -/
theorem setVlan_add
    (holds : Holds bridge tracked ofproto ofproto.cores)
    (distinct : bridge.IntfsDistinct)
    (accepts : xdk.Accepts)
    (order : Traversal (Bundle count))
    (vid : Nat) :
    Holds bridge tracked (setVlan bridge xdk order ofproto vid true).2
      ofproto.cores := by
  unfold setVlan
  simp only [if_true]
  by_cases isDefault : vid = defaultVlanId
  · rw [if_neg (not_not.mpr isDefault)]
    cases exist : vlanIsExisting bridge.toEnv ofproto.dev vid with
    | false =>
        simp only [addTrunked_missing exist]
        exact holds
    | true =>
        refine holds.addTrunked distinct accepts order vid
          (fun notDefault => absurd isDefault notDefault) ?_
        intro members represents
        have founded : members.found vid = members := by
          ext other peer : 3
          · simp only [Roster.found]
            split
            · rename_i same
              rw [same, ← represents.exist_eq, exist]
            · rfl
          · rfl
        rw [founded]
        exact represents
  · rw [if_pos isDefault]
    have unchanged := holds
    obtain ⟨_, members, represents, _⟩ := unchanged
    rcases represents.create accepts vid with ⟨errno, fails⟩ | ⟨missing, _, code, _⟩
    · rw [fails]
      exact holds
    · rw [show vlanCreate bridge.toEnv xdk ofproto.dev vid = (none, _) from
        Prod.ext code rfl]
      refine holds.addTrunked distinct accepts order vid
        (fun _ => (represents.exist_eq vid).trans missing) ?_
      intro others alike
      rcases alike.create accepts vid with ⟨errno, fails⟩ | ⟨_, _, _, founded⟩
      · rw [fails] at code
        contradiction
      · exact founded

/-- `ofproto_xpliant_set_vlan` keeps coherence when it removes a VLAN, but the
default VLAN may be in no trunks if its members count. -/
theorem setVlan_remove
    (holds : Holds bridge tracked ofproto ofproto.cores)
    (accepts : xdk.Accepts)
    (order : Traversal (Bundle count))
    (vid : Nat)
    (untrunked : tracked → vid = defaultVlanId →
      ∀ bundle ∈ ofproto.bundles, bundle.isTrunked vid = false) :
    Holds bridge tracked (setVlan bridge xdk order ofproto vid false).2
      ofproto.cores := by
  obtain ⟨below, members, represents, coherent⟩ := holds
  obtain ⟨errno, dev, after, equation, removed, sameExist, elsewhere, labels, code⟩ :=
    @removeTrunked_spec count bridge.toEnv xdk ofproto.dev members vid represents accepts
      ((order.visit ofproto.bundles).map Bundle.core)
  rw [removeTrunked_map_core] at equation
  unfold setVlan
  simp only [Bool.false_eq_true, if_false, equation]
  have existElsewhere : ∀ other, other ≠ vid → after.exist other = members.exist other :=
    fun other _ => by rw [sameExist]
  by_cases isDefault : vid = defaultVlanId
  · have kept : ∀ intfId, after.label vid intfId ≠ none →
        members.label vid intfId ≠ none := by
      intro intfId labelled
      rw [labels] at labelled
      split at labelled
      · contradiction
      · exact labelled
    have left : Coherent bridge tracked ofproto.cores after ofproto.destroyedLags := by
      refine coherent.inVlan existElsewhere elsewhere ?_ ?_ ?_
      · intro bundle member _ trunked track
        obtain ⟨owner, ownerMember, rfl⟩ := List.mem_map.mp member
        rw [core_isTrunked,
          untrunked (track isDefault) isDefault owner ownerMember] at trunked
        contradiction
      · intro intfId labelled
        exact coherent.justified vid intfId (kept intfId labelled)
      · intro bundle _ notDefault
        exact absurd isDefault notDefault
    cases errno with
    | some errno => exact ⟨below, after, removed, left⟩
    | none =>
        simp only [isDefault, ne_eq, not_true_eq_false, decide_false, Bool.false_and,
          Bool.false_eq_true, if_false]
        exact ⟨below, after, removed, left⟩
  · cases exist : after.exist vid with
    | false =>
        have left := coherent.dissolved exist existElsewhere elsewhere
        cases errno with
        | some errno => exact ⟨below, after, removed, left⟩
        | none =>
            have missing : vlanIsExisting bridge.toEnv dev vid = false :=
              (removed.exist_eq vid).trans exist
            simp only [vlanRemove, missing, Bool.not_false, if_true, ite_self]
            exact ⟨below, after, removed, left⟩
    | true =>
        have succeeds : errno = none := by
          rw [sameExist] at exist
          exact code exist
        subst succeeds
        have empty : ∀ intfId, after.label vid intfId = none := by
          intro intfId
          rw [labels]
          split
          · rfl
          · rename_i unclaimed
            by_contra labelled
            rcases coherent.justified vid intfId labelled with
              ⟨bundle, member, sameIntf, trunked⟩ | ⟨default, _⟩
            · refine unclaimed (List.any_eq_true.mpr ⟨bundle,
                (mem_visit_cores order bundle).mpr member, ?_⟩)
              simp [Bundle.claims, sameIntf, trunked]
            · exact isDefault default
        obtain ⟨removeCode, gone⟩ := removed.remove accepts vid
        have dissolved : Coherent bridge tracked ofproto.cores (after.dissolve vid)
            ofproto.destroyedLags := by
          refine coherent.dissolved (if_pos rfl) ?_ ?_
          · intro other different
            rw [← existElsewhere other different]
            exact if_neg different
          · intro other intfId different
            rw [← elsewhere other intfId different]
            exact if_neg different
        have isEmpty := removed.isMembershipEmpty empty
        simp only [isDefault, isEmpty, ne_eq, not_false_eq_true, decide_true,
          Bool.and_self, if_true]
        exact ⟨below, _, gone, dissolved⟩

end Holds

end Bundles
end XpliantSwitchd
