import XpliantSwitchd.Bundles.Links

/-!
# Bundles that an operation leaves alone

An operation on one bundle may take ports from others and destroy them.  This
module says when the bundle of an `aux` keeps its address and its ports.
-/

namespace XpliantSwitchd
namespace Bundles

open Vlans

variable {count : Nat} {bridge : Bridge} {xdk : Xdk} {ofproto : Ofproto count}
  {aux id : Nat} {ports : List Nat}

/-- The bundle of an `aux` has an address and a port list. -/
def Kept (aux id : Nat) (ports : List Nat) (ofproto : Ofproto count) : Prop :=
  ∃ bundle, bundleLookup ofproto aux = some bundle ∧ bundle.id = id ∧
    bundle.ports = ports

namespace Kept

theorem of_bundles
    {after : Ofproto count}
    (kept : Kept aux id ports ofproto)
    (same : after.bundles = ofproto.bundles) : Kept aux id ports after := by
  unfold Kept bundleLookup
  rw [same]
  exact kept

/-- A write to a bundle. -/
theorem modify
    {target : Nat}
    {change : Bundle count → Bundle count}
    (kept : Kept aux id ports ofproto)
    (keeps : ∀ bundle ∈ ofproto.bundles, bundle.id = target →
      (change bundle).aux = bundle.aux ∧ (change bundle).id = bundle.id ∧
        (target = id → (change bundle).ports = bundle.ports)) :
    Kept aux id ports (ofproto.modify target change) := by
  obtain ⟨bundle, found, sameId, samePorts⟩ := kept
  obtain ⟨isAux, before, after, split, others⟩ :=
    List.find?_eq_some_iff_append.mp found
  have member : ∀ other ∈ before ++ bundle :: after, other ∈ ofproto.bundles := by
    rw [split]
    exact fun _ inside => inside
  refine ⟨if bundle.id = target then change bundle else bundle, ?_, ?_, ?_⟩
  · refine List.find?_eq_some_iff_append.mpr ⟨?_, before.map fun other =>
      if other.id = target then change other else other, after.map fun other =>
      if other.id = target then change other else other, ?_, ?_⟩
    · split_ifs with selected
      · rw [(keeps bundle (member bundle (by simp)) selected).1]
        exact isAux
      · exact isAux
    · simp [Ofproto.modify, KeyedList.rewrite, split]
    · intro other inside
      obtain ⟨old, oldInside, rfl⟩ := List.mem_map.mp inside
      have oldOther := others old oldInside
      split_ifs with selected
      · rw [(keeps old (member old (by simp [oldInside])) selected).1]
        exact oldOther
      · exact oldOther
  · split_ifs with selected
    · rw [(keeps bundle (member bundle (by simp)) selected).2.1]
      exact sameId
    · exact sameId
  · split_ifs with selected
    · rw [(keeps bundle (member bundle (by simp)) selected).2.2
        (selected.symm.trans sameId)]
      exact samePorts
    · exact samePorts

/-- Another bundle goes. -/
theorem remove
    {after : Ofproto count}
    {target : Nat}
    (kept : Kept aux id ports ofproto)
    (other : target ≠ id)
    (removed : after.bundles = KeyedList.remove (·.id) target ofproto.bundles) :
    Kept aux id ports after := by
  obtain ⟨bundle, found, sameId, samePorts⟩ := kept
  obtain ⟨isAux, first, last, split, others⟩ :=
    List.find?_eq_some_iff_append.mp found
  refine ⟨bundle, ?_, sameId, samePorts⟩
  have stays : bundle.id ≠ target := fun same => other (same.symm.trans sameId)
  refine List.find?_eq_some_iff_append.mpr ⟨isAux, KeyedList.remove (·.id) target first,
    KeyedList.remove (·.id) target last, ?_, ?_⟩
  · rw [removed, split]
    simp [KeyedList.remove, stays]
  · intro candidate inside
    exact others candidate (KeyedList.mem_remove.mp inside).1

/-- A new bundle for another `aux`. -/
theorem cons
    {after : Ofproto count}
    {new : Bundle count}
    (kept : Kept aux id ports ofproto)
    (other : new.aux ≠ aux)
    (added : after.bundles = new :: ofproto.bundles) : Kept aux id ports after := by
  obtain ⟨bundle, found, same⟩ := kept
  refine ⟨bundle, ?_, same⟩
  rw [bundleLookup, added, List.find?_cons_of_neg (by simpa using other)]
  exact found

/-! ## Ports -/

theorem bundleDelPort
    {port : OfPort}
    (kept : Kept aux id ports ofproto)
    (elsewhere : ofproto.portBundle port.ofpPort ≠ some id) :
    Kept aux id ports (Bundles.bundleDelPort bridge xdk ofproto port) := by
  unfold Bundles.bundleDelPort
  cases owner : ofproto.portBundle port.ofpPort with
  | none => exact kept
  | some target =>
      have different : target ≠ id := by
        rintro rfl
        exact elsewhere owner
      have lost : Kept aux id ports (ofproto.modify target fun bundle =>
          { bundle with
            ports := bundle.ports.erase port.ofpPort, portsUpdated := true }) :=
        kept.modify fun _ _ _ => ⟨rfl, rfl, fun same => absurd same different⟩
      exact lost.of_bundles rfl

/-- Ports leave other bundles. -/
theorem foldl_bundleDelPort
    {leaving : List OfPort}
    (kept : Kept aux id ports ofproto)
    (elsewhere : ∀ port ∈ leaving, ofproto.portBundle port.ofpPort ≠ some id) :
    Kept aux id ports (leaving.foldl (Bundles.bundleDelPort bridge xdk) ofproto) := by
  induction leaving generalizing ofproto with
  | nil => exact kept
  | cons port leaving inductionHypothesis =>
      rw [List.foldl_cons]
      refine inductionHypothesis
        (kept.bundleDelPort (elsewhere port List.mem_cons_self)) ?_
      intro other member owned
      have links := bundleDelPort_links bridge xdk ofproto port
      rw [← links_owner, links, Backlinks.Linked.unlink_owner,
        Function.update_apply] at owned
      split at owned
      · contradiction
      · exact elsewhere other (List.mem_cons_of_mem _ member) owned

theorem releaseIntf
    {bundle : Bundle count}
    (kept : Kept aux id ports ofproto) :
    Kept aux id ports (Bundles.releaseIntf bridge xdk ofproto bundle) := by
  refine kept.of_bundles ?_
  unfold Bundles.releaseIntf
  simp only
  split
  · split <;> rfl
  · rfl

/-- Another bundle is destroyed. -/
theorem bundleDestroy
    {target : Nat}
    (kept : Kept aux id ports ofproto)
    (tied : Tied bridge ofproto)
    (other : target ≠ id) :
    Kept aux id ports (Bundles.bundleDestroy bridge xdk ofproto target) := by
  unfold Bundles.bundleDestroy
  cases found : ofproto.bundle? target with
  | none => exact kept
  | some bundle =>
      obtain ⟨member, sameId⟩ := tied.bundle?_eq_some.mp found
      have released : Kept aux id ports (Bundles.releaseIntf bridge xdk ofproto bundle) :=
        kept.releaseIntf
      have owners : (Bundles.releaseIntf bridge xdk ofproto bundle).portBundle =
          ofproto.portBundle :=
        congrArg Backlinks.owner (releaseIntf_links bridge xdk ofproto bundle).1
      refine remove (released.foldl_bundleDelPort ?_) other rfl
      intro port isPort
      obtain ⟨ofpPort, inside, isFound⟩ := List.mem_filterMap.mp isPort
      rw [owners, (mem_of_port? isFound).2, (tied.points member).mpr inside, sameId]
      exact fun same => other (Option.some.inj same)

/-- A port leaves another bundle, which goes when it was the last one. -/
theorem bundleRemove
    {port : OfPort}
    (kept : Kept aux id ports ofproto)
    (tied : Tied bridge ofproto)
    (elsewhere : ofproto.portBundle port.ofpPort ≠ some id) :
    Kept aux id ports (Bundles.bundleRemove bridge xdk ofproto port) := by
  unfold Bundles.bundleRemove
  cases owner : ofproto.portBundle port.ofpPort with
  | none => exact kept
  | some target =>
      obtain ⟨bundle, found⟩ := tied.bundle?_of_portBundle owner
      obtain ⟨member, sameId⟩ := tied.bundle?_eq_some.mp found
      have other : bundle.id ≠ id := by
        rintro rfl
        exact elsewhere (owner.trans (congrArg some sameId.symm))
      rw [Option.bind_some, found]
      simp only
      generalize (if bundle.intfId ≠ bridge.intfInvalidId then _ else _ : Bool × Dev) =
        result
      obtain ⟨setField, dev⟩ := result
      have called : Kept aux id ports { ofproto with dev := dev } := kept.of_bundles rfl
      have calledTied : Tied bridge { ofproto with dev := dev } := tied.of_links rfl rfl
      cases setField with
      | false => exact called
      | true =>
          simp only [Bool.not_true, Bool.false_eq_true, if_false]
          have deleted : Kept aux id ports
              (Bundles.bundleDelPort bridge xdk { ofproto with dev := dev } port) :=
            called.bundleDelPort elsewhere
          split
          · exact deleted.bundleDestroy (calledTied.bundleDelPort port) other
          · exact deleted

theorem bundleAddPort
    {target ofpPort : Nat}
    (kept : Kept aux id ports ofproto)
    (tied : Tied bridge ofproto)
    (other : target ≠ id)
    (elsewhere : ofproto.portBundle ofpPort ≠ some id) :
    Kept aux id ports (Bundles.bundleAddPort bridge xdk target ofproto ofpPort) := by
  unfold Bundles.bundleAddPort
  cases found : bridge.port? ofpPort with
  | none => exact kept
  | some port =>
      simp only
      split
      · exact kept
      · have removed : Kept aux id ports (Bundles.bundleRemove bridge xdk ofproto port) :=
          kept.bundleRemove tied ((mem_of_port? found).2 ▸ elsewhere)
        have added : Kept aux id ports ((Bundles.bundleRemove bridge xdk ofproto
            port).modify target fun bundle =>
              { bundle with ports := bundle.ports ++ [ofpPort], portsUpdated := true }) :=
          removed.modify fun _ _ _ => ⟨rfl, rfl, fun same => absurd same other⟩
        exact added.of_bundles rfl

/-- The pointers of other ports do not lead to the bundle. -/
theorem elsewhere
    {ofpPort : Nat}
    (kept : Kept aux id ports ofproto)
    (tied : Tied bridge ofproto)
    (outside : ofpPort ∉ ports) : ofproto.portBundle ofpPort ≠ some id := by
  obtain ⟨bundle, found, rfl, rfl⟩ := kept
  intro owned
  exact outside ((tied.points (List.mem_of_find?_eq_some found)).mp owned)

/-- Another bundle gets its slaves. -/
theorem foldl_bundleAddPort
    {slaves ofpPorts : List Nat} {target : Nat}
    (kept : Kept aux id ports ofproto)
    (loading : Loading bridge slaves target ofproto)
    (other : target ≠ id)
    (areSlaves : ∀ ofpPort ∈ ofpPorts, ofpPort ∈ slaves)
    (outside : ∀ ofpPort ∈ ofpPorts, ofpPort ∉ ports)
    (accepted : MovesAccepted bridge xdk target ofpPorts ofproto) :
    Kept aux id ports
      (ofpPorts.foldl (Bundles.bundleAddPort bridge xdk target) ofproto) := by
  induction ofpPorts generalizing ofproto with
  | nil => exact kept
  | cons ofpPort ofpPorts inductionHypothesis =>
      have outsideHead := outside ofpPort List.mem_cons_self
      have added : Kept aux id ports
          (Bundles.bundleAddPort bridge xdk target ofproto ofpPort) :=
        kept.bundleAddPort loading.tied other (kept.elsewhere loading.tied outsideHead)
      exact inductionHypothesis added
        (loading.bundleAddPort (areSlaves ofpPort List.mem_cons_self) accepted.1)
        (fun next member => areSlaves next (List.mem_cons_of_mem _ member))
        (fun next member => outside next (List.mem_cons_of_mem _ member)) accepted.2

/-- `bundle_create_remove_hw_lag` is about LAGs only. -/
theorem bundleCreateRemoveHwLag
    {bundle : Bundle count} {s : Settings count}
    (kept : Kept aux id ports ofproto) :
    Kept aux id ports
      (Bundles.bundleCreateRemoveHwLag bridge xdk ofproto bundle s).2 := by
  unfold Bundles.bundleCreateRemoveHwLag
  split
  · rcases lagCreate xdk ofproto.dev with ⟨lagId, dev⟩
    have called : Kept aux id ports { ofproto with dev := dev } := kept.of_bundles rfl
    cases lagId with
    | none => exact called
    | some lagId => exact called.modify fun _ _ _ => ⟨rfl, rfl, fun _ => rfl⟩
  · split
    · have destroyed : Kept aux id ports (ofproto.lagDestroy bridge xdk bundle.intfId) :=
        kept.of_bundles rfl
      exact destroyed.modify fun _ _ _ => ⟨rfl, rfl, fun _ => rfl⟩
    · exact kept

end Kept

theorem bundleUpdateVlanConfig_aux
    (bridge : Bridge)
    (xdk : Xdk)
    (dev : Dev)
    (bundle : Bundle count)
    (s : Settings count) :
    (bundleUpdateVlanConfig bridge xdk dev bundle s).2.1.aux = bundle.aux := by
  unfold bundleUpdateVlanConfig
  rcases trunksToCompare bridge.toEnv xdk dev bundle s with ⟨errno, oldTrunks, between⟩
  cases errno with
  | some errno => rfl
  | none =>
      simp only
      split <;> rfl

/-- `bundle_update_single_slave_config` destroys the bundle: its one slave has
the name of the bundle and the wrong class. -/
def SlaveRefused (bridge : Bridge) (isLag : Bool) (ports : List Nat)
    (s : Settings count) : Prop :=
  isLag = false ∧ s.slaves.length = 1 ∧
    ∃ port, ports.head?.bind bridge.port? = some port ∧ port.name = s.name ∧
      port.isXpliantClass = false

namespace Kept

/-- The L2 configuration, of another bundle or of one whose slave is not
refused. -/
theorem bundleConfigureL2
    {bundle : Bundle count} {s : Settings count}
    (kept : Kept aux id ports ofproto)
    (tied : Tied bridge ofproto)
    (allowed : bundle.id = id → bundle.name = s.name ∧
      ¬SlaveRefused bridge bundle.isLag bundle.ports s) :
    Kept aux id ports (Bundles.bundleConfigureL2 bridge xdk ofproto bundle s).2 := by
  have single : Kept aux id ports (if !bundle.isLag && s.slaves.length == 1 then
      bundleUpdateSingleSlaveConfig bridge xdk ofproto bundle
      else (none, ofproto)).2 := by
    split
    · rename_i isSingle
      obtain ⟨notLag, oneSlave⟩ := Bool.and_eq_true_iff.mp isSingle
      unfold bundleUpdateSingleSlaveConfig
      cases head : bundle.ports.head?.bind bridge.port? with
      | none => exact kept
      | some port =>
          simp only
          split
          · exact kept
          rename_i sameName
          split
          · rename_i wrongClass
            refine kept.bundleDestroy tied ?_
            intro same
            obtain ⟨name, notRefused⟩ := allowed same
            refine notRefused ⟨by simpa using notLag, by simpa using oneSlave, port, head,
              ?_, by simpa using wrongClass⟩
            rw [← name]
            exact (not_not.mp sameName).symm
          · exact kept.modify fun _ _ _ => ⟨rfl, rfl, fun _ => rfl⟩
    · exact kept
  have singleTied : Tied bridge (if !bundle.isLag && s.slaves.length == 1 then
      bundleUpdateSingleSlaveConfig bridge xdk ofproto bundle
      else (none, ofproto)).2 := by
    split
    · exact tied.bundleUpdateSingleSlaveConfig bundle
    · exact tied
  unfold Bundles.bundleConfigureL2
  generalize (if !bundle.isLag && s.slaves.length == 1 then _ else _ :
    Option Errno × Ofproto count) = result at single singleTied ⊢
  obtain ⟨errno, between⟩ := result
  cases errno with
  | some errno => exact single
  | none =>
      cases found : between.bundle? bundle.id with
      | none => simpa only [found] using single
      | some current =>
          simp only [found]
          split
          · obtain ⟨sameId, samePorts⟩ :=
              bundleUpdateVlanConfig_ports bridge xdk between.dev current s
            have sameAux := bundleUpdateVlanConfig_aux bridge xdk between.dev current s
            obtain ⟨member, _⟩ := singleTied.bundle?_eq_some.mp found
            have called : Kept aux id ports { between with
                dev := devAddIntfEntry
                  (bundleUpdateVlanConfig bridge xdk between.dev current s).2.2
                  (bundleUpdateVlanConfig bridge xdk between.dev current s).2.1.intfId
                  (bundleUpdateVlanConfig bridge xdk between.dev current s).2.1.name } :=
              single.of_bundles rfl
            refine called.modify ?_
            intro other otherMember selected
            have same : other = current := by
              have nodup := singleTied.linked.groupsNodup
              rw [map_fst_links] at nodup
              exact List.inj_on_of_nodup_map nodup otherMember member
                (selected.trans sameId)
            rw [same]
            exact ⟨sameAux, sameId, fun _ => samePorts⟩
          · exact single

/-- Another bundle gets its ports and its configuration. -/
theorem bundleSetPorts_other
    {bundle : Bundle count} {s : Settings count}
    (kept : Kept aux id ports ofproto)
    (tied : Tied bridge ofproto)
    (member : bundle ∈ ofproto.bundles)
    (other : bundle.id ≠ id)
    (outside : ∀ slave ∈ s.slaves, slave ∉ ports)
    (accepted : MovesAccepted bridge xdk bundle.id s.slaves
      (bundleDropPorts bridge xdk ofproto bundle s)) :
    Kept aux id ports (bundleSetPorts bridge xdk ofproto bundle s).2 := by
  have dropped : Kept aux id ports (bundleDropPorts bridge xdk ofproto bundle s) := by
    refine kept.foldl_bundleDelPort ?_
    intro port isPort
    obtain ⟨ofpPort, inside, isFound⟩ := List.mem_filterMap.mp isPort
    rw [(mem_of_port? isFound).2,
      (tied.points member).mpr (List.mem_of_mem_filter inside)]
    exact fun same => other (Option.some.inj same)
  have loading := @Tied.bundleDropPorts _ _ xdk _ tied _ member s
  have added := dropped.foldl_bundleAddPort loading other (fun _ isSlave => isSlave)
    outside accepted
  have addedTied := (loading.foldl_bundleAddPort (fun _ isSlave => isSlave) accepted).tied
  unfold bundleDropPorts at added addedTied
  unfold bundleSetPorts
  simp only
  generalize s.slaves.foldl (Bundles.bundleAddPort bridge xdk bundle.id) _ = between
    at added addedTied ⊢
  cases found : between.bundle? bundle.id with
  | none => exact added
  | some current =>
      obtain ⟨_, sameId⟩ := addedTied.bundle?_eq_some.mp found
      have different : current.id ≠ id := sameId ▸ other
      simp only
      split
      · exact added.bundleDestroy addedTied different
      generalize (if current.isLag then _ else _ : Ending × Dev) = result
      obtain ⟨ending, dev⟩ := result
      have attached : Kept aux id ports { between with dev := dev } :=
        added.of_bundles rfl
      dsimp only
      split
      · exact attached.bundleConfigureL2 (addedTied.of_links rfl rfl)
          fun same => absurd same different
      · exact attached

end Kept

/-- Slaves that are ports of the bundle already change nothing. -/
theorem Tied.foldl_bundleAddPort_of_mem
    {bundle : Bundle count}
    (tied : Tied bridge ofproto)
    (member : bundle ∈ ofproto.bundles)
    {slaves : List Nat}
    (noneJoins : ∀ slave ∈ slaves, (bridge.port? slave).isSome = true →
      slave ∈ bundle.ports) :
    slaves.foldl (bundleAddPort bridge xdk bundle.id) ofproto = ofproto := by
  induction slaves with
  | nil => rfl
  | cons slave slaves inductionHypothesis =>
      have same : bundleAddPort bridge xdk bundle.id ofproto slave = ofproto := by
        unfold bundleAddPort
        cases found : bridge.port? slave with
        | none => rfl
        | some port =>
            have inside := noneJoins slave List.mem_cons_self (found ▸ rfl)
            exact if_pos ((tied.points member).mpr inside)
      rw [List.foldl_cons, same]
      exact inductionHypothesis fun next later =>
        noneJoins next (List.mem_cons_of_mem _ later)

/-- The port set of a bundle is set to what it is. -/
theorem Tied.bundleSetPorts_of_same
    {bundle : Bundle count} {s : Settings count}
    (tied : Tied bridge ofproto)
    (member : bundle ∈ ofproto.bundles)
    (stay : ∀ ofpPort ∈ bundle.ports, ofpPort ∈ s.slaves)
    (noneJoins : ∀ slave ∈ s.slaves, (bridge.port? slave).isSome = true →
      slave ∈ bundle.ports)
    (hasPorts : bundle.ports ≠ []) :
    Bundles.bundleSetPorts bridge xdk ofproto bundle s =
      let (ending, dev) :=
        if bundle.isLag then bundleUpdateHwLagConfig bridge xdk ofproto.dev bundle s
        else (.returned none, ofproto.dev)
      match ending with
      | .returned none =>
          let (errno, ofproto) :=
            Bundles.bundleConfigureL2 bridge xdk { ofproto with dev := dev } bundle s
          (.returned errno, ofproto)
      | ending => (ending, { ofproto with dev := dev }) := by
  have noneLeaves : bundle.ports.filter (· ∉ s.slaves) = [] := by
    rw [List.filter_eq_nil_iff]
    intro ofpPort inside
    simpa using stay ofpPort inside
  unfold Bundles.bundleSetPorts
  rw [noneLeaves]
  simp only [List.filterMap_nil, List.foldl_nil]
  rw [tied.foldl_bundleAddPort_of_mem member noneJoins,
    tied.bundle?_eq_some.mpr ⟨member, rfl⟩]
  exact if_neg (by simpa using hasPorts)

namespace Kept

/-- The bundle itself is set with the ports it has. -/
theorem bundleSetPorts_own
    {bundle : Bundle count} {s : Settings count}
    (kept : Kept aux bundle.id bundle.ports ofproto)
    (tied : Tied bridge ofproto)
    (member : bundle ∈ ofproto.bundles)
    (hasPorts : bundle.ports ≠ [])
    (stay : ∀ ofpPort ∈ bundle.ports, ofpPort ∈ s.slaves)
    (noneJoins : ∀ slave ∈ s.slaves, (bridge.port? slave).isSome = true →
      slave ∈ bundle.ports)
    (sameName : bundle.name = s.name)
    (notRefused : ¬SlaveRefused bridge bundle.isLag bundle.ports s) :
    Kept aux bundle.id bundle.ports (bundleSetPorts bridge xdk ofproto bundle s).2 := by
  rw [tied.bundleSetPorts_of_same member stay noneJoins hasPorts]
  simp only
  generalize (if bundle.isLag then _ else _ : Ending × Dev) = result
  obtain ⟨ending, dev⟩ := result
  have attached : Kept aux bundle.id bundle.ports { ofproto with dev := dev } :=
    kept.of_bundles rfl
  dsimp only
  split
  · exact attached.bundleConfigureL2 (tied.of_links rfl rfl)
      fun _ => ⟨sameName, notRefused⟩
  · exact attached

end Kept

/-! ## The whole call -/

/-- Whether a bundle is a LAG once `bundle_create_remove_hw_lag` has run. -/
def lagAfter (bridge : Bridge) (bundle : Bundle count) (s : Settings count) : Bool :=
  if bundle.intfId = bridge.intfInvalidId then
    s.hwBondShouldExist || s.bondHandleAllocOnly || bundle.isLag
  else bundle.isLag && s.hwBondShouldExist

/-- The bundle behind a pointer after a write. -/
theorem bundle?_modify
    {bundle : Bundle count}
    {change : Bundle count → Bundle count}
    (found : ofproto.bundle? id = some bundle)
    (keepsId : ∀ bundle, (change bundle).id = bundle.id) :
    (ofproto.modify id change).bundle? id = some (change bundle) := by
  have isId : bundle.id = id := by simpa using List.find?_some found
  have sameTest : ((fun other : Bundle count => other.id == id) ∘ fun other =>
      if other.id = id then change other else other) = fun other => other.id == id := by
    funext other
    simp only [Function.comp_apply]
    split
    · rw [keepsId]
    · rfl
  unfold Ofproto.bundle? at found ⊢
  unfold Ofproto.modify KeyedList.rewrite
  rw [List.find?_map, sameTest, found, Option.map_some, if_pos isId]

/-- The bundle on which `bundle_create_remove_hw_lag` has run. -/
theorem bundleCreateRemoveHwLag_bundle?
    {bundle : Bundle count} {s : Settings count}
    (found : ofproto.bundle? bundle.id = some bundle)
    (done : (bundleCreateRemoveHwLag bridge xdk ofproto bundle s).1 = none) :
    ∃ current, (bundleCreateRemoveHwLag bridge xdk ofproto bundle s).2.bundle?
        bundle.id = some current ∧
      current.id = bundle.id ∧ current.name = bundle.name ∧
      current.ports = bundle.ports ∧ current.isLag = lagAfter bridge bundle s := by
  unfold bundleCreateRemoveHwLag lagAfter at *
  by_cases invalid : bundle.intfId = bridge.intfInvalidId
  · by_cases asked : (s.hwBondShouldExist || s.bondHandleAllocOnly) = true
    · rw [if_pos (by simp [invalid, asked])] at done ⊢
      rcases created : lagCreate xdk ofproto.dev with ⟨_ | lagId, dev⟩
      · simp [created] at done
      · have same : { ofproto with dev := dev }.bundle? bundle.id = some bundle := found
        refine ⟨_, bundle?_modify same (fun _ => rfl), rfl, rfl, rfl, ?_⟩
        simp [invalid, asked]
    · rw [if_neg (by simp [asked]), if_neg (by simp [invalid])]
      refine ⟨bundle, found, rfl, rfl, rfl, ?_⟩
      simp [invalid, asked]
  · rw [if_neg (by simp [invalid])]
    by_cases released : (bundle.isLag && !s.hwBondShouldExist) = true
    · rw [if_pos (by simpa [invalid] using released)]
      have same : (ofproto.lagDestroy bridge xdk bundle.intfId).bundle? bundle.id =
          some bundle := found
      refine ⟨_, bundle?_modify same (fun _ => rfl), rfl, rfl, rfl, ?_⟩
      simp only [Bool.and_eq_true, Bool.not_eq_true'] at released
      simp [invalid, released]
    · rw [if_neg (by simpa [invalid] using released)]
      refine ⟨bundle, found, rfl, rfl, rfl, ?_⟩
      cases isLag : bundle.isLag with
      | false => simp [invalid]
      | true =>
          have bonded : s.hwBondShouldExist = true := by simpa [isLag] using released
          simp [invalid, bonded]

/-- What a call of `ofproto_xpliant_bundle_set` must keep to for the bundle of an
`aux` to keep its ports. -/
def LeavesPorts (bridge : Bridge) (aux : Nat) (bundle : Bundle count) :
    Event count → Prop
  | .bundleSet target none => target ≠ aux
  | .bundleSet target (some s) => s.bondHandleAllocOnly = true ∨
      (target ≠ aux ∧ ∀ slave ∈ s.slaves, slave ∉ bundle.ports) ∨
      (target = aux ∧ bundle.ports ≠ [] ∧
        (∀ ofpPort ∈ bundle.ports, ofpPort ∈ s.slaves) ∧
        (∀ slave ∈ s.slaves, (bridge.port? slave).isSome = true →
          slave ∈ bundle.ports) ∧
        ¬SlaveRefused bridge (lagAfter bridge bundle s) bundle.ports s)
  | .bundleRemove ofpPort => ofpPort ∉ bundle.ports
  | .setVlan _ _ => True

namespace Kept

theorem bundleObtain
    (kept : Kept aux id ports ofproto)
    (target : Nat)
    (name : String) :
    Kept aux id ports (Bundles.bundleObtain bridge ofproto target name).2 := by
  unfold Bundles.bundleObtain
  cases found : bundleLookup ofproto target with
  | some bundle => exact kept.modify fun _ _ _ => ⟨rfl, rfl, fun _ => rfl⟩
  | none =>
      refine kept.cons ?_ rfl
      rintro rfl
      obtain ⟨bundle, isFound, _⟩ := kept
      change bundleLookup ofproto target = some bundle at isFound
      rw [found] at isFound
      cases isFound

/-- Two bundles of different `aux` have different addresses. -/
theorem ne_of_aux
    {target otherId : Nat} {otherPorts : List Nat}
    (kept : Kept aux id ports ofproto)
    (other : Kept target otherId otherPorts ofproto)
    (tied : Tied bridge ofproto)
    (different : target ≠ aux) : otherId ≠ id := by
  obtain ⟨bundle, found, rfl, _⟩ := kept
  obtain ⟨otherBundle, otherFound, rfl, _⟩ := other
  intro same
  have nodup := tied.linked.groupsNodup
  rw [map_fst_links] at nodup
  have sameBundle := List.inj_on_of_nodup_map nodup
    (List.mem_of_find?_eq_some otherFound) (List.mem_of_find?_eq_some found) same
  have isAux : bundle.aux = aux := by simpa using List.find?_some found
  have isTarget : otherBundle.aux = target := by simpa using List.find?_some otherFound
  rw [sameBundle, isAux] at isTarget
  exact different isTarget.symm

/-- The bundle that `bundle_lookup` finds or makes. -/
theorem obtained (ofproto : Ofproto count) (target : Nat) (name : String) :
    ∃ ports, Kept target (Bundles.bundleObtain bridge ofproto target name).1 ports
      (Bundles.bundleObtain bridge ofproto target name).2 := by
  unfold Bundles.bundleObtain
  cases found : bundleLookup ofproto target with
  | some bundle =>
      have kept : Kept target bundle.id bundle.ports ofproto := ⟨bundle, found, rfl, rfl⟩
      exact ⟨bundle.ports, kept.modify fun _ _ _ => ⟨rfl, rfl, fun _ => rfl⟩⟩
  | none =>
      refine ⟨[], Bundle.new bridge ofproto.nextBundle target name, ?_, rfl, rfl⟩
      simp [bundleLookup, Bundle.new]

/-- `ofproto_xpliant_bundle_set` with settings. -/
theorem bundleSet
    {bundle : Bundle count} {target : Nat} {s : Settings count}
    (tied : Tied bridge ofproto)
    (found : bundleLookup ofproto aux = some bundle)
    (leaves : LeavesPorts bridge aux bundle (.bundleSet target (some s)))
    (accepted : SlavesAccepted bridge xdk ofproto target s) :
    Kept aux bundle.id bundle.ports
      (Bundles.bundleSet bridge xdk ofproto target (some s)).2 := by
  have kept : Kept aux bundle.id bundle.ports ofproto := ⟨bundle, found, rfl, rfl⟩
  have obtainedKept := @Kept.bundleObtain _ bridge _ _ _ _ kept target s.name
  obtain ⟨targetPorts, targetKept⟩ := @obtained _ bridge ofproto target s.name
  have obtainedTied : Tied bridge (Bundles.bundleObtain bridge ofproto target s.name).2 :=
    tied.bundleObtain target s.name
  have ownObtained : target = aux →
      (Bundles.bundleObtain bridge ofproto target s.name).1 = bundle.id ∧
      (Bundles.bundleObtain bridge ofproto target s.name).2.bundle? bundle.id =
        some { bundle with portsUpdated := false, name := s.name } := by
    rintro rfl
    unfold Bundles.bundleObtain
    rw [found]
    have isFound := tied.bundle?_eq_some.mpr ⟨List.mem_of_find?_eq_some found, rfl⟩
    exact ⟨rfl, bundle?_modify isFound fun _ => rfl⟩
  unfold SlavesAccepted bundleSetStart at accepted
  unfold Bundles.bundleSet
  rcases result : Bundles.bundleObtain bridge ofproto target s.name with ⟨targetId, between⟩
  rw [result] at obtainedKept targetKept obtainedTied ownObtained
  simp only [result] at accepted ⊢
  cases foundTarget : between.bundle? targetId with
  | none => exact obtainedKept
  | some current =>
      obtain ⟨_, sameId⟩ := obtainedTied.bundle?_eq_some.mp foundTarget
      subst sameId
      obtain ⟨links, next⟩ := bundleCreateRemoveHwLag_links bridge xdk between current s
      have configuredTied := obtainedTied.of_links links next
      have configuredKept : Kept aux bundle.id bundle.ports
          (Bundles.bundleCreateRemoveHwLag bridge xdk between current s).2 :=
        obtainedKept.bundleCreateRemoveHwLag
      simp only [foundTarget] at accepted ⊢
      split
      · exact configuredKept
      rename_i continues
      rw [if_neg continues] at accepted
      simp only [Bool.or_eq_true, Option.isSome_iff_ne_none, not_or, not_not] at continues
      obtain ⟨notAllocOnly, done⟩ := continues
      obtain ⟨set, refound, setId, setName, setPorts, setLag⟩ :=
        bundleCreateRemoveHwLag_bundle? foundTarget done
      rw [refound] at accepted ⊢
      obtain ⟨member, _⟩ := configuredTied.bundle?_eq_some.mp refound
      have moves := accepted set _ rfl
      clear links next accepted
      generalize (Bundles.bundleCreateRemoveHwLag bridge xdk between current s).2 =
        configured at configuredTied configuredKept refound member moves ⊢
      rcases leaves with allocOnly | ⟨different, outside⟩ |
        ⟨same, hasPorts, stay, noneJoins, notRefused⟩
      · exact absurd allocOnly notAllocOnly
      · have other : set.id ≠ bundle.id := by
          rw [setId]
          exact obtainedKept.ne_of_aux targetKept obtainedTied different
        exact configuredKept.bundleSetPorts_other configuredTied member other outside moves
      · obtain ⟨ownId, ownFound⟩ := ownObtained same
        simp only at ownId ownFound
        rw [ownId, ownFound] at foundTarget
        cases foundTarget
        simp only at setId setName setPorts setLag
        rw [← setId, ← setPorts] at configuredKept ⊢
        rw [← setPorts] at hasPorts stay noneJoins notRefused
        refine configuredKept.bundleSetPorts_own configuredTied member hasPorts stay
          noneJoins setName ?_
        rw [setLag]
        exact notRefused

end Kept

/-- A bundle keeps its ports in every operation that leaves them. -/
theorem Kept.step
    {ofproto : Ofproto bridge.vlanMaxCount}
    {bundle : Bundle bridge.vlanMaxCount}
    {operation : Operation bridge.vlanMaxCount}
    (tied : Tied bridge ofproto)
    (found : bundleLookup ofproto aux = some bundle)
    (leaves : LeavesPorts bridge aux bundle operation.event)
    (admissible : MovesAdmissible bridge ofproto operation) :
    Kept aux bundle.id bundle.ports (Bundles.step bridge ofproto operation) := by
  have kept : Kept aux bundle.id bundle.ports ofproto := ⟨bundle, found, rfl, rfl⟩
  unfold Bundles.step
  unfold MovesAdmissible at admissible
  cases event : operation.event with
  | bundleSet target settings =>
      rw [event] at admissible leaves
      cases settings with
      | some s => exact Kept.bundleSet tied found leaves (admissible s rfl)
      | none =>
          simp only [Bundles.bundleSet]
          cases targetFound : bundleLookup ofproto target with
          | none => exact kept
          | some other =>
              have otherKept : Kept target other.id other.ports ofproto :=
                ⟨other, targetFound, rfl, rfl⟩
              exact kept.bundleDestroy tied (kept.ne_of_aux otherKept tied leaves)
  | bundleRemove ofpPort =>
      rw [event] at leaves
      simp only
      cases isFound : bridge.port? ofpPort with
      | none => exact kept
      | some port =>
          refine kept.bundleRemove tied (kept.elsewhere tied ?_)
          rw [(mem_of_port? isFound).2]
          exact leaves
  | setVlan vid add => exact kept.of_bundles rfl

end Bundles
end XpliantSwitchd
