import XpliantSwitchd.Bundles.Kept
import XpliantSwitchd.Bundles.Sound

/-!
# Setting a bundle twice

The switch daemon sends unchanged settings again.  A first call of
`ofproto_xpliant_bundle_set` leaves the bundle settled, so that a second one
changes nothing, or it leaves no bundle, and a second one makes and destroys
another.  The exceptions are a LAG that is allocated in advance without being
asked for, and a bundle that was bound to a port and has to be a LAG now or has
no port any more.
-/

namespace XpliantSwitchd
namespace Bundles

open Vlans

variable {count : Nat} {bridge : Bridge} {xdk : Xdk} {ofproto : Ofproto count}
  {bundle : Bundle count} {s : Settings count} {aux : Nat}

/-- A bundle without the mark that its ports were updated. -/
def Bundle.config (bundle : Bundle count) : Bundle count :=
  { bundle with portsUpdated := false }

/-- The same bundles with the same ports on a device with the same VLANs, LAGs,
ports and interfaces. -/
structure SameConfig (first second : Ofproto count) : Prop where
  table : second.dev.table = first.dev.table
  hw : second.dev.hw = first.dev.hw
  portBundle : second.portBundle = first.portBundle
  bundles : second.bundles.map Bundle.config = first.bundles.map Bundle.config

namespace SameConfig

variable {first second third : Ofproto count}

theorem refl (ofproto : Ofproto count) : SameConfig ofproto ofproto :=
  ⟨rfl, rfl, rfl, rfl⟩

theorem trans (left : SameConfig first second) (right : SameConfig second third) :
    SameConfig first third where
  table := right.table.trans left.table
  hw := right.hw.trans left.hw
  portBundle := right.portBundle.trans left.portBundle
  bundles := right.bundles.trans left.bundles

end SameConfig

/-! ## Calls that change nothing -/

/-- `bundle_create_remove_hw_lag` has nothing to do. -/
theorem bundleCreateRemoveHwLag_of_kept
    (noneMade : bundle.intfId = bridge.intfInvalidId →
      s.hwBondShouldExist = false ∧ s.bondHandleAllocOnly = false)
    (noneDestroyed : bundle.isLag = true → s.hwBondShouldExist = true) :
    bundleCreateRemoveHwLag bridge xdk ofproto bundle s = (none, ofproto) := by
  unfold bundleCreateRemoveHwLag
  rw [if_neg, if_neg]
  · simp only [Bool.and_eq_true, Bool.not_eq_true', not_and, Bool.not_eq_false]
    exact fun both => noneDestroyed both.2
  · simp only [Bool.and_eq_true, decide_eq_true_eq, not_and]
    intro invalid
    simp [noneMade invalid]

/-- `bundle_update_vlan_config` has nothing to do. -/
theorem bundleUpdateVlanConfig_of_configured
    {dev : Dev}
    (same : bundle.configured bridge.toEnv s = bundle)
    (unchanged : bundle.portsUpdated = false) :
    bundleUpdateVlanConfig bridge xdk dev bundle s = (none, bundle, dev) := by
  have trunks : bundle.trunks = some (settingsTrunks bridge.toEnv s) :=
    (congrArg Bundle.trunks same).symm
  have oldVlan : bundle.oldVlan = settingsVlan bridge.toEnv s :=
    (congrArg Bundle.oldVlan same).symm.trans (oldVlan_configured bridge.toEnv bundle s)
  have vlanMode : bundle.vlanMode = s.vlanMode := (congrArg Bundle.vlanMode same).symm
  have compared : trunksToCompare bridge.toEnv xdk dev bundle s =
      (none, some (settingsTrunks bridge.toEnv s), dev) := by
    unfold trunksToCompare
    simp [trunks, oldVlan, vlanMode]
  unfold bundleUpdateVlanConfig
  rw [compared]
  refine (if_neg ?_).trans ?_
  · rintro (different | updated)
    · exact different rfl
    · simp [unchanged] at updated
  · exact congrArg (fun bundle => (none, bundle, dev)) same

theorem boundToSlave_config :
    bundle.config.boundToSlave bridge s = (bundle.boundToSlave bridge s).map .config := by
  have fields : bundle.config.isLag = bundle.isLag ∧ bundle.config.ports = bundle.ports ∧
      bundle.config.name = bundle.name := ⟨rfl, rfl, rfl⟩
  unfold Bundle.boundToSlave
  rw [fields.1, fields.2.1, fields.2.2]
  split
  · cases bundle.ports.head?.bind bridge.port? with
    | none => rfl
    | some port =>
        simp only
        split
        · rfl
        split <;> rfl
  · rfl

/-- The bundle of the `aux` is looked up and has its name already. -/
theorem SameConfig.bundleObtain
    (found : bundleLookup ofproto aux = some bundle)
    (tied : Tied bridge ofproto)
    (name : bundle.name = s.name) :
    obtainedBundle bridge ofproto aux s.name = bundle.config ∧
      (Bundles.bundleObtain bridge ofproto aux s.name).2 =
        ofproto.modify bundle.id (fun _ => bundle.config) ∧
      SameConfig ofproto (Bundles.bundleObtain bridge ofproto aux s.name).2 := by
  have member := List.mem_of_find?_eq_some found
  have again : obtainedBundle bridge ofproto aux s.name = bundle.config := by
    unfold obtainedBundle
    rw [found]
    simp only [← name]
    rfl
  have obtained : (Bundles.bundleObtain bridge ofproto aux s.name).2 =
      ofproto.modify bundle.id fun _ => bundle.config := by
    unfold Bundles.bundleObtain
    rw [found]
    simp only
    rw [tied.modify_eq_replace member]
    simp only [← name]
    rfl
  refine ⟨again, obtained, ?_⟩
  rw [obtained, ← tied.modify_eq_replace member Bundle.config]
  exact ⟨rfl, rfl, rfl, KeyedList.map_rewrite fun _ _ _ => rfl⟩

/-! ## A bundle that is settled -/

/-- The settings ask for what the bundle has. -/
structure Settled (bridge : Bridge) (ofproto : Ofproto count) (bundle : Bundle count)
    (s : Settings count) : Prop where
  name : bundle.name = s.name
  hasPorts : bundle.ports ≠ []
  stay : ∀ ofpPort ∈ bundle.ports, ofpPort ∈ s.slaves
  joined : ∀ slave ∈ s.slaves, (bridge.port? slave).isSome = true → slave ∈ bundle.ports
  noneMade : bundle.intfId = bridge.intfInvalidId → s.hwBondShouldExist = false
  noneDestroyed : bundle.isLag = true → s.hwBondShouldExist = true
  attached : bundle.isLag = true → ∀ ifList, lagIfList bridge s.slaves = some ifList →
    ∃ links, LagLinks ofproto.dev links ∧
      ListSettled bridge.toEnv bundle.intfId ifList links
  slaveBound : bundle.boundToSlave bridge s = some bundle
  configured : bundle.intfId ≠ bridge.intfInvalidId →
    (bundle.isLag = true → lagIfList bridge s.slaves ≠ none) →
      bundle.configured bridge.toEnv s = bundle

namespace Settled

theorem config (settled : Settled bridge ofproto bundle s) :
    Settled bridge ofproto bundle.config s where
  name := settled.name
  hasPorts := settled.hasPorts
  stay := settled.stay
  joined := settled.joined
  noneMade := settled.noneMade
  noneDestroyed := settled.noneDestroyed
  attached := settled.attached
  slaveBound := by
    rw [boundToSlave_config, settled.slaveBound]
    rfl
  configured valid listed := congrArg Bundle.config (settled.configured valid listed)

/-- The L2 configuration of a settled bundle. -/
theorem bundleConfigureL2
    (settled : Settled bridge ofproto bundle s)
    (tied : Tied bridge ofproto)
    (member : bundle ∈ ofproto.bundles)
    (unchanged : bundle.portsUpdated = false)
    (listed : bundle.isLag = true → lagIfList bridge s.slaves ≠ none) :
    SameConfig ofproto (Bundles.bundleConfigureL2 bridge xdk ofproto bundle s).2 := by
  rw [tied.bundleConfigureL2_eq member s, settled.slaveBound]
  simp only
  split
  · rename_i valid
    rw [bundleUpdateVlanConfig_of_configured (settled.configured valid listed) unchanged]
    have named : SameConfig ofproto { ofproto with
        dev := devAddIntfEntry ofproto.dev bundle.intfId bundle.name } := by
      unfold devAddIntfEntry
      split <;> exact ⟨rfl, rfl, rfl, rfl⟩
    have namedTied : Tied bridge { ofproto with
        dev := devAddIntfEntry ofproto.dev bundle.intfId bundle.name } :=
      tied.of_links rfl rfl
    simp only
    rw [namedTied.replace_self member]
    exact named
  · rw [tied.replace_self member]
    exact .refl ofproto

/-- Of the device, only the LAGs matter. -/
theorem of_lags
    {after : Ofproto count}
    (settled : Settled bridge ofproto bundle s)
    (same : after.dev.hw.lags = ofproto.dev.hw.lags) :
    Settled bridge after bundle s where
  name := settled.name
  hasPorts := settled.hasPorts
  stay := settled.stay
  joined := settled.joined
  noneMade := settled.noneMade
  noneDestroyed := settled.noneDestroyed
  attached isLag ifList listed := by
    obtain ⟨links, holds, listSettled⟩ := settled.attached isLag ifList listed
    exact ⟨links, holds.of_lags same, listSettled⟩
  slaveBound := settled.slaveBound
  configured := settled.configured

/-- The port set of a settled bundle and what follows from it. -/
theorem bundleSetPorts
    (settled : Settled bridge ofproto bundle s)
    (tied : Tied bridge ofproto)
    (accepts : xdk.Accepts)
    (member : bundle ∈ ofproto.bundles)
    (unchanged : bundle.portsUpdated = false)
    (few : bundle.isLag = true → s.slaves.length < 256) :
    SameConfig ofproto (Bundles.bundleSetPorts bridge xdk ofproto bundle s).2 := by
  rw [tied.bundleSetPorts_of_same member settled.stay settled.joined settled.hasPorts]
  cases isLag : bundle.isLag with
  | false =>
      simp only [Bool.false_eq_true, if_false]
      exact settled.bundleConfigureL2 tied member unchanged fun isLag' =>
        absurd (isLag.symm.trans isLag') Bool.false_ne_true
  | true =>
      rw [bundleUpdateHwLagConfig_of_lt (few isLag)]
      cases listed : lagIfList bridge s.slaves with
      | none =>
          simp only [if_true]
          exact ⟨rfl, rfl, rfl, rfl⟩
      | some ifList =>
          obtain ⟨links, holds, listSettled⟩ := settled.attached isLag ifList listed
          obtain ⟨code, sameHw⟩ := @lagAttachPorts_of_settled _ xdk _ _ _ _ accepts holds
            listSettled
          have sameTable := lagAttachPorts_table bridge.toEnv xdk ofproto.dev bundle.intfId
            ifList
          simp only [if_true]
          generalize lagAttachPorts bridge.toEnv xdk ofproto.dev bundle.intfId ifList =
            result at code sameHw sameTable ⊢
          obtain ⟨errno, dev⟩ := result
          simp only at code sameHw sameTable
          subst code
          have attached : SameConfig ofproto { ofproto with dev := dev } :=
            ⟨sameTable, sameHw, rfl, rfl⟩
          refine attached.trans ?_
          have settledNow : Settled bridge { ofproto with dev := dev } bundle s :=
            settled.of_lags (congrArg Hw.lags sameHw)
          exact settledNow.bundleConfigureL2 (tied.of_links rfl rfl) member unchanged
            fun _ => by simp [listed]

/-- Setting a settled bundle changes nothing. -/
theorem bundleSet
    (settled : Settled bridge ofproto bundle s)
    (tied : Tied bridge ofproto)
    (accepts : xdk.Accepts)
    (found : bundleLookup ofproto aux = some bundle)
    (counted : s.Counted)
    (sets : s.bondHandleAllocOnly = false) :
    SameConfig ofproto (Bundles.bundleSet bridge xdk ofproto aux (some s)).2 := by
  have member := List.mem_of_find?_eq_some found
  obtain ⟨again, obtained, same⟩ := SameConfig.bundleObtain found tied settled.name
  have kept : bundleCreateRemoveHwLag bridge xdk
      (Bundles.bundleObtain bridge ofproto aux s.name).2
      (obtainedBundle bridge ofproto aux s.name) s =
        (none, (Bundles.bundleObtain bridge ofproto aux s.name).2) := by
    rw [again]
    exact bundleCreateRemoveHwLag_of_kept (fun invalid => ⟨settled.noneMade invalid, sets⟩)
      settled.noneDestroyed
  have present : (ofproto.modify bundle.id fun _ => bundle.config).bundle?
      bundle.config.id = some bundle.config :=
    bundle?_replace (tied.bundle?_eq_some.mpr ⟨member, rfl⟩) rfl
  have obtainedTied : Tied bridge (Bundles.bundleObtain bridge ofproto aux s.name).2 :=
    tied.bundleObtain aux s.name
  rw [tied.bundleSet_eq aux s (by rw [kept])]
  simp only [kept, sets, Bool.false_eq_true, if_false]
  rw [obtained] at obtainedTied same ⊢
  rw [again, present]
  simp only
  refine same.trans ?_
  have settledNow : Settled bridge (ofproto.modify bundle.id fun _ => bundle.config)
      bundle.config s := settled.config.of_lags rfl
  exact settledNow.bundleSetPorts obtainedTied accepts
    (obtainedTied.bundle?_eq_some.mp present).1 rfl
    fun isLag => counted sets (settled.noneDestroyed isLag)

end Settled

/-! ## A bundle that is gone -/

/-- `ops_xp_vlan_port_clear_all_membership` of an interface that is in no VLAN. -/
theorem vlanPortClearAllMembership_of_absent
    {env : Env}
    {dev : Dev}
    {intfId : Nat}
    (absent : ∀ vid, vlanPortIsMember env dev vid intfId = false) :
    vlanPortClearAllMembership env xdk dev intfId = (none, dev) := by
  unfold vlanPortClearAllMembership
  induction vlanIds env with
  | nil => rfl
  | cons vlanId ids inductionHypothesis =>
      unfold clearMembership
      cases exist : vlanIsExisting env dev vlanId with
      | false => exact inductionHypothesis
      | true =>
          have lookup : vlanMemberLookup env dev vlanId intfId = none := by
            have missing := absent vlanId
            unfold vlanPortIsMember at missing
            simpa using missing
          have removed : vlanMemberRemove env xdk dev vlanId intfId = (none, dev) := by
            unfold vlanMemberRemove
            simp [exist, lookup]
          rw [removed]
          exact inductionHypothesis

/-- A LAG that was just made is destroyed. -/
theorem lagDestroy_of_made
    {env : Env}
    {dev made : Dev}
    {lagId : Nat}
    (accepts : xdk.Accepts)
    (fresh : lagId ∉ dev.hw.lags.map Prod.fst)
    (isMade : made.hw = { dev.hw with lags := (lagId, []) :: dev.hw.lags }) :
    (lagDestroy env xdk made lagId).hw = dev.hw := by
  have noPorts : lagPortIntfList made lagId = [] := by
    unfold lagPortIntfList
    rw [isMade]
    simp
  have others : ∀ lag ∈ dev.hw.lags, lag.1 ≠ lagId := by
    intro lag listed same
    exact fresh (same ▸ List.mem_map_of_mem listed)
  unfold lagDestroy
  simp only [accepts.call, Bool.not_true, Bool.false_eq_true, if_false, noPorts,
    List.foldl_nil, id_eq, isMade]
  have removed : KeyedList.remove Prod.fst lagId ((lagId, []) :: dev.hw.lags) =
      dev.hw.lags := by
    unfold KeyedList.remove
    rw [List.filter_cons_of_neg (by simp)]
    exact KeyedList.remove_of_absent others
  rw [removed]

/-- The interface of a bundle is released that is in no VLAN and no LAG. -/
theorem releaseIntf_of_unused
    (absent : ∀ vid, vlanPortIsMember bridge.toEnv ofproto.dev vid bundle.intfId = false)
    (notLag : bundle.isLag = false) :
    SameConfig ofproto (releaseIntf bridge xdk ofproto bundle) := by
  unfold releaseIntf
  simp only [vlanPortClearAllMembership_of_absent absent, notLag, Bool.false_eq_true,
    if_false]
  split <;> exact ⟨rfl, rfl, rfl, rfl⟩

/-- The interface of a bundle is released that is a LAG made for it. -/
theorem releaseIntf_of_made
    {dev : Dev}
    (accepts : xdk.Accepts)
    (absent : ∀ vid, vlanPortIsMember bridge.toEnv ofproto.dev vid bundle.intfId = false)
    (isLag : bundle.isLag = true)
    (valid : bundle.intfId ≠ bridge.intfInvalidId)
    (fresh : bundle.intfId ∉ dev.hw.lags.map Prod.fst)
    (isMade : ofproto.dev.hw = { dev.hw with lags := (bundle.intfId, []) :: dev.hw.lags }) :
    (releaseIntf bridge xdk ofproto bundle).dev.table = ofproto.dev.table ∧
      (releaseIntf bridge xdk ofproto bundle).dev.hw = dev.hw ∧
      (releaseIntf bridge xdk ofproto bundle).portBundle = ofproto.portBundle := by
  have forgotten : (devRemoveIntfEntry ofproto.dev bundle.intfId).hw =
      { dev.hw with lags := (bundle.intfId, []) :: dev.hw.lags } := isMade
  unfold releaseIntf
  simp only [vlanPortClearAllMembership_of_absent absent, if_pos valid, isLag, if_true]
  refine ⟨lagDestroy_table _ _ _ _, ?_, rfl⟩
  exact lagDestroy_of_made accepts fresh forgotten

/-- There is no bundle, and the settings ask for one without ports that can
stay. -/
structure Gone (bridge : Bridge) (ofproto : Ofproto count) (aux : Nat)
    (s : Settings count) : Prop where
  missing : bundleLookup ofproto aux = none
  slaves : s.slaves.filterMap bridge.port? = [] ∨
    s.hwBondShouldExist = false ∧ ∃ slave port, s.slaves = [slave] ∧
      bridge.port? slave = some port ∧ port.name = s.name ∧
      port.isXpliantClass = false ∧ port.type ≠ .system ∧
      ofproto.portBundle slave = none
  absent : s.hwBondShouldExist = false → ∀ vid,
    vlanPortIsMember bridge.toEnv ofproto.dev vid bridge.intfInvalidId = false

/-- Adding slaves that are no ports. -/
theorem foldl_bundleAddPort_of_unknown
    {id : Nat}
    {slaves : List Nat}
    (unknown : slaves.filterMap bridge.port? = []) :
    slaves.foldl (bundleAddPort bridge xdk id) ofproto = ofproto := by
  induction slaves with
  | nil => rfl
  | cons slave slaves inductionHypothesis =>
      cases found : bridge.port? slave with
      | some port => simp [List.filterMap_cons_some found] at unknown
      | none =>
          rw [List.filterMap_cons_none found] at unknown
          have same : bundleAddPort bridge xdk id ofproto slave = ofproto := by
            unfold bundleAddPort
            rw [found]
          rw [List.foldl_cons, same]
          exact inductionHypothesis unknown

/-- A bundle in front of the others goes. -/
theorem remove_head
    {rest : List (Bundle count)}
    (fresh : ∀ other ∈ rest, other.id ≠ bundle.id) :
    KeyedList.remove (·.id) bundle.id (bundle :: rest) = rest := by
  unfold KeyedList.remove
  rw [List.filter_cons_of_neg (by simp)]
  exact KeyedList.remove_of_absent fresh

/-- The settings ask for a bundle without ports. -/
theorem bundleSetPorts_of_unknown
    (tied : Tied bridge ofproto)
    (member : bundle ∈ ofproto.bundles)
    (noPorts : bundle.ports = [])
    (unknown : s.slaves.filterMap bridge.port? = []) :
    (bundleSetPorts bridge xdk ofproto bundle s).2 =
      { releaseIntf bridge xdk ofproto bundle with
        bundles := KeyedList.remove (·.id) bundle.id
          (releaseIntf bridge xdk ofproto bundle).bundles } := by
  have present := tied.bundle?_eq_some.mpr ⟨member, rfl⟩
  unfold bundleSetPorts
  simp only [noPorts, List.filter_nil, List.filterMap_nil, List.foldl_nil,
    foldl_bundleAddPort_of_unknown unknown, present, List.isEmpty_nil, if_true]
  unfold bundleDestroy
  simp only [present, noPorts, List.filterMap_nil, List.foldl_nil]

/-- The ofproto with one more bundle, on a device. -/
def Ofproto.withBundle (ofproto : Ofproto count) (dev : Dev) (bundle : Bundle count) :
    Ofproto count :=
  { ofproto with
    dev := dev
    bundles := bundle :: ofproto.bundles
    nextBundle := ofproto.nextBundle + 1 }

namespace Tied

theorem newest
    (tied : Tied bridge ofproto)
    {id : Nat}
    (isNew : id = ofproto.nextBundle) :
    ∀ other ∈ ofproto.bundles, other.id ≠ id := by
  intro other member
  have below := tied.below (other.id, other.ports) (List.mem_map_of_mem member)
  simp only at below
  omega

theorem withBundle
    (tied : Tied bridge ofproto)
    (dev : Dev)
    (isNew : bundle.id = ofproto.nextBundle)
    (noPorts : bundle.ports = []) :
    Tied bridge (ofproto.withBundle dev bundle) := by
  refine ⟨?_, ?_, tied.arePorts⟩
  · have fresh : bundle.id ∉ ofproto.links.lists.map Prod.fst := by
      rw [map_fst_links]
      intro listed
      obtain ⟨other, member, same⟩ := List.mem_map.mp listed
      exact tied.newest isNew other member same
    have links : (ofproto.withBundle dev bundle).links = ofproto.links.found bundle.id := by
      refine Backlinks.ext rfl ?_
      exact congrArg (fun ports => (bundle.id, ports) :: ofproto.links.lists) noPorts
    rw [links]
    exact tied.linked.found fresh
  · intro entry listed
    rcases List.mem_cons.mp listed with rfl | old
    · exact Nat.lt_succ_of_le (le_of_eq isNew)
    · exact Nat.lt_succ_of_lt (tied.below entry old)

/-- A write to the newest bundle. -/
theorem modify_withBundle
    (tied : Tied bridge ofproto)
    (dev : Dev)
    (isNew : bundle.id = ofproto.nextBundle)
    (change : Bundle count → Bundle count) :
    (ofproto.withBundle dev bundle).modify bundle.id change =
      ofproto.withBundle dev (change bundle) := by
  unfold Ofproto.modify Ofproto.withBundle
  simp only
  congr 1
  unfold KeyedList.rewrite
  rw [List.map_cons, if_pos rfl]
  exact congrArg (_ :: ·) (KeyedList.rewrite_of_absent (tied.newest isNew))

/-- The newest bundle goes without having had ports. -/
theorem bundleSetPorts_newest
    {dev : Dev}
    (tied : Tied bridge ofproto)
    (isNew : bundle.id = ofproto.nextBundle)
    (noPorts : bundle.ports = [])
    (unknown : s.slaves.filterMap bridge.port? = [])
    (released : SameConfig ofproto { releaseIntf bridge xdk
      (ofproto.withBundle dev bundle) bundle with bundles := ofproto.bundles }) :
    SameConfig ofproto
      (Bundles.bundleSetPorts bridge xdk (ofproto.withBundle dev bundle) bundle s).2 := by
  have bundles : (releaseIntf bridge xdk (ofproto.withBundle dev bundle) bundle).bundles =
      bundle :: ofproto.bundles :=
    releaseIntf_bundles bridge xdk (ofproto.withBundle dev bundle) bundle
  rw [bundleSetPorts_of_unknown (tied.withBundle dev isNew noPorts) List.mem_cons_self
    noPorts unknown, bundles, remove_head (tied.newest isNew)]
  exact released

end Tied

/-- A bundle that holds one port and is not configured yet. -/
def Bundle.holding (bundle : Bundle count) (slave : Nat) : Bundle count :=
  { bundle with ports := [slave], portsUpdated := true }

/-- The ofproto with one more bundle that holds one port. -/
def Ofproto.withHolder (ofproto : Ofproto count) (bundle : Bundle count) (slave : Nat) :
    Ofproto count :=
  { ofproto.withBundle ofproto.dev (bundle.holding slave) with
    portBundle := Function.update ofproto.portBundle slave (some bundle.id) }

theorem bundle?_withHolder (slave : Nat) :
    (ofproto.withHolder bundle slave).bundle? bundle.id = some (bundle.holding slave) :=
  List.find?_cons_of_pos (by simp [Bundle.holding])

namespace Tied

variable {slave : Nat} {port : OfPort}

/-- The newest bundle gets a port that is in no bundle. -/
theorem bundleAddPort_newest
    (tied : Tied bridge ofproto)
    (isNew : bundle.id = ofproto.nextBundle)
    (noPorts : bundle.ports = [])
    (isPort : bridge.port? slave = some port)
    (notSystem : port.type ≠ .system)
    (free : ofproto.portBundle slave = none) :
    Bundles.bundleAddPort bridge xdk bundle.id (ofproto.withBundle ofproto.dev bundle) slave =
      ofproto.withHolder bundle slave := by
  have elsewhere : (ofproto.withBundle ofproto.dev bundle).portBundle slave ≠
      some bundle.id := by
    change ofproto.portBundle slave ≠ some bundle.id
    rw [free]
    exact (Option.some_ne_none _).symm
  have removed : Bundles.bundleRemove bridge xdk (ofproto.withBundle ofproto.dev bundle) port =
      ofproto.withBundle ofproto.dev bundle := by
    have noBundle : (ofproto.withBundle ofproto.dev bundle).portBundle port.ofpPort =
        none := by
      rw [(mem_of_port? isPort).2]
      exact free
    unfold Bundles.bundleRemove
    rw [noBundle]
    rfl
  unfold Bundles.bundleAddPort
  simp only [isPort, if_neg elsewhere, removed, if_neg notSystem,
    tied.modify_withBundle ofproto.dev isNew, noPorts]
  rfl

/-- The newest bundle is destroyed when its only port is refused. -/
theorem bundleSetPorts_refused
    (tied : Tied bridge ofproto)
    (isNew : bundle.id = ofproto.nextBundle)
    (noPorts : bundle.ports = [])
    (notLag : bundle.isLag = false)
    (unnumbered : bundle.intfId = bridge.intfInvalidId)
    (sameName : bundle.name = s.name)
    (single : s.slaves = [slave])
    (isPort : bridge.port? slave = some port)
    (named : port.name = s.name)
    (foreign : port.isXpliantClass = false)
    (notSystem : port.type ≠ .system)
    (free : ofproto.portBundle slave = none) :
    (Bundles.bundleSetPorts bridge xdk (ofproto.withBundle ofproto.dev bundle) bundle s).2 =
      Bundles.bundleDestroy bridge xdk (ofproto.withHolder bundle slave) bundle.id := by
  have added : Bundles.bundleAddPort bridge xdk bundle.id
      (ofproto.withBundle ofproto.dev bundle) slave = ofproto.withHolder bundle slave :=
    tied.bundleAddPort_newest isNew noPorts isPort notSystem free
  have configured : Bundles.bundleConfigureL2 bridge xdk (ofproto.withHolder bundle slave)
      (bundle.holding slave) s =
        (some .EINVAL, Bundles.bundleDestroy bridge xdk (ofproto.withHolder bundle slave)
          bundle.id) := by
    unfold Bundles.bundleConfigureL2 Bundles.bundleUpdateSingleSlaveConfig
    simp [Bundle.holding, single, isPort, named, foreign, notLag, unnumbered,
      sameName]
  unfold Bundles.bundleSetPorts
  simp only [noPorts, List.filter_nil, List.filterMap_nil, List.foldl_nil, single,
    List.foldl_cons, added, bundle?_withHolder]
  rw [if_neg (by simp [Bundle.holding]), if_neg (by simp [Bundle.holding, notLag])]
  simp only
  exact congrArg Prod.snd configured

/-- Destroying the newest bundle undoes that it was made and got its port. -/
theorem bundleDestroy_withHolder
    (tied : Tied bridge ofproto)
    (isNew : bundle.id = ofproto.nextBundle)
    (isPort : bridge.port? slave = some port)
    (notSystem : port.type ≠ .system)
    (free : ofproto.portBundle slave = none)
    (released : SameConfig (ofproto.withHolder bundle slave)
      (releaseIntf bridge xdk (ofproto.withHolder bundle slave) (bundle.holding slave))) :
    SameConfig ofproto
      (Bundles.bundleDestroy bridge xdk (ofproto.withHolder bundle slave) bundle.id) := by
  have number : port.ofpPort = slave := (mem_of_port? isPort).2
  have bundles := releaseIntf_bundles bridge xdk (ofproto.withHolder bundle slave)
    (bundle.holding slave)
  have points : (releaseIntf bridge xdk (ofproto.withHolder bundle slave)
      (bundle.holding slave)).portBundle port.ofpPort = some bundle.id := by
    rw [released.portBundle, number]
    exact Function.update_self _ _ _
  have ports : (bundle.holding slave).ports = [slave] := rfl
  unfold Bundles.bundleDestroy
  simp only [bundle?_withHolder, ports, List.filterMap_cons_some isPort, List.filterMap_nil,
    List.foldl_cons, List.foldl_nil]
  unfold Bundles.bundleDelPort joinDefaultVlan
  simp only [points, if_neg notSystem]
  refine ⟨released.table, released.hw, ?_, ?_⟩
  · funext ofpPort
    change Function.update (releaseIntf bridge xdk (ofproto.withHolder bundle slave)
      (bundle.holding slave)).portBundle port.ofpPort none ofpPort =
        ofproto.portBundle ofpPort
    rw [released.portBundle, number]
    by_cases same : ofpPort = slave
    · rw [same, Function.update_self, free]
    · rw [Function.update_of_ne same]
      exact Function.update_of_ne same _ _
  · change (KeyedList.remove _ _ (KeyedList.rewrite _ _ _
      (releaseIntf bridge xdk (ofproto.withHolder bundle slave)
        (bundle.holding slave)).bundles)).map _ = _
    rw [bundles]
    have emptied : ∀ change : Bundle count → Bundle count,
        (∀ bundle, (change bundle).id = bundle.id) →
          KeyedList.remove (·.id) bundle.id (KeyedList.rewrite (·.id) bundle.id change
            (bundle.holding slave :: ofproto.bundles)) = ofproto.bundles := by
      intro change keepsId
      rw [KeyedList.remove_rewrite fun bundle selected => (keepsId bundle).trans selected]
      exact @remove_head _ (bundle.holding slave) _ (tied.newest isNew)
    exact congrArg (List.map Bundle.config) (emptied _ fun _ => rfl)

end Tied

theorem bundleObtain_of_missing (missing : bundleLookup ofproto aux = none) :
    Bundles.bundleObtain bridge ofproto aux s.name = (ofproto.nextBundle,
        ofproto.withBundle ofproto.dev (.new bridge ofproto.nextBundle aux s.name)) ∧
      obtainedBundle bridge ofproto aux s.name =
        .new bridge ofproto.nextBundle aux s.name := by
  unfold Bundles.bundleObtain obtainedBundle
  rw [missing]
  exact ⟨rfl, rfl⟩

namespace Gone

/-- A LAG is made for the new bundle, and both go. -/
theorem bundleSet_lag
    (gone : Gone bridge ofproto aux s)
    (tied : Tied bridge ofproto)
    (accepts : xdk.Accepts)
    (fresh : LagIdFresh bridge xdk ofproto.dev)
    (unlisted : ∀ vid, vlanPortIsMember bridge.toEnv ofproto.dev vid
      (xdk.lagCreate ofproto.dev.calls) = false)
    (sets : s.bondHandleAllocOnly = false)
    (bonded : s.hwBondShouldExist = true)
    (unknown : s.slaves.filterMap bridge.port? = []) :
    SameConfig ofproto (Bundles.bundleSet bridge xdk ofproto aux (some s)).2 := by
  obtain ⟨obtained, isNew⟩ := @bundleObtain_of_missing _ bridge _ s _ gone.missing
  let made : Dev := { ofproto.dev with
    hw := { ofproto.dev.hw with
      lags := (xdk.lagCreate ofproto.dev.calls, []) :: ofproto.dev.hw.lags }
    calls := ofproto.dev.calls + 1 }
  let lagBundle : Bundle count := { Bundle.new bridge ofproto.nextBundle aux s.name with
    intfId := xdk.lagCreate ofproto.dev.calls, isLag := true }
  have created : bundleCreateRemoveHwLag bridge xdk
      (Bundles.bundleObtain bridge ofproto aux s.name).2
      (obtainedBundle bridge ofproto aux s.name) s =
        (none, ofproto.withBundle made lagBundle) := by
    rw [obtained, isNew]
    unfold bundleCreateRemoveHwLag
    rw [if_pos (by simp [bonded, Bundle.new])]
    unfold lagCreate
    simp only [Ofproto.withBundle, accepts.call, if_true]
    exact congrArg (none, ·) (tied.modify_withBundle made rfl _)
  have lagTied : Tied bridge (ofproto.withBundle made lagBundle) :=
    tied.withBundle made rfl rfl
  have present : (ofproto.withBundle made lagBundle).bundle?
      (obtainedBundle bridge ofproto aux s.name).id = some lagBundle := by
    rw [isNew]
    exact lagTied.bundle?_eq_some.mpr ⟨List.mem_cons_self, rfl⟩
  rw [tied.bundleSet_eq aux s (by rw [created])]
  simp only [created, sets, Bool.false_eq_true, if_false, present]
  refine tied.bundleSetPorts_newest rfl rfl unknown ?_
  obtain ⟨table, hw, portBundle⟩ := @releaseIntf_of_made _ bridge xdk
    (ofproto.withBundle made lagBundle) lagBundle ofproto.dev accepts unlisted rfl fresh.1
    fresh.2 rfl
  exact ⟨table, hw, portBundle, rfl⟩

/-- Without a LAG, the new bundle gets to its ports as it was made. -/
theorem bundleSet_unbonded
    (gone : Gone bridge ofproto aux s)
    (tied : Tied bridge ofproto)
    (sets : s.bondHandleAllocOnly = false)
    (notBonded : s.hwBondShouldExist = false) :
    Bundles.bundleSet bridge xdk ofproto aux (some s) =
      Bundles.bundleSetPorts bridge xdk
        (ofproto.withBundle ofproto.dev (.new bridge ofproto.nextBundle aux s.name))
        (.new bridge ofproto.nextBundle aux s.name) s := by
  obtain ⟨obtained, isNew⟩ := @bundleObtain_of_missing _ bridge _ s _ gone.missing
  have kept : bundleCreateRemoveHwLag bridge xdk
      (Bundles.bundleObtain bridge ofproto aux s.name).2
      (obtainedBundle bridge ofproto aux s.name) s =
        (none, (Bundles.bundleObtain bridge ofproto aux s.name).2) := by
    rw [isNew]
    exact bundleCreateRemoveHwLag_of_kept (fun _ => ⟨notBonded, sets⟩)
      fun isLag => absurd isLag Bool.false_ne_true
  obtain ⟨_, present⟩ := tied.bundleObtain_bundle? aux s.name
  rw [tied.bundleSet_eq aux s (by rw [kept])]
  simp only [kept, sets, Bool.false_eq_true, if_false]
  rw [present]
  simp only [obtained, isNew]

/-- A new bundle is made and goes, without a LAG and without ports. -/
theorem bundleSet_unknown
    (gone : Gone bridge ofproto aux s)
    (tied : Tied bridge ofproto)
    (sets : s.bondHandleAllocOnly = false)
    (notBonded : s.hwBondShouldExist = false)
    (unknown : s.slaves.filterMap bridge.port? = []) :
    SameConfig ofproto (Bundles.bundleSet bridge xdk ofproto aux (some s)).2 := by
  rw [gone.bundleSet_unbonded tied sets notBonded]
  refine tied.bundleSetPorts_newest rfl rfl unknown ?_
  have released := @releaseIntf_of_unused _ bridge xdk (ofproto.withBundle ofproto.dev
    (.new bridge ofproto.nextBundle aux s.name)) (.new bridge ofproto.nextBundle aux s.name)
    (gone.absent notBonded) rfl
  exact ⟨released.table, released.hw, released.portBundle, rfl⟩

/-- A new bundle is made and goes, since its slave is refused. -/
theorem bundleSet_refused
    {slave : Nat}
    {port : OfPort}
    (gone : Gone bridge ofproto aux s)
    (tied : Tied bridge ofproto)
    (sets : s.bondHandleAllocOnly = false)
    (notBonded : s.hwBondShouldExist = false)
    (single : s.slaves = [slave])
    (isPort : bridge.port? slave = some port)
    (named : port.name = s.name)
    (foreign : port.isXpliantClass = false)
    (notSystem : port.type ≠ .system)
    (free : ofproto.portBundle slave = none) :
    SameConfig ofproto (Bundles.bundleSet bridge xdk ofproto aux (some s)).2 := by
  rw [gone.bundleSet_unbonded tied sets notBonded,
    tied.bundleSetPorts_refused rfl rfl rfl rfl rfl single isPort named foreign notSystem
      free]
  exact tied.bundleDestroy_withHolder rfl isPort notSystem free
    (releaseIntf_of_unused (gone.absent notBonded) rfl)

/-- Setting a bundle that is gone leaves none. -/
theorem bundleSet
    (gone : Gone bridge ofproto aux s)
    (tied : Tied bridge ofproto)
    (accepts : xdk.Accepts)
    (fresh : LagIdFresh bridge xdk ofproto.dev)
    (unlisted : s.hwBondShouldExist = true → s.slaves.filterMap bridge.port? = [] →
      ∀ vid, vlanPortIsMember bridge.toEnv ofproto.dev vid
        (xdk.lagCreate ofproto.dev.calls) = false)
    (sets : s.bondHandleAllocOnly = false) :
    SameConfig ofproto (Bundles.bundleSet bridge xdk ofproto aux (some s)).2 := by
  cases bonded : s.hwBondShouldExist with
  | true =>
      have unknown : s.slaves.filterMap bridge.port? = [] := by
        rcases gone.slaves with unknown | ⟨notBonded, _⟩
        · exact unknown
        · exact absurd (notBonded.symm.trans bonded) Bool.false_ne_true
      exact gone.bundleSet_lag tied accepts fresh (unlisted bonded unknown) sets bonded
        unknown
  | false =>
      rcases gone.slaves with unknown | ⟨_, slave, port, single, isPort, named, foreign,
        notSystem, free⟩
      · exact gone.bundleSet_unknown tied sets bonded unknown
      · exact gone.bundleSet_refused tied sets bonded single isPort named foreign notSystem
          free

end Gone

end Bundles
end XpliantSwitchd
