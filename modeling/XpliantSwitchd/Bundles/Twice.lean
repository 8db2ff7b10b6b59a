import XpliantSwitchd.Bundles.Repeat

/-!
# What a first call leaves

Unless the settings are of the kind that cannot be repeated, a call of
`ofproto_xpliant_bundle_set` leaves a bundle that is settled or none.
-/

namespace XpliantSwitchd
namespace Bundles

open Vlans

variable {count : Nat} {bridge : Bridge} {xdk : Xdk} {ofproto : Ofproto count}
  {bundle : Bundle count} {s : Settings count} {aux : Nat}

/-! ## Settings that can be repeated -/

/-- The bundle of the `aux` has the interface of a port. -/
def BoundToPort (bridge : Bridge) (ofproto : Ofproto count) (aux : Nat) : Prop :=
  ∃ bundle, bundleLookup ofproto aux = some bundle ∧
    bundle.intfId ≠ bridge.intfInvalidId ∧ bundle.isLag = false

/-- The bundle is named after the one slave it is to have. -/
def OwnPort (bridge : Bridge) (s : Settings count) (port : OfPort) : Prop :=
  ∃ slave, s.slaves = [slave] ∧ bridge.port? slave = some port ∧ port.name = s.name

/-- No port of the settings stays in the bundle. -/
def Dissolves (bridge : Bridge) (s : Settings count) : Prop :=
  s.slaves.filterMap bridge.port? = [] ∨
    ∃ port, OwnPort bridge s port ∧ port.isXpliantClass = false

/-- A call with the settings may be repeated: a LAG is allocated in advance only
where it has to exist, or never comes to exist since the bundle has the interface
of a port; and where the bundle has such an interface, a LAG is asked for only
when the slave will not take that interface away, no VLAN has the invalid interface
when the bundle dissolves, and the slaves of a LAG are counted to the end. -/
structure Repeatable (bridge : Bridge) (ofproto : Ofproto count) (aux : Nat)
    (s : Settings count) : Prop where
  allocated : s.bondHandleAllocOnly = true →
    s.hwBondShouldExist = true ∨ BoundToPort bridge ofproto aux
  bonded : s.bondHandleAllocOnly = false → s.hwBondShouldExist = true →
    BoundToPort bridge ofproto aux → ∀ port, OwnPort bridge s port →
      port.isXpliantClass = true ∧ port.ifId ≠ bridge.intfInvalidId
  dissolved : s.bondHandleAllocOnly = false → s.hwBondShouldExist = false →
    BoundToPort bridge ofproto aux → Dissolves bridge s →
      ∀ vid, vlanPortIsMember bridge.toEnv ofproto.dev vid bridge.intfInvalidId = false
  counted : s.Counted

/-- A port of the switch has a netdev of the plugin with a valid interface. -/
def Bridge.PortsReady (bridge : Bridge) : Prop :=
  ∀ port ∈ bridge.ports, port.type = .system →
    port.isXpliantClass = true ∧ port.ifId ≠ bridge.intfInvalidId

/-! ## The LAG of the bundle -/

/-- The bundle after `bundle_create_remove_hw_lag`. -/
def Bundle.withLag (bridge : Bridge) (lagId : Nat) (bundle : Bundle count)
    (s : Settings count) : Bundle count :=
  if bundle.intfId = bridge.intfInvalidId &&
      (s.hwBondShouldExist || s.bondHandleAllocOnly) then
    { bundle with intfId := lagId, isLag := true }
  else if bundle.intfId ≠ bridge.intfInvalidId && bundle.isLag &&
      !s.hwBondShouldExist then
    { bundle with intfId := bridge.intfInvalidId, isLag := false }
  else bundle

theorem withLag_same (lagId : Nat) :
    ∃ intfId isLag, bundle.withLag bridge lagId s =
      { bundle with intfId := intfId, isLag := isLag } := by
  unfold Bundle.withLag
  split
  · exact ⟨_, _, rfl⟩
  split
  · exact ⟨_, _, rfl⟩
  · exact ⟨_, _, rfl⟩

theorem withLag_invalid
    {lagId : Nat}
    (valid : lagId ≠ bridge.intfInvalidId)
    (invalid : (bundle.withLag bridge lagId s).intfId = bridge.intfInvalidId) :
    s.hwBondShouldExist = false ∧ (s.bondHandleAllocOnly = true → bundle.isLag = true) := by
  unfold Bundle.withLag at invalid
  split at invalid
  · exact absurd invalid valid
  · rename_i notMade
    split at invalid
    · rename_i destroyed
      simp only [Bool.and_eq_true, Bool.not_eq_true'] at destroyed
      exact ⟨destroyed.2, fun _ => destroyed.1.2⟩
    · simp only [invalid, decide_true, Bool.true_and, Bool.or_eq_true, not_or,
        Bool.not_eq_true] at notMade
      exact ⟨notMade.1, fun allocated => absurd allocated (by simp [notMade.2])⟩

theorem withLag_isLag
    {lagId : Nat}
    (bound : bundle.isLag = true → bundle.intfId ≠ bridge.intfInvalidId)
    (isLag : (bundle.withLag bridge lagId s).isLag = true) :
    s.hwBondShouldExist = true ∨
      s.bondHandleAllocOnly = true ∧ bundle.intfId = bridge.intfInvalidId := by
  unfold Bundle.withLag at isLag
  split at isLag
  · rename_i made
    simp only [Bool.and_eq_true, decide_eq_true_eq, Bool.or_eq_true] at made
    exact made.2.imp_right fun allocated => ⟨allocated, made.1⟩
  · split at isLag
    · exact absurd isLag Bool.false_ne_true
    · rename_i kept
      left
      simpa [isLag, bound isLag] using kept

theorem withLag_bound
    {lagId : Nat}
    (valid : (bundle.withLag bridge lagId s).intfId ≠ bridge.intfInvalidId)
    (notLag : (bundle.withLag bridge lagId s).isLag = false) :
    bundle.intfId ≠ bridge.intfInvalidId ∧ bundle.isLag = false := by
  unfold Bundle.withLag at valid notLag
  split at valid
  · rename_i made
    rw [if_pos made] at notLag
    exact absurd notLag.symm Bool.false_ne_true
  · rename_i notMade
    rw [if_neg notMade] at notLag
    split at valid
    · exact absurd rfl valid
    · rename_i kept
      rw [if_neg kept] at notLag
      exact ⟨valid, notLag⟩

theorem bundleCreateRemoveHwLag_withLag
    (accepts : xdk.Accepts)
    (found : ofproto.bundle? bundle.id = some bundle) :
    (bundleCreateRemoveHwLag bridge xdk ofproto bundle s).2.bundle? bundle.id =
        some (bundle.withLag bridge (xdk.lagCreate ofproto.dev.calls) s) ∧
      (bundleCreateRemoveHwLag bridge xdk ofproto bundle s).2.dev.table =
        ofproto.dev.table := by
  unfold bundleCreateRemoveHwLag Bundle.withLag
  split
  · unfold lagCreate
    simp only [accepts.call, if_true]
    exact ⟨bundle?_modify found fun _ => rfl, rfl⟩
  split
  · have destroyed : (ofproto.lagDestroy bridge xdk bundle.intfId).bundle? bundle.id =
        some bundle := found
    exact ⟨bundle?_modify destroyed fun _ => rfl, lagDestroy_table _ _ _ _⟩
  · exact ⟨found, rfl⟩

/-- Where the call starts to change the ports of the bundle, or ends. -/
structure Started (bridge : Bridge) (ofproto : Ofproto count) (aux : Nat)
    (s : Settings count) (start : Ofproto count) (bundle : Bundle count) : Prop where
  tied : Tied bridge start
  sound : Sound bridge (fun _ => False) start
  member : bundle ∈ start.bundles
  isAux : bundle.aux = aux
  name : bundle.name = s.name
  table : start.dev.table = ofproto.dev.table
  invalid : bundle.intfId = bridge.intfInvalidId → s.hwBondShouldExist = false ∧
    (s.bondHandleAllocOnly = true → ¬BoundToPort bridge ofproto aux)
  lag : bundle.isLag = true → s.hwBondShouldExist = true ∨
    s.bondHandleAllocOnly = true ∧ ¬BoundToPort bridge ofproto aux
  origin : bundle.intfId ≠ bridge.intfInvalidId → bundle.isLag = false →
    BoundToPort bridge ofproto aux

theorem boundToPort_iff :
    BoundToPort bridge ofproto aux ↔
      (obtainedBundle bridge ofproto aux s.name).intfId ≠ bridge.intfInvalidId ∧
        (obtainedBundle bridge ofproto aux s.name).isLag = false := by
  unfold BoundToPort obtainedBundle
  cases bundleLookup ofproto aux with
  | none => simp [Bundle.new]
  | some bundle => simp

theorem obtainedBundle_aux :
    (obtainedBundle bridge ofproto aux s.name).aux = aux ∧
      (obtainedBundle bridge ofproto aux s.name).name = s.name := by
  unfold obtainedBundle
  cases found : bundleLookup ofproto aux with
  | none => exact ⟨rfl, rfl⟩
  | some bundle => exact ⟨by simpa using List.find?_some found, rfl⟩

/-- The bundle that the call works on, once its LAG was made or destroyed. -/
theorem started
    (tied : Tied bridge ofproto)
    (sound : Sound bridge (fun _ => False) ofproto)
    (accepts : xdk.Accepts)
    (fresh : LagIdFresh bridge xdk ofproto.dev)
    (aux : Nat)
    (s : Settings count) :
    ∃ start bundle, Started bridge ofproto aux s start bundle ∧
      Bundles.bundleSet bridge xdk ofproto aux (some s) =
        if s.bondHandleAllocOnly then (.returned none, start)
        else Bundles.bundleSetPorts bridge xdk start bundle s := by
  obtain ⟨_, found⟩ := tied.bundleObtain_bundle? aux s.name
  have obtainedTied : Tied bridge (Bundles.bundleObtain bridge ofproto aux s.name).2 :=
    tied.bundleObtain aux s.name
  have obtainedSound : Sound bridge (fun _ => False)
      (Bundles.bundleObtain bridge ofproto aux s.name).2 := sound.bundleObtain aux s.name
  have sameDev := bundleObtain_dev bridge ofproto aux s.name
  obtain ⟨made, startSound⟩ := @Sound.createRemoveHwLag _ _ xdk _ _ obtainedSound accepts
    (sameDev.symm ▸ fresh) (obtainedBundle bridge ofproto aux s.name) s
  obtain ⟨links, next⟩ := bundleCreateRemoveHwLag_links bridge xdk
    (Bundles.bundleObtain bridge ofproto aux s.name).2
    (obtainedBundle bridge ofproto aux s.name) s
  obtain ⟨present, table⟩ := @bundleCreateRemoveHwLag_withLag _ bridge xdk _ _ s accepts
    found
  have startTied := obtainedTied.of_links links next
  obtain ⟨isAux, name⟩ := @obtainedBundle_aux _ bridge ofproto s aux
  have equation := tied.bundleSet_eq aux s made
  have bound : (obtainedBundle bridge ofproto aux s.name).isLag = true →
      (obtainedBundle bridge ofproto aux s.name).intfId ≠ bridge.intfInvalidId :=
    obtainedSound.bound _ (obtainedTied.bundle?_eq_some.mp found).1
  have toPort := @boundToPort_iff _ bridge ofproto s aux
  simp only [present] at equation
  rw [sameDev] at present table equation
  refine ⟨_, _, ⟨startTied, startSound, (startTied.bundle?_eq_some.mp present).1, ?_, ?_,
    table, ?_, ?_, ?_⟩, equation⟩
  · obtain ⟨_, _, same⟩ := @withLag_same _ bridge
      (obtainedBundle bridge ofproto aux s.name) s (xdk.lagCreate ofproto.dev.calls)
    rw [same]
    exact isAux
  · obtain ⟨_, _, same⟩ := @withLag_same _ bridge
      (obtainedBundle bridge ofproto aux s.name) s (xdk.lagCreate ofproto.dev.calls)
    rw [same]
    exact name
  · intro invalid
    obtain ⟨notBonded, allocated⟩ := withLag_invalid fresh.1 invalid
    refine ⟨notBonded, fun allocOnly isBound => ?_⟩
    exact absurd ((toPort.mp isBound).2.symm.trans (allocated allocOnly)) Bool.false_ne_true
  · intro isLag
    refine (withLag_isLag bound isLag).imp_right fun allocated => ?_
    exact ⟨allocated.1, fun isBound => (toPort.mp isBound).1 allocated.2⟩
  · exact fun valid notLag => toPort.mpr (withLag_bound valid notLag)

namespace Started

variable {start : Ofproto count}

/-- A bundle with a LAG is to have one when its ports are set. -/
theorem bonded
    (started : Started bridge ofproto aux s start bundle)
    (sets : s.bondHandleAllocOnly = false)
    (isLag : bundle.isLag = true) : s.hwBondShouldExist = true :=
  (started.lag isLag).resolve_right fun allocated =>
    absurd (sets.symm.trans allocated.1) Bool.false_ne_true

theorem found (started : Started bridge ofproto aux s start bundle) :
    bundleLookup start aux = some bundle :=
  started.sound.bundleLookup_eq_some.mpr ⟨started.member, started.isAux⟩

/-- A call that only allocates is repeated. -/
theorem allocated
    (started : Started bridge ofproto aux s start bundle)
    (allocOnly : s.bondHandleAllocOnly = true)
    (kept : s.hwBondShouldExist = true ∨ BoundToPort bridge ofproto aux) :
    SameConfig start (Bundles.bundleSet bridge xdk start aux (some s)).2 := by
  obtain ⟨again, obtained, same⟩ :=
    SameConfig.bundleObtain started.found started.tied started.name
  have nothing : bundleCreateRemoveHwLag bridge xdk
      (Bundles.bundleObtain bridge start aux s.name).2
      (obtainedBundle bridge start aux s.name) s =
        (none, (Bundles.bundleObtain bridge start aux s.name).2) := by
    rw [again]
    refine bundleCreateRemoveHwLag_of_kept ?_ ?_
    · intro invalid
      obtain ⟨notBonded, unbound⟩ := started.invalid invalid
      rcases kept with bonded | isBound
      · exact absurd (notBonded.symm.trans bonded) Bool.false_ne_true
      · exact absurd isBound (unbound allocOnly)
    · intro isLag
      rcases started.lag isLag with bonded | ⟨_, unbound⟩
      · exact bonded
      · exact kept.resolve_right unbound
  rw [started.tied.bundleSet_eq aux s (by rw [nothing])]
  simp only [nothing, allocOnly, if_true]
  exact same

end Started

/-! ## The ports of the bundle -/

/-- The bundle has its ports. -/
structure Loaded (bridge : Bridge) (start : Ofproto count) (bundle : Bundle count)
    (s : Settings count) (loaded : Ofproto count) (current : Bundle count) : Prop where
  tied : Tied bridge loaded
  sound : Sound bridge (fun _ => False) loaded
  member : current ∈ loaded.bundles
  same : current.bare = bundle.bare
  stay : ∀ ofpPort ∈ current.ports, ofpPort ∈ s.slaves
  joined : ∀ slave ∈ s.slaves, (bridge.port? slave).isSome = true → slave ∈ current.ports
  spared : ∀ absent, bridge.Spares absent → Sound bridge absent start →
    Sound bridge absent loaded

/-- The slaves of a LAG are few when they are counted to the end. -/
theorem Loaded.few
    {start loaded : Ofproto count}
    {current : Bundle count}
    (holds : Loaded bridge start bundle s loaded current)
    (started : Started bridge ofproto aux s start bundle)
    (counted : s.Counted)
    (sets : s.bondHandleAllocOnly = false)
    (isLag : current.isLag = true) : s.slaves.length < 256 := by
  have sameLag : current.isLag = bundle.isLag :=
    (congrArg Bundle.isLag holds.same : current.bare.isLag = bundle.bare.isLag)
  exact counted sets (started.bonded sets (sameLag.symm.trans isLag))

theorem Started.loaded
    {start : Ofproto count}
    (started : Started bridge ofproto aux s start bundle)
    (accepts : xdk.Accepts) :
    ∃ current, Loaded bridge start bundle s (s.slaves.foldl
        (bundleAddPort bridge xdk bundle.id) (bundleDropPorts bridge xdk start bundle s))
      current := by
  have dropped : Loading bridge s.slaves bundle.id
      (bundleDropPorts bridge xdk start bundle s) :=
    started.tied.bundleDropPorts started.member s
  have loading := dropped.foldl_bundleAddPort (fun _ isSlave => isSlave)
    (movesAccepted_of_accepts accepts bundle.id s.slaves _)
  have shrinks : Shrinks start (s.slaves.foldl (bundleAddPort bridge xdk bundle.id)
      (bundleDropPorts bridge xdk start bundle s)) :=
    (Shrinks.foldl_bundleDelPort bridge xdk start _).trans
      (.foldl_bundleAddPort bridge xdk bundle.id _ s.slaves)
  have spared : ∀ absent, bridge.Spares absent → Sound bridge absent start →
      Sound bridge absent (s.slaves.foldl (bundleAddPort bridge xdk bundle.id)
        (bundleDropPorts bridge xdk start bundle s)) := by
    intro absent spares sound
    have droppedSound : Sound bridge absent (bundleDropPorts bridge xdk start bundle s) := by
      refine sound.foldl_bundleDelPort accepts ?_
      exact fun port member => spares port (mem_of_mem_filterMap_port? member).1
    exact droppedSound.foldl_bundleAddPort accepts spares bundle.id s.slaves
  have points : ∀ slave ∈ s.slaves, (bridge.port? slave).isSome = true →
      (s.slaves.foldl (bundleAddPort bridge xdk bundle.id)
        (bundleDropPorts bridge xdk start bundle s)).portBundle slave = some bundle.id :=
    fun slave isSlave known => dropped.foldl_bundleAddPort_points
      (fun _ isSlave => isSlave) accepts (.inr ⟨isSlave, known⟩)
  obtain ⟨entry, listed, isId⟩ := List.mem_map.mp loading.exist
  obtain ⟨current, member, rfl⟩ := List.mem_map.mp listed
  simp only at isId
  obtain ⟨old, oldMember, sameBare⟩ := shrinks.old member
  have oldId : old.id = bundle.id :=
    (congrArg Bundle.id sameBare : old.bare.id = current.bare.id).trans isId
  have isOld : old = bundle := by
    have found := started.tied.bundle?_eq_some.mpr ⟨oldMember, oldId⟩
    rw [started.tied.bundle?_eq_some.mpr ⟨started.member, rfl⟩] at found
    exact (Option.some.inj found).symm
  refine ⟨current, loading.tied, spared _ (Sound.spares_nothing bridge) started.sound, member,
    isOld ▸ sameBare.symm, ?_, ?_, spared⟩
  · intro ofpPort inside
    refine loading.within ofpPort ?_
    rw [(loading.tied.points member).mpr inside, isId]
  · intro slave isSlave known
    refine (loading.tied.points member).mp ?_
    rw [points slave isSlave known, isId]

theorem vlanPortIsMember_of_table
    {env : Env}
    {before after : Dev}
    (same : after.table = before.table)
    (vid intfId : Nat) :
    vlanPortIsMember env after vid intfId = vlanPortIsMember env before vid intfId := by
  unfold vlanPortIsMember vlanMemberLookup vlanIsExisting
  rw [same]

namespace Loaded

variable {start filled : Ofproto count} {current : Bundle count}

theorem found (holds : Loaded bridge start bundle s filled current) :
    filled.bundle? current.id = some current :=
  holds.tied.bundle?_eq_some.mpr ⟨holds.member, rfl⟩

theorem isAux
    (holds : Loaded bridge start bundle s filled current)
    (started : Started bridge ofproto aux s start bundle) :
    current.aux = aux :=
  (congrArg Bundle.aux holds.same : current.bare.aux = bundle.bare.aux).trans started.isAux

/-- A bundle that is destroyed cannot be looked up. -/
theorem missing
    (holds : Loaded bridge start bundle s filled current)
    (started : Started bridge ofproto aux s start bundle)
    (accepts : xdk.Accepts) :
    bundleLookup (bundleDestroy bridge xdk filled current.id) aux = none := by
  have destroyed : Sound bridge (fun _ => False)
      (bundleDestroy bridge xdk filled current.id) :=
    holds.sound.bundleDestroy accepts (Sound.spares_nothing bridge) current.id
  by_contra isFound
  obtain ⟨bundle, lookup⟩ := Option.ne_none_iff_exists'.mp isFound
  obtain ⟨member, isAux⟩ := destroyed.bundleLookup_eq_some.mp lookup
  obtain ⟨old, oldMember, sameBare⟩ :=
    (Shrinks.bundleDestroy bridge xdk filled current.id).old member
  have oldAux : old.aux = aux :=
    (congrArg Bundle.aux sameBare : old.bare.aux = bundle.bare.aux).trans isAux
  have isCurrent : old = current :=
    List.inj_on_of_nodup_map holds.sound.auxNodup oldMember holds.member
      (oldAux.trans (holds.isAux started).symm)
  have sameId : bundle.id = current.id := by
    rw [← isCurrent]
    exact (congrArg Bundle.id sameBare : old.bare.id = bundle.bare.id).symm
  unfold bundleDestroy at member
  rw [holds.found] at member
  exact (KeyedList.mem_remove.mp member).2 sameId

/-- The invalid interface is in no VLAN once the bundle was destroyed. -/
theorem absent
    (holds : Loaded bridge start bundle s filled current)
    (started : Started bridge ofproto aux s start bundle)
    (accepts : xdk.Accepts)
    (ready : bridge.PortsReady)
    (repeatable : Repeatable bridge ofproto aux s)
    (sets : s.bondHandleAllocOnly = false)
    (notBonded : s.hwBondShouldExist = false)
    (dissolves : Dissolves bridge s)
    (vid : Nat) :
    vlanPortIsMember bridge.toEnv (bundleDestroy bridge xdk filled current.id).dev vid
      bridge.intfInvalidId = false := by
  have spares : bridge.Spares (· = bridge.intfInvalidId) :=
    fun port isPort isSystem => (ready port isPort isSystem).2
  have sameIntf : current.intfId = bundle.intfId :=
    (congrArg Bundle.intfId holds.same : current.bare.intfId = bundle.bare.intfId)
  have destroyed : Sound bridge (· = bridge.intfInvalidId)
      (bundleDestroy bridge xdk filled current.id) := by
    by_cases invalid : current.intfId = bridge.intfInvalidId
    · exact holds.sound.bundleDestroy_found accepts holds.found spares
        fun intfId isInvalid => .inr (isInvalid.trans invalid.symm)
    · have notLag : bundle.isLag = false := by
        by_contra isLag
        rw [Bool.not_eq_false] at isLag
        rcases started.lag isLag with bonded | ⟨allocOnly, _⟩
        · exact absurd (notBonded.symm.trans bonded) Bool.false_ne_true
        · exact absurd (sets.symm.trans allocOnly) Bool.false_ne_true
      have isBound := started.origin (sameIntf ▸ invalid) notLag
      have unlisted := repeatable.dissolved sets notBonded isBound dissolves
      have startSound : Sound bridge (· = bridge.intfInvalidId) start := by
        refine started.sound.of_shrinks (.refl start) (started.sound.dev.of_isMember ?_)
        rintro _ rfl vid
        rw [vlanPortIsMember_of_table started.table]
        exact unlisted vid
      exact (holds.spared _ spares startSound).bundleDestroy accepts spares current.id
  exact destroyed.dev.isMember rfl vid

/-- No bundle is left. -/
theorem gone
    (holds : Loaded bridge start bundle s filled current)
    (started : Started bridge ofproto aux s start bundle)
    (accepts : xdk.Accepts)
    (ready : bridge.PortsReady)
    (repeatable : Repeatable bridge ofproto aux s)
    (sets : s.bondHandleAllocOnly = false)
    (dissolves : s.slaves.filterMap bridge.port? = [] ∨ s.hwBondShouldExist = false ∧
      ∃ port, OwnPort bridge s port ∧ port.isXpliantClass = false) :
    Gone bridge (bundleDestroy bridge xdk filled current.id) aux s where
  missing := holds.missing started accepts
  slaves := by
    refine dissolves.imp_right ?_
    rintro ⟨notBonded, port, ⟨slave, single, isPort, named⟩, foreign⟩
    refine ⟨notBonded, slave, port, single, isPort, named, foreign, ?_, ?_⟩
    · intro isSystem
      have native := (ready port (mem_of_port? isPort).1 isSystem).1
      exact absurd (foreign.symm.trans native) Bool.false_ne_true
    · have inside : slave ∈ current.ports :=
        holds.joined slave (by simp [single]) (isPort ▸ rfl)
      obtain ⟨links, _⟩ := @bundleDestroy_links _ _ xdk _ holds.tied _ holds.member
      obtain ⟨owner, _⟩ := holds.tied.linked.foldl_unlink current.ports
      change (bundleDestroy bridge xdk filled current.id).links.owner slave = none
      rw [links]
      exact (owner slave).trans (if_pos inside)
  absent notBonded := by
    refine holds.absent started accepts ready repeatable sets notBonded ?_
    exact dissolves.imp_right And.right

end Loaded

/-! ## The interface of the bundle -/

/-- What `bundle_update_single_slave_config` does to a bundle that has slaves
only. -/
theorem boundToSlave_cases
    (name : bundle.name = s.name)
    (stay : ∀ ofpPort ∈ bundle.ports, ofpPort ∈ s.slaves) :
    bundle.boundToSlave bridge s = some bundle ∨
      bundle.isLag = false ∧ ∃ port, OwnPort bridge s port ∧
        bundle.boundToSlave bridge s =
          if port.isXpliantClass then some { bundle with intfId := port.ifId } else none := by
  unfold Bundle.boundToSlave
  split
  · rename_i single
    simp only [Bool.and_eq_true, Bool.not_eq_true', beq_iff_eq] at single
    obtain ⟨slave, isSlave⟩ := List.length_eq_one_iff.mp single.2
    cases isPort : bundle.ports.head?.bind bridge.port? with
    | none => exact .inl rfl
    | some port =>
        simp only
        split
        · exact .inl rfl
        rename_i named
        obtain ⟨first, isFirst, isFound⟩ := Option.bind_eq_some_iff.mp isPort
        have listed := stay first (List.mem_of_mem_head? isFirst)
        rw [isSlave, List.mem_singleton] at listed
        subst listed
        refine .inr ⟨single.1, port, ⟨first, isSlave, isFound, ?_⟩, ?_⟩
        · rw [← name]
          exact (not_not.mp named).symm
        · cases port.isXpliantClass <;> rfl
  · exact .inl rfl

/-- A bundle that was bound to its slave stays bound. -/
theorem boundToSlave_again
    {bound again : Bundle count}
    (isBound : bundle.boundToSlave bridge s = some bound)
    (isLag : again.isLag = bundle.isLag)
    (ports : again.ports = bundle.ports)
    (name : again.name = bundle.name)
    (intfId : again.intfId = bound.intfId) :
    again.boundToSlave bridge s = some again := by
  obtain ⟨id, aux, _, _, _, _, portsUpdated, vlanMode, vlan, trunks⟩ := again
  simp only at isLag ports name intfId
  subst isLag ports name intfId
  unfold Bundle.boundToSlave at isBound ⊢
  simp only
  split at isBound
  · rename_i single
    rw [if_pos single]
    cases isPort : bundle.ports.head?.bind bridge.port? with
    | none => rfl
    | some port =>
        simp only [isPort] at isBound ⊢
        split at isBound
        · rename_i named
          rw [if_pos named]
        · rename_i named
          rw [if_neg named]
          split at isBound
          · contradiction
          · rename_i native
            rw [if_neg native, ← Option.some.inj isBound]
  · rename_i several
    rw [if_neg several]

namespace Loaded

variable {start filled : Ofproto count} {current : Bundle count}

/-- The bundle has the interface it has to have, and the rest is as before. -/
theorem settled
    {bound again : Bundle count} {after : Ofproto count}
    (holds : Loaded bridge start bundle s filled current)
    (started : Started bridge ofproto aux s start bundle)
    (repeatable : Repeatable bridge ofproto aux s)
    (sets : s.bondHandleAllocOnly = false)
    (hasPorts : current.ports ≠ [])
    (attached : current.isLag = true → ∀ ifList, lagIfList bridge s.slaves = some ifList →
      ∃ links, LagLinks filled.dev links ∧
        ListSettled bridge.toEnv current.intfId ifList links)
    (isBound : current.boundToSlave bridge s = some bound)
    (sameLags : after.dev.hw.lags = filled.dev.hw.lags)
    (isLag : again.isLag = current.isLag)
    (ports : again.ports = current.ports)
    (name : again.name = current.name)
    (intfId : again.intfId = bound.intfId)
    (configured : again.intfId ≠ bridge.intfInvalidId →
      (again.isLag = true → lagIfList bridge s.slaves ≠ none) →
        again.configured bridge.toEnv s = again) :
    Settled bridge after again s := by
  have bundleName : current.name = s.name :=
    (congrArg Bundle.name holds.same : current.bare.name = bundle.bare.name).trans
      started.name
  have bundleLag : current.isLag = bundle.isLag :=
    (congrArg Bundle.isLag holds.same : current.bare.isLag = bundle.bare.isLag)
  have bundleIntf : current.intfId = bundle.intfId :=
    (congrArg Bundle.intfId holds.same : current.bare.intfId = bundle.bare.intfId)
  have fromSlave := @boundToSlave_cases _ bridge _ _ bundleName holds.stay
  rw [isBound] at fromSlave
  refine ⟨name.trans bundleName, ports ▸ hasPorts, ports ▸ holds.stay,
    ports ▸ holds.joined, ?_, ?_, ?_, boundToSlave_again isBound isLag ports name intfId,
    configured⟩
  · intro invalid
    rw [intfId] at invalid
    rcases fromSlave with same | ⟨notLag, port, own, same⟩
    · rw [Option.some.inj same, bundleIntf] at invalid
      exact (started.invalid invalid).1
    · by_contra bonded
      rw [Bool.not_eq_false] at bonded
      have valid : bundle.intfId ≠ bridge.intfInvalidId := by
        intro unbound
        exact absurd ((started.invalid unbound).1.symm.trans bonded) Bool.false_ne_true
      have toPort := started.origin valid (bundleLag.symm.trans notLag)
      obtain ⟨native, portValid⟩ := repeatable.bonded sets bonded toPort port own
      rw [native, if_pos rfl] at same
      rw [Option.some.inj same] at invalid
      exact portValid invalid
  · intro again
    rw [isLag, bundleLag] at again
    rcases started.lag again with bonded | ⟨allocOnly, _⟩
    · exact bonded
    · exact absurd (sets.symm.trans allocOnly) Bool.false_ne_true
  · intro again ifList listed
    rw [isLag] at again
    have sameIntf : bound.intfId = current.intfId := by
      rcases fromSlave with same | ⟨notLag, _⟩
      · rw [Option.some.inj same]
      · exact absurd (notLag.symm.trans again) Bool.false_ne_true
    obtain ⟨links, lagLinks, listSettled⟩ := attached again ifList listed
    rw [intfId, sameIntf]
    exact ⟨links, lagLinks.of_lags sameLags, listSettled⟩

theorem lagAttachPorts
    (holds : Loaded bridge start bundle s filled current)
    (accepts : xdk.Accepts)
    (lagId : Nat)
    (ifList : List Nat) :
    Loaded bridge start bundle s { filled with
      dev := (Bundles.lagAttachPorts bridge.toEnv xdk filled.dev lagId ifList).2 }
      current where
  tied := holds.tied.of_links rfl rfl
  sound := holds.sound.of_shrinks (.of_bundles rfl)
    (holds.sound.dev.lagAttachPorts accepts lagId ifList)
  member := holds.member
  same := holds.same
  stay := holds.stay
  joined := holds.joined
  spared absent spares sound := by
    have loaded := holds.spared absent spares sound
    exact loaded.of_shrinks (.of_bundles rfl) (loaded.dev.lagAttachPorts accepts lagId ifList)

end Loaded

/-- A state in which setting the bundle again changes nothing. -/
def Fixed (bridge : Bridge) (ofproto : Ofproto count) (aux : Nat) (s : Settings count) :
    Prop :=
  (∃ bundle, bundleLookup ofproto aux = some bundle ∧ Settled bridge ofproto bundle s) ∨
    Gone bridge ofproto aux s

namespace Loaded

variable {start filled : Ofproto count} {current : Bundle count}

/-- The L2 configuration at the end of the call. -/
theorem bundleConfigureL2
    (holds : Loaded bridge start bundle s filled current)
    (started : Started bridge ofproto aux s start bundle)
    (accepts : xdk.Accepts)
    (ready : bridge.PortsReady)
    (repeatable : Repeatable bridge ofproto aux s)
    (sets : s.bondHandleAllocOnly = false)
    (hasPorts : current.ports ≠ [])
    (attached : current.isLag = true → ∀ ifList, lagIfList bridge s.slaves = some ifList →
      ∃ links, LagLinks filled.dev links ∧
        ListSettled bridge.toEnv current.intfId ifList links) :
    Fixed bridge (Bundles.bundleConfigureL2 bridge xdk filled current s).2 aux s := by
  have sound := @Sound.bundleConfigureL2 _ _ xdk _ _ holds.sound holds.tied accepts
    holds.member s
  rw [holds.tied.bundleConfigureL2_eq holds.member s] at sound ⊢
  cases isBound : current.boundToSlave bridge s with
  | none =>
      right
      refine holds.gone started accepts ready repeatable sets (.inr ?_)
      have bundleName : current.name = s.name :=
        (congrArg Bundle.name holds.same : current.bare.name = bundle.bare.name).trans
          started.name
      rcases @boundToSlave_cases _ bridge _ _ bundleName holds.stay with
        same | ⟨notLag, port, own, same⟩
      · rw [isBound] at same
        contradiction
      rw [isBound] at same
      have foreign : port.isXpliantClass = false := by
        by_contra native
        rw [if_pos (by simpa using native)] at same
        contradiction
      refine ⟨?_, port, own, foreign⟩
      by_contra bonded
      rw [Bool.not_eq_false] at bonded
      have valid : bundle.intfId ≠ bridge.intfInvalidId := by
        intro unbound
        exact absurd ((started.invalid unbound).1.symm.trans bonded) Bool.false_ne_true
      have bundleLag : current.isLag = bundle.isLag :=
        (congrArg Bundle.isLag holds.same : current.bare.isLag = bundle.bare.isLag)
      have toPort := started.origin valid (bundleLag.symm.trans notLag)
      obtain ⟨native, _⟩ := repeatable.bonded sets bonded toPort port own
      exact absurd (foreign.symm.trans native) Bool.false_ne_true
  | some bound =>
      left
      obtain ⟨intfId, same, _⟩ := boundToSlave_same isBound
      have isAux : bound.aux = aux := by
        rw [same]
        exact holds.isAux started
      simp only [isBound] at sound ⊢
      split at sound
      · rename_i valid
        rw [if_pos valid]
        obtain ⟨members, represents, _⟩ := holds.sound.dev.vlans
        obtain ⟨dev, _, equation, _⟩ := bundleUpdateVlanConfig_spec represents accepts bound s
        have sameLags := bundleUpdateVlanConfig_lags xdk filled.dev bridge bound s
        rw [equation] at sound sameLags ⊢
        refine ⟨bound.configured bridge.toEnv s, sound.bundleLookup_eq_some.mpr
          ⟨KeyedList.mem_rewrite.mpr (.inl ⟨current, holds.member, rfl, rfl⟩), isAux⟩, ?_⟩
        have named : (devAddIntfEntry dev (bound.configured bridge.toEnv s).intfId
            (bound.configured bridge.toEnv s).name).hw = dev.hw := by
          unfold devAddIntfEntry
          split <;> rfl
        refine holds.settled started repeatable sets hasPorts attached isBound
          ((congrArg Hw.lags named).trans sameLags) ?_ ?_ ?_ rfl fun _ _ => rfl
        · rw [same]
          rfl
        · rw [same]
          rfl
        · rw [same]
          rfl
      · rename_i invalid
        rw [if_neg invalid]
        refine ⟨bound, sound.bundleLookup_eq_some.mpr
          ⟨KeyedList.mem_rewrite.mpr (.inl ⟨current, holds.member, rfl, rfl⟩), isAux⟩, ?_⟩
        refine holds.settled started repeatable sets hasPorts attached isBound rfl ?_ ?_ ?_ rfl
          fun valid _ => absurd valid invalid
        · rw [same]
        · rw [same]
        · rw [same]

end Loaded

/-- A call with settings that can be repeated leaves a state that the next one
keeps. -/
theorem Started.fixed
    {start : Ofproto count}
    (started : Started bridge ofproto aux s start bundle)
    (accepts : xdk.Accepts)
    (ready : bridge.PortsReady)
    (repeatable : Repeatable bridge ofproto aux s)
    (sets : s.bondHandleAllocOnly = false) :
    Fixed bridge (Bundles.bundleSetPorts bridge xdk start bundle s).2 aux s := by
  obtain ⟨current, holds⟩ := @Started.loaded _ _ xdk _ _ _ _ _ started accepts
  have sameId : current.id = bundle.id :=
    (congrArg Bundle.id holds.same : current.bare.id = bundle.bare.id)
  have found := holds.found
  have few := holds.few started repeatable.counted sets
  unfold Bundles.bundleSetPorts
  unfold bundleDropPorts at holds found
  simp only
  generalize s.slaves.foldl (bundleAddPort bridge xdk bundle.id) _ = filled
    at holds found ⊢
  rw [sameId] at found
  simp only [found]
  by_cases noPorts : current.ports = []
  · rw [if_pos (by simpa using noPorts)]
    right
    refine holds.gone started accepts ready repeatable sets (.inl ?_)
    rw [List.filterMap_eq_nil_iff]
    intro slave isSlave
    by_contra known
    have inside := holds.joined slave isSlave (Option.isSome_iff_ne_none.mpr known)
    rw [noPorts] at inside
    exact absurd inside List.not_mem_nil
  rw [if_neg (by simpa using noPorts)]
  cases isLag : current.isLag with
  | false =>
      simp only [Bool.false_eq_true, if_false]
      exact holds.bundleConfigureL2 started accepts ready repeatable sets noPorts fun isLag' =>
        absurd (isLag.symm.trans isLag') Bool.false_ne_true
  | true =>
      rw [bundleUpdateHwLagConfig_of_lt (few isLag)]
      cases listed : lagIfList bridge s.slaves with
      | none =>
          simp only [if_true]
          left
          have sound : Sound bridge (fun _ => False) { filled with dev := filled.dev } :=
            holds.sound
          refine ⟨current, sound.bundleLookup_eq_some.mpr
            ⟨holds.member, holds.isAux started⟩, ?_⟩
          refine holds.settled started repeatable sets noPorts ?_ ?_ rfl rfl rfl rfl rfl ?_
          · intro _ ifList isList
            rw [listed] at isList
            contradiction
          · unfold Bundle.boundToSlave
            simp [isLag]
          · intro _ isListed
            exact absurd listed (isListed isLag)
      | some ifList =>
          obtain ⟨links, lagLinks⟩ := holds.sound.dev.lags
          obtain ⟨code, after, attached, settled⟩ := @LagLinks.lagAttachPorts bridge.toEnv _ _
            _ lagLinks accepts current.intfId ifList
          have loaded := holds.lagAttachPorts accepts current.intfId ifList
          simp only [if_true]
          generalize Bundles.lagAttachPorts bridge.toEnv xdk filled.dev current.intfId
            ifList = result at code attached loaded ⊢
          obtain ⟨errno, dev⟩ := result
          simp only at code attached loaded
          subst code
          refine loaded.bundleConfigureL2 started accepts ready repeatable sets noPorts ?_
          intro _ other isList
          rw [listed] at isList
          cases isList
          exact ⟨after, attached, settled⟩

/-- The call from the change of ports on comes to its end. -/
theorem Started.bundleSetPorts_ne_endless
    {start : Ofproto count}
    (started : Started bridge ofproto aux s start bundle)
    (accepts : xdk.Accepts)
    (counted : s.Counted)
    (sets : s.bondHandleAllocOnly = false) :
    (Bundles.bundleSetPorts bridge xdk start bundle s).1 ≠ .endless := by
  obtain ⟨current, holds⟩ := @Started.loaded _ _ xdk _ _ _ _ _ started accepts
  have sameId : current.id = bundle.id :=
    (congrArg Bundle.id holds.same : current.bare.id = bundle.bare.id)
  have few := holds.few started counted sets
  have found := holds.found
  unfold Bundles.bundleSetPorts
  unfold bundleDropPorts at found
  simp only
  generalize s.slaves.foldl (bundleAddPort bridge xdk bundle.id) _ = filled at found ⊢
  rw [sameId] at found
  simp only [found]
  split
  · exact Ending.noConfusion
  have ends : (if current.isLag then bundleUpdateHwLagConfig bridge xdk filled.dev current s
      else (.returned none, filled.dev)).1 ≠ .endless := by
    split
    · rename_i isLag
      rw [bundleUpdateHwLagConfig_of_lt (few isLag)]
      cases lagIfList bridge s.slaves <;> exact Ending.noConfusion
    · exact Ending.noConfusion
  generalize (if current.isLag then _ else _ : Ending × Dev) = result at ends ⊢
  obtain ⟨ending, dev⟩ := result
  dsimp only
  split
  · exact Ending.noConfusion
  · exact ends

theorem Fixed.bundleSet
    (fixed : Fixed bridge ofproto aux s)
    (tied : Tied bridge ofproto)
    (accepts : xdk.Accepts)
    (fresh : LagIdFresh bridge xdk ofproto.dev)
    (unlisted : s.hwBondShouldExist = true → s.slaves.filterMap bridge.port? = [] →
      ∀ vid, vlanPortIsMember bridge.toEnv ofproto.dev vid
        (xdk.lagCreate ofproto.dev.calls) = false)
    (counted : s.Counted)
    (sets : s.bondHandleAllocOnly = false) :
    SameConfig ofproto (Bundles.bundleSet bridge xdk ofproto aux (some s)).2 := by
  rcases fixed with ⟨bundle, found, settled⟩ | gone
  · exact settled.bundleSet tied accepts found counted sets
  · exact gone.bundleSet tied accepts fresh unlisted sets

/-! ## Runs -/

section Runs

variable {ofproto : Ofproto bridge.vlanMaxCount} {s : Settings bridge.vlanMaxCount}
  {first second : Operation bridge.vlanMaxCount}

theorem bundleSet_ne_endless
    {xdk : Xdk}
    (tied : Tied bridge ofproto)
    (sound : Sound bridge (fun _ => False) ofproto)
    (accepts : xdk.Accepts)
    (fresh : LagIdFresh bridge xdk ofproto.dev)
    (counted : s.Counted) :
    (bundleSet bridge xdk ofproto aux (some s)).1 ≠ .endless := by
  obtain ⟨start, bundle, started, equation⟩ := started tied sound accepts fresh aux s
  rw [equation]
  split
  · exact Ending.noConfusion
  · rename_i sets
    exact started.bundleSetPorts_ne_endless accepts counted (by simpa using sets)

/-- In every state of a run, a call of `ofproto_xpliant_bundle_set` that can be
repeated comes to its end and is idempotent.  Where the second call makes a LAG only
to destroy it, the id of that LAG is in no VLAN. -/
theorem sameConfig_of_reached
    (ready : bridge.PortsReady)
    (reached : Transition.Reach (Unconfigured bridge) (LagsApart bridge) (step bridge)
      ofproto)
    (isFirst : first.event = .bundleSet aux (some s))
    (isSecond : second.event = .bundleSet aux (some s))
    (apart : LagsApart bridge ofproto first)
    (apartAgain : LagsApart bridge (step bridge ofproto first) second)
    (unlisted : s.hwBondShouldExist = true → s.slaves.filterMap bridge.port? = [] →
      ∀ vid, vlanPortIsMember bridge.toEnv (step bridge ofproto first).dev vid
        (second.xdk.lagCreate (step bridge ofproto first).dev.calls) = false)
    (repeatable : Repeatable bridge ofproto aux s) :
    (bundleSet bridge first.xdk ofproto aux (some s)).1 ≠ .endless ∧
      (bundleSet bridge second.xdk (step bridge ofproto first) aux (some s)).1 ≠ .endless ∧
      SameConfig (step bridge ofproto first)
        (step bridge (step bridge ofproto first) second) := by
  obtain ⟨tied, sound⟩ := sound_of_reached reached
  obtain ⟨tiedAgain, soundAgain⟩ := sound_of_reached (.next reached apart)
  refine ⟨bundleSet_ne_endless tied sound apart.1 apart.2 repeatable.counted,
    bundleSet_ne_endless tiedAgain soundAgain apartAgain.1 apartAgain.2 repeatable.counted,
    ?_⟩
  obtain ⟨start, bundle, started, equation⟩ := started tied sound apart.1 apart.2 aux s
  have afterSecond : step bridge (step bridge ofproto first) second =
      (bundleSet bridge second.xdk (step bridge ofproto first) aux (some s)).2 := by
    unfold step
    rw [isSecond]
  have afterFirst : step bridge ofproto first =
      (bundleSet bridge first.xdk ofproto aux (some s)).2 := by
    unfold step
    rw [isFirst]
  rw [afterSecond]
  cases allocOnly : s.bondHandleAllocOnly with
  | true =>
      have ended : step bridge ofproto first = start := by
        rw [afterFirst, equation, if_pos allocOnly]
      rw [ended]
      exact started.allocated allocOnly (repeatable.allocated allocOnly)
  | false =>
      have ended : step bridge ofproto first =
          (bundleSetPorts bridge first.xdk start bundle s).2 := by
        rw [afterFirst, equation, if_neg (by simp [allocOnly])]
      have fixed : Fixed bridge (step bridge ofproto first) aux s := by
        rw [ended]
        exact started.fixed apart.1 ready repeatable allocOnly
      exact fixed.bundleSet tiedAgain apartAgain.1 apartAgain.2 unlisted
        repeatable.counted allocOnly

end Runs

/-! ## Settings for the sample bridge -/

theorem portsReady_sampleBridge : (sampleBridge 1 2).PortsReady := by
  unfold Bridge.PortsReady
  decide

theorem unconfigured_sampleOfproto (bridge : Bridge) :
    Unconfigured bridge (sampleOfproto bridge) where
  unbundled := ⟨rfl, fun _ => rfl⟩
  noLags := rfl
  nodup _ := List.nodup_nil
  dormant _ _ := rfl

instance (bridge : Bridge) (xdk : Xdk) (dev : Dev) : Decidable (LagIdFresh bridge xdk dev) :=
  inferInstanceAs (Decidable (_ ∧ _))

theorem lagsApart_operate
    {ofproto : Ofproto (sampleBridge 1 2).vlanMaxCount}
    {event : Event 4096}
    {lagId : Nat}
    (fresh : LagIdFresh (sampleBridge 1 2) (sampleXdk lagId) ofproto.dev) :
    LagsApart (sampleBridge 1 2) ofproto (operate event lagId) :=
  ⟨fun _ => rfl, fresh⟩

theorem nativeVlan_lt : 10 < 4096 := by decide

/-- A LAG of two ports with a VLAN. -/
def bondingRun : List (Operation 4096) :=
  [operate (.setVlan ⟨10, nativeVlan_lt⟩ true) 100,
   operate (.bundleSet 1 (some (trunkSettings "lag" [1, 2] true 10))) 100]

/-- The LAG loses a port, and the VLAN becomes its native one. -/
def nativeSettings : Settings 4096 :=
  { trunkSettings "lag" [2] true 10 with vlanMode := .nativeUntagged, vlan := 10 }

theorem sameConfig_bondingRun :
    let ofproto := Transition.run (step (sampleBridge 1 2)) (sampleOfproto _) bondingRun
    let again := operate (.bundleSet 1 (some nativeSettings)) 101
    SameConfig (step (sampleBridge 1 2) ofproto again)
      (step (sampleBridge 1 2) (step (sampleBridge 1 2) ofproto again) again) := by
  intro ofproto again
  have start : Transition.Reach (Unconfigured (sampleBridge 1 2))
      (LagsApart (sampleBridge 1 2)) (step (sampleBridge 1 2)) (sampleOfproto _) :=
    .start (unconfigured_sampleOfproto _)
  have isLag : ∀ bundle ∈ bundleLookup (Transition.run (step (sampleBridge 1 2))
      (sampleOfproto _) bondingRun) 1, bundle.isLag = true := by
    decide +kernel
  have unbound : ¬BoundToPort (sampleBridge 1 2)
      (Transition.run (step (sampleBridge 1 2)) (sampleOfproto _) bondingRun) 1 := by
    rintro ⟨bundle, found, _, notLag⟩
    exact absurd (notLag.symm.trans (isLag bundle found)) Bool.false_ne_true
  have guarded : Transition.Guarded (LagsApart (sampleBridge 1 2))
      (step (sampleBridge 1 2)) (sampleOfproto _) bondingRun := by
    refine ⟨lagsApart_operate ?_, lagsApart_operate ?_, trivial⟩ <;> decide +kernel
  have repeatable : Repeatable (sampleBridge 1 2) ofproto 1 nativeSettings :=
    ⟨fun allocOnly => absurd allocOnly (by decide),
      fun _ _ isBound => absurd isBound unbound,
      fun _ _ isBound => absurd isBound unbound, by decide⟩
  refine (sameConfig_of_reached portsReady_sampleBridge (start.of_run guarded) rfl rfl
    (lagsApart_operate ?_) (lagsApart_operate ?_) ?_ repeatable).2.2
  · decide +kernel
  · decide +kernel
  · exact fun _ unknown => absurd unknown (by decide)

/-- A LAG is to be allocated, and not to exist in the hardware yet. -/
def allocatingSettings : Settings 4096 :=
  { trunkSettings "lag" [1, 2] false 10 with bondHandleAllocOnly := true }

/-- The first call makes the LAG and the second one destroys it. -/
theorem not_sameConfig_allocating :
    let ofproto := sampleOfproto (sampleBridge 1 2)
    let first := operate (.bundleSet 1 (some allocatingSettings)) 100
    let second := operate (.bundleSet 1 (some allocatingSettings)) 101
    let once := step (sampleBridge 1 2) ofproto first
    let twice := step (sampleBridge 1 2) once second
    (sampleBridge 1 2).PortsReady ∧ Unconfigured (sampleBridge 1 2) ofproto ∧
      LagsApart (sampleBridge 1 2) ofproto first ∧
      LagsApart (sampleBridge 1 2) once second ∧
      once.dev.hw.lags = [(100, [])] ∧ twice.dev.hw.lags = [] ∧
      ¬SameConfig once twice := by
  intro ofproto first second once twice
  have onceLags : once.dev.hw.lags = [(100, [])] := by decide +kernel
  have twiceLags : twice.dev.hw.lags = [] := by decide +kernel
  refine ⟨portsReady_sampleBridge, unconfigured_sampleOfproto _,
    lagsApart_operate (by decide +kernel), lagsApart_operate (by decide +kernel), onceLags,
    twiceLags, ?_⟩
  intro same
  have sameLags := congrArg Hw.lags same.hw
  rw [onceLags, twiceLags] at sameLags
  exact absurd sameLags.symm (List.cons_ne_nil _ _)

end Bundles
end XpliantSwitchd
