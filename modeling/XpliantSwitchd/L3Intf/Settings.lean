import XpliantSwitchd.L3Intf.Lifecycle

/-!
# What settings come to

The L3 interface of a bundle is brought in line with settings that are carried out: there
is none where they do not enable one, and where every call of the XDK succeeds there is one
where they enable one that is possible.
-/

namespace XpliantSwitchd
namespace L3Intf

open Vlans

variable {env : Env} {xdk : L3Xdk env} {state after : State}

/-! ## Whatever the XDK answers -/

/-- A bundle has an interface only where its settings enable one, and for their VLAN. -/
def RoutedBundle.Fits (bundle : RoutedBundle) (s : RoutedSettings) : Prop :=
  ∀ l3Intf, bundle.l3Intf = some l3Intf → s.enable = true ∧ l3Intf.vlanId = s.vlanId

section Fitting

variable {bundle : RoutedBundle} {rest : List RoutedBundle} {request : Request}
  {mac : MacAddr} {ifName : String} {made : Option L3Interface}

/-- A constructor takes no interface out of the hardware. -/
theorem ids_create (returned : request.create xdk state mac = some (made, after)) :
    state.hw.ids <:+ after.hw.ids := by
  obtain ⟨_, rfl⟩ | ⟨works, _⟩ := create_cases returned
  · exact List.suffix_rfl
  · rw [works.hw.ids]
    exact List.suffix_cons _ _

/-- An interface that a bundle asks for has the VLAN of the request, and none is taken out of
the hardware for it. -/
theorem enable_made
    (enabled : request.enable xdk state ifName mac = some (made, after)) :
    state.hw.ids <:+ after.hw.ids ∧
      ∀ l3Intf, made = some l3Intf → l3Intf.vlanId = request.vid := by
  obtain ⟨rfl, rfl⟩ | ⟨named, _⟩ := enable_cases enabled
  · exact ⟨List.suffix_rfl, fun _ isMade => (nomatch isMade)⟩
  · rcases created : request.create xdk state mac with _ | ⟨_ | l3Intf, between⟩
    · rw [created] at named
      exact nomatch named
    · rw [created] at named
      obtain ⟨rfl, rfl⟩ := Prod.mk.inj (Option.some.inj named)
      exact ⟨ids_create created, fun _ isMade => (nomatch isMade)⟩
    · rw [created] at named
      obtain ⟨rfl, rfl⟩ := Prod.mk.inj (Option.some.inj named)
      have kept : state.hw.ids <:+ between.hw.ids := ids_create created
      refine ⟨kept, fun record isMade => ?_⟩
      obtain rfl := Option.some.inj isMade
      rw [(made_of_create created).record]

theorem fits_keep (s : RoutedSettings) : (bundleKeepL3 xdk state bundle s).1.Fits s := by
  unfold bundleKeepL3
  intro record
  cases has : bundle.l3Intf with
  | none =>
      intro kept
      rw [has] at kept
      exact nomatch kept
  | some l3Intf =>
      dsimp only
      split_ifs with wrong updated
      · exact fun kept => (nomatch kept)
      all_goals
        intro kept
        rw [has] at kept
        obtain rfl := Option.some.inj kept
        rw [not_or, not_not, Bool.not_eq_false] at wrong
        exact ⟨wrong.2, wrong.1⟩

/-- What is kept or given up stays in the hardware, and the VLANs and the block of
`l3_iface_mac_set` are left alone. -/
theorem bundleKeepL3_rest (s : RoutedSettings) (sound : Sound xdk state (bundle :: rest)) :
    (bundleKeepL3 xdk state bundle s).2.hw = state.hw ∧
      (bundleKeepL3 xdk state bundle s).2.once = state.once ∧
      (bundleKeepL3 xdk state bundle s).2.dev.table = state.dev.table := by
  unfold bundleKeepL3
  cases has : bundle.l3Intf with
  | none => exact ⟨rfl, rfl, rfl⟩
  | some l3Intf =>
      obtain ⟨request, serves⟩ := sound.serves bundle List.mem_cons_self l3Intf has
      simp only [updateL3Interface_eq serves, disableL3Interface_eq serves]
      split_ifs <;> exact ⟨rfl, rfl, rfl⟩

/-- Settings other than those of a loopback bring the interface of a bundle in line. -/
theorem bundleUpdateL3Config_fits {s : RoutedSettings} {changed : RoutedBundle}
    (isLag : bundle.isLag = s.isLag) (intfId : bundle.intfId = s.intfId)
    (returned : bundleUpdateL3Config xdk state bundle s = some (changed, after))
    (sound : Sound xdk state (bundle :: rest)) :
    changed.aux = bundle.aux ∧ state.hw.ids <:+ after.hw.ids ∧
      (s.type ≠ .loopback → changed.Fits s) := by
  obtain ⟨_, sameLag, sameId, sameAux⟩ := @bundleKeepL3_fields env xdk state bundle s
  have sameHw := (bundleKeepL3_rest s sound).1
  have fits := @fits_keep env xdk state bundle s
  obtain ⟨loopback, rfl, rfl⟩ | ⟨rfl, rfl⟩ | ⟨_, enable, asked⟩ :=
    bundleUpdateL3Config_cases returned
  · exact ⟨rfl, List.suffix_rfl, fun other => absurd loopback other⟩
  · rw [sameHw]
    exact ⟨sameAux, List.suffix_rfl, fun _ => fits⟩
  · rw [← sameHw, ← sameAux]
    obtain ⟨rfl, rfl⟩ | ⟨request, below, made, _, sameVid, _, enabled, rfl⟩ :=
      bundleEnableL3_cases (sameLag.trans isLag) (sameId.trans intfId) asked
    · exact ⟨rfl, List.suffix_rfl, fun _ => fits⟩
    · obtain ⟨kept, isVid⟩ := enable_made enabled
      refine ⟨rfl, kept, fun _ record isMade => ⟨enable, ?_⟩⟩
      exact (isVid record isMade).trans sameVid

/-- Destroying a bundle takes nothing out of the hardware. -/
theorem bundleDestroy_rest {router : Router} {vlanXdk : Xdk} {aux : Nat}
    (sound : Sound xdk router.state router.bundles) :
    (bundleDestroy xdk vlanXdk router aux).state.hw = router.state.hw ∧
      (bundleDestroy xdk vlanXdk router aux).state.once = router.state.once := by
  unfold bundleDestroy Router.bundle?
  cases found : router.bundles.find? (·.aux == aux) with
  | none => exact ⟨rfl, rfl⟩
  | some bundle =>
      dsimp only
      cases has : bundle.l3Intf with
      | none => exact ⟨rfl, rfl⟩
      | some l3Intf =>
          obtain ⟨request, serves⟩ :=
            sound.serves bundle (List.mem_of_find?_eq_some found) l3Intf has
          dsimp only
          rw [disableL3Interface_eq serves]
          exact ⟨rfl, rfl⟩

theorem bundleSet_fits {router changed : Router} {aux : Nat} {s : RoutedSettings}
    {course : Course}
    (named : ∀ bundle ∈ router.bundles, bundle.aux = aux → bundle.name = s.name)
    (below : Plain xdk s.intfId)
    (returned : bundleSet xdk router aux s course = some changed)
    (sound : Sound xdk router.state router.bundles) :
    router.state.hw.ids <:+ changed.state.hw.ids ∧
      (course = .configured → s.type ≠ .loopback →
        ∀ bundle ∈ changed.bundles, bundle.aux = aux → bundle.Fits s) := by
  have start := sound_bundleFor named below sound
  obtain ⟨_, isLag, intfId⟩ := bundleFor_fields router aux s
  cases course with
  | stopped =>
      obtain rfl := Option.some.inj returned
      exact ⟨List.suffix_rfl, fun configured => (nomatch configured)⟩
  | emptied vlanXdk =>
      obtain rfl := Option.some.inj returned
      have sameHw := (@bundleDestroy_rest env xdk
        ⟨router.state, router.bundleFor aux s :: KeyedList.remove (·.aux) aux router.bundles⟩
        vlanXdk aux start).1
      exact ⟨sameHw ▸ List.suffix_rfl, fun configured => (nomatch configured)⟩
  | configured =>
      unfold bundleSet at returned
      rcases updated : bundleUpdateL3Config xdk router.state (router.bundleFor aux s) s with
        _ | ⟨bundle, state⟩
      · simp only [updated] at returned
        exact nomatch returned
      · simp only [updated] at returned
        obtain rfl := Option.some.inj returned
        obtain ⟨_, kept, fits⟩ := bundleUpdateL3Config_fits isLag intfId updated start
        refine ⟨kept, fun _ other => List.forall_mem_cons.2 ⟨fun _ => fits other, ?_⟩⟩
        intro third member same
        exact absurd same (KeyedList.mem_remove.1 member).2

end Fitting

/-! ## When every call succeeds -/

section Accepting

variable {bundle : RoutedBundle} {rest : List RoutedBundle} {mac : MacAddr}

/-- Calls in a row run to their end. -/
theorem callAll_accepting (accepts : xdk.Accepts) (state : State)
    (effects : List (L3Hw → L3Hw)) :
    ∃ after, state.callAll xdk effects = (true, after) ∧ after.once = state.once := by
  have called := calledAll xdk state effects
  rcases equation : state.callAll xdk effects with ⟨done, after⟩
  rw [equation] at called
  obtain rfl : done = true := called.done.2 (Xdk.Accepts.succeedsFor accepts)
  exact ⟨after, rfl, called.once⟩

/-- The block of `l3_iface_mac_set` is left again. -/
theorem macSet_accepting (accepts : xdk.Accepts) (notStarted : state.once ≠ .started)
    (l3IntfId vid : Nat) (mac : MacAddr) :
    ∃ after, l3IfaceMacSet xdk state l3IntfId mac vid = some (none, after) ∧
      after.once ≠ .started := by
  have init : ∃ between, routerMacInit xdk state mac = some (none, between) ∧
      between.once = .done := by
    cases once : state.once with
    | started => exact absurd once notStarted
    | done => exact ⟨state, routerMacInit_done mac once, once⟩
    | idle =>
        unfold routerMacInit
        rw [once]
        dsimp only
        rw [State.call_of_succeeds (accepts _)]
        exact ⟨_, rfl, rfl⟩
  obtain ⟨between, isInit, isDone⟩ := init
  obtain ⟨after, called, same⟩ := callAll_accepting accepts between
    [setIntfEgressRouterMacLsb l3IntfId (MacAddr.firstByte (macCopyAndReverse mac)),
      addIngressRouterMac (if vid ≠ 0 then some vid else none) (macCopyAndReverse mac)]
  refine ⟨after, ?_, ?_⟩
  · unfold l3IfaceMacSet
    simp only [isInit, called]
    rfl
  · rw [same, isDone]
    decide

/-- A constructor returns an interface. -/
theorem create_accepting (accepts : xdk.Accepts) (notStarted : state.once ≠ .started)
    (request : Request) :
    ∃ l3Intf after, request.create xdk state mac = some (some l3Intf, after) ∧
      after.once ≠ .started := by
  obtain ⟨between, equation, same⟩ := callAll_accepting accepts state
    (createIntf (xdk.allocate state.hw.ids request.type) request.type ::
      (request.setup (xdk.allocate state.hw.ids request.type) ++
        [setIntfVrf (xdk.allocate state.hw.ids request.type) state.vrfId,
          setIntfIpv4UcRoutingEn (xdk.allocate state.hw.ids request.type),
          setIntfIpv6UcRoutingEn (xdk.allocate state.hw.ids request.type)]))
  have stillNotStarted : between.once ≠ .started := by
    rw [same]
    exact notStarted
  obtain ⟨written, isSet, isLeft⟩ := macSet_accepting accepts stillNotStarted
    (xdk.allocate state.hw.ids request.type) request.vid mac
  obtain ⟨after, finished, sameOnce⟩ := callAll_accepting accepts written request.last
  rw [create_eq, ifaceCreate_of_equation equation, if_pos rfl]
  unfold ifaceFinish
  simp only [isSet, finished]
  refine ⟨_, after, rfl, ?_⟩
  rw [sameOnce]
  exact isLeft

/-- What has to be there for an interface: a port or a LAG, a port, or a VLAN. -/
def Request.Possible (xdk : L3Xdk env) (dev : Dev) : Request → Prop
  | .vlan vid => vid ≠ 0 ∧ vlanIsExisting env dev vid = true
  | .port ifId =>
      xdk.interfaceType ifId = some .port ∨ xdk.interfaceType ifId = some .lag
  | .sub ifId vid => vid ≠ 0 ∧ xdk.interfaceType ifId = some .port

theorem enable_accepting (accepts : xdk.Accepts) (notStarted : state.once ≠ .started)
    (request : Request) (ifName : String) :
    ∃ made after, request.enable xdk state ifName mac = some (made, after) ∧
      after.once ≠ .started ∧ (request.Possible xdk state.dev → made ≠ none) := by
  obtain ⟨l3Intf, between, created, isLeft⟩ :=
    @create_accepting env xdk state mac accepts notStarted request
  have named : ∃ made after, nameIntf ifName (request.create xdk state mac) =
      some (made, after) ∧ after.once ≠ .started ∧
        (request.Possible xdk state.dev → made ≠ none) := by
    rw [created]
    exact ⟨_, _, rfl, isLeft, fun _ => Option.some_ne_none _⟩
  have nothing : (¬request.Possible xdk state.dev) →
      ∃ made after, some ((none : Option L3Interface), state) = some (made, after) ∧
        after.once ≠ .started ∧ (request.Possible xdk state.dev → made ≠ none) :=
    fun impossible =>
      ⟨none, state, rfl, notStarted, fun possible => absurd possible impossible⟩
  cases request with
  | vlan vid =>
      unfold Request.enable enableL3VlanInterface
      dsimp only
      split_ifs with existing
      · exact named
      · exact nothing fun possible => existing possible.2
  | port ifId =>
      unfold Request.enable enableL3Interface
      dsimp only
      split
      · exact named
      · exact named
      · rename_i notPort notLag
        exact nothing fun possible => possible.elim notPort notLag
  | sub ifId vid =>
      unfold Request.enable enableL3Subinterface
      dsimp only
      split
      · exact named
      · rename_i notPort
        exact nothing fun possible => notPort possible.2

/-- Without an interface a bundle gets the one that it asks for, where that is possible. -/
theorem bundleEnableL3_accepting (accepts : xdk.Accepts) (notStarted : state.once ≠ .started)
    {s : RoutedSettings} (isLag : bundle.isLag = s.isLag) (intfId : bundle.intfId = s.intfId) :
    ∃ changed after, bundleEnableL3 xdk state bundle s = some (changed, after) ∧
      after.once ≠ .started ∧
      ∀ request, s.request = some request → request.Possible xdk state.dev →
        changed.l3Intf ≠ none := by
  have called : ∀ (caller : RoutedBundle) (request : Request),
      ∃ changed after,
        caller.enabled (request.enable xdk state caller.name s.mac) = some (changed, after) ∧
        after.once ≠ .started ∧
        ∀ other, some request = some other → other.Possible xdk state.dev →
          changed.l3Intf ≠ none := by
    intro caller request
    obtain ⟨made, between, enabled, isLeft, isMade⟩ :=
      @enable_accepting env xdk state s.mac accepts notStarted request caller.name
    rw [enabled]
    refine ⟨_, _, rfl, isLeft, fun other asked possible => ?_⟩
    obtain rfl := Option.some.inj asked
    exact isMade possible
  unfold bundleEnableL3 RoutedSettings.request
  cases type : s.type with
  | system =>
      dsimp only
      rw [← isLag, ← intfId]
      split_ifs
      · exact called bundle (.port bundle.intfId)
      · exact called { bundle with intfId := s.portIntfId } (.port s.portIntfId)
  | vlansubint =>
      dsimp only
      split_ifs with isVlan
      · exact called { bundle with intfId := s.portIntfId } (.sub s.portIntfId s.vlanId)
      · refine ⟨bundle, state, rfl, notStarted, fun request asked possible => ?_⟩
        obtain rfl := Option.some.inj asked
        exact absurd possible.1 isVlan
  | internal =>
      dsimp only
      split_ifs with isVlan
      · exact called bundle (.vlan s.vlanId)
      · refine ⟨bundle, state, rfl, notStarted, fun request asked possible => ?_⟩
        obtain rfl := Option.some.inj asked
        exact absurd possible.1 isVlan
  | loopback | other code =>
      refine ⟨bundle, state, rfl, notStarted, fun request asked => ?_⟩
      cases asked

theorem possible_of_table {request : Request} {dev other : Dev}
    (table : other.table = dev.table) (possible : request.Possible xdk dev) :
    request.Possible xdk other := by
  cases request with
  | vlan vid =>
      refine ⟨possible.1, ?_⟩
      unfold vlanIsExisting
      rw [table]
      exact possible.2
  | port ifId => exact possible
  | sub ifId vid => exact possible

/-- The settings of a bundle are carried out. -/
theorem bundleUpdateL3Config_accepting (accepts : xdk.Accepts)
    (notStarted : state.once ≠ .started) {s : RoutedSettings}
    (isLag : bundle.isLag = s.isLag) (intfId : bundle.intfId = s.intfId)
    (sound : Sound xdk state (bundle :: rest)) :
    ∃ changed after, bundleUpdateL3Config xdk state bundle s = some (changed, after) ∧
      after.once ≠ .started ∧
      (s.enable = true → ∀ request, s.request = some request →
        request.Possible xdk state.dev → changed.l3Intf ≠ none) := by
  obtain ⟨_, sameOnce, sameTable⟩ := bundleKeepL3_rest s sound
  obtain ⟨_, sameLag, sameId, _⟩ := @bundleKeepL3_fields env xdk state bundle s
  have keptNotStarted : (bundleKeepL3 xdk state bundle s).2.once ≠ .started := by
    rw [sameOnce]
    exact notStarted
  unfold bundleUpdateL3Config
  split_ifs with loopback
  · refine ⟨bundle, state, rfl, notStarted, fun _ request asked => ?_⟩
    rw [RoutedSettings.request, loopback] at asked
    cases asked
  · dsimp only
    split_ifs with asks
    · obtain ⟨changed, between, equation, isLeft, isMade⟩ := bundleEnableL3_accepting accepts
        keptNotStarted (sameLag.trans isLag) (sameId.trans intfId)
      exact ⟨changed, between, equation, isLeft, fun _ request asked possible =>
        isMade request asked (possible_of_table sameTable possible)⟩
    · exact ⟨_, _, rfl, keptNotStarted, fun enable _ _ _ free => asks ⟨free, enable⟩⟩

theorem bundleSet_accepting (accepts : xdk.Accepts) {router : Router} {aux : Nat}
    {s : RoutedSettings} (notStarted : router.state.once ≠ .started)
    (named : ∀ bundle ∈ router.bundles, bundle.aux = aux → bundle.name = s.name)
    (below : Plain xdk s.intfId) (sound : Sound xdk router.state router.bundles)
    (course : Course) :
    ∃ changed, bundleSet xdk router aux s course = some changed ∧
      changed.state.once ≠ .started ∧
      (course = .configured → ∃ bundle ∈ changed.bundles, bundle.aux = aux ∧
        (s.enable = true → ∀ request, s.request = some request →
          request.Possible xdk router.state.dev → bundle.l3Intf ≠ none)) := by
  have start := sound_bundleFor named below sound
  obtain ⟨sameAux, isLag, intfId⟩ := bundleFor_fields router aux s
  cases course with
  | stopped => exact ⟨_, rfl, notStarted, fun configured => (nomatch configured)⟩
  | emptied vlanXdk =>
      refine ⟨_, rfl, ?_, fun configured => (nomatch configured)⟩
      rw [(bundleDestroy_rest start).2]
      exact notStarted
  | configured =>
      obtain ⟨changed, after, updated, isLeft, isMade⟩ :=
        bundleUpdateL3Config_accepting accepts notStarted isLag intfId start
      obtain ⟨changedAux, _⟩ := bundleUpdateL3Config_fits isLag intfId updated start
      unfold bundleSet
      simp only [updated]
      exact ⟨_, rfl, isLeft, fun _ =>
        ⟨changed, List.mem_cons_self, changedAux.trans sameAux, isMade⟩⟩

end Accepting

end L3Intf
end XpliantSwitchd
