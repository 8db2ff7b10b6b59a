import XpliantSwitchd.Routing.Adjacencies
import XpliantSwitchd.Routing.Fib
import XpliantSwitchd.AddressPrefix
import XpliantSwitchd.Lib.LongestPrefix

/-!
# Forwarding

The hardware forwards a packet by the longest prefix that matches its destination
and spreads the packets over the slots that the route entry names.  The routing table
of this module has a prefix and a set of next hops for each route that was asked for;
the hardware forwards as it says, and each slot holds what the requests have told of
its next hop.
-/

namespace XpliantSwitchd
namespace Routing

open LongestPrefix (Selects Presents)

/-! ## The routing table -/

/-- The prefix and the next hops of each route. -/
abbrev Rib := String → Option (RouteKey × Finset String)

section Rib

variable (env : Env) (bits : PrefixBits) (vrfId : Nat)

/-- The prefix that a request names. -/
def requestedKey (request : OfprotoRoute) : Option RouteKey :=
  (env.stringToPrefix request.family request.ipPrefix).map fun parts =>
    (request.family, vrfId, bits request.family parts.1 parts.2)

/-- What a request that is not rejected does to the routing table. -/
def Rib.apply (rib : Rib) (request : Request) : Rib :=
  let ipPrefix := request.route.ipPrefix
  let ids := (request.route.nexthops.map (·.id)).toFinset
  match request.action with
  | .add =>
      Function.update rib ipPrefix
        (match rib ipPrefix with
        | some (key, old) => some (key, old ∪ ids)
        | none => (requestedKey env bits vrfId request.route).map (·, ids))
  | .deleteNh =>
      Function.update rib ipPrefix ((rib ipPrefix).map fun route =>
        (route.1, route.2 \ ids))
  | .delete => Function.update rib ipPrefix none
  | .unknown => rib

end Rib

/-- The sets of next hops of the routing table. -/
def Rib.sets (rib : Rib) : RouteSets := fun ipPrefix => (rib ipPrefix).map (·.2)

/-- The routes of a family. -/
def Rib.routes (rib : Rib) (family : Family) (vrfId : Nat) (ipPrefix : String) :
    Option (List Bool × Finset String) :=
  match rib ipPrefix with
  | some ((routeFamily, routeVrf, found), ids) =>
      if routeFamily = family ∧ routeVrf = vrfId then some (found, ids) else none
  | none => none

/-! ## The router -/

/-- The manager, the route entries of the hardware, the routing table, and the hosts
that `ADD` requests have named for next hops, whether or not they were rejected. -/
structure Router where
  mgr : L3Mgr
  fib : Fib
  rib : Rib
  told : List (String × HostEntry)

/-- A new manager, and nothing in the hardware. -/
def Router.start (vrfId : Nat) (hosts : List HostEntry) : Router where
  mgr := l3MgrCreate vrfId hosts
  fib := fun _ => none
  rib := fun _ => none
  told := []

/-- The hosts that a request tells. -/
def toldBy (mgr : L3Mgr) (request : Request) : List (String × HostEntry) :=
  if request.action = .add then namedHosts mgr.hostIdMap request.route.nexthops else []

/-- A request on all of them.  A request that the code rejects leaves the routing table
alone. -/
def Router.step (env : Env) (bits : PrefixBits) (router : Router)
    (request : RouteRequest) : Router where
  mgr := Routing.step env router.mgr request.toRequest
  fib := routeFib env bits router.mgr request router.fib
  rib :=
    if (routeEntryAction env router.mgr request.toRequest).rc = none then
      router.rib.apply env bits router.mgr.vrfId request.toRequest
    else router.rib
  told := toldBy router.mgr request.toRequest ++ router.told

/-- What can happen to the router: a route request, or new contents of the host
table. -/
inductive RouterChange
  | request (request : RouteRequest)
  | hosts (hosts : List HostEntry)

/-- The router after a change. -/
def Router.change (env : Env) (bits : PrefixBits) (router : Router) :
    RouterChange → Router
  | .request request => router.step env bits request
  | .hosts hosts => { router with mgr := { router.mgr with hostIdMap := hosts } }

/-- The slots of the entry that the longest prefix selects: the next hop of each, and
what it holds. -/
def Router.forward (router : Router) (family : Family) (address : List Bool) :
    Option (List (Option (String × L3NextHopEntry))) :=
  (LongestPrefix.lookup (fun found => router.fib (family, router.mgr.vrfId, found))
    address).map fun slots =>
      (List.range slots.1).map fun offset => router.mgr.hw.slots (slots.2 + offset)

/-- The slots of an entry have each of the next hops once, and each holds what has been
told of its next hop. -/
def Spreads (env : Env) (told : List (String × HostEntry)) (ids : Finset String)
    (slots : List (Option (String × L3NextHopEntry))) : Prop :=
  ∃ hops : List (String × L3NextHopEntry), (hops.map (·.1)).Nodup ∧
    (hops.map (·.1)).toFinset = ids ∧ slots = hops.map some ∧
    ∀ hop ∈ hops, Adjacent env told hop.1 hop.2

/-- The requests that the hardware follows: they keep the slots consistent, routes can
be removed, and two texts do not name one prefix. -/
structure Followed (env : Env) (bits : PrefixBits) (router : Router)
    (request : RouteRequest) : Prop where
  exactly : Exactly router.mgr request.toRequest
  removes : request.removeIpRouteEntry = true
  distinct : request.action = .add → ∀ entry ∈ router.mgr.entries,
    entry.1 ≠ request.route.ipPrefix →
      requestedKey env bits router.mgr.vrfId request.route ≠ some (entry.2.key bits)

/-- The hardware has the entries of the manager. -/
structure Installed (bits : PrefixBits) (entries : List (String × XpRoute)) (fib : Fib) :
    Prop where
  once : (entries.map (·.1)).Nodup
  apart : ∀ first ∈ entries, ∀ second ∈ entries,
    first.2.key bits = second.2.key bits → first = second
  exact : ∀ key slots, fib key = some slots ↔
    ∃ entry ∈ entries, entry.2.key bits = key ∧
      (entry.2.nhEcmpSize, entry.2.nhId) = slots

/-- The routing table has the prefixes of the entries. -/
def Keyed (bits : PrefixBits) (entries : List (String × XpRoute)) (rib : Rib) : Prop :=
  ∀ ipPrefix key, (rib ipPrefix).map (·.1) = some key ↔
    ∃ route, (ipPrefix, route) ∈ entries ∧ route.key bits = key

/-- What requests keep. -/
structure Router.Inv (env : Env) (bits : PrefixBits) (router : Router) : Prop where
  refs : RefInv router.mgr none fun _ => 0
  slots : SlotInv router.mgr none
  installed : Installed bits router.mgr.entries router.fib
  keyed : Keyed bits router.mgr.entries router.rib
  sets : routeSets router.mgr = router.rib.sets
  contents : ContentsAll (Adjacent env router.told) router.mgr

section Steps

variable {env : Env} {bits : PrefixBits} {mgr mgr' : L3Mgr} {request : Request}
  {fib fib' : Fib} {rib : Rib} {rc : Option Errno}

theorem writeSlots_key (size nhId : Nat) (entry : String × XpRoute) :
    (writeSlots size nhId entry).2.key bits = entry.2.key bits := rfl

/-- The requests of `Exactly` do not confuse groups. -/
theorem SlotInv.not_ambiguous
    (slots : SlotInv mgr none)
    (refs : RefInv mgr none fun _ => 0)
    (exactly : Exactly mgr request) : ¬Ambiguous env mgr request := by
  rintro ⟨candidate, isCandidate, oversized, _⟩
  have pointed : ∀ pointer, pointers mgr request.route.ipPrefix = some pointer →
      ∀ ref, pointer = some ref → (deref mgr ref).Exact := by
    rintro pointer points ref rfl
    exact slots.shaped ref _ (refs.live_of_published (refs.published_of_points points))
  have shaped : candidate.Exact := by
    obtain ⟨pointer, points, ⟨isAdd, update⟩ | ⟨_, ref, isRef, delete⟩⟩ :=
      candidateGroup_cases isCandidate
    · have needed : needsNewGroup request.xdk (pointer.map (deref mgr))
          request.route.nexthops = true := by
        by_contra sufficient
        rw [updateCandidate, if_neg sufficient] at update
        cases update
      obtain ⟨missing, member, isMissing⟩ := List.any_eq_true.mp needed
      refine updateCandidate_exact (pointed pointer points)
        (List.ne_nil_of_mem member) exactly.once ?_ update
      rcases exactly.overlapFree isAdd pointer points with known | unknown
      · have inOld := known missing member
        cases pointer with
        | none => cases inOld
        | some ref =>
            have found := (@nhLookup_isSome request.xdk _ _).mpr inOld
            have absent : nhLookup request.xdk (deref mgr ref) missing.id = none :=
              Option.isNone_iff_eq_none.mp isMissing
            rw [absent] at found
            cases found
      · exact unknown
    · have left : (deref mgr ref).size >
          listedCount request.xdk request.route (deref mgr ref) := by
        by_contra noneLeft
        unfold listedCount at noneLeft
        simp only [deleteCandidate, if_neg noneLeft] at delete
        cases delete
      exact deleteCandidate_exact (pointed pointer points ref isRef) left delete
  have full := shaped.full
  omega

/-! ### The entries -/

theorem Installed.of_write
    {entries : List (String × XpRoute)} {ipPrefix : String} {route : XpRoute}
    (installed : Installed bits entries fib)
    (absent : ipPrefix ∉ entries.map (·.1))
    (unused : ∀ entry ∈ entries, entry.2.key bits ≠ route.key bits) :
    Installed bits ((ipPrefix, route) :: entries) (fib.write bits route) where
  once := List.nodup_cons.mpr ⟨absent, installed.once⟩
  apart := by
    intro first firstMember second secondMember same
    rcases List.mem_cons.mp firstMember with rfl | firstOlder
    · rcases List.mem_cons.mp secondMember with rfl | secondOlder
      · rfl
      · exact absurd same.symm (unused second secondOlder)
    · rcases List.mem_cons.mp secondMember with rfl | secondOlder
      · exact absurd same (unused first firstOlder)
      · exact installed.apart first firstOlder second secondOlder same
  exact := by
    intro key slots
    unfold Fib.write
    by_cases here : key = route.key bits
    · subst here
      simp only [Function.update_self, Option.some.injEq, List.mem_cons,
        exists_eq_or_imp, true_and]
      constructor
      · exact .inl
      · rintro (same | ⟨entry, member, sameKey, _⟩)
        · exact same
        · exact absurd sameKey (unused entry member)
    · rw [Function.update_of_ne here, installed.exact]
      simp [Ne.symm here]

theorem Installed.of_rewrite
    {entries : List (String × XpRoute)} {ipPrefix : String} {route : XpRoute}
    (installed : Installed bits entries fib)
    (member : (ipPrefix, route) ∈ entries)
    (size nhId : Nat) :
    Installed bits (KeyedList.rewrite (·.1) ipPrefix (writeSlots size nhId) entries)
      (fib.write bits (writeSlots size nhId (ipPrefix, route)).2) := by
  have cases_of_mem : ∀ entry, entry ∈ KeyedList.rewrite (·.1) ipPrefix
      (writeSlots size nhId) entries →
      ∃ old ∈ entries, entry.2.key bits = old.2.key bits ∧ entry.1 = old.1 ∧
        entry = if old.1 = ipPrefix then writeSlots size nhId old else old := by
    intro entry entryMember
    obtain ⟨old, oldMember, rfl⟩ := List.mem_map.mp entryMember
    refine ⟨old, oldMember, ?_, ?_, rfl⟩ <;> split <;> rfl
  refine ⟨?_, ?_, ?_⟩
  · have texts : (KeyedList.rewrite (·.1) ipPrefix (writeSlots size nhId) entries).map
        (·.1) = entries.map (·.1) := KeyedList.map_rewrite fun _ _ _ => rfl
    rw [texts]
    exact installed.once
  · intro first firstMember second secondMember same
    obtain ⟨oldFirst, firstOlder, firstKey, _, rfl⟩ := cases_of_mem first firstMember
    obtain ⟨oldSecond, secondOlder, secondKey, _, rfl⟩ :=
      cases_of_mem second secondMember
    rw [installed.apart oldFirst firstOlder oldSecond secondOlder
      (firstKey.symm.trans (same.trans secondKey))]
  · intro key slots
    unfold Fib.write
    rw [writeSlots_key]
    by_cases here : key = route.key bits
    · subst here
      rw [Function.update_self, Option.some.injEq]
      constructor
      · rintro rfl
        exact ⟨writeSlots size nhId (ipPrefix, route),
          KeyedList.mem_rewrite.mpr (.inl ⟨_, member, rfl, rfl⟩), rfl, rfl⟩
      · rintro ⟨entry, entryMember, sameKey, sameSlots⟩
        obtain ⟨old, older, oldKey, _, rfl⟩ := cases_of_mem entry entryMember
        have isRoute := installed.apart old older _ member (oldKey.symm.trans sameKey)
        subst isRoute
        rw [← sameSlots, if_pos rfl]
    · rw [Function.update_of_ne here, installed.exact]
      constructor
      · rintro ⟨entry, entryMember, rfl, rfl⟩
        have different : entry.1 ≠ ipPrefix := by
          intro same
          have isRoute := List.inj_on_of_nodup_map installed.once entryMember member same
          rw [isRoute] at here
          exact here rfl
        exact ⟨entry, KeyedList.mem_rewrite.mpr (.inr ⟨entryMember, different⟩), rfl, rfl⟩
      · rintro ⟨entry, entryMember, rfl, rfl⟩
        rcases KeyedList.mem_rewrite.mp entryMember with
          ⟨old, older, isHere, rfl⟩ | ⟨older, _⟩
        · have isRoute := List.inj_on_of_nodup_map installed.once older member isHere
          rw [isRoute, writeSlots_key] at here
          exact absurd rfl here
        · exact ⟨entry, older, rfl, rfl⟩

theorem Installed.of_erase
    {entries : List (String × XpRoute)} {ipPrefix : String} {route : XpRoute}
    (installed : Installed bits entries fib)
    (member : (ipPrefix, route) ∈ entries) :
    Installed bits (KeyedList.remove (·.1) ipPrefix entries) (fib.erase bits route) where
  once := installed.once.sublist (List.Sublist.map _ List.filter_sublist)
  apart := by
    intro first firstMember second secondMember same
    exact installed.apart first (KeyedList.mem_remove.mp firstMember).1 second
      (KeyedList.mem_remove.mp secondMember).1 same
  exact := by
    intro key slots
    unfold Fib.erase
    by_cases here : key = route.key bits
    · subst here
      simp only [Function.update_self, reduceCtorEq, false_iff]
      rintro ⟨entry, entryMember, sameKey, _⟩
      obtain ⟨older, different⟩ := KeyedList.mem_remove.mp entryMember
      rw [installed.apart entry older _ member sameKey] at different
      exact different rfl
    · rw [Function.update_of_ne here, installed.exact]
      constructor
      · rintro ⟨entry, entryMember, rfl, rfl⟩
        have different : entry.1 ≠ ipPrefix := by
          intro same
          have isRoute := List.inj_on_of_nodup_map installed.once entryMember member same
          rw [isRoute] at here
          exact here rfl
        exact ⟨entry, KeyedList.mem_remove.mpr ⟨entryMember, different⟩, rfl, rfl⟩
      · rintro ⟨entry, entryMember, sameKey, sameSlots⟩
        exact ⟨entry, (KeyedList.mem_remove.mp entryMember).1, sameKey, sameSlots⟩

/-! ### The routing table -/

theorem Keyed.isSome_iff
    {entries : List (String × XpRoute)}
    (keyed : Keyed bits entries rib)
    (ipPrefix : String) : (rib ipPrefix).isSome ↔ ipPrefix ∈ entries.map (·.1) := by
  rw [← Option.isSome_map, Option.isSome_iff_exists]
  constructor
  · rintro ⟨key, known⟩
    obtain ⟨route, member, _⟩ := (keyed ipPrefix key).mp known
    exact List.mem_map.mpr ⟨_, member, rfl⟩
  · intro member
    obtain ⟨⟨_, route⟩, entryMember, rfl⟩ := List.mem_map.mp member
    exact ⟨_, (keyed _ _).mpr ⟨route, entryMember, rfl⟩⟩

/-- Requests that neither make nor delete a route leave the prefixes alone. -/
theorem Rib.apply_fst
    {vrfId : Nat}
    (notDelete : request.action ≠ .delete)
    (known : request.action = .add → (rib request.route.ipPrefix).isSome)
    (ipPrefix : String) :
    ((rib.apply env bits vrfId request) ipPrefix).map (·.1) =
      (rib ipPrefix).map (·.1) := by
  unfold Rib.apply
  by_cases here : ipPrefix = request.route.ipPrefix
  · subst here
    cases action : request.action with
    | add =>
        obtain ⟨route, isRoute⟩ := Option.isSome_iff_exists.mp (known action)
        simp [isRoute]
    | deleteNh => cases rib request.route.ipPrefix <;> simp
    | delete => exact absurd action notDelete
    | unknown => rfl
  · cases action : request.action <;> simp [Function.update_of_ne here]

/-- The sets of the routing table are those of the abstract map. -/
theorem Rib.apply_sets
    {vrfId : Nat}
    (parses : request.action = .add → rib request.route.ipPrefix = none →
      (requestedKey env bits vrfId request.route).isSome) :
    (rib.apply env bits vrfId request).sets = rib.sets.apply request := by
  funext ipPrefix
  unfold Rib.apply RouteSets.apply Rib.sets
  by_cases here : ipPrefix = request.route.ipPrefix
  · subst here
    cases action : request.action with
    | add =>
        cases found : rib request.route.ipPrefix with
        | some route => simp [found]
        | none =>
            obtain ⟨key, isKey⟩ := Option.isSome_iff_exists.mp (parses action found)
            simp [found, isKey]
    | deleteNh => cases found : rib request.route.ipPrefix <;> simp [found]
    | delete => simp
    | unknown => rfl
  · cases action : request.action <;> simp [Function.update_of_ne here]

/-- A request does to the prefixes of the routing table what it does to the
entries. -/
theorem Keyed.step
    (keyed : Keyed bits mgr.entries rib)
    (effect : FibEffect env bits mgr request fib rc mgr' fib') :
    Keyed bits mgr'.entries
      (if rc = none then rib.apply env bits mgr.vrfId request else rib) := by
  have same : request.action ≠ .delete →
      (request.action = .add → request.route.ipPrefix ∈ mgr.entries.map (·.1)) →
      Keyed bits mgr.entries (rib.apply env bits mgr.vrfId request) := by
    intro notDelete known ipPrefix key
    rw [Rib.apply_fst notDelete fun isAdd => (keyed.isSome_iff _).mpr (known isAdd)]
    exact keyed ipPrefix key
  cases effect with
  | rejected entries =>
      rw [if_neg (by simp), entries]
      exact keyed
  | unchanged known notDelete entries =>
      rw [if_pos rfl, entries]
      exact same notDelete known
  | @added _ addr len size nhId isAdd absent parsed entries =>
      rw [if_pos rfl, entries]
      have unrouted : rib request.route.ipPrefix = none := by
        rw [← Option.not_isSome_iff_eq_none, keyed.isSome_iff]
        exact absent
      intro ipPrefix key
      simp only [Rib.apply, isAdd, unrouted, requestedKey, parsed, Option.map_some]
      by_cases here : ipPrefix = request.route.ipPrefix
      · subst here
        have noOther : ∀ route, (request.route.ipPrefix, route) ∉ mgr.entries :=
          fun route member => absent (List.mem_map.mpr ⟨_, member, rfl⟩)
        simp [noOther, XpRoute.key]
      · rw [Function.update_of_ne here, keyed ipPrefix key]
        simp [here]
  | @written _ route size nhId notDelete member entries =>
      rw [if_pos rfl, entries]
      have applied := same notDelete fun _ => List.mem_map.mpr ⟨_, member, rfl⟩
      intro ipPrefix key
      rw [applied]
      constructor
      · rintro ⟨old, older, sameKey⟩
        by_cases here : ipPrefix = request.route.ipPrefix
        · exact ⟨(writeSlots size nhId (ipPrefix, old)).2,
            KeyedList.mem_rewrite.mpr (.inl ⟨_, older, here, rfl⟩), sameKey⟩
        · exact ⟨old, KeyedList.mem_rewrite.mpr (.inr ⟨older, here⟩), sameKey⟩
      · rintro ⟨current, currentMember, sameKey⟩
        rcases KeyedList.mem_rewrite.mp currentMember with
          ⟨⟨_, old⟩, older, _, equal⟩ | ⟨older, _⟩
        · cases equal
          exact ⟨old, older, sameKey⟩
        · exact ⟨current, older, sameKey⟩
  | @removed _ route isDelete member entries =>
      rw [if_pos rfl, entries]
      intro ipPrefix key
      simp only [Rib.apply, isDelete]
      by_cases here : ipPrefix = request.route.ipPrefix
      · subst here
        simp [KeyedList.mem_remove]
      · rw [Function.update_of_ne here, keyed ipPrefix key]
        simp [KeyedList.mem_remove, here]

theorem Installed.step
    (installed : Installed bits mgr.entries fib)
    (distinct : request.action = .add → ∀ entry ∈ mgr.entries,
      entry.1 ≠ request.route.ipPrefix →
        requestedKey env bits mgr.vrfId request.route ≠ some (entry.2.key bits))
    (effect : FibEffect env bits mgr request fib rc mgr' fib') :
    Installed bits mgr'.entries fib' := by
  cases effect with
  | rejected entries =>
      rw [entries]
      exact installed
  | unchanged _ _ entries =>
      rw [entries]
      exact installed
  | added isAdd absent parsed entries =>
      rw [entries]
      refine installed.of_write absent ?_
      intro entry member sameKey
      refine distinct isAdd entry member ?_ ?_
      · intro here
        exact absent (List.mem_map.mpr ⟨entry, member, here⟩)
      · rw [requestedKey, parsed, sameKey]
        rfl
  | written _ member entries =>
      rw [entries]
      exact installed.of_rewrite member _ _
  | removed _ member entries =>
      rw [entries]
      exact installed.of_erase member

end Steps

/-! ## Runs -/

section Runs

variable {env : Env} {bits : PrefixBits} {router : Router} {request : RouteRequest}

theorem Router.Inv.init (vrfId : Nat) (hosts : List HostEntry) :
    Router.Inv env bits (Router.start vrfId hosts) where
  refs := l3MgrCreate_refInv vrfId hosts
  slots := by constructor <;> simp [Router.start, l3MgrCreate]
  installed := by constructor <;> simp [Router.start, L3Mgr.entries, l3MgrCreate]
  keyed := by simp [Router.start, Keyed, L3Mgr.entries, l3MgrCreate]
  sets := rfl
  contents := by
    constructor
    · intro ref group live
      cases live
    · intro slot id entry held
      cases held

/-- A change of the host table writes nothing. -/
theorem Router.Inv.hosts
    (inv : Router.Inv env bits router) (hosts : List HostEntry) :
    Router.Inv env bits
      { router with mgr := { router.mgr with hostIdMap := hosts } } where
  refs := inv.refs.withHosts hosts
  slots := ⟨inv.slots.shaped, inv.slots.owned, inv.slots.apart, inv.slots.programmed,
    inv.slots.reserved, inv.slots.reflects⟩
  installed := inv.installed
  keyed := inv.keyed
  sets := inv.sets
  contents := ⟨inv.contents.groups, inv.contents.slots⟩

/-- A request keeps what was told, and an `ADD` writes down the hosts that it names
before it uses them. -/
theorem Router.Inv.contentsStep
    (inv : Router.Inv env bits router)
    (updates : request.xdk.updateIpRouteEntry = true) :
    ContentsAll (Adjacent env (router.step env bits request).told)
      (router.step env bits request).mgr := by
  have included : router.told ⊆ (router.step env bits request).told :=
    List.subset_append_right _ _
  refine (inv.contents.mono fun _ _ adjacent => adjacent.mono included).step inv.refs
    updates fun isAdd => buildable_adjacent _ ?_
  intro nh member resolved host known
  refine List.mem_append_left _ ?_
  rw [toldBy, if_pos isAdd]
  exact forResolved_namedHosts _ _ nh member resolved host known

theorem Router.Inv.step
    (inv : Router.Inv env bits router)
    (followed : Followed env bits router request) :
    Router.Inv env bits (router.step env bits request) := by
  obtain ⟨exactly, removes, distinct⟩ := followed
  have succeeds := exactly.succeeds
  have effect := @fibEffect env bits router.mgr router.fib request inv.refs
    succeeds.updates removes
  have well : GroupsWell router.mgr :=
    fun ref group live => (inv.slots.shaped ref group live).wellFormed
  have sets := @routeSets_step env _ _ succeeds exactly.once
    (inv.slots.not_ambiguous inv.refs exactly) inv.refs well
  refine ⟨inv.refs.step (.of_succeeds succeeds), inv.slots.step exactly inv.refs,
    inv.installed.step distinct effect, inv.keyed.step effect, ?_,
    inv.contentsStep succeeds.updates⟩
  simp only [Router.step]
  rw [sets, inv.sets]
  cases rejected : (routeEntryAction env router.mgr request.toRequest).rc with
  | some errno => rfl
  | none =>
      rw [if_pos rfl, if_pos rfl]
      refine (Rib.apply_sets ?_).symm
      intro isAdd unrouted
      have absent : request.route.ipPrefix ∉ router.mgr.entries.map (·.1) := by
        rw [← inv.keyed.isSome_iff, unrouted]
        simp
      rw [rejected] at effect
      generalize Routing.step env router.mgr request.toRequest = mgr' at effect
      generalize routeFib env bits router.mgr request router.fib = fib' at effect
      cases effect with
      | unchanged known _ _ => exact absurd (known isAdd) absent
      | added _ _ parsed _ => simp [requestedKey, parsed]
      | written _ member _ =>
          exact absurd (List.mem_map.mpr ⟨_, member, rfl⟩) absent
      | removed isDelete _ _ =>
          rw [isAdd] at isDelete
          cases isDelete

/-- The slots of a group, one after the other: its next hops, and what the slots
hold. -/
theorem SlotInv.hops
    {mgr : L3Mgr} {pending : Option Block} {ref : GroupRef} {group : NhGroup}
    (inv : SlotInv mgr pending)
    (live : mgr.groups ref = some group) :
    ∃ hops : List (String × L3NextHopEntry), hops.map (·.1) = group.ids ∧
      ((List.range group.size).map fun offset => mgr.hw.slots (group.nhId + offset)) =
        hops.map some := by
  have sized : group.ids.length = group.size := by
    rw [NhGroup.length_ids, (inv.shaped ref group live).full]
  have held : ∀ index : Fin group.ids.length, ∃ entry,
      mgr.hw.slots (group.nhId + index) = some (group.ids[index], entry) :=
    fun index => inv.programmed ref group live index _
      (List.getElem?_eq_getElem index.isLt)
  choose entry programmed using held
  refine ⟨List.ofFn fun index => (group.ids[index], entry index), ?_, ?_⟩
  · rw [List.map_ofFn]
    exact List.ofFn_getElem
  · apply List.ext_getElem
    · simp [sized]
    · intro index inSlots inHops
      have inIds : index < group.ids.length := by simpa using inHops
      simpa using programmed ⟨index, inIds⟩

/-- The slots of a route have each of its next hops once, and hold what was told. -/
theorem Router.Inv.spreads
    {route : RouteEntry}
    (inv : Router.Inv env bits router)
    (member : route ∈ router.mgr.routeMap) :
    Spreads env router.told (pointerIds router.mgr route.nhGroup).toFinset
      ((List.range route.xpRoute.nhEcmpSize).map fun offset =>
        router.mgr.hw.slots (route.xpRoute.nhId + offset)) := by
  obtain ⟨size, base⟩ := inv.slots.reflects route member
  cases pointer : route.nhGroup with
  | none =>
      refine ⟨[], List.nodup_nil, rfl, ?_, nofun⟩
      rw [pointer] at size
      simp [size, pointerSize]
  | some ref =>
      have shaped := inv.slots.exact_of_points inv.refs member ref pointer
      have live := inv.refs.live_of_published
        (inv.refs.pointsPublished route member ref pointer)
      rw [pointer] at size base
      simp only [pointerSize, pointerBase, Option.map_some, Option.getD_some]
        at size base
      obtain ⟨hops, sameIds, held⟩ := inv.slots.hops live
      rw [size, base]
      refine ⟨hops, ?_, ?_, held, ?_⟩
      · rw [sameIds]
        exact shaped.wellFormed.idsOnce
      · rw [sameIds]
        rfl
      · intro hop hopMember
        have inSlots : some hop ∈ hops.map some := List.mem_map_of_mem hopMember
        rw [← held] at inSlots
        obtain ⟨offset, _, holds⟩ := List.mem_map.mp inSlots
        exact inv.contents.slots _ _ _ holds

/-- The hardware presents the routes of the routing table. -/
theorem Router.Inv.presents
    (inv : Router.Inv env bits router)
    (family : Family) :
    Presents (router.rib.routes family router.mgr.vrfId) (Spreads env router.told)
      fun found => (router.fib (family, router.mgr.vrfId, found)).map fun slots =>
        (List.range slots.1).map fun offset =>
          router.mgr.hw.slots (slots.2 + offset) := by
  constructor
  · intro found value known
    obtain ⟨slots, isSlots, _⟩ := Option.map_eq_some_iff.mp known
    obtain ⟨⟨ipPrefix, route⟩, member, isKey, _⟩ :=
      (inv.installed.exact _ slots).mp isSlots
    obtain ⟨⟨_, ids⟩, isRoute, rfl⟩ := Option.map_eq_some_iff.mp
      ((inv.keyed ipPrefix _).mpr ⟨route, member, isKey⟩)
    refine ⟨ipPrefix, ids, ?_⟩
    rw [Rib.routes, isRoute]
    exact if_pos ⟨rfl, rfl⟩
  · intro ipPrefix found ids isRoute
    unfold Rib.routes at isRoute
    split at isRoute
    · rename_i routeFamily routeVrf routeFound routeIds known
      split at isRoute
      · rename_i here
        obtain ⟨rfl, rfl⟩ := here
        cases isRoute
        obtain ⟨entry, member, isKey⟩ := (inv.keyed ipPrefix _).mp
          (congrArg (Option.map (·.1)) known)
        obtain ⟨route, routeMember, equal⟩ := List.mem_map.mp member
        cases equal
        have isSlots := (inv.installed.exact _ _).mpr ⟨_, member, isKey, rfl⟩
        refine ⟨_, congrArg (Option.map _) isSlots, ?_⟩
        have sameSets : some (pointerIds router.mgr route.nhGroup).toFinset =
            some ids := by
          have isFound : findRoute router.mgr route.ipPrefix = some route :=
            (KeyedList.find?_key_eq_some inv.refs.prefixesOnce).mpr ⟨routeMember, rfl⟩
          have points : pointers router.mgr route.ipPrefix = some route.nhGroup := by
            simp [pointers, isFound]
          rw [← routeSets_of_points points, inv.sets, Rib.sets, known]
          rfl
        rw [← Option.some.inj sameSets]
        exact inv.spreads routeMember
      · cases isRoute
    · cases isRoute

theorem Exactly.orderly {mgr : L3Mgr} {request : Request}
    (exactly : Exactly mgr request) : Orderly mgr request where
  updates := exactly.succeeds.updates
  fresh := exactly.fresh
  once := exactly.once

end Runs

/-! ## Prefixes in text -/

section Texts

open AddressPrefix

/-- The first bits of an address, the highest first. -/
def leadingBits : PrefixBits := fun family addr len =>
  ((match family with
    | .ipv4 => addr.reverse
    | .ipv6 => addr).flatMap fun (byte : UInt8) =>
      (List.range 8).map byte.toBitVec.getMsbD).take len

/-- A prefix that is read from a text has as many bits as its length says. -/
theorem length_leadingBits
    {inetNetwork : List Char → BitVec 32}
    {family : Family}
    {ipPrefix : String}
    {addr : List UInt8}
    {len : Nat}
    (parsed : parsePrefix inetNetwork family ipPrefix = some (addr, len)) :
    (leadingBits family addr len).length = len := by
  obtain ⟨width, within⟩ := parsePrefix_wellFormed parsed
  cases family <;> simp [leadingBits] <;> omega

theorem leadingBits_addressBytes (addr : BitVec 32) (len : Nat) :
    leadingBits .ipv4 (parsePrefix.addressBytes .ipv4 addr) len =
      ((List.range 32).map addr.getMsbD).take len := by
  have whole : (parsePrefix.addressBytes .ipv4 addr).reverse.flatMap
      (fun (byte : UInt8) => (List.range 8).map byte.toBitVec.getMsbD) =
        (List.range 32).map addr.getMsbD := by
    rw [addressBytes_ipv4]
    simp [List.range_succ, BitVec.getMsbD]
  exact congrArg (List.take len) whole

/-- A request that gives an IPv4 prefix in text names the first bits of its address. -/
theorem requestedKey_prefixText
    {env : Env}
    {inetNetwork : List Char → BitVec 32}
    (reads : ReadsQuads inetNetwork)
    (parses : env.stringToPrefix = parsePrefix inetNetwork)
    {addr : BitVec 32}
    {len : Nat}
    (other : addr ≠ -1)
    (within : len ≤ 32)
    {request : OfprotoRoute}
    (isIpv4 : request.family = .ipv4)
    (text : request.ipPrefix = String.ofList (prefixText addr len))
    (vrfId : Nat) :
    requestedKey env leadingBits vrfId request =
      some (.ipv4, vrfId, ((List.range 32).map addr.getMsbD).take len) := by
  rw [requestedKey, parses, isIpv4, text, parsePrefix_prefixText reads other within]
  simp only [Option.map_some, leadingBits_addressBytes]

end Texts

/-! ## Two nested prefixes -/

/-- An environment that reads prefixes in text. -/
def nestedEnv : Env :=
  { sampleEnv with stringToPrefix := AddressPrefix.parsePrefix AddressPrefix.quadsOnly }

/-- A request whose route can be removed. -/
def sampleRouteRequest (action : RouteAction) (ipPrefix : String) (ids : List String)
    (base : Nat) : RouteRequest :=
  { sampleRequest action ipPrefix ids (accepting base) with removeIpRouteEntry := true }

end Routing
end XpliantSwitchd
