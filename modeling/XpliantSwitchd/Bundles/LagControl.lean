import XpliantSwitchd.Bundles.LagPorts
import XpliantSwitchd.Vlan.Hardware

/-!
# The control interface of LAG ports

A port of a LAG sends through its control interface.  The functions of `ops-xp-lag.c`
are followed here once more with the flag that `ops_xp_host_port_control_if_id_set`
writes for a port, on top of the device of `Bundles.Lag`.  While the XDK accepts every
call, attaching a list of ports leaves exactly the listed ports in the LAG, takes
nothing else from other LAGs, and keeps the flags right.
-/

namespace XpliantSwitchd
namespace Bundles

open Vlans

/-- A device with the flags of its ports. -/
structure Controlled where
  dev : Dev
  control : Nat → Bool

namespace Controlled

/-- `ops_xp_host_port_control_if_id_set`. -/
def controlIfIdSet (xdk : Xdk) (state : Controlled) (ifId : Nat) (set : Bool) :
    Bool × Controlled :=
  let (answered, dev) := state.dev.call xdk id
  (answered, ⟨dev, if answered then Function.update state.control ifId set else state.control⟩)

/-- `lag_detach_port_on_hw`. -/
def lagDetachPortOnHw (env : Env) (xdk : Xdk) (state : Controlled) (lagId ifId : Nat) :
    Controlled :=
  let (attached, dev) := lagIsPortAttached xdk state.dev lagId ifId
  if !attached then { state with dev := dev }
  else
    let (removed, dev) := dev.call xdk (onLag lagId (List.erase · ifId))
    if !removed then { state with dev := dev }
    else
      let (deployed, dev) := dev.call xdk id
      if !deployed then { state with dev := dev }
      else
        let (unbound, dev) := dev.call xdk id
        if !unbound then { state with dev := dev }
        else if env.netdevFromPortNum ifId then
          (controlIfIdSet xdk { state with dev := dev } ifId false).2
        else { state with dev := dev }

/-- The search of `lag_attach_port_on_hw`. -/
def lagSearch (env : Env) (xdk : Xdk) (lagId ifId : Nat) :
    List Nat → Controlled → Bool × Controlled
  | [], state => (false, { state with dev := (state.dev.call xdk id).2 })
  | foundLagId :: lagIds, state =>
      let (answered, dev) := state.dev.call xdk id
      if !answered then (false, { state with dev := dev })
      else
        let (attached, dev) := lagIsPortAttached xdk dev foundLagId ifId
        if attached then
          if lagId = foundLagId then (true, { state with dev := dev })
          else (false, lagDetachPortOnHw env xdk { state with dev := dev } foundLagId ifId)
        else lagSearch env xdk lagId ifId lagIds { state with dev := dev }

/-- `lag_attach_port_on_hw`. -/
def lagAttachPortOnHw (env : Env) (xdk : Xdk) (state : Controlled) (lagId ifId : Nat) :
    Controlled :=
  let (already, state) :=
    lagSearch env xdk lagId ifId (state.dev.hw.lags.map Prod.fst) state
  if already then state
  else if !env.netdevFromPortNum ifId then state
  else
    let (controlled, state) := controlIfIdSet xdk state ifId true
    if !controlled then state
    else
      let (added, dev) := state.dev.call xdk (onLag lagId (· ++ [ifId]))
      let state := { state with dev := dev }
      if !added then (controlIfIdSet xdk state ifId false).2
      else
        let (deployed, dev) := state.dev.call xdk id
        let state := { state with dev := dev }
        if !deployed then (controlIfIdSet xdk state ifId false).2 else state

/-- One round of the second loop of `ops_xp_lag_attach_ports`. -/
def lagEnsureAttached (env : Env) (xdk : Xdk) (lagId : Nat) (state : Controlled)
    (ifId : Nat) : Controlled :=
  let (attached, dev) := lagIsPortAttached xdk state.dev lagId ifId
  let state := { state with dev := dev }
  if attached then state else lagAttachPortOnHw env xdk state lagId ifId

/-- `ops_xp_lag_attach_ports`. -/
def lagAttachPorts (env : Env) (xdk : Xdk) (state : Controlled) (lagId : Nat)
    (ifList : List Nat) : Option Errno × Controlled :=
  let hwIfList := lagPortIntfList state.dev lagId
  let (answered, dev) := state.dev.call xdk id
  let state := { state with dev := dev }
  if !answered then (some .EFAULT, state)
  else
    let state := (hwIfList.filter (· ∉ ifList)).foldl
      (fun state ifId => lagDetachPortOnHw env xdk state lagId ifId) state
    (none, ifList.foldl (lagEnsureAttached env xdk lagId) state)

/-! ## The device underneath -/

section Device

variable (env : Env) (xdk : Xdk) (state : Controlled) (lagId ifId : Nat)

theorem controlIfIdSet_dev (set : Bool) :
    (controlIfIdSet xdk state ifId set).1 = (state.dev.call xdk id).1 ∧
      (controlIfIdSet xdk state ifId set).2.dev = (state.dev.call xdk id).2 :=
  ⟨rfl, rfl⟩

theorem lagDetachPortOnHw_dev :
    (lagDetachPortOnHw env xdk state lagId ifId).dev =
      Bundles.lagDetachPortOnHw env xdk state.dev lagId ifId := by
  unfold lagDetachPortOnHw Bundles.lagDetachPortOnHw
  simp only
  split
  · rfl
  split
  · rfl
  split
  · rfl
  split
  · rfl
  split <;> rfl

theorem lagSearch_dev (lagIds : List Nat) :
    (lagSearch env xdk lagId ifId lagIds state).1 =
        (Bundles.lagSearch env xdk lagId ifId lagIds state.dev).1 ∧
      (lagSearch env xdk lagId ifId lagIds state).2.dev =
        (Bundles.lagSearch env xdk lagId ifId lagIds state.dev).2 := by
  induction lagIds generalizing state with
  | nil => exact ⟨rfl, rfl⟩
  | cons foundLagId lagIds inductionHypothesis =>
      unfold lagSearch Bundles.lagSearch
      simp only
      split
      · exact ⟨rfl, rfl⟩
      split
      · split
        · exact ⟨rfl, rfl⟩
        · exact ⟨rfl, lagDetachPortOnHw_dev ..⟩
      · exact inductionHypothesis _

theorem lagAttachPortOnHw_dev :
    (lagAttachPortOnHw env xdk state lagId ifId).dev =
      Bundles.lagAttachPortOnHw env xdk state.dev lagId ifId := by
  obtain ⟨sameFlag, sameDev⟩ :=
    lagSearch_dev env xdk state lagId ifId (state.dev.hw.lags.map Prod.fst)
  unfold lagAttachPortOnHw Bundles.lagAttachPortOnHw
  simp only [sameFlag, ← sameDev]
  split
  · rfl
  split
  · rfl
  simp only [controlIfIdSet_dev]
  split
  · rfl
  split
  · rfl
  split <;> rfl

theorem lagEnsureAttached_dev :
    (lagEnsureAttached env xdk lagId state ifId).dev =
      Bundles.lagEnsureAttached env xdk lagId state.dev ifId := by
  unfold lagEnsureAttached Bundles.lagEnsureAttached
  simp only
  split
  · rfl
  · exact lagAttachPortOnHw_dev ..

/-- A loop follows the loop on the device when its body does. -/
theorem foldl_dev
    {body : Controlled → Nat → Controlled}
    {devBody : Dev → Nat → Dev}
    (follows : ∀ state item, (body state item).dev = devBody state.dev item)
    (items : List Nat) :
    (items.foldl body state).dev = items.foldl devBody state.dev := by
  induction items generalizing state with
  | nil => rfl
  | cons item items inductionHypothesis =>
      rw [List.foldl_cons, List.foldl_cons, inductionHypothesis, follows]

/-- The flags do not change what the device does, whatever the XDK answers. -/
theorem lagAttachPorts_dev (ifList : List Nat) :
    (lagAttachPorts env xdk state lagId ifList).1 =
        (Bundles.lagAttachPorts env xdk state.dev lagId ifList).1 ∧
      (lagAttachPorts env xdk state lagId ifList).2.dev =
        (Bundles.lagAttachPorts env xdk state.dev lagId ifList).2 := by
  unfold lagAttachPorts Bundles.lagAttachPorts
  simp only
  split
  · exact ⟨rfl, rfl⟩
  · refine ⟨rfl, ?_⟩
    simp only
    rw [foldl_dev _ (lagEnsureAttached_dev env xdk · lagId),
      @foldl_dev _ _ (fun dev ifId => Bundles.lagDetachPortOnHw env xdk dev lagId ifId)
        fun state ifId => lagDetachPortOnHw_dev env xdk state lagId ifId]

end Device

/-! ## The flags -/

section Flags

variable {env : Env} {xdk : Xdk} {state : Controlled} {lagId ifId : Nat}
  {links : Backlinks Nat Nat}

/-- The flags of the ports are set when they point to a LAG. -/
def Flagged (state : Controlled) (links : Backlinks Nat Nat) : Prop :=
  ∀ ifId, state.control ifId = (links.owner ifId).isSome

theorem controlIfIdSet_accepts (accepts : xdk.Accepts) (set : Bool) :
    controlIfIdSet xdk state ifId set =
      (true, ⟨{ state.dev with calls := state.dev.calls + 1 },
        Function.update state.control ifId set⟩) := by
  unfold controlIfIdSet
  simp only [accepts.call, id_eq, if_true]

/-- A port that is detached loses its flag. -/
theorem lagDetachPortOnHw_control
    (accepts : xdk.Accepts)
    (netdevs : ∀ port, env.netdevFromPortNum port = true)
    (holds : LagLinks state.dev links)
    (owned : links.owner ifId = some lagId) :
    (lagDetachPortOnHw env xdk state lagId ifId).control =
      Function.update state.control ifId false := by
  unfold lagDetachPortOnHw
  simp only [lagIsPortAttached_spec accepts holds, owned, decide_true, accepts.call,
    Bool.not_true, Bool.false_eq_true, if_false, id_eq, netdevs, if_true,
    controlIfIdSet_accepts accepts]

/-- The search for the LAG of a port concerns no other flag. -/
theorem lagSearch_control
    (accepts : xdk.Accepts)
    (netdevs : ∀ port, env.netdevFromPortNum port = true)
    (holds : LagLinks state.dev links)
    (lagIds : List Nat)
    {other : Nat}
    (different : other ≠ ifId) :
    (lagSearch env xdk lagId ifId lagIds state).2.control other = state.control other := by
  induction lagIds generalizing state with
  | nil => rfl
  | cons foundLagId lagIds inductionHypothesis =>
      have called : LagLinks { state.dev with hw := id state.dev.hw, calls :=
          state.dev.calls + 1 } links :=
        holds.of_lags rfl
      unfold lagSearch
      simp only [accepts.call, Bool.not_true, Bool.false_eq_true, if_false,
        lagIsPortAttached_spec accepts called]
      by_cases owned : links.owner ifId = some foundLagId
      · rw [if_pos (decide_eq_true owned)]
        split
        · rfl
        · refine (congrFun (lagDetachPortOnHw_control accepts netdevs ?_ owned) other).trans ?_
          · exact holds.of_lags rfl
          · exact Function.update_of_ne different ..
      · rw [if_neg (by simpa using owned)]
        exact inductionHypothesis (holds.of_lags rfl)

/-- A port that is attached gets its flag. -/
theorem lagEnsureAttached_control
    (accepts : xdk.Accepts)
    (netdevs : ∀ port, env.netdevFromPortNum port = true)
    (holds : LagLinks state.dev links)
    (elsewhere : links.owner ifId ≠ some lagId) :
    (lagEnsureAttached env xdk lagId state ifId).control =
      Function.update state.control ifId true := by
  have called : LagLinks { state.dev with calls := state.dev.calls + 1 } links :=
    holds.of_lags rfl
  have complete : ∀ owner, links.owner ifId = some owner →
      owner ∈ state.dev.hw.lags.map Prod.fst := by
    intro owner isOwner
    obtain ⟨entry, listed, rfl, _⟩ := (holds.linked.points ifId owner).mp isOwner
    exact List.mem_map_of_mem (holds.lists ▸ listed)
  have searched := @lagSearch_control env xdk
    ⟨{ state.dev with calls := state.dev.calls + 1 }, state.control⟩ lagId ifId links accepts
    netdevs called (state.dev.hw.lags.map Prod.fst)
  obtain ⟨notYet, _⟩ := @lagSearch_spec env xdk _ _ _ _ accepts called elsewhere _ complete
  have sameFlag := (lagSearch_dev env xdk
    ⟨{ state.dev with calls := state.dev.calls + 1 }, state.control⟩ lagId ifId
    (state.dev.hw.lags.map Prod.fst)).1.trans notYet
  unfold lagEnsureAttached lagAttachPortOnHw
  simp only [lagIsPortAttached_spec accepts holds, decide_eq_false elsewhere,
    Bool.false_eq_true, if_false, sameFlag, netdevs, Bool.not_true,
    controlIfIdSet_accepts accepts, accepts.call]
  funext other
  by_cases same : other = ifId
  · subst same
    rw [Function.update_self, Function.update_self]
  · rw [Function.update_of_ne same, Function.update_of_ne same]
    exact searched same

/-- The LAGs with their pointers, and the flags. -/
structure Tracks (state : Controlled) (links : Backlinks Nat Nat) : Prop where
  holds : LagLinks state.dev links
  flagged : state.Flagged links

theorem Tracks.lagDetachPortOnHw
    (tracks : Tracks state links)
    (accepts : xdk.Accepts)
    (netdevs : ∀ port, env.netdevFromPortNum port = true)
    (owned : links.owner ifId = some lagId) :
    Tracks (Controlled.lagDetachPortOnHw env xdk state lagId ifId) (links.unlink ifId) := by
  constructor
  · rw [lagDetachPortOnHw_dev]
    exact tracks.holds.lagDetachPortOnHw accepts owned
  · intro port
    rw [lagDetachPortOnHw_control accepts netdevs tracks.holds owned,
      Backlinks.Linked.unlink_owner]
    by_cases same : port = ifId
    · subst same
      rw [Function.update_self, Function.update_self]
      rfl
    · rw [Function.update_of_ne same, Function.update_of_ne same]
      exact tracks.flagged port

theorem Tracks.lagEnsureAttached
    (tracks : Tracks state links)
    (accepts : xdk.Accepts)
    (netdevs : ∀ port, env.netdevFromPortNum port = true)
    (exist : lagId ∈ links.lists.map Prod.fst)
    (ifId : Nat) :
    Tracks (Controlled.lagEnsureAttached env xdk lagId state ifId)
      (ensured env lagId links ifId) := by
  constructor
  · rw [lagEnsureAttached_dev]
    exact tracks.holds.lagEnsureAttached accepts lagId ifId
  · intro port
    by_cases owned : links.owner ifId = some lagId
    · have sameLinks : ensured env lagId links ifId = links := if_pos owned
      have sameFlags : (Controlled.lagEnsureAttached env xdk lagId state ifId).control =
          state.control := by
        unfold Controlled.lagEnsureAttached
        simp only [lagIsPortAttached_spec accepts tracks.holds, decide_eq_true owned, if_true]
      rw [sameLinks, sameFlags]
      exact tracks.flagged port
    · rw [lagEnsureAttached_control accepts netdevs tracks.holds owned]
      by_cases same : port = ifId
      · subst same
        have settled := (portSettled_ensured env lagId links port).resolve_right
          fun impossible => impossible.2 ⟨netdevs port, by rwa [ensured_groups]⟩
        rw [Function.update_self, settled]
        rfl
      · rw [Function.update_of_ne same, ensured_owner env lagId links same]
        exact tracks.flagged port

theorem Tracks.foldl_lagDetachPortOnHw
    (tracks : Tracks state links)
    (accepts : xdk.Accepts)
    (netdevs : ∀ port, env.netdevFromPortNum port = true)
    {items : List Nat}
    (nodup : items.Nodup)
    (owned : ∀ ifId ∈ items, links.owner ifId = some lagId) :
    Tracks (items.foldl
      (fun state ifId => Controlled.lagDetachPortOnHw env xdk state lagId ifId) state)
      (items.foldl Backlinks.unlink links) := by
  induction items generalizing state links with
  | nil => exact tracks
  | cons item items inductionHypothesis =>
      obtain ⟨fresh, restNodup⟩ := List.nodup_cons.mp nodup
      refine inductionHypothesis (tracks.lagDetachPortOnHw accepts netdevs
        (owned item List.mem_cons_self)) restNodup ?_
      intro ifId member
      have different : ifId ≠ item := fun same => fresh (same ▸ member)
      rw [Backlinks.Linked.unlink_owner, Function.update_of_ne different]
      exact owned ifId (List.mem_cons_of_mem _ member)

theorem Tracks.foldl_lagEnsureAttached
    (tracks : Tracks state links)
    (accepts : xdk.Accepts)
    (netdevs : ∀ port, env.netdevFromPortNum port = true)
    (exist : lagId ∈ links.lists.map Prod.fst)
    (ifList : List Nat) :
    Tracks (ifList.foldl (Controlled.lagEnsureAttached env xdk lagId) state)
      (ifList.foldl (ensured env lagId) links) := by
  induction ifList generalizing state links with
  | nil => exact tracks
  | cons ifId ifList inductionHypothesis =>
      refine inductionHypothesis (tracks.lagEnsureAttached accepts netdevs exist ifId) ?_
      rw [ensured_groups]
      exact exist

/-- The flags after `ops_xp_lag_attach_ports`. -/
theorem Tracks.lagAttachPorts
    (tracks : Tracks state links)
    (accepts : xdk.Accepts)
    (netdevs : ∀ port, env.netdevFromPortNum port = true)
    (exist : lagId ∈ links.lists.map Prod.fst)
    (ifList : List Nat) :
    Tracks (Controlled.lagAttachPorts env xdk state lagId ifList).2
      (attachedLinks env state.dev lagId ifList links) := by
  have holds := tracks.holds
  have called : Tracks ⟨{ state.dev with hw := id state.dev.hw, calls :=
      state.dev.calls + 1 }, state.control⟩ links :=
    ⟨holds.of_lags rfl, tracks.flagged⟩
  have detached := called.foldl_lagDetachPortOnHw accepts netdevs
    (holds.lagPortIntfList_nodup.filter (· ∉ ifList)) (holds.owner_of_leaving lagId ifList)
  have stillExists : lagId ∈ (((lagPortIntfList state.dev lagId).filter (· ∉ ifList)).foldl
      Backlinks.unlink links).lists.map Prod.fst := by
    rw [foldl_groups unlink_groups]
    exact exist
  unfold Controlled.lagAttachPorts
  simp only [accepts.call, Bool.not_true, Bool.false_eq_true, if_false]
  exact detached.foldl_lagEnsureAttached accepts netdevs stillExists ifList

end Flags

end Controlled

/-! ## The ports of the other LAGs -/

section Others

variable {env : Env} {dev : Dev} {lagId other : Nat} {links : Backlinks Nat Nat}

/-- Another LAG loses the port that is attached. -/
theorem ensured_listOf
    (linked : links.Linked)
    (different : other ≠ lagId)
    (ifId : Nat) :
    (ensured env lagId links ifId).listOf other =
      (links.listOf other).filter (· ≠ ifId) := by
  unfold ensured
  split
  · rename_i owned
    have kept := @Backlinks.Linked.filter_listOf _ _ _ _ links other linked [ifId] (by
      intro item member same
      rw [List.mem_singleton.mp member, owned] at same
      exact different (Option.some.inj same).symm)
    simpa using kept.symm
  split
  · rw [Backlinks.link_listOf_of_ne different]
    exact linked.unlink_listOf ifId other
  · exact linked.unlink_listOf ifId other

theorem foldl_ensured_listOf
    (linked : links.Linked)
    (different : other ≠ lagId)
    (ifList : List Nat) :
    (ifList.foldl (ensured env lagId) links).listOf other =
      (links.listOf other).filter (· ∉ ifList) := by
  induction ifList generalizing links with
  | nil => simp
  | cons ifId ifList inductionHypothesis =>
      rw [List.foldl_cons, inductionHypothesis (ensured_linked linked env lagId ifId),
        ensured_listOf linked different, List.filter_filter]
      apply List.filter_congr
      intro item _
      simp [Bool.and_comm]

/-- Another LAG loses the listed ports and nothing else. -/
theorem LagLinks.attachedLinks_listOf
    (holds : LagLinks dev links)
    (different : other ≠ lagId)
    (ifList : List Nat) :
    (attachedLinks env dev lagId ifList links).listOf other =
      (links.listOf other).filter (· ∉ ifList) := by
  unfold attachedLinks
  obtain ⟨owner, lists⟩ :=
    holds.linked.foldl_unlink ((lagPortIntfList dev lagId).filter (· ∉ ifList))
  have detached : (((lagPortIntfList dev lagId).filter (· ∉ ifList)).foldl
      Backlinks.unlink links).listOf other = links.listOf other := by
    rw [← @Backlinks.Linked.filter_listOf _ _ _ _ links other holds.linked
      ((lagPortIntfList dev lagId).filter (· ∉ ifList))]
    · unfold Backlinks.listOf
      rw [lists, Backlinks.find?_map_entries]
      cases links.lists.find? (·.1 == other) <;> rfl
    · intro ifId member owned
      rw [holds.owner_of_leaving lagId ifList ifId member] at owned
      exact different (Option.some.inj owned).symm
  rw [foldl_ensured_listOf (holds.linked.of_unlinked _ owner lists) different, detached]

end Others

/-! ## Assignments of ports -/

/-- Each port is in one LAG at most, and there once. -/
structure OneLag (dev : Dev) : Prop where
  lagsNodup : (dev.hw.lags.map Prod.fst).Nodup
  portsNodup : ∀ lag ∈ dev.hw.lags, lag.2.Nodup
  unique : ∀ lag ∈ dev.hw.lags, ∀ other ∈ dev.hw.lags, ∀ ifId ∈ lag.2, ifId ∈ other.2 →
    lag = other

/-- The flag of a port is set exactly when it is in a LAG. -/
def Controlled.FlagsRight (state : Controlled) : Prop :=
  ∀ ifId, state.control ifId = true ↔ ∃ lag ∈ state.dev.hw.lags, ifId ∈ lag.2

/-- The LAG that a port is found in. -/
def linksOf (dev : Dev) : Backlinks Nat Nat where
  owner ifId := (dev.hw.lags.find? fun lag => decide (ifId ∈ lag.2)).map Prod.fst
  lists := dev.hw.lags

section Assignment

variable {dev : Dev} {state : Controlled} {links : Backlinks Nat Nat}

theorem OneLag.lagLinks (oneLag : OneLag dev) : LagLinks dev (linksOf dev) where
  lists := rfl
  linked :=
    { groupsNodup := oneLag.lagsNodup
      itemsNodup := oneLag.portsNodup
      points := by
        intro ifId lagId
        change (dev.hw.lags.find? _).map Prod.fst = some lagId ↔ _
        rw [Option.map_eq_some_iff]
        constructor
        · rintro ⟨lag, found, rfl⟩
          exact ⟨lag, List.mem_of_find?_eq_some found, rfl, by simpa using List.find?_some found⟩
        · rintro ⟨lag, listed, rfl, member⟩
          refine ⟨lag, ?_, rfl⟩
          cases found : dev.hw.lags.find? fun lag => decide (ifId ∈ lag.2) with
          | none =>
              have absent := List.find?_eq_none.mp found lag listed
              exact absurd (decide_eq_true member) absent
          | some other =>
              have otherMember : ifId ∈ other.2 := by simpa using List.find?_some found
              rw [oneLag.unique other (List.mem_of_find?_eq_some found) lag listed ifId
                otherMember member] }

theorem LagLinks.oneLag (holds : LagLinks dev links) : OneLag dev := by
  have lists := holds.lists
  constructor
  · rw [← lists]
    exact holds.linked.groupsNodup
  · rw [← lists]
    exact holds.linked.itemsNodup
  · rw [← lists]
    intro lag listed other otherListed ifId member otherMember
    have owned := (holds.linked.points ifId lag.1).mpr ⟨lag, listed, rfl, member⟩
    have ownedByOther := (holds.linked.points ifId other.1).mpr
      ⟨other, otherListed, rfl, otherMember⟩
    rw [owned] at ownedByOther
    exact holds.linked.eq_of_fst listed otherListed (Option.some.inj ownedByOther)

/-- The flags are right when they follow the pointers. -/
theorem LagLinks.flagsRight_iff (holds : LagLinks state.dev links) :
    state.FlagsRight ↔ state.Flagged links := by
  apply forall_congr'
  intro ifId
  have inLag : (∃ lag ∈ state.dev.hw.lags, ifId ∈ lag.2) ↔
      (links.owner ifId).isSome = true := by
    rw [← holds.lists, Option.isSome_iff_exists]
    constructor
    · rintro ⟨lag, listed, member⟩
      exact ⟨lag.1, (holds.linked.points ifId lag.1).mpr ⟨lag, listed, rfl, member⟩⟩
    · rintro ⟨lagId, owned⟩
      obtain ⟨lag, listed, _, member⟩ := (holds.linked.points ifId lagId).mp owned
      exact ⟨lag, listed, member⟩
  rw [inLag]
  exact Bool.eq_iff_iff.symm

end Assignment

/-- While the XDK accepts every call, attaching a list of ports to a LAG leaves the
listed ports in it, each once, takes from each other LAG the listed ports and nothing
else, and keeps each port in one LAG at most, with its flag set when it is in one.  The
call for the host interface is taken to succeed like those of the XDK. -/
theorem lagAttachPorts_exact
    {env : Env}
    {xdk : Xdk}
    {state : Controlled}
    {lagId : Nat}
    (accepts : xdk.Accepts)
    (netdevs : ∀ port, env.netdevFromPortNum port = true)
    (oneLag : OneLag state.dev)
    (exist : lagId ∈ state.dev.hw.lags.map Prod.fst)
    (ifList : List Nat) :
    ∃ after, state.lagAttachPorts env xdk lagId ifList = (none, after) ∧
      (lagPortIntfList after.dev lagId).Nodup ∧
      (∀ ifId, ifId ∈ lagPortIntfList after.dev lagId ↔ ifId ∈ ifList) ∧
      (∀ other, other ≠ lagId → lagPortIntfList after.dev other =
        (lagPortIntfList state.dev other).filter (· ∉ ifList)) ∧
      OneLag after.dev ∧ (state.FlagsRight → after.FlagsRight) := by
  have holds := oneLag.lagLinks
  obtain ⟨returns, linked⟩ :=
    @LagLinks.lagAttachPorts_links env xdk state.dev _ holds accepts lagId ifList
  obtain ⟨sameResult, sameDev⟩ := state.lagAttachPorts_dev env xdk lagId ifList
  have settled := holds.listSettled_attachedLinks env lagId ifList
  rw [← sameDev] at linked
  refine ⟨(state.lagAttachPorts env xdk lagId ifList).2, ?_, linked.lagPortIntfList_nodup,
    ?_, ?_, linked.oneLag, ?_⟩
  · rw [← sameResult] at returns
    exact Prod.ext returns rfl
  · intro ifId
    rw [linked.mem_lagPortIntfList]
    constructor
    · exact settled.within ifId
    · intro listed
      refine (settled.settled ifId listed).resolve_right ?_
      rintro ⟨_, impossible⟩
      apply impossible
      rw [attachedLinks_groups]
      exact ⟨netdevs ifId, exist⟩
  · intro other different
    rw [linked.lagPortIntfList_eq, holds.lagPortIntfList_eq]
    exact holds.attachedLinks_listOf different ifList
  · intro flagsRight
    rw [linked.flagsRight_iff]
    have tracks : Controlled.Tracks state (linksOf state.dev) :=
      ⟨holds, holds.flagsRight_iff.mp flagsRight⟩
    exact (tracks.lagAttachPorts accepts netdevs exist ifList).flagged

/-- Two LAGs: ports 1 and 2 are in the first and port 3 is in the second. -/
def twoLags : Controlled where
  dev := { emptyDev with hw := { emptyDev.hw with lags := [(10, [1, 2]), (11, [3])] } }
  control ifId := decide (ifId ∈ [1, 2, 3])

/-- Ports 2 and 3, one of them listed twice, become the ports of the first LAG. -/
theorem lagAttachPorts_twoLags :
    ∃ after, twoLags.lagAttachPorts sampleEnv ⟨fun _ => true, fun _ => 0⟩ 10 [2, 3, 2] =
        (none, after) ∧
      lagPortIntfList after.dev 11 = [] ∧ after.FlagsRight := by
  have oneLag : OneLag twoLags.dev := ⟨by decide, by decide, by decide⟩
  have flagsRight : twoLags.FlagsRight := by
    intro ifId
    simp [twoLags, or_assoc]
  obtain ⟨after, equation, _, _, others, _, flags⟩ :=
    @lagAttachPorts_exact sampleEnv ⟨fun _ => true, fun _ => 0⟩ twoLags 10 (fun _ => rfl)
      (fun _ => rfl) oneLag (by decide) [2, 3, 2]
  exact ⟨after, equation, others 11 (by decide), flags flagsRight⟩

end Bundles
end XpliantSwitchd
