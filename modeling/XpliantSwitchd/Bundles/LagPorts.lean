import XpliantSwitchd.Bundles.Lag
import XpliantSwitchd.Lib.Backlinks

/-!
# Ports of LAGs

While the XDK accepts every call, the hardware has each port in one LAG at most,
so the lists of the LAGs determine the LAG of a port.  Attaching a list of ports
to a LAG settles it: attaching the same list again changes nothing.
-/

namespace XpliantSwitchd
namespace Bundles

open Vlans

variable {env : Env} {xdk : Xdk} {dev : Dev} {lagId ifId : Nat} {ifList : List Nat}
  {links : Backlinks Nat Nat}

/-- The LAGs of the hardware list each port once, in the LAG it points to. -/
structure LagLinks (dev : Dev) (links : Backlinks Nat Nat) : Prop where
  linked : links.Linked
  lists : links.lists = dev.hw.lags

namespace LagLinks

theorem of_lags
    {after : Dev}
    (holds : LagLinks dev links)
    (same : after.hw.lags = dev.hw.lags) :
    LagLinks after links :=
  ⟨holds.linked, holds.lists.trans same.symm⟩

theorem lagPortIntfList_eq (holds : LagLinks dev links) :
    lagPortIntfList dev lagId = links.listOf lagId := by
  unfold lagPortIntfList Backlinks.listOf
  rw [holds.lists]

/-- `xpsLagIsPortIntfMember` and `xpsLagGetPortIntfList` agree with the pointers. -/
theorem mem_lagPortIntfList (holds : LagLinks dev links) :
    ifId ∈ lagPortIntfList dev lagId ↔ links.owner ifId = some lagId := by
  rw [holds.lagPortIntfList_eq]
  exact holds.linked.mem_listOf

theorem lagPortIntfList_nodup (holds : LagLinks dev links) :
    (lagPortIntfList dev lagId).Nodup := by
  rw [holds.lagPortIntfList_eq]
  exact holds.linked.nodup_listOf

end LagLinks

/-! ## Attaching and detaching a port -/

theorem lagIsPortAttached_spec
    (accepts : xdk.Accepts)
    (holds : LagLinks dev links) :
    lagIsPortAttached xdk dev lagId ifId =
      (decide (links.owner ifId = some lagId), { dev with calls := dev.calls + 1 }) := by
  unfold lagIsPortAttached
  simp only [accepts.call, Bool.true_and, id_eq, holds.mem_lagPortIntfList]

/-- A port is detached from its LAG. -/
theorem LagLinks.lagDetachPortOnHw
    (holds : LagLinks dev links)
    (accepts : xdk.Accepts)
    (owned : links.owner ifId = some lagId) :
    LagLinks (Bundles.lagDetachPortOnHw env xdk dev lagId ifId) (links.unlink ifId) := by
  refine ⟨holds.linked.unlink ifId, ?_⟩
  unfold Bundles.lagDetachPortOnHw
  simp only [lagIsPortAttached_spec accepts holds, owned, decide_true, accepts.call,
    Bool.not_true, Bool.false_eq_true, if_false, id_eq]
  unfold Backlinks.unlink
  rw [owned]
  simp only [holds.lists]
  split <;> rfl

/-- The search for the LAG of a port that is in another LAG or in none. -/
theorem lagSearch_spec
    (accepts : xdk.Accepts)
    (holds : LagLinks dev links)
    (elsewhere : links.owner ifId ≠ some lagId)
    {lagIds : List Nat}
    (complete : ∀ owner, links.owner ifId = some owner → owner ∈ lagIds) :
    (lagSearch env xdk lagId ifId lagIds dev).1 = false ∧
      LagLinks (lagSearch env xdk lagId ifId lagIds dev).2 (links.unlink ifId) ∧
      (links.owner ifId = none →
        (lagSearch env xdk lagId ifId lagIds dev).2.hw = dev.hw) := by
  induction lagIds generalizing dev with
  | nil =>
      have free : links.owner ifId = none := by
        by_contra owned
        obtain ⟨owner, isOwner⟩ := Option.ne_none_iff_exists'.mp owned
        exact absurd (complete owner isOwner) List.not_mem_nil
      have same : links.unlink ifId = links := by
        unfold Backlinks.unlink
        rw [free]
      unfold lagSearch
      rw [accepts.call, same]
      exact ⟨rfl, holds.of_lags rfl, fun _ => rfl⟩
  | cons foundLagId lagIds inductionHypothesis =>
      have called : LagLinks { dev with hw := id dev.hw, calls := dev.calls + 1 } links :=
        holds.of_lags rfl
      unfold lagSearch
      simp only [accepts.call, Bool.not_true, Bool.false_eq_true, if_false,
        lagIsPortAttached_spec accepts called]
      by_cases owned : links.owner ifId = some foundLagId
      · have different : lagId ≠ foundLagId := by
          rintro rfl
          exact elsewhere owned
        rw [if_pos (decide_eq_true owned), if_neg different]
        refine ⟨rfl, LagLinks.lagDetachPortOnHw (holds.of_lags rfl) accepts owned, ?_⟩
        intro free
        rw [free] at owned
        contradiction
      · rw [if_neg (by simpa using owned)]
        refine inductionHypothesis (holds.of_lags rfl) ?_
        intro owner isOwner
        rcases List.mem_cons.mp (complete owner isOwner) with rfl | later
        · exact absurd isOwner owned
        · exact later

/-- The LAGs after a port was attached to one of them, unless there is no netdev
or no such LAG. -/
def ensured (env : Env) (lagId : Nat) (links : Backlinks Nat Nat) (ifId : Nat) :
    Backlinks Nat Nat :=
  if links.owner ifId = some lagId then links
  else if env.netdevFromPortNum ifId ∧ lagId ∈ links.lists.map Prod.fst then
    (links.unlink ifId).link lagId ifId
  else links.unlink ifId

/-- Attaching a port would change nothing. -/
def PortSettled (env : Env) (lagId : Nat) (links : Backlinks Nat Nat) (ifId : Nat) :
    Prop :=
  links.owner ifId = some lagId ∨
    links.owner ifId = none ∧
      ¬(env.netdevFromPortNum ifId ∧ lagId ∈ links.lists.map Prod.fst)

namespace PortSettled

/-- Only the pointer of the port and the LAGs there are matter. -/
theorem of_owner
    {after : Backlinks Nat Nat}
    (settled : PortSettled env lagId links ifId)
    (owner : after.owner ifId = links.owner ifId)
    (groups : after.lists.map Prod.fst = links.lists.map Prod.fst) :
    PortSettled env lagId after ifId := by
  unfold PortSettled
  rw [owner, groups]
  exact settled

end PortSettled

theorem unlink_groups (links : Backlinks Nat Nat) (ifId : Nat) :
    (links.unlink ifId).lists.map Prod.fst = links.lists.map Prod.fst := by
  unfold Backlinks.unlink
  cases links.owner ifId with
  | none => rfl
  | some owner => exact Backlinks.map_fst_onList links.lists owner (·.erase ifId)

theorem ensured_groups (env : Env) (lagId : Nat) (links : Backlinks Nat Nat) (ifId : Nat) :
    (ensured env lagId links ifId).lists.map Prod.fst = links.lists.map Prod.fst := by
  unfold ensured
  split
  · rfl
  split
  · rw [Backlinks.link, Backlinks.map_fst_onList]
    exact unlink_groups links ifId
  · exact unlink_groups links ifId

theorem ensured_owner
    {other : Nat}
    (env : Env)
    (lagId : Nat)
    (links : Backlinks Nat Nat)
    (different : other ≠ ifId) :
    (ensured env lagId links ifId).owner other = links.owner other := by
  have unlinked : (links.unlink ifId).owner other = links.owner other := by
    rw [Backlinks.Linked.unlink_owner, Function.update_of_ne different]
  unfold ensured
  split
  · rfl
  split
  · exact (Function.update_of_ne different _ _).trans unlinked
  · exact unlinked

/-- A port that was attached is settled. -/
theorem portSettled_ensured
    (env : Env)
    (lagId : Nat)
    (links : Backlinks Nat Nat)
    (ifId : Nat) :
    PortSettled env lagId (ensured env lagId links ifId) ifId := by
  by_cases owned : links.owner ifId = some lagId
  · have same : ensured env lagId links ifId = links := if_pos owned
    rw [same]
    exact .inl owned
  · by_cases possible : env.netdevFromPortNum ifId ∧ lagId ∈ links.lists.map Prod.fst
    · left
      unfold ensured
      rw [if_neg owned, if_pos possible]
      exact Function.update_self _ _ _
    · right
      rw [ensured_groups]
      refine ⟨?_, possible⟩
      unfold ensured
      rw [if_neg owned, if_neg possible, Backlinks.Linked.unlink_owner]
      exact Function.update_self _ _ _

theorem ensured_linked
    (linked : links.Linked)
    (env : Env)
    (lagId ifId : Nat) :
    (ensured env lagId links ifId).Linked := by
  unfold ensured
  split
  · exact linked
  split
  · rename_i possible
    refine (linked.unlink ifId).link ?_ ?_
    · rw [Backlinks.Linked.unlink_owner]
      exact Function.update_self _ _ _
    · rw [unlink_groups]
      exact possible.2
  · exact linked.unlink ifId

/-- One round of `ops_xp_lag_attach_ports`. -/
theorem LagLinks.lagEnsureAttached
    (holds : LagLinks dev links)
    (accepts : xdk.Accepts)
    (lagId ifId : Nat) :
    LagLinks (Bundles.lagEnsureAttached env xdk lagId dev ifId)
      (ensured env lagId links ifId) := by
  refine ⟨ensured_linked holds.linked env lagId ifId, ?_⟩
  unfold Bundles.lagEnsureAttached ensured
  simp only [lagIsPortAttached_spec accepts holds]
  by_cases owned : links.owner ifId = some lagId
  · rw [if_pos owned, if_pos (decide_eq_true owned)]
    exact holds.lists
  rw [if_neg owned, decide_eq_false owned, if_neg Bool.false_ne_true]
  have called : LagLinks { dev with calls := dev.calls + 1 } links := holds.of_lags rfl
  have complete : ∀ owner, links.owner ifId = some owner →
      owner ∈ dev.hw.lags.map Prod.fst := by
    intro owner isOwner
    obtain ⟨entry, listed, rfl, _⟩ := (holds.linked.points ifId owner).mp isOwner
    exact List.mem_map_of_mem (holds.lists ▸ listed)
  obtain ⟨notYet, searched, _⟩ := @lagSearch_spec env xdk _ _ _ _ accepts called owned _
    complete
  unfold lagAttachPortOnHw
  simp only
  generalize lagSearch env xdk lagId ifId _ _ = result at notYet searched ⊢
  obtain ⟨already, between⟩ := result
  simp only at notYet searched
  subst notYet
  simp only [Bool.false_eq_true, if_false]
  by_cases known : env.netdevFromPortNum ifId = true
  · simp only [known, Bool.not_true, Bool.false_eq_true, if_false, accepts.call, true_and]
    by_cases exist : lagId ∈ links.lists.map Prod.fst
    · rw [if_pos exist]
      exact congrArg (Backlinks.onList · lagId (· ++ [ifId])) searched.lists
    · rw [if_neg exist, searched.lists]
      refine (KeyedList.rewrite_of_absent ?_).symm
      intro entry listed isLag
      apply exist
      rw [← unlink_groups links ifId, searched.lists]
      exact isLag ▸ List.mem_map_of_mem listed
  · rw [if_neg (fun possible => known possible.1), if_pos (by simpa using known)]
    exact searched.lists

/-- Attaching a port that is settled leaves the hardware as it is. -/
theorem lagEnsureAttached_of_settled
    (accepts : xdk.Accepts)
    (holds : LagLinks dev links)
    (settled : PortSettled env lagId links ifId) :
    (lagEnsureAttached env xdk lagId dev ifId).hw = dev.hw := by
  unfold lagEnsureAttached
  simp only [lagIsPortAttached_spec accepts holds]
  rcases settled with owned | ⟨free, impossible⟩
  · rw [if_pos (decide_eq_true owned)]
  have elsewhere : links.owner ifId ≠ some lagId := by simp [free]
  rw [if_neg (by simpa using elsewhere)]
  have called : LagLinks { dev with calls := dev.calls + 1 } links := holds.of_lags rfl
  obtain ⟨notYet, _, same⟩ := @lagSearch_spec env xdk _ _ _ _ accepts called elsewhere
    (dev.hw.lags.map Prod.fst) (fun owner isOwner => by rw [free] at isOwner; contradiction)
  have sameHw := same free
  unfold lagAttachPortOnHw
  simp only
  generalize lagSearch env xdk lagId ifId _ _ = result at notYet sameHw ⊢
  obtain ⟨already, between⟩ := result
  simp only at notYet sameHw
  subst notYet
  simp only [Bool.false_eq_true, if_false]
  by_cases known : env.netdevFromPortNum ifId = true
  · simp only [known, Bool.not_true, Bool.false_eq_true, if_false, accepts.call, id_eq]
    have absent : ∀ entry ∈ dev.hw.lags, entry.1 ≠ lagId := by
      intro entry listed isLag
      apply impossible
      rw [holds.lists]
      exact ⟨known, isLag ▸ List.mem_map_of_mem listed⟩
    rw [sameHw]
    unfold onLag
    rw [KeyedList.rewrite_of_absent absent]
  · rw [if_pos (by simpa using known)]
    exact sameHw

/-! ## The ports of a LAG -/

/-- Attaching a list of ports to a LAG would change nothing. -/
structure ListSettled (env : Env) (lagId : Nat) (ifList : List Nat)
    (links : Backlinks Nat Nat) : Prop where
  within : ∀ ifId, links.owner ifId = some lagId → ifId ∈ ifList
  settled : ∀ ifId ∈ ifList, PortSettled env lagId links ifId

/-- Ports of a LAG are detached. -/
theorem LagLinks.foldl_lagDetachPortOnHw
    (holds : LagLinks dev links)
    (accepts : xdk.Accepts)
    {items : List Nat}
    (nodup : items.Nodup)
    (owned : ∀ ifId ∈ items, links.owner ifId = some lagId) :
    LagLinks (items.foldl (fun dev ifId => Bundles.lagDetachPortOnHw env xdk dev lagId ifId)
      dev) (items.foldl Backlinks.unlink links) := by
  induction items generalizing dev links with
  | nil => exact holds
  | cons item items inductionHypothesis =>
      obtain ⟨fresh, restNodup⟩ := List.nodup_cons.mp nodup
      refine inductionHypothesis
        (holds.lagDetachPortOnHw accepts (owned item List.mem_cons_self)) restNodup ?_
      intro ifId member
      have different : ifId ≠ item := fun same => fresh (same ▸ member)
      rw [Backlinks.Linked.unlink_owner, Function.update_of_ne different]
      exact owned ifId (List.mem_cons_of_mem _ member)

theorem LagLinks.foldl_lagEnsureAttached
    (holds : LagLinks dev links)
    (accepts : xdk.Accepts)
    (lagId : Nat)
    (ifList : List Nat) :
    LagLinks (ifList.foldl (Bundles.lagEnsureAttached env xdk lagId) dev)
      (ifList.foldl (ensured env lagId) links) := by
  induction ifList generalizing dev links with
  | nil => exact holds
  | cons ifId ifList inductionHypothesis =>
      exact inductionHypothesis (holds.lagEnsureAttached accepts lagId ifId)

/-- Ports stay settled while others are attached. -/
theorem PortSettled.foldl_ensured
    (settled : PortSettled env lagId links ifId)
    (ifList : List Nat) :
    PortSettled env lagId (ifList.foldl (ensured env lagId) links) ifId := by
  induction ifList generalizing links with
  | nil => exact settled
  | cons other ifList inductionHypothesis =>
      apply inductionHypothesis
      by_cases same : ifId = other
      · subst same
        exact portSettled_ensured env lagId links ifId
      · exact settled.of_owner (ensured_owner env lagId links same)
          (ensured_groups env lagId links other)

/-- The ports of a list are settled once they were attached. -/
theorem portSettled_foldl_ensured
    (env : Env)
    (lagId : Nat)
    (links : Backlinks Nat Nat) :
    ∀ ifId ∈ ifList, PortSettled env lagId (ifList.foldl (ensured env lagId) links) ifId := by
  induction ifList generalizing links with
  | nil => exact fun _ member => absurd member List.not_mem_nil
  | cons first ifList inductionHypothesis =>
      intro ifId member
      rcases List.mem_cons.mp member with rfl | later
      · exact (portSettled_ensured env lagId links ifId).foldl_ensured ifList
      · exact inductionHypothesis (ensured env lagId links first) ifId later

/-- A LAG has only ports that it had or that were attached. -/
theorem foldl_ensured_within
    {allowed : List Nat}
    (within : ∀ ifId, links.owner ifId = some lagId → ifId ∈ allowed)
    (areAllowed : ∀ ifId ∈ ifList, ifId ∈ allowed) :
    ∀ ifId, (ifList.foldl (ensured env lagId) links).owner ifId = some lagId →
      ifId ∈ allowed := by
  induction ifList generalizing links with
  | nil => exact within
  | cons first ifList inductionHypothesis =>
      refine inductionHypothesis ?_ fun ifId later =>
        areAllowed ifId (List.mem_cons_of_mem _ later)
      intro ifId owned
      by_cases same : ifId = first
      · exact areAllowed ifId (same ▸ List.mem_cons_self)
      · rw [ensured_owner env lagId links same] at owned
        exact within ifId owned

/-- The LAGs after a list of ports was attached to one of them. -/
def attachedLinks (env : Env) (dev : Dev) (lagId : Nat) (ifList : List Nat)
    (links : Backlinks Nat Nat) : Backlinks Nat Nat :=
  ifList.foldl (ensured env lagId)
    (((lagPortIntfList dev lagId).filter (· ∉ ifList)).foldl Backlinks.unlink links)

/-- A loop keeps the LAGs there are when its body does. -/
theorem foldl_groups
    {change : Backlinks Nat Nat → Nat → Backlinks Nat Nat}
    (keeps : ∀ links item, (change links item).lists.map Prod.fst = links.lists.map Prod.fst)
    (items : List Nat)
    (links : Backlinks Nat Nat) :
    (items.foldl change links).lists.map Prod.fst = links.lists.map Prod.fst := by
  induction items generalizing links with
  | nil => rfl
  | cons item items inductionHypothesis =>
      rw [List.foldl_cons, inductionHypothesis, keeps]

theorem attachedLinks_groups
    (env : Env)
    (dev : Dev)
    (lagId : Nat)
    (ifList : List Nat)
    (links : Backlinks Nat Nat) :
    (attachedLinks env dev lagId ifList links).lists.map Prod.fst =
      links.lists.map Prod.fst := by
  unfold attachedLinks
  rw [foldl_groups (ensured_groups env lagId), foldl_groups unlink_groups]

/-- The ports that leave the LAG were in it. -/
theorem LagLinks.owner_of_leaving
    (holds : LagLinks dev links)
    (lagId : Nat)
    (ifList : List Nat) :
    ∀ ifId ∈ (lagPortIntfList dev lagId).filter (· ∉ ifList),
      links.owner ifId = some lagId := by
  intro ifId member
  exact holds.mem_lagPortIntfList.mp (List.mem_of_mem_filter member)

theorem LagLinks.lagAttachPorts_links
    (holds : LagLinks dev links)
    (accepts : xdk.Accepts)
    (lagId : Nat)
    (ifList : List Nat) :
    (Bundles.lagAttachPorts env xdk dev lagId ifList).1 = none ∧
      LagLinks (Bundles.lagAttachPorts env xdk dev lagId ifList).2
        (attachedLinks env dev lagId ifList links) := by
  have called : LagLinks { dev with hw := id dev.hw, calls := dev.calls + 1 } links :=
    holds.of_lags rfl
  have detached := @LagLinks.foldl_lagDetachPortOnHw env xdk _ _ _ called accepts _
    (holds.lagPortIntfList_nodup.filter _) (holds.owner_of_leaving lagId ifList)
  unfold Bundles.lagAttachPorts
  simp only [accepts.call, Bool.not_true, Bool.false_eq_true, if_false]
  exact ⟨trivial, detached.foldl_lagEnsureAttached accepts lagId ifList⟩

theorem LagLinks.listSettled_attachedLinks
    (holds : LagLinks dev links)
    (env : Env)
    (lagId : Nat)
    (ifList : List Nat) :
    ListSettled env lagId ifList (attachedLinks env dev lagId ifList links) := by
  obtain ⟨owner, _⟩ :=
    holds.linked.foldl_unlink ((lagPortIntfList dev lagId).filter (· ∉ ifList))
  constructor
  · refine foldl_ensured_within ?_ fun _ member => member
    intro ifId owned
    rw [owner] at owned
    split at owned
    · contradiction
    · rename_i stays
      by_contra notListed
      refine stays (List.mem_filter.mpr ⟨holds.mem_lagPortIntfList.mpr owned, ?_⟩)
      simpa using notListed
  · exact portSettled_foldl_ensured env lagId _

/-- `ops_xp_lag_attach_ports` settles the list. -/
theorem LagLinks.lagAttachPorts
    (holds : LagLinks dev links)
    (accepts : xdk.Accepts)
    (lagId : Nat)
    (ifList : List Nat) :
    (Bundles.lagAttachPorts env xdk dev lagId ifList).1 = none ∧
      ∃ after, LagLinks (Bundles.lagAttachPorts env xdk dev lagId ifList).2 after ∧
        ListSettled env lagId ifList after := by
  obtain ⟨returns, linked⟩ :=
    @LagLinks.lagAttachPorts_links env xdk dev links holds accepts lagId ifList
  exact ⟨returns, _, linked, holds.listSettled_attachedLinks env lagId ifList⟩

/-- `ops_xp_lag_attach_ports` leaves the hardware as it is when the list is
settled. -/
theorem lagAttachPorts_of_settled
    (accepts : xdk.Accepts)
    (holds : LagLinks dev links)
    (settled : ListSettled env lagId ifList links) :
    (lagAttachPorts env xdk dev lagId ifList).1 = none ∧
      (lagAttachPorts env xdk dev lagId ifList).2.hw = dev.hw := by
  have noneLeaves : (lagPortIntfList dev lagId).filter (· ∉ ifList) = [] := by
    rw [List.filter_eq_nil_iff]
    intro ifId member
    simpa using settled.within ifId (holds.mem_lagPortIntfList.mp member)
  have attached : ∀ (attach : List Nat) (current : Dev), current.hw = dev.hw →
      (∀ ifId ∈ attach, ifId ∈ ifList) →
        (attach.foldl (lagEnsureAttached env xdk lagId) current).hw = dev.hw := by
    intro attach
    induction attach with
    | nil => exact fun _ same _ => same
    | cons ifId attach inductionHypothesis =>
        intro current same listed
        have holdsNow : LagLinks current links := holds.of_lags (congrArg Hw.lags same)
        refine inductionHypothesis _ ?_ fun other later =>
          listed other (List.mem_cons_of_mem _ later)
        exact (lagEnsureAttached_of_settled accepts holdsNow
          (settled.settled ifId (listed ifId List.mem_cons_self))).trans same
  unfold lagAttachPorts
  simp only [accepts.call, Bool.not_true, Bool.false_eq_true, if_false, noneLeaves,
    List.foldl_nil, true_and]
  exact attached ifList _ rfl fun _ member => member

/-- `ops_xp_lag_create` makes a LAG without ports. -/
theorem LagLinks.lagCreate
    (holds : LagLinks dev links)
    (accepts : xdk.Accepts)
    (fresh : xdk.lagCreate dev.calls ∉ dev.hw.lags.map Prod.fst) :
    (Bundles.lagCreate xdk dev).1 = some (xdk.lagCreate dev.calls) ∧
      LagLinks (Bundles.lagCreate xdk dev).2 (links.found (xdk.lagCreate dev.calls)) := by
  unfold Bundles.lagCreate
  simp only [accepts.call, if_true, true_and]
  refine ⟨holds.linked.found (holds.lists ▸ fresh), ?_⟩
  exact congrArg (_ :: ·) holds.lists

/-- `ops_xp_lag_destroy` frees the ports of a LAG. -/
theorem LagLinks.lagDestroy
    (holds : LagLinks dev links)
    (accepts : xdk.Accepts)
    (lagId : Nat) :
    ∃ after, LagLinks (Bundles.lagDestroy env xdk dev lagId) after := by
  have called : LagLinks { dev with hw := id dev.hw, calls := dev.calls + 1 } links :=
    holds.of_lags rfl
  have detached := @LagLinks.foldl_lagDetachPortOnHw env xdk _ lagId _ called accepts _
    holds.lagPortIntfList_nodup fun _ member => holds.mem_lagPortIntfList.mp member
  obtain ⟨owner, _⟩ := holds.linked.foldl_unlink (lagPortIntfList dev lagId)
  refine ⟨((lagPortIntfList dev lagId).foldl Backlinks.unlink links).close lagId, ?_, ?_⟩
  · refine detached.linked.close ?_
    intro ifId owned
    rw [owner] at owned
    split at owned
    · contradiction
    · rename_i notListed
      exact notListed (holds.mem_lagPortIntfList.mpr owned)
  · unfold Bundles.lagDestroy
    simp only [accepts.call, Bool.not_true, Bool.false_eq_true, if_false]
    exact congrArg (KeyedList.remove Prod.fst lagId) detached.lists

end Bundles
end XpliantSwitchd
