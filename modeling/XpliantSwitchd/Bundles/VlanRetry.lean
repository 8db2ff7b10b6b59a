import XpliantSwitchd.Bundles.Links
import XpliantSwitchd.Vlan.Interrupted

/-!
# Setting a VLAN again

`ofproto_xpliant_set_vlan` walks over the bundles and creates or removes the
VLAN, and returns at the first call of the XDK that fails.  When the call is
repeated, the existence of the VLAN decides how far it gets.  This module
compares the repeated call with one that was not interrupted.
-/

namespace XpliantSwitchd
namespace Bundles

open Vlans

/-- Two devices that differ in the number of calls made so far. -/
structure Alike (first second : Dev) : Prop where
  table : first.table = second.table
  ifIdToName : first.ifIdToName = second.ifIdToName
  hw : first.hw = second.hw

namespace Alike

variable {env : Env} {xdk other : Xdk} {first second third : Dev}

theorem refl (dev : Dev) : Alike dev dev := ⟨rfl, rfl, rfl⟩

theorem trans (left : Alike first second) (right : Alike second third) :
    Alike first third :=
  ⟨left.table.trans right.table, left.ifIdToName.trans right.ifIdToName,
    left.hw.trans right.hw⟩

theorem symm (alike : Alike first second) : Alike second first :=
  ⟨alike.table.symm, alike.ifIdToName.symm, alike.hw.symm⟩

theorem existing (alike : Alike first second) (vid : Nat) :
    vlanIsExisting env first vid = vlanIsExisting env second vid :=
  vlanIsExisting_congr (congrFun alike.table vid)

/-- Accepted calls of `ops_xp_vlan_member_remove` do the same to both. -/
theorem memberRemove
    (env : Env)
    (alike : Alike first second)
    (accepts : xdk.Accepts)
    (otherAccepts : other.Accepts)
    (vid intfId : Nat) :
    (vlanMemberRemove env xdk first vid intfId).1 =
        (vlanMemberRemove env other second vid intfId).1 ∧
      Alike (vlanMemberRemove env xdk first vid intfId).2
        (vlanMemberRemove env other second vid intfId).2 := by
  have lookup : vlanMemberLookup env first vid intfId =
      vlanMemberLookup env second vid intfId :=
    vlanMemberLookup_congr (congrFun alike.table vid)
  unfold vlanMemberRemove
  rw [alike.existing vid, lookup]
  obtain ⟨table, names, hw, calls⟩ := first
  obtain ⟨otherTable, otherNames, otherHw, otherCalls⟩ := second
  obtain ⟨rfl, rfl, rfl⟩ := alike
  split
  · exact ⟨rfl, rfl, rfl, rfl⟩
  split
  · exact ⟨rfl, rfl, rfl, rfl⟩
  · simp only [accepts.call, otherAccepts.call]
    cases env.isTunnelIntf intfId <;> exact ⟨rfl, rfl, rfl, rfl⟩

/-- Accepted calls of `ops_xp_vlan_member_add` do the same to both. -/
theorem memberAdd
    (env : Env)
    (alike : Alike first second)
    (accepts : xdk.Accepts)
    (otherAccepts : other.Accepts)
    (vid intfId : Nat)
    (encapType : EncapType) :
    (vlanMemberAdd env xdk first vid intfId encapType).1 =
        (vlanMemberAdd env other second vid intfId encapType).1 ∧
      Alike (vlanMemberAdd env xdk first vid intfId encapType).2
        (vlanMemberAdd env other second vid intfId encapType).2 := by
  have member : vlanPortIsMember env first vid intfId =
      vlanPortIsMember env second vid intfId :=
    vlanPortIsMember_congr (congrFun alike.table vid)
  unfold vlanMemberAdd
  rw [alike.existing vid, member]
  obtain ⟨table, names, hw, calls⟩ := first
  obtain ⟨otherTable, otherNames, otherHw, otherCalls⟩ := second
  obtain ⟨rfl, rfl, rfl⟩ := alike
  split
  · exact ⟨rfl, rfl, rfl, rfl⟩
  split
  · exact ⟨rfl, rfl, rfl, rfl⟩
  · simp only [accepts.call, otherAccepts.call]
    exact ⟨rfl, rfl, rfl, rfl⟩

/-- Accepted calls of `ops_xp_vlan_remove` do the same to both. -/
theorem remove
    (env : Env)
    (alike : Alike first second)
    (accepts : xdk.Accepts)
    (otherAccepts : other.Accepts)
    (vid : Nat) :
    (vlanRemove env xdk first vid).1 = (vlanRemove env other second vid).1 ∧
      Alike (vlanRemove env xdk first vid).2 (vlanRemove env other second vid).2 := by
  unfold vlanRemove
  rw [alike.existing vid]
  obtain ⟨table, names, hw, calls⟩ := first
  obtain ⟨otherTable, otherNames, otherHw, otherCalls⟩ := second
  obtain ⟨rfl, rfl, rfl⟩ := alike
  split
  · exact ⟨rfl, rfl, rfl, rfl⟩
  · simp only [accepts.call, otherAccepts.call]
    exact ⟨rfl, rfl, rfl, rfl⟩

end Alike

section Loops

variable {count : Nat} {env : Env} {xdk other : Xdk} {dev first second : Dev} {vid : Nat}

theorem Alike.addTrunked
    (env : Env)
    (vid : Nat)
    (alike : Alike first second)
    (accepts : xdk.Accepts)
    (otherAccepts : other.Accepts)
    (bundles : List (Bundle count)) :
    (addTrunked env xdk vid bundles first).1 = (addTrunked env other vid bundles second).1 ∧
      Alike (addTrunked env xdk vid bundles first).2
        (addTrunked env other vid bundles second).2 := by
  induction bundles generalizing first second with
  | nil => exact ⟨rfl, alike⟩
  | cons bundle bundles inductionHypothesis =>
      obtain ⟨code, joined⟩ := alike.memberAdd env accepts otherAccepts vid
        bundle.intfId (bundle.encapType vid)
      unfold Bundles.addTrunked
      split
      · generalize vlanMemberAdd env xdk first vid bundle.intfId (bundle.encapType vid) =
          left at code joined ⊢
        generalize vlanMemberAdd env other second vid bundle.intfId (bundle.encapType vid) =
          right at code joined ⊢
        obtain ⟨errno, left⟩ := left
        obtain ⟨otherErrno, right⟩ := right
        simp only at code joined
        subst code
        cases errno with
        | none => exact inductionHypothesis joined
        | some errno => exact ⟨rfl, joined⟩
      · exact inductionHypothesis alike

theorem Alike.removeTrunked
    (env : Env)
    (vid : Nat)
    (alike : Alike first second)
    (accepts : xdk.Accepts)
    (otherAccepts : other.Accepts)
    (bundles : List (Bundle count)) :
    (removeTrunked env xdk vid bundles first).1 =
        (removeTrunked env other vid bundles second).1 ∧
      Alike (removeTrunked env xdk vid bundles first).2
        (removeTrunked env other vid bundles second).2 := by
  induction bundles generalizing first second with
  | nil => exact ⟨rfl, alike⟩
  | cons bundle bundles inductionHypothesis =>
      obtain ⟨code, left⟩ := alike.memberRemove env accepts otherAccepts vid bundle.intfId
      unfold Bundles.removeTrunked
      split
      · generalize vlanMemberRemove env xdk first vid bundle.intfId = own at code left ⊢
        generalize vlanMemberRemove env other second vid bundle.intfId = peer at code left ⊢
        obtain ⟨errno, own⟩ := own
        obtain ⟨otherErrno, peer⟩ := peer
        simp only at code left
        subst code
        cases errno with
        | none => exact inductionHypothesis left
        | some errno => exact ⟨rfl, left⟩
      · exact inductionHypothesis alike

/-! ## Members that leave -/

/-- The members of a VLAN only become fewer. -/
structure Dwindles (env : Env) (vid : Nat) (before after : Dev) : Prop where
  existing : vlanIsExisting env after vid = vlanIsExisting env before vid
  once : ((after.table vid).members.map (·.intfId)).Nodup
  member : ∀ intfId, vlanPortIsMember env after vid intfId = true →
    vlanPortIsMember env before vid intfId = true

/-- An interface is a member if an entry of an existing VLAN names it. -/
theorem vlanPortIsMember_iff {intfId : Nat} (existing : vlanIsExisting env dev vid = true) :
    vlanPortIsMember env dev vid intfId = true ↔
      intfId ∈ (dev.table vid).members.map (·.intfId) := by
  rw [vlanPortIsMember, vlanMemberLookup, if_pos existing, List.find?_isSome, List.mem_map]
  simp

/-- The table after `ops_xp_vlan_member_remove` returned 0. -/
theorem vlanMemberRemove_table
    {intfId : Nat}
    {after : Dev}
    (existing : vlanIsExisting env dev vid = true)
    (equation : vlanMemberRemove env xdk dev vid intfId = (none, after)) :
    after.table = Function.update dev.table vid
      { dev.table vid with
        members := (dev.table vid).members.eraseP (·.intfId == intfId) } := by
  unfold vlanMemberRemove at equation
  rw [existing] at equation
  cases lookup : vlanMemberLookup env dev vid intfId with
  | none =>
      rw [lookup] at equation
      cases equation
      rw [vlanMemberLookup, if_pos existing, List.find?_eq_none] at lookup
      rw [List.eraseP_of_forall_not lookup, Function.update_eq_self]
  | some entry =>
      rw [lookup] at equation
      have kept : (if env.isTunnelIntf intfId then (true, dev)
          else dev.call xdk id).2.table = dev.table := by
        split <;> simp
      generalize (if env.isTunnelIntf intfId then (true, dev) else dev.call xdk id) =
        answer at kept equation
      simp only [Bool.not_true, Bool.false_eq_true, if_false] at equation
      split at equation
      · cases equation
      split at equation
      · cases equation
      · cases equation
        rw [setVlan_table, call_table, kept]

/-- `ops_xp_vlan_member_remove`, when it returns 0, takes the interface out. -/
theorem vlanMemberRemove_dwindles
    {intfId : Nat}
    {after : Dev}
    (existing : vlanIsExisting env dev vid = true)
    (once : ((dev.table vid).members.map (·.intfId)).Nodup)
    (equation : vlanMemberRemove env xdk dev vid intfId = (none, after)) :
    Dwindles env vid dev after ∧ vlanPortIsMember env after vid intfId = false := by
  have table := congrFun (vlanMemberRemove_table existing equation) vid
  rw [Function.update_self] at table
  have stillExisting : vlanIsExisting env after vid = true := by
    rw [vlanIsExisting, table]
    exact existing
  have fewer : ((dev.table vid).members.eraseP (·.intfId == intfId)).Sublist
      (dev.table vid).members := List.eraseP_sublist
  refine ⟨⟨stillExisting.trans existing.symm, ?_, ?_⟩, ?_⟩
  · rw [table]
    exact once.sublist (fewer.map _)
  · intro peer member
    rw [vlanPortIsMember_iff stillExisting, table] at member
    rw [vlanPortIsMember_iff existing]
    exact (fewer.map (·.intfId)).subset member
  · rw [← Bool.not_eq_true, vlanPortIsMember_iff stillExisting, table]
    intro member
    obtain ⟨entry, found⟩ : ∃ entry, (dev.table vid).members.find? (·.intfId == intfId) =
        some entry := by
      rw [← Option.isSome_iff_exists, List.find?_isSome]
      obtain ⟨entry, isEntry, same⟩ := List.mem_map.mp ((fewer.map (·.intfId)).subset member)
      exact ⟨entry, isEntry, by simpa using same⟩
    have split := (KeyedList.perm_cons_eraseP found).map (·.intfId)
    have named : entry.intfId = intfId := by simpa using List.find?_some found
    have nodup := split.nodup_iff.mp once
    rw [List.map_cons, named, List.nodup_cons] at nodup
    exact nodup.1 member

theorem Dwindles.refl (once : ((dev.table vid).members.map (·.intfId)).Nodup) :
    Dwindles env vid dev dev :=
  ⟨rfl, once, fun _ member => member⟩

theorem Dwindles.trans
    {middle : Dev}
    (left : Dwindles env vid first middle)
    (right : Dwindles env vid middle second) :
    Dwindles env vid first second :=
  ⟨right.existing.trans left.existing, right.once,
    fun intfId member => left.member intfId (right.member intfId member)⟩

/-- One bundle of the loop that removes bundles from a VLAN. -/
theorem removeTrunked_cons
    {bundle : Bundle count}
    (trunked : bundle.isTrunked vid = true)
    (bundles : List (Bundle count)) :
    removeTrunked env xdk vid (bundle :: bundles) dev =
      match vlanMemberRemove env xdk dev vid bundle.intfId with
      | (none, dev) => removeTrunked env xdk vid bundles dev
      | (some _, dev) => (some .EPERM, dev) := by
  rw [removeTrunked]
  exact if_pos trunked

theorem removeTrunked_cons_of_not
    {bundle : Bundle count}
    (untrunked : bundle.isTrunked vid = false)
    (bundles : List (Bundle count)) :
    removeTrunked env xdk vid (bundle :: bundles) dev =
      removeTrunked env xdk vid bundles dev := by
  rw [removeTrunked, untrunked]
  rfl

/-- However far the loop gets, members only leave. -/
theorem removeTrunked_dwindles
    (existing : vlanIsExisting env dev vid = true)
    (once : ((dev.table vid).members.map (·.intfId)).Nodup)
    (bundles : List (Bundle count)) :
    Dwindles env vid dev (removeTrunked env xdk vid bundles dev).2 := by
  induction bundles generalizing dev with
  | nil => exact .refl once
  | cons bundle bundles inductionHypothesis =>
      cases trunked : bundle.isTrunked vid with
      | false =>
          rw [removeTrunked_cons_of_not trunked]
          exact inductionHypothesis existing once
      | true =>
          rw [removeTrunked_cons trunked]
          by_cases enough : xdk.SucceedsFor dev.calls (leaveCalls env dev vid bundle.intfId)
          · obtain ⟨after, own, _, _⟩ := vlanMemberRemove_completes existing enough
            obtain ⟨dwindles, _⟩ := vlanMemberRemove_dwindles existing once own
            rw [own]
            exact dwindles.trans
              (inductionHypothesis (dwindles.existing.trans existing) dwindles.once)
          · obtain ⟨_, errno, calls, stopped⟩ := vlanMemberRemove_stops enough
            rw [stopped]
            exact ⟨rfl, once, fun _ member => member⟩

/-- The loop, with every call accepted, gets through and leaves no interface of
its bundles in the VLAN. -/
theorem removeTrunked_accepted
    (existing : vlanIsExisting env dev vid = true)
    (once : ((dev.table vid).members.map (·.intfId)).Nodup)
    (accepts : xdk.Accepts)
    (bundles : List (Bundle count)) :
    (removeTrunked env xdk vid bundles dev).1 = none ∧
      ∀ bundle ∈ bundles, bundle.isTrunked vid = true →
        vlanPortIsMember env (removeTrunked env xdk vid bundles dev).2 vid
          bundle.intfId = false := by
  induction bundles generalizing dev with
  | nil => exact ⟨rfl, by simp⟩
  | cons bundle bundles inductionHypothesis =>
      cases trunked : bundle.isTrunked vid with
      | false =>
          rw [removeTrunked_cons_of_not trunked]
          obtain ⟨code, left⟩ := inductionHypothesis existing once
          refine ⟨code, ?_⟩
          intro other member otherTrunked
          rcases List.mem_cons.mp member with rfl | later
          · rw [trunked] at otherTrunked
            cases otherTrunked
          · exact left other later otherTrunked
      | true =>
          obtain ⟨after, own, _, _⟩ := vlanMemberRemove_completes existing
            (accepts.succeedsFor : xdk.SucceedsFor dev.calls
              (leaveCalls env dev vid bundle.intfId))
          obtain ⟨dwindles, gone⟩ := vlanMemberRemove_dwindles existing once own
          have stillExisting := dwindles.existing.trans existing
          obtain ⟨code, left⟩ := inductionHypothesis stillExisting dwindles.once
          rw [removeTrunked_cons trunked, own]
          refine ⟨code, ?_⟩
          intro other member otherTrunked
          rcases List.mem_cons.mp member with rfl | later
          · rw [← Bool.not_eq_true]
            intro stays
            have before := (@removeTrunked_dwindles count env xdk after vid stillExisting
              dwindles.once bundles).member other.intfId stays
            rw [gone] at before
            cases before
          · exact left other later otherTrunked

/-- After a loop that stopped, the loop gets to where it would have got at once. -/
theorem removeTrunked_resumes
    {accepting : Xdk}
    {bundles : List (Bundle count)}
    {errno : Errno}
    {between : Dev}
    (existing : vlanIsExisting env dev vid = true)
    (once : ((dev.table vid).members.map (·.intfId)).Nodup)
    (accepts : accepting.Accepts)
    (stopped : removeTrunked env xdk vid bundles dev = (some errno, between)) :
    Alike (removeTrunked env accepting vid bundles between).2
      (removeTrunked env accepting vid bundles dev).2 := by
  induction bundles generalizing dev with
  | nil => cases stopped
  | cons bundle bundles inductionHypothesis =>
      cases trunked : bundle.isTrunked vid with
      | false =>
          rw [removeTrunked_cons_of_not trunked] at stopped ⊢
          rw [removeTrunked_cons_of_not trunked]
          exact inductionHypothesis existing once stopped
      | true =>
          by_cases enough : xdk.SucceedsFor dev.calls (leaveCalls env dev vid bundle.intfId)
          · obtain ⟨middle, own, accepted, _⟩ := vlanMemberRemove_completes existing enough
            obtain ⟨dwindles, gone⟩ := vlanMemberRemove_dwindles existing once own
            have stillExisting := dwindles.existing.trans existing
            rw [removeTrunked_cons trunked, own] at stopped
            have later := inductionHypothesis stillExisting dwindles.once stopped
            have skipped : vlanMemberRemove env accepting between vid bundle.intfId =
                (none, between) := by
              have fewer := @removeTrunked_dwindles count env xdk middle vid stillExisting
                dwindles.once bundles
              rw [show removeTrunked env xdk vid bundles middle = (some errno, between)
                from stopped] at fewer
              have absent : vlanMemberLookup env between vid bundle.intfId = none := by
                rw [← Option.isNone_iff_eq_none, ← Option.isSome_eq_false_iff,
                  ← Bool.not_eq_true]
                intro stays
                have before := fewer.member bundle.intfId stays
                rw [gone] at before
                cases before
              unfold vlanMemberRemove
              rw [fewer.existing, stillExisting, absent]
              rfl
            obtain ⟨code, alike⟩ := (Alike.refl dev).memberRemove env accepts
              xdk.accepting_accepts vid bundle.intfId
            rw [accepted] at code alike
            rw [removeTrunked_cons trunked, skipped, removeTrunked_cons trunked]
            generalize vlanMemberRemove env accepting dev vid bundle.intfId =
              result at code alike ⊢
            obtain ⟨answer, result⟩ := result
            simp only at code alike
            subst code
            exact later.trans (alike.symm.removeTrunked env vid accepts accepts bundles).2
          · obtain ⟨_, refusal, calls, own⟩ := vlanMemberRemove_stops enough
            rw [removeTrunked_cons trunked, own] at stopped
            cases stopped
            exact (Alike.removeTrunked env vid
              (⟨rfl, rfl, rfl⟩ : Alike { dev with calls := calls } dev) accepts accepts _).2

/-! ## The calls of the loop -/

/-- The calls that take interfaces out of a VLAN one after the other. -/
def leaveAllCalls (env : Env) : (isMember : Nat → Bool) → List Nat → Nat
  | _, [] => 0
  | isMember, intfId :: intfIds =>
      (if isMember intfId then removeCalls env intfId else 0) +
        leaveAllCalls env (fun peer => isMember peer && peer != intfId) intfIds

/-- The interfaces of the bundles with a VLAN in their trunks. -/
def trunkedIntfs (vid : Nat) (bundles : List (Bundle count)) : List Nat :=
  (bundles.filter (·.isTrunked vid)).map (·.intfId)

/-- Who is a member after one has left. -/
theorem vlanPortIsMember_after
    {intfId peer : Nat}
    {after : Dev}
    (existing : vlanIsExisting env dev vid = true)
    (once : ((dev.table vid).members.map (·.intfId)).Nodup)
    (equation : vlanMemberRemove env xdk dev vid intfId = (none, after)) :
    vlanPortIsMember env after vid peer =
      (vlanPortIsMember env dev vid peer && peer != intfId) := by
  obtain ⟨dwindles, gone⟩ := vlanMemberRemove_dwindles existing once equation
  by_cases same : peer = intfId
  · subst same
    simp [gone]
  · have table := congrFun (vlanMemberRemove_table existing equation) vid
    rw [Function.update_self] at table
    have other : (peer != intfId) = true := by simpa using same
    rw [other, Bool.and_true, vlanPortIsMember, vlanMemberLookup, dwindles.existing, table,
      KeyedList.find?_eraseP_of_ne]
    · rfl
    · intro entry named
      rw [beq_iff_eq] at named
      rw [named]
      simpa using same

theorem removeTrunked_completes
    {bundles : List (Bundle count)}
    (existing : vlanIsExisting env dev vid = true)
    (once : ((dev.table vid).members.map (·.intfId)).Nodup)
    (enough : xdk.SucceedsFor dev.calls
      (leaveAllCalls env (vlanPortIsMember env dev vid) (trunkedIntfs vid bundles))) :
    removeTrunked env xdk vid bundles dev = removeTrunked env xdk.accepting vid bundles dev ∧
      (removeTrunked env xdk vid bundles dev).2.calls = dev.calls +
        leaveAllCalls env (vlanPortIsMember env dev vid) (trunkedIntfs vid bundles) := by
  induction bundles generalizing dev with
  | nil => exact ⟨rfl, rfl⟩
  | cons bundle bundles inductionHypothesis =>
      cases trunked : bundle.isTrunked vid with
      | false =>
          have same : trunkedIntfs vid (bundle :: bundles) = trunkedIntfs vid bundles := by
            simp [trunkedIntfs, trunked]
          rw [same] at enough ⊢
          rw [removeTrunked_cons_of_not trunked, removeTrunked_cons_of_not trunked]
          exact inductionHypothesis existing once enough
      | true =>
          have split : trunkedIntfs vid (bundle :: bundles) =
              bundle.intfId :: trunkedIntfs vid bundles := by
            simp [trunkedIntfs, trunked]
          rw [split, leaveAllCalls, Xdk.succeedsFor_add] at enough
          rw [split, leaveAllCalls]
          obtain ⟨after, own, accepted, calls⟩ := vlanMemberRemove_completes existing enough.1
          obtain ⟨dwindles, _⟩ := vlanMemberRemove_dwindles existing once own
          have members : vlanPortIsMember env after vid = fun peer =>
              vlanPortIsMember env dev vid peer && peer != bundle.intfId := by
            funext peer
            exact vlanPortIsMember_after existing once own
          rw [← members] at enough ⊢
          rw [removeTrunked_cons trunked, removeTrunked_cons trunked, own, accepted]
          have later := enough.2
          change xdk.SucceedsFor (dev.calls + leaveCalls env dev vid bundle.intfId) _ at later
          rw [← calls] at later
          obtain ⟨same, laterCalls⟩ := inductionHypothesis
            (dwindles.existing.trans existing) dwindles.once later
          refine ⟨same, ?_⟩
          simp only
          rw [laterCalls, calls, leaveCalls, Nat.add_assoc]

theorem removeTrunked_stops
    {bundles : List (Bundle count)}
    (existing : vlanIsExisting env dev vid = true)
    (once : ((dev.table vid).members.map (·.intfId)).Nodup)
    (refused : ¬ xdk.SucceedsFor dev.calls
      (leaveAllCalls env (vlanPortIsMember env dev vid) (trunkedIntfs vid bundles))) :
    ∃ errno after, removeTrunked env xdk vid bundles dev = (some errno, after) := by
  induction bundles generalizing dev with
  | nil => exact absurd Xdk.succeedsFor_zero refused
  | cons bundle bundles inductionHypothesis =>
      cases trunked : bundle.isTrunked vid with
      | false =>
          have same : trunkedIntfs vid (bundle :: bundles) = trunkedIntfs vid bundles := by
            simp [trunkedIntfs, trunked]
          rw [same] at refused
          rw [removeTrunked_cons_of_not trunked]
          exact inductionHypothesis existing once refused
      | true =>
          have split : trunkedIntfs vid (bundle :: bundles) =
              bundle.intfId :: trunkedIntfs vid bundles := by
            simp [trunkedIntfs, trunked]
          rw [split, leaveAllCalls, Xdk.succeedsFor_add] at refused
          rw [removeTrunked_cons trunked]
          by_cases own : xdk.SucceedsFor dev.calls (leaveCalls env dev vid bundle.intfId)
          · obtain ⟨after, equation, _, calls⟩ := vlanMemberRemove_completes existing own
            obtain ⟨dwindles, _⟩ := vlanMemberRemove_dwindles existing once equation
            have members : vlanPortIsMember env after vid = fun peer =>
                vlanPortIsMember env dev vid peer && peer != bundle.intfId := by
              funext peer
              exact vlanPortIsMember_after existing once equation
            rw [equation]
            apply inductionHypothesis (dwindles.existing.trans existing) dwindles.once
            rw [members, calls]
            intro later
            exact refused ⟨own, later⟩
          · obtain ⟨_, errno, calls, stopped⟩ := vlanMemberRemove_stops own
            rw [stopped]
            exact ⟨.EPERM, _, rfl⟩

/-! ## VLANs that are created -/

theorem vlanMemberAdd_existing (intfId : Nat) (encapType : EncapType) :
    vlanIsExisting env (vlanMemberAdd env xdk dev vid intfId encapType).2 vid =
      vlanIsExisting env dev vid := by
  cases existing : vlanIsExisting env dev vid with
  | false =>
      unfold vlanMemberAdd
      rw [existing]
      exact existing
  | true =>
      by_cases enough : xdk.SucceedsFor dev.calls (joinCalls env dev vid intfId)
      · unfold vlanMemberAdd
        simp only [existing, Bool.not_true, Bool.false_eq_true, if_false]
        split
        · exact existing
        split
        · rw [vlanIsExisting_congr (congrFun (call_table dev xdk _) vid)]
          exact existing
        · rw [vlanIsExisting_setVlan, if_pos rfl, call_table]
          exact existing
      · obtain ⟨_, errno, calls, stopped⟩ := vlanMemberAdd_stops encapType existing enough
        rw [stopped]
        exact existing

/-- The loop that adds bundles to a VLAN, with every call accepted, gets
through. -/
theorem addTrunked_accepted
    (existing : vlanIsExisting env dev vid = true)
    (accepts : xdk.Accepts)
    (bundles : List (Bundle count)) :
    (addTrunked env xdk vid bundles dev).1 = none := by
  induction bundles generalizing dev with
  | nil => rfl
  | cons bundle bundles inductionHypothesis =>
      unfold addTrunked
      split
      · obtain ⟨after, own, _, _⟩ := vlanMemberAdd_completes (bundle.encapType vid) existing
          (accepts.succeedsFor : xdk.SucceedsFor dev.calls
            (joinCalls env dev vid bundle.intfId))
        have stays := @vlanMemberAdd_existing env xdk dev vid bundle.intfId
          (bundle.encapType vid)
        rw [own] at stays ⊢
        exact inductionHypothesis (stays.trans existing)
      · exact inductionHypothesis existing

theorem addTrunked_existing (bundles : List (Bundle count)) :
    vlanIsExisting env (addTrunked env xdk vid bundles dev).2 vid =
      vlanIsExisting env dev vid := by
  induction bundles generalizing dev with
  | nil => rfl
  | cons bundle bundles inductionHypothesis =>
      have stays := @vlanMemberAdd_existing env xdk dev vid bundle.intfId
        (bundle.encapType vid)
      unfold addTrunked
      split
      · generalize vlanMemberAdd env xdk dev vid bundle.intfId (bundle.encapType vid) =
          result at stays ⊢
        obtain ⟨errno, after⟩ := result
        cases errno with
        | none => exact inductionHypothesis.trans stays
        | some errno => exact stays
      · exact inductionHypothesis

/-- The calls of `ops_xp_vlan_create` that it checks. -/
def CreationCompletes (xdk : Xdk) (first : Nat) : Prop :=
  xdk.succeeds first = true ∧ xdk.succeeds (first + 1) = true ∧
    xdk.succeeds (first + 3) = true

/-- A VLAN that exists already, or cannot, is not created. -/
theorem vlanCreate_refused
    (refused : isVlanIdValid env vid = false ∨ vlanIsExisting env dev vid = true)
    (xdk : Xdk) :
    ∃ errno, vlanCreate env xdk dev vid = (some errno, dev) := by
  unfold vlanCreate
  cases valid : isVlanIdValid env vid with
  | false => exact ⟨Errno.ENXIO, rfl⟩
  | true =>
      have existing : (dev.table vid).isExisting = true := by
        rcases refused with invalid | existing
        · rw [valid] at invalid
          cases invalid
        · exact (Bool.and_eq_true_iff.mp existing).2
      rw [existing]
      exact ⟨.EEXIST, rfl⟩

/-- A creation that stops has not told the table, and has created the VLAN in the
hardware at most. -/
theorem vlanCreate_stops
    (valid : isVlanIdValid env vid = true)
    (missing : vlanIsExisting env dev vid = false)
    (interrupted : ¬ CreationCompletes xdk dev.calls) :
    ∃ errno after, vlanCreate env xdk dev vid = (some errno, after) ∧
      after.table = dev.table ∧ after.ifIdToName = dev.ifIdToName ∧
      (after.hw = dev.hw ∨ after.hw =
        { dev.hw with vlans := Function.update dev.hw.vlans vid (some []) }) := by
  have notExisting : (dev.table vid).isExisting = false := by
    simpa [vlanIsExisting, valid] using missing
  unfold vlanCreate
  simp only [valid, notExisting, Bool.not_true, Bool.false_eq_true, if_false]
  cases created : xdk.succeeds dev.calls with
  | false =>
      rw [call_of_fails created]
      exact ⟨.EPERM, _, rfl, rfl, rfl, .inl rfl⟩
  | true =>
      rw [call_of_succeeds created]
      simp only [Bool.not_true, Bool.false_eq_true, if_false]
      cases gotConfig : xdk.succeeds (dev.calls + 1) with
      | false =>
          rw [call_of_fails (by exact gotConfig)]
          exact ⟨.EPERM, _, rfl, rfl, rfl, .inr rfl⟩
      | true =>
          rw [call_of_succeeds (by exact gotConfig)]
          simp only [Bool.not_true, Bool.false_eq_true, if_false, call_id_snd]
          have setConfig : xdk.succeeds (dev.calls + 3) = false := by
            rw [← Bool.not_eq_true]
            intro succeeds
            exact interrupted ⟨created, gotConfig, succeeds⟩
          rw [call_of_fails (by exact setConfig)]
          exact ⟨.EPERM, _, rfl, rfl, rfl, .inr rfl⟩

/-- A creation that gets through. -/
theorem vlanCreate_completes
    (valid : isVlanIdValid env vid = true)
    (missing : vlanIsExisting env dev vid = false)
    (completes : CreationCompletes xdk dev.calls) :
    ∃ calls, vlanCreate env xdk dev vid = (none,
      { dev with
        table := Function.update dev.table vid
          { dev.table vid with isExisting := true }
        hw := { dev.hw with vlans := Function.update dev.hw.vlans vid (some []) }
        calls := calls }) := by
  have notExisting : (dev.table vid).isExisting = false := by
    simpa [vlanIsExisting, valid] using missing
  obtain ⟨created, gotConfig, setConfig⟩ := completes
  refine ⟨dev.calls + 4, ?_⟩
  unfold vlanCreate
  simp only [valid, notExisting, Bool.not_true, Bool.false_eq_true, if_false]
  rw [call_of_succeeds created]
  simp only [Bool.not_true, Bool.false_eq_true, if_false]
  rw [call_of_succeeds (by exact gotConfig)]
  simp only [Bool.not_true, Bool.false_eq_true, if_false, call_id_snd]
  rw [call_of_succeeds (by exact setConfig)]
  rfl

end Loops

/-! ## The repeated call -/

/-- Two states that differ in the number of calls made so far. -/
structure SameState {count : Nat} (first second : Ofproto count) : Prop where
  dev : Alike first.dev second.dev
  portBundle : first.portBundle = second.portBundle
  bundles : first.bundles = second.bundles
  nextBundle : first.nextBundle = second.nextBundle
  destroyedLags : first.destroyedLags = second.destroyedLags

/-- The table, the hardware and the trunks of the bundles agree on a VLAN. -/
structure VlanCoherent {count : Nat} (env : Env) (ofproto : Ofproto count) (vid : Nat) :
    Prop where
  agree : Agree (ofproto.dev.table vid) (ofproto.dev.hw.vlans vid)
  member : vlanIsExisting env ofproto.dev vid = true → ∀ intfId,
    vlanPortIsMember env ofproto.dev vid intfId = true ↔
      ∃ bundle ∈ ofproto.bundles, bundle.isTrunked vid = true ∧ bundle.intfId = intfId

/-- A call of `ofproto_xpliant_set_vlan`, repeated with every call of the XDK
accepted, returns 0 and leads to where a first call with every call accepted
leads. -/
def Retried {count : Nat} (bridge : Bridge) (xdk accepting : Xdk)
    (order : Traversal (Bundle count)) (ofproto : Ofproto count) (vid : Nat) (add : Bool) :
    Prop :=
  let first := (setVlan bridge xdk order ofproto vid add).2
  let again := setVlan bridge accepting order first vid add
  again.1 = none ∧
    SameState again.2 (setVlan bridge accepting order ofproto vid add).2

/-- The call stopped before the VLAN came into being or ceased to be, or had no
bundle to take out of the VLAN. -/
def Retryable {count : Nat} (bridge : Bridge) (xdk : Xdk)
    (order : Traversal (Bundle count)) (ofproto : Ofproto count) (vid : Nat) :
    (add : Bool) → Prop
  | true =>
      isVlanIdValid bridge.toEnv vid = true ∧
        vlanIsExisting bridge.toEnv ofproto.dev vid = false ∧
        ¬ CreationCompletes xdk ofproto.dev.calls
  | false =>
      (vlanIsExisting bridge.toEnv ofproto.dev vid = true ∧
        ¬ xdk.SucceedsFor ofproto.dev.calls (leaveAllCalls bridge.toEnv
          (vlanPortIsMember bridge.toEnv ofproto.dev vid)
          (trunkedIntfs vid (order.visit ofproto.bundles)))) ∨
      ((∀ bundle ∈ ofproto.bundles, bundle.isTrunked vid = false) ∧
        (vlanIsExisting bridge.toEnv ofproto.dev vid = true →
          xdk.succeeds ofproto.dev.calls = true))

section Setting

variable {count : Nat} {bridge : Bridge} {xdk accepting : Xdk}
  {order : Traversal (Bundle count)} {ofproto : Ofproto count} {vid : Nat}

/-- Adding a VLAN, seen from the device. -/
def addVlan (env : Env) (xdk : Xdk) (vid : Nat) (bundles : List (Bundle count))
    (dev : Dev) : Option Errno × Dev :=
  match vlanCreate env xdk dev vid with
  | (some errno, dev) => (some errno, dev)
  | (none, dev) => addTrunked env xdk vid bundles dev

theorem setVlan_add (notDefault : vid ≠ defaultVlanId) :
    setVlan bridge xdk order ofproto vid true =
      ((addVlan bridge.toEnv xdk vid (order.visit ofproto.bundles) ofproto.dev).1,
        { ofproto with dev :=
          (addVlan bridge.toEnv xdk vid (order.visit ofproto.bundles) ofproto.dev).2 }) := by
  unfold setVlan addVlan
  simp only [if_true, if_pos notDefault]
  generalize vlanCreate bridge.toEnv xdk ofproto.dev vid = result
  obtain ⟨errno, dev⟩ := result
  cases errno <;> rfl

/-- A VLAN that exists or cannot exist is not added. -/
theorem addVlan_refused
    {env : Env}
    {dev : Dev}
    (refused : isVlanIdValid env vid = false ∨ vlanIsExisting env dev vid = true)
    (xdk : Xdk)
    (bundles : List (Bundle count)) :
    ∃ errno, addVlan env xdk vid bundles dev = (some errno, dev) := by
  obtain ⟨errno, equation⟩ := vlanCreate_refused refused xdk
  refine ⟨errno, ?_⟩
  rw [addVlan, equation]

/-- Adding a VLAN again after its creation stopped. -/
theorem addVlan_again
    {env : Env}
    {dev stopped : Dev}
    (accepts : accepting.Accepts)
    (valid : isVlanIdValid env vid = true)
    (missing : vlanIsExisting env dev vid = false)
    (table : stopped.table = dev.table)
    (names : stopped.ifIdToName = dev.ifIdToName)
    (hw : stopped.hw = dev.hw ∨ stopped.hw =
      { dev.hw with vlans := Function.update dev.hw.vlans vid (some []) })
    (bundles : List (Bundle count)) :
    (addVlan env accepting vid bundles stopped).1 = none ∧
      Alike (addVlan env accepting vid bundles stopped).2
        (addVlan env accepting vid bundles dev).2 := by
  have stillMissing : vlanIsExisting env stopped vid = false := by
    rw [vlanIsExisting_congr (congrFun table vid), missing]
  obtain ⟨calls, created⟩ := vlanCreate_completes valid missing
    (⟨accepts _, accepts _, accepts _⟩ : CreationCompletes accepting dev.calls)
  obtain ⟨later, createdAgain⟩ := vlanCreate_completes valid stillMissing
    (⟨accepts _, accepts _, accepts _⟩ : CreationCompletes accepting stopped.calls)
  unfold addVlan
  rw [created, createdAgain]
  simp only
  refine ⟨?_, ?_⟩
  · apply addTrunked_accepted _ accepts
    simp [vlanIsExisting, valid]
  · apply (Alike.addTrunked env vid _ accepts accepts bundles).2
    refine ⟨?_, names, ?_⟩
    · simp only [table]
    · rcases hw with same | created
      · simp only [same]
      · simp [created]

theorem retried_add_iff
    (accepts : accepting.Accepts)
    (notDefault : vid ≠ defaultVlanId) :
    Retried bridge xdk accepting order ofproto vid true ↔
      Retryable bridge xdk order ofproto vid true := by
  unfold Retried Retryable
  simp only [setVlan_add notDefault]
  by_cases refused : isVlanIdValid bridge.toEnv vid = false ∨
      vlanIsExisting bridge.toEnv ofproto.dev vid = true
  · obtain ⟨errno, first⟩ := addVlan_refused refused xdk (order.visit ofproto.bundles)
    obtain ⟨again, second⟩ := addVlan_refused refused accepting (order.visit ofproto.bundles)
    refine iff_of_false ?_ ?_
    · rintro ⟨code, _⟩
      rw [first, second] at code
      cases code
    · rintro ⟨valid, missing, _⟩
      rcases refused with invalid | existing
      · rw [valid] at invalid
        cases invalid
      · rw [existing] at missing
        cases missing
  · rw [not_or, Bool.not_eq_false, Bool.not_eq_true] at refused
    obtain ⟨valid, missing⟩ := refused
    by_cases completes : CreationCompletes xdk ofproto.dev.calls
    · obtain ⟨calls, created⟩ := vlanCreate_completes valid missing completes
      refine iff_of_false ?_ fun retryable => retryable.2.2 completes
      rintro ⟨code, _⟩
      have existing : vlanIsExisting bridge.toEnv (addVlan bridge.toEnv xdk vid
          (order.visit ofproto.bundles) ofproto.dev).2 vid = true := by
        rw [addVlan, created]
        simp only
        rw [addTrunked_existing]
        simp [vlanIsExisting, valid]
      obtain ⟨errno, again⟩ := addVlan_refused (.inr existing) accepting
        (order.visit ofproto.bundles)
      rw [again] at code
      cases code
    · obtain ⟨errno, after, stopped, table, names, hw⟩ :=
        vlanCreate_stops valid missing completes
      have first : addVlan bridge.toEnv xdk vid (order.visit ofproto.bundles) ofproto.dev =
          (some errno, after) := by
        rw [addVlan, stopped]
      obtain ⟨code, alike⟩ := addVlan_again accepts valid missing table names hw
        (order.visit ofproto.bundles)
      refine iff_of_true ?_ ⟨valid, missing, completes⟩
      rw [first]
      exact ⟨code, alike, rfl, rfl, rfl, rfl⟩

/-- Removing a VLAN, seen from the device. -/
def removeVlan (env : Env) (xdk : Xdk) (vid : Nat) (bundles : List (Bundle count))
    (dev : Dev) : Option Errno × Dev :=
  match removeTrunked env xdk vid bundles dev with
  | (some errno, dev) => (some errno, dev)
  | (none, dev) =>
      if vlanIsMembershipEmpty env dev vid then vlanRemove env xdk dev vid
      else (none, dev)

theorem setVlan_remove (notDefault : vid ≠ defaultVlanId) :
    setVlan bridge xdk order ofproto vid false =
      ((removeVlan bridge.toEnv xdk vid (order.visit ofproto.bundles) ofproto.dev).1,
        { ofproto with dev :=
          (removeVlan bridge.toEnv xdk vid (order.visit ofproto.bundles) ofproto.dev).2 }) := by
  cases loop : removeTrunked bridge.toEnv xdk vid (order.visit ofproto.bundles)
      ofproto.dev with
  | mk errno dev =>
      cases errno with
      | some errno => simp [setVlan, removeVlan, loop]
      | none => simp [setVlan, removeVlan, loop, notDefault]

/-- The loop meets a bundle in a VLAN that does not exist. -/
theorem removeTrunked_missing
    {env : Env}
    {dev : Dev}
    (missing : vlanIsExisting env dev vid = false)
    (xdk : Xdk)
    (bundles : List (Bundle count)) :
    removeTrunked env xdk vid bundles dev =
      if ∀ bundle ∈ bundles, bundle.isTrunked vid = false then (none, dev)
      else (some .EPERM, dev) := by
  induction bundles with
  | nil => rfl
  | cons bundle bundles inductionHypothesis =>
      cases trunked : bundle.isTrunked vid with
      | false =>
          rw [removeTrunked_cons_of_not trunked, inductionHypothesis]
          simp [trunked]
      | true =>
          have refused : vlanMemberRemove env xdk dev vid bundle.intfId =
              (some Errno.ENXIO, dev) := by
            unfold vlanMemberRemove
            rw [missing]
            rfl
          rw [removeTrunked_cons trunked, refused]
          simp [trunked]

/-- Removing a VLAN that does not exist. -/
theorem removeVlan_missing
    {env : Env}
    {dev : Dev}
    (missing : vlanIsExisting env dev vid = false)
    (xdk : Xdk)
    (bundles : List (Bundle count)) :
    removeVlan env xdk vid bundles dev =
      if ∀ bundle ∈ bundles, bundle.isTrunked vid = false then (none, dev)
      else (some .EPERM, dev) := by
  have untouched : vlanRemove env xdk dev vid = (none, dev) := by
    unfold vlanRemove
    rw [missing]
    rfl
  rw [removeVlan, removeTrunked_missing missing]
  by_cases none' : ∀ bundle ∈ bundles, bundle.isTrunked vid = false
  · rw [if_pos none']
    simp [vlanIsMembershipEmpty, missing, untouched]
  · rw [if_neg none']

/-- A VLAN that loses all of its members is removed. -/
theorem removeVlan_emptied
    {env : Env}
    {dev after : Dev}
    {bundles : List (Bundle count)}
    (existing : vlanIsExisting env dev vid = true)
    (once : ((dev.table vid).members.map (·.intfId)).Nodup)
    (member : ∀ intfId, vlanPortIsMember env dev vid intfId = true →
      ∃ bundle ∈ bundles, bundle.isTrunked vid = true ∧ bundle.intfId = intfId)
    (loop : removeTrunked env xdk vid bundles dev = (none, after))
    (accepted : removeTrunked env xdk.accepting vid bundles dev = (none, after)) :
    vlanIsExisting env after vid = true ∧
      removeVlan env xdk vid bundles dev = vlanRemove env xdk after vid := by
  have dwindles := @removeTrunked_dwindles count env xdk dev vid existing once bundles
  have gone := (@removeTrunked_accepted count env xdk.accepting dev vid existing once
    xdk.accepting_accepts bundles).2
  rw [loop] at dwindles
  rw [accepted] at gone
  have stillExisting : vlanIsExisting env after vid = true := dwindles.existing.trans existing
  refine ⟨stillExisting, ?_⟩
  have empty : (after.table vid).members = [] := by
    by_contra some'
    obtain ⟨entry, isEntry⟩ := List.exists_mem_of_ne_nil _ some'
    have isMember : vlanPortIsMember env after vid entry.intfId = true :=
      (vlanPortIsMember_iff stillExisting).mpr (List.mem_map_of_mem isEntry)
    obtain ⟨bundle, listed, trunked, named⟩ := member _ (dwindles.member _ isMember)
    have left := gone bundle listed trunked
    rw [named, isMember] at left
    cases left
  rw [removeVlan, loop]
  simp [vlanIsMembershipEmpty, stillExisting, empty]

/-- The end of a removal does the same to both. -/
theorem removeVlan_alike
    {env : Env}
    {first second : Dev}
    {bundles : List (Bundle count)}
    (accepts : accepting.Accepts)
    (code : (removeTrunked env accepting vid bundles first).1 =
      (removeTrunked env accepting vid bundles second).1)
    (alike : Alike (removeTrunked env accepting vid bundles first).2
      (removeTrunked env accepting vid bundles second).2) :
    (removeVlan env accepting vid bundles first).1 =
        (removeVlan env accepting vid bundles second).1 ∧
      Alike (removeVlan env accepting vid bundles first).2
        (removeVlan env accepting vid bundles second).2 := by
  unfold removeVlan
  generalize removeTrunked env accepting vid bundles first = own at code alike ⊢
  generalize removeTrunked env accepting vid bundles second = peer at code alike ⊢
  obtain ⟨errno, own⟩ := own
  obtain ⟨otherErrno, peer⟩ := peer
  simp only at code alike
  subst code
  cases errno with
  | some errno => exact ⟨rfl, alike⟩
  | none =>
      have empty : vlanIsMembershipEmpty env own vid = vlanIsMembershipEmpty env peer vid := by
        rw [vlanIsMembershipEmpty, alike.existing vid, alike.table, vlanIsMembershipEmpty]
      simp only
      rw [empty]
      split
      · exact alike.remove env accepts accepts vid
      · exact ⟨rfl, alike⟩

/-- `ops_xp_vlan_remove` of an existing VLAN takes it out of the table, whatever
the hardware does. -/
theorem vlanRemove_existing
    {env : Env}
    {dev : Dev}
    (existing : vlanIsExisting env dev vid = true)
    (xdk : Xdk) :
    (vlanRemove env xdk dev vid).2.table =
        Function.update dev.table vid { isExisting := false, members := [] } ∧
      (vlanRemove env xdk dev vid).2.ifIdToName = dev.ifIdToName ∧
      (vlanRemove env xdk dev vid).2.hw =
        (if xdk.succeeds dev.calls then
          { dev.hw with vlans := Function.update dev.hw.vlans vid none } else dev.hw) := by
  unfold vlanRemove
  rw [existing]
  cases succeeds : xdk.succeeds dev.calls with
  | false =>
      simp only [Bool.not_true, Bool.false_eq_true, if_false]
      rw [call_of_fails (by exact succeeds)]
      exact ⟨rfl, rfl, rfl⟩
  | true =>
      simp only [Bool.not_true, Bool.false_eq_true, if_false]
      rw [call_of_succeeds (by exact succeeds)]
      exact ⟨rfl, rfl, rfl⟩

theorem vlanIsExisting_vlanRemove
    {env : Env}
    {dev : Dev}
    (existing : vlanIsExisting env dev vid = true)
    (xdk : Xdk) :
    vlanIsExisting env (vlanRemove env xdk dev vid).2 vid = false := by
  rw [vlanIsExisting, (vlanRemove_existing existing xdk).1, Function.update_self]
  exact Bool.and_false _

/-- A member of a coherent VLAN is the interface of a bundle that the loop meets. -/
theorem VlanCoherent.bundle_of_member
    {env : Env}
    (coherent : VlanCoherent env ofproto vid)
    (existing : vlanIsExisting env ofproto.dev vid = true)
    (order : Traversal (Bundle count)) :
    ∀ intfId, vlanPortIsMember env ofproto.dev vid intfId = true →
      ∃ bundle ∈ order.visit ofproto.bundles, bundle.isTrunked vid = true ∧
        bundle.intfId = intfId := by
  intro intfId isMember
  obtain ⟨bundle, listed, rest⟩ := (coherent.member existing intfId).mp isMember
  exact ⟨bundle, order.mem_visit.mpr listed, rest⟩

/-- The loop has nothing to do. -/
theorem removeTrunked_untrunked
    {env : Env}
    {dev : Dev}
    {bundles : List (Bundle count)}
    (untrunked : ∀ bundle ∈ bundles, bundle.isTrunked vid = false)
    (xdk : Xdk) :
    removeTrunked env xdk vid bundles dev = (none, dev) := by
  induction bundles with
  | nil => rfl
  | cons bundle bundles inductionHypothesis =>
      rw [removeTrunked_cons_of_not (untrunked bundle List.mem_cons_self)]
      exact inductionHypothesis fun other member =>
        untrunked other (List.mem_cons_of_mem _ member)

/-- A removal of an existing VLAN without bundles can be repeated if and only if
the hardware destroyed the VLAN. -/
theorem retried_untrunked_iff
    (accepts : accepting.Accepts)
    (notDefault : vid ≠ defaultVlanId)
    (coherent : VlanCoherent bridge.toEnv ofproto vid)
    (existing : vlanIsExisting bridge.toEnv ofproto.dev vid = true)
    (untrunked : ∀ bundle ∈ order.visit ofproto.bundles, bundle.isTrunked vid = false) :
    Retried bridge xdk accepting order ofproto vid false ↔
      xdk.succeeds ofproto.dev.calls = true := by
  have member := coherent.bundle_of_member existing order
  have removed : ∀ x : Xdk, removeVlan bridge.toEnv x vid (order.visit ofproto.bundles)
      ofproto.dev = vlanRemove bridge.toEnv x ofproto.dev vid := fun x =>
    (removeVlan_emptied existing coherent.agree.once member
      (removeTrunked_untrunked untrunked x) (removeTrunked_untrunked untrunked _)).2
  obtain ⟨table, names, hw⟩ := vlanRemove_existing existing xdk
  obtain ⟨cleanTable, cleanNames, cleanHw⟩ := vlanRemove_existing existing accepting
  rw [accepts, if_pos rfl] at cleanHw
  have missing := vlanIsExisting_vlanRemove existing xdk
  unfold Retried
  simp only [setVlan_remove notDefault, removed]
  rw [removeVlan_missing missing, if_pos untrunked]
  cases succeeds : xdk.succeeds ofproto.dev.calls with
  | true =>
      rw [succeeds, if_pos rfl] at hw
      refine iff_of_true ⟨rfl, ⟨?_, ?_, ?_⟩, rfl, rfl, rfl, rfl⟩ rfl
      · exact table.trans cleanTable.symm
      · exact names.trans cleanNames.symm
      · exact hw.trans cleanHw.symm
  | false =>
      rw [succeeds, if_neg Bool.false_ne_true] at hw
      refine iff_of_false ?_ Bool.false_ne_true
      rintro ⟨_, same⟩
      have sameHw := same.dev.hw
      simp only at sameHw
      rw [hw, cleanHw] at sameHw
      have gone : ofproto.dev.hw.vlans vid = none := by
        rw [sameHw]
        exact Function.update_self ..
      have present := coherent.agree.exist
      rw [(Bool.and_eq_true_iff.mp existing).2, gone] at present
      cases present

/-- A removal whose loop gets through returns 0 when every call is accepted. -/
theorem removeVlan_accepted
    {env : Env}
    {dev : Dev}
    {bundles : List (Bundle count)}
    (accepts : accepting.Accepts)
    (loop : (removeTrunked env accepting vid bundles dev).1 = none) :
    (removeVlan env accepting vid bundles dev).1 = none := by
  unfold removeVlan
  generalize removeTrunked env accepting vid bundles dev = result at loop ⊢
  obtain ⟨errno, after⟩ := result
  simp only at loop
  subst loop
  simp only
  split
  · unfold vlanRemove
    split
    · rfl
    · simp only [accepts.call]
      rfl
  · rfl

/-- Nothing happens to a VLAN that does not exist: the removal is refused where a
bundle has it in its trunks. -/
theorem retried_missing_iff
    (notDefault : vid ≠ defaultVlanId)
    (missing : vlanIsExisting bridge.toEnv ofproto.dev vid = false) :
    Retried bridge xdk accepting order ofproto vid false ↔
      ∀ bundle ∈ order.visit ofproto.bundles, bundle.isTrunked vid = false := by
  unfold Retried
  simp only [setVlan_remove notDefault, removeVlan_missing missing]
  by_cases untrunked : ∀ bundle ∈ order.visit ofproto.bundles, bundle.isTrunked vid = false
  · rw [if_pos untrunked, removeVlan_missing missing, if_pos untrunked]
    exact iff_of_true ⟨rfl, Alike.refl _, rfl, rfl, rfl, rfl⟩ untrunked
  · rw [if_neg untrunked, removeVlan_missing missing, if_neg untrunked]
    refine iff_of_false ?_ untrunked
    rintro ⟨code, _⟩
    cases code

/-- A loop that gets through takes the VLAN away from the bundles that have it in
their trunks. -/
theorem not_retried_of_completed
    (notDefault : vid ≠ defaultVlanId)
    (coherent : VlanCoherent bridge.toEnv ofproto vid)
    (existing : vlanIsExisting bridge.toEnv ofproto.dev vid = true)
    (trunked : ¬ ∀ bundle ∈ order.visit ofproto.bundles, bundle.isTrunked vid = false)
    (enough : xdk.SucceedsFor ofproto.dev.calls (leaveAllCalls bridge.toEnv
      (vlanPortIsMember bridge.toEnv ofproto.dev vid)
      (trunkedIntfs vid (order.visit ofproto.bundles)))) :
    ¬ Retried bridge xdk accepting order ofproto vid false := by
  have once := coherent.agree.once
  have code := (@removeTrunked_accepted count bridge.toEnv xdk.accepting ofproto.dev vid
    existing once xdk.accepting_accepts (order.visit ofproto.bundles)).1
  have accepted : removeTrunked bridge.toEnv xdk.accepting vid
      (order.visit ofproto.bundles) ofproto.dev = (none, _) := Prod.ext code rfl
  have loop := (removeTrunked_completes existing once enough).1.trans accepted
  obtain ⟨stillExisting, removed⟩ := removeVlan_emptied existing once
    (coherent.bundle_of_member existing order) loop accepted
  have missing := vlanIsExisting_vlanRemove stillExisting xdk
  rw [← removed] at missing
  unfold Retried
  simp only [setVlan_remove notDefault]
  rintro ⟨code, _⟩
  rw [removeVlan_missing missing, if_neg trunked] at code
  cases code

/-- A loop that stopped is resumed by the next call. -/
theorem retried_of_stopped
    (accepts : accepting.Accepts)
    (notDefault : vid ≠ defaultVlanId)
    (coherent : VlanCoherent bridge.toEnv ofproto vid)
    (existing : vlanIsExisting bridge.toEnv ofproto.dev vid = true)
    (refused : ¬ xdk.SucceedsFor ofproto.dev.calls (leaveAllCalls bridge.toEnv
      (vlanPortIsMember bridge.toEnv ofproto.dev vid)
      (trunkedIntfs vid (order.visit ofproto.bundles)))) :
    Retried bridge xdk accepting order ofproto vid false := by
  have once := coherent.agree.once
  obtain ⟨errno, between, stopped⟩ := removeTrunked_stops existing once refused
  have first : removeVlan bridge.toEnv xdk vid (order.visit ofproto.bundles)
      ofproto.dev = (some errno, between) := by
    rw [removeVlan, stopped]
  have dwindles := @removeTrunked_dwindles count bridge.toEnv xdk ofproto.dev vid existing
    once (order.visit ofproto.bundles)
  rw [stopped] at dwindles
  have again := (@removeTrunked_accepted count bridge.toEnv accepting between vid
    (dwindles.existing.trans existing) dwindles.once accepts
    (order.visit ofproto.bundles)).1
  have clean := (@removeTrunked_accepted count bridge.toEnv accepting ofproto.dev vid
    existing once accepts (order.visit ofproto.bundles)).1
  obtain ⟨code, alike⟩ := removeVlan_alike accepts (again.trans clean.symm)
    (removeTrunked_resumes existing once accepts stopped)
  unfold Retried
  simp only [setVlan_remove notDefault]
  rw [first]
  exact ⟨code.trans (removeVlan_accepted accepts clean), alike, rfl, rfl, rfl, rfl⟩

theorem retried_remove_iff
    (accepts : accepting.Accepts)
    (notDefault : vid ≠ defaultVlanId)
    (coherent : VlanCoherent bridge.toEnv ofproto vid) :
    Retried bridge xdk accepting order ofproto vid false ↔
      Retryable bridge xdk order ofproto vid false := by
  have visited : (∀ bundle ∈ order.visit ofproto.bundles, bundle.isTrunked vid = false) ↔
      ∀ bundle ∈ ofproto.bundles, bundle.isTrunked vid = false := by
    simp only [order.mem_visit]
  unfold Retryable
  cases existing : vlanIsExisting bridge.toEnv ofproto.dev vid with
  | false =>
      rw [retried_missing_iff notDefault existing, visited]
      simp
  | true =>
      by_cases enough : xdk.SucceedsFor ofproto.dev.calls (leaveAllCalls bridge.toEnv
          (vlanPortIsMember bridge.toEnv ofproto.dev vid)
          (trunkedIntfs vid (order.visit ofproto.bundles)))
      · by_cases untrunked : ∀ bundle ∈ order.visit ofproto.bundles,
            bundle.isTrunked vid = false
        · rw [retried_untrunked_iff accepts notDefault coherent existing untrunked]
          constructor
          · intro succeeds
            exact .inr ⟨visited.mp untrunked, fun _ => succeeds⟩
          · rintro (⟨_, refused⟩ | ⟨_, succeeds⟩)
            · exact absurd enough refused
            · exact succeeds rfl
        · refine iff_of_false (not_retried_of_completed notDefault coherent existing untrunked
            enough) ?_
          rintro (⟨_, refused⟩ | ⟨all, _⟩)
          · exact refused enough
          · exact untrunked (visited.mpr all)
      · exact iff_of_true (retried_of_stopped accepts notDefault coherent existing enough)
          (.inl ⟨rfl, enough⟩)

/-- A call of `ofproto_xpliant_set_vlan` on a coherent VLAN other than the default
one can be repeated if and only if it stopped before the VLAN came into being or
ceased to be, or had no bundle to take out of the VLAN. -/
theorem retried_iff_retryable
    (accepts : accepting.Accepts)
    (notDefault : vid ≠ defaultVlanId)
    (coherent : VlanCoherent bridge.toEnv ofproto vid)
    (add : Bool) :
    Retried bridge xdk accepting order ofproto vid add ↔
      Retryable bridge xdk order ofproto vid add := by
  cases add with
  | true => exact retried_add_iff accepts notDefault
  | false => exact retried_remove_iff accepts notDefault coherent

end Setting

/-! ## A member that is refused -/

/-- A bundle of the first port with VLAN 10 in its trunks. -/
def trunkedBundle : Bundle 4096 where
  id := 0
  aux := 1
  name := "1"
  intfId := 7
  isLag := false
  ports := [1]
  portsUpdated := false
  vlanMode := .trunk
  vlan := 1
  trunks := some (BitVec.twoPow 4096 10)

/-- A bridge with that bundle, on which only the default VLAN exists. -/
def trunkedOfproto : Ofproto 4096 :=
  { sampleOfproto (sampleBridge 7 8) with bundles := [trunkedBundle] }

/-- The XDK refuses one call. -/
def refusingOnce (call : Nat) : Xdk := ⟨(· ≠ call), fun _ => 100⟩

theorem vlanCoherent_trunkedOfproto : VlanCoherent sampleEnv trunkedOfproto 10 where
  agree := ⟨rfl, List.Perm.refl _, List.nodup_nil⟩
  member present := absurd present (by decide)

theorem retried_trunkedOfproto :
    Retried (sampleBridge 7 8) (refusingOnce 0) (sampleXdk 100) .id trunkedOfproto 10 true :=
  (@retried_iff_retryable 4096 (sampleBridge 7 8) (refusingOnce 0) (sampleXdk 100) .id
    trunkedOfproto 10 (fun _ => rfl) (by decide) vlanCoherent_trunkedOfproto true).mpr
    ⟨by decide, by decide, fun completes => absurd completes.1 (by decide)⟩

/-- The hardware refuses the bundle as a member of the new VLAN.  The repeated
call finds that the VLAN exists. -/
theorem not_retried_trunkedOfproto :
    VlanCoherent sampleEnv trunkedOfproto 10 ∧
      ¬ Retried (sampleBridge 7 8) (refusingOnce 4) (sampleXdk 100) .id trunkedOfproto 10
        true := by
  refine ⟨vlanCoherent_trunkedOfproto, ?_⟩
  rintro ⟨code, _⟩
  have refused : (setVlan (sampleBridge 7 8) (sampleXdk 100) .id
      (setVlan (sampleBridge 7 8) (refusingOnce 4) .id trunkedOfproto 10 true).2 10 true).1 =
        some .EEXIST := by
    decide +kernel
  rw [refused] at code
  cases code

end Bundles
end XpliantSwitchd
