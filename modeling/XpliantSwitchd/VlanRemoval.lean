import XpliantSwitchd.Bundles.Defs
import XpliantSwitchd.MacLearning.Tracked
import XpliantSwitchd.Vlan.Hardware

/-!
# Learning during the removal of a VLAN

Packets are learned by callbacks of the XDK while the switch daemon adds and
removes VLANs.  This module splits `ops_xp_mac_learning_on_learning` and
`ofproto_xpliant_set_vlan` into steps that threads take in any order.  A step
is a critical section of `ml->rwlock`, or it reads or writes `is_existing` at
most once.  A learner keeps the lock from the check of the VLAN to the
insertion; the lock of the VLAN manager that it takes for the check excludes
nobody, because `ofproto_xpliant_set_vlan` does not take it.  The XDK calls
succeed, and those that only write to VLANs of the hardware are left out.
-/

namespace XpliantSwitchd
namespace VlanRemoval

open Vlans MacLearning Bundles

variable {count : Nat}

/-- Where a learner is in `ops_xp_mac_learning_on_learning`: before it gets the
lock, before `ops_xp_vlan_is_existing`, before `ops_xp_vlan_is_flooding` and
before the rest of `ops_xp_mac_learning_learn`. -/
inductive Learner
  | idle
  | locking (data : LearningData)
  | checking (data : LearningData)
  | flooding (data : LearningData)
  | learning (data : LearningData) (isLearning : Bool)

/-- Where a caller is in `ofproto_xpliant_set_vlan`, with the bundles that its
loop has not visited yet. -/
inductive Caller (count : Nat)
  | idle
  /-- `ops_xp_vlan_create`, before the check and before the write. -/
  | creating (vid : Nat) (bundles : List (Bundle count))
  | created (vid : Nat) (bundles : List (Bundle count))
  /-- The loop that adds members, and the steps of `ops_xp_vlan_member_add`. -/
  | adding (vid : Nat) (bundles : List (Bundle count))
  | joining (vid : Nat) (bundle : Bundle count) (bundles : List (Bundle count))
  | joined (vid : Nat) (bundle : Bundle count) (bundles : List (Bundle count))
  /-- The loop that removes members, and the steps of
  `ops_xp_vlan_member_remove`. -/
  | removing (vid : Nat) (bundles : List (Bundle count))
  | leaving (vid : Nat) (bundle : Bundle count) (bundles : List (Bundle count))
  | locating (vid : Nat) (bundle : Bundle count) (bundles : List (Bundle count))
  | unlinking (vid : Nat) (bundle : Bundle count) (bundles : List (Bundle count))
  | flushingIntf (vid : Nat) (bundle : Bundle count) (bundles : List (Bundle count))
  /-- `ops_xp_vlan_is_membership_empty`. -/
  | emptying (vid : Nat)
  /-- `ops_xp_vlan_remove`, before the check and before the write. -/
  | checkingRemove (vid : Nat)
  | clearing (vid : Nat)
  /-- `ops_xp_mac_learning_on_vlan_removed`. -/
  | flushing (vid : Nat)

/-- The shared state and the threads.  `holder` is the learner that has
`ml->rwlock`. -/
structure System (count : Nat) where
  table : Nat → Vlan
  ml : Ml
  holder : Option Nat
  learners : Nat → Learner
  callers : Nat → Caller count

/-- What the two parts of the plugin take from outside. -/
structure Env where
  vlans : Vlans.Env
  learning : MacLearning.Env

/-- `ops_xp_vlan_is_existing`. -/
def isExisting (env : Env) (system : System count) (vid : Nat) : Bool :=
  isVlanIdValid env.vlans vid && (system.table vid).isExisting

/-- `ops_xp_vlan_port_is_member` and `vlan_member_lookup`. -/
def isMember (env : Env) (system : System count) (vid intfId : Nat) : Bool :=
  isExisting env system vid &&
    (system.table vid).members.any (·.intfId == intfId)

/-- A learner moves on. -/
def System.setLearner (system : System count) (id : Nat) (learner : Learner) :
    System count :=
  { system with learners := Function.update system.learners id learner }

/-- A caller moves on. -/
def System.setCaller (system : System count) (id : Nat) (caller : Caller count) :
    System count :=
  { system with callers := Function.update system.callers id caller }

/-- Write an entry of the VLAN table. -/
def System.setVlan (system : System count) (vid : Nat) (vlan : Vlan) :
    System count :=
  { system with table := Function.update system.table vid vlan }

/-- The answers of the XDK, with what the VLAN manager told the learner. -/
def withLearning (xdk : Outcome) (isLearning : Bool) : Outcome :=
  { xdk with isLearning := fun _ => isLearning }

/-- The next step of a learner.  `isFwd` is what `xpsVlanGetUnknownSaCmd`
answers. -/
def learnerStep (env : Env) (system : System count) (id : Nat) (isFwd : Bool)
    (xdk : Outcome) : System count :=
  match system.learners id with
  | .idle => system
  | .locking data =>
      if system.holder.isNone then
        { system with holder := some id }.setLearner id (.checking data)
      else system
  | .checking data =>
      if isExisting env system data.fdb.vlanId then
        system.setLearner id (.flooding data)
      else system.setLearner id (.learning data false)
  | .flooding data =>
      let isFlooding := isExisting env system data.fdb.vlanId && isFwd
      system.setLearner id (.learning data !isFlooding)
  | .learning data isLearning =>
      { system with
        ml := (learn env.learning (withLearning xdk isLearning) system.ml data).2
        holder := none }.setLearner id .idle

/-- The next step of a caller. -/
def callerStep (env : Env) (system : System count) (id : Nat) (xdk : Outcome) :
    System count :=
  match system.callers id with
  | .idle => system
  | .creating vid bundles =>
      if !isVlanIdValid env.vlans vid then system.setCaller id .idle
      else if (system.table vid).isExisting then system.setCaller id .idle
      else system.setCaller id (.created vid bundles)
  | .created vid bundles =>
      (system.setVlan vid { system.table vid with isExisting := true }).setCaller id
        (.adding vid bundles)
  | .adding _ [] => system.setCaller id .idle
  | .adding vid (bundle :: bundles) =>
      if bundle.isTrunked vid then
        if isExisting env system vid then
          system.setCaller id (.joining vid bundle bundles)
        else system.setCaller id .idle
      else system.setCaller id (.adding vid bundles)
  | .joining vid bundle bundles =>
      if isMember env system vid bundle.intfId then
        system.setCaller id (.adding vid bundles)
      else system.setCaller id (.joined vid bundle bundles)
  | .joined vid bundle bundles =>
      let vlan := system.table vid
      let members := ⟨bundle.intfId, bundle.encapType vid⟩ :: vlan.members
      (system.setVlan vid { vlan with members := members }).setCaller id
        (.adding vid bundles)
  | .removing vid [] =>
      if vid ≠ defaultVlanId then system.setCaller id (.emptying vid)
      else system.setCaller id (.flushing vid)
  | .removing vid (bundle :: bundles) =>
      if bundle.isTrunked vid then
        if isExisting env system vid then
          system.setCaller id (.leaving vid bundle bundles)
        else system.setCaller id .idle
      else system.setCaller id (.removing vid bundles)
  | .leaving vid bundle bundles =>
      if isMember env system vid bundle.intfId then
        system.setCaller id (.locating vid bundle bundles)
      else system.setCaller id (.removing vid bundles)
  | .locating vid bundle bundles =>
      if isMember env system vid bundle.intfId then
        system.setCaller id (.unlinking vid bundle bundles)
      else system.setCaller id .idle
  | .unlinking vid bundle bundles =>
      let vlan := system.table vid
      let members := vlan.members.eraseP (·.intfId == bundle.intfId)
      (system.setVlan vid { vlan with members := members }).setCaller id
        (.flushingIntf vid bundle bundles)
  | .flushingIntf vid bundle bundles =>
      if system.holder.isNone then
        let ml := flushVlanIntf env.learning xdk system.ml vid bundle.intfId
        { system with ml := ml }.setCaller id (.removing vid bundles)
      else system
  | .emptying vid =>
      if isExisting env system vid && !(system.table vid).members.isEmpty then
        system.setCaller id (.flushing vid)
      else system.setCaller id (.checkingRemove vid)
  | .checkingRemove vid =>
      if isExisting env system vid then system.setCaller id (.clearing vid)
      else system.setCaller id (.flushing vid)
  | .clearing vid =>
      (system.setVlan vid { isExisting := false, members := [] }).setCaller id
        (.flushing vid)
  | .flushing vid =>
      if system.holder.isNone then
        let ml := processVlanRemoved env.learning xdk system.ml vid
        { system with ml := ml }.setCaller id .idle
      else system

/-- The first step of `ofproto_xpliant_set_vlan`. -/
def startCall (vid : Nat) (add : Bool) (bundles : List (Bundle count)) :
    Caller count :=
  if add then
    if vid ≠ defaultVlanId then .creating vid bundles else .adding vid bundles
  else .removing vid bundles

/-- A packet arrives at a learner, a learner takes a step, a caller calls
`ofproto_xpliant_set_vlan` on an ofproto with some bundles, or a caller takes a
step. -/
inductive Event (count : Nat)
  | packet (learner ingressVif : Nat) (reasonCode : ReasonCode) (bdId : Nat)
      (srcMacAddr : MacAddr) (bufSize : Nat)
  | learner (id : Nat) (isFwd : Bool) (xdk : Outcome)
  | setVlan (caller vid : Nat) (add : Bool) (bundles : List (Bundle count))
  | caller (id : Nat) (xdk : Outcome)

/-- A step of one of the threads.  A thread that cannot move stays where it
is. -/
def step (env : Env) (system : System count) : Event count → System count
  | .packet learner ingressVif reasonCode bdId srcMacAddr bufSize =>
      match system.learners learner with
      | .idle =>
          if bufSize < ethHdrSize then system
          else system.setLearner learner (.locking
            (learningData env.learning ingressVif reasonCode bdId srcMacAddr))
      | _ => system
  | .learner id isFwd xdk => learnerStep env system id isFwd xdk
  | .setVlan caller vid add bundles =>
      match system.callers caller with
      | .idle => system.setCaller caller (startCall vid add bundles)
      | _ => system
  | .caller id xdk => callerStep env system id xdk

/-! ## What the sections leave in the software table -/

section Sections

variable {env : MacLearning.Env} {xdk : Outcome} {ml : Ml} {entries : List MacEntry}
  {e : MacEntry}

/-- Expiring removes the indices that it is given and nothing comes in. -/
theorem mem_expireAll
    (member : e ∈ (expireAll env xdk ml entries).table) :
    e ∈ ml.table ∧ ∀ expired ∈ entries,
      xdk.removeEntryByIndex expired.index = true → e.index ≠ expired.index := by
  unfold expireAll at member
  induction entries generalizing ml with
  | nil => exact ⟨member, fun _ absent => by cases absent⟩
  | cons first entries inductionHypothesis =>
      obtain ⟨kept, apart⟩ := inductionHypothesis member
      change e ∈ (expire env xdk ml first).2.table at kept
      cases answer : xdk.removeEntryByIndex first.index with
      | false =>
          rw [expire_of_refused answer] at kept
          refine ⟨kept, ?_⟩
          intro expired inEntries removed
          rcases List.mem_cons.mp inEntries with rfl | later
          · exact absurd (removed.symm.trans answer) (by decide)
          · exact apart expired later removed
      | true =>
          rw [expire_of_removed answer, mlearnActionAdd_table] at kept
          obtain ⟨older, different⟩ := KeyedList.mem_remove.mp kept
          refine ⟨older, ?_⟩
          intro expired inEntries removed
          rcases List.mem_cons.mp inEntries with rfl | later
          · exact different
          · exact apart expired later removed

theorem mem_flushWhere {test : FdbEntry → Bool}
    (member : e ∈ (flushWhere env xdk ml test).table) : e ∈ ml.table :=
  (mem_expireAll member).1

/-- A flush leaves no entry that satisfies its test. -/
theorem flushWhere_test_eq_false {test : FdbEntry → Bool}
    (removes : ∀ index, xdk.removeEntryByIndex index = true)
    (member : e ∈ (flushWhere env xdk ml test).table) : test e.fdb = false := by
  obtain ⟨older, apart⟩ := mem_expireAll member
  by_contra satisfied
  have visited : e ∈ (xdk.order.visit ml.table).filter fun e => test e.fdb :=
    List.mem_filter.mpr ⟨xdk.order.mem_visit.mpr older, by simpa using satisfied⟩
  exact apart e visited (removes _) rfl

/-- An insertion brings in the VLAN of its entry. -/
theorem mem_insert {entry : FdbEntry}
    (member : e ∈ (MacLearning.insert env xdk ml entry).2.table) :
    (∃ old ∈ ml.table, old.fdb.vlanId = e.fdb.vlanId) ∨
      e.fdb.vlanId = entry.vlanId := by
  have unchanged : e ∈ ml.table →
      (∃ old ∈ ml.table, old.fdb.vlanId = e.fdb.vlanId) ∨
        e.fdb.vlanId = entry.vlanId :=
    fun older => .inl ⟨e, older, rfl⟩
  unfold MacLearning.insert at member
  split at member
  · exact unchanged member
  · unfold fdbAddEntry at member
    cases added : xdk.addEntry with
    | none =>
        rw [added] at member
        exact unchanged member
    | some indices =>
        rw [added] at member
        simp only at member
        split at member
        · rw [insertEntry, mlearnActionAdd_table] at member
          rcases List.mem_cons.mp member with rfl | older
          · exact .inr rfl
          · exact unchanged older
        · split at member
          · rw [insertEntry, mlearnActionAdd_table] at member
            rcases List.mem_cons.mp member with rfl | older
            · exact .inr rfl
            · rcases KeyedList.mem_rewrite.mp older with
                ⟨old, oldMember, _, rfl⟩ | ⟨oldMember, _⟩
              · exact .inl ⟨old, oldMember, rfl⟩
              · exact unchanged oldMember
          · exact unchanged member

/-- A move brings in no VLAN. -/
theorem mem_learnMove {entry : FdbEntry}
    (writes : xdk.writeEntry = true)
    (member : e ∈ (learnMove env xdk ml entry).2.table) :
    ∃ old ∈ ml.table, old.fdb.vlanId = e.fdb.vlanId := by
  unfold learnMove at member
  split at member
  · exact ⟨e, member, rfl⟩
  · exact ⟨e, member, rfl⟩
  · split at member
    · exact ⟨e, member, rfl⟩
    · rename_i updE search
      simp only [fdbWriteEntry, writes, if_true, mlearnActionAdd_table] at member
      rcases KeyedList.mem_rewrite.mp member with
        ⟨old, oldMember, _, rfl⟩ | ⟨oldMember, _⟩
      · exact ⟨updE, (lookup_some search).1, rfl⟩
      · exact ⟨e, oldMember, rfl⟩

/-- Learning brings in the VLAN of its data, when the VLAN was found to be
learning. -/
theorem mem_learn {data : LearningData}
    (writes : xdk.writeEntry = true)
    (member : e ∈ (learn env xdk ml data).2.table) :
    (∃ old ∈ ml.table, old.fdb.vlanId = e.fdb.vlanId) ∨
      (e.fdb.vlanId = data.fdb.vlanId ∧ xdk.isLearning data.fdb.vlanId = true) := by
  unfold learn at member
  split at member
  · exact .inl ⟨e, member, rfl⟩
  · rename_i admitted
    have isLearning : xdk.isLearning data.fdb.vlanId = true := by
      cases answer : xdk.isLearning data.fdb.vlanId with
      | false => simp [mayLearn, answer] at admitted
      | true => rfl
    have learnedNew : e ∈ (learnNew env xdk ml
        { data.fdb with pktCmd := .fwd, isControl := false }).2.table →
        (∃ old ∈ ml.table, old.fdb.vlanId = e.fdb.vlanId) ∨
          (e.fdb.vlanId = data.fdb.vlanId ∧
            xdk.isLearning data.fdb.vlanId = true) := by
      intro inNew
      unfold learnNew at inNew
      split at inNew
      · exact (mem_insert inNew).imp id fun same => ⟨same, isLearning⟩
      · exact .inl ⟨e, inNew, rfl⟩
      · exact .inl ⟨e, inNew, rfl⟩
    simp only at member
    split at member
    · exact learnedNew member
    · exact learnedNew member
    · exact .inl (mem_learnMove writes member)
    · exact .inl ⟨e, member, rfl⟩

end Sections

/-! ## What a step of a caller can do -/

/-- The moves of a caller: it waits for the lock; it moves on, with a change of
members at most; it writes `is_existing`; or it flushes entries while no learner
has the lock. -/
inductive CallerMove (env : Env) (xdk : Outcome) (system : System count) (id : Nat) :
    System count → Prop
  | waits : CallerMove env xdk system id system
  | quiet (table : Nat → Vlan) (caller : Caller count) :
      (∀ vid, system.callers id ≠ .flushing vid) →
      (∀ vid, (table vid).isExisting = (system.table vid).isExisting) →
      CallerMove env xdk system id ({ system with table := table }.setCaller id caller)
  | creates (vid : Nat) (members : List Member) (caller : Caller count) :
      (∀ vid, system.callers id ≠ .flushing vid) →
      CallerMove env xdk system id
        ((system.setVlan vid ⟨true, members⟩).setCaller id caller)
  | clears (vid : Nat) (members : List Member) :
      (∀ vid, system.callers id ≠ .flushing vid) →
      CallerMove env xdk system id
        ((system.setVlan vid ⟨false, members⟩).setCaller id (.flushing vid))
  | flushesIntf (vid intfId : Nat) (caller : Caller count) :
      (∀ vid, system.callers id ≠ .flushing vid) →
      CallerMove env xdk system id
        ({ system with ml :=
          flushVlanIntf env.learning xdk system.ml vid intfId }.setCaller id caller)
  | flushes (vid : Nat) :
      system.callers id = .flushing vid → system.holder = none →
      CallerMove env xdk system id
        ({ system with ml :=
          processVlanRemoved env.learning xdk system.ml vid }.setCaller id .idle)

section Moves

variable {env : Env} {xdk : Outcome} {system : System count} {id : Nat}

theorem CallerMove.moves
    (notFlushing : ∀ vid, system.callers id ≠ .flushing vid)
    (caller : Caller count) :
    CallerMove env xdk system id (system.setCaller id caller) :=
  .quiet system.table caller notFlushing fun _ => rfl

theorem CallerMove.changesMembers
    (notFlushing : ∀ vid, system.callers id ≠ .flushing vid)
    (vid : Nat)
    (members : List Member)
    (caller : Caller count) :
    CallerMove env xdk system id
      ((system.setVlan vid { system.table vid with members := members }).setCaller id
        caller) := by
  refine .quiet _ caller notFlushing ?_
  intro other
  by_cases same : other = vid
  · subst same
    rw [Function.update_self]
  · rw [Function.update_of_ne same]

/-- Every step of a caller is one of the moves. -/
theorem callerMove_callerStep (env : Env) (xdk : Outcome) (system : System count)
    (id : Nat) : CallerMove env xdk system id (callerStep env system id xdk) := by
  unfold callerStep
  have notFlushing : ∀ caller : Caller count, system.callers id = caller →
      (∀ vid, caller ≠ .flushing vid) → ∀ vid, system.callers id ≠ .flushing vid := by
    rintro caller rfl apart
    exact apart
  cases place : system.callers id with
  | idle => exact .waits
  | creating vid bundles =>
      have apart := notFlushing _ place (by rintro _ ⟨⟩)
      simp only
      split
      · exact .moves apart _
      · split
        · exact .moves apart _
        · exact .moves apart _
  | created vid bundles =>
      exact .creates vid _ _ (notFlushing _ place (by rintro _ ⟨⟩))
  | adding vid bundles =>
      have apart := notFlushing _ place (by rintro _ ⟨⟩)
      cases bundles with
      | nil => exact .moves apart _
      | cons bundle bundles =>
          simp only
          split
          · split
            · exact .moves apart _
            · exact .moves apart _
          · exact .moves apart _
  | joining vid bundle bundles =>
      have apart := notFlushing _ place (by rintro _ ⟨⟩)
      simp only
      split
      · exact .moves apart _
      · exact .moves apart _
  | joined vid bundle bundles =>
      exact .changesMembers (notFlushing _ place (by rintro _ ⟨⟩)) vid _ _
  | removing vid bundles =>
      have apart := notFlushing _ place (by rintro _ ⟨⟩)
      cases bundles with
      | nil =>
          simp only
          split
          · exact .moves apart _
          · exact .moves apart _
      | cons bundle bundles =>
          simp only
          split
          · split
            · exact .moves apart _
            · exact .moves apart _
          · exact .moves apart _
  | leaving vid bundle bundles =>
      have apart := notFlushing _ place (by rintro _ ⟨⟩)
      simp only
      split
      · exact .moves apart _
      · exact .moves apart _
  | locating vid bundle bundles =>
      have apart := notFlushing _ place (by rintro _ ⟨⟩)
      simp only
      split
      · exact .moves apart _
      · exact .moves apart _
  | unlinking vid bundle bundles =>
      exact .changesMembers (notFlushing _ place (by rintro _ ⟨⟩)) vid _ _
  | flushingIntf vid bundle bundles =>
      have apart := notFlushing _ place (by rintro _ ⟨⟩)
      simp only
      split
      · exact .flushesIntf vid _ _ apart
      · exact .waits
  | emptying vid =>
      have apart := notFlushing _ place (by rintro _ ⟨⟩)
      simp only
      split
      · exact .moves apart _
      · exact .moves apart _
  | checkingRemove vid =>
      have apart := notFlushing _ place (by rintro _ ⟨⟩)
      simp only
      split
      · exact .moves apart _
      · exact .moves apart _
  | clearing vid =>
      exact .clears vid [] (notFlushing _ place (by rintro _ ⟨⟩))
  | flushing vid =>
      simp only
      split
      · rename_i free
        exact .flushes vid place (Option.isNone_iff_eq_none.mp free)
      · exact .waits

end Moves

/-! ## Where entries can come from -/

/-- The learner has the lock. -/
def Learner.inSection : Learner → Bool
  | .idle => false
  | .locking _ => false
  | .checking _ => true
  | .flooding _ => true
  | .learning _ _ => true

/-- The VLAN that a learner has found to exist and may still learn in. -/
def Learner.admits : Learner → Option Nat
  | .flooding data => some data.fdb.vlanId
  | .learning data true => some data.fdb.vlanId
  | _ => none

theorem Learner.admits_learning {data : LearningData} {isLearning : Bool} {vid : Nat}
    (admits : (Learner.learning data isLearning).admits = some vid) :
    data.fdb.vlanId = vid := by
  cases isLearning with
  | false => cases admits
  | true => exact Option.some.inj admits

/-- Entries, and learners that may add one, are only of allowed VLANs. -/
structure Confined (allowed : Nat → Prop) (system : System count) : Prop where
  known : ∀ e ∈ system.ml.table, allowed e.fdb.vlanId
  admitted : ∀ id vid, (system.learners id).admits = some vid → allowed vid

/-- Only the holder of the lock is in a section. -/
def Locked (system : System count) : Prop :=
  ∀ id, (system.learners id).inSection = true → system.holder = some id

/-- The FDB calls of a step succeed. -/
structure XdkSucceeds (ml : Ml) (xdk : Outcome) : Prop where
  add : AddContract xdk ml.hw
  finds : xdk.findFails = false
  adds : xdk.addEntry ≠ none
  writes : xdk.writeEntry = true
  removes : xdk.removeEntry = true
  removesByIndex : ∀ index, xdk.removeEntryByIndex index = true

section Learners

variable {env : Env} {system : System count} {allowed : Nat → Prop}

theorem setLearner_learners (system : System count) (id other : Nat)
    (learner : Learner) :
    (system.setLearner id learner).learners other =
      if other = id then learner else system.learners other :=
  Function.update_apply ..

theorem setCaller_callers (system : System count) (id other : Nat)
    (caller : Caller count) :
    (system.setCaller id caller).callers other =
      if other = id then caller else system.callers other :=
  Function.update_apply ..

theorem Confined.mono {wider : Nat → Prop}
    (confined : Confined allowed system)
    (implies : ∀ vid, allowed vid → wider vid) : Confined wider system where
  known e member := implies _ (confined.known e member)
  admitted id vid admits := implies _ (confined.admitted id vid admits)

/-- A learner that moves on admits an allowed VLAN or none. -/
theorem Confined.setLearner
    (confined : Confined allowed system)
    {id : Nat}
    {learner : Learner}
    (admits : ∀ vid, learner.admits = some vid → allowed vid) :
    Confined allowed (system.setLearner id learner) where
  known := confined.known
  admitted := by
    intro other vid admitted
    rw [setLearner_learners] at admitted
    split at admitted
    · exact admits vid admitted
    · exact confined.admitted other vid admitted

/-- Whatever contains the existing VLANs confines the learners. -/
theorem Confined.learnerStep {xdk : Outcome}
    (confined : Confined allowed system)
    (existing : ∀ vid, isExisting env system vid = true → allowed vid)
    (writes : xdk.writeEntry = true)
    (id : Nat)
    (isFwd : Bool) :
    Confined allowed (learnerStep env system id isFwd xdk) := by
  unfold VlanRemoval.learnerStep
  cases place : system.learners id with
  | idle => exact confined
  | locking data =>
      simp only
      split
      · have locked : Confined allowed { system with holder := some id } :=
          ⟨confined.known, confined.admitted⟩
        refine locked.setLearner ?_
        rintro vid ⟨⟩
      · exact confined
  | checking data =>
      simp only
      split
      · rename_i exists'
        refine confined.setLearner ?_
        rintro vid ⟨⟩
        exact existing _ exists'
      · refine confined.setLearner ?_
        rintro vid ⟨⟩
  | flooding data =>
      have dataAllowed : allowed data.fdb.vlanId := by
        refine confined.admitted id data.fdb.vlanId ?_
        rw [place]
        rfl
      refine confined.setLearner ?_
      intro vid admits
      rw [← Learner.admits_learning admits]
      exact dataAllowed
  | learning data isLearning =>
      have learned : Confined allowed { system with
          ml := (learn env.learning (withLearning xdk isLearning) system.ml data).2
          holder := none } := by
        refine ⟨?_, confined.admitted⟩
        intro e member
        have writes : (withLearning xdk isLearning).writeEntry = true := writes
        rcases mem_learn writes member with ⟨old, oldMember, same⟩ | ⟨same, positive⟩
        · exact same ▸ confined.known old oldMember
        · rw [same]
          refine confined.admitted id data.fdb.vlanId ?_
          rw [place]
          have positive : isLearning = true := positive
          rw [positive]
          rfl
      refine learned.setLearner ?_
      rintro vid ⟨⟩

theorem Locked.learnerStep
    (locked : Locked system)
    (id : Nat)
    (isFwd : Bool)
    (xdk : Outcome) :
    Locked (learnerStep env system id isFwd xdk) := by
  have stays : ∀ learner : Learner, (system.learners id).inSection = true →
      Locked (system.setLearner id learner) := by
    intro learner inSection other otherInSection
    rw [setLearner_learners] at otherInSection
    split at otherInSection
    · rename_i same
      rw [same]
      exact locked id inSection
    · exact locked other otherInSection
  unfold VlanRemoval.learnerStep
  cases place : system.learners id with
  | idle => exact locked
  | locking data =>
      simp only
      split
      · rename_i free
        intro other otherInSection
        rw [setLearner_learners] at otherInSection
        split at otherInSection
        · rename_i same
          rw [same]
          rfl
        · have held := locked other otherInSection
          rw [held] at free
          cases free
      · exact locked
  | checking data =>
      simp only
      split
      · exact stays _ (by rw [place]; rfl)
      · exact stays _ (by rw [place]; rfl)
  | flooding data => exact stays _ (by rw [place]; rfl)
  | learning data isLearning =>
      have held : system.holder = some id := locked id (by rw [place]; rfl)
      intro other otherInSection
      rw [setLearner_learners] at otherInSection
      split at otherInSection
      · cases otherInSection
      · rename_i different
        have otherHeld := locked other otherInSection
        rw [held] at otherHeld
        cases otherHeld
        exact absurd rfl different

/-- A learner changes the tables of the FDB as `ops_xp_mac_learning_learn`
does. -/
theorem learnerStep_ml (env : Env) (system : System count) (id : Nat) (isFwd : Bool)
    (xdk : Outcome) :
    (learnerStep env system id isFwd xdk).ml = system.ml ∨
      ∃ data isLearning, (learnerStep env system id isFwd xdk).ml =
        (learn env.learning (withLearning xdk isLearning) system.ml data).2 := by
  unfold VlanRemoval.learnerStep
  cases system.learners id with
  | idle => exact .inl rfl
  | locking data =>
      simp only
      split
      · exact .inl rfl
      · exact .inl rfl
  | checking data =>
      simp only
      split
      · exact .inl rfl
      · exact .inl rfl
  | flooding data => exact .inl rfl
  | learning data isLearning => exact .inr ⟨data, isLearning, rfl⟩

end Learners

/-! ## The invariant -/

/-- A VLAN exists, or a caller that has cleared it is still to flush it. -/
def Backed (env : Env) (system : System count) (vid : Nat) : Prop :=
  isExisting env system vid = true ∨ ∃ id, system.callers id = .flushing vid

/-- The invariant: the two tables of the FDB agree, the lock is kept, and
everything in the FDB or about to come in is of a backed VLAN. -/
structure Sound (env : Env) (system : System count) : Prop where
  fdb : FdbInv system.ml
  tracked : HwTracked system.ml
  locked : Locked system
  confined : Confined (Backed env system) system

/-- Nothing is running and the FDB is empty.  Any VLANs may exist. -/
structure Initial (system : System count) : Prop where
  empty : StartsEmpty system.ml
  learners : ∀ id, system.learners id = .idle
  callers : ∀ id, system.callers id = .idle

/-- The FDB calls of the step succeed. -/
def Succeeds (system : System count) : Event count → Prop
  | .packet _ _ _ _ _ _ => True
  | .learner _ _ xdk => XdkSucceeds system.ml xdk
  | .setVlan _ _ _ _ => True
  | .caller _ xdk => XdkSucceeds system.ml xdk

section Invariant

variable {env : Env} {system : System count}

theorem Initial.sound (initial : Initial system) (env : Env) : Sound env system where
  fdb := initial.empty.fdbInv
  tracked := initial.empty.hwTracked
  locked := by
    intro id inSection
    rw [initial.learners id] at inSection
    cases inSection
  confined := by
    constructor
    · obtain ⟨_, _, empty⟩ := initial.empty
      intro e member
      rw [empty] at member
      cases member
    · intro id vid admits
      rw [initial.learners id] at admits
      cases admits

/-- A caller that is not about to flush moves on. -/
theorem Backed.setCaller {id vid : Nat} {caller : Caller count}
    (backed : Backed env system vid)
    (notFlushing : ∀ vid, system.callers id ≠ .flushing vid) :
    Backed env (system.setCaller id caller) vid := by
  rcases backed with existing | ⟨flusher, flushes⟩
  · exact .inl existing
  · refine .inr ⟨flusher, ?_⟩
    rw [setCaller_callers, if_neg]
    · exact flushes
    · rintro rfl
      exact notFlushing vid flushes

/-- Learners do not look at callers, and the other way round. -/
theorem Confined.of_eq {other : System count} {allowed : Nat → Prop}
    (confined : Confined allowed system)
    (ml : ∀ e ∈ other.ml.table, e ∈ system.ml.table)
    (learners : other.learners = system.learners) : Confined allowed other where
  known e member := confined.known e (ml e member)
  admitted := by
    rw [learners]
    exact confined.admitted

/-- A change of the VLAN table that keeps the flag of a VLAN keeps its
backing. -/
theorem Backed.of_eq {other : System count} {vid : Nat}
    (backed : Backed env system vid)
    (flag : (other.table vid).isExisting = (system.table vid).isExisting)
    (callers : other.callers = system.callers) : Backed env other vid := by
  unfold Backed isExisting
  rw [flag, callers]
  exact backed

theorem Learner.inSection_of_admits {learner : Learner} {vid : Nat}
    (admits : learner.admits = some vid) : learner.inSection = true := by
  cases learner with
  | idle => cases admits
  | locking data => cases admits
  | checking data => rfl
  | flooding data => rfl
  | learning data isLearning => rfl

/-- While nobody has the lock, no learner is about to add an entry. -/
theorem Locked.admits_ne_some (locked : Locked system) (free : system.holder = none)
    (id vid : Nat) : (system.learners id).admits ≠ some vid := by
  intro admits
  have held := locked id (Learner.inSection_of_admits admits)
  rw [free] at held
  cases held

/-- A caller keeps everything in the FDB backed: it flushes a VLAN after it has
cleared the VLAN, and no learner is in its section then. -/
theorem CallerMove.confined {xdk : Outcome} {id : Nat} {after : System count}
    (move : CallerMove env xdk system id after)
    (sound : Sound env system)
    (removes : ∀ index, xdk.removeEntryByIndex index = true) :
    Confined (Backed env after) after := by
  cases move with
  | waits => exact sound.confined
  | quiet table caller notFlushing flags =>
      refine Confined.mono (Confined.of_eq sound.confined ?_ rfl) ?_
      · exact fun _ member => member
      · intro vid backed
        exact Backed.setCaller (backed.of_eq (flags vid) rfl) notFlushing
  | creates vid members caller notFlushing =>
      refine Confined.mono (Confined.of_eq sound.confined ?_ rfl) ?_
      · exact fun _ member => member
      · intro other backed
        refine Backed.setCaller ?_ notFlushing
        by_cases same : other = vid
        · subst same
          refine backed.imp ?_ fun flushes => flushes
          intro existing
          unfold isExisting at existing ⊢
          rw [Bool.and_eq_true] at existing
          simp [System.setVlan, existing.1]
        · exact backed.of_eq
            (congrArg Vlan.isExisting (Function.update_of_ne same _ _)) rfl
  | clears vid members notFlushing =>
      refine Confined.mono (Confined.of_eq sound.confined ?_ rfl) ?_
      · exact fun _ member => member
      · intro other backed
        by_cases same : other = vid
        · refine .inr ⟨id, ?_⟩
          rw [setCaller_callers, if_pos rfl, same]
        · refine Backed.setCaller ?_ notFlushing
          exact backed.of_eq
            (congrArg Vlan.isExisting (Function.update_of_ne same _ _)) rfl
  | flushesIntf vid intfId caller notFlushing =>
      refine Confined.mono (Confined.of_eq sound.confined ?_ rfl) ?_
      · exact fun _ => mem_flushWhere
      · intro other backed
        exact Backed.setCaller (backed.of_eq rfl rfl) notFlushing
  | flushes vid place free =>
      constructor
      · intro e member
        have apart : e.fdb.vlanId ≠ vid := by
          have unselected := flushWhere_test_eq_false removes member
          simpa using unselected
        rcases sound.confined.known e (mem_flushWhere member) with
          existing | ⟨flusher, flushes⟩
        · exact .inl existing
        · refine .inr ⟨flusher, ?_⟩
          rw [setCaller_callers, if_neg]
          · exact flushes
          · rintro rfl
            rw [place] at flushes
            cases flushes
            exact apart rfl
      · intro learner other admits
        exact absurd admits (sound.locked.admits_ne_some free learner other)

theorem CallerMove.fdb {xdk : Outcome} {id : Nat} {after : System count}
    (move : CallerMove env xdk system id after)
    (sound : Sound env system) :
    FdbInv after.ml ∧ HwTracked after.ml := by
  cases move with
  | waits => exact ⟨sound.fdb, sound.tracked⟩
  | quiet table caller notFlushing flags => exact ⟨sound.fdb, sound.tracked⟩
  | creates vid members caller notFlushing => exact ⟨sound.fdb, sound.tracked⟩
  | clears vid members notFlushing => exact ⟨sound.fdb, sound.tracked⟩
  | flushesIntf vid intfId caller notFlushing =>
      exact ⟨sound.fdb.expireAll env.learning xdk _,
        sound.tracked.expireAll env.learning xdk _⟩
  | flushes vid place free =>
      exact ⟨sound.fdb.expireAll env.learning xdk _,
        sound.tracked.expireAll env.learning xdk _⟩

/-- A caller leaves the learners, the lock and the origin of the entries
alone. -/
theorem CallerMove.frame {xdk : Outcome} {id : Nat} {after : System count}
    (move : CallerMove env xdk system id after) :
    after.learners = system.learners ∧ after.holder = system.holder ∧
      ∀ e ∈ after.ml.table, e ∈ system.ml.table := by
  cases move with
  | waits => exact ⟨rfl, rfl, fun _ member => member⟩
  | quiet table caller notFlushing flags => exact ⟨rfl, rfl, fun _ member => member⟩
  | creates vid members caller notFlushing =>
      exact ⟨rfl, rfl, fun _ member => member⟩
  | clears vid members notFlushing => exact ⟨rfl, rfl, fun _ member => member⟩
  | flushesIntf vid intfId caller notFlushing =>
      exact ⟨rfl, rfl, fun _ => mem_flushWhere⟩
  | flushes vid place free => exact ⟨rfl, rfl, fun _ => mem_flushWhere⟩

/-- A learner leaves the VLANs and the callers alone. -/
theorem learnerStep_frame (env : Env) (system : System count) (id : Nat)
    (isFwd : Bool) (xdk : Outcome) :
    (learnerStep env system id isFwd xdk).table = system.table ∧
      (learnerStep env system id isFwd xdk).callers = system.callers := by
  unfold learnerStep
  cases system.learners id with
  | idle => exact ⟨rfl, rfl⟩
  | locking data =>
      simp only
      split
      · exact ⟨rfl, rfl⟩
      · exact ⟨rfl, rfl⟩
  | checking data =>
      simp only
      split
      · exact ⟨rfl, rfl⟩
      · exact ⟨rfl, rfl⟩
  | flooding data => exact ⟨rfl, rfl⟩
  | learning data isLearning => exact ⟨rfl, rfl⟩

theorem Sound.learnerStep {xdk : Outcome}
    (sound : Sound env system)
    (succeeds : XdkSucceeds system.ml xdk)
    (id : Nat)
    (isFwd : Bool) :
    Sound env (learnerStep env system id isFwd xdk) := by
  obtain ⟨sameTable, sameCallers⟩ := learnerStep_frame env system id isFwd xdk
  have tables : FdbInv (VlanRemoval.learnerStep env system id isFwd xdk).ml ∧
      HwTracked (VlanRemoval.learnerStep env system id isFwd xdk).ml := by
    rcases learnerStep_ml env system id isFwd xdk with same | ⟨data, isLearning, same⟩
    · rw [same]
      exact ⟨sound.fdb, sound.tracked⟩
    · have add : AddContract (withLearning xdk isLearning) system.ml.hw := succeeds.add
      have writes : (withLearning xdk isLearning).writeEntry = true := succeeds.writes
      rw [same]
      exact ⟨sound.fdb.learn add env.learning,
        sound.tracked.learn add writes env.learning⟩
  have confined := sound.confined.learnerStep (fun _ => .inl) succeeds.writes id isFwd
  refine ⟨tables.1, tables.2, sound.locked.learnerStep id isFwd xdk, ?_⟩
  refine confined.mono ?_
  intro vid backed
  exact backed.of_eq (by rw [sameTable]) sameCallers

/-- The start of a call is a move of its caller. -/
theorem callerMove_setVlan {xdk : Outcome}
    (env : Env)
    (system : System count)
    (caller vid : Nat)
    (add : Bool)
    (bundles : List (Bundle count)) :
    CallerMove env xdk system caller
      (step env system (.setVlan caller vid add bundles)) := by
  simp only [step]
  split
  · rename_i place
    refine .moves ?_ _
    rw [place]
    rintro vid ⟨⟩
  · exact .waits

/-- A packet at most brings a learner to the lock. -/
theorem step_packet (env : Env) (system : System count)
    (learner ingressVif : Nat) (reasonCode : ReasonCode) (bdId : Nat)
    (srcMacAddr : MacAddr) (bufSize : Nat) :
    step env system (.packet learner ingressVif reasonCode bdId srcMacAddr bufSize) =
        system ∨
      ∃ data, step env system
          (.packet learner ingressVif reasonCode bdId srcMacAddr bufSize) =
        system.setLearner learner (.locking data) := by
  simp only [step]
  split
  · split
    · exact .inl rfl
    · exact .inr ⟨_, rfl⟩
  · exact .inl rfl

theorem Sound.callerMove {xdk : Outcome} {id : Nat} {after : System count}
    (sound : Sound env system)
    (removes : ∀ index, xdk.removeEntryByIndex index = true)
    (move : CallerMove env xdk system id after) : Sound env after := by
  obtain ⟨sameLearners, sameHolder, _⟩ := move.frame
  obtain ⟨fdb, tracked⟩ := move.fdb sound
  refine ⟨fdb, tracked, ?_, move.confined sound removes⟩
  unfold Locked
  rw [sameLearners, sameHolder]
  exact sound.locked

/-- Every step keeps the invariant. -/
theorem Sound.step {event : Event count}
    (sound : Sound env system)
    (succeeds : Succeeds system event) :
    Sound env (step env system event) := by
  cases event with
  | packet learner ingressVif reasonCode bdId srcMacAddr bufSize =>
      rcases step_packet env system learner ingressVif reasonCode bdId srcMacAddr
        bufSize with same | ⟨data, same⟩
      · rw [same]
        exact sound
      · rw [same]
        refine ⟨sound.fdb, sound.tracked, ?_, ?_⟩
        · intro other inSection
          rw [setLearner_learners] at inSection
          split at inSection
          · cases inSection
          · exact sound.locked other inSection
        · refine Confined.mono (sound.confined.setLearner ?_) fun _ backed =>
            backed.of_eq rfl rfl
          rintro vid ⟨⟩
  | learner id isFwd xdk => exact sound.learnerStep succeeds id isFwd
  | setVlan caller vid add bundles =>
      have move : CallerMove env (accepting 0 0) system caller _ :=
        callerMove_setVlan env system caller vid add bundles
      exact sound.callerMove (fun _ => rfl) move
  | caller id xdk =>
      exact sound.callerMove succeeds.removesByIndex
        (callerMove_callerStep env xdk system id)

/-- Whatever contains the existing VLANs confines every step. -/
theorem Confined.step {allowed : Nat → Prop} {event : Event count}
    (confined : Confined allowed system)
    (existing : ∀ vid, isExisting env system vid = true → allowed vid)
    (succeeds : Succeeds system event) :
    Confined allowed (step env system event) := by
  cases event with
  | packet learner ingressVif reasonCode bdId srcMacAddr bufSize =>
      rcases step_packet env system learner ingressVif reasonCode bdId srcMacAddr
        bufSize with same | ⟨data, same⟩
      · rw [same]
        exact confined
      · rw [same]
        refine confined.setLearner ?_
        rintro vid ⟨⟩
  | learner id isFwd xdk =>
      exact confined.learnerStep existing succeeds.writes id isFwd
  | setVlan caller vid add bundles =>
      have move : CallerMove env (accepting 0 0) system caller _ :=
        callerMove_setVlan env system caller vid add bundles
      exact confined.of_eq move.frame.2.2 move.frame.1
  | caller id xdk =>
      have move := callerMove_callerStep env xdk system id
      exact confined.of_eq move.frame.2.2 move.frame.1

end Invariant

/-! ## Runs -/

/-- Neither table of the FDB has an entry of a VLAN. -/
def Unlearned (vid : Nat) (ml : Ml) : Prop :=
  (∀ e ∈ ml.table, e.fdb.vlanId ≠ vid) ∧ ∀ slot ∈ ml.hw, slot.2.vlanId ≠ vid

/-- A step that succeeds and after which a VLAN still does not exist. -/
def SucceedsWithout (env : Env) (vid : Nat) (system : System count)
    (event : Event count) : Prop :=
  Succeeds system event ∧ isExisting env (step env system event) vid = false

section Runs

variable {env : Env} {system : System count} {vid : Nat}

/-- A VLAN that neither exists nor is still to be flushed is gone from the FDB. -/
theorem Sound.confined_ne
    (sound : Sound env system)
    (absent : isExisting env system vid = false)
    (flushed : ∀ id, system.callers id ≠ .flushing vid) :
    Confined (· ≠ vid) system := by
  refine sound.confined.mono ?_
  rintro other (existing | ⟨id, flushes⟩) rfl
  · rw [absent] at existing
    cases existing
  · exact flushed id flushes

theorem Sound.unlearned
    (sound : Sound env system)
    (confined : Confined (· ≠ vid) system) : Unlearned vid system.ml := by
  refine ⟨confined.known, ?_⟩
  intro slot inHw sameVlan
  obtain ⟨e, member, _, sameKey, _⟩ := sound.tracked slot inHw
  exact confined.known e member ((congrArg Prod.fst sameKey).trans sameVlan)

/-- In every interleaving: when a VLAN does not exist and no call has its flush of the
VLAN to do, the FDB has no entry of it, and gets none as long as the VLAN is not
created again.  A call that has returned has no flush to do. -/
theorem unlearned_of_reached {events : List (Event count)}
    (reached : Transition.Reach Initial Succeeds (step env) system)
    (absent : isExisting env system vid = false)
    (flushed : ∀ id, system.callers id ≠ .flushing vid)
    (continued : Transition.Guarded (SucceedsWithout env vid) (step env) system events) :
    Unlearned vid (Transition.run (step env) system events).ml := by
  have sound : Sound env system := by
    refine Transition.Reach.invariant (Sound env) ?_ ?_ reached
    · exact fun _ initial => initial.sound env
    · exact fun _ _ sound succeeds => sound.step succeeds
  have start : Transition.Reach (fun first => first = system) (SucceedsWithout env vid)
      (step env) system := .start rfl
  have kept : Sound env (Transition.run (step env) system events) ∧
      isExisting env (Transition.run (step env) system events) vid = false ∧
      Confined (· ≠ vid) (Transition.run (step env) system events) := by
    refine Transition.Reach.invariant (fun current => Sound env current ∧
      isExisting env current vid = false ∧ Confined (· ≠ vid) current) ?_ ?_
      (start.of_run continued)
    · rintro _ rfl
      exact ⟨sound, absent, sound.confined_ne absent flushed⟩
    · rintro current event ⟨currentSound, stillAbsent, confined⟩ ⟨succeeds, absentAfter⟩
      refine ⟨currentSound.step succeeds, absentAfter, confined.step ?_ succeeds⟩
      rintro other existing rfl
      rw [stillAbsent] at existing
      cases existing
  exact kept.1.unlearned kept.2.2

end Runs

/-! ## A learner that is overtaken -/

/-- What the sample runs take from outside. -/
def sampleEnv : Env := ⟨Vlans.sampleEnv, MacLearning.sampleEnv⟩

/-- VLAN 10 exists, and nothing has been learned. -/
def sampleSystem : System 4096 where
  table := fun vid => ⟨vid == 10, []⟩
  ml := macLearningCreate 100 true []
  holder := none
  learners := fun _ => .idle
  callers := fun _ => .idle

/-- A packet of VLAN 10 for the first learner. -/
def samplePacket (low : UInt8) : Event 4096 :=
  .packet 0 1 .macSaNew 10 (MacAddr.setLastByte #v[2, 0, 0, 0, 0, 0] low) 64

/-- The VLAN is cleared after the learner has found it to exist: the caller
waits at the lock until the learner has added its entry. -/
def overtakenRun : List (Event 4096) :=
  [samplePacket 1, .learner 0 false (accepting 5 5), .learner 0 false (accepting 5 5),
   .setVlan 0 10 false [], .caller 0 (accepting 5 5), .caller 0 (accepting 5 5),
   .caller 0 (accepting 5 5), .caller 0 (accepting 5 5), .caller 0 (accepting 5 5),
   .learner 0 false (accepting 5 5), .learner 0 false (accepting 5 5),
   .caller 0 (accepting 6 6)]

/-- Another packet of the VLAN. -/
def belatedRun : List (Event 4096) :=
  [samplePacket 2, .learner 0 false (accepting 6 6), .learner 0 false (accepting 6 6),
   .learner 0 false (accepting 6 6)]

theorem xdkSucceeds_accepting {ml : Ml} {index : Nat}
    (free : index ∉ ml.hw.map Prod.fst) : XdkSucceeds ml (accepting index index) where
  add := addContract_of_eq rfl ((if_pos rfl).mpr free)
  finds := rfl
  adds := Option.some_ne_none _
  writes := rfl
  removes := rfl
  removesByIndex _ := rfl

theorem unlearned_overtakenRun :
    let system := Transition.run (step sampleEnv) sampleSystem overtakenRun
    Unlearned 10 (Transition.run (step sampleEnv) system belatedRun).ml := by
  intro system
  have start : Transition.Reach Initial Succeeds (step sampleEnv) sampleSystem :=
    .start ⟨⟨100, true, rfl⟩, fun _ => rfl, fun _ => rfl⟩
  have guarded : Transition.Guarded Succeeds (step sampleEnv) sampleSystem
      overtakenRun := by
    refine ⟨trivial, xdkSucceeds_accepting ?_, xdkSucceeds_accepting ?_, trivial,
      xdkSucceeds_accepting ?_, xdkSucceeds_accepting ?_, xdkSucceeds_accepting ?_,
      xdkSucceeds_accepting ?_, xdkSucceeds_accepting ?_, xdkSucceeds_accepting ?_,
      xdkSucceeds_accepting ?_, xdkSucceeds_accepting ?_, trivial⟩ <;> decide
  have returned : ∀ id, system.callers id = .idle := by
    intro id
    cases id <;> rfl
  have flushed : ∀ id, system.callers id ≠ .flushing 10 := by
    intro id flushes
    rw [returned id] at flushes
    cases flushes
  refine unlearned_of_reached (start.of_run guarded) (by decide) flushed ?_
  exact ⟨⟨trivial, by decide⟩, ⟨xdkSucceeds_accepting (by decide), by decide⟩,
    ⟨xdkSucceeds_accepting (by decide), by decide⟩,
    ⟨xdkSucceeds_accepting (by decide), by decide⟩, trivial⟩

end VlanRemoval
end XpliantSwitchd
