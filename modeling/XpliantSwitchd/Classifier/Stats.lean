import Mathlib.Data.List.Pairwise
import XpliantSwitchd.Classifier.Defs
import XpliantSwitchd.Lib.Transition

/-!
# Statistics of classifier lists

A rule with a counter adds up in software what it reads from the hardware, which
forgets a counter when it is read.  The counters of a table are addressed by the
TCAM index of a rule, which the TCAM manager knows by the table and the entry id
of the rule.  The two functions of this module ask for the index in the table
that the XDK numbers `0`, whichever table the list is in.
-/

namespace XpliantSwitchd
namespace Classifier

/-- `struct ops_cls_statistics`. -/
structure ClsStatistics where
  statsEnabled : Bool
  hitcounts : Nat
  deriving DecidableEq

/-- What the TCAM manager knows of its entries, one map for each table, and the
packet counters.  `XP_ACM_IPACL_COUNTER`, `_IBACL_` and `_IRACL_` are named by
their tables. -/
structure CounterHw where
  tcamId : AclType → Nat → Option Nat
  counters : AclTable → Nat → Nat

/-- `xpsAcmGetCounterValue`: the packets counted since the last read. -/
def acmGetCounterValue (hw : CounterHw) (client : AclTable) (tcamId : Nat) :
    Nat × CounterHw :=
  (hw.counters client tcamId,
    { hw with counters := fun table index =>
        if table = client ∧ index = tcamId then 0 else hw.counters table index })

section Operations

variable {Uuid : Type} [DecidableEq Uuid] (tableZero : AclType)

/-- The loop over the rules of an entry that both functions have.  `reads` says
which rules are read and `settle` what a rule keeps of the packets read.  The
variable `tcamId` keeps its value when the TCAM manager does not know the rule. -/
def readCounters (client : AclTable) (reads : AclRule → Nat → Bool)
    (settle : AclRule → Nat → AclRule) :
    Nat → Nat → List AclRule → CounterHw → List AclRule × CounterHw
  | _, _, [], hw => ([], hw)
  | i, tcamId, rule :: rules, hw =>
      let tcamId := (hw.tcamId tableZero rule.ruleId).getD tcamId
      let (rule, hw) :=
        if reads rule i then
          let (countPkts, hw) := acmGetCounterValue hw client tcamId
          (settle rule countPkts, hw)
        else (rule, hw)
      let (rules, hw) := readCounters client reads settle (i + 1) tcamId rules hw
      (rule :: rules, hw)

/-- The rules that `ops_xp_cls_stats_get` reads. -/
def getReads (numEntries : Int) (rule : AclRule) (i : Nat) : Bool :=
  (i : Int) ≠ numEntries && rule.counterEn

/-- `entry->count += count_pkts`. -/
def AclRule.accumulate (rule : AclRule) (countPkts : Nat) : AclRule :=
  { rule with count := rule.count + countPkts }

/-- The rules that `ops_xp_cls_stats_clear` reads. -/
def clearReads (rule : AclRule) (_i : Nat) : Bool := rule.counterEn

/-- `entry->count = 0`. -/
def AclRule.clear (rule : AclRule) (_countPkts : Nat) : AclRule :=
  { rule with count := 0 }

/-- What a rule has counted in software. -/
def AclRule.counted (rule : AclRule) : Nat := if rule.counterEn then rule.count else 0

/-- Write back the rules of the entry of a list. -/
def storeRules (cls : Cls Uuid CounterHw) (table : AclTable) (listId : Uuid)
    (result : List AclRule × CounterHw) : Cls Uuid CounterHw :=
  { cls with
    classifierHmap := Function.update cls.classifierHmap table
      (KeyedList.rewrite (·.listUid) listId
        (fun e => { e with ruleList := result.1 }) (cls.classifierHmap table))
    hw := result.2 }

/-- The entry that a statistics call is about, with its table. -/
def statsTarget (cls : Cls Uuid CounterHw) (listId : Uuid) (info : InterfaceInfo)
    (direction : Direction) : Option (AclTable × AclEntry Uuid) :=
  (clsGetType info direction).table.bind fun table =>
    (clsLookupFromHmapType listId (cls.classifierHmap table)).map (table, ·)

/-- `ops_xp_cls_stats_get`.  A rule that is read reports its count right after it
was updated. -/
def clsStatsGet (cls : Cls Uuid CounterHw) (listId : Uuid) (info : InterfaceInfo)
    (direction : Direction) (numEntries : Int) (unsetTcamId : Nat)
    (statistics : Nat → ClsStatistics) :
    (Nat → ClsStatistics) × Cls Uuid CounterHw :=
  match statsTarget cls listId info direction with
  | none => (statistics, cls)
  | some (table, aclEntry) =>
      if numEntries + 1 ≠ aclEntry.numRules.toNat then (statistics, cls)
      else
        let result := readCounters tableZero table (getReads numEntries)
          AclRule.accumulate 0 unsetTcamId aclEntry.ruleList cls.hw
        (fun i =>
          match result.1[i]? with
          | some rule =>
              if getReads numEntries rule i then
                { statsEnabled := true, hitcounts := rule.count }
              else statistics i
          | none => statistics i,
        storeRules cls table listId result)

/-- `ops_xp_cls_stats_clear`. -/
def clsStatsClear (cls : Cls Uuid CounterHw) (listId : Uuid) (info : InterfaceInfo)
    (direction : Direction) (unsetTcamId : Nat) : Cls Uuid CounterHw :=
  match statsTarget cls listId info direction with
  | none => cls
  | some (table, aclEntry) =>
      storeRules cls table listId (readCounters tableZero table clearReads
        AclRule.clear 0 unsetTcamId aclEntry.ruleList cls.hw)

end Operations

/-! ## The system -/

/-- The classifier, and for each rule of each table the hits since the rule was
installed or cleared. -/
structure StatsSystem (Uuid : Type) where
  cls : Cls Uuid CounterHw
  hits : AclTable → Nat → Nat

/-- A packet that hits a rule, or one of the two calls. -/
inductive StatsOperation (Uuid : Type)
  | hit (table : AclTable) (ruleId : Nat)
  | get (listId : Uuid) (info : InterfaceInfo) (direction : Direction)
      (numEntries : Int) (unsetTcamId : Nat) (statistics : Nat → ClsStatistics)
  | clear (listId : Uuid) (info : InterfaceInfo) (direction : Direction)
      (unsetTcamId : Nat)

section Runs

variable {Uuid : Type} [DecidableEq Uuid] (tableZero : AclType)

/-- A packet hits a rule: the counter at its TCAM index goes up. -/
def countHit (hw : CounterHw) (table : AclTable) (ruleId : Nat) : CounterHw :=
  match hw.tcamId table.aclType ruleId with
  | none => hw
  | some tcamId =>
      { hw with counters := fun other index =>
          hw.counters other index +
            if other = table ∧ index = tcamId then 1 else 0 }

/-- The hits after the rules with counters of an entry have been cleared. -/
def clearHits (hits : AclTable → Nat → Nat) :
    Option (AclTable × AclEntry Uuid) → AclTable → Nat → Nat
  | none => hits
  | some (table, aclEntry) => fun other ruleId =>
      if other = table ∧ ∃ rule ∈ aclEntry.ruleList,
          rule.counterEn = true ∧ rule.ruleId = ruleId then 0
      else hits other ruleId

/-- The system after an operation. -/
def statsStep (system : StatsSystem Uuid) (operation : StatsOperation Uuid) :
    StatsSystem Uuid :=
  match operation with
  | .hit table ruleId =>
      { cls := { system.cls with hw := countHit system.cls.hw table ruleId }
        hits := fun other id =>
          system.hits other id + if other = table ∧ id = ruleId then 1 else 0 }
  | .get listId info direction numEntries unsetTcamId statistics =>
      { cls := (clsStatsGet tableZero system.cls listId info direction numEntries
          unsetTcamId statistics).2
        hits := system.hits }
  | .clear listId info direction unsetTcamId =>
      { cls := clsStatsClear tableZero system.cls listId info direction unsetTcamId
        hits := clearHits system.hits
          (statsTarget system.cls listId info direction) }

/-- Lists that are applied in the tables: each rule has an index of its own in
its table, and its hits are in its count and in the counter at its index. -/
structure StatsInv (system : StatsSystem Uuid) : Prop where
  uuidOnce : ∀ table, ((system.cls.classifierHmap table).map (·.listUid)).Nodup
  idsOnce : ∀ table, ((system.cls.classifierHmap table).flatMap fun e =>
    e.ruleList.map (·.ruleId)).Nodup
  placed : ∀ table, ∀ e ∈ system.cls.classifierHmap table, ∀ rule ∈ e.ruleList,
    (system.cls.hw.tcamId table.aclType rule.ruleId).isSome
  apart : ∀ table first second index,
    system.cls.hw.tcamId (AclTable.aclType table) first = some index →
    system.cls.hw.tcamId table.aclType second = some index → first = second
  accounted : ∀ table, ∀ e ∈ system.cls.classifierHmap table, ∀ rule ∈ e.ruleList,
    ∀ index, system.cls.hw.tcamId table.aclType rule.ruleId = some index →
      system.hits table rule.ruleId =
        rule.counted + system.cls.hw.counters table index

end Runs

/-! ## The loop -/

/-- The index at which the hits of a rule of a table are counted. -/
def CounterHw.index (hw : CounterHw) (table : AclTable) (rule : AclRule) : Nat :=
  (hw.tcamId table.aclType rule.ruleId).getD 0

/-- What a rule is after the loop when its hits are at `index`. -/
def settled (hw : CounterHw) (client : AclTable) (reads : AclRule → Nat → Bool)
    (settle : AclRule → Nat → AclRule) (item : AclRule × Nat) : AclRule :=
  if reads item.1 item.2 then
    settle item.1 (hw.counters client (hw.index client item.1))
  else item.1

theorem settled_ruleId
    {settle : AclRule → Nat → AclRule}
    (keepsId : ∀ rule countPkts, (settle rule countPkts).ruleId = rule.ruleId)
    (hw : CounterHw) (client : AclTable) (reads : AclRule → Nat → Bool)
    (item : AclRule × Nat) :
    (settled hw client reads settle item).ruleId = item.1.ruleId := by
  unfold settled
  split
  · exact keepsId item.1 _
  · rfl

/-- The rules that are read have, in the table the code asks, the index they
have in their own. -/
def IndicesAgree (tableZero : AclType) (client : AclTable)
    (reads : AclRule → Nat → Bool) (hw : CounterHw) (items : List (AclRule × Nat)) :
    Prop :=
  ∀ item ∈ items, reads item.1 item.2 = true →
    hw.tcamId tableZero item.1.ruleId = hw.tcamId client.aclType item.1.ruleId

/-- When the indices agree, the loop reads the counter of each rule it is to
read, and no other. -/
theorem readCounters_spec
    {tableZero : AclType} {client : AclTable} {reads : AclRule → Nat → Bool}
    {settle : AclRule → Nat → AclRule} {rules : List AclRule}
    (i tcamId : Nat) (hw : CounterHw)
    (agree : IndicesAgree tableZero client reads hw (rules.zipIdx i))
    (placed : ∀ rule ∈ rules, (hw.tcamId client.aclType rule.ruleId).isSome)
    (once : (rules.map (hw.index client)).Nodup) :
    (readCounters tableZero client reads settle i tcamId rules hw).1 =
      (rules.zipIdx i).map (settled hw client reads settle) ∧
    (readCounters tableZero client reads settle i tcamId rules hw).2.tcamId =
      hw.tcamId ∧
    (∀ table index, (table = client → ∀ item ∈ rules.zipIdx i,
        reads item.1 item.2 = true → hw.index client item.1 ≠ index) →
      (readCounters tableZero client reads settle i tcamId rules hw).2.counters
        table index = hw.counters table index) ∧
    ∀ item ∈ rules.zipIdx i, reads item.1 item.2 = true →
      (readCounters tableZero client reads settle i tcamId rules hw).2.counters
        client (hw.index client item.1) = 0 := by
  induction rules generalizing i tcamId hw with
  | nil => simp [readCounters]
  | cons rule rules inductionHypothesis =>
      rw [List.zipIdx_cons] at agree ⊢
      obtain ⟨ruleAgrees, restAgrees⟩ := List.forall_mem_cons.mp agree
      obtain ⟨rulePlaced, restPlaced⟩ := List.forall_mem_cons.mp placed
      obtain ⟨ruleApart, restOnce⟩ := List.nodup_cons.mp once
      cases isRead : reads rule i with
      | false =>
          obtain ⟨rest, sameIds, frame, cleared⟩ := inductionHypothesis (i + 1)
            ((hw.tcamId tableZero rule.ruleId).getD tcamId) hw restAgrees
            restPlaced restOnce
          simp only [readCounters, isRead, Bool.false_eq_true, if_false]
          refine ⟨?_, sameIds, ?_, ?_⟩
          · rw [List.map_cons, rest, settled]
            simp [isRead]
          · intro table index elsewhere
            refine frame table index fun same => ?_
            exact (List.forall_mem_cons.mp (elsewhere same)).2
          · intro item member itemRead
            rcases List.mem_cons.mp member with rfl | later
            · rw [isRead] at itemRead
              cases itemRead
            · exact cleared item later itemRead
      | true =>
          have asked : (hw.tcamId tableZero rule.ruleId).getD tcamId =
              hw.index client rule := by
            rw [ruleAgrees isRead, CounterHw.index]
            obtain ⟨index, known⟩ := Option.isSome_iff_exists.mp rulePlaced
            rw [known]
            rfl
          obtain ⟨rest, sameIds, frame, cleared⟩ := inductionHypothesis (i + 1)
            (hw.index client rule)
            (acmGetCounterValue hw client (hw.index client rule)).2 restAgrees
            restPlaced restOnce
          have later_ne : ∀ item ∈ rules.zipIdx (i + 1),
              hw.index client item.1 ≠ hw.index client rule := by
            intro item member same
            have inRules : item.1 ∈ rules := List.fst_mem_of_mem_zipIdx member
            exact ruleApart (List.mem_map.mpr ⟨item.1, inRules, same⟩)
          simp only [readCounters, isRead, if_true, asked]
          refine ⟨?_, sameIds, ?_, ?_⟩
          · rw [List.map_cons, rest]
            congr 1
            · simp [settled, isRead, acmGetCounterValue]
            · refine List.map_congr_left fun item member => ?_
              have sameCounter :
                  (acmGetCounterValue hw client (hw.index client rule)).2.counters
                    client (hw.index client item.1) =
                  hw.counters client (hw.index client item.1) :=
                if_neg fun same => later_ne item member same.2
              rw [settled, settled, ← sameCounter]
              rfl
          · intro table index elsewhere
            rw [frame table index fun same =>
              (List.forall_mem_cons.mp (elsewhere same)).2]
            have notRule : ¬(table = client ∧ index = hw.index client rule) := by
              rintro ⟨same, rfl⟩
              exact (List.forall_mem_cons.mp (elsewhere same)).1 isRead rfl
            exact if_neg notRule
          · intro item member itemRead
            rcases List.mem_cons.mp member with rfl | later
            · rw [frame client _ fun _ item later _ => later_ne item later]
              simp [acmGetCounterValue]
            · exact cleared item later itemRead

/-! ## One call -/

section Calls

variable {Uuid : Type} {tableZero : AclType}
  {system : StatsSystem Uuid} {table : AclTable} {aclEntry : AclEntry Uuid}
  {reads : AclRule → Nat → Bool} {settle : AclRule → Nat → AclRule}

theorem StatsInv.index_eq
    (inv : StatsInv system) {other : AclTable} {e : AclEntry Uuid} {rule : AclRule}
    (member : e ∈ system.cls.classifierHmap other) (inList : rule ∈ e.ruleList) :
    system.cls.hw.tcamId other.aclType rule.ruleId =
      some (system.cls.hw.index other rule) := by
  obtain ⟨index, known⟩ :=
    Option.isSome_iff_exists.mp (inv.placed other e member rule inList)
  rw [CounterHw.index, known]
  rfl

/-- Rules at one index of a table are one rule id. -/
theorem StatsInv.ruleId_of_index
    (inv : StatsInv system) {other : AclTable} {first second : AclEntry Uuid}
    {rule otherRule : AclRule}
    (firstMember : first ∈ system.cls.classifierHmap other)
    (inFirst : rule ∈ first.ruleList)
    (secondMember : second ∈ system.cls.classifierHmap other)
    (inSecond : otherRule ∈ second.ruleList)
    (same : system.cls.hw.index other rule = system.cls.hw.index other otherRule) :
    rule.ruleId = otherRule.ruleId := by
  have known := inv.index_eq firstMember inFirst
  rw [same] at known
  exact inv.apart other _ _ _ known (inv.index_eq secondMember inSecond)

theorem StatsInv.ruleIds_nodup
    (inv : StatsInv system)
    (member : aclEntry ∈ system.cls.classifierHmap table) :
    (aclEntry.ruleList.map (·.ruleId)).Nodup :=
  (List.nodup_flatMap.mp (inv.idsOnce table)).1 aclEntry member

theorem StatsInv.indices_nodup
    (inv : StatsInv system)
    (member : aclEntry ∈ system.cls.classifierHmap table) :
    (aclEntry.ruleList.map (system.cls.hw.index table)).Nodup := by
  have once := inv.ruleIds_nodup member
  rw [List.Nodup, List.pairwise_map] at once ⊢
  refine once.imp_of_mem ?_
  intro first second inFirst inSecond different same
  exact different (inv.ruleId_of_index member inFirst member inSecond same)

/-- Rules of different entries of a table have different ids. -/
theorem StatsInv.entry_of_ruleId
    (inv : StatsInv system) {other : AclEntry Uuid} {rule otherRule : AclRule}
    (member : aclEntry ∈ system.cls.classifierHmap table)
    (inList : rule ∈ aclEntry.ruleList)
    (otherMember : other ∈ system.cls.classifierHmap table)
    (inOther : otherRule ∈ other.ruleList)
    (same : rule.ruleId = otherRule.ruleId) : aclEntry = other := by
  by_contra different
  have separate := (List.nodup_flatMap.mp (inv.idsOnce table)).2
  have symmetric : Std.Symm (Function.onFun List.Disjoint fun e : AclEntry Uuid =>
      e.ruleList.map (·.ruleId)) := ⟨fun _ _ => List.Disjoint.symm⟩
  have disjoint := separate.forall member otherMember different
  exact disjoint (List.mem_map.mpr ⟨rule, inList, rfl⟩)
    (List.mem_map.mpr ⟨otherRule, inOther, same.symm⟩)

/-- The entry of a list in a table is the only one. -/
theorem StatsInv.entry_of_listUid
    (inv : StatsInv system) {e : AclEntry Uuid}
    (member : aclEntry ∈ system.cls.classifierHmap table)
    (otherMember : e ∈ system.cls.classifierHmap table)
    (same : e.listUid = aclEntry.listUid) : e = aclEntry :=
  List.inj_on_of_nodup_map (inv.uuidOnce table) otherMember member same

/-- A rule that is not of the entry is not at an index that the loop reads. -/
theorem StatsInv.index_ne
    (inv : StatsInv system) {e : AclEntry Uuid} {rule : AclRule}
    {item : AclRule × Nat}
    (member : aclEntry ∈ system.cls.classifierHmap table)
    (itemMember : item ∈ aclEntry.ruleList.zipIdx)
    (otherMember : e ∈ system.cls.classifierHmap table)
    (different : e.listUid ≠ aclEntry.listUid)
    (inOther : rule ∈ e.ruleList) :
    system.cls.hw.index table item.1 ≠ system.cls.hw.index table rule := by
  intro same
  have inList := List.fst_mem_of_mem_zipIdx itemMember
  have sameId := inv.ruleId_of_index member inList otherMember inOther same
  have sameEntry := inv.entry_of_ruleId member inList otherMember inOther sameId
  exact different (congrArg (·.listUid) sameEntry.symm)

variable [DecidableEq Uuid] {listId : Uuid}

theorem mem_storeRules
    {cls : Cls Uuid CounterHw} {result : List AclRule × CounterHw}
    {other : AclTable} {e : AclEntry Uuid} :
    e ∈ (storeRules cls table listId result).classifierHmap other ↔
      ∃ old ∈ cls.classifierHmap other, e = if other = table ∧ old.listUid = listId
        then { old with ruleList := result.1 } else old := by
  by_cases same : other = table
  · subst same
    simp [storeRules, KeyedList.rewrite, eq_comm]
  · simp [storeRules, same]

/-- Writing back rules gives no entry another list. -/
theorem storeRules_listUids
    (cls : Cls Uuid CounterHw) (result : List AclRule × CounterHw) (other : AclTable) :
    ((storeRules cls table listId result).classifierHmap other).map (·.listUid) =
      (cls.classifierHmap other).map (·.listUid) := by
  by_cases same : other = table
  · subst same
    simp only [storeRules, Function.update_self]
    exact KeyedList.map_rewrite fun _ _ _ => rfl
  · simp only [storeRules, Function.update_of_ne same]

/-- Writing back rules with the ids of the entry gives no table other ids. -/
theorem StatsInv.storeRules_ruleIds
    (inv : StatsInv system)
    (member : aclEntry ∈ system.cls.classifierHmap table)
    {result : List AclRule × CounterHw}
    (ruleIds : result.1.map (·.ruleId) = aclEntry.ruleList.map (·.ruleId))
    (other : AclTable) :
    ((storeRules system.cls table aclEntry.listUid result).classifierHmap other).flatMap
        (fun e => e.ruleList.map (·.ruleId)) =
      (system.cls.classifierHmap other).flatMap fun e => e.ruleList.map (·.ruleId) := by
  by_cases same : other = table
  · subst same
    simp only [storeRules, Function.update_self]
    rw [List.flatMap_def, List.flatMap_def, KeyedList.map_rewrite]
    intro e eMember sameUid
    rw [inv.entry_of_listUid member eMember sameUid]
    exact ruleIds
  · simp only [storeRules, Function.update_of_ne same]

/-- A rule after the loop was settled by it, or it is of another entry. -/
theorem mem_ruleList_storeRules
    {cls : Cls Uuid CounterHw} {hw : CounterHw}
    {result : List AclRule × CounterHw}
    (rules : result.1 = aclEntry.ruleList.zipIdx.map (settled hw table reads settle))
    {other : AclTable} {e : AclEntry Uuid}
    (eMember : e ∈ (storeRules cls table listId result).classifierHmap other)
    {rule : AclRule}
    (inList : rule ∈ e.ruleList) :
    (other = table ∧ ∃ item ∈ aclEntry.ruleList.zipIdx,
      rule = settled hw table reads settle item) ∨
    ∃ old ∈ cls.classifierHmap other,
      ¬(other = table ∧ old.listUid = listId) ∧ rule ∈ old.ruleList := by
  obtain ⟨old, oldMember, rfl⟩ := mem_storeRules.mp eMember
  split at inList
  · rename_i isTarget
    simp only [rules] at inList
    obtain ⟨item, itemMember, rfl⟩ := List.mem_map.mp inList
    exact .inl ⟨isTarget.1, item, itemMember, rfl⟩
  · rename_i notTarget
    exact .inr ⟨old, oldMember, notTarget, inList⟩

/-- A call that reads the right counters keeps the account of the hits. -/
theorem StatsInv.store
    {hits : AclTable → Nat → Nat}
    (inv : StatsInv system)
    (member : aclEntry ∈ system.cls.classifierHmap table)
    (agree : IndicesAgree tableZero table reads system.cls.hw
      aclEntry.ruleList.zipIdx)
    (keepsId : ∀ rule countPkts, (settle rule countPkts).ruleId = rule.ruleId)
    (readHits : ∀ item ∈ aclEntry.ruleList.zipIdx, reads item.1 item.2 = true →
      hits table item.1.ruleId = (settle item.1 (system.cls.hw.counters table
        (system.cls.hw.index table item.1))).counted)
    (unreadHits : ∀ item ∈ aclEntry.ruleList.zipIdx, reads item.1 item.2 = false →
      hits table item.1.ruleId = system.hits table item.1.ruleId)
    (otherHits : ∀ other, ∀ e ∈ system.cls.classifierHmap other,
      ¬(other = table ∧ e.listUid = aclEntry.listUid) → ∀ rule ∈ e.ruleList,
        hits other rule.ruleId = system.hits other rule.ruleId)
    (tcamId : Nat) :
    StatsInv
      { cls := storeRules system.cls table aclEntry.listUid
          (readCounters tableZero table reads settle 0 tcamId aclEntry.ruleList
            system.cls.hw)
        hits := hits } := by
  obtain ⟨rules, sameIds, frame, cleared⟩ := @readCounters_spec tableZero table
    reads settle aclEntry.ruleList 0 tcamId system.cls.hw agree
    (inv.placed table aclEntry member) (inv.indices_nodup member)
  generalize readCounters tableZero table reads settle 0 tcamId aclEntry.ruleList
    system.cls.hw = result at rules sameIds frame cleared ⊢
  have settledId := settled_ruleId keepsId system.cls.hw table reads
  have ruleIds : result.1.map (·.ruleId) = aclEntry.ruleList.map (·.ruleId) := by
    rw [rules, List.map_map]
    have firsts := congrArg (List.map (·.ruleId))
      (List.zipIdx_map_fst 0 aclEntry.ruleList)
    rw [List.map_map] at firsts
    rw [← firsts]
    exact List.map_congr_left fun item _ => settledId item
  have itemsOnce : (aclEntry.ruleList.zipIdx.map fun item =>
      system.cls.hw.index table item.1).Nodup := by
    have indices := inv.indices_nodup member
    rwa [← List.zipIdx_map_fst 0 aclEntry.ruleList, List.map_map] at indices
  refine ⟨?_, ?_, ?_, ?_, ?_⟩
  · intro other
    rw [storeRules_listUids]
    exact inv.uuidOnce other
  · intro other
    rw [inv.storeRules_ruleIds member ruleIds]
    exact inv.idsOnce other
  · intro other e eMember rule inList
    rw [storeRules, sameIds]
    rcases mem_ruleList_storeRules rules eMember inList with
      ⟨rfl, item, itemMember, rfl⟩ | ⟨old, oldMember, _, inOld⟩
    · rw [settledId]
      exact inv.placed other aclEntry member _
        (List.fst_mem_of_mem_zipIdx itemMember)
    · exact inv.placed other old oldMember rule inOld
  · intro other first second index
    rw [storeRules, sameIds]
    exact inv.apart other first second index
  · intro other e eMember rule inList index known
    simp only [storeRules, sameIds] at known ⊢
    rcases mem_ruleList_storeRules rules eMember inList with
      ⟨rfl, item, itemMember, rfl⟩ | ⟨old, oldMember, notTarget, inOld⟩
    · have inRules := List.fst_mem_of_mem_zipIdx itemMember
      rw [settledId] at known ⊢
      rw [inv.index_eq member inRules] at known
      cases known
      cases isRead : reads item.1 item.2 with
      | true =>
          rw [readHits item itemMember isRead, cleared item itemMember isRead, settled]
          simp [isRead]
      | false =>
          rw [unreadHits item itemMember isRead, frame other _ fun _ => ?_]
          · rw [settled]
            simp only [isRead, Bool.false_eq_true, if_false]
            exact inv.accounted other aclEntry member item.1 inRules _
              (inv.index_eq member inRules)
          · intro read readMember readIsRead same
            have sameItem := List.inj_on_of_nodup_map itemsOnce readMember
              itemMember same
            rw [sameItem, isRead] at readIsRead
            cases readIsRead
    · rw [otherHits other old oldMember notTarget rule inOld, frame other index ?_]
      · exact inv.accounted other old oldMember rule inOld index known
      · rintro rfl item itemMember _ same
        rw [inv.index_eq oldMember inOld] at known
        cases known
        exact inv.index_ne member itemMember oldMember
          (fun sameUid => notTarget ⟨rfl, sameUid⟩) inOld same

omit [DecidableEq Uuid] in
/-- A call that reads the right counters leaves the counters of other entries
alone. -/
theorem StatsInv.spares
    (inv : StatsInv system)
    (member : aclEntry ∈ system.cls.classifierHmap table)
    (agree : IndicesAgree tableZero table reads system.cls.hw
      aclEntry.ruleList.zipIdx)
    (tcamId : Nat) {other : AclTable} {e : AclEntry Uuid} {rule : AclRule}
    (otherMember : e ∈ system.cls.classifierHmap other)
    (notTarget : ¬(other = table ∧ e.listUid = aclEntry.listUid))
    (inOther : rule ∈ e.ruleList) :
    (readCounters tableZero table reads settle 0 tcamId aclEntry.ruleList
      system.cls.hw).2.counters other (system.cls.hw.index other rule) =
    system.cls.hw.counters other (system.cls.hw.index other rule) := by
  obtain ⟨_, _, frame, _⟩ := @readCounters_spec tableZero table reads settle
    aclEntry.ruleList 0 tcamId system.cls.hw agree
    (inv.placed table aclEntry member) (inv.indices_nodup member)
  refine frame other _ ?_
  rintro rfl item itemMember _
  exact inv.index_ne member itemMember otherMember
    (fun sameUid => notTarget ⟨rfl, sameUid⟩) inOther

theorem statsTarget_some
    {cls : Cls Uuid CounterHw} {info : InterfaceInfo} {direction : Direction}
    (target : statsTarget cls listId info direction = some (table, aclEntry)) :
    aclEntry ∈ cls.classifierHmap table ∧ aclEntry.listUid = listId := by
  obtain ⟨found, _, lookup⟩ := Option.bind_eq_some_iff.mp target
  obtain ⟨entry, isFound, equal⟩ := Option.map_eq_some_iff.mp lookup
  cases equal
  exact ⟨List.mem_of_find?_eq_some isFound, by simpa using List.find?_some isFound⟩

end Calls

/-! ## Runs -/

section Runs

variable {Uuid : Type} [DecidableEq Uuid] {tableZero : AclType}
  {system : StatsSystem Uuid}

/-- A call asks for the index of each rule it reads in a table that has the rule
at the same index as its own.  For port lists this is the same table. -/
def IndexSafe (tableZero : AclType) (system : StatsSystem Uuid) :
    StatsOperation Uuid → Prop
  | .hit _ _ => True
  | .get listId info direction numEntries _ _ => ∀ table aclEntry,
      statsTarget system.cls listId info direction = some (table, aclEntry) →
      numEntries + 1 = aclEntry.numRules.toNat →
      IndicesAgree tableZero table (getReads numEntries) system.cls.hw
        aclEntry.ruleList.zipIdx
  | .clear listId info direction _ => ∀ table aclEntry,
      statsTarget system.cls listId info direction = some (table, aclEntry) →
      IndicesAgree tableZero table clearReads system.cls.hw
        aclEntry.ruleList.zipIdx

/-- The counters of the rules of the entries that a call is not about. -/
def Spares (before after : Cls Uuid CounterHw)
    (target : Option (AclTable × AclEntry Uuid)) : Prop :=
  ∀ table aclEntry, target = some (table, aclEntry) →
    ∀ other, ∀ e ∈ before.classifierHmap other,
      ¬(other = table ∧ e.listUid = aclEntry.listUid) → ∀ rule ∈ e.ruleList,
        after.hw.counters other (before.hw.index other rule) =
          before.hw.counters other (before.hw.index other rule)

/-- What a call promises: `ops_xp_cls_stats_get` reports the hits of every rule
with a counter but the last one, and no call takes hits of another entry. -/
def StatsFaithful (tableZero : AclType) (system : StatsSystem Uuid)
    (operation : StatsOperation Uuid) : Prop :=
  match operation with
  | .hit _ _ => True
  | .get listId info direction numEntries unsetTcamId statistics =>
      (∀ table aclEntry,
        statsTarget system.cls listId info direction = some (table, aclEntry) →
        numEntries + 1 = aclEntry.numRules.toNat →
        ∀ (i : Nat) rule, (i : Int) < numEntries → aclEntry.ruleList[i]? = some rule →
          rule.counterEn = true →
          ((clsStatsGet tableZero system.cls listId info direction numEntries
            unsetTcamId statistics).1 i).hitcounts =
              system.hits table rule.ruleId) ∧
      Spares system.cls (statsStep tableZero system operation).cls
        (statsTarget system.cls listId info direction)
  | .clear listId info direction _ =>
      Spares system.cls (statsStep tableZero system operation).cls
        (statsTarget system.cls listId info direction)

theorem StatsInv.hit
    (inv : StatsInv system) (table : AclTable) (ruleId : Nat) :
    StatsInv (statsStep tableZero system (.hit table ruleId)) := by
  have sameIds : (countHit system.cls.hw table ruleId).tcamId =
      system.cls.hw.tcamId := by
    unfold countHit
    split <;> rfl
  refine ⟨inv.uuidOnce, inv.idsOnce, ?_, ?_, ?_⟩
  · simp only [statsStep, sameIds]
    exact inv.placed
  · simp only [statsStep, sameIds]
    exact inv.apart
  · intro other e member rule inList index known
    simp only [statsStep, sameIds] at known ⊢
    rw [inv.accounted other e member rule inList index known]
    unfold countHit
    cases hitIndex : system.cls.hw.tcamId table.aclType ruleId with
    | none =>
        have notHit : ¬(other = table ∧ rule.ruleId = ruleId) := by
          rintro ⟨rfl, rfl⟩
          rw [hitIndex] at known
          cases known
        simp [notHit]
    | some tcamId =>
        have sameHit : (other = table ∧ rule.ruleId = ruleId) ↔
            (other = table ∧ index = tcamId) := by
          refine and_congr_right ?_
          rintro rfl
          constructor
          · rintro rfl
            rw [hitIndex] at known
            exact (Option.some.inj known).symm
          · rintro rfl
            exact inv.apart other _ _ _ known hitIndex
        simp only [sameHit]
        omega

/-- A call that returns before its loop does nothing. -/
theorem StatsInv.step
    (inv : StatsInv system) {operation : StatsOperation Uuid}
    (safe : IndexSafe tableZero system operation) :
    StatsInv (statsStep tableZero system operation) := by
  cases operation with
  | hit table ruleId => exact inv.hit table ruleId
  | get listId info direction numEntries unsetTcamId statistics =>
      simp only [statsStep, clsStatsGet]
      cases target : statsTarget system.cls listId info direction with
      | none => exact inv
      | some found =>
          obtain ⟨table, aclEntry⟩ := found
          obtain ⟨member, rfl⟩ := statsTarget_some target
          by_cases lengthOk : numEntries + 1 = aclEntry.numRules.toNat
          · simp only [ne_eq, lengthOk, not_true, if_false]
            refine inv.store member (safe table aclEntry target lengthOk)
              (by intro _ _; rfl) ?_ (by intro _ _ _; rfl)
              (by intro _ _ _ _ _ _; rfl) unsetTcamId
            intro item itemMember isRead
            have inList := List.fst_mem_of_mem_zipIdx itemMember
            rw [inv.accounted table aclEntry member item.1 inList _
              (inv.index_eq member inList)]
            have counter : item.1.counterEn = true := by
              simp only [getReads, Bool.and_eq_true] at isRead
              exact isRead.2
            simp [AclRule.counted, AclRule.accumulate, counter]
          · simpa [lengthOk] using inv
  | clear listId info direction unsetTcamId =>
      simp only [statsStep, clsStatsClear]
      cases target : statsTarget system.cls listId info direction with
      | none => exact inv
      | some found =>
          obtain ⟨table, aclEntry⟩ := found
          obtain ⟨member, rfl⟩ := statsTarget_some target
          refine inv.store member (safe table aclEntry target)
            (by intro _ _; rfl) ?_ ?_ ?_ unsetTcamId
          · intro item itemMember isRead
            have inList := List.fst_mem_of_mem_zipIdx itemMember
            have wasCleared : clearHits system.hits (some (table, aclEntry)) table
                item.1.ruleId = 0 := if_pos ⟨rfl, item.1, inList, isRead, rfl⟩
            rw [wasCleared, AclRule.counted, AclRule.clear, ite_self]
          · intro item itemMember notRead
            have inList := List.fst_mem_of_mem_zipIdx itemMember
            refine if_neg ?_
            rintro ⟨_, rule, inRules, counter, sameId⟩
            have sameRule := List.inj_on_of_nodup_map (inv.ruleIds_nodup member)
              inRules inList sameId
            rw [sameRule] at counter
            simp [clearReads, counter] at notRead
          · intro other e otherMember notTarget rule inOther
            refine if_neg ?_
            rintro ⟨rfl, read, inRules, _, sameId⟩
            have sameEntry := inv.entry_of_ruleId member inRules otherMember
              inOther sameId
            exact notTarget ⟨rfl, congrArg (·.listUid) sameEntry.symm⟩

theorem StatsInv.faithful
    (inv : StatsInv system) {operation : StatsOperation Uuid}
    (safe : IndexSafe tableZero system operation) :
    StatsFaithful tableZero system operation := by
  cases operation with
  | hit table ruleId => trivial
  | get listId info direction numEntries unsetTcamId statistics =>
      constructor
      · intro table aclEntry target lengthOk i rule below atIndex counter
        obtain ⟨member, rfl⟩ := statsTarget_some target
        have inList := List.mem_of_getElem? atIndex
        have isRead : getReads numEntries rule i = true := by
          simp only [getReads, counter, Bool.and_true, decide_eq_true_eq]
          omega
        obtain ⟨rules, _⟩ := @readCounters_spec tableZero table
          (getReads numEntries) AclRule.accumulate aclEntry.ruleList 0 unsetTcamId
          system.cls.hw (safe table aclEntry target lengthOk)
          (inv.placed table aclEntry member) (inv.indices_nodup member)
        simp only [clsStatsGet, target, ne_eq, lengthOk, not_true, if_false, rules]
        rw [List.getElem?_map, List.getElem?_zipIdx, atIndex]
        simp only [Option.map_some, Nat.zero_add, settled, isRead, if_true]
        have stillRead : getReads numEntries (rule.accumulate
            (system.cls.hw.counters table (system.cls.hw.index table rule))) i =
            true := isRead
        rw [if_pos stillRead, inv.accounted table aclEntry member rule inList _
          (inv.index_eq member inList)]
        simp [AclRule.accumulate, AclRule.counted, counter]
      · intro table aclEntry target other e otherMember notTarget rule inOther
        obtain ⟨member, rfl⟩ := statsTarget_some target
        simp only [statsStep, clsStatsGet, target]
        by_cases lengthOk : numEntries + 1 = aclEntry.numRules.toNat
        · simp only [ne_eq, lengthOk, not_true, if_false]
          exact inv.spares member (safe table aclEntry target lengthOk) unsetTcamId
            otherMember notTarget inOther
        · simp [lengthOk]
  | clear listId info direction unsetTcamId =>
      intro table aclEntry target other e otherMember notTarget rule inOther
      obtain ⟨member, rfl⟩ := statsTarget_some target
      simp only [statsStep, clsStatsClear, target]
      exact inv.spares member (safe table aclEntry target) unsetTcamId otherMember
        notTarget inOther

/-- In every run of hits and statistics calls that find the indices of their
rules, the calls report the hits and lose none. -/
theorem statsFaithful_of_reached
    (reached : Transition.Reach StatsInv (IndexSafe tableZero)
      (statsStep tableZero) system) :
    StatsInv system ∧ ∀ operation, IndexSafe tableZero system operation →
      StatsFaithful tableZero system operation := by
  have inv : StatsInv system :=
    Transition.Reach.invariant StatsInv (fun _ initial => initial)
      (fun _ _ current safe => current.step safe) reached
  exact ⟨inv, fun _ safe => inv.faithful safe⟩

end Runs

/-- A port list is in the table that the code asks. -/
theorem IndicesAgree.pacl (reads : AclRule → Nat → Bool) (hw : CounterHw)
    (items : List (AclRule × Nat)) : IndicesAgree .iacl0 .pacl reads hw items :=
  fun _ _ _ => rfl

/-- Two rules, of which the first has a counter. -/
def sampleAclEntry (listUid : Nat) (info : InterfaceInfo) : AclEntry Nat where
  listUid := listUid
  aclId := 1
  numRules := 2
  ruleList :=
    [{ ruleId := 0, counterEn := true, count := 0 },
     { ruleId := 1, counterEn := false, count := 0 }]
  numIntfs := 1
  intfInfo := info
  clsDirection := .ingress

/-- A port interface, and a VLAN interface with a router behind it. -/
def portInfo : InterfaceInfo := { interface := .port, l3Only := false }

@[inherit_doc portInfo]
def routerInfo : InterfaceInfo := { interface := .vlan, l3Only := true }

/-- List 7 on a port and list 8 on a router interface.  Each table numbers its
entries from zero. -/
def sampleStats : StatsSystem Nat where
  cls :=
    { classifierHmap := fun
        | .pacl => [sampleAclEntry 7 portInfo]
        | .bacl => []
        | .racl => [sampleAclEntry 8 routerInfo]
      aclIds := {1}
      hw :=
        { tcamId := fun
            | .iacl0, id => some id
            | .iacl1, id => some (id + 50)
            | .iacl2, id => some (id + 100)
            | _, _ => none
          counters := fun _ _ => 0 } }
  hits := fun _ _ => 0

theorem sampleStats_inv : StatsInv sampleStats where
  uuidOnce := by
    intro table
    cases table <;> decide
  idsOnce := by
    intro table
    cases table <;> decide
  placed := by
    intro table
    cases table <;> decide
  apart := by
    intro table first second index firstKnown secondKnown
    cases table with
    | pacl => exact (Option.some.inj firstKnown).trans (Option.some.inj secondKnown).symm
    | bacl =>
        have same := (Option.some.inj firstKnown).trans (Option.some.inj secondKnown).symm
        exact Nat.add_right_cancel same
    | racl =>
        have same := (Option.some.inj firstKnown).trans (Option.some.inj secondKnown).symm
        exact Nat.add_right_cancel same
  accounted := by
    intro table e member rule inList index _
    have uncounted : ∀ rule ∈ (sampleAclEntry 0 portInfo).ruleList,
        rule.counted = 0 := by decide
    cases table with
    | pacl =>
        cases List.mem_singleton.mp member
        exact (uncounted rule inList).symm
    | bacl => cases member
    | racl =>
        cases List.mem_singleton.mp member
        exact (uncounted rule inList).symm

/-- `ops_xp_cls_stats_get` for one rule besides the last. -/
def getSample (listId : Nat) (info : InterfaceInfo) : StatsOperation Nat :=
  .get listId info .ingress 1 0 fun _ => { statsEnabled := false, hitcounts := 0 }

/-- Three hits of a port list, which is read after the first and cleared after
the second. -/
def portStatsRun : List (StatsOperation Nat) :=
  [.hit .pacl 0, getSample 7 portInfo, .hit .pacl 0,
   .clear 7 portInfo .ingress 0, .hit .pacl 0]

theorem indexSafe_port (system : StatsSystem Nat) (listId : Nat) :
    IndexSafe .iacl0 system (getSample listId portInfo) ∧
      IndexSafe .iacl0 system (.clear listId portInfo .ingress 0) := by
  have onlyPacl : ∀ table aclEntry, statsTarget system.cls listId portInfo .ingress =
      some (table, aclEntry) → table = .pacl := by
    intro table aclEntry target
    obtain ⟨_, isPacl, lookup⟩ := Option.bind_eq_some_iff.mp target
    obtain ⟨_, _, equal⟩ := Option.map_eq_some_iff.mp lookup
    cases isPacl
    cases equal
    rfl
  constructor
  · intro table aclEntry target _
    cases onlyPacl table aclEntry target
    exact .pacl _ _ _
  · intro table aclEntry target
    cases onlyPacl table aclEntry target
    exact .pacl _ _ _

theorem statsFaithful_portStatsRun :
    StatsFaithful .iacl0 (Transition.run (statsStep .iacl0) sampleStats portStatsRun)
      (getSample 7 portInfo) ∧
    (Transition.run (statsStep .iacl0) sampleStats portStatsRun).hits .pacl 0 = 1 := by
  have start : Transition.Reach StatsInv (@IndexSafe Nat _ .iacl0)
      (statsStep .iacl0) sampleStats := .start sampleStats_inv
  have reached : Transition.Reach StatsInv (@IndexSafe Nat _ .iacl0)
      (statsStep .iacl0)
      (Transition.run (statsStep .iacl0) sampleStats portStatsRun) :=
    start.of_run ⟨trivial, (indexSafe_port _ 7).1, trivial,
      (indexSafe_port _ 7).2, trivial, trivial⟩
  exact ⟨(statsFaithful_of_reached reached).2 _ (indexSafe_port _ 7).1, by decide⟩

/-- A hit of the router list. -/
def routerStatsRun : List (StatsOperation Nat) := [.hit .racl 0]

/-- The router list has its rule at index 100 of its table and the code reads
index 0, where the port table has a rule of the same id. -/
theorem not_statsFaithful_routerStatsRun :
    Transition.Reach StatsInv (fun _ _ => True) (statsStep .iacl0)
      (Transition.run (statsStep .iacl0) sampleStats routerStatsRun) ∧
    ¬StatsFaithful .iacl0
      (Transition.run (statsStep .iacl0) sampleStats routerStatsRun)
      (getSample 8 routerInfo) := by
  constructor
  · have start : Transition.Reach StatsInv (fun _ _ => True)
        (@statsStep Nat _ .iacl0) sampleStats := .start sampleStats_inv
    exact start.of_run ⟨trivial, trivial⟩
  · rintro ⟨reports, _⟩
    have reported := reports .racl (sampleAclEntry 8 routerInfo) (by decide) (by decide)
      0 _ (by decide) rfl rfl
    exact absurd reported (by decide)

end Classifier
end XpliantSwitchd
