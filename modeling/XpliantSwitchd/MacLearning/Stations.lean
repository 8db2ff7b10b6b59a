import XpliantSwitchd.MacLearning.Flushes
import XpliantSwitchd.MacLearning.Moves

/-!
# Stations

Seen from outside the learning table is a list of stations, each of which is known by
its VLAN and its address and is at an interface.  Stations are learned, move to another
interface, and are forgotten.  At which index the hardware keeps a station, and whether
it has to move others out of the way, is no part of this view.
-/

namespace XpliantSwitchd
namespace MacLearning

/-- The stations, the one learned last first, and the limit on their number. -/
structure Directory where
  stations : List FdbEntry
  maxEntries : Nat

/-- What the hardware does to stations during one operation.  An index of the hardware
stands for the station that the code finds there. -/
structure Reply where
  isLearning : Nat → Bool
  finds : Bool
  adds : Bool
  refuses : FdbEntry → Bool
  stationAt : Nat → Option FdbEntry

namespace Directory

variable (reply : Reply) (directory : Directory)

/-- A station with the address of an entry is known. -/
def Knows (entry : FdbEntry) : Prop := entry.key ∈ directory.stations.map (·.key)

instance (entry : FdbEntry) : Decidable (directory.Knows entry) :=
  inferInstanceAs (Decidable (_ ∈ _))

/-- A new station is learned when it is not known and there is room for it. -/
def add (entry : FdbEntry) : Directory :=
  if reply.finds = true ∧ ¬directory.Knows entry ∧
      directory.stations.length < directory.maxEntries ∧ reply.adds = true then
    { directory with stations := entry :: directory.stations }
  else directory

/-- A known station moves to another interface. -/
def move (entry : FdbEntry) : Directory :=
  if reply.finds = true then
    { directory with stations := directory.stations.map fun station =>
        if station.key = entry.key then { station with intfId := entry.intfId }
        else station }
  else directory

/-- Some of the stations are forgotten, unless the hardware refuses. -/
def forget (test : FdbEntry → Bool) : Directory :=
  { directory with stations := directory.stations.filter fun station =>
      !(test station) || reply.refuses station }

/-- A packet was seen. -/
def learn (data : LearningData) : Directory :=
  if reply.isLearning data.fdb.vlanId = true ∧
      mlAddrIsMulticast data.fdb.macAddr false = false then
    let entry := { data.fdb with pktCmd := .fwd, isControl := false }
    match data.reasonCode with
    | .macSaNew => directory.add reply entry
    | .ivifSaMiss => directory.add reply entry
    | .macSaMove => directory.move reply entry
    | .other => directory
  else directory

/-- What an operation does to the stations. -/
def step (env : Env) : Event → Directory
  | .learning ingressVif reasonCode bdId srcMacAddr bufSize =>
      if bufSize < ethHdrSize then directory
      else directory.learn reply (learningData env ingressVif reasonCode bdId srcMacAddr)
  | .learn data => directory.learn reply data
  | .expire e => directory.forget reply fun station => station == e.fdb
  | .aging index =>
      match reply.stationAt index with
      | some aged => directory.forget reply fun station => station == aged
      | none => directory
  | .ageByVlanAndMac vlan macAddr =>
      directory.forget reply fun station => station.key == (vlan, macAddr)
  | .flush dynamicOnly =>
      directory.forget reply fun station => !dynamicOnly || !station.isStatic
  | .flushIntfId intfId dynamicOnly =>
      directory.forget reply fun station =>
        station.intfId == intfId && (!dynamicOnly || !station.isStatic)
  | .flushVlan vlanId => directory.forget reply fun station => station.vlanId == vlanId
  | .flushVlanIntf vlanId intfId =>
      directory.forget reply fun station =>
        station.vlanId == vlanId && station.intfId == intfId
  | .vlanRemoved vlan => directory.forget reply fun station => station.vlanId == vlan
  | .portDown intfId =>
      directory.forget reply fun station =>
        station.intfId == intfId && (!true || !station.isStatic)
  | .vniRemoved vlan vni ifId =>
      directory.forget reply fun station =>
        station.vlanId == vlan && station.intfId == ifId && station.serviceInstId == vni
  | .mlearnTimer => directory
  | .setMaxEntries maxEntries =>
      { directory with maxEntries :=
          if maxEntries < 10 then 10
          else if maxEntries > 1000 * 1000 then 1000 * 1000
          else maxEntries }

end Directory

/-- Each station is known once.  It is unicast, and packets to it are forwarded. -/
structure Directory.Sound (directory : Directory) : Prop where
  once : (directory.stations.map (·.key)).Nodup
  unicast : ∀ station ∈ directory.stations,
    mlAddrIsMulticast station.macAddr false = false
  forwarded : ∀ station ∈ directory.stations,
    station.pktCmd = .fwd ∧ station.isControl = false

/-- Both tables hold the stations, each at the same index. -/
structure Mirrors (ml : Ml) (directory : Directory) : Prop where
  table : ml.table.map (·.fdb) = directory.stations
  hw : ml.hw = ml.table.map fun e => (e.index, e.fdb)
  maxEntries : ml.maxEntries = directory.maxEntries

/-- What the XDK does to the stations of a table. -/
def Operation.reply (operation : Operation) (ml : Ml) : Reply where
  isLearning := operation.xdk.isLearning
  finds := !operation.xdk.findFails
  adds := operation.xdk.addEntry.isSome
  refuses station := ml.table.any fun e =>
    e.fdb == station && !operation.xdk.removeEntryByIndex e.index
  stationAt index := (lookup ml index).map (·.fdb)

/-- The table and the stations side by side. -/
def sideBySide (env : Env) (state : Ml × Directory) (operation : Operation) :
    Ml × Directory :=
  (step env state.1 operation,
    state.2.step (operation.reply state.1) env operation.event)

/-- Every XDK call may fail, except the write of an entry that moved. -/
structure Writes (ml : Ml) (operation : Operation) : Prop
    extends Allowed ml operation where
  writes : operation.xdk.writeEntry = true

/-! ## The stations on their own -/

namespace Directory

variable {reply : Reply} {directory : Directory} {env : Env}

theorem add_length (entry : FdbEntry) :
    (directory.add reply entry).stations.length ≤
      max directory.stations.length directory.maxEntries := by
  unfold add
  split
  · simp only [List.length_cons]
    omega
  · exact Nat.le_max_left _ _

theorem forget_length (test : FdbEntry → Bool) :
    (directory.forget reply test).stations.length ≤
      max directory.stations.length directory.maxEntries :=
  (List.length_filter_le _ _).trans (Nat.le_max_left _ _)

theorem learn_length (data : LearningData) :
    (directory.learn reply data).stations.length ≤
      max directory.stations.length directory.maxEntries := by
  unfold learn
  split
  · simp only
    split
    · exact add_length _
    · exact add_length _
    · unfold move
      split
      · simp
      · exact Nat.le_max_left _ _
    · exact Nat.le_max_left _ _
  · exact Nat.le_max_left _ _

/-- A directory grows up to its limit only. -/
theorem step_length (event : Event) :
    (directory.step reply env event).stations.length ≤
      max directory.stations.length directory.maxEntries := by
  cases event with
  | learning ingressVif reasonCode bdId srcMacAddr bufSize =>
      simp only [step]
      split
      · exact Nat.le_max_left _ _
      · exact learn_length _
  | learn data => exact learn_length data
  | aging index =>
      simp only [step]
      split
      · exact forget_length _
      · exact Nat.le_max_left _ _
  | mlearnTimer => exact Nat.le_max_left _ _
  | setMaxEntries maxEntries => exact Nat.le_max_left _ _
  | _ => exact forget_length _

namespace Sound

theorem add
    {entry : FdbEntry}
    (sound : directory.Sound)
    (unicast : mlAddrIsMulticast entry.macAddr false = false)
    (forwarded : entry.pktCmd = .fwd ∧ entry.isControl = false) :
    (directory.add reply entry).Sound := by
  unfold Directory.add
  split
  · rename_i learns
    exact ⟨List.nodup_cons.mpr ⟨learns.2.1, sound.once⟩,
      List.forall_mem_cons.mpr ⟨unicast, sound.unicast⟩,
      List.forall_mem_cons.mpr ⟨forwarded, sound.forwarded⟩⟩
  · exact sound

theorem move (sound : directory.Sound) (entry : FdbEntry) :
    (directory.move reply entry).Sound := by
  unfold Directory.move
  split
  · have moved : ∀ station : FdbEntry,
        let after := if station.key = entry.key then
          { station with intfId := entry.intfId } else station
        after.key = station.key ∧ after.macAddr = station.macAddr ∧
          after.pktCmd = station.pktCmd ∧ after.isControl = station.isControl := by
      intro station
      simp only
      split <;> exact ⟨rfl, rfl, rfl, rfl⟩
    refine ⟨?_, List.forall_mem_map.mpr ?_, List.forall_mem_map.mpr ?_⟩
    · have keys := List.map_congr_left fun station
          (_ : station ∈ directory.stations) => (moved station).1
      rw [List.map_map]
      exact keys ▸ sound.once
    · intro station member
      rw [(moved station).2.1]
      exact sound.unicast station member
    · intro station member
      rw [(moved station).2.2.1, (moved station).2.2.2]
      exact sound.forwarded station member
  · exact sound

theorem forget (sound : directory.Sound) (test : FdbEntry → Bool) :
    (directory.forget reply test).Sound where
  once := sound.once.sublist (List.filter_sublist.map _)
  unicast station member := sound.unicast station (List.mem_filter.mp member).1
  forwarded station member := sound.forwarded station (List.mem_filter.mp member).1

theorem learn (sound : directory.Sound) (data : LearningData) :
    (directory.learn reply data).Sound := by
  unfold Directory.learn
  split
  · rename_i learns
    simp only
    split
    · exact sound.add learns.2 ⟨rfl, rfl⟩
    · exact sound.add learns.2 ⟨rfl, rfl⟩
    · exact sound.move _
    · exact sound
  · exact sound

theorem step (sound : directory.Sound) (event : Event) :
    (directory.step reply env event).Sound := by
  cases event with
  | learning ingressVif reasonCode bdId srcMacAddr bufSize =>
      simp only [Directory.step]
      split
      · exact sound
      · exact sound.learn _
  | learn data => exact sound.learn data
  | aging index =>
      simp only [Directory.step]
      split
      · exact sound.forget _
      · exact sound
  | mlearnTimer => exact sound
  | setMaxEntries maxEntries => exact ⟨sound.once, sound.unicast, sound.forwarded⟩
  | _ => exact sound.forget _

end Sound
end Directory

/-! ## The table and the stations -/

@[simp] theorem processMlearn_maxEntries (ml : Ml) :
    (processMlearn ml).maxEntries = ml.maxEntries := by
  unfold processMlearn
  split <;> rfl

@[simp] theorem mlearnActionAdd_maxEntries
    (env : Env) (ml : Ml) (entry : FdbEntry) (index reHashIndex : Nat)
    (event : MlearnEvent) :
    (mlearnActionAdd env ml entry index reHashIndex event).maxEntries = ml.maxEntries := by
  simp only [mlearnActionAdd]
  split
  · rw [processMlearn_maxEntries]
    rfl
  · rfl

theorem expireAll_maxEntries
    (env : Env) (xdk : Outcome) (ml : Ml) (entries : List MacEntry) :
    (expireAll env xdk ml entries).maxEntries = ml.maxEntries := by
  unfold expireAll
  induction entries generalizing ml with
  | nil => rfl
  | cons e entries inductionHypothesis =>
      rw [List.foldl_cons, inductionHypothesis]
      cases answer : xdk.removeEntryByIndex e.index with
      | false => rw [expire_of_refused answer]
      | true => rw [expire_of_removed answer, mlearnActionAdd_maxEntries]

theorem fdbFindEntry_error {xdk : Outcome} {hw : HwFdb} {entry : FdbEntry}
    (error : fdbFindEntry xdk hw entry = .error) : xdk.findFails = true := by
  unfold fdbFindEntry at error
  split at error
  · assumption
  · split at error <;> cases error

namespace Mirrors

variable {env : Env} {ml ml' : Ml} {directory : Directory} {operation : Operation}
  {entry : FdbEntry}

theorem congr
    (mirrors : Mirrors ml directory)
    (table : ml'.table = ml.table)
    (hw : ml'.hw = ml.hw)
    (maxEntries : ml'.maxEntries = ml.maxEntries) : Mirrors ml' directory := by
  refine ⟨?_, ?_, maxEntries.trans mirrors.maxEntries⟩
  · rw [table]
    exact mirrors.table
  · rw [hw, table]
    exact mirrors.hw

theorem synced (mirrors : Mirrors ml directory) (inv : FdbInv ml) : Synced ml := by
  refine .of_eq inv.hwIndexOnce inv.hwKeyOnce ?_
  rw [mirrors.hw, List.map_map]
  exact (List.map_id ml.table).symm

theorem length_eq (mirrors : Mirrors ml directory) :
    ml.table.length = directory.stations.length := by
  rw [← mirrors.table, List.length_map]

theorem knows_iff (mirrors : Mirrors ml directory) :
    directory.Knows entry ↔ entry.key ∈ ml.hw.map (·.2.key) := by
  unfold Directory.Knows
  rw [← mirrors.table, mirrors.hw, List.map_map, List.map_map]
  rfl

/-- The hardware refuses to forget a station when it refuses to remove its entry. -/
theorem refuses_iff
    (synced : Synced ml)
    {e : MacEntry}
    (member : e ∈ ml.table) :
    (operation.reply ml).refuses e.fdb = true ↔
      operation.xdk.removeEntryByIndex e.index = false := by
  simp only [Operation.reply, List.any_eq_true, Bool.and_eq_true, beq_iff_eq,
    Bool.not_eq_true']
  constructor
  · rintro ⟨other, otherMember, sameFdb, refused⟩
    have same := synced.eq_of_key member otherMember (congrArg FdbEntry.key sameFdb)
    rwa [same] at refused
  · intro refused
    exact ⟨e, member, rfl, refused⟩

/-- Expiring the entries of some stations forgets these. -/
theorem expireAll
    {entries : List MacEntry} {test : FdbEntry → Bool}
    (mirrors : Mirrors ml directory)
    (synced : Synced ml)
    (env : Env)
    (chosen : ∀ e ∈ ml.table, e.index ∈ entries.map (·.index) ↔ test e.fdb = true) :
    Mirrors (MacLearning.expireAll env operation.xdk ml entries)
      (directory.forget (operation.reply ml) test) := by
  obtain ⟨table, hw⟩ := expireAll_tables env operation.xdk ml entries
  refine ⟨?_, ?_, (expireAll_maxEntries ..).trans mirrors.maxEntries⟩
  · unfold Directory.forget
    rw [table, ← mirrors.table, List.filter_map]
    refine congrArg _ (List.filter_congr fun e member => ?_)
    have refuses := @refuses_iff ml operation synced e member
    rw [Bool.eq_iff_iff, decide_eq_true_iff, chosen e member]
    simp only [Function.comp_apply, Bool.or_eq_true, Bool.not_eq_true', refuses]
    cases test e.fdb <;> simp
  · rw [hw, table, mirrors.hw, List.filter_map]
    rfl

theorem flushWhere
    (mirrors : Mirrors ml directory)
    (synced : Synced ml)
    (env : Env)
    (test : FdbEntry → Bool) :
    Mirrors (MacLearning.flushWhere env operation.xdk ml test)
      (directory.forget (operation.reply ml) test) := by
  refine mirrors.expireAll synced env fun e member => ?_
  simp only [List.mem_map, List.mem_filter, Traversal.mem_visit]
  constructor
  · rintro ⟨other, ⟨otherMember, selected⟩, sameIndex⟩
    rwa [← List.inj_on_of_nodup_map synced.indexOnce otherMember member sameIndex]
  · intro selected
    exact ⟨e, ⟨member, selected⟩, rfl⟩

/-- Expiring one entry forgets its station. -/
theorem expire
    {e : MacEntry} {test : FdbEntry → Bool}
    (mirrors : Mirrors ml directory)
    (synced : Synced ml)
    (env : Env)
    (member : e ∈ ml.table)
    (tests : ∀ other ∈ ml.table, test other.fdb = true ↔ other.key = e.key) :
    Mirrors (MacLearning.expire env operation.xdk ml e).2
      (directory.forget (operation.reply ml) test) := by
  refine @expireAll ml directory operation [e] test mirrors synced env ?_
  intro other otherMember
  rw [tests other otherMember, List.map_singleton, List.mem_singleton]
  constructor
  · intro sameIndex
    rw [List.inj_on_of_nodup_map synced.indexOnce otherMember member sameIndex]
  · intro sameKey
    rw [synced.eq_of_key member otherMember sameKey]

theorem expire_fdb
    {e : MacEntry}
    (mirrors : Mirrors ml directory)
    (synced : Synced ml)
    (env : Env)
    (member : e ∈ ml.table) :
    Mirrors (MacLearning.expire env operation.xdk ml e).2
      (directory.forget (operation.reply ml) fun station => station == e.fdb) := by
  refine mirrors.expire synced env member fun other otherMember => ?_
  rw [beq_iff_eq]
  constructor
  · intro sameFdb
    exact congrArg FdbEntry.key sameFdb
  · intro sameKey
    rw [synced.eq_of_key member otherMember sameKey]

/-- Both tables get a new entry in front, and its place may be vacated for it. -/
theorem insertEntry
    {index reHashIndex : Nat}
    (mirrors : Mirrors ml directory)
    (env : Env)
    (entry : FdbEntry) :
    Mirrors
      (MacLearning.insertEntry env
        { ml with
          hw := (index, entry) ::
            KeyedList.rewrite Prod.fst index (fun slot => (reHashIndex, slot.2)) ml.hw
          table := KeyedList.rewrite (·.index) index
            (fun e => { e with index := reHashIndex }) ml.table }
        entry index reHashIndex)
      { directory with stations := entry :: directory.stations } := by
  have fdbs : (KeyedList.rewrite (·.index) index
      (fun e => { e with index := reHashIndex }) ml.table).map (·.fdb) =
      ml.table.map (·.fdb) := KeyedList.map_rewrite fun _ _ _ => rfl
  have slots : (KeyedList.rewrite (·.index) index
      (fun e => { e with index := reHashIndex }) ml.table).map
        (fun e => (e.index, e.fdb)) =
      KeyedList.rewrite Prod.fst index (fun slot => (reHashIndex, slot.2))
        (ml.table.map fun e => (e.index, e.fdb)) :=
    KeyedList.map_rewrite_view (fun _ => rfl) fun _ => rfl
  refine ⟨?_, ?_, ?_⟩
  · simp [MacLearning.insertEntry, fdbs, mirrors.table]
  · simp [MacLearning.insertEntry, slots, mirrors.hw]
  · simpa [MacLearning.insertEntry] using mirrors.maxEntries

/-- A new station, wherever the hardware puts it. -/
theorem insert
    (mirrors : Mirrors ml directory)
    (contract : AddContract operation.xdk ml.hw)
    (env : Env)
    (unknown : ¬directory.Knows entry)
    (finds : operation.xdk.findFails = false) :
    Mirrors (MacLearning.insert env operation.xdk ml entry).2
      (directory.add (operation.reply ml) entry) := by
  have indices : ml.hw.map Prod.fst = ml.table.map (·.index) := by
    rw [mirrors.hw, List.map_map]
    rfl
  have room : directory.stations.length < directory.maxEntries ↔
      ¬ml.table.length ≥ ml.maxEntries := by
    rw [mirrors.length_eq, mirrors.maxEntries]
    omega
  unfold MacLearning.insert Directory.add
  by_cases full : ml.table.length ≥ ml.maxEntries
  · rw [if_pos full, if_neg fun learns => room.mp learns.2.2.1 full]
    exact mirrors
  · rw [if_neg full]
    unfold fdbAddEntry
    cases added : operation.xdk.addEntry with
    | none =>
        rw [if_neg (by simp [Operation.reply, added])]
        exact mirrors
    | some indexPair =>
        obtain ⟨index, reHashIndex⟩ := indexPair
        have allowed := contract index reHashIndex added
        have inserted := @insertEntry ml directory index reHashIndex mirrors env entry
        rw [if_pos ⟨by simp [Operation.reply, finds], unknown, room.mpr full,
          by simp [Operation.reply, added]⟩]
        simp only
        split
        · rename_i same
          rw [if_pos same, indices] at allowed
          have unmoved : KeyedList.rewrite (·.index) index
              (fun e => { e with index := reHashIndex }) ml.table = ml.table := by
            apply KeyedList.rewrite_of_absent
            rintro e member rfl
            exact allowed (List.mem_map_of_mem member)
          rw [unmoved] at inserted
          exact inserted
        · rename_i different
          rw [if_neg different, indices] at allowed
          split
          · exact inserted
          · rename_i missing
            obtain ⟨e, member, sameIndex⟩ := List.mem_map.mp allowed.1
            exact absurd sameIndex (lookup_none missing e member)

theorem learnNew
    (mirrors : Mirrors ml directory)
    (contract : AddContract operation.xdk ml.hw)
    (env : Env)
    (entry : FdbEntry) :
    Mirrors (MacLearning.learnNew env operation.xdk ml entry).2
      (directory.add (operation.reply ml) entry) := by
  unfold MacLearning.learnNew
  cases answer : fdbFindEntry operation.xdk ml.hw entry with
  | miss =>
      have unknown := fdbFindEntry_miss answer
      rw [← mirrors.knows_iff] at unknown
      have finds : operation.xdk.findFails = false := by
        by_contra fails
        unfold fdbFindEntry at answer
        rw [if_pos (by simpa using fails)] at answer
        cases answer
      exact mirrors.insert contract env unknown finds
  | error =>
      unfold Directory.add
      rw [if_neg (by simp [Operation.reply, fdbFindEntry_error answer])]
      exact mirrors
  | found index =>
      obtain ⟨behind, inHw, key⟩ := fdbFindEntry_found answer
      have known : directory.Knows entry := by
        rw [mirrors.knows_iff, ← key]
        exact List.mem_map.mpr ⟨_, inHw, rfl⟩
      unfold Directory.add
      rw [if_neg (fun learns => learns.2.1 known)]
      exact mirrors

/-- A known station moves in both tables. -/
theorem learnMove
    (mirrors : Mirrors ml directory)
    (synced : Synced ml)
    (writes : operation.xdk.writeEntry = true)
    (env : Env)
    (entry : FdbEntry) :
    Mirrors (MacLearning.learnMove env operation.xdk ml entry).2
      (directory.move (operation.reply ml) entry) := by
  unfold Directory.move
  cases fails : operation.xdk.findFails with
  | true =>
      rw [learnMove_of_findFails fails, if_neg (by simp [Operation.reply, fails])]
      exact mirrors
  | false =>
      rw [if_pos (by simp [Operation.reply, fails])]
      by_cases known : ∃ e ∈ ml.table, e.key = entry.key
      · obtain ⟨e, member, key⟩ := known
        have atIndex : ∀ other ∈ ml.table,
            other.index = e.index ↔ other.fdb.key = entry.key := by
          intro other otherMember
          constructor
          · intro sameIndex
            rw [List.inj_on_of_nodup_map synced.indexOnce otherMember member sameIndex]
            exact key
          · intro sameKey
            rw [synced.eq_of_key member otherMember (sameKey.trans key.symm)]
        rw [synced.learnMove_eq member key fails, if_pos writes]
        refine ⟨?_, ?_, ?_⟩
        · simp only [announced, mlearnActionAdd_table, rerouted]
          rw [← mirrors.table, KeyedList.rewrite, List.map_map, List.map_map]
          apply List.map_congr_left
          intro other otherMember
          simp only [Function.comp_apply]
          by_cases here : other.index = e.index
          · have same := List.inj_on_of_nodup_map synced.indexOnce otherMember member here
            rw [if_pos here, if_pos ((atIndex other otherMember).mp here), same]
            rfl
          · rw [if_neg here, if_neg (mt (atIndex other otherMember).mpr here)]
        · simp only [announced, mlearnActionAdd_table, rerouted]
          have slots : (KeyedList.rewrite (·.index) e.index
              (fun _ => e.withIntf entry.intfId) ml.table).map (fun e => (e.index, e.fdb)) =
              KeyedList.rewrite Prod.fst e.index
                (fun _ => (e.index, (e.withIntf entry.intfId).fdb))
                (ml.table.map fun e => (e.index, e.fdb)) :=
            KeyedList.map_rewrite_view (fun _ => rfl) fun _ => rfl
          rw [mirrors.hw, slots]
        · simpa [announced, rerouted] using mirrors.maxEntries
      · have absent : ∀ e ∈ ml.table, e.key ≠ entry.key :=
          fun e member key => known ⟨e, member, key⟩
        have still : directory.stations.map (fun station =>
            if station.key = entry.key then { station with intfId := entry.intfId }
            else station) = directory.stations := by
          rw [← mirrors.table, List.map_map]
          apply List.map_congr_left
          intro e member
          exact if_neg (absent e member)
        rw [synced.learnMove_of_absent absent, still]
        exact mirrors

theorem learn
    (mirrors : Mirrors ml directory)
    (synced : Synced ml)
    (writes : Writes ml operation)
    (env : Env)
    (data : LearningData) :
    Mirrors (MacLearning.learn env operation.xdk ml data).2
      (directory.learn (operation.reply ml) data) := by
  have may : mayLearn operation.xdk data.fdb.macAddr data.fdb.vlanId = true ↔
      (operation.reply ml).isLearning data.fdb.vlanId = true ∧
        mlAddrIsMulticast data.fdb.macAddr false = false := by
    simp [mayLearn, Operation.reply]
  unfold MacLearning.learn Directory.learn
  by_cases learns : mayLearn operation.xdk data.fdb.macAddr data.fdb.vlanId = true
  · rw [if_neg (by simp [learns]), if_pos (may.mp learns)]
    simp only
    cases data.reasonCode with
    | macSaNew => exact mirrors.learnNew writes.add env _
    | ivifSaMiss => exact mirrors.learnNew writes.add env _
    | macSaMove => exact mirrors.learnMove synced writes.writes env _
    | other => exact mirrors
  · rw [if_pos (by simpa using learns), if_neg (mt may.mpr learns)]
    exact mirrors

/-- One operation does to the tables what it does to the stations. -/
theorem step
    (mirrors : Mirrors ml directory)
    (synced : Synced ml)
    (writes : Writes ml operation) :
    Mirrors (MacLearning.step env ml operation)
      (directory.step (operation.reply ml) env operation.event) := by
  have flushed : ∀ test, Mirrors (MacLearning.flushWhere env operation.xdk ml test)
      (directory.forget (operation.reply ml) test) := mirrors.flushWhere synced env
  unfold MacLearning.step handle Directory.step
  cases isEvent : operation.event with
  | learning ingressVif reasonCode bdId srcMacAddr bufSize =>
      simp only [onLearning]
      split
      · exact mirrors
      · exact mirrors.learn synced writes env _
  | learn data => exact mirrors.learn synced writes env data
  | expire e => exact mirrors.expire_fdb synced env (writes.expire e isEvent)
  | aging index =>
      simp only [ageByIndex, Operation.reply]
      cases found : lookup ml index with
      | some e => exact mirrors.expire_fdb synced env (lookup_some found).1
      | none => exact mirrors
  | ageByVlanAndMac vlan macAddr =>
      simp only [ageByVlanAndMac]
      cases found : lookupByVlanAndMac operation.xdk ml vlan macAddr with
      | some e =>
          obtain ⟨member, key⟩ := operation.xdk.order.of_find?_visit found
          refine mirrors.expire synced env member fun other _ => ?_
          rw [beq_iff_eq] at key ⊢
          rw [key]
          rfl
      | none =>
          have absent := operation.xdk.order.find?_visit_eq_none.mp found
          have kept : directory.forget (operation.reply ml)
              (fun station => station.key == (vlan, macAddr)) = directory := by
            unfold Directory.forget
            rw [← mirrors.table, List.filter_eq_self.mpr, mirrors.table]
            refine List.forall_mem_map.mpr fun e member => ?_
            have different : (e.fdb.key == (vlan, macAddr)) = false := absent e member
            simp [different]
          rw [kept]
          exact mirrors
  | flush dynamicOnly => exact flushed _
  | flushIntfId intfId dynamicOnly => exact flushed _
  | flushVlan vlanId => exact flushed _
  | flushVlanIntf vlanId intfId => exact flushed _
  | vlanRemoved vlan => exact flushed fun station => station.vlanId == vlan
  | portDown intfId =>
      exact flushed fun station =>
        station.intfId == intfId && (!true || !station.isStatic)
  | vniRemoved vlan vni ifId => exact flushed _
  | mlearnTimer => exact mirrors.congr (by simp) (by simp) (by simp)
  | setMaxEntries maxEntries => exact ⟨mirrors.table, mirrors.hw, rfl⟩

end Mirrors

/-! ## Runs -/

/-- In every run over an empty FDB in which the hardware writes the entries that
moved, both tables hold the stations, which are sound, and the next operation does not
let the table grow past its limit. -/
theorem mirrors_of_reached {env : Env} {state : Ml × Directory} {operation : Operation}
    (reached : Transition.Reach
      (fun initial => ∃ maxEntries pluginInterface,
        initial = (macLearningCreate maxEntries pluginInterface [], ⟨[], maxEntries⟩))
      (fun state operation => Writes state.1 operation) (sideBySide env) state)
    (writes : Writes state.1 operation) :
    Mirrors state.1 state.2 ∧ state.2.Sound ∧
      (step env state.1 operation).table.length ≤
        max state.1.table.length state.1.maxEntries := by
  have inv : FdbInv state.1 ∧ Mirrors state.1 state.2 ∧ state.2.Sound := by
    refine Transition.Reach.invariant
      (fun state => FdbInv state.1 ∧ Mirrors state.1 state.2 ∧ state.2.Sound) ?_ ?_ reached
    · rintro _ ⟨maxEntries, pluginInterface, rfl⟩
      refine ⟨macLearningCreate_fdbInv maxEntries pluginInterface
        ⟨List.nodup_nil, List.nodup_nil⟩, ⟨rfl, rfl, rfl⟩, ?_⟩
      constructor <;> simp
    · rintro current next ⟨inv, mirrors, sound⟩ writes
      exact ⟨inv.step writes.toAllowed, mirrors.step (mirrors.synced inv) writes,
        sound.step next.event⟩
  obtain ⟨inv, mirrors, sound⟩ := inv
  have after := @Mirrors.step env _ _ _ mirrors (mirrors.synced inv) writes
  refine ⟨mirrors, sound, ?_⟩
  rw [after.length_eq, mirrors.length_eq, mirrors.maxEntries]
  exact Directory.step_length operation.event

/-- An address moves another one in the hardware, cannot be aged, and is seen on another
interface; the other one is aged. -/
def stationRun : List Operation :=
  [⟨sampleLearning .macSaNew 1 1, accepting 5 5⟩,
   ⟨sampleLearning .macSaNew 2 1, accepting 5 9⟩,
   ⟨.aging 5, { accepting 7 7 with removeEntryByIndex := fun _ => false }⟩,
   ⟨sampleLearning .macSaMove 2 3, accepting 7 7⟩,
   ⟨.aging 9, accepting 7 7⟩]

theorem mirrors_stationRun :
    let state := Transition.run (sideBySide sampleEnv)
      (macLearningCreate 100 true [], ⟨[], 100⟩) stationRun
    Mirrors state.1 state.2 ∧ state.2.Sound ∧
      (step sampleEnv state.1 ⟨.flushVlan 10, accepting 7 7⟩).table.length ≤
        max state.1.table.length state.1.maxEntries := by
  have guarded : Transition.Guarded (fun state operation => Writes state.1 operation)
      (sideBySide sampleEnv) (macLearningCreate 100 true [], ⟨[], 100⟩) stationRun := by
    refine ⟨⟨⟨addContract_of_eq rfl ?_, nofun⟩, rfl⟩,
      ⟨⟨addContract_of_eq rfl ?_, nofun⟩, rfl⟩, ⟨⟨addContract_of_eq rfl ?_, nofun⟩, rfl⟩,
      ⟨⟨addContract_of_eq rfl ?_, nofun⟩, rfl⟩, ⟨⟨addContract_of_eq rfl ?_, nofun⟩, rfl⟩,
      trivial⟩ <;> decide
  exact mirrors_of_reached (.of_run (.start ⟨100, true, rfl⟩) guarded)
    ⟨⟨addContract_of_eq rfl (by decide), nofun⟩, rfl⟩

end MacLearning
end XpliantSwitchd
