import Mathlib.Data.List.Find
import XpliantSwitchd.MacLearning.Table

/-!
# What the switch daemon learns from the handoffs

The daemon replays each handed-off buffer, in whatever order it finds the nodes,
and should end up with the addresses of the software table.  A buffer holds the
net changes since the last handoff as long as it has one node per address.  The
nodes are found by FDB index, though, so an index that passes from one address
to another inside one buffer overwrites the first address, and an address that
comes back at another index gets a second node.
-/

namespace XpliantSwitchd
namespace MacLearning

/-- The interface of each address, as the daemon sees it: addresses are in
normal byte order. -/
abbrev Learned := Nat × MacAddr → Option Nat

/-- An entry's address in normal byte order. -/
def FdbEntry.address (entry : FdbEntry) : Nat × MacAddr :=
  (entry.vlanId, macCopyAndReverse entry.macAddr)

theorem FdbEntry.address_eq_iff {entry other : FdbEntry} :
    entry.address = other.address ↔ entry.key = other.key := by
  simp [FdbEntry.address, FdbEntry.key, macCopyAndReverse_injective.eq_iff]

/-- The map given by a software table. -/
def learned (table : List MacEntry) : Learned := fun address =>
  (table.find? (·.fdb.address == address)).map (·.fdb.intfId)

/-- The address a node is about. -/
def MlearnNode.address (node : MlearnNode) : Nat × MacAddr := (node.vlan, node.mac)

/-- What a node says of its address. -/
def MlearnNode.content (node : MlearnNode) : Option Nat :=
  match node.oper with
  | .add => some node.port
  | .del => none

/-- The daemon's treatment of one node. -/
def applyNode (seen : Learned) (node : MlearnNode) : Learned :=
  Function.update seen node.address node.content

/-- The maps the daemon can arrive at: it starts from the empty map and takes
the nodes of each buffer in any order. -/
inductive Replayed : List Handoff → Learned → Prop
  | start : Replayed [] fun _ => none
  | next {handoff : Handoff} {earlier : List Handoff} {seen : Learned}
      {nodes : List MlearnNode} :
      Replayed earlier seen → nodes.Perm handoff.nodes →
      Replayed (handoff :: earlier) (nodes.foldl applyNode seen)

/-- After each handoff the daemon's map is the one of the software table. -/
def HandoffsFaithful (handoffs : List Handoff) : Prop :=
  ∀ handoff earlier seen, (handoff :: earlier) <:+ handoffs →
    Replayed (handoff :: earlier) seen → seen = learned handoff.table

/-- The map at the last handoff. -/
def lastLearned : List Handoff → Learned
  | [] => fun _ => none
  | handoff :: _ => learned handoff.table

theorem HandoffsFaithful.replayed
    {handoffs : List Handoff} {seen : Learned}
    (faithful : HandoffsFaithful handoffs)
    (replayed : Replayed handoffs seen) : seen = lastLearned handoffs := by
  cases handoffs with
  | nil =>
      cases replayed
      rfl
  | cons handoff earlier =>
      exact faithful handoff earlier seen (List.suffix_refl _) replayed

/-- The map of a daemon that reads each buffer as a list. -/
def replay (handoffs : List Handoff) : Learned :=
  handoffs.foldr (fun handoff seen => handoff.nodes.foldl applyNode seen)
    fun _ => none

theorem replayed_replay (handoffs : List Handoff) :
    Replayed handoffs (replay handoffs) := by
  induction handoffs with
  | nil => exact .start
  | cons handoff earlier inductionHypothesis =>
      exact .next inductionHypothesis (List.Perm.refl _)

/-! ## Replaying one buffer -/

theorem foldl_applyNode_of_not_mem
    {nodes : List MlearnNode} {seen : Learned} {address : Nat × MacAddr}
    (silent : address ∉ nodes.map (·.address)) :
    nodes.foldl applyNode seen address = seen address := by
  induction nodes generalizing seen with
  | nil => rfl
  | cons node nodes inductionHypothesis =>
      obtain ⟨different, rest⟩ := not_or.mp (List.mem_cons.not.mp silent)
      rw [List.foldl_cons, inductionHypothesis rest]
      exact Function.update_of_ne different _ _

theorem foldl_applyNode_of_mem
    {nodes : List MlearnNode} {seen : Learned} {node : MlearnNode}
    (once : (nodes.map (·.address)).Nodup)
    (member : node ∈ nodes) :
    nodes.foldl applyNode seen node.address = node.content := by
  induction nodes generalizing seen with
  | nil => cases member
  | cons head nodes inductionHypothesis =>
      obtain ⟨headNew, restOnce⟩ := List.nodup_cons.mp once
      rw [List.foldl_cons]
      rcases List.mem_cons.mp member with rfl | inRest
      · rw [foldl_applyNode_of_not_mem headNew]
        exact Function.update_self _ _ _
      · exact inductionHypothesis restOnce inRest

/-! ## The invariant of the current buffer -/

/-- The reports of a buffer: the address of each node with what it says. -/
def reports (nodes : List MlearnNode) : List ((Nat × MacAddr) × Option Nat) :=
  nodes.map fun node => (node.address, node.content)

/-- A list of reports is the difference between two maps. -/
structure Describes (news : List ((Nat × MacAddr) × Option Nat))
    (before after : Learned) : Prop where
  once : (news.map Prod.fst).Nodup
  told : ∀ report ∈ news, after report.1 = report.2
  silent : ∀ address, address ∉ news.map Prod.fst →
    after address = before address

theorem Describes.perm
    {news other : List ((Nat × MacAddr) × Option Nat)} {before after : Learned}
    (describes : Describes news before after)
    (perm : other.Perm news) : Describes other before after where
  once := (perm.map Prod.fst).nodup_iff.mpr describes.once
  told := fun report member => describes.told report (perm.mem_iff.mp member)
  silent := by
    intro address unreported
    apply describes.silent address
    intro reported
    exact unreported ((perm.map Prod.fst).mem_iff.mpr reported)

theorem Describes.cons
    {news : List ((Nat × MacAddr) × Option Nat)} {before after : Learned}
    {address : Nat × MacAddr} {value : Option Nat}
    (describes : Describes news before after)
    (new : address ∉ news.map Prod.fst) :
    Describes ((address, value) :: news) before
      (Function.update after address value) where
  once := List.nodup_cons.mpr ⟨new, describes.once⟩
  told := by
    intro report member
    rcases List.mem_cons.mp member with rfl | older
    · exact Function.update_self _ _ _
    · have different : report.1 ≠ address := by
        rintro rfl
        exact new (List.mem_map_of_mem older)
      rw [Function.update_of_ne different]
      exact describes.told report older
  silent := by
    intro other unreported
    obtain ⟨different, rest⟩ := not_or.mp (List.mem_cons.not.mp unreported)
    rw [Function.update_of_ne different]
    exact describes.silent other rest

/-- A report may be left out when it repeats what was known before. -/
theorem Describes.drop
    {news : List ((Nat × MacAddr) × Option Nat)} {before after : Learned}
    {report : (Nat × MacAddr) × Option Nat}
    (describes : Describes (report :: news) before after)
    (known : before report.1 = report.2) : Describes news before after where
  once := (List.nodup_cons.mp describes.once).2
  told := fun other member => describes.told other (List.mem_cons_of_mem _ member)
  silent := by
    intro address unreported
    by_cases dropped : address = report.1
    · rw [dropped, known]
      exact describes.told report (List.mem_cons_self ..)
    · apply describes.silent address
      exact List.mem_cons.not.mpr (not_or.mpr ⟨dropped, unreported⟩)

/-- A new report of an address takes the place of the old one. -/
theorem Describes.renew
    {news : List ((Nat × MacAddr) × Option Nat)} {before after : Learned}
    {address : Nat × MacAddr} {old value : Option Nat}
    (describes : Describes ((address, old) :: news) before after) :
    Describes ((address, value) :: news) before
      (Function.update after address value) := by
  obtain ⟨new, restOnce⟩ := List.nodup_cons.mp describes.once
  refine ⟨List.nodup_cons.mpr ⟨new, restOnce⟩, ?_, ?_⟩
  · intro report member
    rcases List.mem_cons.mp member with rfl | older
    · exact Function.update_self _ _ _
    · have different : report.1 ≠ address := by
        rintro rfl
        exact new (List.mem_map.mpr ⟨report, older, rfl⟩)
      rw [Function.update_of_ne different]
      exact describes.told report (List.mem_cons_of_mem _ older)
  · intro other unreported
    obtain ⟨different, rest⟩ := not_or.mp (List.mem_cons.not.mp unreported)
    rw [Function.update_of_ne different]
    exact describes.silent other (List.mem_cons.not.mpr (not_or.mpr ⟨different, rest⟩))

/-- Replaying a buffer that describes a difference brings the daemon up to
date. -/
theorem Describes.replay
    {nodes order : List MlearnNode} {before after : Learned}
    (describes : Describes (reports nodes) before after)
    (perm : order.Perm nodes) : order.foldl applyNode before = after := by
  have addresses : (reports nodes).map Prod.fst = nodes.map (·.address) := by
    simp [reports]
  have once : (order.map (·.address)).Nodup := by
    rw [(perm.map _).nodup_iff, ← addresses]
    exact describes.once
  funext address
  by_cases reported : address ∈ order.map (·.address)
  · obtain ⟨node, member, rfl⟩ := List.mem_map.mp reported
    rw [foldl_applyNode_of_mem once member]
    have told := describes.told (node.address, node.content)
      (List.mem_map.mpr ⟨node, perm.mem_iff.mp member, rfl⟩)
    exact told.symm
  · rw [foldl_applyNode_of_not_mem reported]
    refine (describes.silent address ?_).symm
    rw [addresses]
    exact fun member => reported ((perm.map _).mem_iff.mpr member)

/-! ## Recording -/

/-- An event can be recorded without loss.  The node that its index leads to is
overwritten, so it is about the same address or repeats what the daemon was told
before; in the second case, when a relocation copies the node, and when there is
no node, no node may be about the event's address. -/
def Recordable (before : Learned) (nodes : List MlearnNode) (entry : FdbEntry)
    (index reHashIndex : Nat) : Prop :=
  match nodes.find? (·.hash == index) with
  | some node =>
      (index = reHashIndex ∧ node.address = entry.address) ∨
        (index = reHashIndex → before node.address = node.content) ∧
          entry.address ∉ nodes.map (·.address)
  | none => entry.address ∉ nodes.map (·.address)

instance (before : Learned) (nodes : List MlearnNode) (entry : FdbEntry)
    (index reHashIndex : Nat) :
    Decidable (Recordable before nodes entry index reHashIndex) := by
  unfold Recordable
  cases nodes.find? (·.hash == index) <;> infer_instance

/-- What an event says of its address. -/
def eventContent (entry : FdbEntry) : MlearnEvent → Option Nat
  | .add => some entry.intfId
  | .del => none

@[simp] theorem mlearnEntryFillData_address
    (env : Env) (node : MlearnNode) (entry : FdbEntry) (event : MlearnEvent) :
    (mlearnEntryFillData env node entry event).address = entry.address := rfl

@[simp] theorem mlearnEntryFillData_content
    (env : Env) (node : MlearnNode) (entry : FdbEntry) (event : MlearnEvent) :
    (mlearnEntryFillData env node entry event).content =
      eventContent entry event := by
  cases event <;> rfl

/-- `fillFirst` rewrites the node that the search finds. -/
theorem fillFirst_split
    {hash : Nat} {nodes : List MlearnNode} {node : MlearnNode}
    (found : nodes.find? (·.hash == hash) = some node)
    (fill : MlearnNode → MlearnNode) :
    ∃ front back, nodes = front ++ node :: back ∧
      fillFirst hash fill nodes = front ++ fill node :: back := by
  induction nodes with
  | nil => cases found
  | cons head nodes inductionHypothesis =>
      by_cases selected : head.hash = hash
      · rw [List.find?_cons_of_pos (by simpa using selected)] at found
        cases found
        exact ⟨[], nodes, rfl, by simp [fillFirst, selected]⟩
      · rw [List.find?_cons_of_neg (by simpa using selected)] at found
        obtain ⟨front, back, split, filled⟩ := inductionHypothesis found
        refine ⟨head :: front, back, ?_, ?_⟩
        · rw [split, List.cons_append]
        · rw [fillFirst, if_neg selected, filled, List.cons_append]

@[simp] theorem reports_cons (node : MlearnNode) (nodes : List MlearnNode) :
    reports (node :: nodes) = (node.address, node.content) :: reports nodes := rfl

@[simp] theorem reports_append (front back : List MlearnNode) :
    reports (front ++ back) = reports front ++ reports back :=
  List.map_append ..

theorem reports_copyNode
    {env : Env} {mhmap : MlearnHmap}
    (room : mhmap.actualSize < env.bufferSize)
    (node : MlearnNode) (hash : Nat) :
    reports (copyNode env mhmap node hash).table =
      (node.address, node.content) :: reports mhmap.table := by
  rw [copyNode, if_pos room]
  rfl

/-- A recorded event becomes the report of its address. -/
theorem recordEvent_describes
    {env : Env} {mhmap : MlearnHmap} {entry : FdbEntry}
    {index reHashIndex : Nat} {before after : Learned}
    (describes : Describes (reports mhmap.table) before after)
    (room : mhmap.actualSize < env.bufferSize)
    (recordable : Recordable before mhmap.table entry index reHashIndex)
    (event : MlearnEvent) :
    Describes
      (reports (recordEvent env mhmap entry index reHashIndex event).table)
      before (Function.update after entry.address (eventContent entry event)) := by
  have addresses : (reports mhmap.table).map Prod.fst =
      mhmap.table.map (·.address) := by simp [reports]
  unfold Recordable at recordable
  unfold recordEvent
  cases found : mhmap.table.find? (·.hash == index) with
  | none =>
      simp only [found] at recordable
      simp only [reports_copyNode room, mlearnEntryFillData_address,
        mlearnEntryFillData_content]
      exact describes.cons (addresses ▸ recordable)
  | some node =>
      simp only [found] at recordable
      obtain ⟨front, back, split, filled⟩ := fillFirst_split found
        (mlearnEntryFillData env · entry event)
      have moved : Describes ((node.address, node.content) ::
          (reports front ++ reports back)) before after := by
        apply describes.perm
        rw [split, reports_append, reports_cons]
        exact List.perm_middle.symm
      have others : entry.address ∉ mhmap.table.map (·.address) →
          entry.address ∉ ((node.address, node.content) ::
            (reports front ++ reports back)).map Prod.fst := by
        rw [split]
        simp only [reports, List.map_append, List.map_cons, List.map_map,
          List.mem_append, List.mem_cons, not_or]
        exact fun ⟨inFront, inNode, inBack⟩ => ⟨inNode, inFront, inBack⟩
      by_cases same : index = reHashIndex
      · have written : Describes ((entry.address, eventContent entry event) ::
            (reports front ++ reports back)) before
            (Function.update after entry.address (eventContent entry event)) := by
          rcases recordable with ⟨_, sameAddress⟩ | ⟨known, new⟩
          · rw [sameAddress] at moved
            exact moved.renew
          · apply (moved.drop (known same)).cons
            intro member
            exact others new (List.mem_cons_of_mem _ member)
        simp only [same, ne_eq, not_true_eq_false, if_false]
        rw [← same, filled, reports_append, reports_cons,
          mlearnEntryFillData_address, mlearnEntryFillData_content]
        exact written.perm List.perm_middle
      · rcases recordable with ⟨absurdSame, _⟩ | ⟨_, new⟩
        · exact absurd absurdSame same
        have skipped : fillFirst index (mlearnEntryFillData env · entry event)
            (copyNode env mhmap node reHashIndex).table =
            { node with slot := mhmap.actualSize, hash := reHashIndex } ::
              (front ++ mlearnEntryFillData env node entry event :: back) := by
          rw [copyNode, if_pos room, fillFirst, if_neg (Ne.symm same), filled]
        simp only [ne_eq, same, not_false_eq_true, if_true]
        rw [skipped, reports_cons, reports_append, reports_cons,
          mlearnEntryFillData_address, mlearnEntryFillData_content]
        refine (moved.cons (others new)).perm ?_
        calc (node.address, node.content) :: (reports front ++
              (entry.address, eventContent entry event) :: reports back)
          _ |>.Perm ((node.address, node.content) ::
              (entry.address, eventContent entry event) ::
                (reports front ++ reports back)) :=
            List.perm_middle.cons _
          _ |>.Perm ((entry.address, eventContent entry event) ::
              (node.address, node.content) :: (reports front ++ reports back)) :=
            List.Perm.swap ..

/-- The event finds room, so the buffer is not empty afterwards. -/
theorem recordEvent_ne_nil
    {env : Env} {mhmap : MlearnHmap}
    (room : mhmap.actualSize < env.bufferSize)
    (entry : FdbEntry) (index reHashIndex : Nat) (event : MlearnEvent) :
    (recordEvent env mhmap entry index reHashIndex event).table ≠ [] := by
  unfold recordEvent
  cases found : mhmap.table.find? (·.hash == index) with
  | none => simp [copyNode, room]
  | some node =>
      obtain ⟨front, back, _, filled⟩ := fillFirst_split found
        (mlearnEntryFillData env · entry event)
      by_cases same : index = reHashIndex
      · simp only [same, ne_eq, not_true_eq_false, if_false]
        rw [← same, filled]
        simp
      · simp [same, copyNode, room, fillFirst, Ne.symm same]

theorem recordEvent_actualSize_le
    {env : Env} {mhmap : MlearnHmap}
    (room : mhmap.actualSize < env.bufferSize)
    (entry : FdbEntry) (index reHashIndex : Nat) (event : MlearnEvent) :
    (recordEvent env mhmap entry index reHashIndex event).actualSize ≤
      env.bufferSize := by
  unfold recordEvent
  split
  · simp only
    split
    · rw [copyNode, if_pos room]
      exact room
    · exact room.le
  · rw [copyNode, if_pos room]
    exact room

/-! ## The current buffer between operations -/

@[simp] theorem currTable_setCurrTable (ml : Ml) (mhmap : MlearnHmap) :
    currTable (setCurrTable ml mhmap) = mhmap :=
  Function.update_self ..

/-- The handoffs so far were faithful, and the current buffer is the difference
between the last one and the software table. -/
structure BufferInv (env : Env) (ml : Ml) : Prop where
  faithful : HandoffsFaithful ml.handoffs
  describes : ml.pluginInterface = true →
    Describes (reports (currTable ml).table) (lastLearned ml.handoffs)
      (learned ml.table)
  room : ml.pluginInterface = true → (currTable ml).actualSize < env.bufferSize

theorem Describes.refl (known : Learned) : Describes [] known known where
  once := List.nodup_nil
  told := by
    intro report member
    cases member
  silent := fun _ _ => rfl

theorem macLearningCreate_bufferInv (env : Env) (maxEntries : Nat)
    (pluginInterface : Bool) (hw : HwFdb) :
    BufferInv env (macLearningCreate maxEntries pluginInterface hw) where
  faithful := by
    intro handoff earlier seen suffix
    cases List.eq_nil_of_suffix_nil suffix
  describes := fun _ => Describes.refl _
  room := fun _ => env.bufferSizePos

/-- Handing off a buffer that describes what has changed. -/
theorem HandoffsFaithful.cons
    {handoffs : List Handoff} {nodes : List MlearnNode} {table : List MacEntry}
    (faithful : HandoffsFaithful handoffs)
    (describes : Describes (reports nodes) (lastLearned handoffs)
      (learned table)) :
    HandoffsFaithful (⟨nodes, table⟩ :: handoffs) := by
  intro handoff earlier seen suffix replayed
  rcases List.suffix_cons_iff.mp suffix with whole | older
  · cases whole
    cases replayed with
    | next before perm =>
        rw [faithful.replayed before]
        exact describes.replay perm
  · exact faithful handoff earlier seen older replayed

/-- `ops_xp_mac_learning_process_mlearn`, called on a buffer with room or on a
full one. -/
theorem bufferInv_processMlearn
    {env : Env} {ml : Ml}
    (faithful : HandoffsFaithful ml.handoffs)
    (describes : ml.pluginInterface = true →
      Describes (reports (currTable ml).table) (lastLearned ml.handoffs)
        (learned ml.table))
    (room : ml.pluginInterface = true → (currTable ml).table = [] →
      (currTable ml).actualSize < env.bufferSize) :
    BufferInv env (processMlearn ml) := by
  unfold processMlearn
  split
  · rename_i handed
    have plugin : ml.pluginInterface = true := (Bool.and_eq_true_iff.mp handed).1
    refine ⟨faithful.cons (describes plugin), ?_, ?_⟩
    · intro _
      simp only [currTable, Function.update_self]
      exact Describes.refl _
    · intro _
      simp only [currTable, Function.update_self]
      exact env.bufferSizePos
  · rename_i kept
    refine ⟨faithful, describes, ?_⟩
    intro plugin
    apply room plugin
    simpa [plugin] using kept

/-- Recording an event right after the software table has changed with it. -/
theorem BufferInv.mlearnActionAdd
    {env : Env} {ml : Ml} {table : List MacEntry} {entry : FdbEntry}
    {index reHashIndex : Nat} {event : MlearnEvent}
    (inv : BufferInv env ml)
    (changed : learned table = Function.update (learned ml.table) entry.address
      (eventContent entry event))
    (recordable : Recordable (lastLearned ml.handoffs) (currTable ml).table entry
      index reHashIndex)
    (hw : HwFdb) :
    BufferInv env (mlearnActionAdd env { ml with table := table, hw := hw } entry
      index reHashIndex event) := by
  unfold MacLearning.mlearnActionAdd
  have current : currTable { ml with table := table, hw := hw } = currTable ml := rfl
  simp only [current]
  have describes : ml.pluginInterface = true →
      Describes (reports (recordEvent env (currTable ml) entry index reHashIndex
        event).table) (lastLearned ml.handoffs) (learned table) := by
    intro plugin
    rw [changed]
    exact recordEvent_describes (inv.describes plugin) (inv.room plugin)
      recordable event
  split
  · refine bufferInv_processMlearn inv.faithful ?_ ?_
    · rw [currTable_setCurrTable]
      exact describes
    · intro plugin empty
      rw [currTable_setCurrTable] at empty
      exact absurd empty (recordEvent_ne_nil (inv.room plugin) _ _ _ _)
  · rename_i notFull
    refine ⟨inv.faithful, ?_, ?_⟩
    · rw [currTable_setCurrTable]
      exact describes
    · intro plugin
      rw [currTable_setCurrTable]
      refine lt_of_le_of_ne (recordEvent_actualSize_le (inv.room plugin) ..) ?_
      simpa [mlearnTableIsFull] using notFull

/-! ## Changes of the software table -/

theorem learned_cons (e : MacEntry) (table : List MacEntry) :
    learned (e :: table) =
      Function.update (learned table) e.fdb.address (some e.fdb.intfId) := by
  funext address
  by_cases same : e.fdb.address = address
  · simp [learned, same]
  · simp [learned, same, Function.update_of_ne (Ne.symm same)]

/-- Indices do not matter to the daemon. -/
theorem learned_relocate (index reHashIndex : Nat) (table : List MacEntry) :
    learned (KeyedList.rewrite (·.index) index
      (fun e => { e with index := reHashIndex }) table) = learned table := by
  funext address
  unfold learned KeyedList.rewrite
  rw [List.find?_map, Option.map_map]
  have sameFdb : ∀ e : MacEntry, (if e.index = index then
      { e with index := reHashIndex } else e).fdb = e.fdb := by
    intro e
    split <;> rfl
  simp only [Function.comp_def, sameFdb]

theorem learned_remove {table : List MacEntry} {e : MacEntry}
    (member : e ∈ table)
    (indexOnce : (table.map (·.index)).Nodup)
    (keyOnce : ∀ e ∈ table, ∀ other ∈ table, e.key = other.key → e = other) :
    learned (KeyedList.remove (·.index) e.index table) =
      Function.update (learned table) e.fdb.address none := by
  have removed : ∀ other ∈ table, other.index ≠ e.index ↔
      other.fdb.address ≠ e.fdb.address := by
    intro other otherMember
    refine not_congr ⟨?_, ?_⟩
    · intro same
      rw [List.inj_on_of_nodup_map indexOnce otherMember member same]
    · intro same
      rw [keyOnce other otherMember e member (FdbEntry.address_eq_iff.mp same)]
  funext address
  unfold learned KeyedList.remove
  rw [List.find?_filter]
  by_cases same : address = e.fdb.address
  · subst same
    rw [Function.update_self, Option.map_eq_none_iff, List.find?_eq_none]
    intro other otherMember
    simpa [imp_iff_not_or, or_comm] using (removed other otherMember).mp
  · rw [Function.update_of_ne same]
    congr 1
    apply List.find?_congr
    intro other otherMember
    by_cases hit : other.fdb.address = address
    · have kept := (removed other otherMember).mpr (hit ▸ same)
      simp [hit, kept]
    · simp [hit]

theorem learned_withIntf {table : List MacEntry} {e : MacEntry}
    (member : e ∈ table)
    (indexOnce : (table.map (·.index)).Nodup)
    (keyOnce : ∀ e ∈ table, ∀ other ∈ table, e.key = other.key → e = other)
    (intfId : Nat) :
    learned (KeyedList.rewrite (·.index) e.index (fun _ => e.withIntf intfId)
      table) = Function.update (learned table) e.fdb.address (some intfId) := by
  have same : ∀ other ∈ table, other.index = e.index → other = e :=
    fun other otherMember => List.inj_on_of_nodup_map indexOnce otherMember member
  funext address
  unfold learned KeyedList.rewrite
  rw [List.find?_map]
  have search : table.find? ((fun other : MacEntry => other.fdb.address == address) ∘
      fun other => if other.index = e.index then e.withIntf intfId else other) =
      table.find? (·.fdb.address == address) := by
    apply List.find?_congr
    intro other otherMember
    by_cases selected : other.index = e.index
    · rw [same other otherMember selected]
      simp [MacEntry.withIntf, FdbEntry.address]
    · simp [selected]
  rw [search]
  cases found : table.find? (·.fdb.address == address) with
  | none =>
      have missed : e.fdb.address ≠ address := by
        simpa using List.find?_eq_none.mp found e member
      rw [Function.update_of_ne (Ne.symm missed)]
      simp [found]
  | some other =>
      have otherMember := List.mem_of_find?_eq_some found
      have hit : other.fdb.address = address := by
        simpa using List.find?_some found
      by_cases selected : other.index = e.index
      · rw [← hit, same other otherMember selected, Function.update_self]
        simp [MacEntry.withIntf]
      · have different : address ≠ e.fdb.address := by
          rw [← hit]
          intro equal
          exact selected (congrArg MacEntry.index (keyOnce other otherMember e
            member (FdbEntry.address_eq_iff.mp equal)))
        rw [Function.update_of_ne different]
        simp [found, selected]

/-! ## Expiry -/

/-- An entry can be expired without loss. -/
def Expirable (ml : Ml) (e : MacEntry) : Prop :=
  Recordable (lastLearned ml.handoffs) (currTable ml).table e.fdb e.index e.index

instance (ml : Ml) (e : MacEntry) : Decidable (Expirable ml e) :=
  inferInstanceAs (Decidable (Recordable _ _ _ _ _))

theorem BufferInv.expire
    {env : Env} {xdk : Outcome} {ml : Ml} {e : MacEntry}
    (inv : BufferInv env ml)
    (fdb : FdbInv ml)
    (member : e ∈ ml.table)
    (expirable : Expirable ml e) :
    BufferInv env (expire env xdk ml e).2 := by
  cases answer : xdk.removeEntryByIndex e.index with
  | false =>
      rw [expire_of_refused answer]
      exact inv
  | true =>
      rw [expire_of_removed answer]
      refine inv.mlearnActionAdd ?_ expirable _
      exact learned_remove member fdb.indexOnce fdb.tablesAgree.keyOnce

/-- Recording adds no address but the one of the event. -/
theorem recordEvent_addresses
    {env : Env} {mhmap : MlearnHmap} {entry : FdbEntry} {index : Nat}
    {event : MlearnEvent} {node : MlearnNode}
    (member : node ∈ (recordEvent env mhmap entry index index event).table) :
    node.address = entry.address ∨ node ∈ mhmap.table := by
  unfold recordEvent at member
  cases found : mhmap.table.find? (·.hash == index) with
  | none =>
      simp only [found, copyNode] at member
      split at member
      · rcases List.mem_cons.mp member with rfl | older
        · exact .inl rfl
        · exact .inr older
      · exact .inr member
  | some first =>
      obtain ⟨front, back, split, filled⟩ := fillFirst_split found
        (mlearnEntryFillData env · entry event)
      simp only [found, ne_eq, not_true_eq_false, if_false, filled,
        List.mem_append, List.mem_cons] at member
      rw [split]
      rcases member with inFront | rfl | inBack
      · exact .inr (List.mem_append_left _ inFront)
      · exact .inl rfl
      · exact .inr (List.mem_append_right _ (List.mem_cons_of_mem _ inBack))

/-- Recording at one index does not change what another index leads to. -/
theorem recordEvent_find?
    {env : Env} {mhmap : MlearnHmap} {entry : FdbEntry} {index other : Nat}
    {event : MlearnEvent}
    (different : index ≠ other) :
    (recordEvent env mhmap entry index index event).table.find?
      (·.hash == other) = mhmap.table.find? (·.hash == other) := by
  unfold recordEvent
  cases found : mhmap.table.find? (·.hash == index) with
  | none =>
      simp only [copyNode]
      split
      · rw [List.find?_cons_of_neg (by simpa using different)]
      · rfl
  | some first =>
      have hash : first.hash = index := by simpa using List.find?_some found
      obtain ⟨front, back, split, filled⟩ := fillFirst_split found
        (mlearnEntryFillData env · entry event)
      have skipped : (first.hash == other) = false := by
        simpa [hash] using different
      have stillSkipped : ((mlearnEntryFillData env first entry event).hash ==
          other) = false := skipped
      simp only [ne_eq, not_true_eq_false, if_false, filled]
      rw [split, List.find?_append, List.find?_append, List.find?_cons,
        List.find?_cons, skipped, stillSkipped]

theorem Recordable.recordEvent
    {before : Learned} {mhmap : MlearnHmap} {entry other : FdbEntry}
    {index otherIndex : Nat}
    (recordable : Recordable before mhmap.table other otherIndex otherIndex)
    (differentIndex : index ≠ otherIndex)
    (differentAddress : entry.address ≠ other.address)
    (env : Env) (event : MlearnEvent) :
    Recordable before (recordEvent env mhmap entry index index event).table other
      otherIndex otherIndex := by
  have stillNew : other.address ∉ mhmap.table.map (·.address) →
      other.address ∉ (MacLearning.recordEvent env mhmap entry index index
        event).table.map (·.address) := by
    intro new member
    obtain ⟨node, nodeMember, equal⟩ := List.mem_map.mp member
    rcases recordEvent_addresses nodeMember with recorded | older
    · exact differentAddress (recorded.symm.trans equal)
    · exact new (List.mem_map.mpr ⟨node, older, equal⟩)
  unfold Recordable at recordable ⊢
  rw [recordEvent_find? differentIndex]
  cases found : mhmap.table.find? (·.hash == otherIndex) with
  | none =>
      simp only [found] at recordable
      exact stillNew recordable
  | some node =>
      simp only [found] at recordable ⊢
      exact recordable.imp id fun ⟨known, new⟩ => ⟨known, stillNew new⟩

theorem Expirable.processMlearn {ml : Ml} {e : MacEntry}
    (expirable : Expirable ml e) : Expirable (processMlearn ml) e := by
  unfold MacLearning.processMlearn
  split
  · simp [Expirable, currTable, Recordable, MlearnHmap.empty]
  · exact expirable

/-- Expiring one entry leaves another one expirable. -/
theorem Expirable.expire
    {ml : Ml} {e other : MacEntry}
    (expirable : Expirable ml other)
    (differentIndex : e.index ≠ other.index)
    (differentKey : e.key ≠ other.key)
    (env : Env) (xdk : Outcome) :
    Expirable (expire env xdk ml e).2 other := by
  cases answer : xdk.removeEntryByIndex e.index with
  | false =>
      rw [expire_of_refused answer]
      exact expirable
  | true =>
      have recorded : Expirable (setCurrTable { ml with
          hw := KeyedList.remove Prod.fst e.index ml.hw
          table := KeyedList.remove (·.index) e.index ml.table }
          (recordEvent env (currTable ml) e.fdb e.index e.index .del)) other := by
        unfold Expirable
        rw [currTable_setCurrTable]
        exact Recordable.recordEvent expirable differentIndex
          (FdbEntry.address_eq_iff.not.mpr differentKey) env .del
      rw [expire_of_removed answer, mlearnActionAdd]
      split
      · exact recorded.processMlearn
      · exact recorded

theorem mem_expire_table
    {env : Env} {xdk : Outcome} {ml : Ml} {e other : MacEntry}
    (member : other ∈ ml.table)
    (different : other.index ≠ e.index) :
    other ∈ (expire env xdk ml e).2.table := by
  cases answer : xdk.removeEntryByIndex e.index with
  | false =>
      rw [expire_of_refused answer]
      exact member
  | true =>
      rw [expire_of_removed answer, mlearnActionAdd_table]
      exact KeyedList.mem_remove.mpr ⟨member, different⟩

/-- The loops over the table. -/
theorem BufferInv.expireAll
    {env : Env} {xdk : Outcome} {ml : Ml} {entries : List MacEntry}
    (inv : BufferInv env ml)
    (fdb : FdbInv ml)
    (members : ∀ e ∈ entries, e ∈ ml.table)
    (once : entries.Nodup)
    (expirable : ∀ e ∈ entries, Expirable ml e) :
    BufferInv env (expireAll env xdk ml entries) := by
  unfold MacLearning.expireAll
  induction entries generalizing ml with
  | nil => exact inv
  | cons e entries inductionHypothesis =>
      obtain ⟨new, restOnce⟩ := List.nodup_cons.mp once
      have member := members e (List.mem_cons_self ..)
      have apart : ∀ other ∈ entries, other ∈ ml.table ∧ other ≠ e := by
        intro other otherMember
        refine ⟨members other (List.mem_cons_of_mem _ otherMember), ?_⟩
        rintro rfl
        exact new otherMember
      have differentIndex : ∀ other ∈ entries, other.index ≠ e.index := by
        intro other otherMember same
        obtain ⟨inTable, different⟩ := apart other otherMember
        exact different
          (List.inj_on_of_nodup_map fdb.indexOnce inTable member same)
      refine inductionHypothesis
        (inv.expire fdb member (expirable e (List.mem_cons_self ..)))
        (fdb.expire env xdk e) ?_ restOnce ?_
      · intro other otherMember
        exact mem_expire_table (apart other otherMember).1
          (differentIndex other otherMember)
      · intro other otherMember
        obtain ⟨inTable, different⟩ := apart other otherMember
        refine (expirable other (List.mem_cons_of_mem _ otherMember)).expire
          (Ne.symm (differentIndex other otherMember)) ?_ env xdk
        intro same
        exact different
          (fdb.tablesAgree.keyOnce e member other inTable same).symm

/-- Every entry that a test selects can be expired without loss. -/
def FlushRecordable (ml : Ml) (test : FdbEntry → Bool) : Prop :=
  ∀ e ∈ ml.table, test e.fdb = true → Expirable ml e

theorem BufferInv.flushWhere
    {env : Env} {xdk : Outcome} {ml : Ml} {test : FdbEntry → Bool}
    (inv : BufferInv env ml)
    (fdb : FdbInv ml)
    (expirable : FlushRecordable ml test) :
    BufferInv env (flushWhere env xdk ml test) := by
  have visited : ∀ e ∈ (xdk.order.visit ml.table).filter (fun e => test e.fdb),
      e ∈ ml.table ∧ test e.fdb = true := by
    intro e member
    obtain ⟨seen, passes⟩ := List.mem_filter.mp member
    exact ⟨(xdk.order.perm ml.table).mem_iff.mp seen, passes⟩
  refine inv.expireAll fdb (fun e member => (visited e member).1) ?_ ?_
  · refine List.Nodup.filter _ ?_
    rw [(xdk.order.perm ml.table).nodup_iff]
    exact fdb.indexOnce.of_map _
  · intro e member
    exact expirable e (visited e member).1 (visited e member).2

/-! ## Learning -/

/-- Whether a new address can be learned without loss, given the indices that
the hardware returns. -/
def InsertRecordable (xdk : Outcome) (ml : Ml) (entry : FdbEntry) : Prop :=
  ∀ index reHashIndex, ml.table.length < ml.maxEntries →
    xdk.addEntry = some (index, reHashIndex) →
    (index ≠ reHashIndex → lookup ml index ≠ none) →
    Recordable (lastLearned ml.handoffs) (currTable ml).table entry index
      reHashIndex

/-- Whether an address can be moved without loss. -/
def MoveRecordable (xdk : Outcome) (ml : Ml) (entry : FdbEntry) : Prop :=
  ∀ index updE, fdbFindEntry xdk ml.hw entry = .found index →
    lookup ml index = some updE → Expirable ml updE

/-- Whether a learning event can be recorded without loss. -/
def LearnRecordable (xdk : Outcome) (ml : Ml) (data : LearningData) : Prop :=
  mayLearn xdk data.fdb.macAddr data.fdb.vlanId = true →
    match data.reasonCode with
    | .macSaNew | .ivifSaMiss =>
        fdbFindEntry xdk ml.hw data.fdb = .miss → InsertRecordable xdk ml data.fdb
    | .macSaMove => MoveRecordable xdk ml data.fdb
    | .other => True

theorem BufferInv.changeHw {env : Env} {ml : Ml}
    (inv : BufferInv env ml)
    (hw : HwFdb) : BufferInv env { ml with hw := hw } :=
  ⟨inv.faithful, inv.describes, inv.room⟩

theorem BufferInv.insert
    {env : Env} {xdk : Outcome} {ml : Ml} {entry : FdbEntry}
    (inv : BufferInv env ml)
    (recordable : InsertRecordable xdk ml entry) :
    BufferInv env (insert env xdk ml entry).2 := by
  unfold MacLearning.insert
  split
  · exact inv
  · rename_i notFull
    unfold fdbAddEntry
    cases added : xdk.addEntry with
    | none => exact inv
    | some indices =>
        obtain ⟨index, reHashIndex⟩ := indices
        have record := recordable index reHashIndex (not_le.mp notFull) added
        simp only
        split
        · rename_i same
          refine inv.mlearnActionAdd (learned_cons _ _) (record ?_) _
          exact fun different => absurd same different
        · split
          · rename_i occupied
            refine inv.mlearnActionAdd ?_ (record ?_) _
            · rw [learned_cons, learned_relocate]
              rfl
            · intro _ missing
              have found : lookup ml index = some _ := occupied
              rw [missing] at found
              cases found
          · exact inv.changeHw _

theorem BufferInv.learnMove
    {env : Env} {xdk : Outcome} {ml : Ml} {entry : FdbEntry}
    (inv : BufferInv env ml)
    (fdb : FdbInv ml)
    (writes : xdk.writeEntry = true)
    (recordable : MoveRecordable xdk ml entry) :
    BufferInv env (learnMove env xdk ml entry).2 := by
  unfold MacLearning.learnMove
  split
  · exact inv
  · exact inv
  · rename_i index found
    split
    · exact inv.changeHw _
    · rename_i updE search
      obtain ⟨member, rfl⟩ := lookup_some search
      simp only [fdbWriteEntry, writes, if_true]
      have record : Recordable (lastLearned ml.handoffs) (currTable ml).table
          (updE.withIntf entry.intfId).fdb updE.index updE.index :=
        recordable _ updE found search
      refine BufferInv.changeHw ?_ _
      refine inv.mlearnActionAdd ?_ record ml.hw
      exact learned_withIntf member fdb.indexOnce fdb.tablesAgree.keyOnce _

theorem BufferInv.learn
    {env : Env} {xdk : Outcome} {ml : Ml} {data : LearningData}
    (inv : BufferInv env ml)
    (fdb : FdbInv ml)
    (writes : xdk.writeEntry = true)
    (recordable : LearnRecordable xdk ml data) :
    BufferInv env (learn env xdk ml data).2 := by
  have learnNew : (fdbFindEntry xdk ml.hw data.fdb = .miss →
      InsertRecordable xdk ml data.fdb) → BufferInv env (learnNew env xdk ml
        { data.fdb with pktCmd := .fwd, isControl := false }).2 := by
    intro insertable
    unfold MacLearning.learnNew
    split
    · rename_i miss
      exact inv.insert (insertable miss)
    · exact inv
    · exact inv
  unfold MacLearning.learn
  split
  · exact inv
  · rename_i learnable
    have condition := recordable (by simpa using learnable)
    simp only
    split
    · rename_i reason
      simp only [reason] at condition
      exact learnNew condition
    · rename_i reason
      simp only [reason] at condition
      exact learnNew condition
    · rename_i reason
      simp only [reason] at condition
      exact inv.learnMove fdb writes condition
    · exact inv

/-! ## Runs -/

/-- Whether an operation can be recorded in the current buffer without loss. -/
def EventRecordable (env : Env) (xdk : Outcome) (ml : Ml) : Event → Prop
  | .learning ingressVif reasonCode bdId srcMacAddr bufSize =>
      ethHdrSize ≤ bufSize → LearnRecordable xdk ml
        (learningData env ingressVif reasonCode bdId srcMacAddr)
  | .learn data => LearnRecordable xdk ml data
  | .expire e => Expirable ml e
  | .aging index => ∀ e, lookup ml index = some e → Expirable ml e
  | .ageByVlanAndMac vlan macAddr =>
      FlushRecordable ml fun entry => entry.key == (vlan, macAddr)
  | .flush dynamicOnly =>
      FlushRecordable ml fun entry => !dynamicOnly || !entry.isStatic
  | .flushIntfId intfId dynamicOnly =>
      FlushRecordable ml fun entry =>
        entry.intfId == intfId && (!dynamicOnly || !entry.isStatic)
  | .flushVlan vlanId => FlushRecordable ml fun entry => entry.vlanId == vlanId
  | .flushVlanIntf vlanId intfId =>
      FlushRecordable ml fun entry =>
        entry.vlanId == vlanId && entry.intfId == intfId
  | .vlanRemoved vlan => FlushRecordable ml fun entry => entry.vlanId == vlan
  | .portDown intfId =>
      FlushRecordable ml fun entry => entry.intfId == intfId && !entry.isStatic
  | .vniRemoved vlan vni ifId =>
      FlushRecordable ml fun entry =>
        entry.vlanId == vlan && entry.intfId == ifId && entry.serviceInstId == vni
  | .mlearnTimer => True
  | .setMaxEntries _ => True

/-- All XDK calls succeed, and the operation is recorded without loss. -/
structure Lossless (env : Env) (ml : Ml) (operation : Operation) : Prop
    extends Faultless ml operation where
  recordable : EventRecordable env operation.xdk ml operation.event

theorem BufferInv.step
    {env : Env} {ml : Ml} {operation : Operation}
    (inv : BufferInv env ml)
    (fdb : FdbInv ml)
    (lossless : Lossless env ml operation) :
    BufferInv env (step env ml operation) := by
  obtain ⟨event, xdk⟩ := operation
  have recordable : EventRecordable env xdk ml event := lossless.recordable
  have writes : xdk.writeEntry = true := lossless.writes
  have flushed : ∀ test, FlushRecordable ml test →
      BufferInv env (MacLearning.flushWhere env xdk ml test) :=
    fun test => inv.flushWhere fdb
  cases event with
  | learning ingressVif reasonCode bdId srcMacAddr bufSize =>
      simp only [MacLearning.step, handle, onLearning]
      split
      · exact inv
      · rename_i enough
        exact inv.learn fdb writes (recordable (not_lt.mp enough))
  | learn data => exact inv.learn fdb writes recordable
  | expire e => exact inv.expire fdb (lossless.expire e rfl) recordable
  | aging index =>
      simp only [MacLearning.step, handle, ageByIndex]
      split
      · rename_i e found
        exact inv.expire fdb (lookup_some found).1 (recordable e found)
      · exact inv
  | ageByVlanAndMac vlan macAddr =>
      simp only [MacLearning.step, handle, MacLearning.ageByVlanAndMac]
      split
      · rename_i e found
        obtain ⟨member, selected⟩ := xdk.order.of_find?_visit found
        exact inv.expire fdb member (recordable e member selected)
      · exact inv
  | flush dynamicOnly =>
      simp only [MacLearning.step, handle, flush]
      exact flushed _ recordable
  | flushIntfId intfId dynamicOnly =>
      simp only [MacLearning.step, handle, flushIntfId]
      exact flushed _ recordable
  | flushVlan vlanId =>
      simp only [MacLearning.step, handle, flushVlan]
      exact flushed _ recordable
  | flushVlanIntf vlanId intfId =>
      simp only [MacLearning.step, handle, flushVlanIntf]
      exact flushed _ recordable
  | vlanRemoved vlan =>
      simp only [MacLearning.step, handle, processVlanRemoved, flushVlan]
      exact flushed _ recordable
  | portDown intfId =>
      simp only [MacLearning.step, handle, processPortDown, flushIntfId]
      exact flushed _ recordable
  | vniRemoved vlan vni ifId =>
      simp only [MacLearning.step, handle, onVniRemoved]
      exact flushed _ recordable
  | mlearnTimer =>
      exact bufferInv_processMlearn inv.faithful inv.describes
        fun plugin _ => inv.room plugin
  | setMaxEntries maxEntries => exact ⟨inv.faithful, inv.describes, inv.room⟩

/-- In every run whose events are recorded without loss, the daemon's map is
the software table's after each handoff, whatever order it reads the nodes
in. -/
theorem handoffsFaithful_of_reached {env : Env} {ml : Ml}
    (reached : Reached env (Lossless env) ml) :
    HandoffsFaithful ml.handoffs := by
  have both : FdbInv ml ∧ BufferInv env ml := by
    refine Transition.Reach.invariant (fun ml => FdbInv ml ∧ BufferInv env ml)
      ?_ ?_ reached
    · rintro _ ⟨maxEntries, pluginInterface, hw, unique, rfl⟩
      exact ⟨macLearningCreate_fdbInv maxEntries pluginInterface unique,
        macLearningCreate_bufferInv env maxEntries pluginInterface hw⟩
    · rintro current operation ⟨fdb, inv⟩ lossless
      exact ⟨fdb.step lossless.toAllowed, inv.step fdb lossless⟩
  exact both.2.faithful

/-- An address is aged and its index passes to another address before the next
handoff. -/
def reusedIndexRun : List Operation :=
  [⟨sampleLearning .macSaNew 1 1, accepting 5 5⟩,
   ⟨.mlearnTimer, accepting 7 7⟩,
   ⟨.aging 5, accepting 7 7⟩,
   ⟨sampleLearning .macSaNew 2 1, accepting 5 5⟩,
   ⟨.mlearnTimer, accepting 7 7⟩]

/-- The daemon keeps the aged address for ever. -/
theorem not_handoffsFaithful_reusedIndexRun :
    Reached sampleEnv Faultless
      (Transition.run (step sampleEnv) (macLearningCreate 100 true [])
        reusedIndexRun) ∧
    ¬ HandoffsFaithful (Transition.run (step sampleEnv)
        (macLearningCreate 100 true []) reusedIndexRun).handoffs := by
  constructor
  · have initial : Reached sampleEnv Faultless (macLearningCreate 100 true []) :=
      .start ⟨100, true, [], ⟨List.nodup_nil, List.nodup_nil⟩, rfl⟩
    refine initial.of_run ⟨?_, ?_, ?_, ?_, ?_, trivial⟩ <;>
      exact faultless_accepting (fun e => Event.noConfusion) (by decide)
  · intro faithful
    have same := congrFun (faithful.replayed (replayed_replay _))
      (10, #v[2, 0, 0, 0, 0, 1])
    revert same
    decide

/-- An address is learned and handed off, then moved and aged, and handed off
again. -/
def losslessRun : List Operation :=
  [⟨sampleLearning .macSaNew 1 1, accepting 5 5⟩,
   ⟨.mlearnTimer, accepting 7 7⟩,
   ⟨sampleLearning .macSaMove 1 2, accepting 7 7⟩,
   ⟨.aging 5, accepting 7 7⟩,
   ⟨.mlearnTimer, accepting 7 7⟩]

theorem handoffsFaithful_losslessRun :
    HandoffsFaithful (Transition.run (step sampleEnv)
        (macLearningCreate 100 true []) losslessRun).handoffs := by
  have initial : Reached sampleEnv (Lossless sampleEnv)
      (macLearningCreate 100 true []) :=
    .start ⟨100, true, [], ⟨List.nodup_nil, List.nodup_nil⟩, rfl⟩
  have faultless : ∀ {ml : Ml} {event : Event} {index : Nat},
      (∀ e, event ≠ .expire e) → index ∉ ml.hw.map Prod.fst →
      EventRecordable sampleEnv (accepting index index) ml event →
      Lossless sampleEnv ml ⟨event, accepting index index⟩ :=
    fun notExpire free recordable =>
      ⟨faultless_accepting notExpire ((if_pos rfl).mpr free), recordable⟩
  refine handoffsFaithful_of_reached (initial.of_run ⟨?_, ?_, ?_, ?_, ?_, trivial⟩)
  · refine faultless (fun e => Event.noConfusion) (by decide) ?_
    intro _ _ _ index reHashIndex _ added _
    cases added
    decide
  · exact faultless (fun e => Event.noConfusion) (by decide) trivial
  · refine faultless (fun e => Event.noConfusion) (by decide) ?_
    have all : ∀ e ∈ (Transition.run (step sampleEnv)
        (macLearningCreate 100 true []) (losslessRun.take 2)).table,
        Expirable (Transition.run (step sampleEnv)
          (macLearningCreate 100 true []) (losslessRun.take 2)) e := by decide
    intro _ _ index updE _ search
    exact all updE (lookup_some search).1
  · refine faultless (fun e => Event.noConfusion) (by decide) ?_
    have all : ∀ e ∈ (Transition.run (step sampleEnv)
        (macLearningCreate 100 true []) (losslessRun.take 3)).table,
        Expirable (Transition.run (step sampleEnv)
          (macLearningCreate 100 true []) (losslessRun.take 3)) e := by decide
    intro e search
    exact all e (lookup_some search).1
  · exact faultless (fun e => Event.noConfusion) (by decide) trivial

end MacLearning
end XpliantSwitchd
