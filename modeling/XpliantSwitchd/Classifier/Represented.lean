import Mathlib.Data.Finset.Lattice.Fold
import XpliantSwitchd.Classifier.Settling

/-!
# Maps and memory

The maps of the classifier have the rules of an entry as a list.  The source has
blocks of memory and links between them.  The operations on links do to the memory
what those on maps do to the maps, and they are defined together, so the maps of
every run have a memory that a run of the operations on links reaches.
-/

namespace XpliantSwitchd
namespace Classifier

open Ternary XpliantSwitchd.Ring

variable {Uuid Hw : Type}

/-- The memory of the maps: whole lists with the rules of the entries. -/
structure Represents (heap : RuleHeap Uuid) (blocks : AclTable → Uuid → List Nat)
    (cls : Cls Uuid Hw) : Prop extends Linked heap blocks where
  found : ∀ table listId, heap.present table listId = true ↔
    ∃ e ∈ cls.classifierHmap table, e.listUid = listId
  rules : ∀ table, ∀ e ∈ cls.classifierHmap table,
    (blocks table e.listUid).map heap.rules = e.ruleList
  counts : ∀ table, ∀ e ∈ cls.classifierHmap table,
    heap.numRules table e.listUid = e.numRules

section Changes

variable {heap heap' : RuleHeap Uuid} {blocks blocks' : AclTable → Uuid → List Nat}
  {cls after : Cls Uuid Hw}

/-- A step that changes some entries, in the maps and in memory. -/
theorem Represents.change
    {touched : List (Addr Uuid)} (changed : AclTable → Uuid → Prop)
    (represents : Represents heap blocks cls)
    (linked : Linked heap' blocks')
    (leaves : Leaves heap heap' touched)
    (kept : ∀ table listId, ¬changed table listId →
      blocks' table listId = blocks table listId ∧ .entry table listId ∉ touched ∧
        ∀ block ∈ blocks table listId, .rule block ∉ touched)
    (keptMaps : ∀ table e, ¬changed table e.listUid →
      (e ∈ after.classifierHmap table ↔ e ∈ cls.classifierHmap table))
    (found : ∀ table listId, changed table listId →
      (heap'.present table listId = true ↔
        ∃ e ∈ after.classifierHmap table, e.listUid = listId))
    (renewed : ∀ table, ∀ e ∈ after.classifierHmap table, changed table e.listUid →
      (blocks' table e.listUid).map heap'.rules = e.ruleList ∧
        heap'.numRules table e.listUid = e.numRules) :
    Represents heap' blocks' after := by
  refine ⟨linked, ?_, ?_, ?_⟩
  · intro table listId
    by_cases isChanged : changed table listId
    · exact found table listId isChanged
    · rw [leaves.present table listId (kept table listId isChanged).2.1,
        represents.found table listId]
      constructor
      · rintro ⟨e, member, rfl⟩
        exact ⟨e, (keptMaps table e isChanged).mpr member, rfl⟩
      · rintro ⟨e, member, rfl⟩
        exact ⟨e, (keptMaps table e isChanged).mp member, rfl⟩
  · intro table e member
    by_cases isChanged : changed table e.listUid
    · exact (renewed table e member isChanged).1
    · obtain ⟨same, _, rulesKept⟩ := kept table e.listUid isChanged
      rw [same, ← represents.rules table e ((keptMaps table e isChanged).mp member)]
      refine List.map_congr_left ?_
      intro block isOld
      exact leaves.rules block (rulesKept block isOld)
  · intro table e member
    by_cases isChanged : changed table e.listUid
    · exact (renewed table e member isChanged).2
    · rw [leaves.numRules _ _ (kept table e.listUid isChanged).2.1]
      exact represents.counts table e ((keptMaps table e isChanged).mp member)

/-- The memory has nothing of the other fields of entries. -/
theorem Represents.of_maps
    (represents : Represents heap blocks cls)
    (same : ∀ table,
      (after.classifierHmap table).map (fun e => (e.listUid, e.ruleList, e.numRules)) =
        (cls.classifierHmap table).map fun e => (e.listUid, e.ruleList, e.numRules)) :
    Represents heap blocks after := by
  have origin : ∀ {first second : Cls Uuid Hw} {table : AclTable} {e : AclEntry Uuid},
      (first.classifierHmap table).map (fun e => (e.listUid, e.ruleList, e.numRules)) =
        (second.classifierHmap table).map
          (fun e => (e.listUid, e.ruleList, e.numRules)) →
      e ∈ first.classifierHmap table → ∃ other ∈ second.classifierHmap table,
        other.listUid = e.listUid ∧ other.ruleList = e.ruleList ∧
          other.numRules = e.numRules := by
    intro first second table e equal member
    have image : (e.listUid, e.ruleList, e.numRules) ∈ (second.classifierHmap table).map
        fun e => (e.listUid, e.ruleList, e.numRules) := by
      rw [← equal]
      exact List.mem_map.mpr ⟨e, member, rfl⟩
    obtain ⟨other, otherMember, sameFields⟩ := List.mem_map.mp image
    simp only [Prod.mk.injEq] at sameFields
    exact ⟨other, otherMember, sameFields⟩
  refine ⟨represents.toLinked, ?_, ?_, ?_⟩
  · intro table listId
    rw [represents.found table listId]
    constructor
    · rintro ⟨e, member, rfl⟩
      obtain ⟨other, otherMember, uid, _⟩ := origin (same table).symm member
      exact ⟨other, otherMember, uid⟩
    · rintro ⟨e, member, rfl⟩
      obtain ⟨other, otherMember, uid, _⟩ := origin (same table) member
      exact ⟨other, otherMember, uid⟩
  · intro table e member
    obtain ⟨other, otherMember, uid, rules, _⟩ := origin (same table) member
    rw [← uid, ← rules]
    exact represents.rules table other otherMember
  · intro table e member
    obtain ⟨other, otherMember, uid, _, numRules⟩ := origin (same table) member
    rw [← uid, ← numRules]
    exact represents.counts table other otherMember

end Changes

/-! ## The rules that the loop makes -/

/-- Rules for the entries of a list, with what the TCAM manager returned for each. -/
def indexedRules (ruleIndex : Nat → Nat) (entries : List ListEntry) : List AclRule :=
  entries.zipIdx.map fun item =>
    { ruleId := ruleIndex item.2, counterEn := item.1.entryActions.count, count := 0 }

theorem newRules_eq (made : Made) (table : AclTable) (entries : List ListEntry) :
    newRules made table entries = indexedRules (made.ruleIndex table) entries := by
  rw [newRules, madeRules, indexedRules, List.map_map]
  rfl

/-- The loop of `ops_xp_cls_create_rule_entry_list` makes a rule for each entry. -/
theorem createRules_indexed (xdk : Xdk Hw) (outcome : Outcome) (aclType : AclType)
    (aclId : Byte) (numEntries : Nat) (entries : List ListEntry) (first : Nat)
    (created : List AclRule × Hw) :
    ∃ ruleIndex : Nat → Nat, ((entries.zipIdx first).foldl
        (createRule xdk outcome aclType aclId numEntries) created).1 =
      created.1 ++ (entries.zipIdx first).map fun item =>
        { ruleId := ruleIndex item.2, counterEn := item.1.entryActions.count,
          count := 0 } := by
  induction entries generalizing first created with
  | nil => exact ⟨id, (List.append_nil _).symm⟩
  | cons entry entries inductionHypothesis =>
      obtain ⟨ruleIndex, rest⟩ := inductionHypothesis (first + 1)
        (createRule xdk outcome aclType aclId numEntries created (entry, first))
      let index := (xdk.tcamMgrAllocEntry created.2 aclType (numEntries - first)).1.getD
        (outcome.unsetRuleIndex first)
      let rule : AclRule :=
        { ruleId := index, counterEn := entry.entryActions.count, count := 0 }
      refine ⟨Function.update ruleIndex first index, ?_⟩
      have made : (createRule xdk outcome aclType aclId numEntries created
          (entry, first)).1 = created.1 ++ [rule] := rfl
      have later : (entries.zipIdx (first + 1)).map (fun item =>
          ({ ruleId := Function.update ruleIndex first index item.2,
             counterEn := item.1.entryActions.count, count := 0 } : AclRule)) =
          (entries.zipIdx (first + 1)).map fun item =>
            { ruleId := ruleIndex item.2, counterEn := item.1.entryActions.count,
              count := 0 } := by
        refine List.map_congr_left ?_
        intro item member
        have beyond := List.le_snd_of_mem_zipIdx member
        rw [Function.update_of_ne (by omega)]
      rw [List.zipIdx_cons, List.foldl_cons, rest, made, List.map_cons, later,
        Function.update_self, List.append_assoc]
      rfl

/-! ## Entries -/

section Entries

variable [DecidableEq Uuid] {xdk : Xdk Hw} {outcome : Outcome} {heap : RuleHeap Uuid}
  {blocks : AclTable → Uuid → List Nat} {cls : Cls Uuid Hw} {table : AclTable}

theorem Represents.adjust
    (represents : Represents heap blocks cls)
    (table : AclTable) (listId : Uuid) (change : UInt16 → UInt16) :
    Represents heap blocks (adjustIntfs cls table listId change) := by
  refine represents.of_maps ?_
  intro other
  rw [adjustIntfs_hmap]
  split
  · exact KeyedList.map_rewrite fun _ _ _ => rfl
  · rfl

theorem clsAclAdd_numRules
    (xdk : Xdk Hw) (outcome : Outcome) (cls : Cls Uuid Hw) (list : ClsList Uuid)
    (info : InterfaceInfo) (direction : Direction) :
    (clsAclAdd xdk outcome cls list info direction).2.1.numRules =
      UInt16.ofNat (list.entries.getD []).length := by
  unfold clsAclAdd
  cases list.entries with
  | none => rfl
  | some entries => rfl

/-- `ops_xp_cls_acl_add` in memory. -/
theorem Represents.aclAdd
    {made : Made} {list : ClsList Uuid} {info : InterfaceInfo} {direction : Direction}
    (represents : Represents heap blocks cls)
    (typed : (clsGetType info direction).table = some table)
    (missing : ∀ e ∈ cls.classifierHmap table, e.listUid ≠ list.listId)
    (fresh : made.Fresh heap.live)
    (short : ∀ entries, list.entries = some entries → entries.length < 2 ^ 16) :
    heap.present table list.listId = false ∧
    ∃ ruleIndex blocks',
      Represents (addEntry heap { made with ruleIndex := ruleIndex } table list) blocks'
        (clsAclAdd xdk outcome cls list info direction).2.2 := by
  have absent : heap.present table list.listId = false := by
    rw [← Bool.not_eq_true, represents.found]
    rintro ⟨e, member, uid⟩
    exact missing e member uid
  obtain ⟨e, aclIds, hw, result, uid, _, _, _⟩ :=
    clsAclAdd_spec xdk outcome cls list typed
  obtain ⟨_, _, created⟩ := clsAclAdd_rules xdk outcome cls list info direction
  obtain ⟨ruleIndex, indexed⟩ := createRules_indexed xdk outcome (clsGetType info direction)
    (clsAclAdd xdk outcome cls list info direction).2.1.aclId
    (list.entries.getD []).length (list.entries.getD []) 0 ([], cls.hw)
  have numRules := clsAclAdd_numRules xdk outcome cls list info direction
  rw [← created, List.nil_append] at indexed
  rw [result] at indexed numRules ⊢
  simp only at indexed numRules
  let indexedMade : Made := { made with ruleIndex := fun _ => ruleIndex }
  have indexedFresh : indexedMade.Fresh heap.live := ⟨fresh.free, fresh.once⟩
  obtain ⟨_, leaves, count, present, contents⟩ :=
    @addEntry_spec _ _ heap indexedMade table list indexedFresh
  refine ⟨absent, fun _ => ruleIndex, _, represents.change
    (fun other otherId => other = table ∧ otherId = list.listId)
    (represents.toLinked.add absent indexedFresh short) leaves ?_ ?_ ?_ ?_⟩
  · intro other otherId different
    have apart := @Linked.elsewhere _ heap blocks table other list.listId otherId
      (newBlocks indexedMade table (list.entries.getD [])) represents.toLinked
      (fun _ isNew => indexedFresh.not_live isNew) different
    rw [represents.absent table list.listId absent, List.nil_append] at apart
    exact ⟨if_neg different, apart⟩
  · intro other x different
    rw [mem_cons_hmap]
    constructor
    · rintro (⟨rfl, rfl⟩ | older)
      · exact absurd ⟨rfl, uid⟩ different
      · exact older
    · exact .inr
  · rintro other otherId ⟨rfl, rfl⟩
    refine iff_of_true present ⟨e, mem_cons_hmap.mpr (.inl ⟨rfl, rfl⟩), uid⟩
  · rintro other x member ⟨rfl, sameUid⟩
    rcases mem_cons_hmap.mp member with ⟨_, rfl⟩ | older
    · rw [uid, withBlocks_self, count, numRules]
      refine ⟨?_, rfl⟩
      rw [indexed]
      exact contents.trans (newRules_eq indexedMade other _)
    · exact absurd sameUid (missing x older)

/-- `ops_xp_cls_acl_delete` in memory. -/
theorem Represents.aclDelete
    {e present : AclEntry Uuid}
    (represents : Represents heap blocks cls)
    (member : present ∈ cls.classifierHmap table)
    (sameUid : present.listUid = e.listUid) :
    heap.present table e.listUid = true ∧
    ∃ heap' blocks', deleteEntry heap table e.listUid = some heap' ∧
      Represents heap' blocks' (clsAclDelete xdk outcome cls e table) := by
  have isPresent : heap.present table e.listUid = true :=
    (represents.found table e.listUid).mpr ⟨present, member, sameUid⟩
  obtain ⟨heap', deleted, linked, leaves, gone⟩ := represents.toLinked.delete isPresent
  refine ⟨isPresent, heap', _, deleted, represents.change
    (fun other otherId => other = table ∧ otherId = e.listUid) linked leaves ?_ ?_ ?_ ?_⟩
  · intro other otherId different
    have apart := @Linked.elsewhere _ heap blocks table other e.listUid otherId []
      represents.toLinked (fun _ isNew => absurd isNew List.not_mem_nil) different
    rw [List.append_nil] at apart
    exact ⟨if_neg different, apart⟩
  · intro other x different
    rw [clsAclDelete_hmap, mem_hmapWithout]
    exact and_iff_left different
  · rintro other otherId ⟨rfl, rfl⟩
    rw [gone]
    refine iff_of_false Bool.false_ne_true ?_
    rintro ⟨x, xMember, xUid⟩
    exact (mem_clsAclDelete xMember).2 ⟨rfl, xUid⟩
  · rintro other x xMember changed
    exact absurd changed (mem_clsAclDelete xMember).2

end Entries

/-! ## Updates -/

section Updates

variable [DecidableEq Uuid] {xdk : Xdk Hw} {outcomes : AclTable → Outcome}
  {unset : Unset} {heap : RuleHeap Uuid} {blocks : AclTable → Uuid → List Nat}
  {cls after : Cls Uuid Hw} {list : ClsList Uuid} {status code : StatusCode}
  {made : Made}

/-- The update of the maps is not defined where a call fails. -/
theorem Represents.clsListUpdate_none
    (represents : Represents heap blocks cls) :
    clsListUpdate xdk outcomes unset cls list status = none ↔
      (clsValidateEntries list unset.pdStatus).statusCode ≠ .hwUnsupportedErr ∧
        list.entries ≠ none ∧ CallFails unset heap list.listId := by
  by_cases unsupported :
      (clsValidateEntries list unset.pdStatus).statusCode = .hwUnsupportedErr
  · simp [clsListUpdate, unsupported]
  · obtain ⟨first, second, pacl, racl, result⟩ := @clsListUpdate_rebuilds _ _ _ xdk
      outcomes unset cls list status unsupported
    have paclSome := pacl.isSome_iff
    have raclSome := racl.isSome_iff
    rw [pacl.hmap_other (by decide), ← represents.found] at raclSome
    rw [← represents.found] at paclSome
    have failing : ((first.1.isSome && unset.paclResult != 0) ||
        (second.1.isSome && unset.raclResult != 0)) = true ↔
          list.entries ≠ none ∧ CallFails unset heap list.listId := by
      simp only [Bool.or_eq_true, Bool.and_eq_true, paclSome, raclSome, bne_iff_ne,
        CallFails]
      tauto
    rw [result]
    split
    · rename_i neither
      simp only [Bool.and_eq_true, Option.isNone_iff_eq_none] at neither
      simp only [neither.1, neither.2, Option.isSome_none, Bool.false_and, Bool.or_self,
        Bool.false_eq_true, false_iff] at failing
      simp only [reduceCtorEq, false_iff]
      exact fun both => failing both.2
    · split
      · rename_i fails
        exact iff_of_true rfl ⟨unsupported, failing.mp fails⟩
      · rename_i works
        exact iff_of_false (by simp) fun both => works (failing.mpr both.2)

/-- The entries that an update of a table leaves. -/
theorem Rebuilds.entries
    {outcome : Outcome} {table : AclTable} {entries : List ListEntry}
    {result : Option (AclEntry Uuid) × Cls Uuid Hw}
    (rebuilds : Rebuilds xdk outcome cls list table result)
    (listed : list.entries = some entries) :
    ∃ ruleIndex, ∀ e ∈ result.2.classifierHmap table, e.listUid = list.listId →
      e.ruleList = indexedRules ruleIndex entries ∧
        e.numRules = UInt16.ofNat entries.length := by
  cases rebuilds with
  | kept reason =>
      refine ⟨id, ?_⟩
      intro e member uid
      have none := reason e member uid
      rw [listed] at none
      exact nomatch none
  | @renewed aclEntry others rules hw member uid given created =>
      obtain rfl : entries = others := Option.some.inj (listed.symm.trans given)
      obtain ⟨ruleIndex, indexed⟩ := createRules_indexed xdk outcome
        (clsGetType aclEntry.intfInfo aclEntry.clsDirection) aclEntry.aclId entries.length
        entries 0 ([], cls.hw)
      rw [clsCreateRuleEntryList] at created
      rw [created, List.nil_append] at indexed
      refine ⟨ruleIndex, ?_⟩
      intro e eMember eUid
      rcases mem_renewedHmap.mp eMember with ⟨_, old, _, _, rfl⟩ | ⟨_, elsewhere⟩
      · exact ⟨indexed, rfl⟩
      · exact absurd ⟨rfl, eUid⟩ elsewhere

/-- The other entries stay. -/
theorem Rebuilds.mem_other
    {outcome : Outcome} {table other : AclTable} {e : AclEntry Uuid}
    {result : Option (AclEntry Uuid) × Cls Uuid Hw}
    (rebuilds : Rebuilds xdk outcome cls list table result)
    (different : ¬(other = table ∧ e.listUid = list.listId)) :
    e ∈ result.2.classifierHmap other ↔ e ∈ cls.classifierHmap other := by
  cases rebuilds with
  | kept _ => exact Iff.rfl
  | renewed _ _ _ _ =>
      rw [mem_renewedHmap]
      constructor
      · rintro (⟨rfl, old, _, uid, rfl⟩ | ⟨older, _⟩)
        · exact absurd ⟨rfl, uid⟩ different
        · exact older
      · exact fun older => .inr ⟨older, different⟩

/-- The update of the links is not defined where a call fails. -/
theorem Linked.listUpdateLinks_none
    (linked : Linked heap blocks)
    (fresh : made.Fresh heap.live) :
    listUpdateLinks made unset heap list status = none ↔
      (clsValidateEntries list unset.pdStatus).statusCode ≠ .hwUnsupportedErr ∧
        list.entries ≠ none ∧ CallFails unset heap list.listId := by
  constructor
  · intro undefined
    by_contra defined
    by_cases idle : ¬Engages unset heap list .pacl ∧ ¬Engages unset heap list .racl
    · obtain ⟨after, updated, _⟩ :=
        @listUpdateLinks_idle _ _ heap made list unset status idle.1 idle.2
      rw [undefined] at updated
      exact nomatch updated
    · have engages : Engages unset heap list .pacl ∨ Engages unset heap list .racl := by
        tauto
      have supported := engages.elim (·.1) (·.1)
      have notNull := engages.elim (·.2.1) (·.2.1)
      have engaged := engages.imp (·.2.2) (·.2.2)
      have works : ¬CallFails unset heap list.listId :=
        fun fails => defined ⟨supported, notNull, fails⟩
      obtain ⟨entries, listed⟩ := Option.ne_none_iff_exists'.mp notNull
      by_cases empty : entries = []
      · rw [empty] at listed
        obtain ⟨after, _, updated, _⟩ :=
          @listUpdateLinks_empty _ _ heap blocks made list unset status linked fresh
            supported listed engaged works
        rw [undefined] at updated
        exact nomatch updated
      · obtain ⟨after, updated, _⟩ :=
          @listUpdateLinks_renews _ _ heap blocks made list entries unset status linked
            fresh supported listed engaged works empty
        rw [undefined] at updated
        exact nomatch updated
  · rintro ⟨supported, notNull, fails⟩
    obtain ⟨entries, listed⟩ := Option.ne_none_iff_exists'.mp notNull
    exact listUpdateLinks_fails linked fresh supported listed fails

/-- The two updates are defined together. -/
theorem Represents.undefined_iff
    (represents : Represents heap blocks cls)
    (fresh : made.Fresh heap.live) :
    clsListUpdate xdk outcomes unset cls list status = none ↔
      listUpdateLinks made unset heap list status = none := by
  rw [represents.clsListUpdate_none, represents.toLinked.listUpdateLinks_none fresh]

/-- A list that fits keeps to the condition where the update is defined. -/
theorem Represents.consistent
    (represents : Represents heap blocks cls)
    (updated : clsListUpdate xdk outcomes unset cls list status = some (code, after))
    (sized : ∀ entries, list.entries = some entries →
      entries ≠ [] ∧ entries.length < 2 ^ 16) :
    Consistent unset heap list := by
  have defined : clsListUpdate xdk outcomes unset cls list status ≠ none := by
    simp [updated]
  rw [Ne, represents.clsListUpdate_none] at defined
  have fits : list.entries ≠ none → Fits list := by
    intro notNull
    obtain ⟨entries, listed⟩ := Option.ne_none_iff_exists'.mp notNull
    exact ⟨entries, listed, sized entries listed⟩
  refine ⟨?_, ?_⟩
  · rintro ⟨supported, notNull, present⟩
    refine ⟨?_, fits notNull⟩
    by_contra nonzero
    exact defined ⟨supported, notNull, .inl ⟨present, nonzero⟩⟩
  · rintro ⟨supported, notNull, present⟩
    refine ⟨?_, fits notNull⟩
    by_contra nonzero
    exact defined ⟨supported, notNull, .inr ⟨present, nonzero⟩⟩

/-- Where the update does not come to the rules, the maps stay. -/
theorem Represents.update_idle
    (represents : Represents heap blocks cls)
    (updated : clsListUpdate xdk outcomes unset cls list status = some (code, after))
    (paclIdle : ¬Engages unset heap list .pacl)
    (raclIdle : ¬Engages unset heap list .racl) :
    code = refusal unset list ∧ after = cls := by
  by_cases unsupported :
      (clsValidateEntries list unset.pdStatus).statusCode = .hwUnsupportedErr
  · simp only [clsListUpdate, unsupported, if_true, Option.some.injEq,
      Prod.mk.injEq] at updated
    rw [refusal, if_pos unsupported]
    exact ⟨updated.1.symm, updated.2.symm⟩
  · obtain ⟨first, second, pacl, racl, result⟩ := @clsListUpdate_rebuilds _ _ _ xdk
      outcomes unset cls list status unsupported
    have noPacl : first.1 = none := by
      rw [← Option.not_isSome_iff_eq_none, pacl.isSome_iff, ← represents.found]
      exact fun both => paclIdle ⟨unsupported, both.2, both.1⟩
    have noRacl : second.1 = none := by
      rw [← Option.not_isSome_iff_eq_none, racl.isSome_iff,
        pacl.hmap_other (by decide), ← represents.found]
      exact fun both => raclIdle ⟨unsupported, both.2, both.1⟩
    rw [result, noPacl, noRacl, (racl.of_none noRacl).1, (pacl.of_none noPacl).1] at updated
    simp only [Option.isNone_none, Bool.and_self, if_true, Option.some.injEq,
      Prod.mk.injEq] at updated
    rw [refusal, if_neg unsupported]
    exact ⟨updated.1.symm, updated.2.symm⟩

/-- Where the update comes to the rules, the maps get them. -/
theorem Represents.update_engaged
    {entries : List ListEntry}
    (represents : Represents heap blocks cls)
    (updated : clsListUpdate xdk outcomes unset cls list status = some (code, after))
    (supported :
      (clsValidateEntries list unset.pdStatus).statusCode ≠ .hwUnsupportedErr)
    (listed : list.entries = some entries)
    (engaged : heap.present .pacl list.listId = true ∨
      heap.present .racl list.listId = true) :
    code = status ∧ SameLists cls after ∧
      (∀ table e, ¬(table ≠ .bacl ∧ e.listUid = list.listId) →
        (e ∈ after.classifierHmap table ↔ e ∈ cls.classifierHmap table)) ∧
      ∃ ruleIndex : AclTable → Nat → Nat, ∀ table, table ≠ .bacl →
        ∀ e ∈ after.classifierHmap table, e.listUid = list.listId →
          e.ruleList = indexedRules (ruleIndex table) entries ∧
            e.numRules = UInt16.ofNat entries.length := by
  obtain ⟨first, second, pacl, racl, result⟩ := @clsListUpdate_rebuilds _ _ _ xdk
    outcomes unset cls list status supported
  have paclSome := pacl.isSome_iff
  have raclSome := racl.isSome_iff
  rw [pacl.hmap_other (by decide), ← represents.found] at raclSome
  rw [← represents.found] at paclSome
  have notNull : list.entries ≠ none := by simp [listed]
  have notIdle : ¬(first.1.isNone && second.1.isNone) = true := by
    rw [← Option.not_isSome, ← Option.not_isSome, ← Bool.not_or, Bool.not_eq_true',
      Bool.or_eq_false_iff, ← Bool.not_eq_true, ← Bool.not_eq_true, paclSome, raclSome]
    rintro ⟨noPacl, noRacl⟩
    exact engaged.elim (fun present => noPacl ⟨present, notNull⟩)
      fun present => noRacl ⟨present, notNull⟩
  rw [result, if_neg notIdle] at updated
  split at updated
  · exact nomatch updated
  · obtain ⟨rfl, rfl⟩ := Prod.mk.inj (Option.some.inj updated)
    have maps : (destroyOld xdk (outcomes .racl) second.1
        (destroyOld xdk (outcomes .pacl) first.1 second.2)).classifierHmap =
          second.2.classifierHmap := by
      rw [(destroyOld_maps ..).1, (destroyOld_maps ..).1]
    obtain ⟨paclIndex, paclEntries⟩ := pacl.entries listed
    obtain ⟨raclIndex, raclEntries⟩ := racl.entries listed
    refine ⟨rfl, (SameLists.update pacl racl).1, ?_, ?_⟩
    · intro table e elsewhere
      have notPacl : ¬(table = .pacl ∧ e.listUid = list.listId) := by
        rintro ⟨rfl, uid⟩
        exact elsewhere ⟨by decide, uid⟩
      have notRacl : ¬(table = .racl ∧ e.listUid = list.listId) := by
        rintro ⟨rfl, uid⟩
        exact elsewhere ⟨by decide, uid⟩
      rw [maps, racl.mem_other notRacl, pacl.mem_other notPacl]
    · refine ⟨fun table => if table = .pacl then paclIndex else raclIndex, ?_⟩
      rw [maps]
      intro table isUpdated e member uid
      cases table with
      | pacl =>
          rw [racl.hmap_other (by decide)] at member
          exact paclEntries e member uid
      | bacl => exact absurd rfl isUpdated
      | racl => exact raclEntries e member uid

/-- `ops_xp_cls_list_update` in memory. -/
theorem Represents.update
    (represents : Represents heap blocks cls)
    (fresh : made.Fresh heap.live)
    (updated : clsListUpdate xdk outcomes unset cls list status = some (code, after))
    (sized : ∀ entries, list.entries = some entries →
      entries ≠ [] ∧ entries.length < 2 ^ 16) :
    ∃ ruleIndex heap' blocks',
      listUpdateLinks { made with ruleIndex := ruleIndex } unset heap list status =
        some (code, heap') ∧ Represents heap' blocks' after := by
  obtain idle | ⟨entries, listed, notEmpty, short, supported, engaged, works⟩ :=
    (represents.consistent updated sized).cases
  · obtain ⟨rfl, rfl⟩ := represents.update_idle updated idle.1 idle.2
    obtain ⟨heap', result, leaves⟩ :=
      @listUpdateLinks_idle _ _ heap made list unset status idle.1 idle.2
    refine ⟨made.ruleIndex, heap', blocks, result, represents.change (fun _ _ => False)
      (represents.toLinked.idle leaves) leaves ?_ ?_ ?_ ?_⟩
    · exact fun _ _ _ => ⟨rfl, by simp, by simp⟩
    · exact fun _ _ _ => Iff.rfl
    · exact fun _ _ impossible => impossible.elim
    · exact fun _ _ _ impossible => impossible.elim
  · obtain ⟨rfl, same, kept, ruleIndex, renewedMaps⟩ :=
      represents.update_engaged updated supported listed engaged
    let indexedMade : Made := { made with ruleIndex := ruleIndex }
    have indexedFresh : indexedMade.Fresh heap.live := ⟨fresh.free, fresh.once⟩
    obtain ⟨heap', result, renewed, leaves, present⟩ :=
      @listUpdateLinks_renews _ _ heap blocks indexedMade list entries unset code
        represents.toLinked indexedFresh supported listed engaged works notEmpty
    have found : ∀ table listId, heap.present table listId = true ↔
        ∃ e ∈ after.classifierHmap table, e.listUid = listId := by
      intro table listId
      rw [represents.found]
      constructor
      · rintro ⟨e, member, rfl⟩
        have back : SameLists after cls := fun table => (same table).symm
        obtain ⟨x, xMember, uid, _⟩ := back.origin member
        exact ⟨x, xMember, uid⟩
      · rintro ⟨e, member, rfl⟩
        obtain ⟨x, xMember, uid, _⟩ := same.origin member
        exact ⟨x, xMember, uid⟩
    refine ⟨ruleIndex, heap', _, result, represents.change
      (fun table listId => table ≠ .bacl ∧ listId = list.listId)
      (represents.toLinked.renew indexedFresh short renewed leaves present) leaves ?_ kept
      ?_ ?_⟩
    · intro table listId unchanged
      exact represents.toLinked.updated_elsewhere indexedFresh unchanged
    · intro table listId _
      rw [present]
      exact found table listId
    · rintro table e member ⟨isUpdated, uid⟩
      have isPresent := (found table list.listId).mpr ⟨e, member, uid⟩
      have entry := renewed table isUpdated isPresent
      obtain ⟨rules, numRules⟩ := renewedMaps table isUpdated e member uid
      rw [uid, updatedBlocks, if_pos ⟨isUpdated, rfl⟩, if_pos isPresent, rules, numRules,
        entry.numRules, length_newBlocks]
      exact ⟨entry.contents.trans (newRules_eq indexedMade table entries), rfl⟩

end Updates

/-! ## Runs -/

/-- The lengths of the lists of an event fit into `num_rules`, and an update does not
come with an empty list. -/
def Event.Sized : Event Uuid → Prop
  | .request operation => ∀ list, operation.request.Brings list →
      ∀ entries, list.entries = some entries → entries.length < 2 ^ 16
  | .update list _ _ _ => ∀ entries, list.entries = some entries →
      entries ≠ [] ∧ entries.length < 2 ^ 16

section Runs

variable [DecidableEq Uuid] {xdk : Xdk Hw} {cls : Cls Uuid Hw}

/-- The maps have a memory that the operations on links reach. -/
def Remembered (cls : Cls Uuid Hw) : Prop :=
  ∃ heap blocks, ReachedByLinks heap ∧ Represents heap blocks cls

theorem exists_fresh (live : Finset Nat) : ∃ made : Made, made.Fresh live := by
  refine ⟨madeFrom (live.sup id + 1), madeFrom_fresh ?_⟩
  intro block isLive
  exact Nat.lt_succ_of_le (Finset.le_sup (f := id) isLive)

theorem Remembered.of_maps
    {after : Cls Uuid Hw}
    (remembered : Remembered cls)
    (same : ∀ table,
      (after.classifierHmap table).map (fun e => (e.listUid, e.ruleList, e.numRules)) =
        (cls.classifierHmap table).map fun e => (e.listUid, e.ruleList, e.numRules)) :
    Remembered after := by
  obtain ⟨heap, blocks, reached, represents⟩ := remembered
  exact ⟨heap, blocks, reached, represents.of_maps same⟩

variable (xdk) in
theorem Remembered.requestClosed (outcome : Outcome) :
    RequestClosed xdk outcome (fun list : ClsList Uuid => ∀ entries,
      list.entries = some entries → entries.length < 2 ^ 16) Remembered where
  set := fun _ _ _ _ remembered => remembered.of_maps fun _ => rfl
  adjust := by
    rintro cls table listId change ⟨heap, blocks, reached, represents⟩
    exact ⟨heap, blocks, reached, represents.adjust table listId change⟩
  aclAdd := by
    rintro cls list info direction table ⟨heap, blocks, reached, represents⟩ short typed _
      missing
    obtain ⟨made, fresh⟩ := exists_fresh heap.live
    obtain ⟨absent, ruleIndex, blocks', added⟩ :=
      @Represents.aclAdd _ _ _ xdk outcome heap blocks cls table made list info direction
        represents typed missing fresh short
    have orderly : Orderly heap (.add table list { made with ruleIndex := ruleIndex }) :=
      ⟨absent, ⟨fresh.free, fresh.once⟩, short⟩
    exact ⟨_, blocks', .next reached orderly, added⟩
  aclAdd_egress := by
    intro cls list info remembered
    refine remembered.of_maps fun table => ?_
    rw [(clsAclAdd_egress xdk outcome cls list info).1]
  aclDelete := by
    rintro cls table e present ⟨heap, blocks, reached, represents⟩ member sameEntry
    have sameUid : present.listUid = e.listUid := by rw [← sameEntry]
    obtain ⟨isPresent, heap', blocks', deleted, gone⟩ :=
      @Represents.aclDelete _ _ _ xdk outcome heap blocks cls table e present represents
        member sameUid
    have orderly : Orderly heap (.delete table e.listUid) := isPresent
    have next : nextHeap heap (.delete table e.listUid) = heap' := by
      rw [nextHeap, deleted, Option.getD_some]
    have reachedNext := Transition.Reach.next reached orderly
    rw [next] at reachedNext
    exact ⟨heap', blocks', reachedNext, gone⟩

/-- Every classifier that requests and defined updates reach is one of the memory. -/
theorem remembered_of_reached
    (reached : Transition.Reach (fun initial => ∃ hw, initial = clsInit Uuid hw)
      (fun cls event => Defined xdk cls event ∧ event.Sized) (nextEvent xdk) cls) :
    Remembered cls := by
  refine Transition.Reach.invariant Remembered ?_ ?_ reached
  · rintro _ ⟨hw, rfl⟩
    refine ⟨noEntries Uuid, fun _ _ => [], .start fun _ _ => rfl, ⟨?_, ?_, ?_, ?_⟩, ?_, ?_,
      ?_⟩
    · exact fun _ _ present => nomatch present
    · exact fun _ _ present => nomatch present
    · exact fun _ _ _ => rfl
    · exact fun member => absurd member List.not_mem_nil
    · intro table listId
      refine iff_of_false Bool.false_ne_true ?_
      rintro ⟨e, member, _⟩
      exact absurd member List.not_mem_nil
    · exact fun _ e member => absurd member List.not_mem_nil
    · exact fun _ e member => absurd member List.not_mem_nil
  · rintro current event remembered ⟨defined, sized⟩
    cases event with
    | request operation =>
        exact (Remembered.requestClosed xdk operation.outcome).request remembered sized
          defined
    | update list outcomes unset status =>
        obtain ⟨heap, blocks, heapReached, represents⟩ := remembered
        obtain ⟨⟨code, after⟩, updated⟩ := Option.isSome_iff_exists.mp defined
        obtain ⟨made, fresh⟩ := exists_fresh heap.live
        obtain ⟨ruleIndex, heap', blocks', result, renewed⟩ :=
          represents.update fresh updated sized
        have nextMaps : nextEvent xdk current (.update list outcomes unset status) =
            after := by
          simp only [nextEvent, updated]
        have next : nextHeap heap (.update list { made with ruleIndex := ruleIndex } unset
            status) = heap' := by
          rw [nextHeap, result, Option.map_some, Option.getD_some]
        have orderly : Orderly heap (.update list { made with ruleIndex := ruleIndex }
            unset status) :=
          ⟨⟨fresh.free, fresh.once⟩, represents.consistent updated sized⟩
        have reachedNext := Transition.Reach.next heapReached orderly
        rw [next] at reachedNext
        rw [nextMaps]
        exact ⟨heap', blocks', reachedNext, renewed⟩

end Runs

end Classifier
end XpliantSwitchd
