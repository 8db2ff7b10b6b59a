import Mathlib.Data.List.Find
import XpliantSwitchd.PortAcls
import XpliantSwitchd.Classifier.InForce

/-!
# What happens to a packet that comes in on a port

A port that filters looks its packets up in the TCAM under the ACL id of the port.
The fields of the ports and the rules of the lists are kept by different parts of
the classifier; this module puts them together and says, for every packet, what the
hardware decides: what the first entry of the list on the bundle of the port that
agrees with the packet asks for.
-/

namespace XpliantSwitchd
namespace PortAcls

open Ternary Bundles
open Tcam (Answers)
open Classifier (Packet EntryFields HandledFields ListEntry IaclkeyFieldList IaclData
  TcamModel AgreesButTos Agrees TosCompared ValidRule Carries ruleOfEntry ClsList Request
  Outcome TcamHw)

variable {Uuid Hw : Type}

/-! ## Lists -/

/-- What becomes of a packet: the table is not asked, it has no answer, or a rule
decides. -/
inductive Verdict
  | unfiltered
  | missed
  | hit (data : IaclData)
  deriving DecidableEq

/-- A packet agrees with the key that is written for an entry. -/
def Compared (entry : EntryFields) (packet : Packet) : Prop :=
  AgreesButTos entry packet ∧ TosCompared entry packet

instance (entry : EntryFields) (packet : Packet) : Decidable (AgreesButTos entry packet) :=
  decidable_of_iff
    ((entry.entryFlags .srcIpaddr = true →
        (entry.srcIpAddress ^^^ packet.srcIp) &&& entry.srcIpAddressMask = 0#32) ∧
      (entry.entryFlags .destIpaddr = true →
        (entry.dstIpAddress ^^^ packet.dstIp) &&& entry.dstIpAddressMask = 0#32) ∧
      (entry.entryFlags .l4SrcPort = true → entry.l4SrcPortMin = packet.l4SrcPort) ∧
      (entry.entryFlags .l4DestPort = true → entry.l4DstPortMin = packet.l4DestPort) ∧
      (entry.entryFlags .protocol = true → entry.protocol = packet.protocol) ∧
      (entry.entryFlags .icmpCode = true → entry.icmpCode = packet.icmpCode) ∧
      (entry.entryFlags .icmpType = true → entry.icmpType = packet.icmpType) ∧
      (entry.entryFlags .vlan = true → entry.vlan = packet.vlan) ∧
      (entry.entryFlags .l2Ethertype = true → entry.l2Ethertype = packet.etherType))
    ⟨fun ⟨srcIp, dstIp, srcPort, destPort, protocol, code, type, vlan, etherType⟩ =>
      ⟨srcIp, dstIp, srcPort, destPort, protocol, code, type, vlan, etherType⟩,
     fun ⟨srcIp, dstIp, srcPort, destPort, protocol, code, type, vlan, etherType⟩ =>
      ⟨srcIp, dstIp, srcPort, destPort, protocol, code, type, vlan, etherType⟩⟩

instance (entry : EntryFields) (packet : Packet) : Decidable (Compared entry packet) :=
  inferInstanceAs (Decidable (_ ∧ (_ → _)))

instance (entry : EntryFields) (packet : Packet) : Decidable (Agrees entry packet) :=
  decidable_of_iff (AgreesButTos entry packet ∧ (entry.entryFlags .tos = true →
      (entry.tos ^^^ packet.tos) &&& entry.tosMask = 0#8))
    ⟨fun ⟨others, tos⟩ => ⟨others, tos⟩, fun ⟨others, tos⟩ => ⟨others, tos⟩⟩

/-- What the rule of an entry does: it ends the search and sets the command of the
packet. -/
def ListEntry.decision (zeroCmd : PktCmd) (entry : ListEntry) : IaclData :=
  Classifier.populateData entry.entryActions (Classifier.allocResetFieldData zeroCmd).2

/-- The first entry of a list that accords with a packet decides. -/
def firstVerdict (zeroCmd : PktCmd) (accords : EntryFields → Packet → Prop)
    [∀ entry packet, Decidable (accords entry packet)] (entries : List ListEntry)
    (packet : Packet) : Verdict :=
  match entries.find? fun entry => accords entry.entryFields packet with
  | some entry => .hit (ListEntry.decision zeroCmd entry)
  | none => .missed

/-- An entry whose key compares what the entry asks for. -/
def Expressible (entry : ListEntry) : Prop :=
  (∃ fields : HandledFields, fields.toEntryFields = entry.entryFields) ∧
    entry.entryFields.entryFlags .tos = false

theorem compared_iff_agrees
    {entry : ListEntry}
    (expressible : Expressible entry)
    (packet : Packet) :
    Compared entry.entryFields packet ↔ Agrees entry.entryFields packet := by
  have unasked : entry.entryFields.entryFlags .tos ≠ true := by
    simp [expressible.2]
  constructor
  · rintro ⟨others, _⟩
    exact ⟨others, fun asked => absurd asked unasked⟩
  · intro agrees
    exact ⟨agrees.toAgreesButTos, fun asked => absurd asked unasked⟩

theorem firstVerdict_agrees
    {zeroCmd : PktCmd} {entries : List ListEntry}
    (expressible : ∀ entry ∈ entries, Expressible entry)
    (packet : Packet) :
    firstVerdict zeroCmd Compared entries packet =
      firstVerdict zeroCmd Agrees entries packet := by
  have sameEntry : entries.find? (fun entry => Compared entry.entryFields packet) =
      entries.find? fun entry => Agrees entry.entryFields packet := by
    apply List.find?_congr
    intro entry member
    simp only [decide_eq_decide]
    exact compared_iff_agrees (expressible entry member) packet
  rw [firstVerdict, firstVerdict, sameEntry]

/-! ## The hardware -/

/-- A rule takes part in the lookup of a packet under an ACL id. -/
def Competes (aclId : Byte) (packet : Packet) (rule : IaclkeyFieldList × IaclData) :
    Prop :=
  ValidRule rule ∧ rule.1.Matches { packet with aclId := aclId }

/-- What the hardware decides on a packet that comes in on an interface. -/
def Decides {xdk : Classifier.Xdk Hw} (ports : PortModel xdk) (tcam : TcamModel xdk)
    (hw : Hw) (intf : Nat) (packet : Packet) : Verdict → Prop
  | .unfiltered => ports.field hw intf .aclEn = 0#8
  | .missed => ports.field hw intf .aclEn ≠ 0#8 ∧
      Answers (tcam.table hw .pacl) (Competes (ports.field hw intf .aclId) packet) none
  | .hit data => ports.field hw intf .aclEn ≠ 0#8 ∧ ∃ rule, rule.2 = data ∧
      Answers (tcam.table hw .pacl) (Competes (ports.field hw intf .aclId) packet)
        (some rule)

section Hardware

variable {xdk : Classifier.Xdk Hw} {ports : PortModel xdk} {tcam : TcamModel xdk}
  {hw : Hw} {intf : Nat} {packet : Packet}

/-- The hardware decides one thing. -/
theorem Decides.unique
    {verdict other : Verdict}
    (decides : Decides ports tcam hw intf packet verdict)
    (otherDecides : Decides ports tcam hw intf packet other) : verdict = other := by
  have sameAnswer := @Answers.unique _ (tcam.table hw .pacl)
    (Competes (ports.field hw intf .aclId) packet)
  cases verdict with
  | unfiltered =>
      cases other with
      | unfiltered => rfl
      | missed => exact absurd decides otherDecides.1
      | hit data => exact absurd decides otherDecides.1
  | missed =>
      cases other with
      | unfiltered => exact absurd otherDecides decides.1
      | missed => rfl
      | hit data =>
          obtain ⟨_, rule, _, answers⟩ := otherDecides
          cases sameAnswer decides.2 answers
  | hit data =>
      obtain ⟨enabled, rule, isData, answers⟩ := decides
      cases other with
      | unfiltered => exact absurd otherDecides enabled
      | missed => cases sameAnswer answers otherDecides.2
      | hit otherData =>
          obtain ⟨_, otherRule, isOther, otherAnswers⟩ := otherDecides
          cases sameAnswer answers otherAnswers
          rw [← isData, ← isOther]

theorem Decides.iff_eq
    {verdict : Verdict}
    (decides : Decides ports tcam hw intf packet verdict)
    (other : Verdict) : Decides ports tcam hw intf packet other ↔ other = verdict := by
  constructor
  · intro otherDecides
    exact otherDecides.unique decides
  · rintro rfl
    exact decides

end Hardware

/-! ## The table of the ports -/

section Table

variable [DecidableEq Uuid] {xdk : Classifier.Xdk Hw} {tcam : TcamModel xdk}
  {lists : Uuid → Option (List ListEntry)} {system : Classifier.System Uuid Hw}
  {table : Classifier.AclTable} {e : Classifier.AclEntry Uuid}

theorem matches_iff_compared (zeroCmd : PktCmd) (aclId : Byte) (entry : ListEntry)
    (packet : Packet) :
    (ruleOfEntry zeroCmd aclId entry).1.Matches { packet with aclId := aclId } ↔
      Compared entry.entryFields packet := by
  rw [Classifier.ruleOfEntry_matches]
  constructor
  · rintro ⟨_, ⟨⟩, tos⟩
    exact ⟨⟨‹_›, ‹_›, ‹_›, ‹_›, ‹_›, ‹_›, ‹_›, ‹_›, ‹_›⟩, tos⟩
  · rintro ⟨⟨⟩, tos⟩
    exact ⟨rfl, ⟨‹_›, ‹_›, ‹_›, ‹_›, ‹_›, ‹_›, ‹_›, ‹_›, ‹_›⟩, tos⟩

/-- A rule of a table that matches under an ACL id carries it. -/
theorem carries_of_competes
    {id priority : Nat} {rule : IaclkeyFieldList × IaclData} {aclId : Byte}
    {packet : Packet}
    (inv : Classifier.RunInv lists tcam system)
    (known : (tcam.table system.cls.hw table).view id = some (priority, rule))
    (competes : Competes aclId packet rule) : Carries aclId rule := by
  have member := ((inv.tcam.holds table).represents.exact id _).mp known
  obtain ⟨owner, _, owned⟩ := List.mem_flatMap.mp member
  obtain ⟨entry, _, encoded⟩ := Classifier.mem_installedFrom owned
  have isRule : rule = ruleOfEntry xdk.zeroCmd owner.aclId entry := encoded
  have sameId := competes.2
  rw [isRule, Classifier.ruleOfEntry_matches] at sameId
  rw [isRule, Classifier.ruleOfEntry_carries]
  exact sameId.1

/-- A lookup under the ACL id of an entry answers with the rule of the first entry
of the list whose key the packet agrees with. -/
theorem answers_of_member
    (inv : Classifier.RunInv lists tcam system)
    (member : e ∈ system.cls.classifierHmap table)
    (packet : Packet) :
    Answers (tcam.table system.cls.hw table) (Competes e.aclId packet)
      (((e.listed lists).find? fun entry => Compared entry.entryFields packet).map
        (ruleOfEntry xdk.zeroCmd e.aclId)) := by
  have inForce := inv.inForce member
  have carried : Answers (tcam.table system.cls.hw table)
      (fun rule => ValidRule rule ∧ Carries e.aclId rule ∧
        rule.1.Matches { packet with aclId := e.aclId })
      (((e.listed lists).find? fun entry => Compared entry.entryFields packet).map
        (ruleOfEntry xdk.zeroCmd e.aclId)) := by
    cases found : (e.listed lists).find? fun entry =>
        Compared entry.entryFields packet with
    | none =>
        rintro id priority rule known ⟨valid, carries, matched⟩
        obtain ⟨index, _, _, isRule⟩ := Tcam.Table.view_eq_some.mp known
        simp only at isRule
        obtain ⟨indices, _, exact, rules⟩ := inForce.exact
        have listed : rule ∈ (e.listed lists).map (ruleOfEntry xdk.zeroCmd e.aclId) := by
          rw [← rules, ← isRule]
          apply List.mem_map_of_mem
          rw [exact, isRule]
          exact ⟨valid, carries⟩
        obtain ⟨entry, entryMember, rfl⟩ := List.mem_map.mp listed
        have missed := List.find?_eq_none.mp found entry entryMember
        rw [decide_eq_true_eq] at missed
        exact missed ((matches_iff_compared ..).mp matched)
    | some entry =>
        obtain ⟨compared, first, last, split, noneBefore⟩ :=
          List.find?_eq_some_iff_append.mp found
        refine inForce.wins _ first entry last split ?_ ?_
        · intro earlier earlierMember matched
          have notCompared := noneBefore earlier earlierMember
          simp only [Bool.not_eq_true', decide_eq_false_iff_not] at notCompared
          exact notCompared ((matches_iff_compared ..).mp matched)
        · exact (matches_iff_compared ..).mpr (of_decide_eq_true compared)
  refine carried.congr ?_
  intro id priority rule known
  constructor
  · rintro ⟨valid, _, matched⟩
    exact ⟨valid, matched⟩
  · intro competes
    exact ⟨competes.1, carries_of_competes inv known competes, competes.2⟩

end Table

/-! ## Runs -/

section Filtering

variable [DecidableEq Uuid] {xdk : Classifier.Xdk Hw} {bridge : Bridge}
  {ports : PortModel xdk} {tcam : TcamModel xdk}
  {lists : Uuid → Option (List ListEntry)} {switch : Switch Uuid Hw bridge}

/-- A uuid stands for one list all along. -/
def Known (lists : Uuid → Option (List ListEntry)) : SwitchOperation Uuid bridge → Prop
  | .acl request _ _ _ => ∀ list, request.Brings list → lists list.listId = list.entries
  | .bundle _ => True

/-- The slaves of a LAG are counted to the end. -/
def SwitchOperation.Counted : SwitchOperation Uuid bridge → Prop
  | .acl _ _ _ _ => True
  | .bundle operation => Bundles.Operation.Counted operation

/-- The hardware decides on every packet of every port as the list says that is
applied on the bundle of the port, and leaves the packets of the other ports alone. -/
structure FiltersByLists (lists : Uuid → Option (List ListEntry))
    (ports : PortModel xdk) (tcam : TcamModel xdk) (switch : Switch Uuid Hw bridge) :
    Prop where
  compared : ∀ port ∈ bridge.ports, port.ifId ≠ bridge.intfInvalidId → ∀ listId,
    AppliedOn switch port listId → ∀ packet verdict,
      Decides ports tcam switch.acls.cls.hw port.ifId packet verdict ↔
        verdict = firstVerdict xdk.zeroCmd Compared ((lists listId).getD []) packet
  agrees : ∀ port ∈ bridge.ports, port.ifId ≠ bridge.intfInvalidId → ∀ listId,
    AppliedOn switch port listId →
    (∀ entry ∈ (lists listId).getD [], Expressible entry) → ∀ packet verdict,
      Decides ports tcam switch.acls.cls.hw port.ifId packet verdict ↔
        verdict = firstVerdict xdk.zeroCmd Agrees ((lists listId).getD []) packet
  unfiltered : ∀ port ∈ bridge.ports, port.ifId ≠ bridge.intfInvalidId →
    (∀ listId, ¬AppliedOn switch port listId) → ∀ packet verdict,
      Decides ports tcam switch.acls.cls.hw port.ifId packet verdict ↔
        verdict = .unfiltered

/-- The fields of the ports and the rules of the table agree with the lists
together. -/
theorem filtersByLists_of_inv
    (inv : Inv ports switch)
    (rules : Classifier.RunInv lists tcam switch.acls) :
    FiltersByLists lists ports tcam switch := by
  have listed : ∀ port ∈ bridge.ports, port.ifId ≠ bridge.intfInvalidId → ∀ listId,
      AppliedOn switch port listId → ∀ packet, Decides ports tcam
        switch.acls.cls.hw port.ifId packet
        (firstVerdict xdk.zeroCmd Compared ((lists listId).getD []) packet) := by
    intro port isPort valid listId on packet
    obtain ⟨e, member, rfl, sameId⟩ := inv.consistent.aclId port isPort valid listId on
    have enabled : ports.field switch.acls.cls.hw port.ifId .aclEn ≠ 0#8 := by
      rw [(inv.consistent.enabled port isPort valid).mpr ⟨_, on⟩]
      decide
    have answers := answers_of_member rules member packet
    rw [← sameId] at answers
    rw [firstVerdict]
    cases found : ((lists e.listUid).getD []).find? fun entry =>
        Compared entry.entryFields packet with
    | none =>
        rw [Classifier.AclEntry.listed, found] at answers
        exact ⟨enabled, answers⟩
    | some entry =>
        rw [Classifier.AclEntry.listed, found] at answers
        exact ⟨enabled, _, rfl, answers⟩
  refine ⟨?_, ?_, ?_⟩
  · intro port isPort valid listId on packet verdict
    exact (listed port isPort valid listId on packet).iff_eq verdict
  · intro port isPort valid listId on expressible packet verdict
    rw [← firstVerdict_agrees expressible packet]
    exact (listed port isPort valid listId on packet).iff_eq verdict
  · intro port isPort valid none packet verdict
    have cleared := inv.consistent.cleared port isPort valid none
    have decides : Decides ports tcam switch.acls.cls.hw port.ifId packet .unfiltered :=
      congrArg Prod.fst cleared
    exact decides.iff_eq verdict

/-- The switch before anything was configured, its TCAM empty. -/
def Blank (ports : PortModel xdk) (tcam : TcamModel xdk)
    (switch : Switch Uuid Hw bridge) : Prop :=
  ∃ hw, (∀ intf, portAcl ports hw intf = (0#8, 0#8)) ∧ tcam.Clean hw ∧
    switch.acls = ⟨Classifier.clsInit Uuid hw, []⟩ ∧ Unbundled switch.ofproto

theorem Inv.init
    {hw : Hw}
    (cleared : ∀ intf, portAcl ports hw intf = (0#8, 0#8))
    (acls : switch.acls = ⟨Classifier.clsInit Uuid hw, []⟩)
    (unbundled : Unbundled switch.ofproto) : Inv ports switch := by
  have noApplications : switch.acls.applied = [] := by rw [acls]
  have sameHw : switch.acls.cls.hw = hw := by rw [acls]; rfl
  refine ⟨?_, unbundled.tied, ?_, ?_, ?_, ?_, ?_⟩
  · rw [acls]
    exact Classifier.clsInit_systemInv hw
  · simp [noApplications]
  · simp [noApplications]
  · simp [noApplications]
  · simp [noApplications]
  · intro port _ _ _
    rw [sameHw]
    exact cleared port.ifId

theorem Inv.step
    {operation : SwitchOperation Uuid bridge}
    (distinct : bridge.IntfsDistinct)
    (inv : Inv ports switch)
    (conventional : Conventional switch operation)
    (spares : SparesFiltered switch operation) :
    Inv ports (step xdk switch operation) := by
  cases operation with
  | acl request aux l3Only outcome =>
      cases request with
      | apply list => exact inv.stepApply distinct conventional spares
      | remove listId => exact inv.stepRemove distinct conventional spares
      | replace listId list => exact inv.stepReplace distinct conventional spares
  | bundle operation => exact inv.stepBundle conventional spares

/-- Operations on bundles leave the rules alone. -/
theorem runInv_step
    {operation : SwitchOperation Uuid bridge}
    (rules : Classifier.RunInv lists tcam switch.acls)
    (conventional : Conventional switch operation)
    (known : Known lists operation) :
    Classifier.RunInv lists tcam (step xdk switch operation).acls := by
  cases operation with
  | acl request aux l3Only outcome => exact rules.step ⟨conventional.1, known⟩
  | bundle operation => exact rules

/-- In every run in which a uuid stands for one list, no list comes to more than
65535 bundles, no bundle with a list gets or loses ports and no LAG gets more than 255
slaves, every packet is decided on by the first entry that agrees with it of the list
on the bundle of its port. -/
theorem filtersByLists_of_reached
    (distinct : bridge.IntfsDistinct)
    (reached : Transition.Reach (Blank ports tcam) (fun switch operation =>
      Conventional switch operation ∧ SparesFiltered switch operation ∧
        Known lists operation ∧ operation.Counted) (step xdk) switch) :
    FiltersByLists lists ports tcam switch := by
  have inv : Inv ports switch ∧ Classifier.RunInv lists tcam switch.acls := by
    refine Transition.Reach.invariant
      (fun switch => Inv ports switch ∧ Classifier.RunInv lists tcam switch.acls) ?_ ?_
      reached
    · rintro start ⟨hw, cleared, clean, acls, unbundled⟩
      refine ⟨.init cleared acls unbundled, ?_⟩
      rw [acls]
      exact .init clean
    · rintro current operation ⟨inv, rules⟩ ⟨conventional, spares, known, _⟩
      exact ⟨inv.step distinct conventional spares, runInv_step rules conventional known⟩
  exact filtersByLists_of_inv inv.1 inv.2

end Filtering

/-! ## A bridge with two ports -/

/-- The TCAM of `indexedXdk` and the fields of `fieldXdk` side by side. -/
def filteringXdk : Classifier.Xdk (TcamHw × (Nat → Classifier.PortField → Byte)) where
  zeroCmd := .fwd
  tcamMgrAllocEntry hw aclType priority :=
    let (answer, table) := Classifier.indexedXdk.tcamMgrAllocEntry hw.1 aclType priority
    (answer, table, hw.2)
  tcamMgrTcamIdFromEntryGet hw aclType entryId :=
    Classifier.indexedXdk.tcamMgrTcamIdFromEntryGet hw.1 aclType entryId
  tcamMgrFreeEntry hw aclType entryId :=
    (Classifier.indexedXdk.tcamMgrFreeEntry hw.1 aclType entryId, hw.2)
  iaclWriteKey hw table tcamId key :=
    (Classifier.indexedXdk.iaclWriteKey hw.1 table tcamId key, hw.2)
  iaclWriteData hw table tcamId data :=
    (Classifier.indexedXdk.iaclWriteData hw.1 table tcamId data, hw.2)
  l3SetRouterAclId hw _ _ := hw
  l3SetRouterAclEnable hw _ _ := hw
  portSetField hw intf portField value :=
    (hw.1, fieldXdk.portSetField hw.2 intf portField value)

def filteringPorts : PortModel filteringXdk where
  field hw := hw.2
  setsPort _ _ _ _ := rfl
  allocates _ _ _ := rfl
  frees _ _ _ := rfl
  writesKey _ _ _ _ := rfl
  writesData _ _ _ _ := rfl

def filteringTcam : TcamModel filteringXdk where
  table hw := hw.1.table
  allocates := by
    intro hw aclTable priority
    obtain ⟨id, table, answer, allocates, others⟩ :=
      Classifier.indexedModel.allocates hw.1 aclTable priority
    refine ⟨id, (table, hw.2), ?_, allocates, others⟩
    simp only [filteringXdk, answer]
  frees hw := Classifier.indexedModel.frees hw.1
  locates hw := Classifier.indexedModel.locates hw.1
  writesKey hw := Classifier.indexedModel.writesKey hw.1
  writesData hw := Classifier.indexedModel.writesData hw.1
  setsRouterId _ _ _ := rfl
  setsRouterEnable _ _ _ := rfl
  setsPort _ _ _ _ := rfl

/-- No port filters, the TCAM is empty, and there is no bundle. -/
def blankSwitch :
    Switch Nat (TcamHw × (Nat → Classifier.PortField → Byte)) (sampleBridge 1 2) where
  acls := ⟨Classifier.clsInit Nat (Classifier.emptyTcam, fun _ _ => 0#8), []⟩
  ofproto := sampleOfproto _

/-- A list with its entries. -/
def sampleList (listId : Nat) : ClsList Nat where
  listId := listId
  entries := Classifier.portLists listId

/-- A list of two entries is applied on a LAG and replaced by another. -/
def filteringRun : List (SwitchOperation Nat (sampleBridge 1 2)) :=
  [setSlaves [1, 2], onLag (.apply (sampleList 1)),
   .acl (.replace 1 (sampleList 2)) 1 false (Classifier.allocating 8#8)]

theorem filtersByLists_filteringRun :
    FiltersByLists Classifier.portLists filteringPorts filteringTcam
      (Transition.run (step filteringXdk) blankSwitch filteringRun) := by
  have start : Transition.Reach (Blank filteringPorts filteringTcam)
      (fun switch operation => Conventional switch operation ∧
        SparesFiltered switch operation ∧ Known Classifier.portLists operation ∧
        operation.Counted)
      (step filteringXdk) blankSwitch := by
    refine .start ⟨_, fun _ => rfl, fun _ => ⟨fun _ => rfl, fun _ => ?_⟩,
      rfl, rfl, fun _ => rfl⟩
    exact Classifier.allocResetFieldData_not_valid .fwd
  refine filtersByLists_of_reached (by unfold Bridge.IntfsDistinct; decide)
    (start.of_run ⟨⟨fun _ => rfl, nofun, trivial, ?_⟩, ⟨?_, ?_, ?_, trivial⟩,
      ⟨?_, ?_, ?_, trivial⟩, trivial⟩)
  · rintro _ _ ⟨⟩
    decide
  · refine ⟨⟨rfl, nofun, ?_, nofun, nofun⟩, ?_⟩
    · rintro _ ⟨⟩
      refine ⟨fun _ => ⟨7#8, rfl, by decide +kernel⟩, ?_⟩
      rintro table ⟨⟩
      decide +kernel
    · rintro _ ⟨⟩
      decide +kernel
  · exact Classifier.withinCount_of_length (by decide +kernel)
  · rintro list (⟨⟨⟩⟩ | ⟨_, ⟨⟩⟩)
    rfl
  · refine ⟨⟨rfl, nofun, nofun, nofun, ?_⟩, nofun⟩
    rintro _ _ ⟨⟩
    refine ⟨by decide +kernel, fun _ => ⟨8#8, rfl, by decide +kernel⟩, ?_⟩
    rintro table ⟨⟩
    exact ⟨by decide +kernel, .inr (by decide +kernel)⟩
  · exact Classifier.withinCount_of_length (by decide +kernel)
  · rintro list (⟨⟨⟩⟩ | ⟨_, ⟨⟩⟩)
    rfl

end PortAcls
end XpliantSwitchd
