import XpliantSwitchd.Classifier.Ids

/-!
# What the validator refuses and what the encoder drops

`ops_xp_cls_validate_entries` and `ops_xp_cls_populate_iacl_entires` walk over
the conditions of an entry separately.  The encoder has no place in the key for
the TCP flags, the MAC addresses and the class of service, and the validator
looks at the operators on the L4 ports only, so a list can be accepted with
conditions that its rules do not have.
-/

namespace XpliantSwitchd
namespace Classifier

/-- An entry with one of its flags set or cleared. -/
def EntryFields.withFlag
    (entry : EntryFields)
    (flag : MatchFlag)
    (set : Bool) : EntryFields :=
  { entry with entryFlags := Function.update entry.entryFlags flag set }

/-- `ops_xp_cls_populate_iacl_entires` puts the field of a flag into the key: for
some entry the flag makes a difference to the key. -/
def MatchFlag.PutIntoKey (flag : MatchFlag) : Prop :=
  ∃ (entry : EntryFields) (key : IaclkeyFieldList),
    populateKey (entry.withFlag flag true) key ≠
      populateKey (entry.withFlag flag false) key

/-- An entry that states no condition, with address masks that select every bit. -/
def EntryFields.blank : EntryFields where
  entryFlags _ := false
  srcIpAddress := 0#32
  srcIpAddressMask := 0xffffffff#32
  dstIpAddress := 0#32
  dstIpAddressMask := 0xffffffff#32
  l4SrcPortMin := 0#16
  l4SrcPortOp := .none
  l4DstPortMin := 0#16
  l4DstPortOp := .none
  protocol := 0#8
  tos := 0#8
  tosMask := 0#8
  icmpCode := 0#8
  icmpType := 0#8
  vlan := 0#16
  l2Ethertype := 0#16

/-- The encoder reads no flag but those of the fields that it handles. -/
theorem populateKey_withFlag
    {flag : MatchFlag}
    (dropped : flag.isHandled = false)
    (entry : EntryFields)
    (set : Bool)
    (key : IaclkeyFieldList) :
    populateKey (entry.withFlag flag set) key = populateKey entry key := by
  have other : ∀ read : MatchFlag, read.isHandled = true →
      (entry.withFlag flag set).entryFlags read = entry.entryFlags read := by
    intro read handled
    apply Function.update_of_ne
    rintro rfl
    rw [handled] at dropped
    cases dropped
  simp only [populateKey, other _ (rfl : MatchFlag.isHandled .srcIpaddr = true),
    other _ (rfl : MatchFlag.isHandled .destIpaddr = true),
    other _ (rfl : MatchFlag.isHandled .l4SrcPort = true),
    other _ (rfl : MatchFlag.isHandled .l4DestPort = true),
    other _ (rfl : MatchFlag.isHandled .protocol = true),
    other _ (rfl : MatchFlag.isHandled .tos = true),
    other _ (rfl : MatchFlag.isHandled .icmpCode = true),
    other _ (rfl : MatchFlag.isHandled .icmpType = true),
    other _ (rfl : MatchFlag.isHandled .vlan = true),
    other _ (rfl : MatchFlag.isHandled .l2Ethertype = true)]
  rfl

/-- Each field that the encoder handles makes a difference to a blank entry. -/
theorem populateKey_blank
    {flag : MatchFlag}
    (handled : flag.isHandled = true) :
    ∃ field,
      ((populateKey (EntryFields.blank.withFlag flag true)
        ⟨true, IaclkeyField.reset⟩).fldList field).mask ≠
      ((populateKey (EntryFields.blank.withFlag flag false)
        ⟨true, IaclkeyField.reset⟩).fldList field).mask := by
  cases flag with
  | srcIpaddr => exact ⟨.sipV4, by decide⟩
  | destIpaddr => exact ⟨.dipV4, by decide⟩
  | l4SrcPort => exact ⟨.l4SrcPort, by decide⟩
  | l4DestPort => exact ⟨.l4DestPort, by decide⟩
  | protocol => exact ⟨.protocol, by decide⟩
  | tos => exact ⟨.dscpEcn, by decide⟩
  | icmpCode => exact ⟨.icmpCode, by decide⟩
  | icmpType => exact ⟨.icmpMsgType, by decide⟩
  | vlan => exact ⟨.bd, by decide⟩
  | l2Ethertype => exact ⟨.v4EtherType, by decide⟩
  | tcpFlags => cases handled
  | srcMac => cases handled
  | dstMac => cases handled
  | l2Cos => cases handled

/-- The flags whose fields go into the key. -/
theorem putIntoKey_iff (flag : MatchFlag) :
    flag.PutIntoKey ↔ flag.isHandled = true := by
  constructor
  · rintro ⟨entry, key, differs⟩
    by_contra dropped
    rw [Bool.not_eq_true] at dropped
    apply differs
    rw [populateKey_withFlag dropped, populateKey_withFlag dropped]
  · intro handled
    obtain ⟨field, differs⟩ := populateKey_blank handled
    refine ⟨.blank, ⟨true, IaclkeyField.reset⟩, ?_⟩
    intro same
    apply differs
    rw [same]

section Lists

variable {Uuid : Type}

/-- `ops_xp_cls_validate_entries` sets the status to
`OPS_CLS_STATUS_HW_UNSUPPORTED_ERR`, whatever it is before. -/
def SetsUnsupported (list : ClsList Uuid) : Prop :=
  ∀ pdStatus, (clsValidateEntries list pdStatus).statusCode = .hwUnsupportedErr

/-- The operators on L4 ports with which a key can compare. -/
def L4PortOp.EqOrNone (op : L4PortOp) : Prop :=
  op = .eq ∨ op = .none

/-- Some entry of a list has an operator on an L4 port other than equality. -/
def UsesOtherOperator (list : ClsList Uuid) : Prop :=
  ∃ entry ∈ list.entries.getD [],
    ¬ entry.entryFields.l4SrcPortOp.EqOrNone ∨ ¬ entry.entryFields.l4DstPortOp.EqOrNone

/-- Some entry of a list states a condition whose field is not put into the
key. -/
def StatesDroppedCondition (list : ClsList Uuid) : Prop :=
  ∃ entry ∈ list.entries.getD [], ∃ flag,
    entry.entryFields.entryFlags flag = true ∧ ¬ flag.PutIntoKey

/-- The validator refuses exactly the lists that the hardware cannot be
programmed with, so that an accepted list is programmed with all of its
conditions. -/
structure ValidatedExactly (list : ClsList Uuid) : Prop where
  refused : SetsUnsupported list ↔ UsesOtherOperator list ∨ StatesDroppedCondition list
  programmed : ¬ SetsUnsupported list →
    ∀ entry ∈ list.entries.getD [], ∀ flag,
      entry.entryFields.entryFlags flag = true → flag.PutIntoKey

theorem L4PortOp.unsupported_iff (op : L4PortOp) :
    op.unsupported = true ↔ ¬ op.EqOrNone := by
  cases op <;> simp [L4PortOp.unsupported, L4PortOp.EqOrNone]

/-- What the validator refuses. -/
theorem setsUnsupported_iff (list : ClsList Uuid) :
    SetsUnsupported list ↔ UsesOtherOperator list := by
  have code : SetsUnsupported list ↔ list.supported = false := by
    constructor
    · intro sets
      have status := sets .success
      rw [clsValidateEntries_statusCode] at status
      by_contra supported
      rw [Bool.not_eq_false] at supported
      rw [if_pos supported] at status
      cases status
    · intro unsupported pdStatus
      rw [clsValidateEntries_statusCode, unsupported]
      rfl
  rw [code, ClsList.supported, List.all_eq_false]
  simp only [Bool.not_eq_true', Bool.not_eq_false, ListEntry.unsupported,
    Bool.or_eq_true, L4PortOp.unsupported_iff, UsesOtherOperator]

/-- The conditions that the encoder drops. -/
def MatchFlag.dropped : List MatchFlag :=
  [.tcpFlags, .l2Cos, .srcMac, .dstMac]

theorem MatchFlag.not_putIntoKey_iff (flag : MatchFlag) :
    ¬ flag.PutIntoKey ↔ flag ∈ MatchFlag.dropped := by
  rw [putIntoKey_iff, Bool.not_eq_true]
  cases flag <;> decide

theorem statesDroppedCondition_iff (list : ClsList Uuid) :
    StatesDroppedCondition list ↔
      ∃ entry ∈ list.entries.getD [], ∃ flag ∈ MatchFlag.dropped,
        entry.entryFields.entryFlags flag = true := by
  simp only [StatesDroppedCondition, MatchFlag.not_putIntoKey_iff, and_comm]

/-- The validator refuses what it should if and only if the list is refused for
an operator anyway or states no condition that the encoder drops. -/
theorem validatedExactly_iff (list : ClsList Uuid) :
    ValidatedExactly list ↔
      UsesOtherOperator list ∨
        ∀ entry ∈ list.entries.getD [], ∀ flag ∈ MatchFlag.dropped,
          entry.entryFields.entryFlags flag = false := by
  constructor
  · intro validated
    by_contra neither
    rw [not_or] at neither
    obtain ⟨noOperator, states⟩ := neither
    push Not at states
    obtain ⟨entry, member, flag, dropped, set⟩ := states
    have refused : SetsUnsupported list :=
      validated.refused.mpr (.inr ((statesDroppedCondition_iff list).mpr
        ⟨entry, member, flag, dropped, by simpa using set⟩))
    exact noOperator ((setsUnsupported_iff list).mp refused)
  · rintro (operator | undropped)
    · have sets := (setsUnsupported_iff list).mpr operator
      exact ⟨⟨fun _ => .inl operator, fun _ => sets⟩, fun accepted => absurd sets accepted⟩
    · have none : ¬ StatesDroppedCondition list := by
        intro states
        obtain ⟨entry, member, flag, dropped, set⟩ :=
          (statesDroppedCondition_iff list).mp states
        rw [undropped entry member flag dropped] at set
        cases set
      refine ⟨?_, ?_⟩
      · rw [setsUnsupported_iff, or_iff_left none]
      · intro _ entry member flag set
        by_contra notPut
        exact none ⟨entry, member, flag, set, notPut⟩

end Lists

/-- A list with one entry that denies the packets with given TCP flags. -/
def tcpFlagsList : ClsList Unit where
  listId := ()
  entries := some
    [{ entryFields := EntryFields.blank.withFlag .tcpFlags true
       entryActions := { permit := false, deny := true, count := false } }]

/-- The list is accepted, and its rule denies every packet. -/
theorem not_validatedExactly_tcpFlagsList :
    ¬ ValidatedExactly tcpFlagsList ∧
      (clsValidateEntries tcpFlagsList .success).statusCode = .success ∧
      ∀ entry ∈ tcpFlagsList.entries.getD [], ∀ aclId packet,
        (ruleOfEntry .fwd aclId entry).1.Matches packet ↔ packet.aclId = aclId := by
  have accepted : (clsValidateEntries tcpFlagsList .success).statusCode = .success := by
    decide
  refine ⟨?_, accepted, ?_⟩
  · intro validated
    have states : StatesDroppedCondition tcpFlagsList :=
      (statesDroppedCondition_iff tcpFlagsList).mpr
        ⟨_, List.mem_singleton_self _, .tcpFlags, by decide, by decide⟩
    have refused := validated.refused.mpr (.inr states) .success
    rw [accepted] at refused
    cases refused
  · intro entry member aclId packet
    rw [List.mem_singleton.mp member, ruleOfEntry_matches]
    have states : AgreesButTos (EntryFields.blank.withFlag .tcpFlags true) packet := by
      constructor <;> nofun
    have tos : TosCompared (EntryFields.blank.withFlag .tcpFlags true) packet := nofun
    exact ⟨fun both => both.1, fun sameId => ⟨sameId, states, tos⟩⟩

end Classifier
end XpliantSwitchd
