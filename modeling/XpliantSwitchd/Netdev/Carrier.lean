import XpliantSwitchd.Netdev.Calls
import XpliantSwitchd.Lib.Transition
import Mathlib.Data.List.Nodup

/-!
# The carrier of a netdev

The poll thread copies the link of a netdev, lets its mutex go, asks the hardware, and
takes the mutex again to write the link that it was told.  A netdev that is turned off in
between gets a carrier for good, since the poll thread does not visit it again.  In every
other interleaving a carrier is that of a netdev that is turned on, each rise of it is
counted and MAC learning is told of each fall.
-/

namespace XpliantSwitchd
namespace Netdev

open PortMacMode

variable {count : Nat}

/-! ## What is watched -/

/-- Whether the netdev at an address has a carrier. -/
def Switch.carrier (switch : Switch count) (address : Nat) : Bool :=
  (switch.netdev address).any (·.linkStatus)

/-- How often the carrier of each netdev has come, and the interfaces of the netdevs that
have lost theirs, latest first. -/
structure History where
  rises : Nat → Nat
  falls : List Nat

/-- The netdevs that lose their carrier in a step. -/
def falling (before after : Switch count) : List (NetdevXpliant count) :=
  before.netdevs.filter fun netdev =>
    netdev.linkStatus && (after.netdev netdev.address).any fun netdev => !netdev.linkStatus

/-- The history after a step. -/
def History.record (history : History) (before after : Switch count) : History where
  rises address :=
    history.rises address +
      if !before.carrier address && after.carrier address then 1 else 0
  falls := (falling before after).map (·.ifId) ++ history.falls

/-- A step that is watched. -/
def watched (env : Env count) (state : Switch count × History) (event : Event count) :
    Switch count × History :=
  (step env state.1 event, state.2.record state.1 (step env state.1 event))

/-- The poll thread works on the netdev at an address. -/
def Poll.Holds (address : Nat) : Poll count → Prop
  | .next _ | .reported _ _ => False
  | .found _ target => target = address
  | .sampled _ sample | .read _ sample => sample.address = address

/-- The poll thread has found the netdev at an address without a carrier. -/
def Poll.Awaits (address : Nat) : Poll count → Prop
  | .sampled _ sample | .read _ sample => sample.address = address ∧ sample.linkStatus = false
  | _ => False

/-- No netdev is turned off after the poll thread has found it without a carrier, and
none is destroyed while the poll thread works on it. -/
def Undisturbed (switch : Switch count) : Event count → Prop
  | .setHwIntfConfig address config _ =>
      switch.poll.Awaits address → config.hwEnable = true
  | .destruct address => ¬switch.poll.Holds address
  | _ => True

/-! ## The invariant -/

/-- The netdevs have addresses of their own and are set as they should be.  One that is
turned off has no host filter, unless its configuration waits for a lock. -/
structure Switch.Shaped (switch : Switch count) : Prop extends switch.Rooted where
  wellSet : ∀ netdev ∈ switch.netdevs, netdev.WellSet
  filtered : ∀ netdev ∈ switch.netdevs, netdev.pcfg.enable = false →
    switch.main ≠ .waiting netdev.address → netdev.xpnetPortFilterId = 0

/-- The poll thread works on a netdev that is there, and one that it has found without a
carrier has none and is still turned on. -/
def Switch.Attends (switch : Switch count) : Poll count → Prop
  | .next _ => True
  | .found _ address => ∃ netdev ∈ switch.netdevs, netdev.address = address
  | .sampled _ sample | .read _ sample =>
      sample.portInfo.isSome ∧
        ∃ netdev ∈ switch.netdevs, netdev.address = sample.address ∧
          (sample.linkStatus = false →
            netdev.linkStatus = false ∧ netdev.pcfg.enable = true)
  | .reported _ sample => sample.portInfo.isSome

/-- Each rise is counted, and each fall is among the reports. -/
structure Counted (switch : Switch count) (history : History) : Prop where
  resets : ∀ netdev ∈ switch.netdevs, netdev.linkResets = history.rises netdev.address
  unborn : ∀ address, switch.nextAddress ≤ address → history.rises address = 0
  reported : history.falls.Sublist switch.downs

/-- The invariant of the interleavings. -/
structure Sound (state : Switch count × History) : Prop where
  shaped : state.1.Shaped
  attends : state.1.Attends state.1.poll
  counted : Counted state.1 state.2

theorem netdev_eq_some {switch : Switch count} (shaped : switch.Shaped) {address : Nat}
    {netdev : NetdevXpliant count} :
    switch.netdev address = some netdev ↔
      netdev ∈ switch.netdevs ∧ netdev.address = address :=
  KeyedList.find?_key_eq_some shaped.nodup

theorem carrier_of_mem {switch : Switch count} (shaped : switch.Shaped)
    {netdev : NetdevXpliant count} (member : netdev ∈ switch.netdevs) :
    switch.carrier netdev.address = netdev.linkStatus := by
  unfold Switch.carrier
  rw [(netdev_eq_some shaped).2 ⟨member, rfl⟩]
  rfl

/-- A carrier is that of a netdev. -/
theorem exists_of_carrier {switch : Switch count} (shaped : switch.Shaped) {address : Nat}
    (up : switch.carrier address = true) :
    ∃ netdev ∈ switch.netdevs, netdev.address = address ∧ netdev.linkStatus = true := by
  unfold Switch.carrier at up
  rw [Option.any_eq_true] at up
  obtain ⟨netdev, found, carrier⟩ := up
  obtain ⟨member, here⟩ := (netdev_eq_some shaped).1 found
  exact ⟨netdev, member, here, carrier⟩

/-! ## The history of a step -/

section History

variable {before after : Switch count} (shaped' : after.Shaped) (history : History)
include shaped'

theorem mem_falling {netdev : NetdevXpliant count} :
    netdev ∈ falling before after ↔
      netdev ∈ before.netdevs ∧ netdev.linkStatus = true ∧
        ∃ new ∈ after.netdevs, new.address = netdev.address ∧ new.linkStatus = false := by
  unfold falling
  rw [List.mem_filter, Bool.and_eq_true, Option.any_eq_true]
  simp only [netdev_eq_some shaped', Bool.not_eq_true', and_assoc]

/-- No carrier comes. -/
theorem record_rises_calm
    (calm : ∀ new ∈ after.netdevs, new.linkStatus = true →
      before.carrier new.address = true) :
    (history.record before after).rises = history.rises := by
  funext address
  have still : (!before.carrier address && after.carrier address) = false := by
    cases up : after.carrier address with
    | false => simp
    | true =>
        obtain ⟨new, member, rfl, carrier⟩ := exists_of_carrier shaped' up
        simp [calm new member carrier]
  simp only [History.record, still, Bool.false_eq_true, ↓reduceIte, Nat.add_zero]

/-- No carrier goes. -/
theorem record_falls_calm
    (calm : ∀ old ∈ before.netdevs, old.linkStatus = true → ∀ new ∈ after.netdevs,
      new.address = old.address → new.linkStatus = true) :
    (history.record before after).falls = history.falls := by
  have none : falling before after = [] := by
    apply List.eq_nil_iff_forall_not_mem.2
    intro old member
    obtain ⟨oldMember, carrier, new, newMember, same, off⟩ :=
      (mem_falling shaped').1 member
    exact absurd (calm old oldMember carrier new newMember same) (by simp [off])
  simp [History.record, none]

/-- The carrier of one netdev may go. -/
theorem record_falls_one (shaped : before.Shaped) {netdev : NetdevXpliant count}
    (member : netdev ∈ before.netdevs)
    (calm : ∀ old ∈ before.netdevs, old.address ≠ netdev.address → old.linkStatus = true →
      ∀ new ∈ after.netdevs, new.address = old.address → new.linkStatus = true) :
    (history.record before after).falls.Sublist (netdev.ifId :: history.falls) := by
  have only : ∀ old ∈ falling before after, old = netdev := by
    intro old fallen
    obtain ⟨oldMember, carrier, new, newMember, same, off⟩ :=
      (mem_falling shaped').1 fallen
    by_cases here : old.address = netdev.address
    · exact List.inj_on_of_nodup_map shaped.nodup oldMember member here
    · exact absurd (calm old oldMember here carrier new newMember same) (by simp [off])
  have nodup : (falling before after).Nodup :=
    (List.Nodup.of_map _ shaped.nodup).filter _
  have few : (falling before after).Sublist [netdev] := by
    rw [List.eq_replicate_of_mem only] at nodup ⊢
    exact List.replicate_sublist_replicate netdev |>.2 (List.nodup_replicate.1 nodup)
  exact (few.map (·.ifId)).append (List.Sublist.refl history.falls)

end History

/-! ## A netdev is written in place -/

section Rewrite

variable {before after : Switch count} {address : Nat}
  {change : NetdevXpliant count → NetdevXpliant count}
  (netdevs : after.netdevs = (before.modify address change).netdevs)
  (keeps : ∀ netdev, (change netdev).address = netdev.address)
include netdevs

theorem mem_rewritten {netdev : NetdevXpliant count} :
    netdev ∈ after.netdevs ↔
      (∃ old ∈ before.netdevs, old.address = address ∧ netdev = change old) ∨
        (netdev ∈ before.netdevs ∧ netdev.address ≠ address) := by
  rw [netdevs]
  exact KeyedList.mem_rewrite

theorem shaped_rewritten (shaped : before.Shaped) (rooted : after.Rooted)
    (keeps : ∀ netdev, (change netdev).address = netdev.address)
    (main : ∀ other, other ≠ address → after.main ≠ .waiting other →
      before.main ≠ .waiting other)
    (wellSet : ∀ netdev ∈ before.netdevs, netdev.address = address →
      (change netdev).WellSet)
    (filtered : ∀ netdev ∈ before.netdevs, netdev.address = address →
      (change netdev).pcfg.enable = false → after.main ≠ .waiting address →
        (change netdev).xpnetPortFilterId = 0) :
    after.Shaped where
  toRooted := rooted
  wellSet := by
    intro netdev member
    obtain ⟨old, oldMember, here, rfl⟩ | ⟨member, _⟩ := (mem_rewritten netdevs).1 member
    · exact wellSet old oldMember here
    · exact shaped.wellSet netdev member
  filtered := by
    intro netdev member off free
    obtain ⟨old, oldMember, here, rfl⟩ | ⟨member, elsewhere⟩ :=
      (mem_rewritten netdevs).1 member
    · rw [keeps, here] at free
      exact filtered old oldMember here off free
    · exact shaped.filtered netdev member off (main _ elsewhere free)

end Rewrite

/-- The poll thread goes on when the netdev that it works on is still there and, if it was
found without a carrier, has none and is turned on. -/
theorem attends_of_forward {before after : Switch count} {poll : Poll count}
    (forward : ∀ netdev ∈ before.netdevs, poll.Holds netdev.address →
      ∃ new ∈ after.netdevs, new.address = netdev.address ∧
        (poll.Awaits netdev.address → netdev.linkStatus = false →
          netdev.pcfg.enable = true → new.linkStatus = false ∧ new.pcfg.enable = true))
    (attends : before.Attends poll) :
    after.Attends poll := by
  cases poll with
  | next port => trivial
  | found port address =>
      obtain ⟨netdev, member, rfl⟩ := attends
      obtain ⟨new, newMember, same, _⟩ := forward netdev member rfl
      exact ⟨new, newMember, same⟩
  | sampled port sample | read port sample =>
      obtain ⟨known, netdev, member, same, quiet⟩ := attends
      obtain ⟨new, newMember, newSame, awaited⟩ := forward netdev member same.symm
      refine ⟨known, new, newMember, newSame.trans same, ?_⟩
      intro down
      obtain ⟨off, on⟩ := quiet down
      exact awaited ⟨same.symm, down⟩ off on
  | reported port sample => exact attends

/-- The same after a write of one netdev. -/
theorem attends_rewritten {before after : Switch count} {address : Nat}
    {change : NetdevXpliant count → NetdevXpliant count} {poll : Poll count}
    (netdevs : after.netdevs = (before.modify address change).netdevs)
    (keeps : ∀ netdev, (change netdev).address = netdev.address)
    (awaited : ∀ netdev ∈ before.netdevs, netdev.address = address →
      poll.Awaits address → netdev.linkStatus = false → netdev.pcfg.enable = true →
        (change netdev).linkStatus = false ∧ (change netdev).pcfg.enable = true)
    (attends : before.Attends poll) :
    after.Attends poll := by
  refine attends_of_forward ?_ attends
  intro netdev member _
  by_cases here : netdev.address = address
  · refine ⟨change netdev, (mem_rewritten netdevs).2 (.inl ⟨netdev, member, here, rfl⟩),
      keeps netdev, ?_⟩
    intro awaits
    exact awaited netdev member here (here ▸ awaits)
  · exact ⟨netdev, (mem_rewritten netdevs).2 (.inr ⟨member, here⟩), rfl,
      fun _ off on => ⟨off, on⟩⟩

/-- A write that leaves the carriers alone. -/
theorem counted_rewritten {before after : Switch count} {address : Nat}
    {change : NetdevXpliant count → NetdevXpliant count} {history : History}
    (netdevs : after.netdevs = (before.modify address change).netdevs)
    (keeps : ∀ netdev, (change netdev).address = netdev.address)
    (nextAddress : after.nextAddress = before.nextAddress)
    (downs : after.downs = before.downs)
    (shaped : before.Shaped) (shaped' : after.Shaped)
    (linkStatus : ∀ netdev ∈ before.netdevs, netdev.address = address →
      (change netdev).linkStatus = netdev.linkStatus)
    (linkResets : ∀ netdev, (change netdev).linkResets = netdev.linkResets)
    (counted : Counted before history) :
    Counted after (history.record before after) := by
  have rises : (history.record before after).rises = history.rises := by
    apply record_rises_calm shaped'
    intro new member carrier
    obtain ⟨old, oldMember, here, rfl⟩ | ⟨oldMember, _⟩ := (mem_rewritten netdevs).1 member
    · rw [keeps, carrier_of_mem shaped oldMember, ← linkStatus old oldMember here]
      exact carrier
    · rw [carrier_of_mem shaped oldMember]
      exact carrier
  have falls : (history.record before after).falls = history.falls := by
    apply record_falls_calm shaped'
    intro old oldMember carrier new member same
    obtain ⟨other, otherMember, here, rfl⟩ | ⟨newMember, _⟩ :=
      (mem_rewritten netdevs).1 member
    · rw [keeps] at same
      rw [linkStatus other otherMember here,
        List.inj_on_of_nodup_map shaped.nodup otherMember oldMember same]
      exact carrier
    · rw [List.inj_on_of_nodup_map shaped.nodup newMember oldMember same]
      exact carrier
  refine ⟨?_, ?_, ?_⟩
  · intro netdev member
    rw [rises]
    obtain ⟨old, oldMember, _, rfl⟩ | ⟨oldMember, _⟩ := (mem_rewritten netdevs).1 member
    · rw [linkResets, keeps]
      exact counted.resets old oldMember
    · exact counted.resets netdev oldMember
  · rw [rises, nextAddress]
    exact counted.unborn
  · rw [falls, downs]
    exact counted.reported

/-- A write that takes the carrier of a netdev, with the report of it. -/
theorem counted_fallen {before after : Switch count}
    {change : NetdevXpliant count → NetdevXpliant count} {history : History}
    {netdev : NetdevXpliant count} (member : netdev ∈ before.netdevs)
    (netdevs : after.netdevs = (before.modify netdev.address change).netdevs)
    (keeps : ∀ netdev, (change netdev).address = netdev.address)
    (nextAddress : after.nextAddress = before.nextAddress)
    (downs : after.downs = netdev.ifId :: before.downs)
    (shaped : before.Shaped) (shaped' : after.Shaped)
    (linkStatus : ∀ netdev, (change netdev).linkStatus = false)
    (linkResets : ∀ netdev, (change netdev).linkResets = netdev.linkResets)
    (counted : Counted before history) :
    Counted after (history.record before after) := by
  have rises : (history.record before after).rises = history.rises := by
    apply record_rises_calm shaped'
    intro new newMember carrier
    obtain ⟨old, _, _, rfl⟩ | ⟨oldMember, _⟩ := (mem_rewritten netdevs).1 newMember
    · exact absurd carrier (by simp [linkStatus])
    · rw [carrier_of_mem shaped oldMember]
      exact carrier
  have falls : (history.record before after).falls.Sublist
      (netdev.ifId :: history.falls) := by
    apply record_falls_one shaped' history shaped member
    intro old oldMember elsewhere carrier new newMember same
    obtain ⟨other, _, here, rfl⟩ | ⟨unchanged, _⟩ := (mem_rewritten netdevs).1 newMember
    · rw [keeps, here] at same
      exact absurd same.symm elsewhere
    · rw [List.inj_on_of_nodup_map shaped.nodup unchanged oldMember same]
      exact carrier
  refine ⟨?_, ?_, ?_⟩
  · intro target targetMember
    rw [rises]
    obtain ⟨old, oldMember, _, rfl⟩ | ⟨oldMember, _⟩ :=
      (mem_rewritten netdevs).1 targetMember
    · rw [linkResets, keeps]
      exact counted.resets old oldMember
    · exact counted.resets target oldMember
  · rw [rises, nextAddress]
    exact counted.unborn
  · rw [downs]
    exact falls.trans (counted.reported.cons_cons _)

/-- A write that gives a netdev a carrier that it did not have. -/
theorem counted_risen {before after : Switch count}
    {change : NetdevXpliant count → NetdevXpliant count} {history : History}
    {netdev : NetdevXpliant count} (member : netdev ∈ before.netdevs)
    (down : netdev.linkStatus = false)
    (netdevs : after.netdevs = (before.modify netdev.address change).netdevs)
    (keeps : ∀ netdev, (change netdev).address = netdev.address)
    (nextAddress : after.nextAddress = before.nextAddress)
    (downs : after.downs = before.downs)
    (shaped : before.Shaped) (shaped' : after.Shaped)
    (linkStatus : ∀ netdev, (change netdev).linkStatus = true)
    (linkResets : ∀ netdev, (change netdev).linkResets = netdev.linkResets + 1)
    (counted : Counted before history) :
    Counted after (history.record before after) := by
  have same : ∀ old ∈ before.netdevs, old.address = netdev.address → old = netdev :=
    fun old oldMember => List.inj_on_of_nodup_map shaped.nodup oldMember member
  have changed : change netdev ∈ after.netdevs :=
    (mem_rewritten netdevs).2 (.inl ⟨netdev, member, rfl, rfl⟩)
  have other : ∀ {old : NetdevXpliant count}, old ∈ before.netdevs →
      old.address ≠ netdev.address →
        (history.record before after).rises old.address = history.rises old.address := by
    intro old oldMember elsewhere
    have kept : old ∈ after.netdevs :=
      (mem_rewritten netdevs).2 (.inr ⟨oldMember, elsewhere⟩)
    simp [History.record, carrier_of_mem shaped oldMember, carrier_of_mem shaped' kept]
  refine ⟨?_, ?_, ?_⟩
  · intro target targetMember
    obtain ⟨old, oldMember, here, rfl⟩ | ⟨oldMember, elsewhere⟩ :=
      (mem_rewritten netdevs).1 targetMember
    · obtain rfl := same old oldMember here
      have up := carrier_of_mem shaped' changed
      rw [keeps] at up
      rw [linkResets, keeps, counted.resets old oldMember]
      simp [History.record, carrier_of_mem shaped oldMember, up, down, linkStatus]
    · rw [other oldMember elsewhere]
      exact counted.resets target oldMember
  · intro address unborn
    rw [nextAddress] at unborn
    have absent : after.carrier address = false := by
      cases up : after.carrier address with
      | false => rfl
      | true =>
          obtain ⟨new, newMember, rfl, _⟩ := exists_of_carrier shaped' up
          have bound := shaped'.fresh new newMember
          rw [nextAddress] at bound
          exact absurd bound (Nat.not_lt.2 unborn)
    simp [History.record, absent, counted.unborn address unborn]
  · rw [downs, record_falls_calm shaped']
    · exact counted.reported
    · intro old oldMember carrier new newMember equal
      obtain ⟨_, _, _, rfl⟩ | ⟨unchanged, _⟩ := (mem_rewritten netdevs).1 newMember
      · exact linkStatus _
      · rw [List.inj_on_of_nodup_map shaped.nodup unchanged oldMember equal]
        exact carrier

/-- Nothing is written to the netdevs. -/
theorem sound_kept {before after : Switch count} {history : History}
    (sound : Sound (before, history))
    (netdevs : after.netdevs = before.netdevs)
    (nextAddress : after.nextAddress = before.nextAddress)
    (downs : after.downs = before.downs)
    (main : ∀ other, after.main ≠ .waiting other → before.main ≠ .waiting other)
    (attends : after.Attends after.poll) :
    Sound (after, history.record before after) := by
  have written : after.netdevs = (before.modify 0 id).netdevs := by
    rw [netdevs]
    simp [Switch.modify, KeyedList.rewrite]
  have shaped' : after.Shaped :=
    { toRooted := rooted_touched (touches_of_eq netdevs nextAddress) sound.shaped.toRooted
      wellSet := netdevs ▸ sound.shaped.wellSet
      filtered := by
        rw [netdevs]
        intro netdev member off free
        exact sound.shaped.filtered netdev member off (main _ free) }
  exact ⟨shaped', attends, counted_rewritten written (fun _ => rfl) nextAddress downs
    sound.shaped shaped' (fun _ _ _ => rfl) (fun _ => rfl) sound.counted⟩

/-! ## The calls -/

section Calls

variable {switch : Switch count} {history : History}

theorem attends_of_netdevs {before after : Switch count} {poll : Poll count}
    (netdevs : after.netdevs = before.netdevs) (attends : before.Attends poll) :
    after.Attends poll := by
  refine attends_of_forward ?_ attends
  intro netdev member _
  rw [← netdevs] at member
  exact ⟨netdev, member, rfl, fun _ off on => ⟨off, on⟩⟩

theorem sound_construct (env : Env count) (name : String)
    (sound : Sound (switch, history)) :
    Sound (construct env switch name, history.record switch (construct env switch name)) := by
  have members : ∀ netdev, netdev ∈ (construct env switch name).netdevs ↔
      netdev ∈ switch.netdevs ∨ netdev = NetdevXpliant.new env switch.nextAddress name := by
    intro netdev
    simp [construct]
  have shaped' : (construct env switch name).Shaped := by
    refine { rooted_touched (touches_construct env switch name) sound.shaped.toRooted with
      wellSet := ?_, filtered := ?_ }
    · intro netdev member
      obtain old | rfl := (members netdev).1 member
      · exact sound.shaped.wellSet netdev old
      · exact wellSet_new env _ name
    · intro netdev member off free
      obtain old | rfl := (members netdev).1 member
      · exact sound.shaped.filtered netdev old off free
      · rfl
  have rises : (history.record switch (construct env switch name)).rises =
      history.rises := by
    apply record_rises_calm shaped'
    intro netdev member carrier
    obtain old | rfl := (members netdev).1 member
    · rw [carrier_of_mem sound.shaped old]
      exact carrier
    · exact absurd carrier (by simp [NetdevXpliant.new])
  have falls : (history.record switch (construct env switch name)).falls =
      history.falls := by
    apply record_falls_calm shaped'
    intro old oldMember carrier new member same
    rw [List.inj_on_of_nodup_map shaped'.nodup member ((members old).2 (.inl oldMember)) same]
    exact carrier
  refine ⟨shaped', ?_, ?_, ?_, ?_⟩
  · refine attends_of_forward ?_ sound.attends
    intro netdev member _
    exact ⟨netdev, (members netdev).2 (.inl member), rfl, fun _ off on => ⟨off, on⟩⟩
  · intro netdev member
    rw [rises]
    obtain old | rfl := (members netdev).1 member
    · exact sound.counted.resets netdev old
    · exact (sound.counted.unborn _ (Nat.le_refl _)).symm
  · intro address unborn
    rw [rises]
    exact sound.counted.unborn address (Nat.le_of_succ_le unborn)
  · rw [falls]
    exact sound.counted.reported

theorem sound_destruct {address : Nat} (free : ¬switch.poll.Holds address)
    (sound : Sound (switch, history)) :
    Sound (destruct switch address, history.record switch (destruct switch address)) := by
  have members : ∀ netdev, netdev ∈ (destruct switch address).netdevs ↔
      netdev ∈ switch.netdevs ∧ netdev.address ≠ address :=
    fun _ => KeyedList.mem_remove
  have shaped' : (destruct switch address).Shaped :=
    { toRooted := rooted_touched (touches_destruct switch address) sound.shaped.toRooted
      wellSet := fun netdev member =>
        sound.shaped.wellSet netdev ((members netdev).1 member).1
      filtered := fun netdev member =>
        sound.shaped.filtered netdev ((members netdev).1 member).1 }
  have rises : (history.record switch (destruct switch address)).rises =
      history.rises := by
    apply record_rises_calm shaped'
    intro netdev member carrier
    rw [carrier_of_mem sound.shaped ((members netdev).1 member).1]
    exact carrier
  have falls : (history.record switch (destruct switch address)).falls =
      history.falls := by
    apply record_falls_calm shaped'
    intro old oldMember carrier new member same
    rw [List.inj_on_of_nodup_map sound.shaped.nodup ((members new).1 member).1 oldMember same]
    exact carrier
  refine ⟨shaped', ?_, ?_, ?_, ?_⟩
  · refine attends_of_forward ?_ sound.attends
    intro netdev member holds
    have elsewhere : netdev.address ≠ address := by
      rintro rfl
      exact free holds
    exact ⟨netdev, (members netdev).2 ⟨member, elsewhere⟩, rfl, fun _ off on => ⟨off, on⟩⟩
  · intro netdev member
    rw [rises]
    exact sound.counted.resets netdev ((members netdev).1 member).1
  · rw [rises]
    exact sound.counted.unborn
  · rw [falls]
    exact sound.counted.reported

theorem sound_setHwIntfInfo (env : Env count) (address : Nat) (info : HwIntfInfo)
    (outcome : InfoOutcome) (sound : Sound (switch, history)) :
    Sound (setHwIntfInfo env switch address info outcome,
      history.record switch (setHwIntfInfo env switch address info outcome)) := by
  have rooted := rooted_touched (touches_setHwIntfInfo env switch address info outcome)
    sound.shaped.toRooted
  unfold setHwIntfInfo at rooted ⊢
  cases found : switch.netdev address with
  | none =>
      exact sound_kept sound rfl rfl rfl (fun _ free => free) sound.attends
  | some netdev =>
      rw [found] at rooted
      have alike := fun target => (hwIntfInfo_alike env switch info outcome target).1
      have shaped' := @shaped_rewritten _ switch
        { switch.modify address (hwIntfInfo env switch info outcome) with
          ports := if splits env info outcome netdev then
            setSplitPortCount switch.ports info.portNum else switch.ports }
        address _ rfl sound.shaped rooted (fun target => (alike target).address)
        (fun _ _ free => free)
        (fun target member _ =>
          wellSet_hwIntfInfo env switch info outcome (sound.shaped.wellSet target member))
        (by
          intro target member here off free
          rw [(alike target).pcfg] at off
          rw [(alike target).filter]
          exact sound.shaped.filtered target member off (here ▸ free))
      refine ⟨shaped', ?_, ?_⟩
      · refine attends_rewritten rfl (fun target => (alike target).address) ?_ sound.attends
        intro target _ _ _ off on
        rw [(alike target).linkStatus, (alike target).pcfg]
        exact ⟨off, on⟩
      · exact counted_rewritten rfl (fun target => (alike target).address) rfl rfl
          sound.shaped shaped' (fun target _ _ => (alike target).linkStatus)
          (fun target => (alike target).linkResets) sound.counted

theorem sound_setHwIntfConfig (env : Env count) (outcome : ConfigOutcome) (address : Nat)
    (config : HwIntfConfig) (running : switch.main = .running)
    (undisturbed : switch.poll.Awaits address → config.hwEnable = true)
    (sound : Sound (switch, history)) :
    Sound (setHwIntfConfig env outcome switch address config,
      history.record switch (setHwIntfConfig env outcome switch address config)) := by
  obtain ⟨samePoll, nextAddress⟩ := setHwIntfConfig_frame env outcome switch address config
  have rooted := rooted_touched (touches_setHwIntfConfig env outcome switch address config)
    sound.shaped.toRooted
  have idle : ∀ other, switch.main ≠ .waiting other := by
    intro other
    rw [running]
    exact nofun
  cases setHwIntfConfig_configured env outcome switch address config with
  | kept netdevs downs =>
      refine sound_kept sound netdevs nextAddress downs (fun other _ => idle other) ?_
      rw [samePoll]
      exact attends_of_netdevs netdevs sound.attends
  | waits netdev found netdevs downs main =>
      have fields : ∀ target : NetdevXpliant count, ∃ filterId,
          handleXpHostPortFilters outcome config.portCfg.enable target =
            { target with xpnetPortFilterId := filterId } :=
        handleXpHostPortFilters_eq outcome config.portCfg.enable
      have keeps : ∀ target : NetdevXpliant count,
          (handleXpHostPortFilters outcome config.portCfg.enable target).address =
            target.address := handleXpHostPortFilters_address outcome _
      have shaped' := shaped_rewritten netdevs sound.shaped rooted keeps
        (fun other _ _ => idle other)
        (fun target member _ => wellSet_handleXpHostPortFilters outcome _
          (sound.shaped.wellSet target member))
        (fun _ _ _ _ free => absurd main free)
      refine ⟨shaped', ?_, ?_⟩
      · rw [samePoll]
        refine attends_rewritten netdevs keeps ?_ sound.attends
        intro target _ _ _ off on
        obtain ⟨filterId, equation⟩ := fields target
        rw [equation]
        exact ⟨off, on⟩
      · refine counted_rewritten netdevs keeps nextAddress downs sound.shaped shaped'
          (fun target _ _ => handleXpHostPortFilters_linkStatus outcome _ target) ?_
          sound.counted
        intro target
        obtain ⟨filterId, equation⟩ := fields target
        rw [equation]
  | done netdev found initialized netdevs downs =>
      obtain ⟨member, here⟩ := (netdev_eq_some sound.shaped).1 found
      have only : ∀ target ∈ switch.netdevs, target.address = address → target = netdev :=
        fun target targetMember same => List.inj_on_of_nodup_map sound.shaped.nodup
          targetMember member (same.trans here.symm)
      have keeps : ∀ target : NetdevXpliant count,
          (reconfigure outcome netdev config.portCfg target).address = target.address :=
        fun target => (reconfigure_fields outcome netdev config.portCfg target).1
      have resets : ∀ target : NetdevXpliant count,
          (reconfigure outcome netdev config.portCfg target).linkResets =
            target.linkResets :=
        fun target => (reconfigure_fields outcome netdev config.portCfg target).2
      have shaped' := shaped_rewritten netdevs sound.shaped rooted keeps
        (fun other _ _ => idle other)
        (by
          intro target targetMember same
          obtain rfl := only target targetMember same
          exact wellSet_reconfigure outcome config.portCfg
            (sound.shaped.wellSet target targetMember) initialized)
        (by
          intro target _ _ off _
          have disabled : config.portCfg.enable = false := off
          simp only [reconfigure, disabled]
          exact handleXpHostPortFilters_off outcome target)
      refine ⟨shaped', ?_, ?_⟩
      · rw [samePoll]
        refine attends_rewritten netdevs keeps ?_ sound.attends
        intro target _ _ awaits off _
        have on : config.portCfg.enable = true := by
          rw [HwIntfConfig.portCfg_enable]
          exact undisturbed awaits
        exact ⟨by simp [reconfigure, off], on⟩
      · cases turnsOff : netdev.pcfg.enable && !config.portCfg.enable with
        | true =>
            rw [turnsOff, if_pos rfl] at downs
            refine counted_fallen member (by rw [here]; exact netdevs) keeps nextAddress downs
              sound.shaped shaped' ?_ resets sound.counted
            intro target
            simp only [reconfigure, turnsOff, ↓reduceIte]
        | false =>
            rw [turnsOff, if_neg Bool.false_ne_true] at downs
            refine counted_rewritten netdevs keeps nextAddress downs sound.shaped shaped'
              ?_ resets sound.counted
            intro target _ _
            simp only [reconfigure, turnsOff, Bool.false_eq_true, ↓reduceIte]

theorem sound_updateFlags (succeeds : Bool) (address : Nat) (update : FlagsUpdate)
    (running : switch.main = .running) (sound : Sound (switch, history)) :
    Sound (updateFlags succeeds switch address update,
      history.record switch (updateFlags succeeds switch address update)) := by
  obtain ⟨netdevs, downs, samePoll, nextAddress⟩ :=
    updateFlags_frame succeeds switch address update
  refine sound_kept sound netdevs nextAddress downs ?_ ?_
  · intro other _
    rw [running]
    exact nofun
  · rw [samePoll]
    exact attends_of_netdevs netdevs sound.attends

end Calls

/-! ## The poll thread -/

section Polling

variable {switch : Switch count} {history : History}

/-- The poll thread moves on and leaves the netdevs alone. -/
theorem sound_moved {after : Switch count} (sound : Sound (switch, history))
    (netdevs : after.netdevs = switch.netdevs)
    (nextAddress : after.nextAddress = switch.nextAddress)
    (downs : after.downs = switch.downs)
    (main : after.main = switch.main)
    (attends : switch.Attends after.poll) :
    Sound (after, history.record switch after) := by
  refine sound_kept sound netdevs nextAddress downs ?_ (attends_of_netdevs netdevs attends)
  intro other
  rw [main]
  exact id

theorem fromPortNum_mem {port : Nat} {netdev : NetdevXpliant count}
    (found : fromPortNum switch port = some netdev) : netdev ∈ switch.netdevs :=
  List.mem_of_find?_eq_some found

theorem sound_pollSample {port address : Nat} (sound : Sound (switch, history))
    (poll : switch.poll = .found port address) :
    Sound (pollSample switch port address,
      history.record switch (pollSample switch port address)) := by
  have attends := sound.attends
  simp only [poll] at attends
  obtain ⟨netdev, member, here⟩ := attends
  have found := (netdev_eq_some sound.shaped).2 ⟨member, here⟩
  have wellSet := sound.shaped.wellSet netdev member
  unfold pollSample
  simp only [found]
  by_cases waiting : switch.main = .waiting address
  · rw [if_pos waiting]
    exact sound_moved sound rfl rfl rfl rfl sound.attends
  · rw [if_neg waiting]
    by_cases skipped : (!netdev.intfInitialized || !netdev.pcfg.enable) = true
    · rw [if_pos skipped]
      exact sound_moved sound rfl rfl rfl rfl trivial
    · rw [if_neg skipped]
      have looked : netdev.intfInitialized = true ∧ netdev.pcfg.enable = true := by
        simpa using skipped
      obtain ⟨info, known, _⟩ := sound.shaped.located netdev member looked.1
      refine sound_moved sound rfl rfl rfl rfl ⟨by simp [known], netdev, member, here, ?_⟩
      intro down
      exact ⟨down, looked.2⟩

theorem sound_pollRead (outcome : PollOutcome) {port : Nat} {sample : Sample count}
    (sound : Sound (switch, history)) (poll : switch.poll = .sampled port sample) :
    Sound (pollRead outcome switch port sample,
      history.record switch (pollRead outcome switch port sample)) := by
  have attends := sound.attends
  simp only [poll] at attends
  obtain ⟨info, known⟩ := Option.isSome_iff_exists.1 attends.1
  unfold pollRead
  simp only [known]
  split_ifs
  · exact sound_moved sound rfl rfl rfl rfl sound.attends
  · exact sound_moved sound rfl rfl rfl rfl attends
  · exact sound_moved sound rfl rfl rfl rfl attends

/-- A link has come to a netdev that is turned on and had no carrier. -/
theorem sound_linkUp {after : Switch count} {netdev : NetdevXpliant count}
    (sound : Sound (switch, history)) (member : netdev ∈ switch.netdevs)
    (down : netdev.linkStatus = false) (on : netdev.pcfg.enable = true)
    (equation : { linkStateCallback switch netdev true with poll := after.poll } = after)
    (attends : after.Attends after.poll) :
    Sound (after, history.record switch after) := by
  have netdevs : after.netdevs = (switch.modify netdev.address fun netdev =>
      { netdev with linkStatus := true, linkResets := netdev.linkResets + 1 }).netdevs := by
    rw [← equation]
    rfl
  have nextAddress : after.nextAddress = switch.nextAddress := by
    rw [← equation]
    rfl
  have downs : after.downs = switch.downs := by
    rw [← equation]
    rfl
  have main : after.main = switch.main := by
    rw [← equation]
    rfl
  have touches : Touches switch after := equation ▸
    touches_linkStateCallback switch netdev true after.poll
  have shaped' := shaped_rewritten netdevs sound.shaped
    (rooted_touched touches sound.shaped.toRooted) (fun _ => rfl)
    (fun other _ free => main ▸ free)
    (by
      intro target targetMember same
      obtain rfl := List.inj_on_of_nodup_map sound.shaped.nodup targetMember member same
      have wellSet := sound.shaped.wellSet target member
      exact ⟨fun _ => on, wellSet.enabled⟩)
    (by
      intro target targetMember same off free
      rw [main, ← same] at free
      exact sound.shaped.filtered target targetMember off free)
  exact ⟨shaped', attends, counted_risen member down netdevs (fun _ => rfl) nextAddress downs
    sound.shaped shaped' (fun _ => rfl) (fun _ => rfl) sound.counted⟩

/-- A link has gone. -/
theorem sound_linkDown {after : Switch count} {netdev : NetdevXpliant count}
    (sound : Sound (switch, history)) (member : netdev ∈ switch.netdevs)
    (equation : { linkStateCallback switch netdev false with poll := after.poll } = after)
    (attends : after.Attends after.poll) :
    Sound (after, history.record switch after) := by
  have netdevs : after.netdevs =
      (switch.modify netdev.address ({ · with linkStatus := false })).netdevs := by
    rw [← equation]
    rfl
  have nextAddress : after.nextAddress = switch.nextAddress := by
    rw [← equation]
    rfl
  have downs : after.downs = netdev.ifId :: switch.downs := by
    rw [← equation]
    rfl
  have main : after.main = switch.main := by
    rw [← equation]
    rfl
  have touches : Touches switch after := equation ▸
    touches_linkStateCallback switch netdev false after.poll
  have shaped' := shaped_rewritten netdevs sound.shaped
    (rooted_touched touches sound.shaped.toRooted) (fun _ => rfl)
    (fun other _ free => main ▸ free)
    (by
      intro target targetMember _
      have wellSet := sound.shaped.wellSet target targetMember
      exact ⟨nofun, wellSet.enabled⟩)
    (by
      intro target targetMember same off free
      rw [main, ← same] at free
      exact sound.shaped.filtered target targetMember off free)
  exact ⟨shaped', attends, counted_fallen member netdevs (fun _ => rfl) nextAddress downs
    sound.shaped shaped' (fun _ => rfl) (fun _ => rfl) sound.counted⟩

/-- The report of a link.  A link that has come is that of a netdev that was found
without a carrier, so that the netdev is turned on. -/
theorem sound_pollReport {port : Nat} {sample : Sample count}
    (sound : Sound (switch, history)) (poll : switch.poll = .read port sample) :
    Sound (pollReport switch port sample,
      history.record switch (pollReport switch port sample)) := by
  have attends := sound.attends
  simp only [poll] at attends
  obtain ⟨known, netdev, member, here, quiet⟩ := attends
  have found := (netdev_eq_some sound.shaped).2 ⟨member, here⟩
  unfold pollReport
  by_cases same : sample.linkStatus = switch.link
  · rw [if_pos same]
    exact sound_moved sound rfl rfl rfl rfl known
  · rw [if_neg same]
    simp only [found]
    by_cases waiting : switch.main = .waiting sample.address
    · rw [if_pos waiting]
      exact sound_moved sound rfl rfl rfl rfl sound.attends
    · rw [if_neg waiting]
      cases link : switch.link with
      | true =>
          have down : sample.linkStatus = false := by simpa [link] using same
          exact sound_linkUp sound member (quiet down).1 (quiet down).2 rfl known
      | false => exact sound_linkDown sound member rfl known

theorem sound_pollTune (outcome : PollOutcome) {port : Nat} {sample : Sample count}
    (sound : Sound (switch, history)) (poll : switch.poll = .reported port sample) :
    Sound (pollTune outcome switch port sample,
      history.record switch (pollTune outcome switch port sample)) := by
  have attends := sound.attends
  simp only [poll] at attends
  obtain ⟨info, known⟩ := Option.isSome_iff_exists.1 attends
  unfold pollTune
  simp only [known]
  by_cases tuned : switch.serdesTuned info = true
  · rw [if_pos tuned]
    exact sound_moved sound rfl rfl rfl rfl trivial
  · rw [if_neg tuned]
    by_cases locked : switch.ports.locked = true
    · rw [if_pos locked]
      exact sound_moved sound rfl rfl rfl rfl sound.attends
    · rw [if_neg locked]
      exact sound_moved sound rfl rfl rfl rfl trivial

theorem sound_pollStep (outcome : PollOutcome) (sound : Sound (switch, history)) :
    Sound (pollStep outcome switch, history.record switch (pollStep outcome switch)) := by
  unfold pollStep
  cases poll : switch.poll with
  | next port =>
      dsimp only
      cases found : fromPortNum switch port with
      | none => exact sound_moved sound rfl rfl rfl rfl trivial
      | some netdev =>
          exact sound_moved sound rfl rfl rfl rfl ⟨netdev, fromPortNum_mem found, rfl⟩
  | found port address => exact sound_pollSample sound poll
  | sampled port sample => exact sound_pollRead outcome sound poll
  | read port sample => exact sound_pollReport sound poll
  | reported port sample => exact sound_pollTune outcome sound poll

end Polling

/-! ## Every interleaving -/

theorem sound_step (env : Env count) (state : Switch count × History)
    (event : Event count) (sound : Sound state) (undisturbed : Undisturbed state.1 event) :
    Sound (watched env state event) := by
  obtain ⟨switch, history⟩ := state
  have idle : Sound (switch, history.record switch switch) :=
    sound_kept sound rfl rfl rfl (fun _ free => free) sound.attends
  have call : ∀ body : Switch count → Switch count,
      (switch.main = .running → Sound (body switch, history.record switch (body switch))) →
      Sound (switch.call body, history.record switch (switch.call body)) := by
    intro body sound
    unfold Switch.call
    by_cases running : switch.main = .running
    · rw [if_pos running]
      exact sound running
    · rw [if_neg running]
      exact idle
  cases event with
  | construct name =>
      exact call (construct env · name) fun _ => sound_construct env name sound
  | setHwIntfInfo address info outcome =>
      exact call (setHwIntfInfo env · address info outcome) fun _ =>
        sound_setHwIntfInfo env address info outcome sound
  | setHwIntfConfig address config outcome =>
      exact call (setHwIntfConfig env outcome · address config) fun running =>
        sound_setHwIntfConfig env outcome address config running undisturbed sound
  | updateFlags address update succeeds =>
      exact call (updateFlags succeeds · address update) fun running =>
        sound_updateFlags succeeds address update running sound
  | destruct address =>
      exact call (destruct · address) fun _ => sound_destruct undisturbed sound
  | poll outcome =>
      by_cases crashed : switch.main = .crashed
      · simp only [watched, step, if_pos crashed]
        exact idle
      · simp only [watched, step, if_neg crashed]
        exact sound_pollStep outcome sound
  | link port up =>
      exact sound_kept sound rfl rfl rfl (fun _ free => free)
        (attends_of_netdevs rfl sound.attends)

/-- A switch without netdevs, at the start of the poll thread.  What the thread has in
its variable is not known. -/
def Switch.start (ports : Ports count) (serdesTuned hwLink : Fin count → Bool)
    (link : Bool) : Switch count where
  netdevs := []
  nextAddress := 0
  ports := ports
  serdesTuned := serdesTuned
  hwLink := hwLink
  policed := fun _ => false
  downs := []
  main := .running
  poll := .next 0
  link := link

/-- The start of a history. -/
def History.start : History where
  rises := fun _ => 0
  falls := []

theorem sound_start (ports : Ports count) (serdesTuned hwLink : Fin count → Bool)
    (link : Bool) : Sound (Switch.start ports serdesTuned hwLink link, History.start) where
  shaped := by refine ⟨⟨?_, ?_, ?_⟩, ?_, ?_⟩ <;> simp [Switch.start]
  attends := trivial
  counted := by constructor <;> simp [Switch.start, History.start]

/-- In every interleaving of the calls with the poll thread in which no netdev is turned
off after the poll thread has found it without a carrier, and none is destroyed while the
poll thread works on it, a netdev with a carrier is set up and turned on, `link_resets`
counts how often the carrier has come, MAC learning was told of each carrier that went, in
their order, and a netdev that is turned off has no host filter unless its configuration
waits for the lock of the XDK. -/
theorem carriers_of_reached {env : Env count} {state : Switch count × History}
    (reached : Transition.Reach
      (fun initial => ∃ ports serdesTuned hwLink link,
        initial = (Switch.start ports serdesTuned hwLink link, History.start))
      (fun state event => Undisturbed state.1 event) (watched env) state) :
    (∀ netdev ∈ state.1.netdevs,
      (netdev.linkStatus = true →
        netdev.intfInitialized = true ∧ netdev.pcfg.enable = true) ∧
      netdev.linkResets = state.2.rises netdev.address ∧
      (netdev.pcfg.enable = false → state.1.main ≠ .waiting netdev.address →
        netdev.xpnetPortFilterId = 0)) ∧
    state.2.falls.Sublist state.1.downs := by
  have sound : Sound state := by
    refine Transition.Reach.invariant Sound ?_ (sound_step env) reached
    rintro initial ⟨ports, serdesTuned, hwLink, link, rfl⟩
    exact sound_start ports serdesTuned hwLink link
  refine ⟨?_, sound.counted.reported⟩
  intro netdev member
  have wellSet := sound.shaped.wellSet netdev member
  refine ⟨?_, sound.counted.resets netdev member, sound.shaped.filtered netdev member⟩
  intro carrier
  have on := wellSet.carrier carrier
  exact ⟨wellSet.enabled on, on⟩

/-- A netdev is set up and turned on and gets a carrier.  It is then turned off while the
poll thread, which has found the carrier, asks for a link that has gone. -/
def cableRun : List (Event 2) :=
  let poll : Event 2 := .poll ⟨true, true⟩
  [.construct "1", .setHwIntfInfo 0 ⟨0, 0, false, none⟩ ⟨some 7, true, some 3⟩,
    .setHwIntfConfig 0 (sampleConfig true) sampleOutcome, .link firstPort true,
    poll, poll, poll, poll, poll, poll, .link firstPort false, poll, poll,
    .setHwIntfConfig 0 (sampleConfig false) sampleOutcome, poll, poll]

/-- The switch before the run. -/
def sampleStart : Switch 2 × History :=
  (Switch.start samplePorts (fun _ => false) (fun _ => false) true, History.start)

theorem carriers_cableRun :
    let state := Transition.run (watched sampleEnv) sampleStart cableRun
    (state.1.netdevs.map (·.linkResets) = [1] ∧ state.1.downs = [7, 7]) ∧
    (∀ netdev ∈ state.1.netdevs,
      (netdev.linkStatus = true →
        netdev.intfInitialized = true ∧ netdev.pcfg.enable = true) ∧
      netdev.linkResets = state.2.rises netdev.address ∧
      (netdev.pcfg.enable = false → state.1.main ≠ .waiting netdev.address →
        netdev.xpnetPortFilterId = 0)) ∧
    state.2.falls.Sublist state.1.downs := by
  have guarded : Transition.Guarded (fun state event => Undisturbed state.1 event)
      (watched sampleEnv) sampleStart cableRun := by
    refine ⟨trivial, trivial, fun _ => rfl, trivial, trivial, trivial, trivial, trivial,
      trivial, trivial, trivial, trivial, trivial, ?_, trivial, trivial, trivial⟩
    rintro ⟨_, down⟩
    exact absurd down (by decide)
  exact ⟨⟨by decide, by decide⟩, carriers_of_reached
    (.of_run (.start ⟨samplePorts, fun _ => false, fun _ => false, true, rfl⟩) guarded)⟩

end Netdev
end XpliantSwitchd
