import XpliantSwitchd.Netdev.Calls
import XpliantSwitchd.Lib.Transition
import Mathlib.Data.List.Nodup

/-!
# A pass of the poll thread

While nothing else happens, a pass of the poll thread over all ports gives each netdev
that it looks at the link of its port.  A link that the XDK does not tell is taken to be
that of the port that was asked for before it.
-/

namespace XpliantSwitchd
namespace Netdev

open PortMacMode

variable {count : Nat}

/-! ## The pass -/

/-- A visit of the port at which the poll thread is: its steps up to the next port.  They
are at most five. -/
def visit (env : Env count) (outcome : PollOutcome) : Nat → Switch count → Switch count
  | 0, switch => switch
  | fuel + 1, switch =>
      match (step env switch (.poll outcome)).poll with
      | .next _ => step env switch (.poll outcome)
      | _ => visit env outcome fuel (step env switch (.poll outcome))

/-- A pass over all ports, with the answers for each port. -/
def pollPass (env : Env count) (outcomes : Nat → PollOutcome) (switch : Switch count) :
    Switch count :=
  (List.range count).foldl (fun switch port => visit env (outcomes port) 5 switch) switch

/-! ## What a pass comes to -/

/-- The netdev that the poll thread looks at for a port. -/
def polledNetdev (switch : Switch count) (port : Nat) : Option (NetdevXpliant count) :=
  (fromPortNum switch port).filter fun netdev =>
    netdev.intfInitialized && netdev.pcfg.enable

/-- The variable of the poll thread after the ports below a bound: the last link that the
XDK has told. -/
def lastLink (switch : Switch count) (outcomes : Nat → PollOutcome) : Nat → Bool
  | 0 => switch.link
  | port + 1 =>
      match (polledNetdev switch port).bind (·.portInfo) with
      | none => lastLink switch outcomes port
      | some info =>
          if (outcomes port).linkStatus then switch.hwLink info
          else lastLink switch outcomes port

/-- A netdev with a link.  A link that comes is counted. -/
def NetdevXpliant.withLink (netdev : NetdevXpliant count) (link : Bool) :
    NetdevXpliant count :=
  { netdev with
    linkStatus := link
    linkResets := if !netdev.linkStatus && link then netdev.linkResets + 1
      else netdev.linkResets }

/-- A netdev after the ports below a bound. -/
def settled (switch : Switch count) (outcomes : Nat → PollOutcome) (bound : Nat)
    (netdev : NetdevXpliant count) : NetdevXpliant count :=
  if netdev.portNum < bound ∧
      (polledNetdev switch netdev.portNum).map (·.address) = some netdev.address then
    netdev.withLink (lastLink switch outcomes (netdev.portNum + 1))
  else netdev

/-- The interfaces that MAC learning is told about for the ports below a bound. -/
def lostBelow (switch : Switch count) (outcomes : Nat → PollOutcome) : Nat → List Nat
  | 0 => []
  | port + 1 =>
      ((polledNetdev switch port).filter fun netdev =>
        netdev.linkStatus && !lastLink switch outcomes (port + 1)).toList.map (·.ifId) ++
      lostBelow switch outcomes port

/-! ## A visit -/

section Visit

variable {switch : Switch count} {port : Nat}

theorem netdev_of_fromPortNum (rooted : switch.Rooted) {netdev : NetdevXpliant count}
    (found : fromPortNum switch port = some netdev) :
    switch.netdev netdev.address = some netdev :=
  (KeyedList.find?_key_eq_some rooted.nodup).2 ⟨List.mem_of_find?_eq_some found, rfl⟩

theorem pollSample_of_off {address : Nat} {netdev : NetdevXpliant count}
    (lookup : switch.netdev address = some netdev) (running : switch.main = .running)
    (off : (netdev.intfInitialized && netdev.pcfg.enable) = false) :
    pollSample switch port address = switch.advance port := by
  have skipped : (!netdev.intfInitialized || !netdev.pcfg.enable) = true := by
    rw [← Bool.not_and, off]
    rfl
  simp [pollSample, lookup, running, skipped]

theorem pollSample_of_on {address : Nat} {netdev : NetdevXpliant count}
    (lookup : switch.netdev address = some netdev) (running : switch.main = .running)
    (on : (netdev.intfInitialized && netdev.pcfg.enable) = true) :
    pollSample switch port address =
      { switch with poll := .sampled port ⟨address, netdev.linkStatus, netdev.portInfo⟩ } := by
  have taken : (!netdev.intfInitialized || !netdev.pcfg.enable) = false := by
    rw [← Bool.not_and, on]
    rfl
  simp [pollSample, lookup, running, taken]

theorem pollReport_of_running {sample : Sample count} {netdev : NetdevXpliant count}
    (lookup : switch.netdev sample.address = some netdev)
    (running : switch.main = .running) :
    pollReport switch port sample =
      { (if sample.linkStatus = switch.link then switch
          else linkStateCallback switch netdev switch.link) with
        poll := .reported port sample } := by
  by_cases same : sample.linkStatus = switch.link
  · simp [pollReport, same]
  · simp [pollReport, same, lookup, running]

theorem pollTune_eq (outcome : PollOutcome) {sample : Sample count} {info : Fin count}
    (known : sample.portInfo = some info) (unlocked : switch.ports.locked = false) :
    ∃ serdesTuned, pollTune outcome switch port sample =
      { switch.advance port with serdesTuned := serdesTuned } := by
  by_cases tuned : switch.serdesTuned info = true
  · exact ⟨switch.serdesTuned, by simp [pollTune, known, tuned, Switch.advance]⟩
  · exact ⟨_, by simp only [pollTune, known, tuned, unlocked, Bool.false_eq_true,
      ↓reduceIte]; rfl⟩

theorem step_poll (env : Env count) (outcome : PollOutcome)
    (running : switch.main = .running) :
    step env switch (.poll outcome) = pollStep outcome switch := by
  simp [step, running]

/-- A port without a netdev that is turned on is left at once. -/
theorem visit_of_none (env : Env count) (outcome : PollOutcome) (rooted : switch.Rooted)
    (running : switch.main = .running) (next : switch.poll = .next port)
    (none : polledNetdev switch port = none) :
    visit env outcome 5 switch = switch.advance port := by
  cases found : fromPortNum switch port with
  | none =>
      have first : step env switch (.poll outcome) = switch.advance port := by
        simp only [step_poll env outcome running, pollStep, next, found]
      simp only [visit, first]
      rfl
  | some netdev =>
      have off : (netdev.intfInitialized && netdev.pcfg.enable) = false := by
        rw [polledNetdev, found, Option.filter_eq_none_iff] at none
        simpa using none netdev rfl
      have first : step env switch (.poll outcome) =
          { switch with poll := .found port netdev.address } := by
        simp only [step_poll env outcome running, pollStep, next, found]
      have second : step env { switch with poll := .found port netdev.address }
          (.poll outcome) = switch.advance port := by
        rw [step_poll env outcome (by exact running)]
        exact @pollSample_of_off _ { switch with poll := .found port netdev.address } port _ _
          (netdev_of_fromPortNum rooted found) running off
      simp only [visit, first, second]
      rfl

/-- The write of a link when it is another one. -/
def writeLink (switch : Switch count) (netdev : NetdevXpliant count) (link : Bool) :
    Switch count :=
  if netdev.linkStatus = link then switch else linkStateCallback switch netdev link

/-- What the write of a link does not touch. -/
theorem writeLink_frame (switch : Switch count) (netdev : NetdevXpliant count) (link : Bool) :
    (writeLink switch netdev link).ports = switch.ports ∧
      (writeLink switch netdev link).hwLink = switch.hwLink ∧
      (writeLink switch netdev link).main = switch.main ∧
      (writeLink switch netdev link).nextAddress = switch.nextAddress := by
  unfold writeLink
  cases netdev.linkStatus <;> cases link <;> exact ⟨rfl, rfl, rfl, rfl⟩

/-- A port with a netdev that is turned on: the link that was told is written. -/
theorem visit_of_some (env : Env count) (outcome : PollOutcome) (rooted : switch.Rooted)
    (running : switch.main = .running) (unlocked : switch.ports.locked = false)
    (next : switch.poll = .next port) {netdev : NetdevXpliant count}
    (polled : polledNetdev switch port = some netdev) {info : Fin count}
    (known : netdev.portInfo = some info) {link : Bool}
    (told : link = if outcome.linkStatus then switch.hwLink info else switch.link) :
    ∃ serdesTuned, visit env outcome 5 switch =
      { (writeLink switch netdev link).advance port with
        link := link, serdesTuned := serdesTuned } := by
  obtain ⟨found, on⟩ := Option.filter_eq_some_iff.1 polled
  have lookup := netdev_of_fromPortNum rooted found
  obtain ⟨ports, _, main, _⟩ := writeLink_frame switch netdev link
  let sample : Sample count := ⟨netdev.address, netdev.linkStatus, netdev.portInfo⟩
  have first : step env switch (.poll outcome) =
      { switch with poll := .found port netdev.address } := by
    simp only [step_poll env outcome running, pollStep, next, found]
  have second : step env { switch with poll := .found port netdev.address }
      (.poll outcome) = { switch with poll := .sampled port sample } := by
    rw [step_poll env outcome (by exact running)]
    exact @pollSample_of_on _ { switch with poll := .found port netdev.address } port _ _ lookup
      running on
  have third : step env { switch with poll := .sampled port sample } (.poll outcome) =
      { switch with link := link, poll := .read port sample } := by
    rw [step_poll env outcome (by exact running)]
    simp only [pollStep, pollRead, sample, known, unlocked, told, Bool.false_eq_true,
      ↓reduceIte]
  have fourth : step env { switch with link := link, poll := .read port sample }
      (.poll outcome) =
      { writeLink switch netdev link with link := link, poll := .reported port sample } := by
    rw [step_poll env outcome (by exact running)]
    refine (@pollReport_of_running _ { switch with link := link, poll := .read port sample }
      port sample netdev lookup running).trans ?_
    unfold writeLink
    by_cases same : netdev.linkStatus = link
    · simp [sample, same]
    · simp only [sample, if_neg same]
      cases link <;> rfl
  obtain ⟨serdesTuned, tuned⟩ := @pollTune_eq _
    { writeLink switch netdev link with link := link, poll := .reported port sample }
    port outcome sample info known (ports ▸ unlocked)
  have fifth : step env
      { writeLink switch netdev link with link := link, poll := .reported port sample }
      (.poll outcome) =
      { (writeLink switch netdev link).advance port with
        link := link, serdesTuned := serdesTuned } := by
    rw [step_poll env outcome (by exact main.trans running)]
    exact tuned
  refine ⟨serdesTuned, ?_⟩
  simp only [visit, first, second, third, fourth, fifth]
  rfl

/-- A visit is a run of the poll thread. -/
theorem visit_run (env : Env count) (outcome : PollOutcome) (fuel : Nat) :
    ∃ steps, visit env outcome fuel switch =
      Transition.run (step env) switch (List.replicate steps (.poll outcome)) := by
  induction fuel generalizing switch with
  | zero => exact ⟨0, rfl⟩
  | succ fuel inductionHypothesis =>
      obtain ⟨steps, equation⟩ := @inductionHypothesis (step env switch (.poll outcome))
      cases moved : (step env switch (.poll outcome)).poll with
      | next _ => exact ⟨1, by simp [visit, moved]⟩
      | found _ _ | sampled _ _ | read _ _ | reported _ _ =>
          refine ⟨steps + 1, ?_⟩
          simp only [visit, moved, equation, List.replicate_succ, Transition.run_cons]

end Visit

/-! ## The pass and its result -/

theorem withLink_self {netdev : NetdevXpliant count} {link : Bool}
    (same : netdev.linkStatus = link) : netdev.withLink link = netdev := by
  subst same
  cases netdev with
  | mk => simp [NetdevXpliant.withLink]

theorem writeLink_netdevs {switch : Switch count} (rooted : switch.Rooted)
    {netdev : NetdevXpliant count} (member : netdev ∈ switch.netdevs) (link : Bool) :
    (writeLink switch netdev link).netdevs =
      KeyedList.rewrite NetdevXpliant.address netdev.address (·.withLink link)
        switch.netdevs := by
  have only : ∀ other ∈ switch.netdevs, other.address = netdev.address → other = netdev :=
    fun other otherMember => List.inj_on_of_nodup_map rooted.nodup otherMember member
  have written : (writeLink switch netdev link).netdevs = switch.netdevs.map fun other =>
      if other.address = netdev.address then netdev.withLink link else other := by
    unfold writeLink
    by_cases same : netdev.linkStatus = link
    · rw [if_pos same, withLink_self same]
      symm
      apply (List.map_congr_left _).trans (List.map_id _)
      intro other otherMember
      by_cases here : other.address = netdev.address
      · simp [only other otherMember here]
      · simp [here]
    · rw [if_neg same]
      cases link with
      | true =>
          have down : netdev.linkStatus = false := by simpa using same
          simp only [linkStateCallback, Switch.modify, KeyedList.rewrite, ↓reduceIte]
          apply List.map_congr_left
          intro other otherMember
          by_cases here : other.address = netdev.address
          · simp [only other otherMember here, NetdevXpliant.withLink, down]
          · simp [here]
      | false =>
          simp only [linkStateCallback, Switch.modify, KeyedList.rewrite, Bool.false_eq_true,
            ↓reduceIte]
          apply List.map_congr_left
          intro other otherMember
          by_cases here : other.address = netdev.address
          · simp [only other otherMember here, NetdevXpliant.withLink]
          · simp [here]
  rw [written]
  unfold KeyedList.rewrite
  apply List.map_congr_left
  intro other otherMember
  by_cases here : other.address = netdev.address
  · simp [only other otherMember here]
  · simp [here]

theorem writeLink_downs (switch : Switch count) (netdev : NetdevXpliant count) (link : Bool) :
    (writeLink switch netdev link).downs =
      (if netdev.linkStatus && !link then [netdev.ifId] else []) ++ switch.downs := by
  unfold writeLink
  cases netdev.linkStatus <;> cases link <;> rfl

section Pass

variable (switch : Switch count) (outcomes : Nat → PollOutcome)

/-- The state after the ports below a bound. -/
structure Passed (bound : Nat) (state : Switch count) : Prop where
  netdevs : state.netdevs = switch.netdevs.map (settled switch outcomes bound)
  nextAddress : state.nextAddress = switch.nextAddress
  link : state.link = lastLink switch outcomes bound
  downs : state.downs = lostBelow switch outcomes bound ++ switch.downs
  ports : state.ports = switch.ports
  hwLink : state.hwLink = switch.hwLink
  main : state.main = switch.main
  poll : state.poll = .next (if bound < count then bound else 0)

variable {switch outcomes}

theorem settled_eq (bound : Nat) (netdev : NetdevXpliant count) :
    ∃ link resets, settled switch outcomes bound netdev =
      { netdev with linkStatus := link, linkResets := resets } := by
  unfold settled
  split_ifs
  · exact ⟨_, _, rfl⟩
  · exact ⟨netdev.linkStatus, netdev.linkResets, rfl⟩

@[simp] theorem settled_address (bound : Nat) (netdev : NetdevXpliant count) :
    (settled switch outcomes bound netdev).address = netdev.address := by
  obtain ⟨link, resets, equation⟩ := @settled_eq count switch outcomes bound netdev
  rw [equation]

theorem settled_zero : settled switch outcomes 0 = id := by
  funext netdev
  simp [settled]

theorem standsFor_settled {state : Switch count} {bound port : Nat}
    (ports : state.ports = switch.ports) (netdev : NetdevXpliant count) :
    standsFor state port (settled switch outcomes bound netdev) =
      standsFor switch port netdev := by
  obtain ⟨link, resets, equation⟩ := @settled_eq count switch outcomes bound netdev
  rw [equation]
  simp [standsFor, ports]

theorem passed_rooted {bound : Nat} {state : Switch count} (rooted : switch.Rooted)
    (passed : Passed switch outcomes bound state) : state.Rooted where
  nodup := by
    rw [passed.netdevs, List.map_map]
    rw [show (·.address) ∘ settled switch outcomes bound = (·.address) from
      funext fun netdev => settled_address bound netdev]
    exact rooted.nodup
  fresh := by
    intro netdev member
    rw [passed.netdevs] at member
    obtain ⟨old, oldMember, rfl⟩ := List.mem_map.1 member
    rw [settled_address, passed.nextAddress]
    exact rooted.fresh old oldMember
  located := by
    intro netdev member
    rw [passed.netdevs] at member
    obtain ⟨old, oldMember, rfl⟩ := List.mem_map.1 member
    obtain ⟨link, resets, equation⟩ := @settled_eq count switch outcomes bound old
    rw [equation]
    exact rooted.located old oldMember

theorem portNum_of_polled {port : Nat} {netdev : NetdevXpliant count}
    (polled : polledNetdev switch port = some netdev) :
    netdev ∈ switch.netdevs ∧ netdev.portNum = port ∧ netdev.intfInitialized = true := by
  obtain ⟨found, looked⟩ := Option.filter_eq_some_iff.1 polled
  have stands := List.find?_some found
  simp only [standsFor, Bool.and_eq_true, beq_iff_eq] at stands looked
  exact ⟨List.mem_of_find?_eq_some found, stands.1.2, looked.1⟩

/-- The visit of a port finds what was there before the pass. -/
theorem polledNetdev_passed {bound : Nat} {state : Switch count}
    (passed : Passed switch outcomes bound state) :
    polledNetdev state bound = polledNetdev switch bound := by
  have found : fromPortNum state bound = fromPortNum switch bound := by
    unfold fromPortNum
    rw [passed.netdevs, List.find?_map]
    rw [show standsFor state bound ∘ settled switch outcomes bound = standsFor switch bound
      from funext (standsFor_settled passed.ports)]
    cases first : switch.netdevs.find? (standsFor switch bound) with
    | none => rfl
    | some netdev =>
        have stands := List.find?_some first
        simp only [standsFor, Bool.and_eq_true, beq_iff_eq] at stands
        simp [settled, stands.1.2]
  unfold polledNetdev
  rw [found]

/-- The netdev of the next port gets its link, and the others stay. -/
theorem map_settled_succ {bound : Nat} {netdev : NetdevXpliant count}
    (rooted : switch.Rooted) (polled : polledNetdev switch bound = some netdev) :
    switch.netdevs.map (settled switch outcomes (bound + 1)) =
      KeyedList.rewrite NetdevXpliant.address netdev.address
        (·.withLink (lastLink switch outcomes (bound + 1)))
        (switch.netdevs.map (settled switch outcomes bound)) := by
  obtain ⟨member, here, _⟩ := portNum_of_polled polled
  unfold KeyedList.rewrite
  rw [List.map_map]
  apply List.map_congr_left
  intro other otherMember
  simp only [Function.comp_apply, settled_address]
  by_cases same : other.address = netdev.address
  · obtain rfl := List.inj_on_of_nodup_map rooted.nodup otherMember member same
    simp [settled, here, polled]
  · rw [if_neg same]
    unfold settled
    by_cases port : other.portNum = bound
    · have different : netdev.address ≠ other.address := fun equal => same equal.symm
      simp [port, polled, different]
    · have bounds : other.portNum < bound + 1 ↔ other.portNum < bound := by omega
      simp only [bounds]

theorem map_settled_of_none {bound : Nat} (none : polledNetdev switch bound = none) :
    switch.netdevs.map (settled switch outcomes (bound + 1)) =
      switch.netdevs.map (settled switch outcomes bound) := by
  apply List.map_congr_left
  intro other _
  unfold settled
  by_cases port : other.portNum = bound
  · simp [port, none]
  · have bounds : other.portNum < bound + 1 ↔ other.portNum < bound := by omega
    simp only [bounds]

theorem passed_visit (env : Env count) {bound : Nat} {state : Switch count}
    (rooted : switch.Rooted) (running : switch.main = .running)
    (unlocked : switch.ports.locked = false) (inside : bound < count)
    (passed : Passed switch outcomes bound state) :
    Passed switch outcomes (bound + 1) (visit env (outcomes bound) 5 state) := by
  have rooted' := passed_rooted rooted passed
  have next : state.poll = .next bound := by
    rw [passed.poll, if_pos inside]
  cases polled : polledNetdev switch bound with
  | none =>
      rw [visit_of_none env (outcomes bound) rooted' (passed.main.trans running) next
        ((polledNetdev_passed passed).trans polled)]
      exact
        { netdevs := passed.netdevs.trans (map_settled_of_none polled).symm
          nextAddress := passed.nextAddress
          link := by simp [lastLink, polled, Switch.advance, passed.link]
          downs := by simp [lostBelow, polled, Switch.advance, passed.downs]
          ports := passed.ports
          hwLink := passed.hwLink
          main := passed.main
          poll := rfl }
  | some netdev =>
      obtain ⟨member, _, initialized⟩ := portNum_of_polled polled
      obtain ⟨info, known, _⟩ := rooted.located netdev member initialized
      have polled' := (polledNetdev_passed passed).trans polled
      have told : lastLink switch outcomes (bound + 1) =
          if (outcomes bound).linkStatus then state.hwLink info else state.link := by
        rw [passed.hwLink, passed.link]
        simp [lastLink, polled, known]
      obtain ⟨serdesTuned, equation⟩ := visit_of_some env (outcomes bound) rooted'
        (passed.main.trans running) (passed.ports ▸ unlocked) next polled' known told
      obtain ⟨ports, hwLink, main, nextAddress⟩ :=
        writeLink_frame state netdev (lastLink switch outcomes (bound + 1))
      have netdevs := writeLink_netdevs rooted' (portNum_of_polled polled').1
        (lastLink switch outcomes (bound + 1))
      rw [equation]
      exact
        { netdevs := by
            rw [map_settled_succ rooted polled, ← passed.netdevs]
            exact netdevs
          nextAddress := nextAddress.trans passed.nextAddress
          link := rfl
          downs := by
            refine (writeLink_downs state netdev _).trans ?_
            rw [passed.downs, ← List.append_assoc]
            congr 1
            simp only [lostBelow, polled]
            cases down : netdev.linkStatus <;>
              cases lastLink switch outcomes (bound + 1) <;> simp [Option.filter, down]
          ports := ports.trans passed.ports
          hwLink := hwLink.trans passed.hwLink
          main := main.trans passed.main
          poll := rfl }

theorem passed_range (env : Env count) (rooted : switch.Rooted)
    (running : switch.main = .running) (unlocked : switch.ports.locked = false)
    (ready : switch.poll = .next 0) (bound : Nat) (inside : bound ≤ count) :
    Passed switch outcomes bound
      ((List.range bound).foldl (fun state port => visit env (outcomes port) 5 state)
        switch) := by
  induction bound with
  | zero =>
      exact
        { netdevs := by simp [settled_zero]
          nextAddress := rfl
          link := rfl
          downs := rfl
          ports := rfl
          hwLink := rfl
          main := rfl
          poll := by simp [ready] }
  | succ bound inductionHypothesis =>
      rw [List.range_succ, List.foldl_append]
      exact passed_visit env rooted running unlocked inside
        (inductionHypothesis (Nat.le_of_succ_le inside))

end Pass

/-- A pass is a run of the poll thread. -/
theorem pollPass_run (env : Env count) (outcomes : Nat → PollOutcome)
    (switch : Switch count) :
    ∃ answers : List PollOutcome,
      pollPass env outcomes switch = Transition.run (step env) switch (answers.map .poll) := by
  unfold pollPass
  generalize List.range count = ports
  induction ports generalizing switch with
  | nil => exact ⟨[], rfl⟩
  | cons port ports inductionHypothesis =>
      obtain ⟨steps, visited⟩ := @visit_run _ switch env (outcomes port) 5
      obtain ⟨answers, equation⟩ := inductionHypothesis (visit env (outcomes port) 5 switch)
      refine ⟨List.replicate steps (outcomes port) ++ answers, ?_⟩
      rw [List.foldl_cons, equation, visited, List.map_append, List.map_replicate]
      exact (List.foldl_append ..).symm

/-- In every state that the calls and the poll thread reach, while the lock of the XDK is
free, the thread of the calls does not wait and the poll thread is at the start of its loop,
a pass with nothing in between gives each netdev that is looked at the last link that was
told up to its port, which is that of its own port when the XDK tells it, counts the links
that came, tells MAC learning of those that went, in the order of the ports, and leaves the
other netdevs alone. -/
theorem settles_of_reached {env : Env count} {switch : Switch count}
    (reached : Transition.Reach (fun initial => initial.netdevs = []) (fun _ _ => True)
      (step env) switch)
    (outcomes : Nat → PollOutcome) (ready : switch.poll = .next 0)
    (running : switch.main = .running) (unlocked : switch.ports.locked = false) :
    (∃ answers : List PollOutcome,
      pollPass env outcomes switch = Transition.run (step env) switch (answers.map .poll)) ∧
    (pollPass env outcomes switch).poll = .next 0 ∧
    (pollPass env outcomes switch).netdevs =
      switch.netdevs.map (settled switch outcomes count) ∧
    (pollPass env outcomes switch).downs =
      lostBelow switch outcomes count ++ switch.downs ∧
    ∀ port netdev, polledNetdev switch port = some netdev →
      (outcomes port).linkStatus = true →
      ∃ info : Fin count, (info : Nat) = port ∧
        (settled switch outcomes count netdev).linkStatus = switch.hwLink info := by
  have rooted : switch.Rooted := by
    refine Transition.Reach.invariant Switch.Rooted ?_ ?_ reached
    · intro initial empty
      constructor <;> simp [empty]
    · intro before event rooted _
      exact rooted_touched (touches_step env before event) rooted
  have passed := @passed_range count switch outcomes env rooted running unlocked ready count
    (Nat.le_refl count)
  refine ⟨pollPass_run env outcomes switch, ?_, passed.netdevs, passed.downs, ?_⟩
  · exact passed.poll.trans (by simp)
  · intro port netdev polled answered
    obtain ⟨member, here, initialized⟩ := portNum_of_polled polled
    obtain ⟨info, known, place⟩ := rooted.located netdev member initialized
    refine ⟨info, place.trans here, ?_⟩
    have inside : port < count := here ▸ place ▸ info.isLt
    simp [settled, inside, here, polled, lastLink, known, answered,
      NetdevXpliant.withLink]

/-- Two netdevs that are turned on, with a cable in the first port alone. -/
def cabledRun : List (Event 2) :=
  [.construct "1", .setHwIntfInfo 0 ⟨0, 0, false, none⟩ ⟨some 7, true, some 3⟩,
    .setHwIntfConfig 0 (sampleConfig true) sampleOutcome,
    .construct "2", .setHwIntfInfo 1 ⟨0, 1, false, none⟩ ⟨some 8, true, some 4⟩,
    .setHwIntfConfig 1 (sampleConfig true) sampleOutcome, .link firstPort true]

/-- The device before the run. -/
def cabledStart : Switch 2 where
  netdevs := []
  nextAddress := 0
  ports := samplePorts
  serdesTuned := fun _ => true
  hwLink := fun _ => false
  policed := fun _ => false
  downs := []
  main := .running
  poll := .next 0
  link := false

/-- The XDK does not tell the link of the second port, which gets that of the first. -/
theorem settles_cabledRun :
    let switch := Transition.run (step sampleEnv) cabledStart cabledRun
    let outcomes (port : Nat) : PollOutcome := ⟨port == 0, true⟩
    (pollPass sampleEnv outcomes switch).netdevs.map (·.linkStatus) = [true, true] ∧
    (∃ answers : List PollOutcome, pollPass sampleEnv outcomes switch =
      Transition.run (step sampleEnv) switch (answers.map .poll)) ∧
    (pollPass sampleEnv outcomes switch).poll = .next 0 ∧
    (pollPass sampleEnv outcomes switch).netdevs =
      switch.netdevs.map (settled switch outcomes 2) ∧
    (pollPass sampleEnv outcomes switch).downs =
      lostBelow switch outcomes 2 ++ switch.downs ∧
    ∀ port netdev, polledNetdev switch port = some netdev →
      (outcomes port).linkStatus = true →
      ∃ info : Fin 2, (info : Nat) = port ∧
        (settled switch outcomes 2 netdev).linkStatus = switch.hwLink info := by
  have guarded : Transition.Guarded (fun _ _ => True) (step sampleEnv) cabledStart
      cabledRun := by
    simp [cabledRun, Transition.Guarded]
  have start : Transition.Reach (fun initial : Switch 2 => initial.netdevs = [])
      (fun _ _ => True) (step sampleEnv) cabledStart := .start rfl
  refine ⟨by decide, ?_⟩
  exact settles_of_reached (start.of_run guarded) _ rfl rfl rfl

end Netdev
end XpliantSwitchd
